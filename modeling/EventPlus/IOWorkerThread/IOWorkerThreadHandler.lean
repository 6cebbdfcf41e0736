/-
Module: EventPlus.IOWorkerThread.IOWorkerThreadHandler
Purpose: `IOWorkerThreadHandler` over its pool: events handed in before
  `setTaskFunction` go round through the pool, and none is lost or run twice.
Trusted boundary: none
Main exports:
  TaskFunction, PendingEvent, IOWorkerThreadHandler, HandlerAction,
  workerThreadHandler,
  IOWorkerThreadHandler.pending, events_conserved, events_executed
-/
import EventPlus.Library.Progress
import EventPlus.Library.Slots
import EventPlus.Library.Workload
import EventPlus.Library.WorkQueue
import EventPlus.ThreadPool.Pool

namespace EventPlus

open Function (update)

/-!
The constructor binds `m_taskFunction` to the handler's own `handleIOEvent`, so
a worker that executes an event before `setTaskFunction` hands it in again.
`handleIOEvent` copies `m_taskFunction` and then puts the event into the pool
with the copy; another thread may call `setTaskFunction` in between.

A copy or an assignment of `m_taskFunction` lasts from one step to a later one.
The source has no lock for them and leaves it to the callers to keep an
assignment apart from every other access.  One that overlaps another access is
a data race, which has no defined result, and no step here begins it.  The pool
is taken as the work queue it is, as long as it is not destroyed.
-/

/-- A value of `m_taskFunction`: the default of the constructor, or a function
given to `setTaskFunction`. -/
inductive TaskFunction (φ : Type) where
  | handleIOEvent
  | given (function : φ)
deriving Repr, DecidableEq

/-- The threads that call `handleIOEvent`. -/
inductive HandlerThread where
  | outside (caller : ThreadPool.CallerId)
  | worker (worker : WorkerId)
deriving Repr, DecidableEq

/-- An event that is not executed yet: while `m_taskFunction` is copied for it,
and with the copy. -/
inductive PendingEvent (π φ : Type) where
  | copying (eventStorePointer : π)
  | copied (task : ThreadPool.Task π (TaskFunction φ))
deriving Repr, DecidableEq

def PendingEvent.eventStorePointer {π φ : Type} : PendingEvent π φ → π
  | .copying eventStorePointer => eventStorePointer
  | .copied task => task.eventStorePointer

def PendingEvent.isCopying {π φ : Type} : PendingEvent π φ → Bool
  | .copying _ => true
  | .copied _ => false

/-- `m_taskFunction` and `m_threadPool`, for each thread inside `handleIOEvent`
its event, and the argument of a `setTaskFunction` at its assignment.  An empty
`std::function` is `none`.  `handedIn`, `executed` and `functions` are
histories: the events of outside callers, what was executed for them, and what
`m_taskFunction` has been assigned. -/
structure IOWorkerThreadHandler (π φ : Type) where
  taskFunction : Option (TaskFunction φ)
  assigning : Option (Option φ)
  threadPool : WorkQueue WorkerId (ThreadPool.Task π (TaskFunction φ))
  calls : HandlerThread → Option (PendingEvent π φ)
  handedIn : List π
  executed : List (π × Option φ)
  functions : List (Option φ)

/-- What the threads do: `handleIOEvent` from its call to the beginning of the
copy, the copy's end, and its `enqueueTask`; the beginning and the end of the
assignment in `setTaskFunction`; and the worker's pop, the call of the task's
function, and its return. -/
inductive HandlerAction (π φ : Type) where
  | handleIOEvent (caller : ThreadPool.CallerId) (eventStorePointer : π)
  | copied (thread : HandlerThread)
  | enqueueTask (thread : HandlerThread)
  | setTaskFunction (taskFunction : Option φ)
  | assigned
  | take (worker : WorkerId)
  | execute (worker : WorkerId)
  | finish (worker : WorkerId)
deriving Repr, DecidableEq

namespace IOWorkerThreadHandler

variable {π φ : Type}

/-- The threads that may be inside `handleIOEvent`. -/
def threads (numThreads numCallers : Nat) : List HandlerThread :=
  (List.range numThreads).map .worker ++
    (List.range numCallers).map .outside

/-- Some thread is making its copy of `m_taskFunction`. -/
def beingCopied (numThreads numCallers : Nat)
    (handler : IOWorkerThreadHandler π φ) : Bool :=
  (threads numThreads numCallers).any fun thread =>
    (handler.calls thread).any PendingEvent.isCopying

/-- `IOTask::execute`, up to where the function begins to copy
`m_taskFunction`, if it is the default. -/
def execute (handler : IOWorkerThreadHandler π φ) (worker : WorkerId)
    (task : ThreadPool.Task π (TaskFunction φ)) :
    Option (IOWorkerThreadHandler π φ) :=
  match task.taskExecutionFunc with
  | some .handleIOEvent =>
      if handler.assigning = none then
        some
          { handler with
              calls :=
                update handler.calls (.worker worker)
                  (some (.copying task.eventStorePointer)) }
      else none
  | some (.given function) =>
      some
        { handler with
            executed :=
              handler.executed ++ [(task.eventStorePointer, some function)] }
  | none =>
      some
        { handler with
            executed :=
              handler.executed ++ [(task.eventStorePointer, none)] }

/-- One step of one thread. -/
def step [DecidableEq π] [DecidableEq φ] (numThreads numCallers : Nat)
    (handler : IOWorkerThreadHandler π φ) :
    HandlerAction π φ → Option (IOWorkerThreadHandler π φ)
  | .handleIOEvent caller eventStorePointer =>
      if caller < numCallers ∧ handler.calls (.outside caller) = none ∧
          handler.assigning = none then
        some
          { handler with
              calls :=
                update handler.calls (.outside caller)
                  (some (.copying eventStorePointer))
              handedIn := handler.handedIn ++ [eventStorePointer] }
      else none
  | .copied thread =>
      match handler.calls thread with
      | some (.copying eventStorePointer) =>
          some
            { handler with
                calls :=
                  update handler.calls thread
                    (some
                      (.copied
                        { eventStorePointer := eventStorePointer
                          taskExecutionFunc := handler.taskFunction })) }
      | _ => none
  | .enqueueTask thread =>
      match handler.calls thread with
      | some (.copied task) =>
          (handler.threadPool.step (.put task)).map fun threadPool =>
            { handler with
                threadPool := threadPool
                calls := update handler.calls thread none }
      | _ => none
  | .setTaskFunction taskFunction =>
      if handler.assigning = none ∧
          handler.beingCopied numThreads numCallers = false then
        some { handler with assigning := some taskFunction }
      else none
  | .assigned =>
      match handler.assigning with
      | some taskFunction =>
          some
            { handler with
                taskFunction := taskFunction.map .given
                assigning := none
                functions := handler.functions ++ [taskFunction] }
      | none => none
  | .take worker =>
      match handler.threadPool.queue with
      | task :: _ =>
          if worker < numThreads then
            (handler.threadPool.step (.take worker task)).map
              fun threadPool => { handler with threadPool := threadPool }
          else none
      | [] => none
  | .execute worker =>
      match handler.threadPool.hand worker with
      | .holding task =>
          (handler.threadPool.step (.start worker task)).bind
            fun threadPool =>
              { handler with threadPool := threadPool }.execute worker task
      | _ => none
  | .finish worker =>
      match handler.threadPool.hand worker with
      | .doing task =>
          if handler.calls (.worker worker) = none then
            (handler.threadPool.step (.finish worker task)).map
              fun threadPool => { handler with threadPool := threadPool }
          else none
      | _ => none

/-- The handler as its constructor leaves it. -/
def start : IOWorkerThreadHandler π φ where
  taskFunction := some .handleIOEvent
  assigning := none
  threadPool := { queue := [], hand := fun _ => .empty }
  calls := fun _ => none
  handedIn := []
  executed := []
  functions := []

end IOWorkerThreadHandler

/-- The transition system of a handler with `numThreads` workers, called by
`numCallers` other threads that let no assignment overlap another access. -/
def workerThreadHandler (π φ : Type) [DecidableEq π] [DecidableEq φ]
    (numThreads numCallers : Nat) :
    TransitionSystem (IOWorkerThreadHandler π φ) (HandlerAction π φ) where
  initial := fun handler => handler = IOWorkerThreadHandler.start
  step := IOWorkerThreadHandler.step numThreads numCallers

namespace IOWorkerThreadHandler

variable {π φ : Type} {numThreads numCallers : Nat}

/-! ## The lines of the threads -/

/-- What a step can do. -/
inductive Line (numThreads numCallers : Nat)
    (handler : IOWorkerThreadHandler π φ) :
    HandlerAction π φ → IOWorkerThreadHandler π φ → Prop where
  | handleIOEvent (caller : ThreadPool.CallerId) (eventStorePointer : π)
      (bound : caller < numCallers)
      (outside : handler.calls (.outside caller) = none)
      (unassigned : handler.assigning = none) :
      Line numThreads numCallers handler
        (.handleIOEvent caller eventStorePointer)
        { handler with
            calls :=
              update handler.calls (.outside caller)
                (some (.copying eventStorePointer))
            handedIn := handler.handedIn ++ [eventStorePointer] }
  | copied (thread : HandlerThread) (eventStorePointer : π)
      (copying : handler.calls thread = some (.copying eventStorePointer)) :
      Line numThreads numCallers handler (.copied thread)
        { handler with
            calls :=
              update handler.calls thread
                (some
                  (.copied
                    { eventStorePointer := eventStorePointer
                      taskExecutionFunc := handler.taskFunction })) }
  | enqueueTask (thread : HandlerThread)
      (task : ThreadPool.Task π (TaskFunction φ))
      (called : handler.calls thread = some (.copied task)) :
      Line numThreads numCallers handler (.enqueueTask thread)
        { handler with
            threadPool :=
              { handler.threadPool with
                  queue := handler.threadPool.queue ++ [task] }
            calls := update handler.calls thread none }
  | setTaskFunction (taskFunction : Option φ)
      (unassigned : handler.assigning = none)
      (uncopied : handler.beingCopied numThreads numCallers = false) :
      Line numThreads numCallers handler (.setTaskFunction taskFunction)
        { handler with assigning := some taskFunction }
  | assigned (taskFunction : Option φ)
      (assigning : handler.assigning = some taskFunction) :
      Line numThreads numCallers handler .assigned
        { handler with
            taskFunction := taskFunction.map .given
            assigning := none
            functions := handler.functions ++ [taskFunction] }
  | take (worker : WorkerId) (task : ThreadPool.Task π (TaskFunction φ))
      (rest : List (ThreadPool.Task π (TaskFunction φ)))
      (bound : worker < numThreads)
      (free : handler.threadPool.hand worker = .empty)
      (queue : handler.threadPool.queue = task :: rest) :
      Line numThreads numCallers handler (.take worker)
        { handler with
            threadPool :=
              { handler.threadPool with queue := rest }.setHand worker
                (.holding task) }
  | execute (worker : WorkerId) (task : ThreadPool.Task π (TaskFunction φ))
      (held : handler.threadPool.hand worker = .holding task)
      (after : IOWorkerThreadHandler π φ)
      (executes :
        { handler with
            threadPool :=
              handler.threadPool.setHand worker (.doing task) }.execute
          worker task = some after) :
      Line numThreads numCallers handler (.execute worker) after
  | finish (worker : WorkerId) (task : ThreadPool.Task π (TaskFunction φ))
      (doing : handler.threadPool.hand worker = .doing task)
      (returned : handler.calls (.worker worker) = none) :
      Line numThreads numCallers handler (.finish worker)
        { handler with
            threadPool := handler.threadPool.setHand worker .empty }

theorem line_of_step [DecidableEq π] [DecidableEq φ]
    {before after : IOWorkerThreadHandler π φ}
    {action : HandlerAction π φ}
    (taken : (workerThreadHandler π φ numThreads numCallers).step before
      action = some after) :
    Line numThreads numCallers before action after := by
  change step numThreads numCallers before action = some after at taken
  cases action with
  | handleIOEvent caller eventStorePointer =>
      simp only [step] at taken
      split at taken
      · rename_i guard
        cases taken
        exact .handleIOEvent caller eventStorePointer guard.1 guard.2.1
          guard.2.2
      · cases taken
  | copied thread =>
      simp only [step] at taken
      split at taken
      · rename_i eventStorePointer copying
        cases taken
        exact .copied thread eventStorePointer copying
      · cases taken
  | enqueueTask thread =>
      simp only [step] at taken
      split at taken
      · rename_i task called
        cases taken
        exact .enqueueTask thread task called
      · cases taken
  | setTaskFunction taskFunction =>
      simp only [step] at taken
      split at taken
      · rename_i guard
        cases taken
        exact .setTaskFunction taskFunction guard.1 guard.2
      · cases taken
  | assigned =>
      simp only [step] at taken
      split at taken
      · rename_i taskFunction assigning
        cases taken
        exact .assigned taskFunction assigning
      · cases taken
  | take worker =>
      simp only [step] at taken
      split at taken
      · rename_i task rest queue
        split at taken
        · rename_i bound
          cases free : before.threadPool.hand worker with
          | empty =>
              simp only [WorkQueue.step, free, queue, if_true,
                Option.map_some, Option.some.injEq] at taken
              rw [← taken]
              exact .take worker task rest bound free queue
          | _ =>
              simp only [WorkQueue.step, free] at taken
              cases taken
        · cases taken
      · cases taken
  | execute worker =>
      simp only [step] at taken
      split at taken
      · rename_i task held
        simp only [WorkQueue.step, held, if_true, Option.bind_some] at taken
        exact .execute worker task held after taken
      · cases taken
  | finish worker =>
      simp only [step] at taken
      split at taken
      · rename_i task doing
        split at taken
        · rename_i returned
          simp only [WorkQueue.step, doing, if_true, Option.map_some,
            Option.some.injEq] at taken
          rw [← taken]
          exact .finish worker task doing returned
        · cases taken
      · cases taken

/-! ## Where the events are -/

theorem nodup_threads (numThreads numCallers : Nat) :
    (threads numThreads numCallers).Nodup := by
  unfold threads
  rw [List.nodup_append]
  refine ⟨?_, ?_, ?_⟩
  · exact List.nodup_range.map fun _ _ same => HandlerThread.worker.inj same
  · exact List.nodup_range.map fun _ _ same => HandlerThread.outside.inj same
  · intro first here second there same
    obtain ⟨worker, -, rfl⟩ := List.mem_map.mp here
    obtain ⟨caller, -, rfl⟩ := List.mem_map.mp there
    cases same

theorem worker_mem_threads {worker : WorkerId} :
    HandlerThread.worker worker ∈ threads numThreads numCallers ↔
      worker < numThreads := by
  simp [threads]

theorem outside_mem_threads {caller : ThreadPool.CallerId} :
    HandlerThread.outside caller ∈ threads numThreads numCallers ↔
      caller < numCallers := by
  simp [threads]

/-- The events in the queue, with a worker that has not begun to execute them,
and with a thread inside `handleIOEvent`. -/
def pending (numThreads numCallers : Nat)
    (handler : IOWorkerThreadHandler π φ) : List (PendingEvent π φ) :=
  (handler.threadPool.queue ++
      Slots.contents (List.range numThreads)
        (fun worker => (handler.threadPool.hand worker).held)).map .copied ++
    Slots.contents (threads numThreads numCallers) handler.calls

/-- A function that `m_taskFunction` can have been so far. -/
def Known (handler : IOWorkerThreadHandler π φ)
    (taskFunction : Option (TaskFunction φ)) : Prop :=
  taskFunction = some .handleIOEvent ∨
    ∃ function ∈ handler.functions, taskFunction = function.map .given

/-- Every event is in one place, and every copy of `m_taskFunction` is of a
value it had. -/
structure Sound (numThreads numCallers : Nat)
    (handler : IOWorkerThreadHandler π φ) : Prop where
  idle_beyond : ∀ worker, numThreads ≤ worker →
    handler.threadPool.hand worker = .empty
  outside_beyond : ∀ caller, numCallers ≤ caller →
    handler.calls (.outside caller) = none
  inside : ∀ worker event, handler.calls (.worker worker) = some event →
    ∃ mine, handler.threadPool.hand worker = .doing mine
  conserved : handler.handedIn.Perm
    (handler.executed.map Prod.fst ++
      (handler.pending numThreads numCallers).map (·.eventStorePointer))
  current : handler.Known handler.taskFunction
  known : ∀ task, .copied task ∈ handler.pending numThreads numCallers →
    handler.Known task.taskExecutionFunc
  given : ∀ run ∈ handler.executed, run.2 ∈ handler.functions

section Pending

variable (handler : IOWorkerThreadHandler π φ)

/-- A thread enters `handleIOEvent`. -/
theorem pending_call {thread : HandlerThread}
    (inside : thread ∈ threads numThreads numCallers)
    (outside : handler.calls thread = none)
    (event : PendingEvent π φ) (handedIn : List π) :
    ({ handler with
        calls := update handler.calls thread (some event)
        handedIn := handedIn }.pending numThreads numCallers).Perm
      (event :: handler.pending numThreads numCallers) := by
  have filled := Slots.contents_fill (nodup_threads numThreads numCallers)
    inside handler.calls outside event
  unfold pending
  refine (filled.append_left _).trans ?_
  exact List.perm_middle

/-- A thread apart from the others inside `handleIOEvent`. -/
theorem pending_leave {thread : HandlerThread}
    (inside : thread ∈ threads numThreads numCallers)
    {event : PendingEvent π φ} (called : handler.calls thread = some event) :
    (handler.pending numThreads numCallers).Perm
      (event ::
        { handler with calls := update handler.calls thread none }.pending
          numThreads numCallers) := by
  have cleared := Slots.contents_clear (nodup_threads numThreads numCallers)
    inside handler.calls called
  unfold pending
  refine (cleared.append_left _).trans ?_
  exact List.perm_middle

/-- A task enters the queue. -/
theorem pending_put (task : ThreadPool.Task π (TaskFunction φ)) :
    ({ handler with
        threadPool :=
          { handler.threadPool with
              queue := handler.threadPool.queue ++ [task] } }.pending
        numThreads numCallers).Perm
      (.copied task :: handler.pending numThreads numCallers) := by
  unfold pending
  rw [← List.cons_append, ← List.map_cons, List.append_assoc]
  exact List.Perm.append_right _ (List.Perm.map _ List.perm_middle)

/-- A thread puts its task into the pool. -/
theorem pending_enqueueTask {thread : HandlerThread}
    (inside : thread ∈ threads numThreads numCallers)
    {task : ThreadPool.Task π (TaskFunction φ)}
    (called : handler.calls thread = some (.copied task)) :
    ({ handler with
        threadPool :=
          { handler.threadPool with
              queue := handler.threadPool.queue ++ [task] }
        calls := update handler.calls thread none }.pending numThreads
          numCallers).Perm (handler.pending numThreads numCallers) :=
  (pending_put { handler with calls := update handler.calls thread none }
    task).trans (handler.pending_leave inside called).symm

/-- A worker pops a task. -/
theorem pending_take {worker : WorkerId} (bound : worker < numThreads)
    (free : handler.threadPool.hand worker = .empty)
    {task : ThreadPool.Task π (TaskFunction φ)}
    {rest : List (ThreadPool.Task π (TaskFunction φ))}
    (queue : handler.threadPool.queue = task :: rest) :
    ({ handler with
        threadPool :=
          { handler.threadPool with queue := rest }.setHand worker
            (.holding task) }.pending numThreads numCallers).Perm
      (handler.pending numThreads numCallers) := by
  have filled := Slots.contents_fill List.nodup_range
    (List.mem_range.mpr bound)
    (fun other => (handler.threadPool.hand other).held)
    (by rw [free]; rfl) task
  unfold pending
  rw [WorkQueue.held_setHand, queue]
  refine List.Perm.append_right _ (List.Perm.map _ ?_)
  exact (filled.append_left rest).trans List.perm_middle

/-- A worker begins to execute its task. -/
theorem pending_start {worker : WorkerId} (bound : worker < numThreads)
    {task : ThreadPool.Task π (TaskFunction φ)}
    (held : handler.threadPool.hand worker = .holding task) :
    (handler.pending numThreads numCallers).Perm
      (.copied task ::
        { handler with
          threadPool :=
            handler.threadPool.setHand worker (.doing task) }.pending
          numThreads numCallers) := by
  have cleared := Slots.contents_clear List.nodup_range
    (List.mem_range.mpr bound)
    (fun other => (handler.threadPool.hand other).held)
    (by rw [held]; rfl)
  unfold pending
  rw [WorkQueue.held_setHand, ← List.cons_append, ← List.map_cons]
  refine List.Perm.append_right _ (List.Perm.map _ ?_)
  exact (cleared.append_left _).trans List.perm_middle

/-- A worker that is through with its task. -/
theorem pending_finish {worker : WorkerId}
    {task : ThreadPool.Task π (TaskFunction φ)}
    (doing : handler.threadPool.hand worker = .doing task) :
    { handler with
        threadPool := handler.threadPool.setHand worker .empty }.pending
          numThreads numCallers =
      handler.pending numThreads numCallers := by
  have same : (fun other =>
        ((handler.threadPool.setHand worker .empty).hand other).held) =
      fun other => (handler.threadPool.hand other).held := by
    rw [WorkQueue.held_setHand]
    apply Function.update_eq_self_iff.mpr
    rw [doing]
    rfl
  unfold pending
  rw [same]
  rfl

end Pending

/-! ## The invariant -/

namespace Sound

variable {before after : IOWorkerThreadHandler π φ}

theorem start : Sound numThreads numCallers
    (IOWorkerThreadHandler.start : IOWorkerThreadHandler π φ) := by
  have nothing : (IOWorkerThreadHandler.start :
      IOWorkerThreadHandler π φ).pending numThreads numCallers = [] := by
    simp [pending, IOWorkerThreadHandler.start, Slots.contents,
      WorkQueue.Hand.held]
  constructor
  case idle_beyond => exact fun _ _ => rfl
  case outside_beyond => exact fun _ _ => rfl
  case inside =>
    intro worker event called
    cases called
  case conserved =>
    rw [nothing]
    exact .refl _
  case current => exact .inl rfl
  case known =>
    intro task member
    rw [nothing] at member
    cases member
  case given =>
    intro run member
    cases member

/-- A worker with a task is one of the pool's. -/
theorem bound_of_hand (sound : Sound numThreads numCallers before)
    {worker : WorkerId}
    (busy : before.threadPool.hand worker ≠ .empty) : worker < numThreads := by
  by_contra beyond
  exact busy (sound.idle_beyond worker (Nat.le_of_not_lt beyond))

theorem thread_mem (sound : Sound numThreads numCallers before)
    {thread : HandlerThread} {event : PendingEvent π φ}
    (called : before.calls thread = some event) :
    thread ∈ threads numThreads numCallers := by
  cases thread with
  | outside caller =>
      apply outside_mem_threads.mpr
      by_contra beyond
      cases called.symm.trans
        (sound.outside_beyond caller (Nat.le_of_not_lt beyond))
  | worker worker =>
      obtain ⟨mine, doing⟩ := sound.inside worker event called
      apply worker_mem_threads.mpr
      exact sound.bound_of_hand (by simp [doing])

/-- A worker with a task that it has not begun to execute, or none, is outside
`handleIOEvent`. -/
theorem outside_of_hand (sound : Sound numThreads numCallers before)
    {worker : WorkerId}
    (idle : ∀ task, before.threadPool.hand worker ≠ .doing task) :
    before.calls (.worker worker) = none := by
  cases called : before.calls (.worker worker) with
  | none => rfl
  | some event =>
      obtain ⟨mine, doing⟩ := sound.inside worker event called
      exact absurd doing (idle mine)

/-- The same events are pending, with the same functions given. -/
theorem samePending (sound : Sound numThreads numCallers before)
    (pending : (after.pending numThreads numCallers).Perm
      (before.pending numThreads numCallers))
    (handedIn : after.handedIn = before.handedIn)
    (executed : after.executed = before.executed)
    (functions : after.functions = before.functions) :
    after.handedIn.Perm
        (after.executed.map Prod.fst ++
          (after.pending numThreads numCallers).map (·.eventStorePointer)) ∧
      (∀ task, .copied task ∈ after.pending numThreads numCallers →
        after.Known task.taskExecutionFunc) ∧
      ∀ run ∈ after.executed, run.2 ∈ after.functions := by
  refine ⟨?_, ?_, ?_⟩
  · rw [handedIn, executed]
    exact sound.conserved.trans ((pending.map _).symm.append_left _)
  · intro task member
    have known := sound.known task (pending.mem_iff.mp member)
    unfold Known at known ⊢
    rw [functions]
    exact known
  · rw [executed, functions]
    exact sound.given

/-- The callers that may not call stay outside, whatever a thread inside
does. -/
theorem outside_beyond_update (sound : Sound numThreads numCallers before)
    {thread : HandlerThread}
    (inside : thread ∈ threads numThreads numCallers)
    (call : Option (PendingEvent π φ)) (caller : ThreadPool.CallerId)
    (beyond : numCallers ≤ caller) :
    update before.calls thread call (.outside caller) = none := by
  have different : HandlerThread.outside caller ≠ thread := by
    rintro rfl
    exact absurd (outside_mem_threads.mp inside) (Nat.not_lt_of_le beyond)
  rw [Function.update_of_ne different]
  exact sound.outside_beyond caller beyond

/-- An outside caller begins to copy `m_taskFunction`. -/
theorem handleIOEvent (sound : Sound numThreads numCallers before)
    {caller : ThreadPool.CallerId} (bound : caller < numCallers)
    (outside : before.calls (.outside caller) = none)
    (eventStorePointer : π) :
    Sound numThreads numCallers
      { before with
          calls :=
            update before.calls (.outside caller)
              (some (.copying eventStorePointer))
          handedIn := before.handedIn ++ [eventStorePointer] } := by
  have inside : HandlerThread.outside caller ∈
      threads numThreads numCallers :=
    outside_mem_threads.mpr bound
  have pending := before.pending_call inside outside
    (.copying eventStorePointer) (before.handedIn ++ [eventStorePointer])
  refine { sound with
    outside_beyond := sound.outside_beyond_update inside _
    inside := ?_
    conserved := ?_
    known := ?_ }
  · intro worker event called
    dsimp only at called
    rw [Function.update_of_ne (by simp)] at called
    exact sound.inside worker event called
  · refine List.Perm.trans ?_ ((pending.map _).symm.append_left _)
    rw [List.map_cons]
    refine (List.perm_append_singleton _ _).trans ?_
    exact (sound.conserved.cons _).trans List.perm_middle.symm
  · intro task member
    rcases List.mem_cons.mp (pending.mem_iff.mp member) with now | earlier
    · cases now
    · exact sound.known task earlier

/-- A thread has made its copy. -/
theorem copied (sound : Sound numThreads numCallers before)
    {thread : HandlerThread} {eventStorePointer : π}
    (copying : before.calls thread = some (.copying eventStorePointer)) :
    Sound numThreads numCallers
      { before with
          calls :=
            update before.calls thread
              (some
                (.copied
                  { eventStorePointer := eventStorePointer
                    taskExecutionFunc := before.taskFunction })) } := by
  have inside := sound.thread_mem copying
  have old := before.pending_leave inside copying
  have new := pending_call
    { before with calls := update before.calls thread none } inside
    (Function.update_self _ _ _)
    (.copied
      { eventStorePointer := eventStorePointer
        taskExecutionFunc := before.taskFunction }) before.handedIn
  dsimp only at new
  rw [Function.update_idem] at new
  refine { sound with
    outside_beyond := sound.outside_beyond_update inside _
    inside := ?_
    conserved := ?_
    known := ?_ }
  · intro worker event called
    by_cases same : HandlerThread.worker worker = thread
    · rw [← same] at copying
      exact sound.inside worker _ copying
    · dsimp only at called
      rw [Function.update_of_ne same] at called
      exact sound.inside worker event called
  · have pointers := (old.map (·.eventStorePointer)).trans
      (new.map (·.eventStorePointer)).symm
    exact sound.conserved.trans (pointers.append_left _)
  · intro task member
    rcases List.mem_cons.mp (new.mem_iff.mp member) with now | earlier
    · cases now
      exact sound.current
    · exact sound.known task (old.mem_iff.mpr (List.mem_cons_of_mem _ earlier))

/-- A thread puts its task into the pool. -/
theorem enqueueTask (sound : Sound numThreads numCallers before)
    {thread : HandlerThread} {task : ThreadPool.Task π (TaskFunction φ)}
    (called : before.calls thread = some (.copied task)) :
    Sound numThreads numCallers
      { before with
          threadPool :=
            { before.threadPool with
                queue := before.threadPool.queue ++ [task] }
          calls := update before.calls thread none } := by
  have inside := sound.thread_mem called
  obtain ⟨conserved, known, given⟩ := sound.samePending
    (before.pending_enqueueTask inside called) rfl rfl rfl
  refine { sound with
    outside_beyond := sound.outside_beyond_update inside _
    inside := ?_
    conserved := conserved
    known := known
    given := given }
  intro worker event later
  dsimp only at later
  by_cases same : HandlerThread.worker worker = thread
  · rw [same, Function.update_self] at later
    cases later
  · rw [Function.update_of_ne same] at later
    exact sound.inside worker event later

/-- An assignment has come to its end. -/
theorem assigned (sound : Sound numThreads numCallers before)
    (taskFunction : Option φ) :
    Sound numThreads numCallers
      { before with
          taskFunction := taskFunction.map .given
          assigning := none
          functions := before.functions ++ [taskFunction] } where
  idle_beyond := sound.idle_beyond
  outside_beyond := sound.outside_beyond
  inside := sound.inside
  conserved := sound.conserved
  current := .inr ⟨taskFunction, by simp, rfl⟩
  known := by
    intro task member
    rcases sound.known task member with default | ⟨function, earlier, same⟩
    · exact .inl default
    · exact .inr ⟨function, List.mem_append_left _ earlier, same⟩
  given := by
    intro run member
    exact List.mem_append_left _ (sound.given run member)

/-- The hand of a worker outside `handleIOEvent` changes. -/
theorem setHand {worker : WorkerId}
    {hand : WorkQueue.Hand (ThreadPool.Task π (TaskFunction φ))}
    (sound : Sound numThreads numCallers before) (bound : worker < numThreads)
    (outside : before.calls (.worker worker) = none)
    (hands : after.threadPool.hand =
      update before.threadPool.hand worker hand)
    (calls : after.calls = before.calls)
    (current : after.Known after.taskFunction)
    (conserved :
      after.handedIn.Perm
          (after.executed.map Prod.fst ++
            (after.pending numThreads numCallers).map
              (·.eventStorePointer)) ∧
        (∀ task, .copied task ∈ after.pending numThreads numCallers →
          after.Known task.taskExecutionFunc) ∧
        ∀ run ∈ after.executed, run.2 ∈ after.functions) :
    Sound numThreads numCallers after where
  idle_beyond := by
    intro other beyond
    have different : other ≠ worker :=
      Nat.ne_of_gt (Nat.lt_of_lt_of_le bound beyond)
    rw [hands, Function.update_of_ne different]
    exact sound.idle_beyond other beyond
  outside_beyond := by
    rw [calls]
    exact sound.outside_beyond
  inside := by
    intro other event called
    rw [calls] at called
    have different : other ≠ worker := by
      rintro rfl
      cases outside.symm.trans called
    rw [hands, Function.update_of_ne different]
    exact sound.inside other event called
  conserved := conserved.1
  current := current
  known := conserved.2.1
  given := conserved.2.2

/-- A worker that begins to execute its task takes it off the others. -/
theorem pending_held (sound : Sound numThreads numCallers before)
    {worker : WorkerId} {task : ThreadPool.Task π (TaskFunction φ)}
    (held : before.threadPool.hand worker = .holding task) :
    (before.pending numThreads numCallers).Perm
      (.copied task ::
        { before with
          threadPool :=
            before.threadPool.setHand worker (.doing task) }.pending
          numThreads numCallers) :=
  before.pending_start (sound.bound_of_hand (by simp [held])) held

/-- A worker executes an event for another function than the default, which
has been given: the event is done with. -/
theorem executeGiven (sound : Sound numThreads numCallers before)
    {worker : WorkerId} {task : ThreadPool.Task π (TaskFunction φ)}
    (held : before.threadPool.hand worker = .holding task)
    {function : Option φ} (given : function ∈ before.functions) :
    Sound numThreads numCallers
      { before with
          threadPool := before.threadPool.setHand worker (.doing task)
          executed :=
            before.executed ++ [(task.eventStorePointer, function)] } := by
  have bound : worker < numThreads := sound.bound_of_hand (by simp [held])
  have outside : before.calls (.worker worker) = none :=
    sound.outside_of_hand (by simp [held])
  have rest := sound.pending_held held
  refine sound.setHand bound outside rfl rfl sound.current ⟨?_, ?_, ?_⟩
  · refine sound.conserved.trans ?_
    rw [List.map_append, List.append_assoc]
    exact (rest.map _).append_left _
  · intro other member
    exact sound.known other
      (rest.mem_iff.mpr (List.mem_cons_of_mem _ member))
  · intro run member
    rcases List.mem_append.mp member with earlier | now
    · exact sound.given run earlier
    · cases List.mem_singleton.mp now
      exact given

/-- A worker executes an event for the default function: the event goes round
once more. -/
theorem executeDefault (sound : Sound numThreads numCallers before)
    {worker : WorkerId} {task : ThreadPool.Task π (TaskFunction φ)}
    (held : before.threadPool.hand worker = .holding task) :
    Sound numThreads numCallers
      { before with
          threadPool := before.threadPool.setHand worker (.doing task)
          calls :=
            update before.calls (.worker worker)
              (some (.copying task.eventStorePointer)) } := by
  have bound : worker < numThreads := sound.bound_of_hand (by simp [held])
  have outside : before.calls (.worker worker) = none :=
    sound.outside_of_hand (by simp [held])
  have inside : HandlerThread.worker worker ∈
      threads numThreads numCallers :=
    worker_mem_threads.mpr bound
  let begun : IOWorkerThreadHandler π φ :=
    { before with
        threadPool := before.threadPool.setHand worker (.doing task) }
  have rest : (before.pending numThreads numCallers).Perm
      (.copied task :: begun.pending numThreads numCallers) :=
    sound.pending_held held
  have again := begun.pending_call inside outside
    (.copying task.eventStorePointer) before.handedIn
  refine { sound with
    idle_beyond := ?_
    outside_beyond := ?_
    inside := ?_
    conserved := ?_
    known := ?_ }
  · intro other beyond
    have different : other ≠ worker :=
      Nat.ne_of_gt (Nat.lt_of_lt_of_le bound beyond)
    exact (Function.update_of_ne different _ _).trans
      (sound.idle_beyond other beyond)
  · exact sound.outside_beyond_update inside
      (some (.copying task.eventStorePointer))
  · intro other event called
    dsimp only at called
    by_cases same : other = worker
    · subst same
      exact ⟨task, Function.update_self _ _ _⟩
    · rw [Function.update_of_ne (by simpa using same)] at called
      obtain ⟨mine, doing⟩ := sound.inside other event called
      exact ⟨mine, (Function.update_of_ne same _ _).trans doing⟩
  · have pointers := (rest.map (·.eventStorePointer)).trans
      (again.map (·.eventStorePointer)).symm
    exact sound.conserved.trans (pointers.append_left _)
  · intro other member
    rcases List.mem_cons.mp (again.mem_iff.mp member) with now | earlier
    · cases now
    · exact sound.known other
        (rest.mem_iff.mpr (List.mem_cons_of_mem _ earlier))

/-- What `IOTask::execute` does with the event: it has been executed, or
`m_taskFunction` is copied to send it into the pool again. -/
theorem execute (sound : Sound numThreads numCallers before)
    {worker : WorkerId} {task : ThreadPool.Task π (TaskFunction φ)}
    (held : before.threadPool.hand worker = .holding task)
    (executes :
      { before with
          threadPool :=
            before.threadPool.setHand worker (.doing task) }.execute worker
        task = some after) :
    Sound numThreads numCallers after := by
  have rest := sound.pending_held held
  have mine : before.Known task.taskExecutionFunc :=
    sound.known task (rest.mem_iff.mpr List.mem_cons_self)
  unfold IOWorkerThreadHandler.execute at executes
  cases function_eq : task.taskExecutionFunc with
  | none =>
      simp only [function_eq] at mine executes
      cases executes
      rcases mine with default | ⟨function, given, same⟩
      · cases default
      · cases function with
        | none => exact sound.executeGiven held given
        | some function => cases same
  | some taskFunction =>
      cases taskFunction with
      | given function =>
          simp only [function_eq] at mine executes
          cases executes
          rcases mine with default | ⟨other, given, same⟩
          · cases default
          · cases other with
            | none => cases same
            | some other =>
                cases same
                exact sound.executeGiven held given
      | handleIOEvent =>
          simp only [function_eq] at executes
          split at executes
          · cases executes
            exact sound.executeDefault held
          · cases executes

/-- A worker is through with its task. -/
theorem finish (sound : Sound numThreads numCallers before)
    {worker : WorkerId} {task : ThreadPool.Task π (TaskFunction φ)}
    (doing : before.threadPool.hand worker = .doing task)
    (returned : before.calls (.worker worker) = none) :
    Sound numThreads numCallers
      { before with
          threadPool := before.threadPool.setHand worker .empty } := by
  have bound : worker < numThreads := sound.bound_of_hand (by simp [doing])
  refine sound.setHand bound returned rfl rfl sound.current ?_
  refine sound.samePending ?_ rfl rfl rfl
  rw [before.pending_finish doing]

theorem take (sound : Sound numThreads numCallers before)
    {worker : WorkerId} {task : ThreadPool.Task π (TaskFunction φ)}
    {rest : List (ThreadPool.Task π (TaskFunction φ))}
    (bound : worker < numThreads)
    (free : before.threadPool.hand worker = .empty)
    (queue : before.threadPool.queue = task :: rest) :
    Sound numThreads numCallers
      { before with
          threadPool :=
            { before.threadPool with queue := rest }.setHand worker
              (.holding task) } := by
  have outside : before.calls (.worker worker) = none :=
    sound.outside_of_hand (by simp [free])
  refine sound.setHand bound outside rfl rfl sound.current ?_
  exact sound.samePending (before.pending_take bound free queue) rfl rfl rfl

theorem line {action : HandlerAction π φ}
    (sound : Sound numThreads numCallers before)
    (taken : Line numThreads numCallers before action after) :
    Sound numThreads numCallers after := by
  cases taken with
  | handleIOEvent caller eventStorePointer bound outside unassigned =>
      exact sound.handleIOEvent bound outside eventStorePointer
  | copied thread eventStorePointer copying => exact sound.copied copying
  | enqueueTask thread task called => exact sound.enqueueTask called
  | setTaskFunction taskFunction unassigned uncopied => exact { sound with }
  | assigned taskFunction assigning => exact sound.assigned taskFunction
  | take worker task rest bound free queue =>
      exact sound.take bound free queue
  | execute worker task held after executes =>
      exact sound.execute held executes
  | finish worker task doing returned => exact sound.finish doing returned

end Sound

theorem sound_of_reachable [DecidableEq π] [DecidableEq φ]
    {handler : IOWorkerThreadHandler π φ}
    (reachable : (workerThreadHandler π φ numThreads numCallers).Reachable
      handler) : Sound numThreads numCallers handler := by
  refine TransitionSystem.Reachable.invariant ?_ ?_ reachable
  · rintro state rfl
    exact .start
  · intro before action after _ taken sound
    exact sound.line (line_of_step taken)

/-- No event is lost or handed on twice.  Whatever the order of calls, copies,
assignments and pops, the events handed in are those executed together with
those still pending, and each was executed with a function that had been given.
As long as none has been given, all of them are pending. -/
theorem events_conserved [DecidableEq π] [DecidableEq φ]
    {handler : IOWorkerThreadHandler π φ}
    (reachable : (workerThreadHandler π φ numThreads numCallers).Reachable
      handler) :
    handler.handedIn.Perm
        (handler.executed.map Prod.fst ++
          (handler.pending numThreads numCallers).map
            (·.eventStorePointer)) ∧
      (∀ run ∈ handler.executed, run.2 ∈ handler.functions) ∧
      (handler.functions = [] →
        handler.handedIn.Perm
          ((handler.pending numThreads numCallers).map
            (·.eventStorePointer))) := by
  have sound := sound_of_reachable reachable
  refine ⟨sound.conserved, sound.given, ?_⟩
  intro none_given
  have nothing : handler.executed = [] := by
    apply List.eq_nil_iff_forall_not_mem.mpr
    intro run member
    have given := sound.given run member
    rw [none_given] at given
    cases given
  have conserved := sound.conserved
  rw [nothing] at conserved
  exact conserved

/-- One event goes round twice: the copy was made before the assignment, and
pushed after it. -/
theorem events_conserved_copied :
    ∃ handler : IOWorkerThreadHandler Nat Nat,
      (workerThreadHandler Nat Nat 1 1).Reachable handler ∧
        (handler.handedIn = [7] ∧ handler.executed = [] ∧
          handler.functions = [some 3]) ∧
        handler.handedIn.Perm
          (handler.executed.map Prod.fst ++
            (handler.pending 1 1).map (·.eventStorePointer)) := by
  have found : ∃ handler : IOWorkerThreadHandler Nat Nat,
      (workerThreadHandler Nat Nat 1 1).Reached (fun _ _ => True) handler ∧
        (handler.handedIn = [7] ∧ handler.executed = [] ∧
          handler.functions = [some 3]) :=
    TransitionSystem.exists_reached_of_replay
      [.handleIOEvent 0 7, .copied (.outside 0), .enqueueTask (.outside 0),
        .take 0, .execute 0, .copied (.worker 0), .setTaskFunction (some 3),
        .assigned, .enqueueTask (.worker 0), .finish 0, .take 0]
      rfl (by decide)
  obtain ⟨handler, reached, at_state⟩ := found
  exact ⟨handler, reached, at_state, (events_conserved reached).1⟩

/-! ## Progress -/

/-- The steps of threads that are inside `handleIOEvent` or workers. -/
def working (_ : IOWorkerThreadHandler π φ) : HandlerAction π φ → Prop
  | .handleIOEvent _ _ | .setTaskFunction _ | .assigned => False
  | _ => True

/-- A task with the default function has one more round to go. -/
def roundWork : Option (TaskFunction φ) → Nat
  | some .handleIOEvent => 7
  | _ => 2

def handWork : WorkQueue.Hand (ThreadPool.Task π (TaskFunction φ)) → Nat
  | .empty => 0
  | .holding task => roundWork task.taskExecutionFunc
  | .doing _ => 1

/-- A copy that is still being made is of another function. -/
def callWork : Option (PendingEvent π φ) → Nat
  | none => 0
  | some (.copying _) => 5
  | some (.copied task) => roundWork task.taskExecutionFunc + 2

/-- What is left to do once the default is replaced. -/
def effort (numThreads numCallers : Nat)
    (handler : IOWorkerThreadHandler π φ) : Nat :=
  (handler.threadPool.queue.map fun task =>
      roundWork task.taskExecutionFunc + 1).sum +
    workload (List.range numThreads) handWork handler.threadPool.hand +
    workload (threads numThreads numCallers) callWork handler.calls

/-- `setTaskFunction` has replaced the default, and returned. -/
structure Replaced (numThreads numCallers : Nat)
    (handler : IOWorkerThreadHandler π φ) : Prop where
  sound : Sound numThreads numCallers handler
  replaced : handler.taskFunction ≠ some .handleIOEvent
  returned : handler.assigning = none

section Effort

variable {before after : IOWorkerThreadHandler π φ}

theorem hands_move
    (hand : WorkQueue.Hand (ThreadPool.Task π (TaskFunction φ)))
    {old : WorkQueue.Hand (ThreadPool.Task π (TaskFunction φ))}
    {worker : WorkerId}
    (inside : worker < numThreads)
    (here : before.threadPool.hand worker = old) :
    workload (List.range numThreads) handWork
        (update before.threadPool.hand worker hand) + handWork old ≤
      workload (List.range numThreads) handWork before.threadPool.hand +
        handWork hand := by
  rw [← here]
  exact Workload.move List.nodup_range (List.mem_range.mpr inside)
    (Nat.le_of_eq (Nat.add_comm _ _))

theorem calls_move (call : Option (PendingEvent π φ))
    {old : Option (PendingEvent π φ)} {thread : HandlerThread}
    (inside : thread ∈ threads numThreads numCallers)
    (here : before.calls thread = old) :
    workload (threads numThreads numCallers) callWork
        (update before.calls thread call) + callWork old ≤
      workload (threads numThreads numCallers) callWork before.calls +
        callWork call := by
  rw [← here]
  exact Workload.move (nodup_threads numThreads numCallers) inside
    (Nat.le_of_eq (Nat.add_comm _ _))

/-- A task with another function than the default has no round to go. -/
theorem roundWork_eq_two {taskFunction : Option (TaskFunction φ)}
    (other : taskFunction ≠ some .handleIOEvent) :
    roundWork taskFunction = 2 := by
  unfold roundWork
  split
  · exact absurd rfl other
  · rfl

/-- Executing a task makes the effort smaller, also where the event goes round
once more. -/
theorem effort_execute {worker : WorkerId}
    {task : ThreadPool.Task π (TaskFunction φ)}
    (replaced : Replaced numThreads numCallers before)
    (held : before.threadPool.hand worker = .holding task)
    (executes :
      { before with
          threadPool :=
            before.threadPool.setHand worker (.doing task) }.execute worker
        task = some after) :
    after.effort numThreads numCallers <
        before.effort numThreads numCallers ∧
      after.taskFunction = before.taskFunction ∧
      after.assigning = before.assigning := by
  have inside : worker < numThreads :=
    replaced.sound.bound_of_hand (by simp [held])
  have hands := hands_move (.doing task) inside held
  simp only [handWork] at hands
  unfold execute at executes
  cases function_eq : task.taskExecutionFunc with
  | none =>
      simp only [function_eq, roundWork] at hands executes
      cases executes
      refine ⟨?_, rfl, rfl⟩
      simp only [effort, WorkQueue.setHand]
      omega
  | some taskFunction =>
      cases taskFunction with
      | given function =>
          simp only [function_eq, roundWork] at hands executes
          cases executes
          refine ⟨?_, rfl, rfl⟩
          simp only [effort, WorkQueue.setHand]
          omega
      | handleIOEvent =>
          simp only [function_eq, roundWork, replaced.returned, if_true]
            at hands executes
          cases executes
          refine ⟨?_, rfl, replaced.returned.symm⟩
          have outside : before.calls (.worker worker) = none :=
            replaced.sound.outside_of_hand (by simp [held])
          have member : HandlerThread.worker worker ∈
              threads numThreads numCallers :=
            worker_mem_threads.mpr inside
          have calls := calls_move
            (some (.copying task.eventStorePointer)) member outside
          simp only [callWork] at calls
          simp only [effort, WorkQueue.setHand]
          omega

/-- With another function than the default, nothing goes round for ever. -/
theorem effort_smaller {action : HandlerAction π φ}
    (replaced : Replaced numThreads numCallers before)
    (works : working before action)
    (taken : Line numThreads numCallers before action after) :
    after.effort numThreads numCallers <
        before.effort numThreads numCallers ∧
      after.taskFunction = before.taskFunction ∧
      after.assigning = before.assigning := by
  have sound := replaced.sound
  cases taken with
  | handleIOEvent caller eventStorePointer bound outside unassigned =>
      exact works.elim
  | setTaskFunction taskFunction unassigned uncopied => exact works.elim
  | assigned taskFunction assigning => exact works.elim
  | copied thread eventStorePointer copying =>
      refine ⟨?_, rfl, rfl⟩
      have calls := calls_move
        (some
          (.copied
            { eventStorePointer := eventStorePointer
              taskExecutionFunc := before.taskFunction }))
        (sound.thread_mem copying) copying
      simp only [callWork, roundWork_eq_two replaced.replaced] at calls
      simp only [effort]
      omega
  | enqueueTask thread task called =>
      refine ⟨?_, rfl, rfl⟩
      have calls := calls_move none (sound.thread_mem called) called
      simp only [callWork] at calls
      simp only [effort, List.map_append, List.sum_append, List.map_cons,
        List.map_nil, List.sum_cons, List.sum_nil]
      omega
  | take worker task rest bound free queue =>
      refine ⟨?_, rfl, rfl⟩
      have hands := hands_move (.holding task) bound free
      simp only [handWork] at hands
      simp only [effort, WorkQueue.setHand, queue, List.map_cons,
        List.sum_cons]
      omega
  | execute worker task held after executes =>
      exact effort_execute replaced held executes
  | finish worker task doing returned =>
      refine ⟨?_, rfl, rfl⟩
      have inside : worker < numThreads :=
        sound.bound_of_hand (by simp [doing])
      have hands := hands_move .empty inside doing
      simp only [handWork] at hands
      simp only [effort, WorkQueue.setHand]
      omega

end Effort

/-- Everything handed in has been executed, and the workers are free. -/
structure Executed (handler : IOWorkerThreadHandler π φ) : Prop where
  executed : handler.handedIn.Perm (handler.executed.map Prod.fst)
  workers : ∀ worker, handler.threadPool.hand worker = .empty
  callers : ∀ thread, handler.calls thread = none

section Progress

variable [DecidableEq π] [DecidableEq φ] {handler : IOWorkerThreadHandler π φ}

/-- A thread inside `handleIOEvent` goes on. -/
theorem inside_enabled {thread : HandlerThread} {event : PendingEvent π φ}
    (called : handler.calls thread = some event) :
    ∃ action, working handler action ∧
      ((workerThreadHandler π φ numThreads numCallers).step handler
        action).isSome = true := by
  cases event with
  | copying eventStorePointer =>
      refine ⟨.copied thread, trivial, ?_⟩
      simp [workerThreadHandler, step, called]
  | copied task =>
      refine ⟨.enqueueTask thread, trivial, ?_⟩
      simp [workerThreadHandler, step, called, WorkQueue.step]

/-- A worker with a task goes on, with nobody inside `handleIOEvent` and no
assignment under way. -/
theorem busy_enabled {worker : WorkerId}
    (outside : ∀ thread, handler.calls thread = none)
    (returned : handler.assigning = none)
    (busy : handler.threadPool.hand worker ≠ .empty) :
    ∃ action, working handler action ∧
      ((workerThreadHandler π φ numThreads numCallers).step handler
        action).isSome = true := by
  cases hand : handler.threadPool.hand worker with
  | empty => exact absurd hand busy
  | holding task =>
      refine ⟨.execute worker, trivial, ?_⟩
      simp only [workerThreadHandler, step, hand, WorkQueue.step, if_true,
        Option.bind_some, execute, returned]
      split <;> rfl
  | doing task =>
      refine ⟨.finish worker, trivial, ?_⟩
      simp [workerThreadHandler, step, hand, WorkQueue.step, outside]

theorem executed_or_enabled (positive : 0 < numThreads)
    (start : Replaced numThreads numCallers handler) :
    handler.Executed ∨ ∃ action after, working handler action ∧
      (workerThreadHandler π φ numThreads numCallers).step handler action =
        some after := by
  by_cases possible : ∃ action, working handler action ∧
      ((workerThreadHandler π φ numThreads numCallers).step handler
        action).isSome = true
  · obtain ⟨action, works, enabled⟩ := possible
    obtain ⟨after, taken⟩ := Option.isSome_iff_exists.mp enabled
    exact .inr ⟨action, after, works, taken⟩
  left
  have callers : ∀ thread, handler.calls thread = none := by
    intro thread
    cases called : handler.calls thread with
    | none => rfl
    | some event => exact absurd (inside_enabled called) possible
  have workers : ∀ worker, handler.threadPool.hand worker = .empty := by
    intro worker
    by_contra busy
    exact possible (busy_enabled callers start.returned busy)
  have queue : handler.threadPool.queue = [] := by
    cases waits : handler.threadPool.queue with
    | nil => rfl
    | cons task rest =>
        apply absurd _ possible
        refine ⟨.take 0, trivial, ?_⟩
        simp [workerThreadHandler, step, waits, positive, WorkQueue.step,
          workers 0]
  have nothing : handler.pending numThreads numCallers = [] := by
    simp [pending, queue, Slots.contents, workers, callers,
      WorkQueue.Hand.held]
  have conserved := start.sound.conserved
  rw [nothing, List.map_nil, List.append_nil] at conserved
  exact ⟨conserved, workers, callers⟩

/-- Events handed in before `setTaskFunction` are executed after it.  Once
`m_taskFunction` is not the default and no assignment is under way, and if no
more events or functions come, the threads of a handler with a worker come to
an end of their steps, and then each event ever handed in has been executed
once, with a function that was given.  The functions return. -/
theorem events_executed (positive : 0 < numThreads)
    (reachable : (workerThreadHandler π φ numThreads numCallers).Reachable
      handler)
    (replaced : handler.taskFunction ≠ some .handleIOEvent)
    (returned : handler.assigning = none) :
    (workerThreadHandler π φ numThreads numCallers).Inevitable working
      Executed handler := by
  have start : Replaced numThreads numCallers handler :=
    ⟨sound_of_reachable reachable, replaced, returned⟩
  refine TransitionSystem.Inevitable.of_kept_variant Nat.lt_wfRel.wf
    (effort numThreads numCallers) ?_ ?_ ?_ start
  · intro before action after kept works taken
    have line := line_of_step taken
    obtain ⟨-, same_function, same_assigning⟩ :=
      effort_smaller kept works line
    refine ⟨kept.sound.line line, ?_, ?_⟩
    · rw [same_function]
      exact kept.replaced
    · rw [same_assigning]
      exact kept.returned
  · intro before action after kept works taken
    exact (effort_smaller kept works (line_of_step taken)).1
  · intro state kept
    exact executed_or_enabled positive kept

/-- The event of the schedule above. -/
theorem events_executed_copied :
    ∃ handler : IOWorkerThreadHandler Nat Nat,
      (workerThreadHandler Nat Nat 1 1).Reachable handler ∧
        (handler.handedIn = [7] ∧ handler.executed = [] ∧
          handler.taskFunction = some (.given 3)) ∧
        (workerThreadHandler Nat Nat 1 1).Inevitable working Executed
          handler := by
  have found : ∃ handler : IOWorkerThreadHandler Nat Nat,
      (workerThreadHandler Nat Nat 1 1).Reached (fun _ _ => True) handler ∧
        ((handler.handedIn = [7] ∧ handler.executed = [] ∧
            handler.taskFunction = some (.given 3)) ∧
          handler.assigning = none) :=
    TransitionSystem.exists_reached_of_replay
      [.handleIOEvent 0 7, .copied (.outside 0), .enqueueTask (.outside 0),
        .take 0, .execute 0, .copied (.worker 0), .setTaskFunction (some 3),
        .assigned, .enqueueTask (.worker 0), .finish 0, .take 0]
      rfl (by decide)
  obtain ⟨handler, reached, at_state, returned⟩ := found
  have replaced : handler.taskFunction ≠ some .handleIOEvent := by
    rw [at_state.2.2]
    decide
  exact ⟨handler, reached, at_state,
    events_executed (by decide) reached replaced returned⟩

end Progress

end IOWorkerThreadHandler

end EventPlus

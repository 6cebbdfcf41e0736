/-
Module: EventPlus.ThreadPool.Pool
Purpose: `ThreadPool` lock by lock: callers of `enqueueTask`, the workers with
  their waits on the condition variable, and the destructor.
Trusted boundary: `std::mutex` and `std::condition_variable` as described here
Main exports:
  ThreadPool, ThreadPool.Task, ThreadPool.step, threadPool, ThreadPool.Move,
  ThreadPool.move_of_step
-/
import Mathlib.Logic.Function.Basic
import EventPlus.Common.EventStore
import EventPlus.Library.TransitionSystem

namespace EventPlus

open Function (update)

/-!
The server's own model takes `enqueueTask` and the dequeue as one step each.
Here both are taken apart: every lock, every read of `m_stop`, the wait and the
notifications are steps of their own, so that all orders of them are runs.

`wait(lock, predicate)` tests the predicate under the mutex; if it is false,
releasing the mutex and parking are one step.  A parked worker is woken by
`notify_one`, by `notify_all`, or spuriously, and takes the mutex again before
it tests the predicate again.
-/

namespace ThreadPool

variable {π φ : Type}

/-- A thread that calls `enqueueTask`. -/
abbrev CallerId := Nat

/-- The place of a task in the order in which tasks were put into the queue.
The program does not store it. -/
abbrev Ticket := Nat

/-- `IOTask` with both its fields: a pointer of type `π`, and a function of
type `φ`, `none` for an empty `std::function`. -/
structure Task (π φ : Type) where
  eventStorePointer : π
  taskExecutionFunc : Option φ
deriving Repr, DecidableEq

/-- The threads that take `m_queueMutex`. -/
inductive Thread where
  | caller (caller : CallerId)
  | worker (worker : WorkerId)
deriving Repr, DecidableEq

/-- A thread in `enqueueTask`. -/
inductive CallerPoint (π φ : Type) where
  | outside
  | lock (task : Task π φ)
  | emplace (task : Task π φ)
  | unlock (ticket : Ticket)
  | notifyOne (ticket : Ticket)
deriving Repr, DecidableEq

/-- A thread in `workerThread`: the loop's test, the wait (`predicate` to
`woken`), the test for the return, `front` and `pop`, the end of the locked
block, and `execute`. -/
inductive WorkerPoint (π φ : Type) where
  | loop
  | lock
  | predicate
  | park
  | parked
  | woken
  | exitTest
  | take
  | unlock (ticket : Ticket) (task : Task π φ)
  | execute (ticket : Ticket) (task : Task π φ)
  | executing (ticket : Ticket) (task : Task π φ)
  | exited
deriving Repr, DecidableEq

/-- The thread in `~ThreadPool`. -/
inductive DestructorPoint where
  | idle
  | storeStop
  | notifyAll
  | joining (worker : WorkerId)
  | returned
deriving Repr, DecidableEq

/-- One call of a task's function. -/
structure Execution (π φ : Type) where
  worker : WorkerId
  ticket : Ticket
  taskExecutionFunc : φ
  eventStorePointer : π
deriving Repr, DecidableEq

def CallerPoint.critical : CallerPoint π φ → Bool
  | .emplace _ | .unlock _ => true
  | _ => false

def WorkerPoint.critical : WorkerPoint π φ → Bool
  | .predicate | .park | .exitTest | .take | .unlock _ _ => true
  | _ => false

/-- The task a worker has taken and not finished. -/
def WorkerPoint.held : WorkerPoint π φ → Option (Ticket × Task π φ)
  | .unlock ticket task | .execute ticket task | .executing ticket task =>
      some (ticket, task)
  | _ => none

def WorkerPoint.isParked : WorkerPoint π φ → Bool
  | .parked => true
  | _ => false

def WorkerPoint.hasExited : WorkerPoint π φ → Bool
  | .exited => true
  | _ => false

/-- The task in a caller's hands has been pushed, and `notify_one` is still to
come. -/
def CallerPoint.pushed : CallerPoint π φ → Bool
  | .unlock _ | .notifyOne _ => true
  | _ => false

end ThreadPool

/-- A `ThreadPool` with its threads.  The last six fields are history, which no
step reads: the tasks pushed so far, the tickets whose call has returned, those
of them whose call had returned when the destructor started, the tasks popped
so far with the worker that popped them, the calls of task functions, and the
tickets whose `execute` has returned. -/
structure ThreadPool (π φ : Type) where
  tasks : List (ThreadPool.Task π φ)
  stop : Bool
  queueMutex : Option ThreadPool.Thread
  callerThread : ThreadPool.CallerId → ThreadPool.CallerPoint π φ
  workerThread : WorkerId → ThreadPool.WorkerPoint π φ
  destructor : ThreadPool.DestructorPoint
  enqueued : List (ThreadPool.Task π φ)
  returnedCalls : List ThreadPool.Ticket
  due : List ThreadPool.Ticket
  dequeued : List (WorkerId × ThreadPool.Task π φ)
  executions : List (ThreadPool.Execution π φ)
  finished : List ThreadPool.Ticket

namespace ThreadPool

variable {π φ : Type}

/-- The pool its constructor leaves. -/
def start : ThreadPool π φ where
  tasks := []
  stop := false
  queueMutex := none
  callerThread := fun _ => .outside
  workerThread := fun _ => .loop
  destructor := .idle
  enqueued := []
  returnedCalls := []
  due := []
  dequeued := []
  executions := []
  finished := []

variable (pool : ThreadPool π φ)

def setCaller (caller : CallerId) (point : CallerPoint π φ) : ThreadPool π φ :=
  { pool with callerThread := update pool.callerThread caller point }

def setWorker (worker : WorkerId) (point : WorkerPoint π φ) :
    ThreadPool π φ :=
  { pool with workerThread := update pool.workerThread worker point }

section Moves

variable {pool}

/-- What holds of every caller after one has moved. -/
theorem forall_setCaller {caller : CallerId} {point : CallerPoint π φ}
    (holds : CallerId → CallerPoint π φ → Prop) :
    (∀ other, holds other ((pool.setCaller caller point).callerThread other)) ↔
      holds caller point ∧
        ∀ other, other ≠ caller → holds other (pool.callerThread other) :=
  Function.forall_update_iff _ _

/-- What holds of every worker after one has moved. -/
theorem forall_setWorker {worker : WorkerId} {point : WorkerPoint π φ}
    (holds : WorkerId → WorkerPoint π φ → Prop) :
    (∀ other, holds other ((pool.setWorker worker point).workerThread other)) ↔
      holds worker point ∧
        ∀ other, other ≠ worker → holds other (pool.workerThread other) :=
  Function.forall_update_iff _ _

end Moves

/-- `m_tasks.emplace(eventStorePointer, taskFunction)`. -/
def emplace (task : Task π φ) : ThreadPool π φ :=
  { pool with
      tasks := pool.tasks ++ [task]
      enqueued := pool.enqueued ++ [task] }

/-- `task = std::move(m_tasks.front()); m_tasks.pop()`, where `rest` is what
stays in the queue. -/
def pop (worker : WorkerId) (task : Task π φ) (rest : List (Task π φ)) :
    ThreadPool π φ :=
  { pool with
      tasks := rest
      dequeued := pool.dequeued ++ [(worker, task)] }

/-- `IOTask::execute`: nothing happens for an empty function. -/
def call (worker : WorkerId) (ticket : Ticket) (task : Task π φ) :
    ThreadPool π φ :=
  match task.taskExecutionFunc with
  | none => pool
  | some function =>
      { pool with
          executions :=
            pool.executions ++
              [{ worker := worker
                 ticket := ticket
                 taskExecutionFunc := function
                 eventStorePointer := task.eventStorePointer }] }

/-- `m_condition.notify_all()`. -/
def wakeAll : ThreadPool π φ :=
  { pool with
      workerThread := fun worker =>
        if (pool.workerThread worker).isParked then .woken
        else pool.workerThread worker }

/-! ## Steps -/

/-- The start of a call of `enqueueTask`. -/
def enqueueTask (numCallers : Nat) (caller : CallerId) (task : Task π φ) :
    Option (ThreadPool π φ) :=
  match pool.callerThread caller with
  | .outside =>
      if caller < numCallers then some (pool.setCaller caller (.lock task))
      else none
  | _ => none

/-- The next line of `enqueueTask`, up to the notification. -/
def callerStep (caller : CallerId) : Option (ThreadPool π φ) :=
  match pool.callerThread caller with
  | .lock task =>
      if pool.queueMutex = none then
        some
          ({ pool with queueMutex := some (.caller caller) }.setCaller
            caller (.emplace task))
      else none
  | .emplace task =>
      some
        ((pool.emplace task).setCaller caller (.unlock pool.enqueued.length))
  | .unlock ticket =>
      some
        ({ pool with queueMutex := none }.setCaller caller
          (.notifyOne ticket))
  | _ => none

/-- `m_condition.notify_one()` wakes one parked worker if there is one; then
`enqueueTask` returns. -/
def notifyOne (numThreads : Nat) (caller : CallerId)
    (woken : Option WorkerId) : Option (ThreadPool π φ) :=
  match pool.callerThread caller, woken with
  | .notifyOne ticket, some worker =>
      if worker < numThreads ∧ (pool.workerThread worker).isParked then
        some
          ({ pool.setWorker worker .woken with
              returnedCalls := pool.returnedCalls ++ [ticket] }.setCaller
            caller .outside)
      else none
  | .notifyOne ticket, none =>
      if ∀ worker < numThreads,
          (pool.workerThread worker).isParked = false then
        some
          ({ pool with
              returnedCalls := pool.returnedCalls ++ [ticket] }.setCaller
            caller .outside)
      else none
  | _, _ => none

/-- The next line of `workerThread`. -/
def workerStep (worker : WorkerId) : Option (ThreadPool π φ) :=
  match pool.workerThread worker with
  | .loop =>
      some (pool.setWorker worker (if pool.stop then .exited else .lock))
  | .lock | .woken =>
      if pool.queueMutex = none then
        some
          ({ pool with queueMutex := some (.worker worker) }.setWorker worker
            .predicate)
      else none
  | .predicate =>
      some
        (pool.setWorker worker
          (if pool.stop || !pool.tasks.isEmpty then .exitTest else .park))
  | .park =>
      some ({ pool with queueMutex := none }.setWorker worker .parked)
  | .exitTest =>
      if pool.stop && pool.tasks.isEmpty then
        some ({ pool with queueMutex := none }.setWorker worker .exited)
      else some (pool.setWorker worker .take)
  | .take =>
      match pool.tasks with
      | [] => none
      | task :: rest =>
          some
            ((pool.pop worker task rest).setWorker worker
              (.unlock pool.dequeued.length task))
  | .unlock ticket task =>
      some
        ({ pool with queueMutex := none }.setWorker worker
          (.execute ticket task))
  | .execute ticket task =>
      some
        ((pool.call worker ticket task).setWorker worker
          (.executing ticket task))
  | .executing ticket _ =>
      some
        ({ pool with finished := pool.finished ++ [ticket] }.setWorker worker
          .loop)
  | .parked | .exited => none

/-- The next line of `~ThreadPool`. -/
def destructorStep (numThreads : Nat) : Option (ThreadPool π φ) :=
  match pool.destructor with
  | .idle =>
      some { pool with destructor := .storeStop, due := pool.returnedCalls }
  | .storeStop =>
      some { pool with stop := true, destructor := .notifyAll }
  | .notifyAll => some { pool.wakeAll with destructor := .joining 0 }
  | .joining worker =>
      if worker < numThreads then
        if (pool.workerThread worker).hasExited then
          some { pool with destructor := .joining (worker + 1) }
        else none
      else some { pool with destructor := .returned }
  | .returned => none

/-- The actions of a run.  `spurious` is a wake-up without a notification. -/
inductive Action (π φ : Type) where
  | enqueueTask (caller : CallerId) (task : Task π φ)
  | caller (caller : CallerId)
  | notifyOne (caller : CallerId) (woken : Option WorkerId)
  | worker (worker : WorkerId)
  | spurious (worker : WorkerId)
  | destructor
deriving Repr, DecidableEq

/-- The step of an action, if it is enabled. -/
def step (numThreads numCallers : Nat) :
    Action π φ → Option (ThreadPool π φ)
  | .enqueueTask caller task => pool.enqueueTask numCallers caller task
  | .caller caller => pool.callerStep caller
  | .notifyOne caller woken => pool.notifyOne numThreads caller woken
  | .worker worker =>
      if worker < numThreads then pool.workerStep worker else none
  | .spurious worker =>
      if (pool.workerThread worker).isParked then
        some (pool.setWorker worker .woken)
      else none
  | .destructor => pool.destructorStep numThreads

/-! ## What a step can do -/

/-- One line of one thread. -/
inductive Move (numThreads numCallers : Nat) (pool : ThreadPool π φ) :
    Action π φ → ThreadPool π φ → Prop where
  | enqueueTask (caller : CallerId) (task : Task π φ)
      (at_point : pool.callerThread caller = .outside)
      (bound : caller < numCallers) :
      Move numThreads numCallers pool (.enqueueTask caller task)
        (pool.setCaller caller (.lock task))
  | callerLock (caller : CallerId) (task : Task π φ)
      (at_point : pool.callerThread caller = .lock task)
      (free : pool.queueMutex = none) :
      Move numThreads numCallers pool (.caller caller)
        ({ pool with queueMutex := some (.caller caller) }.setCaller caller
          (.emplace task))
  | emplace (caller : CallerId) (task : Task π φ)
      (at_point : pool.callerThread caller = .emplace task) :
      Move numThreads numCallers pool (.caller caller)
        ((pool.emplace task).setCaller caller (.unlock pool.enqueued.length))
  | callerUnlock (caller : CallerId) (ticket : Ticket)
      (at_point : pool.callerThread caller = .unlock ticket) :
      Move numThreads numCallers pool (.caller caller)
        ({ pool with queueMutex := none }.setCaller caller
          (.notifyOne ticket))
  | notifyOne (caller : CallerId) (ticket : Ticket) (worker : WorkerId)
      (at_point : pool.callerThread caller = .notifyOne ticket)
      (bound : worker < numThreads)
      (parked : pool.workerThread worker = .parked) :
      Move numThreads numCallers pool (.notifyOne caller (some worker))
        ({ pool.setWorker worker .woken with
            returnedCalls := pool.returnedCalls ++ [ticket] }.setCaller caller
          .outside)
  | notifyNone (caller : CallerId) (ticket : Ticket)
      (at_point : pool.callerThread caller = .notifyOne ticket)
      (unparked : ∀ worker < numThreads,
        (pool.workerThread worker).isParked = false) :
      Move numThreads numCallers pool (.notifyOne caller none)
        ({ pool with
            returnedCalls := pool.returnedCalls ++ [ticket] }.setCaller caller
          .outside)
  | leave (worker : WorkerId) (bound : worker < numThreads)
      (at_point : pool.workerThread worker = .loop)
      (stopped : pool.stop = true) :
      Move numThreads numCallers pool (.worker worker)
        (pool.setWorker worker .exited)
  | enter (worker : WorkerId) (bound : worker < numThreads)
      (at_point : pool.workerThread worker = .loop)
      (running : pool.stop = false) :
      Move numThreads numCallers pool (.worker worker)
        (pool.setWorker worker .lock)
  | workerLock (worker : WorkerId) (bound : worker < numThreads)
      (at_point : pool.workerThread worker = .lock ∨
        pool.workerThread worker = .woken)
      (free : pool.queueMutex = none) :
      Move numThreads numCallers pool (.worker worker)
        ({ pool with queueMutex := some (.worker worker) }.setWorker worker
          .predicate)
  | ready (worker : WorkerId) (bound : worker < numThreads)
      (at_point : pool.workerThread worker = .predicate)
      (holds : pool.stop = true ∨ pool.tasks ≠ []) :
      Move numThreads numCallers pool (.worker worker)
        (pool.setWorker worker .exitTest)
  | wait (worker : WorkerId) (bound : worker < numThreads)
      (at_point : pool.workerThread worker = .predicate)
      (running : pool.stop = false) (empty : pool.tasks = []) :
      Move numThreads numCallers pool (.worker worker)
        (pool.setWorker worker .park)
  | park (worker : WorkerId) (bound : worker < numThreads)
      (at_point : pool.workerThread worker = .park) :
      Move numThreads numCallers pool (.worker worker)
        ({ pool with queueMutex := none }.setWorker worker .parked)
  | exit (worker : WorkerId) (bound : worker < numThreads)
      (at_point : pool.workerThread worker = .exitTest)
      (stopped : pool.stop = true) (empty : pool.tasks = []) :
      Move numThreads numCallers pool (.worker worker)
        ({ pool with queueMutex := none }.setWorker worker .exited)
  | proceed (worker : WorkerId) (bound : worker < numThreads)
      (at_point : pool.workerThread worker = .exitTest)
      (more : pool.stop = false ∨ pool.tasks ≠ []) :
      Move numThreads numCallers pool (.worker worker)
        (pool.setWorker worker .take)
  | take (worker : WorkerId) (task : Task π φ) (rest : List (Task π φ))
      (bound : worker < numThreads)
      (at_point : pool.workerThread worker = .take)
      (queue : pool.tasks = task :: rest) :
      Move numThreads numCallers pool (.worker worker)
        ((pool.pop worker task rest).setWorker worker
          (.unlock pool.dequeued.length task))
  | workerUnlock (worker : WorkerId) (ticket : Ticket) (task : Task π φ)
      (bound : worker < numThreads)
      (at_point : pool.workerThread worker = .unlock ticket task) :
      Move numThreads numCallers pool (.worker worker)
        ({ pool with queueMutex := none }.setWorker worker
          (.execute ticket task))
  | execute (worker : WorkerId) (ticket : Ticket) (task : Task π φ)
      (bound : worker < numThreads)
      (at_point : pool.workerThread worker = .execute ticket task) :
      Move numThreads numCallers pool (.worker worker)
        ((pool.call worker ticket task).setWorker worker
          (.executing ticket task))
  | finish (worker : WorkerId) (ticket : Ticket) (task : Task π φ)
      (bound : worker < numThreads)
      (at_point : pool.workerThread worker = .executing ticket task) :
      Move numThreads numCallers pool (.worker worker)
        ({ pool with finished := pool.finished ++ [ticket] }.setWorker worker
          .loop)
  | spurious (worker : WorkerId)
      (parked : pool.workerThread worker = .parked) :
      Move numThreads numCallers pool (.spurious worker)
        (pool.setWorker worker .woken)
  | beginDestructor (at_point : pool.destructor = .idle) :
      Move numThreads numCallers pool .destructor
        { pool with destructor := .storeStop, due := pool.returnedCalls }
  | storeStop (at_point : pool.destructor = .storeStop) :
      Move numThreads numCallers pool .destructor
        { pool with stop := true, destructor := .notifyAll }
  | notifyAll (at_point : pool.destructor = .notifyAll) :
      Move numThreads numCallers pool .destructor
        { pool.wakeAll with destructor := .joining 0 }
  | join (worker : WorkerId) (bound : worker < numThreads)
      (at_point : pool.destructor = .joining worker)
      (ended : pool.workerThread worker = .exited) :
      Move numThreads numCallers pool .destructor
        { pool with destructor := .joining (worker + 1) }
  | joined (worker : WorkerId) (all : numThreads ≤ worker)
      (at_point : pool.destructor = .joining worker) :
      Move numThreads numCallers pool .destructor
        { pool with destructor := .returned }

/-- `execute` changes nothing but the history. -/
theorem call_eq (worker : WorkerId) (ticket : Ticket) (task : Task π φ) :
    pool.call worker ticket task =
      { pool with
          executions := (pool.call worker ticket task).executions } := by
  unfold call
  cases task.taskExecutionFunc with
  | none => rfl
  | some function => rfl

variable {numThreads numCallers : Nat} {before after : ThreadPool π φ}

theorem WorkerPoint.eq_parked {point : WorkerPoint π φ}
    (parked : point.isParked = true) : point = .parked := by
  cases point <;> first | rfl | cases parked

theorem WorkerPoint.eq_exited {point : WorkerPoint π φ}
    (ended : point.hasExited = true) : point = .exited := by
  cases point <;> first | rfl | cases ended

theorem move_of_callerStep {caller : CallerId}
    (taken : before.callerStep caller = some after) :
    Move numThreads numCallers before (.caller caller) after := by
  unfold callerStep at taken
  split at taken
  · split at taken
    · cases taken
      exact .callerLock _ _ ‹_› ‹_›
    · cases taken
  · cases taken
    exact .emplace _ _ ‹_›
  · cases taken
    exact .callerUnlock _ _ ‹_›
  · cases taken

theorem move_of_notifyOne {caller : CallerId} {woken : Option WorkerId}
    (taken : before.notifyOne numThreads caller woken = some after) :
    Move numThreads numCallers before (.notifyOne caller woken) after := by
  unfold ThreadPool.notifyOne at taken
  split at taken
  · split at taken
    · rename_i guard
      cases taken
      exact .notifyOne _ _ _ ‹_› guard.1 (WorkerPoint.eq_parked guard.2)
    · cases taken
  · split at taken
    · cases taken
      exact .notifyNone _ _ ‹_› ‹_›
    · cases taken
  · cases taken

theorem move_of_workerStep {worker : WorkerId} (bound : worker < numThreads)
    (taken : before.workerStep worker = some after) :
    Move numThreads numCallers before (.worker worker) after := by
  unfold workerStep at taken
  split at taken
  · rename_i at_point
    cases stopped : before.stop with
    | true =>
        simp only [stopped, if_true] at taken
        cases taken
        exact .leave _ bound at_point stopped
    | false =>
        simp only [stopped, Bool.false_eq_true, if_false] at taken
        cases taken
        exact .enter _ bound at_point stopped
  · split at taken
    · cases taken
      exact .workerLock _ bound (.inl ‹_›) ‹_›
    · cases taken
  · split at taken
    · cases taken
      exact .workerLock _ bound (.inr ‹_›) ‹_›
    · cases taken
  · rename_i at_point
    split at taken
    · rename_i holds
      cases taken
      exact .ready _ bound at_point (by simpa using holds)
    · rename_i fails
      cases taken
      simp only [Bool.or_eq_true, Bool.not_eq_true', not_or,
        Bool.not_eq_true, Bool.not_eq_false, List.isEmpty_iff] at fails
      exact .wait _ bound at_point fails.1 fails.2
  · cases taken
    exact .park _ bound ‹_›
  · rename_i at_point
    split at taken
    · rename_i ended
      cases taken
      simp only [Bool.and_eq_true, List.isEmpty_iff] at ended
      exact .exit _ bound at_point ended.1 ended.2
    · rename_i more
      cases taken
      simp only [Bool.and_eq_true, List.isEmpty_iff, not_and_or,
        Bool.not_eq_true] at more
      exact .proceed _ bound at_point more
  · split at taken
    · cases taken
    · cases taken
      exact .take _ _ _ bound ‹_› ‹_›
  · cases taken
    exact .workerUnlock _ _ _ bound ‹_›
  · cases taken
    exact .execute _ _ _ bound ‹_›
  · cases taken
    exact .finish _ _ _ bound ‹_›
  · cases taken
  · cases taken

theorem move_of_destructorStep
    (taken : before.destructorStep numThreads = some after) :
    Move numThreads numCallers before .destructor after := by
  unfold destructorStep at taken
  split at taken
  · cases taken
    exact .beginDestructor ‹_›
  · cases taken
    exact .storeStop ‹_›
  · cases taken
    exact .notifyAll ‹_›
  · split at taken
    · split at taken
      · rename_i ended
        cases taken
        exact .join _ ‹_› ‹_› (WorkerPoint.eq_exited ended)
      · cases taken
    · rename_i beyond
      cases taken
      exact .joined _ (Nat.le_of_not_lt beyond) ‹_›
  · cases taken

end ThreadPool

/-- The transition system of a pool with `numThreads` workers and `numCallers`
threads that may call `enqueueTask`. -/
def threadPool (π φ : Type) (numThreads numCallers : Nat) :
    TransitionSystem (ThreadPool π φ) (ThreadPool.Action π φ) where
  initial := fun pool => pool = ThreadPool.start
  step := fun pool => pool.step numThreads numCallers

/-- Every step of the transition system is one line of one thread. -/
theorem ThreadPool.move_of_step {π φ : Type} {numThreads numCallers : Nat}
    {before after : ThreadPool π φ} {action : ThreadPool.Action π φ}
    (taken :
      (threadPool π φ numThreads numCallers).step before action =
        some after) :
    Move numThreads numCallers before action after := by
  change before.step numThreads numCallers action = some after at taken
  cases action with
  | enqueueTask caller task =>
      simp only [step, ThreadPool.enqueueTask] at taken
      split at taken
      · split at taken
        · cases taken
          exact .enqueueTask _ _ ‹_› ‹_›
        · cases taken
      · cases taken
  | caller caller => exact move_of_callerStep taken
  | notifyOne caller woken => exact move_of_notifyOne taken
  | worker worker =>
      simp only [step] at taken
      split at taken
      · exact move_of_workerStep ‹_› taken
      · cases taken
  | spurious worker =>
      simp only [step] at taken
      split at taken
      · rename_i parked
        cases taken
        exact .spurious _ (WorkerPoint.eq_parked parked)
      · cases taken
  | destructor => exact move_of_destructorStep taken

namespace ThreadPool

/-- A run of the pool that can be replayed step by step. -/
theorem exists_pool_of_replay {π φ : Type} (numThreads numCallers : Nat)
    (permitted : ThreadPool π φ → Action π φ → Prop)
    [∀ pool action, Decidable (permitted pool action)]
    (test : ThreadPool π φ → Prop) [DecidablePred test]
    (actions : List (Action π φ))
    (tested :
      ((threadPool π φ numThreads numCallers).replay permitted start
          actions).any
        (fun pool => test pool) = true) :
    ∃ pool,
      (threadPool π φ numThreads numCallers).Reached permitted pool ∧
        test pool :=
  TransitionSystem.exists_reached_of_replay actions rfl tested

/-! ## Schedules -/

/-- A caller goes through `enqueueTask` while no worker is parked. -/
def enqueue {π φ : Type} (caller : CallerId) (task : Task π φ) :
    List (Action π φ) :=
  [.enqueueTask caller task, .caller caller, .caller caller, .caller caller,
    .notifyOne caller none]

/-- A worker takes its next `count` lines. -/
def workerSteps {π φ : Type} (worker : WorkerId) (count : Nat) :
    List (Action π φ) :=
  List.replicate count (.worker worker)

/-- The destructor takes its next `count` lines. -/
def destructorSteps {π φ : Type} (count : Nat) : List (Action π φ) :=
  List.replicate count .destructor

end ThreadPool

end EventPlus

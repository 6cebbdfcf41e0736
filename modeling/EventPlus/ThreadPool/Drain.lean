/-
Module: EventPlus.ThreadPool.Drain
Purpose: Which tasks are executed when the destructor's joins are over.  A
  worker ends by its locked test only when the queue is empty, but by the test
  of its loop whatever the queue holds; so from the store of `m_stop` on, each
  worker takes one more task at most.
Trusted boundary: none
Main exports:
  ThreadPool.Executed, ThreadPool.Covered, ThreadPool.StopsCovered,
  ThreadPool.drained_iff, ThreadPool.task_dropped
-/
import EventPlus.ThreadPool.Conservation
import EventPlus.ThreadPool.Shutdown

namespace EventPlus

open Function (update)

namespace ThreadPool

variable {π φ : Type} {numThreads numCallers : Nat}
variable {pool before after : ThreadPool π φ}

/-- The function of a task, if it has one, has been called with its pointer. -/
def Called (pool : ThreadPool π φ) (ticket : Ticket) (task : Task π φ) :
    Prop :=
  ∀ function, task.taskExecutionFunc = some function →
    ∃ execution ∈ pool.executions,
      execution.ticket = ticket ∧
        execution.taskExecutionFunc = function ∧
        execution.eventStorePointer = task.eventStorePointer

/-- The task pushed under a ticket has been executed. -/
def Executed (pool : ThreadPool π φ) (ticket : Ticket) : Prop :=
  ticket ∈ pool.finished ∧
    ∀ task, pool.enqueued[ticket]? = some task → Called pool ticket task

/-- All tasks whose call had returned when the destructor started have been
popped. -/
def DuePopped (pool : ThreadPool π φ) : Prop :=
  ∀ ticket ∈ pool.due, ticket < pool.dequeued.length

/-- A worker past the loop's test that has not taken a task since.  Whatever
`m_stop` says by then, it takes one more task or finds the queue empty. -/
def WorkerPoint.pending : WorkerPoint π φ → Bool
  | .lock | .predicate | .park | .parked | .woken | .exitTest | .take => true
  | _ => false

/-- The number of pending workers. -/
def pendingWorkers (numThreads : Nat) (pool : ThreadPool π φ) : Nat :=
  census (List.range numThreads) WorkerPoint.pending pool.workerThread

/-- The tickets below this one have been popped, or are so near the head of the
queue that the pending workers reach them. -/
def reach (numThreads : Nat) (pool : ThreadPool π φ) : Ticket :=
  pool.dequeued.length + pool.pendingWorkers numThreads

/-- The pending workers are enough for the queue up to the last task that is
due. -/
def Covered (numThreads : Nat) (pool : ThreadPool π φ) : Prop :=
  ∀ ticket ∈ pool.due, ticket < pool.reach numThreads

/-- The destructor stores `m_stop` while the pending workers are enough. -/
def StopsCovered (numThreads : Nat) (pool : ThreadPool π φ)
    (action : Action π φ) : Prop :=
  action = .destructor → pool.destructor = .storeStop →
    Covered numThreads pool

/-! ## Workers that have ended -/

/-- What a step may do to a worker: nothing, wake it up, or one line of its
own. -/
def WorkerChange (numThreads : Nat) (action : Action π φ) (worker : WorkerId)
    (old new : WorkerPoint π φ) : Prop :=
  new = old ∨ (old = .parked ∧ new = .woken) ∨
    (action = .worker worker ∧ worker < numThreads ∧ old ≠ .exited)

theorem Move.workerChange {action : Action π φ}
    (move : Move numThreads numCallers before action after)
    (worker : WorkerId) :
    WorkerChange numThreads action worker (before.workerThread worker)
      (after.workerThread worker) := by
  have own : ∀ (base : ThreadPool π φ) (mover : WorkerId)
      (point : WorkerPoint π φ), base.workerThread = before.workerThread →
      mover < numThreads → action = .worker mover →
      before.workerThread mover ≠ .exited →
      WorkerChange numThreads action worker (before.workerThread worker)
        ((base.setWorker mover point).workerThread worker) := by
    intro base mover point same bound acts alive
    by_cases here : worker = mover
    · subst here
      exact .inr (.inr ⟨acts, bound, alive⟩)
    · left
      simp only [setWorker, Function.update_of_ne here, same]
  have wakes : ∀ mover, before.workerThread mover = .parked →
      WorkerChange numThreads action worker (before.workerThread worker)
        ((before.setWorker mover .woken).workerThread worker) := by
    intro mover parked
    by_cases here : worker = mover
    · subst here
      right
      left
      constructor
      · exact parked
      · simp only [setWorker, Function.update_self]
    · left
      simp only [setWorker, Function.update_of_ne here]
  cases move with
  | notifyOne caller ticket mover at_point bound parked =>
      exact wakes mover parked
  | leave mover bound at_point stopped =>
      exact own before mover .exited rfl bound rfl (by simp [at_point])
  | enter mover bound at_point running =>
      exact own before mover .lock rfl bound rfl (by simp [at_point])
  | workerLock mover bound at_point free =>
      apply own { before with queueMutex := some (.worker mover) } mover
        .predicate rfl bound rfl
      rcases at_point with at_point | at_point
      · simp [at_point]
      · simp [at_point]
  | ready mover bound at_point holds =>
      exact own before mover .exitTest rfl bound rfl (by simp [at_point])
  | wait mover bound at_point running empty =>
      exact own before mover .park rfl bound rfl (by simp [at_point])
  | park mover bound at_point =>
      exact own { before with queueMutex := none } mover .parked rfl bound rfl
        (by simp [at_point])
  | exit mover bound at_point stopped empty =>
      exact own { before with queueMutex := none } mover .exited rfl bound rfl
        (by simp [at_point])
  | proceed mover bound at_point more =>
      exact own before mover .take rfl bound rfl (by simp [at_point])
  | take mover task rest bound at_point queue =>
      exact own (before.pop mover task rest) mover
        (.unlock before.dequeued.length task) rfl bound rfl
        (by simp [at_point])
  | workerUnlock mover ticket task bound at_point =>
      exact own { before with queueMutex := none } mover
        (.execute ticket task) rfl bound rfl (by simp [at_point])
  | execute mover ticket task bound at_point =>
      rw [call_eq]
      exact own
        { before with
            executions := (before.call mover ticket task).executions }
        mover (.executing ticket task) rfl bound rfl (by simp [at_point])
  | finish mover ticket task bound at_point =>
      exact own { before with finished := before.finished ++ [ticket] } mover
        .loop rfl bound rfl (by simp [at_point])
  | spurious mover parked => exact wakes mover parked
  | notifyAll at_point =>
      simp only [wakeAll]
      split
      · rename_i parked
        right
        left
        constructor
        · exact WorkerPoint.eq_parked parked
        · rfl
      · left
        rfl
  | _ =>
      left
      rfl

/-- Only the pool's workers leave the start of the loop. -/
theorem worker_lt_of_reachable
    (reachable : (threadPool π φ numThreads numCallers).Reachable pool) :
    ∀ worker, pool.workerThread worker ≠ .loop → worker < numThreads := by
  refine TransitionSystem.Reachable.invariant ?_ ?_ reachable
  · intro state initially worker moved
    cases initially
    exact absurd rfl moved
  · intro before action after _ taken bounded worker moved
    rcases (move_of_step taken).workerChange worker with same | woken | acts
    · apply bounded
      rw [← same]
      exact moved
    · apply bounded
      rw [woken.1]
      intro impossible
      cases impossible
    · exact acts.2.1

/-- A worker that has returned does not come back. -/
theorem Move.exited_stays {action : Action π φ}
    (move : Move numThreads numCallers before action after)
    {worker : WorkerId} (ended : before.workerThread worker = .exited) :
    after.workerThread worker = .exited := by
  rcases move.workerChange worker with same | woken | acts
  · rw [same]
    exact ended
  · cases ended.symm.trans woken.1
  · exact absurd ended acts.2.2

/-- Workers return only while the pool is being stopped. -/
theorem stop_of_exited
    (reachable : (threadPool π φ numThreads numCallers).Reachable pool) :
    ∀ worker, pool.workerThread worker = .exited → pool.stop = true := by
  refine TransitionSystem.Reachable.invariant ?_ ?_ reachable
  · intro state initially worker ended
    cases initially
    cases ended
  · intro before action after _ taken stopping worker ended
    have old : after.stop = before.stop →
        before.workerThread worker = .exited → after.stop = true := by
      intro same earlier
      rw [same]
      exact stopping worker earlier
    have others : ∀ (mover : WorkerId) (point : WorkerPoint π φ),
        (before.setWorker mover point).workerThread worker = .exited →
        point ≠ .exited → before.stop = true := by
      intro mover point still away
      by_cases here : worker = mover
      · subst here
        simp only [setWorker, Function.update_self] at still
        exact absurd still away
      · simp only [setWorker, Function.update_of_ne here] at still
        exact stopping worker still
    cases move_of_step taken with
    | notifyOne caller ticket mover at_point bound parked =>
        exact others mover .woken ended (by simp)
    | leave mover bound at_point stopped => exact stopped
    | enter mover bound at_point running =>
        exact others mover .lock ended (by simp)
    | workerLock mover bound at_point free =>
        exact others mover .predicate ended (by simp)
    | ready mover bound at_point holds =>
        exact others mover .exitTest ended (by simp)
    | wait mover bound at_point running empty =>
        exact others mover .park ended (by simp)
    | park mover bound at_point => exact others mover .parked ended (by simp)
    | exit mover bound at_point stopped empty => exact stopped
    | proceed mover bound at_point more =>
        exact others mover .take ended (by simp)
    | take mover task rest bound at_point queue =>
        exact others mover (.unlock before.dequeued.length task) ended
          (by simp)
    | workerUnlock mover ticket task bound at_point =>
        exact others mover (.execute ticket task) ended (by simp)
    | execute mover ticket task bound at_point =>
        rw [call_eq] at ended ⊢
        exact others mover (.executing ticket task) ended (by simp)
    | finish mover ticket task bound at_point =>
        exact others mover .loop ended (by simp)
    | spurious mover parked => exact others mover .woken ended (by simp)
    | storeStop at_point => rfl
    | notifyAll at_point =>
        simp only [wakeAll] at ended
        split at ended
        · cases ended
        · exact stopping worker ended
    | _ => exact stopping worker ended

/-- The workers whose join is over. -/
def DestructorPoint.hasJoined : DestructorPoint → WorkerId → Prop
  | .joining next, worker => worker < next
  | .returned, _ => True
  | _, _ => False

/-- The destructor goes past a worker's join only when the worker has
returned. -/
theorem exited_of_hasJoined
    (reachable : (threadPool π φ numThreads numCallers).Reachable pool) :
    ∀ worker < numThreads, pool.destructor.hasJoined worker →
      pool.workerThread worker = .exited := by
  refine TransitionSystem.Reachable.invariant ?_ ?_ reachable
  · intro state initially worker bound joined
    cases initially
    cases joined
  · intro before action after _ taken exited worker bound joined
    have move := move_of_step taken
    have kept : before.destructor.hasJoined worker →
        after.workerThread worker = .exited := by
      intro earlier
      exact move.exited_stays (exited worker bound earlier)
    cases move with
    | execute mover ticket task bound at_point =>
        rw [call_eq] at joined
        exact kept joined
    | beginDestructor at_point => cases joined
    | storeStop at_point => cases joined
    | notifyAll at_point => cases joined
    | join next bound at_point ended =>
        by_cases same : worker = next
        · rw [same]
          exact ended
        · apply kept
          rw [at_point]
          exact Nat.lt_of_le_of_ne (Nat.le_of_lt_succ joined) same
    | joined next all at_point =>
        apply kept
        rw [at_point]
        exact Nat.lt_of_lt_of_le bound all
    | _ => exact kept joined

/-! ## Tickets -/

/-- The ticket of a call that has pushed its task. -/
def CallerPoint.ticket : CallerPoint π φ → Option Ticket
  | .unlock ticket | .notifyOne ticket => some ticket
  | _ => none

/-- Every ticket in the pool's books stands for a pushed task. -/
structure TicketsGiven (pool : ThreadPool π φ) : Prop where
  calling : ∀ caller ticket,
    (pool.callerThread caller).ticket = some ticket →
      ticket < pool.enqueued.length
  returned : ∀ ticket ∈ pool.returnedCalls, ticket < pool.enqueued.length
  due : ∀ ticket ∈ pool.due, ticket < pool.enqueued.length

namespace TicketsGiven

/-- A caller moves and keeps its ticket or gives it up. -/
theorem setCaller (given : TicketsGiven pool) {caller : CallerId}
    {point : CallerPoint π φ}
    (kept : ∀ ticket, point.ticket = some ticket →
      ticket < pool.enqueued.length) :
    TicketsGiven (pool.setCaller caller point) :=
  { given with
    calling := by
      intro other ticket has
      by_cases same : other = caller
      · subst same
        simp only [ThreadPool.setCaller, Function.update_self] at has
        exact kept ticket has
      · simp only [ThreadPool.setCaller, Function.update_of_ne same] at has
        exact given.calling other ticket has }

theorem emplace (given : TicketsGiven pool) (task : Task π φ) :
    TicketsGiven (pool.emplace task) where
  calling := by
    intro caller ticket has
    simp only [ThreadPool.emplace, List.length_append]
    exact Nat.lt_add_right _ (given.calling caller ticket has)
  returned := by
    intro ticket member
    simp only [ThreadPool.emplace, List.length_append]
    exact Nat.lt_add_right _ (given.returned ticket member)
  due := by
    intro ticket member
    simp only [ThreadPool.emplace, List.length_append]
    exact Nat.lt_add_right _ (given.due ticket member)

/-- A call returns. -/
theorem leaveCall (given : TicketsGiven pool) {caller : CallerId}
    {ticket : Ticket}
    (at_point : pool.callerThread caller = .notifyOne ticket) :
    TicketsGiven
      ({ pool with
          returnedCalls := pool.returnedCalls ++ [ticket] }.setCaller caller
        .outside) := by
  have bound : ticket < pool.enqueued.length := by
    apply given.calling caller
    rw [at_point]
    rfl
  have ended : TicketsGiven (pool.setCaller caller .outside) := by
    apply given.setCaller
    intro other has
    cases has
  refine { ended with returned := ?_ }
  intro other member
  rcases List.mem_append.mp member with earlier | latest
  · exact given.returned other earlier
  · rw [List.mem_singleton.mp latest]
    exact bound

theorem step {action : Action π φ} (given : TicketsGiven before)
    (move : Move numThreads numCallers before action after) :
    TicketsGiven after := by
  cases move with
  | enqueueTask caller task at_point bound =>
      apply given.setCaller
      intro ticket has
      cases has
  | callerLock caller task at_point free =>
      have moved : TicketsGiven (before.setCaller caller (.emplace task)) := by
        apply given.setCaller
        intro ticket has
        cases has
      exact { moved with }
  | emplace caller task at_point =>
      apply (given.emplace task).setCaller
      intro ticket has
      cases has
      simp [ThreadPool.emplace]
  | callerUnlock caller ticket at_point =>
      have moved : TicketsGiven
          (before.setCaller caller (.notifyOne ticket)) := by
        apply given.setCaller
        intro other has
        cases has
        apply given.calling caller
        rw [at_point]
        rfl
      exact { moved with }
  | notifyOne caller ticket worker at_point bound parked =>
      exact { given.leaveCall at_point with }
  | notifyNone caller ticket at_point unparked =>
      exact given.leaveCall at_point
  | execute worker ticket task bound at_point =>
      rw [call_eq]
      exact { given with }
  | beginDestructor at_point => exact { given with due := given.returned }
  | _ => exact { given with }

end TicketsGiven

theorem ticketsGiven_of_reachable
    (reachable : (threadPool π φ numThreads numCallers).Reachable pool) :
    TicketsGiven pool := by
  refine TransitionSystem.Reachable.invariant ?_ ?_ reachable
  · intro state initially
    cases initially
    constructor
    · intro caller ticket has
      cases has
    · intro ticket member
      cases member
    · intro ticket member
      cases member
  · intro before action after _ taken given
    exact given.step (move_of_step taken)

/-- With an empty queue every task that is due has been popped. -/
theorem duePopped_of_empty
    (reachable : (threadPool π φ numThreads numCallers).Reachable pool)
    (empty : pool.tasks = []) : DuePopped pool := by
  intro ticket member
  have pushed := (ticketsGiven_of_reachable reachable).due ticket member
  rw [(conserved_of_reachable reachable).enqueued_eq, empty,
    List.append_nil, List.length_map] at pushed
  exact pushed

/-! ## Calls -/

/-- A task whose `execute` has run has had its function called. -/
structure CallsMade (pool : ThreadPool π φ) : Prop where
  executing : ∀ worker ticket task,
    pool.workerThread worker = .executing ticket task →
      Called pool ticket task
  finished : ∀ ticket ∈ pool.finished, ∀ worker task,
    pool.dequeued[ticket]? = some (worker, task) → Called pool ticket task

namespace CallsMade

theorem setWorker (made : CallsMade pool) {worker : WorkerId}
    {point : WorkerPoint π φ}
    (called : ∀ ticket task, point = .executing ticket task →
      Called pool ticket task) :
    CallsMade (pool.setWorker worker point) where
  executing := by
    intro other ticket task at_point
    by_cases same : other = worker
    · subst same
      simp only [ThreadPool.setWorker, Function.update_self] at at_point
      exact called ticket task at_point
    · simp only [ThreadPool.setWorker, Function.update_of_ne same] at at_point
      exact made.executing other ticket task at_point
  finished := made.finished

/-- A worker moves to a place before or after the call. -/
theorem setWorkerOutside (made : CallsMade pool) {worker : WorkerId}
    {point : WorkerPoint π φ}
    (outside : ∀ ticket task, point ≠ .executing ticket task) :
    CallsMade (pool.setWorker worker point) := by
  apply made.setWorker
  intro ticket task at_point
  exact absurd at_point (outside ticket task)

/-- `execute` calls the function, if there is one. -/
theorem called_call (worker : WorkerId) (ticket : Ticket) (task : Task π φ) :
    Called (pool.call worker ticket task) ticket task := by
  intro function has
  simp only [call, has]
  refine ⟨_, List.mem_append_right _ (List.mem_singleton.mpr rfl), ?_⟩
  exact ⟨rfl, rfl, rfl⟩

/-- Later calls do not undo a call. -/
theorem called_mono {ticket : Ticket} {task : Task π φ}
    (called : Called pool ticket task) (worker : WorkerId) (later : Ticket)
    (other : Task π φ) :
    Called (pool.call worker later other) ticket task := by
  intro function has
  obtain ⟨execution, member, same⟩ := called function has
  refine ⟨execution, ?_, same⟩
  unfold call
  cases other.taskExecutionFunc with
  | none => exact member
  | some action => exact List.mem_append_left _ member

theorem execute (made : CallsMade pool) (worker : WorkerId)
    (ticket : Ticket) (task : Task π φ) :
    CallsMade
      ((pool.call worker ticket task).setWorker worker
        (.executing ticket task)) := by
  have grown : CallsMade (pool.call worker ticket task) := by
    constructor
    · intro other later held at_point
      rw [call_eq] at at_point
      exact called_mono (made.executing other later held at_point) _ _ _
    · intro later member other held found
      rw [call_eq] at member found
      exact called_mono (made.finished later member other held found) _ _ _
  apply grown.setWorker
  intro later held same
  cases same
  exact called_call worker ticket task

theorem take (made : CallsMade pool) (conserved : Conserved pool)
    (worker : WorkerId) (task : Task π φ) (rest : List (Task π φ)) :
    CallsMade (pool.pop worker task rest) where
  executing := made.executing
  finished := by
    intro ticket member other held found
    have bound := conserved.finished_lt ticket member
    simp only [pop, List.getElem?_append_left bound] at found
    exact made.finished ticket member other held found

theorem finish (made : CallsMade pool) (conserved : Conserved pool)
    {worker : WorkerId} {ticket : Ticket} {task : Task π φ}
    (at_point : pool.workerThread worker = .executing ticket task) :
    CallsMade
      ({ pool with finished := pool.finished ++ [ticket] }.setWorker worker
        .loop) := by
  have moved : CallsMade (pool.setWorker worker .loop) := by
    apply made.setWorkerOutside
    simp
  refine { moved with finished := ?_ }
  intro later member other held found
  rcases List.mem_append.mp member with earlier | latest
  · exact made.finished later earlier other held found
  · cases List.mem_singleton.mp latest
    have entry : pool.dequeued[ticket]? = some (worker, task) := by
      apply conserved.held_entry
      rw [at_point]
      rfl
    cases entry.symm.trans found
    exact made.executing worker ticket task at_point

theorem step {action : Action π φ} (made : CallsMade before)
    (conserved : Conserved before)
    (move : Move numThreads numCallers before action after) :
    CallsMade after := by
  cases move with
  | notifyOne caller ticket worker at_point bound parked =>
      have moved : CallsMade (before.setWorker worker .woken) :=
        made.setWorkerOutside (by simp)
      exact { moved with }
  | leave worker bound at_point stopped =>
      exact made.setWorkerOutside (by simp)
  | enter worker bound at_point running =>
      exact made.setWorkerOutside (by simp)
  | workerLock worker bound at_point free =>
      have moved : CallsMade (before.setWorker worker .predicate) :=
        made.setWorkerOutside (by simp)
      exact { moved with }
  | ready worker bound at_point holds =>
      exact made.setWorkerOutside (by simp)
  | wait worker bound at_point running empty =>
      exact made.setWorkerOutside (by simp)
  | park worker bound at_point =>
      have moved : CallsMade (before.setWorker worker .parked) :=
        made.setWorkerOutside (by simp)
      exact { moved with }
  | exit worker bound at_point stopped empty =>
      have moved : CallsMade (before.setWorker worker .exited) :=
        made.setWorkerOutside (by simp)
      exact { moved with }
  | proceed worker bound at_point more =>
      exact made.setWorkerOutside (by simp)
  | take worker task rest bound at_point queue =>
      exact (made.take conserved worker task rest).setWorkerOutside (by simp)
  | workerUnlock worker ticket task bound at_point =>
      have moved : CallsMade (before.setWorker worker (.execute ticket task)) :=
        made.setWorkerOutside (by simp)
      exact { moved with }
  | execute worker ticket task bound at_point =>
      exact made.execute worker ticket task
  | finish worker ticket task bound at_point =>
      exact made.finish conserved at_point
  | spurious worker parked => exact made.setWorkerOutside (by simp)
  | notifyAll at_point =>
      refine { made with executing := ?_ }
      intro worker ticket task here
      simp only [wakeAll] at here
      split at here
      · cases here
      · exact made.executing worker ticket task here
  | _ => exact { made with }

end CallsMade

theorem callsMade_of_reachable
    (reachable : (threadPool π φ numThreads numCallers).Reachable pool) :
    CallsMade pool := by
  refine TransitionSystem.Reachable.invariant ?_ ?_ reachable
  · intro state initially
    cases initially
    constructor
    · intro worker ticket task at_point
      cases at_point
    · intro ticket member
      cases member
  · intro before action after reached taken made
    exact made.step (conserved_of_reachable reached) (move_of_step taken)

/-- When no worker is left, the tasks executed are the tasks popped. -/
theorem executed_iff
    (reachable : (threadPool π φ numThreads numCallers).Reachable pool)
    (ended : ∀ worker < numThreads, pool.workerThread worker = .exited)
    (ticket : Ticket) :
    Executed pool ticket ↔ ticket < pool.dequeued.length := by
  have conserved := conserved_of_reachable reachable
  constructor
  · intro executed
    exact conserved.finished_lt ticket executed.1
  · intro popped
    obtain ⟨⟨worker, task⟩, found⟩ :
        ∃ entry, pool.dequeued[ticket]? = some entry :=
      ⟨_, List.getElem?_eq_getElem popped⟩
    have finished : ticket ∈ pool.finished := by
      by_contra unfinished
      have held := conserved.kept ticket worker task found unfinished
      have away : pool.workerThread worker ≠ .loop := by
        intro at_loop
        rw [at_loop] at held
        cases held
      rw [ended worker (worker_lt_of_reachable reachable worker away)] at held
      cases held
    constructor
    · exact finished
    · intro pushed at_ticket
      cases at_ticket.symm.trans (conserved.enqueued_of_entry found)
      exact (callsMade_of_reachable reachable).finished ticket finished worker
        task found

/-! ## What the pending workers reach -/

theorem pendingWorkers_setWorker (pool : ThreadPool π φ) {worker : WorkerId}
    (bound : worker < numThreads) (point : WorkerPoint π φ) :
    (pool.setWorker worker point).pendingWorkers numThreads +
        (pool.workerThread worker).pending.toNat =
      pool.pendingWorkers numThreads + point.pending.toNat :=
  Census.census_move List.nodup_range (List.mem_range.mpr bound) point

/-- A worker moves between two places of one kind. -/
theorem reach_setWorker (pool : ThreadPool π φ) {worker : WorkerId}
    (bound : worker < numThreads) {point : WorkerPoint π φ}
    (same : point.pending = (pool.workerThread worker).pending) :
    (pool.setWorker worker point).reach numThreads =
      pool.reach numThreads := by
  have moved := pendingWorkers_setWorker pool bound point
  rw [same] at moved
  exact congrArg (pool.dequeued.length + ·) (Nat.add_right_cancel moved)

/-- A pending worker takes its task. -/
theorem reach_take {worker : WorkerId} (bound : worker < numThreads)
    (at_point : pool.workerThread worker = .take) (task : Task π φ)
    (rest : List (Task π φ)) {ticket : Ticket} :
    ((pool.pop worker task rest).setWorker worker
        (.unlock ticket task)).reach numThreads = pool.reach numThreads := by
  have moved := pendingWorkers_setWorker pool bound (.unlock ticket task)
  rw [at_point] at moved
  simp only [WorkerPoint.pending, Bool.toNat_true, Bool.toNat_false] at moved
  change (pool.dequeued ++ [(worker, task)]).length +
    (pool.setWorker worker _).pendingWorkers numThreads = _
  rw [List.length_append, List.length_singleton, reach]
  omega

/-- Waking everybody moves nobody past a test. -/
theorem reach_wakeAll (numThreads : Nat) (pool : ThreadPool π φ) :
    pool.wakeAll.reach numThreads = pool.reach numThreads := by
  have same : ∀ worker, (pool.wakeAll.workerThread worker).pending =
      (pool.workerThread worker).pending := by
    intro worker
    simp only [wakeAll]
    split
    · rename_i parked
      rw [WorkerPoint.eq_parked parked]
      rfl
    · rfl
  unfold reach pendingWorkers census
  simp only [same]
  rfl

/-- While the pool is being stopped no worker becomes pending.  One stops being
pending when it takes a task, or when it finds the queue empty. -/
theorem reach_of_stopped {action : Action π φ}
    (reachable : (threadPool π φ numThreads numCallers).Reachable before)
    (stopped : before.stop = true)
    (move : Move numThreads numCallers before action after) :
    after.reach numThreads = before.reach numThreads ∨
      (before.tasks = [] ∧ after.dequeued = before.dequeued ∧
        after.reach numThreads ≤ before.reach numThreads) := by
  cases move with
  | leave worker bound at_point _ =>
      exact .inl (reach_setWorker _ bound (by rw [at_point]; rfl))
  | enter worker bound at_point running => cases running.symm.trans stopped
  | workerLock worker bound at_point free =>
      left
      apply reach_setWorker before bound
      rcases at_point with at_point | at_point
      · rw [at_point]
        rfl
      · rw [at_point]
        rfl
  | ready worker bound at_point holds =>
      exact .inl (reach_setWorker _ bound (by rw [at_point]; rfl))
  | wait worker bound at_point running empty =>
      cases running.symm.trans stopped
  | park worker bound at_point =>
      left
      apply reach_setWorker before bound
      rw [at_point]
      rfl
  | exit worker bound at_point _ empty =>
      right
      have moved := pendingWorkers_setWorker before bound .exited
      refine ⟨empty, rfl, Nat.add_le_add_left ?_ _⟩
      change (before.setWorker worker .exited).pendingWorkers numThreads ≤ _
      simp only [WorkerPoint.pending, Bool.toNat_false] at moved
      omega
  | proceed worker bound at_point more =>
      exact .inl (reach_setWorker _ bound (by rw [at_point]; rfl))
  | take worker task rest bound at_point queue =>
      exact .inl (reach_take bound at_point task rest)
  | workerUnlock worker ticket task bound at_point =>
      left
      apply reach_setWorker before bound
      rw [at_point]
      rfl
  | execute worker ticket task bound at_point =>
      left
      rw [call_eq]
      apply reach_setWorker before bound
      rw [at_point]
      rfl
  | finish worker ticket task bound at_point =>
      left
      apply reach_setWorker before bound
      rw [at_point]
      rfl
  | notifyOne caller ticket worker at_point bound parked =>
      left
      apply reach_setWorker before bound
      rw [parked]
      rfl
  | spurious worker parked =>
      have bound := worker_lt_of_reachable reachable worker (by simp [parked])
      exact .inl (reach_setWorker _ bound (by rw [parked]; rfl))
  | notifyAll at_point => exact .inl (reach_wakeAll numThreads before)
  | _ => exact .inl rfl

/-- What is due does not change once the flag is set. -/
theorem due_of_stopped {action : Action π φ}
    (reachable : (threadPool π φ numThreads numCallers).Reachable before)
    (stopped : before.stop = true)
    (move : Move numThreads numCallers before action after) :
    after.stop = true ∧ after.due = before.due := by
  cases move with
  | beginDestructor at_point =>
      exact absurd at_point ((stop_of_reachable reachable).mp stopped).1
  | storeStop at_point =>
      exact absurd at_point ((stop_of_reachable reachable).mp stopped).2
  | execute worker ticket task bound at_point =>
      rw [call_eq]
      exact ⟨stopped, rfl⟩
  | _ => exact ⟨stopped, rfl⟩

/-- Only the destructor's store sets the flag. -/
theorem stopped_of_step {action : Action π φ}
    (move : Move numThreads numCallers before action after)
    (stopped : after.stop = true) :
    before.stop = true ∨
      (action = .destructor ∧ before.destructor = .storeStop ∧
        after.due = before.due ∧
        after.reach numThreads = before.reach numThreads) := by
  cases move with
  | storeStop at_point => exact .inr ⟨rfl, at_point, rfl, rfl⟩
  | execute worker ticket task bound at_point =>
      rw [call_eq] at stopped
      exact .inl stopped
  | _ => exact .inl stopped

/-- From the store on, the pending workers stay enough, or not enough. -/
theorem covered_iff_of_stopped {action : Action π φ}
    (reachable : (threadPool π φ numThreads numCallers).Reachable before)
    (stopped : before.stop = true)
    (move : Move numThreads numCallers before action after) :
    Covered numThreads after ↔ Covered numThreads before := by
  unfold Covered
  rw [(due_of_stopped reachable stopped move).2]
  rcases reach_of_stopped reachable stopped move with
    same | ⟨empty, popped, fewer⟩
  · rw [same]
  · constructor
    · intro covered ticket member
      exact Nat.lt_of_lt_of_le (covered ticket member) fewer
    · intro _ ticket member
      have bound := duePopped_of_empty reachable empty ticket member
      rw [← popped] at bound
      exact Nat.lt_of_lt_of_le bound (Nat.le_add_right _ _)

/-- Without workers, what is within reach has been popped. -/
theorem executed_iff_covered
    (reachable : (threadPool π φ numThreads numCallers).Reachable pool)
    (ended : ∀ worker < numThreads, pool.workerThread worker = .exited) :
    (∀ ticket ∈ pool.due, Executed pool ticket) ↔ Covered numThreads pool := by
  have nobody : pool.pendingWorkers numThreads = 0 := by
    apply Census.census_eq_zero.mpr
    intro worker member
    rw [ended worker (List.mem_range.mp member)]
    rfl
  simp only [executed_iff reachable ended, Covered, reach, nobody,
    Nat.add_zero]

/-- A run after which the destructor has returned has executed every task whose
`enqueueTask` returned before the destructor started exactly when `m_stop` was
stored with enough pending workers for the queue up to the last of these
tasks. -/
theorem drained_iff {actions : List (Action π φ)} {last : ThreadPool π φ}
    (ran : (threadPool π φ numThreads numCallers).run ThreadPool.start
      actions = some last)
    (returned : last.destructor = .returned) :
    (∀ ticket ∈ last.due, Executed last ticket) ↔
      (threadPool π φ numThreads numCallers).Along
        (StopsCovered numThreads) ThreadPool.start actions := by
  have initially :
      (threadPool π φ numThreads numCallers).Reachable ThreadPool.start :=
    .initial rfl
  have reachable := TransitionSystem.reachable_of_run initially ran
  have ended : ∀ worker < numThreads, last.workerThread worker = .exited := by
    intro worker bound
    apply exited_of_hasJoined reachable worker bound
    rw [returned]
    trivial
  have stopped : last.stop = true := by
    apply (stop_of_reachable reachable).mpr
    rw [returned]
    constructor
    · intro impossible
      cases impossible
    · intro impossible
      cases impossible
  have atEnd : (∀ ticket ∈ last.due, Executed last ticket) ↔
      (last.stop = true → Covered numThreads last) := by
    rw [executed_iff_covered reachable ended]
    exact ⟨fun covered _ => covered, fun covered => covered stopped⟩
  rw [atEnd]
  apply TransitionSystem.last_iff_along _ _ initially _ ran
  · intro before action after reached covered taken
    have move := move_of_step taken
    constructor
    · rintro kept rfl at_point
      cases move with
      | storeStop _ => exact kept rfl
      | beginDestructor elsewhere => cases at_point.symm.trans elsewhere
      | notifyAll elsewhere => cases at_point.symm.trans elsewhere
      | join _ _ elsewhere => cases at_point.symm.trans elsewhere
      | joined _ _ elsewhere => cases at_point.symm.trans elsewhere
    · intro stops flag
      rcases stopped_of_step move flag with
        earlier | ⟨acts, at_point, same_due, same_reach⟩
      · exact (covered_iff_of_stopped reached earlier move).mpr
          (covered earlier)
      · unfold Covered
        rw [same_due, same_reach]
        exact stops acts at_point
  · intro before action after reached missed taken kept
    apply missed
    intro flag
    have move := move_of_step taken
    exact (covered_iff_of_stopped reached flag move).mp
      (kept (due_of_stopped reached flag move).1)
  · intro flag
    cases flag

/-- One worker executes its task and then leaves by the loop's test. -/
theorem drained_iff_single :
    ∃ (actions : List (Action Nat Nat)) (last : ThreadPool Nat Nat),
      (threadPool Nat Nat 1 1).run ThreadPool.start actions = some last ∧
        (last.destructor = .returned ∧ last.due = [0] ∧
          last.finished = [0]) ∧
        ((∀ ticket ∈ last.due, Executed last ticket) ↔
          (threadPool Nat Nat 1 1).Along (StopsCovered 1) ThreadPool.start
            actions) := by
  obtain ⟨last, ran, atEnd⟩ :=
    TransitionSystem.exists_last_of_run
      (show ((threadPool Nat Nat 1 1).run ThreadPool.start
          (enqueue 0 { eventStorePointer := 7, taskExecutionFunc := some 1 } ++
            workerSteps 0 8 ++ destructorSteps 3 ++ workerSteps 0 1 ++
            destructorSteps 2)).any
          (fun pool =>
            pool.destructor = .returned ∧ pool.due = [0] ∧
              pool.finished = [0]) = true by decide)
  exact ⟨_, last, ran, atEnd, drained_iff ran atEnd.1⟩

/-- The flag is stored while the only worker executes the first of two tasks;
it leaves by the loop's test, and the second task is never executed. -/
theorem task_dropped :
    ∃ (actions : List (Action Nat Nat)) (last : ThreadPool Nat Nat),
      (threadPool Nat Nat 1 1).run ThreadPool.start actions = some last ∧
        last.destructor = .returned ∧
        ∃ ticket ∈ last.due, ¬Executed last ticket := by
  obtain ⟨last, ran, returned, due, missing⟩ :=
    TransitionSystem.exists_last_of_run
      (show ((threadPool Nat Nat 1 1).run ThreadPool.start
          (enqueue 0 { eventStorePointer := 7, taskExecutionFunc := some 1 } ++
            enqueue 0
              { eventStorePointer := 8, taskExecutionFunc := some 1 } ++
            workerSteps 0 7 ++ destructorSteps 3 ++ workerSteps 0 2 ++
            destructorSteps 2)).any
          (fun pool =>
            pool.destructor = .returned ∧ 1 ∈ pool.due ∧
              1 ∉ pool.finished) = true by decide)
  refine ⟨_, last, ran, returned, 1, due, ?_⟩
  intro executed
  exact missing executed.1

end ThreadPool

end EventPlus

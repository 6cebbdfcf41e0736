/-
Module: EventPlus.ThreadPool.Conservation
Purpose: No task is lost, duplicated or reordered on its way through the pool:
  the tasks pushed are the tasks popped followed by the queue, and each popped
  task is executed at most once, by the worker that popped it.
Trusted boundary: none
Main exports:
  ThreadPool.Conserved, ThreadPool.conserved_of_reachable,
  ThreadPool.tasks_conserved
-/
import Mathlib.Data.List.Nodup
import EventPlus.ThreadPool.Pool

namespace EventPlus

open Function (update)

namespace ThreadPool

variable {π φ : Type} {numThreads numCallers : Nat}
variable {pool before after : ThreadPool π φ}

/-- The ticket of a task that a worker has taken and not begun to execute. -/
def WorkerPoint.unexecuted : WorkerPoint π φ → Option Ticket
  | .unlock ticket _ | .execute ticket _ => some ticket
  | _ => none

theorem WorkerPoint.held_of_unexecuted {point : WorkerPoint π φ}
    {ticket : Ticket} (waiting : point.unexecuted = some ticket) :
    ∃ task, point.held = some (ticket, task) := by
  cases point with
  | unlock _ task =>
      cases waiting
      exact ⟨task, rfl⟩
  | execute _ task =>
      cases waiting
      exact ⟨task, rfl⟩
  | _ => cases waiting

/-- The queue and the workers against the history of the pool. -/
structure Conserved (pool : ThreadPool π φ) : Prop where
  enqueued_eq : pool.enqueued = pool.dequeued.map (·.2) ++ pool.tasks
  held_entry : ∀ worker ticket task,
    (pool.workerThread worker).held = some (ticket, task) →
      pool.dequeued[ticket]? = some (worker, task)
  held_unfinished : ∀ worker ticket task,
    (pool.workerThread worker).held = some (ticket, task) →
      ticket ∉ pool.finished
  kept : ∀ ticket worker task,
    pool.dequeued[ticket]? = some (worker, task) → ticket ∉ pool.finished →
      (pool.workerThread worker).held = some (ticket, task)
  finished_lt : ∀ ticket ∈ pool.finished, ticket < pool.dequeued.length
  executed_entry : ∀ execution ∈ pool.executions,
    pool.dequeued[execution.ticket]? =
      some
        (execution.worker,
          { eventStorePointer := execution.eventStorePointer
            taskExecutionFunc := some execution.taskExecutionFunc })
  executed_once : (pool.executions.map (·.ticket)).Nodup
  unexecuted : ∀ worker ticket,
    (pool.workerThread worker).unexecuted = some ticket →
      ∀ execution ∈ pool.executions, execution.ticket ≠ ticket

/-- A ticket with an entry is one of the tickets given out. -/
theorem lt_of_entry {ticket : Ticket} {entry : WorkerId × Task π φ}
    (found : pool.dequeued[ticket]? = some entry) :
    ticket < pool.dequeued.length :=
  (List.getElem?_eq_some_iff.mp found).1

/-- Later pops do not change an entry. -/
theorem entry_append {ticket : Ticket} {entry : WorkerId × Task π φ}
    (found : pool.dequeued[ticket]? = some entry)
    (more : List (WorkerId × Task π φ)) :
    (pool.dequeued ++ more)[ticket]? = some entry := by
  rw [List.getElem?_append_left (lt_of_entry found)]
  exact found

namespace Conserved

theorem start : Conserved (ThreadPool.start : ThreadPool π φ) where
  enqueued_eq := rfl
  held_entry := by
    intro worker ticket task held
    cases held
  held_unfinished := by
    intro worker ticket task held
    cases held
  kept := by
    intro ticket worker task found
    cases found
  finished_lt := by
    intro ticket member
    cases member
  executed_entry := by
    intro execution member
    cases member
  executed_once := List.nodup_nil
  unexecuted := by
    intro worker ticket waiting
    cases waiting

/-! ## Single changes -/

/-- Workers move without taking, executing or finishing a task. -/
theorem moveWorkers (conserved : Conserved pool)
    {threads : WorkerId → WorkerPoint π φ}
    (held : ∀ worker,
      (threads worker).held = (pool.workerThread worker).held)
    (unexecuted : ∀ worker ticket,
      (threads worker).unexecuted = some ticket →
        (pool.workerThread worker).unexecuted = some ticket) :
    Conserved { pool with workerThread := threads } where
  enqueued_eq := conserved.enqueued_eq
  held_entry := by
    intro worker ticket task holds
    apply conserved.held_entry worker ticket task
    rw [← held]
    exact holds
  held_unfinished := by
    intro worker ticket task holds
    apply conserved.held_unfinished worker ticket task
    rw [← held]
    exact holds
  kept := by
    intro ticket worker task found unfinished
    exact (held worker).trans
      (conserved.kept ticket worker task found unfinished)
  finished_lt := conserved.finished_lt
  executed_entry := conserved.executed_entry
  executed_once := conserved.executed_once
  unexecuted := by
    intro worker ticket waiting
    exact conserved.unexecuted worker ticket
      (unexecuted worker ticket waiting)

theorem setWorker (conserved : Conserved pool) {worker : WorkerId}
    {point : WorkerPoint π φ}
    (held : point.held = (pool.workerThread worker).held)
    (unexecuted : ∀ ticket, point.unexecuted = some ticket →
      (pool.workerThread worker).unexecuted = some ticket) :
    Conserved (pool.setWorker worker point) := by
  apply conserved.moveWorkers
  · intro other
    by_cases same : other = worker
    · subst same
      rw [Function.update_self]
      exact held
    · rw [Function.update_of_ne same]
  · intro other ticket waiting
    by_cases same : other = worker
    · subst same
      rw [Function.update_self] at waiting
      exact unexecuted ticket waiting
    · rw [Function.update_of_ne same] at waiting
      exact waiting

/-- A worker moves between two points at which it has no task. -/
theorem setWorkerIdle (conserved : Conserved pool) {worker : WorkerId}
    {from_ next : WorkerPoint π φ}
    (at_point : pool.workerThread worker = from_)
    (before : from_.held = none) (after : next.held = none) :
    Conserved (pool.setWorker worker next) := by
  apply conserved.setWorker
  · rw [at_point, before, after]
  · intro ticket waiting
    obtain ⟨task, held⟩ := WorkerPoint.held_of_unexecuted waiting
    cases after.symm.trans held

theorem wakeAll (conserved : Conserved pool) : Conserved pool.wakeAll := by
  apply conserved.moveWorkers
  · intro worker
    split
    · rename_i parked
      rw [WorkerPoint.eq_parked parked]
      rfl
    · rfl
  · intro worker ticket waiting
    split at waiting
    · cases waiting
    · exact waiting

theorem emplace (conserved : Conserved pool) (task : Task π φ) :
    Conserved (pool.emplace task) :=
  { conserved with
    enqueued_eq := by
      simp only [ThreadPool.emplace]
      rw [conserved.enqueued_eq, List.append_assoc] }

/-- The first task of the queue gets the next ticket. -/
theorem take (conserved : Conserved pool) {worker : WorkerId}
    {task : Task π φ} {rest : List (Task π φ)}
    (at_point : pool.workerThread worker = .take)
    (queue : pool.tasks = task :: rest) :
    Conserved
      ((pool.pop worker task rest).setWorker worker
        (.unlock pool.dequeued.length task)) := by
  have fresh : pool.dequeued.length ∉ pool.finished := fun member =>
    Nat.lt_irrefl _ (conserved.finished_lt _ member)
  have newest : (pool.dequeued ++ [(worker, task)])[pool.dequeued.length]? =
      some (worker, task) := List.getElem?_concat_length
  constructor
  · change pool.enqueued =
      (pool.dequeued ++ [(worker, task)]).map (·.2) ++ rest
    rw [conserved.enqueued_eq, queue]
    simp
  · intro other ticket held_task holds
    by_cases same : other = worker
    · subst same
      simp only [ThreadPool.setWorker, Function.update_self] at holds
      cases holds
      exact newest
    · simp only [ThreadPool.setWorker, Function.update_of_ne same] at holds
      exact entry_append (conserved.held_entry other ticket held_task holds) _
  · intro other ticket held_task holds
    by_cases same : other = worker
    · subst same
      simp only [ThreadPool.setWorker, Function.update_self] at holds
      cases holds
      exact fresh
    · simp only [ThreadPool.setWorker, Function.update_of_ne same] at holds
      exact conserved.held_unfinished other ticket held_task holds
  · intro ticket other entry found unfinished
    change (pool.dequeued ++ [(worker, task)])[ticket]? =
      some (other, entry) at found
    by_cases older : ticket < pool.dequeued.length
    · rw [List.getElem?_append_left older] at found
      have holds := conserved.kept ticket other entry found unfinished
      have elsewhere : other ≠ worker := by
        intro same
        rw [same, at_point] at holds
        cases holds
      simp only [ThreadPool.setWorker, Function.update_of_ne elsewhere]
      exact holds
    · have bound := (List.getElem?_eq_some_iff.mp found).1
      rw [List.length_append, List.length_singleton] at bound
      have last : ticket = pool.dequeued.length :=
        Nat.le_antisymm (Nat.le_of_lt_succ bound) (Nat.le_of_not_lt older)
      rw [last, newest] at found
      cases found
      simp [ThreadPool.setWorker, WorkerPoint.held, last]
  · intro ticket member
    have bound := conserved.finished_lt ticket member
    simp only [ThreadPool.setWorker, pop, List.length_append]
    exact Nat.lt_add_right _ bound
  · intro execution member
    exact entry_append (conserved.executed_entry execution member) _
  · exact conserved.executed_once
  · intro other ticket waiting execution member
    by_cases same : other = worker
    · subst same
      simp only [ThreadPool.setWorker, Function.update_self] at waiting
      cases waiting
      exact Nat.ne_of_lt
        (lt_of_entry (conserved.executed_entry execution member))
    · simp only [ThreadPool.setWorker, Function.update_of_ne same] at waiting
      exact conserved.unexecuted other ticket waiting execution member

/-- The ticket is also the task's place among the tasks pushed. -/
theorem enqueued_of_entry (conserved : Conserved pool) {ticket : Ticket}
    {worker : WorkerId} {task : Task π φ}
    (found : pool.dequeued[ticket]? = some (worker, task)) :
    pool.enqueued[ticket]? = some task := by
  have bound : ticket < (pool.dequeued.map (·.2)).length := by
    rw [List.length_map]
    exact lt_of_entry found
  rw [conserved.enqueued_eq, List.getElem?_append_left bound,
    List.getElem?_map, found]
  rfl

/-- A worker is the only one at its ticket. -/
theorem held_unique (conserved : Conserved pool) {first second : WorkerId}
    {ticket : Ticket} {one two : Task π φ}
    (here : (pool.workerThread first).held = some (ticket, one))
    (there : (pool.workerThread second).held = some (ticket, two)) :
    first = second := by
  have entry := (conserved.held_entry first ticket one here).symm.trans
    (conserved.held_entry second ticket two there)
  cases entry
  rfl

/-- The worker's own call is the first one for its ticket. -/
theorem execute (conserved : Conserved pool) {worker : WorkerId}
    {ticket : Ticket} {task : Task π φ}
    (at_point : pool.workerThread worker = .execute ticket task) :
    Conserved
      ((pool.call worker ticket task).setWorker worker
        (.executing ticket task)) := by
  have holds : (pool.workerThread worker).held = some (ticket, task) := by
    rw [at_point]
    rfl
  have moved : Conserved
      (pool.setWorker worker (.executing ticket task)) := by
    apply conserved.setWorker
    · rw [at_point]
      rfl
    · intro other waiting
      cases waiting
  cases function : task.taskExecutionFunc with
  | none =>
      have nothing : pool.call worker ticket task = pool := by
        simp [call, function]
      rw [nothing]
      exact moved
  | some action =>
      have entry := conserved.held_entry worker ticket task holds
      have first : ∀ execution ∈ pool.executions,
          execution.ticket ≠ ticket := by
        apply conserved.unexecuted worker ticket
        rw [at_point]
        rfl
      have result : pool.call worker ticket task =
          { pool with
              executions :=
                pool.executions ++
                  [{ worker := worker
                     ticket := ticket
                     taskExecutionFunc := action
                     eventStorePointer := task.eventStorePointer }] } := by
        simp [call, function]
      rw [result]
      refine
        { moved with
          executed_entry := ?_
          executed_once := ?_
          unexecuted := ?_ }
      · intro execution member
        rcases List.mem_append.mp member with earlier | latest
        · exact conserved.executed_entry execution earlier
        · cases List.mem_singleton.mp latest
          rw [← function]
          exact entry
      · simp only [ThreadPool.setWorker, List.map_append, List.map_cons,
          List.map_nil]
        apply List.nodup_append.mpr
        refine ⟨conserved.executed_once, List.nodup_singleton _, ?_⟩
        intro earlier earlier_member latest latest_member
        obtain ⟨execution, member, rfl⟩ := List.mem_map.mp earlier_member
        rw [List.mem_singleton.mp latest_member]
        exact first execution member
      · intro other later waiting execution member
        rcases List.mem_append.mp member with earlier | latest
        · exact moved.unexecuted other later waiting execution earlier
        · cases List.mem_singleton.mp latest
          intro same
          subst same
          by_cases here : other = worker
          · subst here
            simp only [ThreadPool.setWorker, Function.update_self] at waiting
            cases waiting
          · simp only [ThreadPool.setWorker, Function.update_of_ne here]
              at waiting
            -- both workers would hold the same ticket
            obtain ⟨task', held⟩ := WorkerPoint.held_of_unexecuted waiting
            exact here (conserved.held_unique held holds)

theorem finish (conserved : Conserved pool) {worker : WorkerId}
    {ticket : Ticket} {task : Task π φ}
    (at_point : pool.workerThread worker = .executing ticket task) :
    Conserved
      ({ pool with finished := pool.finished ++ [ticket] }.setWorker worker
        .loop) := by
  have holds : (pool.workerThread worker).held = some (ticket, task) := by
    rw [at_point]
    rfl
  have entry := conserved.held_entry worker ticket task holds
  constructor
  · exact conserved.enqueued_eq
  · intro other later held_task held
    by_cases same : other = worker
    · subst same
      simp only [ThreadPool.setWorker, Function.update_self] at held
      cases held
    · simp only [ThreadPool.setWorker, Function.update_of_ne same] at held
      exact conserved.held_entry other later held_task held
  · intro other later held_task held member
    by_cases same : other = worker
    · subst same
      simp only [ThreadPool.setWorker, Function.update_self] at held
      cases held
    · simp only [ThreadPool.setWorker, Function.update_of_ne same] at held
      rcases List.mem_append.mp member with earlier | latest
      · exact conserved.held_unfinished other later held_task held earlier
      · cases List.mem_singleton.mp latest
        exact same (conserved.held_unique held holds)
  · intro later other entered found unfinished
    have before_unfinished : later ∉ pool.finished := fun member =>
      unfinished (List.mem_append_left _ member)
    have held := conserved.kept later other entered found before_unfinished
    have elsewhere : other ≠ worker := by
      intro same
      rw [same, holds] at held
      cases held
      exact unfinished (List.mem_append_right _ (List.mem_singleton.mpr rfl))
    simp only [ThreadPool.setWorker, Function.update_of_ne elsewhere]
    exact held
  · intro later member
    rcases List.mem_append.mp member with earlier | latest
    · exact conserved.finished_lt later earlier
    · cases List.mem_singleton.mp latest
      exact lt_of_entry entry
  · exact conserved.executed_entry
  · exact conserved.executed_once
  · intro other later waiting
    by_cases same : other = worker
    · subst same
      simp only [ThreadPool.setWorker, Function.update_self] at waiting
      cases waiting
    · simp only [ThreadPool.setWorker, Function.update_of_ne same] at waiting
      exact conserved.unexecuted other later waiting

/-! ## Steps -/

theorem step {action : Action π φ} (conserved : Conserved before)
    (taken : Move numThreads numCallers before action after) :
    Conserved after := by
  cases taken with
  | emplace caller task at_point =>
      exact { conserved.emplace task with }
  | notifyOne caller ticket worker at_point bound parked =>
      have moved : Conserved (before.setWorker worker .woken) :=
        conserved.setWorkerIdle parked rfl rfl
      exact { moved with }
  | leave worker bound at_point stopped =>
      exact conserved.setWorkerIdle at_point rfl rfl
  | enter worker bound at_point running =>
      exact conserved.setWorkerIdle at_point rfl rfl
  | workerLock worker bound at_point free =>
      have moved : Conserved (before.setWorker worker .predicate) := by
        rcases at_point with at_point | at_point
        · exact conserved.setWorkerIdle at_point rfl rfl
        · exact conserved.setWorkerIdle at_point rfl rfl
      exact { moved with }
  | ready worker bound at_point holds =>
      exact conserved.setWorkerIdle at_point rfl rfl
  | wait worker bound at_point running empty =>
      exact conserved.setWorkerIdle at_point rfl rfl
  | park worker bound at_point =>
      have moved : Conserved (before.setWorker worker .parked) :=
        conserved.setWorkerIdle at_point rfl rfl
      exact { moved with }
  | exit worker bound at_point stopped empty =>
      have moved : Conserved (before.setWorker worker .exited) :=
        conserved.setWorkerIdle at_point rfl rfl
      exact { moved with }
  | proceed worker bound at_point more =>
      exact conserved.setWorkerIdle at_point rfl rfl
  | take worker task rest bound at_point queue =>
      exact conserved.take at_point queue
  | workerUnlock worker ticket task bound at_point =>
      have moved : Conserved
          (before.setWorker worker (.execute ticket task)) := by
        apply conserved.setWorker
        · rw [at_point]
          rfl
        · intro other waiting
          rw [at_point]
          exact waiting
      exact { moved with }
  | execute worker ticket task bound at_point =>
      exact conserved.execute at_point
  | finish worker ticket task bound at_point =>
      exact conserved.finish at_point
  | spurious worker parked =>
      exact conserved.setWorkerIdle parked rfl rfl
  | notifyAll at_point => exact { conserved.wakeAll with }
  | _ => exact { conserved with }

end Conserved

theorem conserved_of_reachable
    (reachable : (threadPool π φ numThreads numCallers).Reachable pool) :
    Conserved pool := by
  refine TransitionSystem.Reachable.invariant ?_ ?_ reachable
  · intro state initially
    cases initially
    exact Conserved.start
  · intro before action after _ taken conserved
    exact conserved.step (move_of_step taken)

/-- In every reachable state the tasks pushed are the tasks popped, in order,
followed by the queue.  A popped task is the one pushed under its ticket; until
its `execute` has returned it is with the worker that popped it and with no
other.  A ticket is executed at most once, by that worker, with the pointer and
the function it was pushed with. -/
theorem tasks_conserved
    (reachable : (threadPool π φ numThreads numCallers).Reachable pool) :
    pool.enqueued = pool.dequeued.map (·.2) ++ pool.tasks ∧
      (∀ ticket worker task,
        pool.dequeued[ticket]? = some (worker, task) →
          pool.enqueued[ticket]? = some task ∧
            (ticket ∉ pool.finished →
              (pool.workerThread worker).held = some (ticket, task)) ∧
            ∀ other held,
              (pool.workerThread other).held = some (ticket, held) →
                other = worker ∧ held = task ∧ ticket ∉ pool.finished) ∧
      (pool.executions.map (·.ticket)).Nodup ∧
      ∀ execution ∈ pool.executions,
        pool.dequeued[execution.ticket]? =
          some
            (execution.worker,
              { eventStorePointer := execution.eventStorePointer
                taskExecutionFunc := some execution.taskExecutionFunc }) := by
  have conserved := conserved_of_reachable reachable
  refine ⟨conserved.enqueued_eq, ?_, conserved.executed_once,
    conserved.executed_entry⟩
  intro ticket worker task found
  constructor
  · exact conserved.enqueued_of_entry found
  · constructor
    · exact conserved.kept ticket worker task found
    · intro other held holds
      have entry := found.symm.trans
        (conserved.held_entry other ticket held holds)
      cases entry
      exact ⟨rfl, rfl, conserved.held_unfinished worker ticket task holds⟩

/-- One task goes through a pool of two workers while a second one waits. -/
theorem tasks_conserved_one_of_two :
    ∃ pool : ThreadPool Nat Nat,
      (threadPool Nat Nat 2 1).Reachable pool ∧
        pool.dequeued.length = 1 ∧
        pool.tasks.length = 1 ∧
        pool.executions.length = 1 ∧
        pool.enqueued = pool.dequeued.map (·.2) ++ pool.tasks ∧
        (pool.executions.map (·.ticket)).Nodup := by
  obtain ⟨pool, reachable, popped, queued, executed⟩ :=
    exists_pool_of_replay 2 1 (fun _ _ => True)
      (fun pool : ThreadPool Nat Nat =>
        pool.dequeued.length = 1 ∧ pool.tasks.length = 1 ∧
          pool.executions.length = 1)
      (enqueue 0 { eventStorePointer := 7, taskExecutionFunc := some 1 } ++
        enqueue 0 { eventStorePointer := 8, taskExecutionFunc := some 1 } ++
          workerSteps 1 7)
      (by decide)
  have conserved := tasks_conserved reachable
  exact ⟨pool, reachable, popped, queued, executed, conserved.1,
    conserved.2.2.1⟩

end ThreadPool

end EventPlus

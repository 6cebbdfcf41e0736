/-
Module: EventPlus.ThreadPool.WorkView
Purpose: The pool, with its mutex, its waits and its notifications, is a work
  queue.
Trusted boundary: none
Main exports:
  ThreadPool.workView, ThreadPool.workEvent, ThreadPool.refines_workQueue,
  ThreadPool.pool_runs_as_workQueue
-/
import EventPlus.Library.Refinement
import EventPlus.Library.WorkQueue
import EventPlus.ThreadPool.Pool

namespace EventPlus

open Function (update)

namespace ThreadPool

variable {π φ : Type} {numThreads numCallers : Nat}

/-- A worker has its task from the pop to the return of `execute`. -/
def WorkerPoint.hand : WorkerPoint π φ → WorkQueue.Hand π
  | .unlock _ task | .execute _ task => .holding task.eventStorePointer
  | .executing _ task => .doing task.eventStorePointer
  | _ => .empty

/-- The pool without its mutex and its condition variable. -/
def workView (pool : ThreadPool π φ) : WorkQueue WorkerId π where
  queue := pool.tasks.map (·.eventStorePointer)
  hand := fun worker => (pool.workerThread worker).hand

/-- The lines that push, pop, begin to execute and have executed. -/
def workEvent (pool : ThreadPool π φ) :
    Action π φ → Option (WorkQueue.Event WorkerId π)
  | .caller caller =>
      match pool.callerThread caller with
      | .emplace task => some (.put task.eventStorePointer)
      | _ => none
  | .worker worker =>
      match pool.workerThread worker with
      | .take =>
          pool.tasks.head?.map fun task => .take worker task.eventStorePointer
      | .execute _ task => some (.start worker task.eventStorePointer)
      | .executing _ task => some (.finish worker task.eventStorePointer)
      | _ => none
  | _ => none

section View

variable (pool : ThreadPool π φ)

theorem workView_setWorker (worker : WorkerId) (point : WorkerPoint π φ) :
    (pool.setWorker worker point).workView =
      pool.workView.setHand worker point.hand := by
  have hands : (fun other =>
      (update pool.workerThread worker point other).hand) =
        update (fun other => (pool.workerThread other).hand) worker
          point.hand := by
    funext other
    by_cases here : other = worker
    · subst here
      rw [Function.update_self, Function.update_self]
    · rw [Function.update_of_ne here, Function.update_of_ne here]
  unfold workView WorkQueue.setHand
  rw [← hands]
  rfl

/-- A worker that neither takes nor puts down a task. -/
theorem workView_moves {worker : WorkerId} {old point : WorkerPoint π φ}
    (at_point : pool.workerThread worker = old) (same : old.hand = point.hand) :
    (pool.setWorker worker point).workView = pool.workView := by
  rw [workView_setWorker]
  apply WorkQueue.setHand_self
  rw [← same, ← at_point]
  rfl

theorem workView_wakeAll : pool.wakeAll.workView = pool.workView := by
  have hands : (fun worker => (pool.wakeAll.workerThread worker).hand) =
      fun worker => (pool.workerThread worker).hand := by
    funext worker
    simp only [wakeAll]
    split
    · rename_i parked
      rw [WorkerPoint.eq_parked parked]
      rfl
    · rfl
  unfold workView
  rw [hands]
  rfl

end View

variable [DecidableEq π]

/-- One line of one thread is one step of the work queue or none. -/
theorem Move.workView {before after : ThreadPool π φ} {action : Action π φ}
    (move : Move numThreads numCallers before action after) :
    (workQueue WorkerId π).Shows before.workView (before.workEvent action)
      after.workView := by
  cases move with
  | callerLock caller task at_point free =>
      simp only [workEvent, at_point]
      rfl
  | emplace caller task at_point =>
      simp only [workEvent, at_point]
      apply WorkQueue.put_eq.trans
      simp only [ThreadPool.workView, setCaller, ThreadPool.emplace,
        List.map_append, List.map_cons, List.map_nil]
  | callerUnlock caller ticket at_point =>
      simp only [workEvent, at_point]
      rfl
  | notifyOne caller ticket worker at_point bound parked =>
      exact before.workView_moves parked rfl
  | leave worker bound at_point stopped =>
      simp only [workEvent, at_point]
      exact before.workView_moves at_point rfl
  | enter worker bound at_point running =>
      simp only [workEvent, at_point]
      exact before.workView_moves at_point rfl
  | workerLock worker bound at_point free =>
      rcases at_point with at_point | at_point
      · simp only [workEvent, at_point]
        exact before.workView_moves at_point rfl
      · simp only [workEvent, at_point]
        exact before.workView_moves at_point rfl
  | ready worker bound at_point holds =>
      simp only [workEvent, at_point]
      exact before.workView_moves at_point rfl
  | wait worker bound at_point running empty =>
      simp only [workEvent, at_point]
      exact before.workView_moves at_point rfl
  | park worker bound at_point =>
      simp only [workEvent, at_point]
      exact before.workView_moves at_point rfl
  | exit worker bound at_point stopped empty =>
      simp only [workEvent, at_point]
      exact before.workView_moves at_point rfl
  | proceed worker bound at_point more =>
      simp only [workEvent, at_point]
      exact before.workView_moves at_point rfl
  | take worker task rest bound at_point queue =>
      have here : before.workView.hand worker = .empty := by
        simp only [ThreadPool.workView, at_point]
        rfl
      have items : before.workView.queue =
          task.eventStorePointer :: rest.map (·.eventStorePointer) := by
        simp only [ThreadPool.workView, queue, List.map_cons]
      simp only [workEvent, at_point, queue, List.head?_cons, Option.map_some]
      apply (WorkQueue.take_eq here items).trans
      rw [workView_setWorker]
      rfl
  | workerUnlock worker ticket task bound at_point =>
      simp only [workEvent, at_point]
      exact before.workView_moves at_point rfl
  | execute worker ticket task bound at_point =>
      have here : before.workView.hand worker =
          .holding task.eventStorePointer := by
        simp only [ThreadPool.workView, at_point]
        rfl
      simp only [workEvent, at_point]
      apply (WorkQueue.start_eq here).trans
      rw [call_eq, workView_setWorker]
      rfl
  | finish worker ticket task bound at_point =>
      have here : before.workView.hand worker =
          .doing task.eventStorePointer := by
        simp only [ThreadPool.workView, at_point]
        rfl
      simp only [workEvent, at_point]
      apply (WorkQueue.finish_eq here).trans
      rw [workView_setWorker]
      rfl
  | spurious worker parked => exact before.workView_moves parked rfl
  | notifyAll at_point => exact before.workView_wakeAll
  | _ => rfl

theorem refines_workQueue :
    Refinement (threadPool π φ numThreads numCallers) (workQueue WorkerId π)
      workView workEvent := by
  apply Refinement.of_step
  · rintro state rfl
    rfl
  · intro before action after _ taken
    exact (move_of_step taken).workView

/-- In every run of a pool, with any number of callers and workers, stopped or
not, what happens to the tasks is a run of a first-in first-out work queue: the
pushes, the pops, and the beginnings and ends of `execute`, in the order in
which they happen.  No other line of `enqueueTask`, `workerThread` or the
destructor changes the queue or what a worker has in hand. -/
theorem pool_runs_as_workQueue {actions : List (Action π φ)}
    {last : ThreadPool π φ}
    (ran : (threadPool π φ numThreads numCallers).run ThreadPool.start
      actions = some last) :
    (workQueue WorkerId π).run { queue := [], hand := fun _ => .empty }
        ((threadPool π φ numThreads numCallers).trace workEvent
          ThreadPool.start actions) =
      some last.workView :=
  refines_workQueue.run (.initial rfl) ran

/-- Two tasks are pushed, and one of two workers takes the first. -/
theorem pool_runs_as_workQueue_two :
    ∃ (actions : List (Action Nat Nat)) (last : ThreadPool Nat Nat),
      (threadPool Nat Nat 2 1).trace workEvent ThreadPool.start actions =
          [.put 7, .put 8, .take 1 7, .start 1 7] ∧
        (last.workerThread 0 = .lock ∧ last.tasks.length = 1) ∧
        (workQueue WorkerId Nat).run { queue := [], hand := fun _ => .empty }
            ((threadPool Nat Nat 2 1).trace workEvent ThreadPool.start
              actions) =
          some last.workView := by
  obtain ⟨last, ran, at_end⟩ :=
    TransitionSystem.exists_last_of_run
      (show ((threadPool Nat Nat 2 1).run ThreadPool.start
          (enqueue 0 { eventStorePointer := 7, taskExecutionFunc := some 1 } ++
            enqueue 0
              { eventStorePointer := 8, taskExecutionFunc := some 1 } ++
            workerSteps 0 1 ++ workerSteps 1 7)).any
          (fun pool =>
            pool.workerThread 0 = .lock ∧ pool.tasks.length = 1) = true by
        decide)
  exact ⟨_, last, by decide, at_end, pool_runs_as_workQueue ran⟩

end ThreadPool

end EventPlus

/-
Module: EventPlus.ThreadPool.Turns
Purpose: Whoever holds the queue's mutex is inside its locked block, and a
  worker that is going to pop finds a task.
Trusted boundary: none
Main exports:
  ThreadPool.Turns, ThreadPool.turns_of_reachable
-/
import EventPlus.ThreadPool.WakeUps

namespace EventPlus

open Function (update)

namespace ThreadPool

variable {π φ : Type} {numThreads numCallers : Nat}
variable {pool before after : ThreadPool π φ}

/-- A thread between `lock` and `unlock`. -/
def Inside (pool : ThreadPool π φ) : Thread → Prop
  | .worker worker => (pool.workerThread worker).critical = true
  | .caller caller => (pool.callerThread caller).critical = true

/-- What the predicate of the wait has shown to a worker that goes on. -/
def WorkerPoint.Justified (stop : Bool) (tasks : List (Task π φ)) :
    WorkerPoint π φ → Prop
  | .exitTest => stop = true ∨ tasks ≠ []
  | .take => tasks ≠ []
  | _ => True

theorem WorkerPoint.justified_of_outside {point : WorkerPoint π φ}
    {stop : Bool} {tasks : List (Task π φ)}
    (outside : point.critical = false) : point.Justified stop tasks := by
  cases point with
  | exitTest => cases outside
  | take => cases outside
  | _ => trivial

/-- More tasks and the flag do not take a justification away. -/
theorem WorkerPoint.Justified.mono {point : WorkerPoint π φ}
    {stop later : Bool} {tasks more : List (Task π φ)}
    (justified : point.Justified stop tasks)
    (flag : stop = true → later = true) (queue : tasks ≠ [] → more ≠ []) :
    point.Justified later more := by
  cases point with
  | exitTest => exact justified.imp flag queue
  | take => exact queue justified
  | _ => trivial

structure Turns (pool : ThreadPool π φ) : Prop where
  inside : ∀ thread, pool.queueMutex = some thread → pool.Inside thread
  justified : ∀ worker,
    (pool.workerThread worker).Justified pool.stop pool.tasks

namespace Turns

theorem start : Turns (ThreadPool.start : ThreadPool π φ) where
  inside := by
    intro thread holds
    cases holds
  justified := by
    intro worker
    trivial

/-- A worker outside its locked block does not hold the mutex. -/
theorem not_mine (turns : Turns pool) {worker : WorkerId}
    {point : WorkerPoint π φ} (at_point : pool.workerThread worker = point)
    (outside : point.critical = false) :
    pool.queueMutex ≠ some (.worker worker) := by
  intro mine
  have critical := turns.inside _ mine
  simp only [Inside, at_point, outside] at critical
  cases critical

theorem caller_not_mine (turns : Turns pool) {caller : CallerId}
    {point : CallerPoint π φ} (at_point : pool.callerThread caller = point)
    (outside : point.critical = false) :
    pool.queueMutex ≠ some (.caller caller) := by
  intro mine
  have critical := turns.inside _ mine
  simp only [Inside, at_point, outside] at critical
  cases critical

/-- A worker moves and the mutex stays as it is. -/
theorem setWorker (turns : Turns pool) {worker : WorkerId}
    {point : WorkerPoint π φ}
    (stays : pool.queueMutex = some (.worker worker) → point.critical = true)
    (justified : point.Justified pool.stop pool.tasks) :
    Turns (pool.setWorker worker point) where
  inside := by
    intro thread holds
    change pool.queueMutex = some thread at holds
    cases thread with
    | worker other =>
        by_cases here : other = worker
        · subst here
          simp only [Inside, ThreadPool.setWorker, Function.update_self]
          exact stays holds
        · simp only [Inside, ThreadPool.setWorker,
            Function.update_of_ne here]
          exact turns.inside _ holds
    | caller caller => exact turns.inside _ holds
  justified := by
    apply (forall_setWorker
      (fun _ point => point.Justified pool.stop pool.tasks)).mpr
    exact ⟨justified, fun other _ => turns.justified other⟩

/-- A caller moves and the mutex stays as it is. -/
theorem setCaller (turns : Turns pool) {caller : CallerId}
    {point : CallerPoint π φ}
    (stays : pool.queueMutex = some (.caller caller) →
      point.critical = true) :
    Turns (pool.setCaller caller point) where
  inside := by
    intro thread holds
    change pool.queueMutex = some thread at holds
    cases thread with
    | worker worker => exact turns.inside _ holds
    | caller other =>
        by_cases here : other = caller
        · subst here
          simp only [Inside, ThreadPool.setCaller, Function.update_self]
          exact stays holds
        · simp only [Inside, ThreadPool.setCaller,
            Function.update_of_ne here]
          exact turns.inside _ holds
  justified := turns.justified

/-- A worker outside its locked block goes to another place outside. -/
theorem outsideWorker (turns : Turns pool) {worker : WorkerId}
    {point next : WorkerPoint π φ}
    (at_point : pool.workerThread worker = point)
    (outside : point.critical = false) (away : next.critical = false) :
    Turns (pool.setWorker worker next) := by
  apply turns.setWorker
  · intro mine
    exact absurd mine (turns.not_mine at_point outside)
  · exact WorkerPoint.justified_of_outside away

/-- The mutex changes hands. -/
theorem setMutex (turns : Turns pool) {mutex : Option Thread}
    (taken : ∀ thread, mutex = some thread → pool.Inside thread) :
    Turns { pool with queueMutex := mutex } where
  inside := taken
  justified := turns.justified

/-- A worker that leaves its locked block releases the mutex. -/
theorem unlockWorker (turns : Turns pool) {worker : WorkerId}
    {point : WorkerPoint π φ} (outside : point.critical = false) :
    Turns ({ pool with queueMutex := none }.setWorker worker point) := by
  have released : Turns { pool with queueMutex := none } := by
    apply turns.setMutex
    intro thread holds
    cases holds
  apply released.setWorker
  · intro holds
    cases holds
  · exact WorkerPoint.justified_of_outside outside

theorem step {action : Action π φ} (locked : Locked before)
    (turns : Turns before)
    (move : Move numThreads numCallers before action after) :
    Turns after := by
  cases move with
  | enqueueTask caller task at_point bound =>
      apply turns.setCaller
      intro mine
      exact absurd mine (turns.caller_not_mine at_point rfl)
  | callerLock caller task at_point free =>
      have moved : Turns (before.setCaller caller (.emplace task)) :=
        turns.setCaller (fun _ => rfl)
      apply moved.setMutex
      rintro _ ⟨⟩
      simp [Inside, ThreadPool.setCaller, CallerPoint.critical]
  | emplace caller task at_point =>
      have moved : Turns
          (before.setCaller caller (.unlock before.enqueued.length)) :=
        turns.setCaller (fun _ => rfl)
      constructor
      · exact moved.inside
      · intro worker
        apply (turns.justified worker).mono id
        intro _ empty
        exact List.append_ne_nil_of_right_ne_nil before.tasks
          (List.cons_ne_nil task []) empty
  | callerUnlock caller ticket at_point =>
      have released : Turns { before with queueMutex := none } := by
        apply turns.setMutex
        intro thread holds
        cases holds
      apply released.setCaller
      intro holds
      cases holds
  | notifyOne caller ticket worker at_point bound parked =>
      have woken : Turns (before.setWorker worker .woken) :=
        turns.outsideWorker parked rfl rfl
      have moved : Turns
          ((before.setWorker worker .woken).setCaller caller .outside) := by
        apply woken.setCaller
        intro mine
        exact absurd mine (turns.caller_not_mine at_point rfl)
      exact { moved with }
  | notifyNone caller ticket at_point unparked =>
      have moved : Turns (before.setCaller caller .outside) := by
        apply turns.setCaller
        intro mine
        exact absurd mine (turns.caller_not_mine at_point rfl)
      exact { moved with }
  | leave worker bound at_point stopped =>
      exact turns.outsideWorker at_point rfl rfl
  | enter worker bound at_point running =>
      exact turns.outsideWorker at_point rfl rfl
  | workerLock worker bound at_point free =>
      have moved : Turns (before.setWorker worker .predicate) :=
        turns.setWorker (fun _ => rfl) trivial
      apply moved.setMutex
      rintro _ ⟨⟩
      simp [Inside, ThreadPool.setWorker, WorkerPoint.critical]
  | ready worker bound at_point holds =>
      exact turns.setWorker (fun _ => rfl) holds
  | wait worker bound at_point running empty =>
      exact turns.setWorker (fun _ => rfl) trivial
  | park worker bound at_point => exact turns.unlockWorker rfl
  | exit worker bound at_point stopped empty => exact turns.unlockWorker rfl
  | proceed worker bound at_point more =>
      apply turns.setWorker (fun _ => rfl)
      have tested := turns.justified worker
      rw [at_point] at tested
      rcases more with running | queued
      · rcases tested with stopped | queued
        · cases running.symm.trans stopped
        · exact queued
      · exact queued
  | take worker task rest bound at_point queue =>
      have mine := locked.worker_turn at_point rfl
      have moved : Turns
          (before.setWorker worker
            (.unlock before.dequeued.length task)) :=
        turns.setWorker (fun _ => rfl) trivial
      constructor
      · exact moved.inside
      -- nobody else is between the predicate and the pop
      · apply (forall_setWorker
          (fun _ point => point.Justified before.stop rest)).mpr
        refine ⟨trivial, ?_⟩
        intro other elsewhere
        apply WorkerPoint.justified_of_outside
        rw [← Bool.not_eq_true]
        intro critical
        cases locked.worker_eq (.inr mine) critical
        exact elsewhere rfl
  | workerUnlock worker ticket task bound at_point =>
      exact turns.unlockWorker rfl
  | execute worker ticket task bound at_point =>
      have moved : Turns
          (before.setWorker worker (.executing ticket task)) :=
        turns.outsideWorker at_point rfl rfl
      rw [call_eq]
      exact { moved with }
  | finish worker ticket task bound at_point =>
      have moved : Turns (before.setWorker worker .loop) :=
        turns.outsideWorker at_point rfl rfl
      exact { moved with }
  | spurious worker parked => exact turns.outsideWorker parked rfl rfl
  | storeStop at_point =>
      constructor
      · exact turns.inside
      · intro worker
        exact (turns.justified worker).mono (fun _ => rfl) id
  | notifyAll at_point =>
      constructor
      · intro thread holds
        have inside := turns.inside thread holds
        cases thread with
        | worker worker =>
            simp only [Inside, wakeAll]
            split
            · rename_i parked
              rw [Inside, WorkerPoint.eq_parked parked] at inside
              cases inside
            · exact inside
        | caller caller => exact inside
      · intro worker
        simp only [wakeAll]
        split
        · trivial
        · exact turns.justified worker
  | _ => exact { turns with }

end Turns

theorem turns_of_reachable
    (reachable : (threadPool π φ numThreads numCallers).Reachable pool) :
    Turns pool := by
  refine TransitionSystem.Reachable.invariant ?_ ?_ reachable
  · intro state initially
    cases initially
    exact Turns.start
  · intro before action after reached taken turns
    exact turns.step (locked_of_reachable reached) (move_of_step taken)

end ThreadPool

end EventPlus

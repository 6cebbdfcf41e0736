/-
Module: EventPlus.ThreadPool.Shutdown
Purpose: The destructor against the workers' waits.  `m_stop` is stored and
  everybody is notified without the mutex, so a worker that has found the
  predicate false and not parked yet parks after the last notification.
Trusted boundary: none
Main exports:
  ThreadPool.Hung, ThreadPool.NotifiesParked, ThreadPool.shutdown_hangs_iff,
  ThreadPool.destructor_hangs
-/
import EventPlus.ThreadPool.WakeUps

namespace EventPlus

open Function (update)

namespace ThreadPool

variable {π φ : Type} {numThreads numCallers : Nat}
variable {pool before after : ThreadPool π φ}

/-- The destructor has sent its only notification. -/
def DestructorPoint.hasNotified : DestructorPoint → Bool
  | .joining _ | .returned => true
  | _ => false

/-- A worker that waits to be woken, or will without another test. -/
def WorkerPoint.waits : WorkerPoint π φ → Bool
  | .park | .parked => true
  | _ => false

/-- The destructor has notified everybody and a worker waits to be woken. -/
def Stranded (numThreads : Nat) (pool : ThreadPool π φ) : Prop :=
  pool.destructor.hasNotified = true ∧
    ∃ worker < numThreads, (pool.workerThread worker).waits = true

/-- And no call that could still notify one worker is under way. -/
def Hung (numThreads numCallers : Nat) (pool : ThreadPool π φ) : Prop :=
  Stranded numThreads pool ∧
    ∀ caller < numCallers, pool.callerThread caller = .outside

/-- `notify_all` is sent while no worker is between its test of the predicate
and its parking. -/
def NotifiesParked (numThreads : Nat) (pool : ThreadPool π φ)
    (action : Action π φ) : Prop :=
  action = .destructor → pool.destructor = .notifyAll →
    ∀ worker < numThreads, pool.workerThread worker ≠ .park

/-- The pool is destroyed when all calls are over, and not called again. -/
def Quiet (numCallers : Nat) (pool : ThreadPool π φ) : Action π φ → Prop
  | .enqueueTask _ _ => pool.destructor = .idle
  | .destructor =>
      pool.destructor = .idle →
        ∀ caller < numCallers, pool.callerThread caller = .outside
  | _ => True

/-- The flag is set from the store on. -/
theorem stop_of_reachable
    (reachable : (threadPool π φ numThreads numCallers).Reachable pool) :
    pool.stop = true ↔
      pool.destructor ≠ .idle ∧ pool.destructor ≠ .storeStop := by
  refine TransitionSystem.Reachable.invariant ?_ ?_ reachable
  · intro state initially
    cases initially
    simp [ThreadPool.start]
  · intro before action after _ taken flag
    cases move_of_step taken with
    | execute worker ticket task bound at_point =>
        rw [call_eq]
        exact flag
    | beginDestructor at_point =>
        simpa [at_point] using flag
    | storeStop at_point => simp
    | notifyAll at_point =>
        change before.stop = true ↔ _
        rw [at_point] at flag
        simpa using flag
    | join worker bound at_point ended =>
        rw [at_point] at flag
        simpa using flag
    | joined worker all at_point =>
        rw [at_point] at flag
        simpa using flag
    | _ => exact flag

theorem stop_of_hasNotified
    (reachable : (threadPool π φ numThreads numCallers).Reachable pool)
    (notified : pool.destructor.hasNotified = true) : pool.stop = true := by
  apply (stop_of_reachable reachable).mpr
  constructor
  · intro idle
    rw [idle] at notified
    cases notified
  · intro storing
    rw [storing] at notified
    cases notified

namespace Stranded

/-- A worker moves to a place from which it tests the predicate again. -/
theorem of_setWorker {worker : WorkerId} {point : WorkerPoint π φ}
    (awake : point.waits = false)
    (stranded : Stranded numThreads (pool.setWorker worker point)) :
    Stranded numThreads pool := by
  obtain ⟨notified, other, bound, waits⟩ := stranded
  by_cases same : other = worker
  · subst same
    simp only [setWorker, Function.update_self] at waits
    cases awake.symm.trans waits
  · simp only [setWorker, Function.update_of_ne same] at waits
    exact ⟨notified, other, bound, waits⟩

/-- The notification misses exactly the workers about to park. -/
theorem wakeAll_iff :
    ¬Stranded numThreads { pool.wakeAll with destructor := .joining 0 } ↔
      ∀ worker < numThreads, pool.workerThread worker ≠ .park := by
  constructor
  · intro awake worker bound at_park
    apply awake
    constructor
    · rfl
    · refine ⟨worker, bound, ?_⟩
      simp [wakeAll, at_park, WorkerPoint.isParked, WorkerPoint.waits]
  · intro none_at_park stranded
    obtain ⟨_, worker, bound, waits⟩ := stranded
    simp only [wakeAll] at waits
    split at waits
    · cases waits
    · rename_i unparked
      cases point : pool.workerThread worker with
      | park => exact none_at_park worker bound point
      | parked =>
          rw [point] at unparked
          exact unparked rfl
      | _ =>
          rw [point] at waits
          cases waits

/-- No step but the notification adds a waiting worker after it. -/
theorem of_step {action : Action π φ}
    (reachable : (threadPool π φ numThreads numCallers).Reachable before)
    (move : Move numThreads numCallers before action after)
    (other : action = .destructor → before.destructor ≠ .notifyAll)
    (stranded : Stranded numThreads after) : Stranded numThreads before := by
  cases move with
  | notifyOne caller ticket worker at_point bound parked =>
      have moved : Stranded numThreads (before.setWorker worker .woken) :=
        stranded
      exact of_setWorker rfl moved
  | leave worker bound at_point stopped => exact of_setWorker rfl stranded
  | enter worker bound at_point running => exact of_setWorker rfl stranded
  | workerLock worker bound at_point free =>
      have moved : Stranded numThreads (before.setWorker worker .predicate) :=
        stranded
      exact of_setWorker rfl moved
  | ready worker bound at_point holds => exact of_setWorker rfl stranded
  | wait worker bound at_point running empty =>
      have stopped := stop_of_hasNotified reachable stranded.1
      cases running.symm.trans stopped
  | park worker bound at_point =>
      obtain ⟨notified, _⟩ := stranded
      refine ⟨notified, worker, bound, ?_⟩
      rw [at_point]
      rfl
  | exit worker bound at_point stopped empty =>
      have moved : Stranded numThreads (before.setWorker worker .exited) :=
        stranded
      exact of_setWorker rfl moved
  | proceed worker bound at_point more => exact of_setWorker rfl stranded
  | take worker task rest bound at_point queue =>
      have moved : Stranded numThreads
          (before.setWorker worker (.unlock before.dequeued.length task)) :=
        stranded
      exact of_setWorker rfl moved
  | workerUnlock worker ticket task bound at_point =>
      have moved : Stranded numThreads
          (before.setWorker worker (.execute ticket task)) := stranded
      exact of_setWorker rfl moved
  | execute worker ticket task bound at_point =>
      rw [call_eq] at stranded
      have moved : Stranded numThreads
          (before.setWorker worker (.executing ticket task)) := stranded
      exact of_setWorker rfl moved
  | finish worker ticket task bound at_point =>
      have moved : Stranded numThreads (before.setWorker worker .loop) :=
        stranded
      exact of_setWorker rfl moved
  | spurious worker parked => exact of_setWorker rfl stranded
  | beginDestructor at_point => cases stranded.1
  | storeStop at_point => cases stranded.1
  | notifyAll at_point => exact absurd at_point (other rfl)
  | join worker bound at_point ended =>
      constructor
      · rw [at_point]
        rfl
      · exact stranded.2
  | joined worker all at_point =>
      constructor
      · rw [at_point]
        rfl
      · exact stranded.2
  | _ => exact stranded

theorem step_iff {action : Action π φ}
    (reachable : (threadPool π φ numThreads numCallers).Reachable before)
    (awake : ¬Stranded numThreads before)
    (move : Move numThreads numCallers before action after) :
    ¬Stranded numThreads after ↔
      NotifiesParked numThreads before action := by
  by_cases notification :
      action = .destructor ∧ before.destructor = .notifyAll
  · obtain ⟨rfl, at_point⟩ := notification
    have result : after = { before.wakeAll with destructor := .joining 0 } := by
      cases move with
      | notifyAll _ => rfl
      | beginDestructor elsewhere => cases at_point.symm.trans elsewhere
      | storeStop elsewhere => cases at_point.symm.trans elsewhere
      | join _ _ elsewhere => cases at_point.symm.trans elsewhere
      | joined _ _ elsewhere => cases at_point.symm.trans elsewhere
    rw [result, wakeAll_iff]
    simp [NotifiesParked, at_point]
  · have other : action = .destructor → before.destructor ≠ .notifyAll := by
      intro destructor at_point
      exact notification ⟨destructor, at_point⟩
    constructor
    · intro _ destructor at_point
      exact absurd at_point (other destructor)
    · intro _ stranded
      exact awake (of_step reachable move other stranded)

end Stranded

theorem not_stranded_start :
    ¬Stranded numThreads (ThreadPool.start : ThreadPool π φ) := by
  intro stranded
  cases stranded.1

/-- A run strands no worker exactly when its notification finds every waiting
worker parked. -/
theorem stranded_throughout_iff (actions : List (Action π φ)) :
    (threadPool π φ numThreads numCallers).Throughout
        (fun pool => ¬Stranded numThreads pool) ThreadPool.start actions ↔
      (threadPool π φ numThreads numCallers).Along
        (NotifiesParked numThreads) ThreadPool.start actions := by
  have exact_step : ∀ before action after,
      (threadPool π φ numThreads numCallers).Reachable before →
      ¬Stranded numThreads before →
      (threadPool π φ numThreads numCallers).step before action =
        some after →
      (¬Stranded numThreads after ↔
        NotifiesParked numThreads before action) := by
    intro before action after reachable awake taken
    exact Stranded.step_iff reachable awake (move_of_step taken)
  exact TransitionSystem.throughout_iff_along exact_step (.initial rfl)
    not_stranded_start actions

/-- In a quiet run no call is under way once the destructor has started. -/
theorem calls_over_of_quiet {actions : List (Action π φ)}
    (quiet : (threadPool π φ numThreads numCallers).Along (Quiet numCallers)
      ThreadPool.start actions) :
    (threadPool π φ numThreads numCallers).Throughout
      (fun pool => pool.destructor ≠ .idle →
        ∀ caller < numCallers, pool.callerThread caller = .outside)
      ThreadPool.start actions := by
  refine quiet.throughout ?_ (.initial rfl) ?_
  · intro before action after reachable allowed taken ended begun
    have nobody : before.destructor ≠ .idle →
        ∀ caller, before.callerThread caller = .outside := by
      intro started caller
      by_contra inside
      exact inside
        (ended started caller (caller_lt_of_reachable reachable caller inside))
    cases move_of_step taken with
    | enqueueTask caller task at_point bound => exact absurd allowed begun
    | callerLock caller task at_point free =>
        cases at_point.symm.trans (nobody begun caller)
    | emplace caller task at_point =>
        cases at_point.symm.trans (nobody begun caller)
    | callerUnlock caller ticket at_point =>
        cases at_point.symm.trans (nobody begun caller)
    | notifyOne caller ticket worker at_point bound parked =>
        cases at_point.symm.trans (nobody begun caller)
    | notifyNone caller ticket at_point unparked =>
        cases at_point.symm.trans (nobody begun caller)
    | execute worker ticket task bound at_point =>
        rw [call_eq] at begun ⊢
        exact ended begun
    | beginDestructor at_point => exact allowed at_point
    | storeStop at_point => exact ended (by simp [at_point])
    | notifyAll at_point => exact ended (by simp [at_point])
    | join worker bound at_point => exact ended (by simp [at_point])
    | joined worker all at_point => exact ended (by simp [at_point])
    | _ => exact ended begun
  · intro begun
    exact absurd rfl begun

/-- If `notify_all` is sent while no worker is between its test of the
predicate and its parking, no state of the run hangs.  In a run in which the
pool is destroyed after its last call, that is the only way not to hang. -/
theorem shutdown_hangs_iff (actions : List (Action π φ)) :
    ((threadPool π φ numThreads numCallers).Along
        (NotifiesParked numThreads) ThreadPool.start actions →
      (threadPool π φ numThreads numCallers).Throughout
        (fun pool => ¬Hung numThreads numCallers pool) ThreadPool.start
        actions) ∧
      ((threadPool π φ numThreads numCallers).Along (Quiet numCallers)
          ThreadPool.start actions →
        ((threadPool π φ numThreads numCallers).Throughout
            (fun pool => ¬Hung numThreads numCallers pool) ThreadPool.start
            actions ↔
          (threadPool π φ numThreads numCallers).Along
            (NotifiesParked numThreads) ThreadPool.start actions)) := by
  have enough : (threadPool π φ numThreads numCallers).Along
        (NotifiesParked numThreads) ThreadPool.start actions →
      (threadPool π φ numThreads numCallers).Throughout
        (fun pool => ¬Hung numThreads numCallers pool) ThreadPool.start
        actions := by
    intro along
    have awake := (stranded_throughout_iff actions).mpr along
    apply TransitionSystem.Throughout.mp _ awake awake
    intro pool unstranded _ hung
    exact unstranded hung.1
  constructor
  · exact enough
  · intro quiet
    constructor
    · intro unhung
      apply (stranded_throughout_iff actions).mp
      apply TransitionSystem.Throughout.mp _ unhung
        (calls_over_of_quiet quiet)
      intro pool notHung ended stranded
      apply notHung
      constructor
      · exact stranded
      · apply ended
        intro idle
        have notified := stranded.1
        rw [idle] at notified
        cases notified
    · exact enough

/-- The worker finds the predicate false; the flag is stored and everybody is
notified; the worker parks.  The destructor waits in its first join, and only
a spurious wake-up could go on. -/
theorem destructor_hangs :
    ∃ pool : ThreadPool Nat Nat,
      (threadPool Nat Nat 1 0).Reachable pool ∧
        pool.destructor = .joining 0 ∧
        pool.workerThread 0 = .parked ∧
        (pool.step 1 0 .destructor).isNone = true ∧
        (pool.step 1 0 (.worker 0)).isNone = true ∧
        Hung 1 0 pool := by
  obtain ⟨pool, reachable, joining, parked, blocked, asleep⟩ :=
    exists_pool_of_replay 1 0 (fun _ _ => True)
      (fun pool : ThreadPool Nat Nat =>
        pool.destructor = .joining 0 ∧ pool.workerThread 0 = .parked ∧
          (pool.step 1 0 .destructor).isNone = true ∧
          (pool.step 1 0 (.worker 0)).isNone = true)
      (workerSteps 0 3 ++ destructorSteps 3 ++ workerSteps 0 1)
      (by decide)
  refine ⟨pool, reachable, joining, parked, blocked, asleep, ?_⟩
  constructor
  · constructor
    · rw [joining]
      rfl
    · refine ⟨0, Nat.zero_lt_one, ?_⟩
      rw [parked]
      rfl
  · intro caller bound
    cases bound

end ThreadPool

end EventPlus

/-
Module: EventPlus.ThreadPool.WakeUps
Purpose: `m_queueMutex` is held by one thread at a time, and while the pool is
  not being stopped no notification is lost: the queue is never longer than
  the number of threads on their way to it.
Trusted boundary: none
Main exports:
  ThreadPool.Locked, ThreadPool.locked_of_reachable,
  ThreadPool.Attended, ThreadPool.no_wakeup_lost
-/
import EventPlus.Library.Census
import EventPlus.ThreadPool.Pool

namespace EventPlus

open Function (update)

namespace ThreadPool

variable {π φ : Type} {numThreads numCallers : Nat}
variable {pool before after : ThreadPool π φ}

/-! ## The mutex -/

/-- A thread between `lock` and `unlock` holds the mutex, and a worker that
has found the predicate false finds nothing in the queue when it parks. -/
structure Locked (pool : ThreadPool π φ) : Prop where
  worker_holds : ∀ worker, (pool.workerThread worker).critical = true →
    pool.queueMutex = some (.worker worker)
  caller_holds : ∀ caller, (pool.callerThread caller).critical = true →
    pool.queueMutex = some (.caller caller)
  park_empty : ∀ worker, pool.workerThread worker = .park → pool.tasks = []

namespace Locked

theorem start : Locked (ThreadPool.start : ThreadPool π φ) where
  worker_holds := by
    intro worker critical
    cases critical
  caller_holds := by
    intro caller critical
    cases critical
  park_empty := by
    intro worker at_point
    cases at_point

/-- A worker moves and the mutex stays as it is. -/
theorem setWorker (locked : Locked pool) {worker : WorkerId}
    {point : WorkerPoint π φ}
    (holds : point.critical = true →
      pool.queueMutex = some (.worker worker))
    (empty : point = .park → pool.tasks = []) :
    Locked (pool.setWorker worker point) where
  worker_holds := by
    apply (forall_setWorker (fun other point => point.critical = true →
      pool.queueMutex = some (.worker other))).mpr
    exact ⟨holds, fun other _ => locked.worker_holds other⟩
  caller_holds := locked.caller_holds
  park_empty := by
    apply (forall_setWorker
      (fun _ point => point = .park → pool.tasks = [])).mpr
    exact ⟨empty, fun other _ => locked.park_empty other⟩

/-- A caller moves and the mutex stays as it is. -/
theorem setCaller (locked : Locked pool) {caller : CallerId}
    {point : CallerPoint π φ}
    (holds : point.critical = true →
      pool.queueMutex = some (.caller caller)) :
    Locked (pool.setCaller caller point) where
  worker_holds := locked.worker_holds
  caller_holds := by
    apply (forall_setCaller (fun other point => point.critical = true →
      pool.queueMutex = some (.caller other))).mpr
    exact ⟨holds, fun other _ => locked.caller_holds other⟩
  park_empty := locked.park_empty

/-- While the mutex is free or with `thread`, no other worker is between
`lock` and `unlock`. -/
theorem worker_eq (locked : Locked pool) {thread : Thread}
    (turn : pool.queueMutex = none ∨ pool.queueMutex = some thread)
    {worker : WorkerId}
    (critical : (pool.workerThread worker).critical = true) :
    thread = .worker worker := by
  have holds := locked.worker_holds worker critical
  rcases turn with free | mine
  · cases free.symm.trans holds
  · exact Option.some.inj (mine.symm.trans holds)

theorem caller_eq (locked : Locked pool) {thread : Thread}
    (turn : pool.queueMutex = none ∨ pool.queueMutex = some thread)
    {caller : CallerId}
    (critical : (pool.callerThread caller).critical = true) :
    thread = .caller caller := by
  have holds := locked.caller_holds caller critical
  rcases turn with free | mine
  · cases free.symm.trans holds
  · exact Option.some.inj (mine.symm.trans holds)

/-- A worker that takes, has or releases the mutex may change the queue. -/
theorem workerTurn (locked : Locked pool) {worker : WorkerId}
    (turn : pool.queueMutex = none ∨
      pool.queueMutex = some (.worker worker))
    {mutex : Option Thread} {tasks : List (Task π φ)}
    {point : WorkerPoint π φ}
    (holds : point.critical = true → mutex = some (.worker worker))
    (moves : point ≠ .park) :
    Locked
      ({ pool with queueMutex := mutex, tasks := tasks }.setWorker worker
        point) where
  worker_holds := by
    apply (forall_setWorker (fun other point => point.critical = true →
      mutex = some (.worker other))).mpr
    refine ⟨holds, ?_⟩
    intro other elsewhere critical
    cases locked.worker_eq turn critical
    exact absurd rfl elsewhere
  caller_holds := by
    intro caller critical
    cases locked.caller_eq turn critical
  park_empty := by
    apply (forall_setWorker (fun _ point => point = .park → tasks = [])).mpr
    refine ⟨fun at_park => absurd at_park moves, ?_⟩
    intro other elsewhere at_point
    have critical : (pool.workerThread other).critical = true := by
      rw [at_point]
      rfl
    cases locked.worker_eq turn critical
    exact absurd rfl elsewhere

/-- A caller that takes, has or releases the mutex may change the queue. -/
theorem callerTurn (locked : Locked pool) {caller : CallerId}
    (turn : pool.queueMutex = none ∨
      pool.queueMutex = some (.caller caller))
    {mutex : Option Thread} {tasks : List (Task π φ)}
    {point : CallerPoint π φ}
    (holds : point.critical = true → mutex = some (.caller caller)) :
    Locked
      ({ pool with queueMutex := mutex, tasks := tasks }.setCaller caller
        point) where
  worker_holds := by
    intro worker critical
    cases locked.worker_eq turn critical
  caller_holds := by
    apply (forall_setCaller (fun other point => point.critical = true →
      mutex = some (.caller other))).mpr
    refine ⟨holds, ?_⟩
    intro other elsewhere critical
    cases locked.caller_eq turn critical
    exact absurd rfl elsewhere
  park_empty := by
    intro worker at_point
    have critical : (pool.workerThread worker).critical = true := by
      change pool.workerThread worker = .park at at_point
      rw [at_point]
      rfl
    cases locked.worker_eq turn critical

theorem wakeAll (locked : Locked pool) : Locked pool.wakeAll where
  worker_holds := by
    intro worker critical
    simp only [ThreadPool.wakeAll] at critical
    split at critical
    · cases critical
    · exact locked.worker_holds worker critical
  caller_holds := locked.caller_holds
  park_empty := by
    intro worker at_point
    simp only [ThreadPool.wakeAll] at at_point
    split at at_point
    · cases at_point
    · exact locked.park_empty worker at_point

/-- The mutex is with a worker that is between `lock` and `unlock`. -/
theorem worker_turn (locked : Locked pool) {worker : WorkerId}
    {point : WorkerPoint π φ}
    (at_point : pool.workerThread worker = point)
    (critical : point.critical = true) :
    pool.queueMutex = some (.worker worker) := by
  apply locked.worker_holds
  rw [at_point]
  exact critical

theorem caller_turn (locked : Locked pool) {caller : CallerId}
    {point : CallerPoint π φ}
    (at_point : pool.callerThread caller = point)
    (critical : point.critical = true) :
    pool.queueMutex = some (.caller caller) := by
  apply locked.caller_holds
  rw [at_point]
  exact critical

/-- A worker goes to a place outside the locked block. -/
theorem setWorkerOutside (locked : Locked pool) {worker : WorkerId}
    {point : WorkerPoint π φ} (outside : point.critical = false) :
    Locked (pool.setWorker worker point) := by
  apply locked.setWorker
  · intro critical
    cases outside.symm.trans critical
  · intro at_park
    rw [at_park] at outside
    cases outside

/-- A worker ends the locked block. -/
theorem unlockWorker (locked : Locked pool) {worker : WorkerId}
    {point next : WorkerPoint π φ}
    (at_point : pool.workerThread worker = point)
    (critical : point.critical = true) (outside : next.critical = false) :
    Locked ({ pool with queueMutex := none }.setWorker worker next) := by
  apply locked.workerTurn (.inr (locked.worker_turn at_point critical))
  · intro inside
    cases outside.symm.trans inside
  · intro at_park
    rw [at_park] at outside
    cases outside

/-- A worker goes on inside the locked block. -/
theorem setWorkerInside (locked : Locked pool) {worker : WorkerId}
    {point next : WorkerPoint π φ}
    (at_point : pool.workerThread worker = point)
    (critical : point.critical = true)
    (empty : next = .park → pool.tasks = []) :
    Locked (pool.setWorker worker next) := by
  apply locked.setWorker
  · intro _
    exact locked.worker_turn at_point critical
  · exact empty

theorem setCallerOutside (locked : Locked pool) {caller : CallerId}
    {point : CallerPoint π φ} (outside : point.critical = false) :
    Locked (pool.setCaller caller point) := by
  apply locked.setCaller
  intro critical
  cases outside.symm.trans critical

theorem step {action : Action π φ} (locked : Locked before)
    (move : Move numThreads numCallers before action after) :
    Locked after := by
  cases move with
  | enqueueTask caller task at_point bound =>
      exact locked.setCallerOutside rfl
  | callerLock caller task at_point free =>
      exact locked.callerTurn (.inl free) (fun _ => rfl)
  | emplace caller task at_point =>
      have mine := locked.caller_turn at_point rfl
      have moved : Locked
          ({ before with
              queueMutex := before.queueMutex
              tasks := before.tasks ++ [task] }.setCaller caller
            (.unlock before.enqueued.length)) :=
        locked.callerTurn (.inr mine) (fun _ => mine)
      exact { moved with }
  | callerUnlock caller ticket at_point =>
      apply locked.callerTurn (.inr (locked.caller_turn at_point rfl))
      intro critical
      cases critical
  | notifyOne caller ticket worker at_point bound parked =>
      have woken : Locked (before.setWorker worker .woken) :=
        locked.setWorkerOutside rfl
      have moved : Locked
          ((before.setWorker worker .woken).setCaller caller .outside) :=
        woken.setCallerOutside rfl
      exact { moved with }
  | notifyNone caller ticket at_point unparked =>
      have moved : Locked (before.setCaller caller .outside) :=
        locked.setCallerOutside rfl
      exact { moved with }
  | leave worker bound at_point stopped =>
      exact locked.setWorkerOutside rfl
  | enter worker bound at_point running =>
      exact locked.setWorkerOutside rfl
  | workerLock worker bound at_point free =>
      apply locked.workerTurn (.inl free)
      · intro _
        rfl
      · intro at_park
        cases at_park
  | ready worker bound at_point holds =>
      apply locked.setWorkerInside at_point rfl
      intro at_park
      cases at_park
  | wait worker bound at_point running empty =>
      exact locked.setWorkerInside at_point rfl (fun _ => empty)
  | park worker bound at_point =>
      exact locked.unlockWorker at_point rfl rfl
  | exit worker bound at_point stopped empty =>
      exact locked.unlockWorker at_point rfl rfl
  | proceed worker bound at_point more =>
      apply locked.setWorkerInside at_point rfl
      intro at_park
      cases at_park
  | take worker task rest bound at_point queue =>
      have mine := locked.worker_turn at_point rfl
      have moved : Locked
          ({ before with
              queueMutex := before.queueMutex
              tasks := rest }.setWorker worker
            (.unlock before.dequeued.length task)) := by
        apply locked.workerTurn (.inr mine)
        · intro _
          exact mine
        · intro at_park
          cases at_park
      exact { moved with }
  | workerUnlock worker ticket task bound at_point =>
      exact locked.unlockWorker at_point rfl rfl
  | execute worker ticket task bound at_point =>
      have moved : Locked
          (before.setWorker worker (.executing ticket task)) :=
        locked.setWorkerOutside rfl
      rw [call_eq]
      exact { moved with }
  | finish worker ticket task bound at_point =>
      have moved : Locked (before.setWorker worker .loop) :=
        locked.setWorkerOutside rfl
      exact { moved with }
  | spurious worker parked => exact locked.setWorkerOutside rfl
  | notifyAll at_point => exact { locked.wakeAll with }
  | _ => exact { locked with }

end Locked

theorem locked_of_reachable
    (reachable : (threadPool π φ numThreads numCallers).Reachable pool) :
    Locked pool := by
  refine TransitionSystem.Reachable.invariant ?_ ?_ reachable
  · intro state initially
    cases initially
    exact Locked.start
  · intro before action after _ taken locked
    exact locked.step (move_of_step taken)

/-! ## Threads on their way to the queue -/

/-- A worker that neither waits to be woken nor is busy with a task it has
popped, nor has returned. -/
def WorkerPoint.available : WorkerPoint π φ → Bool
  | .loop | .lock | .predicate | .park | .woken | .exitTest | .take => true
  | _ => false

/-- The number of available workers. -/
def availableWorkers (numThreads : Nat) (pool : ThreadPool π φ) : Nat :=
  census (List.range numThreads) WorkerPoint.available pool.workerThread

/-- The number of calls that have pushed their task and not yet notified. -/
def pushedCallers (numCallers : Nat) (pool : ThreadPool π φ) : Nat :=
  census (List.range numCallers) CallerPoint.pushed pool.callerThread

theorem availableWorkers_setWorker (pool : ThreadPool π φ)
    {worker : WorkerId} (bound : worker < numThreads)
    (point : WorkerPoint π φ) :
    (pool.setWorker worker point).availableWorkers numThreads +
        (pool.workerThread worker).available.toNat =
      pool.availableWorkers numThreads + point.available.toNat :=
  Census.census_move List.nodup_range (List.mem_range.mpr bound) point

theorem pushedCallers_setCaller (pool : ThreadPool π φ)
    {caller : CallerId} (bound : caller < numCallers)
    (point : CallerPoint π φ) :
    (pool.setCaller caller point).pushedCallers numCallers +
        (pool.callerThread caller).pushed.toNat =
      pool.pushedCallers numCallers + point.pushed.toNat :=
  Census.census_move List.nodup_range (List.mem_range.mpr bound) point

/-- Only the pool's callers are in a call. -/
theorem caller_lt_of_reachable
    (reachable : (threadPool π φ numThreads numCallers).Reachable pool) :
    ∀ caller, pool.callerThread caller ≠ .outside → caller < numCallers := by
  refine TransitionSystem.Reachable.invariant ?_ ?_ reachable
  · intro state initially caller inside
    cases initially
    exact absurd rfl inside
  · intro before action after _ taken bounded other inside
    have moved : ∀ (base : ThreadPool π φ) (caller : CallerId)
        (point : CallerPoint π φ),
        base.callerThread = before.callerThread → caller < numCallers →
        (base.setCaller caller point).callerThread other ≠ .outside →
        other < numCallers := by
      intro base caller point same bound inside
      by_cases here : other = caller
      · rw [here]
        exact bound
      · simp only [setCaller, Function.update_of_ne here, same] at inside
        exact bounded other inside
    cases move_of_step taken with
    | enqueueTask caller task at_point bound =>
        exact moved before caller _ rfl bound inside
    | callerLock caller task at_point free =>
        exact moved { before with queueMutex := some (.caller caller) } caller
          _ rfl (bounded caller (by simp [at_point])) inside
    | emplace caller task at_point =>
        exact moved (before.emplace task) caller _ rfl
          (bounded caller (by simp [at_point])) inside
    | callerUnlock caller ticket at_point =>
        exact moved { before with queueMutex := none } caller _ rfl
          (bounded caller (by simp [at_point])) inside
    | notifyOne caller ticket worker at_point bound parked =>
        exact moved before caller .outside rfl
          (bounded caller (by simp [at_point])) inside
    | notifyNone caller ticket at_point unparked =>
        exact moved before caller .outside rfl
          (bounded caller (by simp [at_point])) inside
    | execute worker ticket task bound at_point =>
        rw [call_eq] at inside
        exact bounded other inside
    | _ => exact bounded other inside

/-- While the pool is not being stopped and some worker waits to be woken, each
queued task has a thread on its way: an available worker, or a call that is
still to notify. -/
def Attended (numThreads numCallers : Nat) (pool : ThreadPool π φ) : Prop :=
  pool.stop = false →
    (∃ worker < numThreads, pool.workerThread worker = .parked) →
      pool.tasks.length ≤
        pool.availableWorkers numThreads + pool.pushedCallers numCallers

namespace Attended

theorem start :
    Attended numThreads numCallers (ThreadPool.start : ThreadPool π φ) := by
  intro _ _
  exact Nat.zero_le _

/-- Stopping, or waking everybody, leaves nothing to show. -/
theorem of_unparked
    (unparked : ∀ worker < numThreads,
      (pool.workerThread worker).isParked = false) :
    Attended numThreads numCallers pool := by
  intro _ waiting
  obtain ⟨worker, bound, parked⟩ := waiting
  have here := unparked worker bound
  rw [parked] at here
  cases here

/-- A worker moves without becoming unavailable. -/
theorem setWorker (attended : Attended numThreads numCallers pool)
    {worker : WorkerId} {point : WorkerPoint π φ}
    (unparked : point ≠ .parked)
    (stays : (pool.workerThread worker).available = true →
      point.available = true) :
    Attended numThreads numCallers (pool.setWorker worker point) := by
  intro running waiting
  obtain ⟨other, bound, parked⟩ := waiting
  have elsewhere : other ≠ worker := by
    intro same
    simp only [ThreadPool.setWorker, same, Function.update_self] at parked
    exact unparked parked
  simp only [ThreadPool.setWorker, Function.update_of_ne elsewhere] at parked
  have enough := attended running ⟨other, bound, parked⟩
  have more : pool.availableWorkers numThreads ≤
      (pool.setWorker worker point).availableWorkers numThreads := by
    apply Census.census_le_of_imp
    intro member _ available
    by_cases same : member = worker
    · subst same
      simp only [ThreadPool.setWorker, Function.update_self]
      exact stays available
    · simp only [ThreadPool.setWorker, Function.update_of_ne same]
      exact available
  exact Nat.le_trans enough (Nat.add_le_add_right more _)

/-- A caller moves before its push, or from its push to its notification. -/
theorem setCaller (attended : Attended numThreads numCallers pool)
    {caller : CallerId} {point : CallerPoint π φ}
    (stays : (pool.callerThread caller).pushed = true →
      point.pushed = true) :
    Attended numThreads numCallers (pool.setCaller caller point) := by
  intro running waiting
  have enough := attended running waiting
  have more : pool.pushedCallers numCallers ≤
      (pool.setCaller caller point).pushedCallers numCallers := by
    apply Census.census_le_of_imp
    intro member _ pushed
    by_cases same : member = caller
    · subst same
      simp only [ThreadPool.setCaller, Function.update_self]
      exact stays pushed
    · simp only [ThreadPool.setCaller, Function.update_of_ne same]
      exact pushed
  exact Nat.le_trans enough (Nat.add_le_add_left more _)

/-- The pushed task is matched by the notification still to come. -/
theorem emplace (attended : Attended numThreads numCallers pool)
    {caller : CallerId} {task : Task π φ} (bound : caller < numCallers)
    (at_point : pool.callerThread caller = .emplace task) :
    Attended numThreads numCallers
      ((pool.emplace task).setCaller caller
        (.unlock pool.enqueued.length)) := by
  intro running waiting
  have enough := attended running waiting
  have counted : (pool.setCaller caller
        (.unlock pool.enqueued.length)).pushedCallers numCallers =
      pool.pushedCallers numCallers + 1 := by
    have count := pushedCallers_setCaller pool bound
      (.unlock pool.enqueued.length)
    rw [at_point] at count
    exact count
  calc (pool.tasks ++ [task]).length
      = pool.tasks.length + 1 := List.length_append
    _ ≤ pool.availableWorkers numThreads +
          pool.pushedCallers numCallers + 1 := Nat.succ_le_succ enough
    _ = pool.availableWorkers numThreads +
          (pool.pushedCallers numCallers + 1) := Nat.add_assoc _ _ _
    _ = _ := by
          rw [← counted]
          rfl

/-- The notification becomes an available worker. -/
theorem notifyOne (attended : Attended numThreads numCallers pool)
    {caller : CallerId} {ticket : Ticket} {worker : WorkerId}
    (callerBound : caller < numCallers)
    (at_point : pool.callerThread caller = .notifyOne ticket)
    (bound : worker < numThreads)
    (parked : pool.workerThread worker = .parked) :
    Attended numThreads numCallers
      ((pool.setWorker worker .woken).setCaller caller .outside) := by
  intro running _
  have enough := attended running ⟨worker, bound, parked⟩
  have woken : (pool.setWorker worker .woken).availableWorkers numThreads =
      pool.availableWorkers numThreads + 1 := by
    have count := availableWorkers_setWorker pool bound .woken
    rw [parked] at count
    exact count
  have notified : (pool.setCaller caller .outside).pushedCallers numCallers +
      1 = pool.pushedCallers numCallers := by
    have count := pushedCallers_setCaller pool callerBound .outside
    rw [at_point] at count
    exact count
  rw [← notified] at enough
  change pool.tasks.length ≤
    (pool.setWorker worker .woken).availableWorkers numThreads +
      (pool.setCaller caller .outside).pushedCallers numCallers
  rw [woken, Nat.add_right_comm, Nat.add_assoc]
  exact enough

/-- The worker that pops a task is no longer available for another one. -/
theorem take (attended : Attended numThreads numCallers pool)
    {worker : WorkerId} {task : Task π φ} {rest : List (Task π φ)}
    (bound : worker < numThreads)
    (at_point : pool.workerThread worker = .take)
    (queue : pool.tasks = task :: rest) :
    Attended numThreads numCallers
      ((pool.pop worker task rest).setWorker worker
        (.unlock pool.dequeued.length task)) := by
  intro running waiting
  obtain ⟨other, otherBound, parked⟩ := waiting
  have elsewhere : other ≠ worker := by
    intro same
    simp only [ThreadPool.setWorker, same, Function.update_self] at parked
    cases parked
  simp only [ThreadPool.setWorker, Function.update_of_ne elsewhere] at parked
  have enough := attended running ⟨other, otherBound, parked⟩
  have busy : (pool.setWorker worker
        (.unlock pool.dequeued.length task)).availableWorkers numThreads + 1 =
      pool.availableWorkers numThreads := by
    have count := availableWorkers_setWorker pool bound
      (.unlock pool.dequeued.length task)
    rw [at_point] at count
    exact count
  rw [queue, ← busy, Nat.add_right_comm] at enough
  exact Nat.le_of_succ_le_succ enough

/-- A worker parks only when the queue is empty. -/
theorem park (locked : Locked pool) {worker : WorkerId}
    (at_point : pool.workerThread worker = .park) :
    Attended numThreads numCallers
      ({ pool with queueMutex := none }.setWorker worker .parked) := by
  intro _ _
  change pool.tasks.length ≤ _
  rw [locked.park_empty worker at_point]
  exact Nat.zero_le _

theorem step {action : Action π φ}
    (attended : Attended numThreads numCallers before)
    (locked : Locked before)
    (bounded : ∀ caller, before.callerThread caller ≠ .outside →
      caller < numCallers)
    (move : Move numThreads numCallers before action after) :
    Attended numThreads numCallers after := by
  cases move with
  | enqueueTask caller task at_point bound =>
      apply attended.setCaller
      rw [at_point]
      exact id
  | callerLock caller task at_point free =>
      have moved : Attended numThreads numCallers
          (before.setCaller caller (.emplace task)) := by
        apply attended.setCaller
        rw [at_point]
        exact id
      exact moved
  | emplace caller task at_point =>
      apply attended.emplace _ at_point
      apply bounded
      simp [at_point]
  | callerUnlock caller ticket at_point =>
      have moved : Attended numThreads numCallers
          (before.setCaller caller (.notifyOne ticket)) := by
        apply attended.setCaller
        intro _
        rfl
      exact moved
  | notifyOne caller ticket worker at_point bound parked =>
      have callerBound : caller < numCallers := by
        apply bounded
        simp [at_point]
      exact attended.notifyOne callerBound at_point bound parked
  | notifyNone caller ticket at_point unparked =>
      exact of_unparked unparked
  | leave worker bound at_point stopped =>
      intro running
      cases stopped.symm.trans running
  | workerLock worker bound at_point free =>
      have moved : Attended numThreads numCallers
          (before.setWorker worker .predicate) := by
        apply attended.setWorker
        · intro impossible
          cases impossible
        · intro _
          rfl
      exact moved
  | park worker bound at_point => exact park locked at_point
  | exit worker bound at_point stopped empty =>
      intro running
      cases stopped.symm.trans running
  | take worker task rest bound at_point queue =>
      exact attended.take bound at_point queue
  | workerUnlock worker ticket task bound at_point =>
      have moved : Attended numThreads numCallers
          (before.setWorker worker (.execute ticket task)) := by
        apply attended.setWorker
        · intro impossible
          cases impossible
        · rw [at_point]
          exact id
      exact moved
  | execute worker ticket task bound at_point =>
      have moved : Attended numThreads numCallers
          (before.setWorker worker (.executing ticket task)) := by
        apply attended.setWorker
        · intro impossible
          cases impossible
        · rw [at_point]
          exact id
      rw [call_eq]
      exact moved
  | finish worker ticket task bound at_point =>
      have moved : Attended numThreads numCallers
          (before.setWorker worker .loop) := by
        apply attended.setWorker
        · intro impossible
          cases impossible
        · intro _
          rfl
      exact moved
  | beginDestructor at_point => exact attended
  | storeStop at_point =>
      intro running
      cases running
  | notifyAll at_point =>
      apply of_unparked
      intro worker _
      simp only [wakeAll]
      split
      · rfl
      · exact Bool.eq_false_iff.mpr ‹_›
  | join worker bound at_point ended => exact attended
  | joined worker all at_point => exact attended
  | _ =>
      -- the remaining moves go from one available place to another
      apply attended.setWorker
      · intro impossible
        cases impossible
      · intro _
        rfl

end Attended

/-- While `m_stop` is false and some worker is parked, the queue is no longer
than the number of workers that are neither parked nor busy with a task, plus
the number of calls that have pushed and not yet notified.  So while all
workers of a pool are parked and no notification is on its way, the queue is
empty. -/
theorem no_wakeup_lost
    (reachable : (threadPool π φ numThreads numCallers).Reachable pool)
    (running : pool.stop = false) :
    ((∃ worker < numThreads, pool.workerThread worker = .parked) →
      pool.tasks.length ≤
        pool.availableWorkers numThreads + pool.pushedCallers numCallers) ∧
      (0 < numThreads →
        (∀ worker < numThreads, pool.workerThread worker = .parked) →
        (∀ caller < numCallers,
          (pool.callerThread caller).pushed = false) →
        pool.tasks = []) := by
  have attended : Attended numThreads numCallers pool := by
    refine TransitionSystem.Reachable.invariant ?_ ?_ reachable
    · intro state initially
      cases initially
      exact Attended.start
    · intro before action after reached taken attended
      exact attended.step (locked_of_reachable reached)
        (caller_lt_of_reachable reached) (move_of_step taken)
  constructor
  · exact attended running
  · intro positive allParked nonePushed
    have enough := attended running ⟨0, positive, allParked 0 positive⟩
    have nobody : pool.availableWorkers numThreads = 0 := by
      apply Census.census_eq_zero.mpr
      intro worker member
      rw [allParked worker (List.mem_range.mp member)]
      rfl
    have nothing : pool.pushedCallers numCallers = 0 := by
      apply Census.census_eq_zero.mpr
      intro caller member
      exact nonePushed caller (List.mem_range.mp member)
    rw [nobody, nothing] at enough
    exact List.eq_nil_of_length_eq_zero (Nat.le_zero.mp enough)

/-- Two workers are parked; one call has pushed its task, another one has
notified, and the woken worker has not got the mutex. -/
theorem no_wakeup_lost_two_pushed :
    ∃ pool : ThreadPool Nat Nat,
      (threadPool Nat Nat 3 2).Reachable pool ∧
        (pool.stop = false ∧ pool.workerThread 0 = .parked ∧
          pool.workerThread 1 = .parked ∧ pool.tasks.length = 2) ∧
        pool.tasks.length ≤
          pool.availableWorkers 3 + pool.pushedCallers 2 := by
  obtain ⟨pool, reachable, at_state⟩ :=
    exists_pool_of_replay 3 2 (fun _ _ => True)
      (fun pool : ThreadPool Nat Nat =>
        pool.stop = false ∧ pool.workerThread 0 = .parked ∧
          pool.workerThread 1 = .parked ∧ pool.tasks.length = 2)
      (workerSteps 0 4 ++ workerSteps 1 4 ++ workerSteps 2 4 ++
        [.enqueueTask 0 { eventStorePointer := 7, taskExecutionFunc := none },
          .caller 0, .caller 0, .caller 0, .notifyOne 0 (some 2),
          .enqueueTask 1 { eventStorePointer := 8, taskExecutionFunc := none },
          .caller 1, .caller 1])
      (by decide)
  have lost := no_wakeup_lost reachable at_state.1
  exact ⟨pool, reachable, at_state, lost.1 ⟨0, by decide, at_state.2.1⟩⟩

end ThreadPool

end EventPlus

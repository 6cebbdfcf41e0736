/-
Module: EventPlus.ThreadPool.Progress
Purpose: What a pool comes to when nobody asks it for more: everything has been
  executed and the workers wait, or the destructor has returned, or it hangs.
Trusted boundary: none
Main exports:
  ThreadPool.working, ThreadPool.effort, ThreadPool.AtRest,
  ThreadPool.comes_to_rest, ThreadPool.shutdown_completes
-/
import EventPlus.Library.Progress
import EventPlus.Library.Workload
import EventPlus.ThreadPool.Drain
import EventPlus.ThreadPool.Shutdown
import EventPlus.ThreadPool.Turns

namespace EventPlus

open Function (update)

namespace ThreadPool

variable {π φ : Type} {numThreads numCallers : Nat}
variable {pool before after : ThreadPool π φ}

/-- The steps a pool takes on its own: new calls, the call of the destructor
and spurious wake-ups are not among them. -/
def working (pool : ThreadPool π φ) : Action π φ → Prop
  | .enqueueTask _ _ | .spurious _ => False
  | .destructor => pool.destructor ≠ .idle
  | .caller _ | .notifyOne _ _ | .worker _ => True

/-! ## What is left to do -/

/-- A worker that goes once through the loop pays with the task it pops. -/
def WorkerPoint.work : WorkerPoint π φ → Nat
  | .parked | .exited => 0
  | .park => 1
  | .take => 2
  | .exitTest => 3
  | .predicate => 4
  | .lock | .woken => 5
  | .loop => 6
  | .executing _ _ => 7
  | .execute _ _ => 8
  | .unlock _ _ => 9

/-- A call pays for its task and for the worker it wakes. -/
def CallerPoint.work : CallerPoint π φ → Nat
  | .outside => 0
  | .notifyOne _ => 6
  | .unlock _ => 7
  | .emplace _ => 16
  | .lock _ => 17

/-- The destructor pays for the workers it wakes. -/
def DestructorPoint.work (numThreads : Nat) : DestructorPoint → Nat
  | .idle | .returned => 0
  | .joining worker => numThreads - worker + 1
  | .notifyAll => 6 * numThreads + 2
  | .storeStop => 6 * numThreads + 3

def workerEffort (numThreads : Nat) (pool : ThreadPool π φ) : Nat :=
  workload (List.range numThreads) WorkerPoint.work pool.workerThread

def callerEffort (numCallers : Nat) (pool : ThreadPool π φ) : Nat :=
  workload (List.range numCallers) CallerPoint.work pool.callerThread

def effort (numThreads numCallers : Nat) (pool : ThreadPool π φ) : Nat :=
  pool.workerEffort numThreads + pool.callerEffort numCallers +
    8 * pool.tasks.length + pool.destructor.work numThreads

theorem workerEffort_move {worker : WorkerId} {next : WorkerPoint π φ}
    (bound : worker < numThreads)
    (moved : after.workerThread = update before.workerThread worker next) :
    after.workerEffort numThreads + (before.workerThread worker).work ≤
      before.workerEffort numThreads + next.work := by
  unfold workerEffort
  rw [moved]
  exact Workload.move List.nodup_range (List.mem_range.mpr bound)
    (Nat.le_of_eq (Nat.add_comm _ _))

theorem callerEffort_move {caller : CallerId} {next : CallerPoint π φ}
    (bound : caller < numCallers)
    (moved : after.callerThread = update before.callerThread caller next) :
    after.callerEffort numCallers + (before.callerThread caller).work ≤
      before.callerEffort numCallers + next.work := by
  unfold callerEffort
  rw [moved]
  exact Workload.move List.nodup_range (List.mem_range.mpr bound)
    (Nat.le_of_eq (Nat.add_comm _ _))

/-- One worker moves, and the queue with it. -/
theorem effort_worker {worker : WorkerId} {point next : WorkerPoint π φ}
    (bound : worker < numThreads)
    (at_point : before.workerThread worker = point)
    (workers : after.workerThread = update before.workerThread worker next)
    (callers : after.callerThread = before.callerThread)
    (destructor : after.destructor = before.destructor)
    (lighter : next.work + 8 * after.tasks.length <
      point.work + 8 * before.tasks.length) :
    after.effort numThreads numCallers <
      before.effort numThreads numCallers := by
  have moved := workerEffort_move bound workers
  have same : after.callerEffort numCallers =
      before.callerEffort numCallers := by
    rw [callerEffort, callers]
    rfl
  rw [at_point] at moved
  rw [effort, effort, same, destructor]
  omega

/-- One caller moves, and the queue with it. -/
theorem effort_caller {caller : CallerId} {point next : CallerPoint π φ}
    (bound : caller < numCallers)
    (at_point : before.callerThread caller = point)
    (workers : after.workerThread = before.workerThread)
    (callers : after.callerThread = update before.callerThread caller next)
    (destructor : after.destructor = before.destructor)
    (lighter : next.work + 8 * after.tasks.length <
      point.work + 8 * before.tasks.length) :
    after.effort numThreads numCallers <
      before.effort numThreads numCallers := by
  have moved := callerEffort_move bound callers
  have same : after.workerEffort numThreads =
      before.workerEffort numThreads := by
    rw [workerEffort, workers]
    rfl
  rw [at_point] at moved
  rw [effort, effort, same, destructor]
  omega

/-- Waking all workers costs a fixed amount for each of them. -/
theorem workerEffort_wakeAll (numThreads : Nat) (pool : ThreadPool π φ) :
    pool.wakeAll.workerEffort numThreads ≤
      pool.workerEffort numThreads + 5 * numThreads := by
  have bound := Workload.le_add
    (show ∀ worker ∈ List.range numThreads,
        (pool.wakeAll.workerThread worker).work ≤
          (pool.workerThread worker).work + 5 by
      intro worker _
      simp only [wakeAll]
      split
      · exact Nat.le_add_left _ _
      · exact Nat.le_add_right _ _)
  rw [List.length_range] at bound
  exact bound

/-- Every step of the pool's own leaves less to do. -/
theorem effort_smaller {action : Action π φ}
    (reachable : (threadPool π φ numThreads numCallers).Reachable before)
    (works : working before action)
    (move : Move numThreads numCallers before action after) :
    after.effort numThreads numCallers <
      before.effort numThreads numCallers := by
  have caller_lt : ∀ {caller : CallerId} {point : CallerPoint π φ},
      before.callerThread caller = point → point ≠ .outside →
        caller < numCallers := by
    intro caller point at_point inside
    apply caller_lt_of_reachable reachable
    rw [at_point]
    exact inside
  cases move with
  | enqueueTask caller task at_point bound => exact absurd works id
  | callerLock caller task at_point free =>
      refine effort_caller (caller_lt at_point (by simp)) at_point rfl rfl rfl
        ?_
      exact Nat.add_lt_add_right (by simp [CallerPoint.work]) _
  | emplace caller task at_point =>
      refine effort_caller (caller_lt at_point (by simp)) at_point rfl rfl rfl
        ?_
      simp only [setCaller, ThreadPool.emplace, List.length_append,
        List.length_singleton, CallerPoint.work]
      omega
  | callerUnlock caller ticket at_point =>
      refine effort_caller (caller_lt at_point (by simp)) at_point rfl rfl rfl
        ?_
      exact Nat.add_lt_add_right (by simp [CallerPoint.work]) _
  | notifyOne caller ticket worker at_point bound parked =>
      have woken : (before.setWorker worker .woken).workerEffort numThreads +
          (before.workerThread worker).work ≤
            before.workerEffort numThreads +
              (.woken : WorkerPoint π φ).work :=
        workerEffort_move bound rfl
      have returned :
          (before.setCaller caller .outside).callerEffort numCallers +
            (before.callerThread caller).work ≤
              before.callerEffort numCallers +
                (.outside : CallerPoint π φ).work :=
        callerEffort_move (caller_lt at_point (by simp)) rfl
      rw [parked] at woken
      rw [at_point] at returned
      simp only [WorkerPoint.work, CallerPoint.work] at woken returned
      change (before.setWorker worker .woken).workerEffort numThreads +
          (before.setCaller caller .outside).callerEffort numCallers +
          8 * before.tasks.length + before.destructor.work numThreads <
        before.workerEffort numThreads + before.callerEffort numCallers +
          8 * before.tasks.length + before.destructor.work numThreads
      omega
  | notifyNone caller ticket at_point unparked =>
      refine effort_caller (caller_lt at_point (by simp)) at_point rfl rfl rfl
        ?_
      exact Nat.add_lt_add_right (by simp [CallerPoint.work]) _
  | leave worker bound at_point stopped =>
      refine effort_worker bound at_point rfl rfl rfl ?_
      exact Nat.add_lt_add_right (by simp [WorkerPoint.work]) _
  | enter worker bound at_point running =>
      refine effort_worker bound at_point rfl rfl rfl ?_
      exact Nat.add_lt_add_right (by simp [WorkerPoint.work]) _
  | workerLock worker bound at_point free =>
      rcases at_point with at_point | at_point
      · refine effort_worker bound at_point rfl rfl rfl ?_
        exact Nat.add_lt_add_right (by simp [WorkerPoint.work]) _
      · refine effort_worker bound at_point rfl rfl rfl ?_
        exact Nat.add_lt_add_right (by simp [WorkerPoint.work]) _
  | ready worker bound at_point holds =>
      refine effort_worker bound at_point rfl rfl rfl ?_
      exact Nat.add_lt_add_right (by simp [WorkerPoint.work]) _
  | wait worker bound at_point running empty =>
      refine effort_worker bound at_point rfl rfl rfl ?_
      exact Nat.add_lt_add_right (by simp [WorkerPoint.work]) _
  | park worker bound at_point =>
      refine effort_worker bound at_point rfl rfl rfl ?_
      exact Nat.add_lt_add_right (by simp [WorkerPoint.work]) _
  | exit worker bound at_point stopped empty =>
      refine effort_worker bound at_point rfl rfl rfl ?_
      exact Nat.add_lt_add_right (by simp [WorkerPoint.work]) _
  | proceed worker bound at_point more =>
      refine effort_worker bound at_point rfl rfl rfl ?_
      exact Nat.add_lt_add_right (by simp [WorkerPoint.work]) _
  | take worker task rest bound at_point queue =>
      refine effort_worker bound at_point rfl rfl rfl ?_
      simp only [setWorker, pop, queue, List.length_cons, WorkerPoint.work]
      omega
  | workerUnlock worker ticket task bound at_point =>
      refine effort_worker bound at_point rfl rfl rfl ?_
      exact Nat.add_lt_add_right (by simp [WorkerPoint.work]) _
  | execute worker ticket task bound at_point =>
      rw [call_eq]
      refine effort_worker bound at_point rfl rfl rfl ?_
      exact Nat.add_lt_add_right (by simp [WorkerPoint.work]) _
  | finish worker ticket task bound at_point =>
      refine effort_worker bound at_point rfl rfl rfl ?_
      exact Nat.add_lt_add_right (by simp [WorkerPoint.work]) _
  | spurious worker parked => exact absurd works id
  | beginDestructor at_point => exact absurd at_point works
  | storeStop at_point =>
      unfold effort
      rw [at_point]
      exact Nat.add_lt_add_left (Nat.lt_succ_self _) _
  | notifyAll at_point =>
      have woken := workerEffort_wakeAll numThreads before
      change before.wakeAll.workerEffort numThreads +
          before.callerEffort numCallers + 8 * before.tasks.length +
          DestructorPoint.work numThreads (.joining 0) < _
      rw [effort, at_point]
      simp only [DestructorPoint.work]
      omega
  | join worker bound at_point ended =>
      unfold effort
      rw [at_point]
      apply Nat.add_lt_add_left
      exact Nat.succ_lt_succ (Nat.sub_succ_lt_self _ _ bound)
  | joined worker all at_point =>
      unfold effort
      rw [at_point]
      apply Nat.add_lt_add_left
      exact Nat.succ_pos _

/-! ## Who can go on -/

/-- Nobody is in a call, every worker waits or has returned, and the destructor
has not been called, has returned, or waits for a worker that waits. -/
structure AtRest (numThreads numCallers : Nat) (pool : ThreadPool π φ) :
    Prop where
  callers : ∀ caller < numCallers, pool.callerThread caller = .outside
  workers : ∀ worker < numThreads,
    pool.workerThread worker = .parked ∨ pool.workerThread worker = .exited
  destructor : pool.destructor = .idle ∨ pool.destructor = .returned ∨
    ∃ worker < numThreads, pool.destructor = .joining worker ∧
      pool.workerThread worker = .parked

/-- Some thread of the pool can take a step of its own. -/
def canWork (numThreads numCallers : Nat) (pool : ThreadPool π φ) : Prop :=
  ∃ action after, working pool action ∧
    (threadPool π φ numThreads numCallers).step pool action = some after

theorem canWork_of_step (action : Action π φ) (works : working pool action)
    (enabled : (pool.step numThreads numCallers action).isSome = true) :
    canWork numThreads numCallers pool := by
  obtain ⟨after, taken⟩ := Option.isSome_iff_exists.mp enabled
  exact ⟨action, after, works, taken⟩

theorem canWork_of_worker {worker : WorkerId} (bound : worker < numThreads)
    (enabled : (pool.workerStep worker).isSome = true) :
    canWork numThreads numCallers pool := by
  apply canWork_of_step (.worker worker) trivial
  simp only [step, bound, if_true]
  exact enabled

/-- A worker with the mutex in its hands goes on. -/
theorem worker_inside_canWork (turns : Turns pool) {worker : WorkerId}
    (bound : worker < numThreads)
    (inside : (pool.workerThread worker).critical = true) :
    canWork numThreads numCallers pool := by
  apply canWork_of_worker bound
  have justified := turns.justified worker
  unfold workerStep
  cases at_point : pool.workerThread worker with
  | take =>
      rw [at_point] at justified
      cases queue : pool.tasks with
      | nil => exact absurd queue justified
      | cons task rest => rfl
  | exitTest =>
      dsimp only
      split
      · rfl
      · rfl
  | predicate => rfl
  | park => rfl
  | unlock ticket task => rfl
  | _ =>
      rw [at_point] at inside
      cases inside

/-- A worker that is not waiting to be woken goes on while the mutex is
free. -/
theorem worker_canWork (turns : Turns pool) {worker : WorkerId}
    (bound : worker < numThreads) (free : pool.queueMutex = none)
    (awake : pool.workerThread worker ≠ .parked)
    (running : pool.workerThread worker ≠ .exited) :
    canWork numThreads numCallers pool := by
  by_cases inside : (pool.workerThread worker).critical = true
  · exact worker_inside_canWork turns bound inside
  · apply canWork_of_worker bound
    unfold workerStep
    cases at_point : pool.workerThread worker with
    | loop => rfl
    | lock => simp [free]
    | woken => simp [free]
    | execute ticket task => rfl
    | executing ticket task => rfl
    | parked => exact absurd at_point awake
    | exited => exact absurd at_point running
    | _ =>
        rw [at_point] at inside
        exact absurd rfl inside

/-- A caller goes on while the mutex is free or its own. -/
theorem caller_canWork {caller : CallerId}
    (free : pool.queueMutex = none ∨
      (pool.callerThread caller).critical = true)
    (inside : pool.callerThread caller ≠ .outside) :
    canWork numThreads numCallers pool := by
  cases at_point : pool.callerThread caller with
  | outside => exact absurd at_point inside
  | lock task =>
      rw [at_point] at free
      have unlocked : pool.queueMutex = none := by
        rcases free with unlocked | critical
        · exact unlocked
        · cases critical
      apply canWork_of_step (.caller caller) trivial
      simp [step, callerStep, at_point, unlocked]
  | emplace task =>
      apply canWork_of_step (.caller caller) trivial
      simp [step, callerStep, at_point]
  | unlock ticket =>
      apply canWork_of_step (.caller caller) trivial
      simp [step, callerStep, at_point]
  | notifyOne ticket =>
      by_cases sleeper : ∃ worker < numThreads,
          (pool.workerThread worker).isParked = true
      · obtain ⟨worker, bound, parked⟩ := sleeper
        apply canWork_of_step (.notifyOne caller (some worker)) trivial
        simp [step, notifyOne, at_point, bound, parked]
      · have none_parked : ∀ worker < numThreads,
            (pool.workerThread worker).isParked = false := by
          intro worker bound
          rw [← Bool.not_eq_true]
          intro parked
          exact sleeper ⟨worker, bound, parked⟩
        apply canWork_of_step (.notifyOne caller none) trivial
        simp only [step, notifyOne, at_point]
        rw [if_pos none_parked]
        rfl

/-- The destructor goes on unless it waits for a worker. -/
theorem destructor_canWork (called : pool.destructor ≠ .idle)
    (unreturned : pool.destructor ≠ .returned)
    (joins : ∀ worker < numThreads, pool.destructor = .joining worker →
      pool.workerThread worker = .exited) :
    canWork numThreads numCallers pool := by
  apply canWork_of_step .destructor called
  unfold step destructorStep
  cases at_point : pool.destructor with
  | idle => exact absurd at_point called
  | returned => exact absurd at_point unreturned
  | storeStop => rfl
  | notifyAll => rfl
  | joining worker =>
      dsimp only
      by_cases bound : worker < numThreads
      · simp [bound, joins worker bound at_point, WorkerPoint.hasExited]
      · simp [bound]

/-- A reachable pool is at rest, or one of its threads can go on. -/
theorem atRest_or_canWork
    (reachable : (threadPool π φ numThreads numCallers).Reachable pool) :
    AtRest numThreads numCallers pool ∨ canWork numThreads numCallers pool := by
  by_contra neither
  obtain ⟨busy, stuck⟩ := not_or.mp neither
  have turns := turns_of_reachable reachable
  have free : pool.queueMutex = none := by
    cases holder : pool.queueMutex with
    | none => rfl
    | some thread =>
        exfalso
        have inside := turns.inside thread holder
        cases thread with
        | worker worker =>
            have away : pool.workerThread worker ≠ .loop := by
              intro at_loop
              rw [Inside, at_loop] at inside
              cases inside
            exact stuck
              (worker_inside_canWork turns
                (worker_lt_of_reachable reachable worker away) inside)
        | caller caller =>
            apply stuck
            apply caller_canWork (.inr inside)
            intro outside
            rw [Inside, outside] at inside
            cases inside
  have workers : ∀ worker < numThreads,
      pool.workerThread worker = .parked ∨
        pool.workerThread worker = .exited := by
    intro worker bound
    by_contra going
    obtain ⟨awake, running⟩ := not_or.mp going
    exact stuck (worker_canWork turns bound free awake running)
  apply busy
  constructor
  · intro caller _
    by_contra inside
    exact stuck (caller_canWork (.inl free) inside)
  · exact workers
  · by_contra going
    simp only [not_or, not_exists, not_and] at going
    obtain ⟨called, unreturned, joins⟩ := going
    apply stuck
    apply destructor_canWork called unreturned
    intro worker bound at_join
    rcases workers worker bound with parked | ended
    · exact absurd parked (joins worker bound at_join)
    · exact ended

/-! ## What a pool comes to -/

theorem attended_of_reachable
    (reachable : (threadPool π φ numThreads numCallers).Reachable pool) :
    Attended numThreads numCallers pool := by
  refine TransitionSystem.Reachable.invariant ?_ ?_ reachable
  · intro state initially
    cases initially
    exact Attended.start
  · intro before action after reached taken attended
    exact attended.step (locked_of_reachable reached)
      (caller_lt_of_reachable reached) (move_of_step taken)

/-- All workers wait for a task, and all tasks ever pushed have been
executed. -/
structure Drained (numThreads : Nat) (pool : ThreadPool π φ) : Prop where
  parked : ∀ worker < numThreads, pool.workerThread worker = .parked
  tasks : pool.tasks = []
  executed : ∀ ticket < pool.enqueued.length, Executed pool ticket

/-- While no worker has a task, all tasks popped have been executed. -/
theorem executed_of_unheld
    (reachable : (threadPool π φ numThreads numCallers).Reachable pool)
    (unheld : ∀ worker < numThreads, (pool.workerThread worker).held = none)
    {ticket : Ticket} (popped : ticket < pool.dequeued.length) :
    Executed pool ticket := by
  have conserved := conserved_of_reachable reachable
  obtain ⟨⟨worker, task⟩, found⟩ :
      ∃ entry, pool.dequeued[ticket]? = some entry :=
    ⟨_, List.getElem?_eq_getElem popped⟩
  have finished : ticket ∈ pool.finished := by
    by_contra unfinished
    have held := conserved.kept ticket worker task found unfinished
    have away : pool.workerThread worker ≠ .loop := by
      intro at_loop
      rw [at_loop] at held
      cases held
    rw [unheld worker (worker_lt_of_reachable reachable worker away)] at held
    cases held
  constructor
  · exact finished
  · intro pushed at_ticket
    cases at_ticket.symm.trans (conserved.enqueued_of_entry found)
    exact (callsMade_of_reachable reachable).finished ticket finished worker
      task found

namespace AtRest

variable (rest : AtRest numThreads numCallers pool)

include rest

/-- Before the destructor nothing is left undone. -/
theorem drained (positive : 0 < numThreads)
    (reachable : (threadPool π φ numThreads numCallers).Reachable pool)
    (idle : pool.destructor = .idle) : Drained numThreads pool := by
  have running : pool.stop = false := by
    rw [← Bool.not_eq_true]
    intro stopped
    exact ((stop_of_reachable reachable).mp stopped).1 idle
  have parked : ∀ worker < numThreads,
      pool.workerThread worker = .parked := by
    intro worker bound
    rcases rest.workers worker bound with parked | ended
    · exact parked
    · cases running.symm.trans (stop_of_exited reachable worker ended)
  have empty : pool.tasks = [] := by
    have enough := attended_of_reachable reachable running
      ⟨0, positive, parked 0 positive⟩
    have nobody : pool.availableWorkers numThreads = 0 := by
      apply Census.census_eq_zero.mpr
      intro worker member
      rw [parked worker (List.mem_range.mp member)]
      rfl
    have nothing : pool.pushedCallers numCallers = 0 := by
      apply Census.census_eq_zero.mpr
      intro caller member
      rw [rest.callers caller (List.mem_range.mp member)]
      rfl
    rw [nobody, nothing] at enough
    exact List.eq_nil_of_length_eq_zero (Nat.le_zero.mp enough)
  refine ⟨parked, empty, ?_⟩
  intro ticket pushed
  apply executed_of_unheld reachable
  · intro worker bound
    rw [parked worker bound]
    rfl
  · have conserved := (conserved_of_reachable reachable).enqueued_eq
    rw [empty, List.append_nil] at conserved
    rw [conserved, List.length_map] at pushed
    exact pushed

/-- A destructor that waits for a parked worker waits for ever. -/
theorem hung {worker : WorkerId} (bound : worker < numThreads)
    (at_join : pool.destructor = .joining worker)
    (parked : pool.workerThread worker = .parked) :
    Hung numThreads numCallers pool := by
  refine ⟨⟨?_, worker, bound, ?_⟩, rest.callers⟩
  · rw [at_join]
    rfl
  · rw [parked]
    rfl

end AtRest

/-- Without new calls a pool comes to rest. -/
theorem inevitable_rest
    (reachable : (threadPool π φ numThreads numCallers).Reachable pool) :
    (threadPool π φ numThreads numCallers).Inevitable working
      (fun pool =>
        (threadPool π φ numThreads numCallers).Reachable pool ∧
          AtRest numThreads numCallers pool) pool := by
  refine TransitionSystem.Inevitable.of_variant Nat.lt_wfRel.wf
    (effort numThreads numCallers) (fun _ _ _ => trivial) ?_ ?_ reachable
  · intro before action after reached works taken
    exact effort_smaller reached works (move_of_step taken)
  · intro state reached
    exact (atRest_or_canWork reached).imp_left fun rest => ⟨reached, rest⟩

/-- From every reachable state of a pool with a worker, any steps of its own,
without spurious wake-ups and without new calls, come to an end in one of
three ways, in each with every `enqueueTask` returned.  If the destructor has
not been called, all tasks ever enqueued have been executed and all workers
wait.  Otherwise it has returned after all workers have, or it waits for a
worker that nobody will wake up.  The tasks' functions are taken to return. -/
theorem comes_to_rest (positive : 0 < numThreads)
    (reachable : (threadPool π φ numThreads numCallers).Reachable pool) :
    (threadPool π φ numThreads numCallers).Inevitable working
      (fun pool =>
        (∀ caller < numCallers, pool.callerThread caller = .outside) ∧
          (pool.destructor = .idle ∧ Drained numThreads pool ∨
            pool.destructor = .returned ∧
              (∀ worker < numThreads,
                pool.workerThread worker = .exited) ∨
            Hung numThreads numCallers pool)) pool := by
  refine (inevitable_rest reachable).mono ?_
  rintro state ⟨reached, rest⟩
  refine ⟨rest.callers, ?_⟩
  rcases rest.destructor with idle | returned | waits
  · exact .inl ⟨idle, rest.drained positive reached idle⟩
  · right
    left
    refine ⟨returned, ?_⟩
    intro worker bound
    apply exited_of_hasJoined reached worker bound
    rw [returned]
    trivial
  · obtain ⟨worker, bound, at_join, parked⟩ := waits
    exact .inr (.inr (rest.hung bound at_join parked))

/-- One worker is parked, one executes a task, and a second task has just been
pushed. -/
theorem comes_to_rest_busy :
    ∃ pool : ThreadPool Nat Nat,
      (threadPool Nat Nat 2 1).Reachable pool ∧
        (pool.workerThread 0 = .parked ∧ pool.finished = [] ∧
          pool.dequeued.length = 1 ∧ pool.tasks.length = 1) ∧
        (threadPool Nat Nat 2 1).Inevitable working
          (fun pool =>
            (∀ caller < 1, pool.callerThread caller = .outside) ∧
              (pool.destructor = .idle ∧ Drained 2 pool ∨
                pool.destructor = .returned ∧
                  (∀ worker < 2, pool.workerThread worker = .exited) ∨
                Hung 2 1 pool)) pool := by
  obtain ⟨pool, reachable, at_state⟩ :=
    exists_pool_of_replay 2 1 (fun _ _ => True)
      (fun pool : ThreadPool Nat Nat =>
        pool.workerThread 0 = .parked ∧ pool.finished = [] ∧
          pool.dequeued.length = 1 ∧ pool.tasks.length = 1)
      (enqueue 0 { eventStorePointer := 7, taskExecutionFunc := some 1 } ++
        workerSteps 1 7 ++ workerSteps 0 4 ++
        [.enqueueTask 0 { eventStorePointer := 8, taskExecutionFunc := none },
          .caller 0, .caller 0])
      (by decide)
  exact ⟨pool, reachable, at_state, comes_to_rest Nat.two_pos reachable⟩

/-! ## Shutdown -/

/-- After `notify_all` no worker starts to wait. -/
theorem Move.awake_stays {action : Action π φ}
    (reachable : (threadPool π φ numThreads numCallers).Reachable before)
    (move : Move numThreads numCallers before action after)
    (notified : before.destructor.hasNotified = true)
    (awake : ¬Stranded numThreads before) :
    after.destructor.hasNotified = true ∧ ¬Stranded numThreads after := by
  constructor
  · cases move with
    | execute worker ticket task bound at_point =>
        rw [call_eq]
        exact notified
    | beginDestructor at_point =>
        rw [at_point] at notified
        cases notified
    | storeStop at_point =>
        rw [at_point] at notified
        cases notified
    | notifyAll at_point => rfl
    | join worker bound at_point ended => rfl
    | joined worker all at_point => rfl
    | _ => exact notified
  · intro stranded
    apply awake
    apply Stranded.of_step reachable move _ stranded
    intro _ at_point
    rw [at_point] at notified
    cases notified

/-- Once the destructor has notified everybody and no worker waits or is about
to, its joins all come to an end, in whatever order the workers finish what is
left in the queue.  The tasks' functions are taken to return. -/
theorem shutdown_completes
    (reachable : (threadPool π φ numThreads numCallers).Reachable pool)
    (notified : pool.destructor.hasNotified = true)
    (awake : ¬Stranded numThreads pool) :
    (threadPool π φ numThreads numCallers).Inevitable working
      (fun pool => pool.destructor = .returned ∧
        ∀ worker < numThreads, pool.workerThread worker = .exited) pool := by
  refine (inevitable_rest reachable).keep
    (fun pool =>
      (threadPool π φ numThreads numCallers).Reachable pool ∧
        pool.destructor.hasNotified = true ∧ ¬Stranded numThreads pool)
    ?_ ?_ ⟨reachable, notified, awake⟩
  · rintro before action after - taken ⟨reached, notified, awake⟩
    exact ⟨.step reached trivial taken,
      (move_of_step taken).awake_stays reached notified awake⟩
  · rintro state ⟨reached, rest⟩ ⟨-, notified, awake⟩
    have returned : state.destructor = .returned := by
      rcases rest.destructor with idle | returned | waits
      · rw [idle] at notified
        cases notified
      · exact returned
      · obtain ⟨worker, bound, at_join, parked⟩ := waits
        exact absurd (rest.hung bound at_join parked).1 awake
    refine ⟨returned, ?_⟩
    intro worker bound
    apply exited_of_hasJoined reached worker bound
    rw [returned]
    trivial

/-- The parked worker has been notified while the other one executes a task
and a second task is queued. -/
theorem shutdown_completes_busy :
    ∃ pool : ThreadPool Nat Nat,
      (threadPool Nat Nat 2 1).Reachable pool ∧
        (pool.workerThread 0 = .woken ∧ pool.finished = [] ∧
          pool.dequeued.length = 1 ∧ pool.tasks.length = 1) ∧
        (threadPool Nat Nat 2 1).Inevitable working
          (fun pool => pool.destructor = .returned ∧
            ∀ worker < 2, pool.workerThread worker = .exited) pool := by
  obtain ⟨pool, reachable, at_state, notified, waits⟩ :=
    exists_pool_of_replay 2 1 (fun _ _ => True)
      (fun pool : ThreadPool Nat Nat =>
        (pool.workerThread 0 = .woken ∧ pool.finished = [] ∧
            pool.dequeued.length = 1 ∧ pool.tasks.length = 1) ∧
          pool.destructor.hasNotified = true ∧
            ∀ worker < 2, (pool.workerThread worker).waits = false)
      (enqueue 0 { eventStorePointer := 7, taskExecutionFunc := some 1 } ++
        workerSteps 1 7 ++ workerSteps 0 4 ++
        [.enqueueTask 0 { eventStorePointer := 8, taskExecutionFunc := none },
          .caller 0, .caller 0, .caller 0] ++ destructorSteps 3)
      (by decide)
  refine ⟨pool, reachable, at_state,
    shutdown_completes reachable notified ?_⟩
  rintro ⟨-, worker, bound, waiting⟩
  cases (waits worker bound).symm.trans waiting

end ThreadPool

end EventPlus

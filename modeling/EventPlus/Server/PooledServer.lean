/-
Module: EventPlus.Server.PooledServer
Purpose: The server with the pool taken apart: its own steps beside the lines of
  `ThreadPool`, which meet where a task is pushed, popped, begun and ended.
Trusted boundary: none
Main exports:
  pooledServer, pooled_server_agrees
-/
import EventPlus.Server.WorkView
import EventPlus.ThreadPool.Turns
import EventPlus.ThreadPool.WorkView

namespace EventPlus

/-!
The server's model pushes a task in one step and takes one in another.  In the
program there is a mutex around both, and workers wait on a condition variable
until they are notified.  Side by side the two models cannot disagree, and
neither has to wait for the other where a worker takes its task, begins its
callback, and ends it.  Any thread may be the caller of the pool, and the
server's threads do not wait for the end of their calls, so that all runs of the
program are among the runs of the two.
-/

/-- The server with `ThreadPool` as its pool. -/
def pooledServer (φ : Type) (config : Config) (numCallers : Nat) :
    TransitionSystem (Server × ThreadPool ConnectionId φ)
      (JointAction Action (ThreadPool.Action ConnectionId φ)) :=
  joined (tcpServer config)
    (threadPool ConnectionId φ config.numWorkers numCallers)
    Server.workEvent ThreadPool.workEvent

section Pooled

variable {φ : Type} {config : Config} {numCallers : Nat}
  {server : Server} {pool : ThreadPool ConnectionId φ}

/-- The two have the same tasks in the queue and in the workers' hands. -/
theorem workView_eq
    (reachable : (pooledServer φ config numCallers).Reachable
      (server, pool)) : server.workView = pool.workView := by
  apply Refinement.agree Server.refines_workQueue
    ThreadPool.refines_workQueue _ reachable
  rintro state other rfl rfl
  rfl

theorem tasks_eq
    (reachable : (pooledServer φ config numCallers).Reachable
      (server, pool)) :
    server.tasks.map (·.eventStorePointer) =
      pool.tasks.map (·.eventStorePointer) :=
  congrArg WorkQueue.queue (workView_eq reachable)

theorem hand_eq
    (reachable : (pooledServer φ config numCallers).Reachable (server, pool))
    (worker : WorkerId) :
    (server.workerThread worker).hand = (pool.workerThread worker).hand :=
  congrFun (congrArg WorkQueue.hand (workView_eq reachable)) worker

/-- A joint step that both sides are ready for. -/
theorem both_enabled (event : WorkQueue.Event WorkerId ConnectionId)
    {one : Action} {other : ThreadPool.Action ConnectionId φ}
    (serverReady : (step config server one).isSome = true)
    (poolReady :
      (pool.step config.numWorkers numCallers other).isSome = true)
    (serverShown : server.workEvent one = some event)
    (poolShown : pool.workEvent other = some event) :
    ((pooledServer φ config numCallers).step (server, pool)
      (.both one other)).isSome = true := by
  obtain ⟨after, taken⟩ := Option.isSome_iff_exists.mp serverReady
  obtain ⟨next, followed⟩ := Option.isSome_iff_exists.mp poolReady
  simp [pooledServer, joined, serverShown, poolShown, tcpServer, threadPool,
    taken, followed]

/-- A worker that is about to pop finds the server ready. -/
theorem take_enabled
    (reachable : (pooledServer φ config numCallers).Reachable (server, pool))
    {worker : WorkerId} (bound : worker < config.numWorkers)
    (at_point : pool.workerThread worker = .take) :
    ((pooledServer φ config numCallers).step (server, pool)
      (.both (.worker worker .take) (.worker worker))).isSome = true := by
  have hands := hand_eq reachable worker
  have items := tasks_eq reachable
  have idle : server.workerThread worker = .idle := by
    rw [at_point] at hands
    cases here : server.workerThread worker with
    | idle => rfl
    | taken task =>
        rw [here] at hands
        cases hands
    | callback task call =>
        rw [here] at hands
        cases hands
  have queued :=
    (ThreadPool.turns_of_reachable
      (reachable_of_joined reachable).2).justified worker
  rw [at_point] at queued
  cases queue : pool.tasks with
  | nil => exact absurd queue queued
  | cons first rest =>
      cases tasks : server.tasks with
      | nil =>
          rw [queue, tasks] at items
          cases items
      | cons task more =>
          rw [queue, tasks, List.map_cons, List.map_cons,
            List.cons.injEq] at items
          apply both_enabled (.take worker task.eventStorePointer)
          · simp [step, bound, workerStep, idle, tasks]
          · simp [ThreadPool.step, bound, ThreadPool.workerStep, at_point,
              queue]
          · simp [Server.workEvent, tasks]
          · simp [ThreadPool.workEvent, at_point, queue, items.1]

/-- A worker that is about to call its task's function finds the server
ready. -/
theorem start_enabled
    (reachable : (pooledServer φ config numCallers).Reachable (server, pool))
    {worker : WorkerId} (bound : worker < config.numWorkers)
    {ticket : ThreadPool.Ticket} {task : ThreadPool.Task ConnectionId φ}
    (at_point : pool.workerThread worker = .execute ticket task) :
    ((pooledServer φ config numCallers).step (server, pool)
      (.both (.worker worker .dispatch) (.worker worker))).isSome = true := by
  have hands := hand_eq reachable worker
  rw [at_point] at hands
  cases here : server.workerThread worker with
  | idle =>
      rw [here] at hands
      cases hands
  | callback taken call =>
      rw [here] at hands
      cases hands
  | taken taken =>
      rw [here] at hands
      have same : taken.eventStorePointer = task.eventStorePointer := by
        injection hands
      apply both_enabled (.start worker task.eventStorePointer)
      · simp [step, bound, workerStep, here]
      · simp [ThreadPool.step, bound, ThreadPool.workerStep, at_point]
      · simp [Server.workEvent, here, same]
      · simp [ThreadPool.workEvent, at_point]

/-- A worker whose callback ends finds the pool ready. -/
theorem finish_enabled
    (reachable : (pooledServer φ config numCallers).Reachable (server, pool))
    {worker : WorkerId} (bound : worker < config.numWorkers) {task : IOTask}
    (at_point : server.workerThread worker = .callback task none) :
    ((pooledServer φ config numCallers).step (server, pool)
      (.both (.worker worker .finish) (.worker worker))).isSome = true := by
  have hands := hand_eq reachable worker
  rw [at_point] at hands
  cases here : pool.workerThread worker with
  | executing ticket held =>
      rw [here] at hands
      have same : task.eventStorePointer = held.eventStorePointer := by
        injection hands
      apply both_enabled (.finish worker task.eventStorePointer)
      · simp [step, bound, workerStep, at_point]
      · simp [ThreadPool.step, bound, ThreadPool.workerStep, here]
      · simp [Server.workEvent, at_point]
      · simp [ThreadPool.workEvent, here, same]
  | _ =>
      rw [here] at hands
      cases hands

/-- The server and the pool beside it always have the same tasks in the queue,
in the same order, and the same task in each worker's hand, taken or running.
When a worker of the pool is about to pop a task or to call its function, the
server can take the step that belongs to it, and when a callback of the server
ends, the pool can. -/
theorem pooled_server_agrees
    (reachable :
      (pooledServer φ config numCallers).Reachable (server, pool)) :
    server.tasks.map (·.eventStorePointer) =
        pool.tasks.map (·.eventStorePointer) ∧
      (∀ worker, (server.workerThread worker).hand =
        (pool.workerThread worker).hand) ∧
      ∀ worker < config.numWorkers,
        (pool.workerThread worker = .take →
          ((pooledServer φ config numCallers).step (server, pool)
            (.both (.worker worker .take) (.worker worker))).isSome = true) ∧
        (∀ ticket task, pool.workerThread worker = .execute ticket task →
          ((pooledServer φ config numCallers).step (server, pool)
            (.both (.worker worker .dispatch)
              (.worker worker))).isSome = true) ∧
        ∀ task, server.workerThread worker = .callback task none →
          ((pooledServer φ config numCallers).step (server, pool)
            (.both (.worker worker .finish)
              (.worker worker))).isSome = true := by
  refine ⟨tasks_eq reachable, hand_eq reachable, ?_⟩
  intro worker bound
  refine ⟨take_enabled reachable bound, ?_, ?_⟩
  · intro ticket task at_point
    exact start_enabled reachable bound at_point
  · intro task at_point
    exact finish_enabled reachable bound at_point

end Pooled

theorem exists_pooled_of_replay {φ : Type} (config : Config)
    (numCallers : Nat) (test : Server × ThreadPool ConnectionId φ → Prop)
    [DecidablePred test]
    (actions : List (JointAction Action (ThreadPool.Action ConnectionId φ)))
    (tested :
      ((pooledServer φ config numCallers).replay (fun _ _ => True)
          (Server.start config, ThreadPool.start) actions).any
        (fun state => test state) = true) :
    ∃ state, (pooledServer φ config numCallers).Reachable state ∧
      test state := by
  have start : (pooledServer φ config numCallers).initial
      (Server.start config, ThreadPool.start) := ⟨rfl, rfl⟩
  exact TransitionSystem.exists_reached_of_replay actions start tested

/-- The accept thread has enqueued the task of a connection while the pool's
worker was waiting, and the worker has been woken up. -/
theorem pooled_server_agrees_woken :
    ∃ (server : Server) (pool : ThreadPool ConnectionId Nat),
      (pooledServer Nat .single 1).Reachable (server, pool) ∧
        (server.tasks.length = 1 ∧ server.workerThread 0 = .idle ∧
          pool.workerThread 0 = .take) ∧
        ((pooledServer Nat .single 1).step (server, pool)
          (.both (.worker 0 .take) (.worker 0))).isSome = true := by
  obtain ⟨⟨server, pool⟩, reachable, at_state⟩ :=
    exists_pooled_of_replay .single 1
      (fun state : Server × ThreadPool ConnectionId Nat =>
        state.1.tasks.length = 1 ∧ state.1.workerThread 0 = .idle ∧
          state.2.workerThread 0 = .take)
      ((ThreadPool.workerSteps 0 4).map .second ++
        (connectAndAdmit 4).dropLast.dropLast.map .first ++
        [.second (.enqueueTask 0
            { eventStorePointer := 0, taskExecutionFunc := some 1 }),
          .second (.caller 0), .both (.accept .proceed) (.caller 0),
          .second (.caller 0), .second (.notifyOne 0 (some 0))] ++
        (ThreadPool.workerSteps 0 3).map .second)
      (by decide)
  have agrees := (pooled_server_agrees reachable).2.2 0 Nat.one_pos
  exact ⟨server, pool, reachable, at_state, agrees.1 at_state.2.2⟩

end EventPlus

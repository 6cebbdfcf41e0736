/-
Module: EventPlus.Server.TaskQueue
Purpose: The task queue and the pool workers: tasks leave the queue in the order
  they entered it, every task is dispatched at most once, and each worker runs
  its callbacks one after the other.
Trusted boundary: none
Main exports:
  Server.undispatched, Server.takenTasks, Server.dispatchedTasks, TaskQueue,
  taskQueue_of_reachable, callbacks_in_queue_order
-/
import EventPlus.Library.Slots
import EventPlus.Server.TaskOrder

namespace EventPlus

open Function (update)

/-- The task a worker has taken and not yet dispatched. -/
def WorkerPoint.waiting : WorkerPoint → Option IOTask
  | .taken task => some task
  | _ => none

namespace WorkerEvent

def worker : WorkerEvent → WorkerId
  | .take worker _ | .callback worker _ _ | .finish worker _ => worker

def taken : WorkerEvent → Option IOTask
  | .take _ task => some task
  | _ => none

def dispatched : WorkerEvent → Option IOTask
  | .callback _ task _ => some task
  | _ => none

end WorkerEvent

namespace Server

/-- The tasks a worker has taken so far, in order. -/
def takenTasks (server : Server) : List IOTask :=
  server.workerTrace.filterMap (·.taken)

/-- The tasks whose callback has been started, in order. -/
def dispatchedTasks (server : Server) : List IOTask :=
  server.workerTrace.filterMap (·.dispatched)

/-- The tasks taken and not yet dispatched. -/
def waitingTasks (config : Config) (server : Server) : List IOTask :=
  Slots.contents (List.range config.numWorkers)
    (WorkerPoint.waiting ∘ server.workerThread)

/-- The tasks whose callback has not been started. -/
def undispatched (config : Config) (server : Server) : List IOTask :=
  server.waitingTasks config ++ server.tasks

/-- What one worker did. -/
def eventsOf (server : Server) (worker : WorkerId) : List WorkerEvent :=
  server.workerTrace.filter (·.worker = worker)

end Server

/-- Callbacks run by one worker from start to end, one after the other. -/
def serialEvents (worker : WorkerId) (finished : List (IOTask × EventType)) :
    List WorkerEvent :=
  finished.flatMap fun run =>
    [.take worker run.1, .callback worker run.1 run.2, .finish worker run.1]

/-- What a worker at a program point has done for the task in hand. -/
inductive OpenEvents (worker : WorkerId) :
    WorkerPoint → List WorkerEvent → Prop where
  | idle : OpenEvents worker .idle []
  | taken (task : IOTask) :
      OpenEvents worker (.taken task) [.take worker task]
  | callback (task : IOTask) (call : Option Call) (kind : EventType) :
      OpenEvents worker (.callback task call)
        [.take worker task, .callback worker task kind]

/-- The bookkeeping of queue and workers. -/
structure TaskQueue (config : Config) (server : Server) : Prop where
  in_order : server.enqueued = server.takenTasks ++ server.tasks
  conserved :
    server.takenTasks.Perm
      (server.dispatchedTasks ++ server.waitingTasks config)
  serial : ∀ worker, ∃ finished current,
    server.eventsOf worker = serialEvents worker finished ++ current ∧
      OpenEvents worker (server.workerThread worker) current
  idle_beyond : ∀ worker, config.numWorkers ≤ worker →
    server.workerThread worker = .idle
  events_bound : ∀ event ∈ server.workerTrace,
    event.worker < config.numWorkers

namespace TaskQueue

theorem start (config : Config) :
    TaskQueue config (Server.start config) where
  in_order := rfl
  conserved := by
    have nothing : (Server.start config).waitingTasks config = [] := by
      apply List.filterMap_eq_nil_iff.mpr
      intro worker _
      rfl
    rw [nothing]
    exact .refl _
  serial := by
    intro worker
    exact ⟨[], [], rfl, .idle⟩
  idle_beyond := by
    intro worker _
    rfl
  events_bound := by
    intro event member
    cases member

/-- Every task is dispatched, or waits with a worker, or is in the queue. -/
theorem enqueued_perm {config : Config} {server : Server}
    (queue : TaskQueue config server) :
    server.enqueued.Perm
      (server.dispatchedTasks ++ server.undispatched config) := by
  rw [queue.in_order]
  refine (queue.conserved.append_right _).trans ?_
  rw [Server.undispatched, List.append_assoc]

theorem enqueueTask {config : Config} {server : Server}
    (queue : TaskQueue config server) (task : IOTask) :
    TaskQueue config (server.enqueueTask task) := by
  refine { queue with in_order := ?_ }
  simp only [Server.enqueueTask]
  rw [queue.in_order, List.append_assoc]
  rfl

/-- A worker moves and may note an event. -/
theorem moveWorker {config : Config} {server : Server}
    (queue : TaskQueue config server) {worker : WorkerId}
    (bound : worker < config.numWorkers) (point : WorkerPoint)
    (events : List WorkerEvent) (tasks : List IOTask)
    (mine : ∀ event ∈ events, event.worker = worker)
    (in_order : server.takenTasks ++ server.tasks =
      server.takenTasks ++ events.filterMap (·.taken) ++ tasks)
    (conserved :
      (server.takenTasks ++ events.filterMap (·.taken)).Perm
        (server.dispatchedTasks ++ events.filterMap (·.dispatched) ++
          Slots.contents (List.range config.numWorkers)
            (update (WorkerPoint.waiting ∘ server.workerThread) worker
              point.waiting)))
    (serial : ∀ finished current,
      OpenEvents worker (server.workerThread worker) current →
        ∃ more next,
          serialEvents worker finished ++ current ++ events =
              serialEvents worker more ++ next ∧
            OpenEvents worker point next) :
    TaskQueue config
      ({ server with
          workerTrace := server.workerTrace ++ events
          tasks := tasks }.setWorker worker point) := by
  refine
    { in_order := ?_
      conserved := ?_
      serial := ?_
      idle_beyond := ?_
      events_bound := ?_ }
  · have whole := queue.in_order
    rw [in_order] at whole
    simpa [Server.takenTasks, Server.setWorker] using whole
  · simp only [Server.takenTasks, Server.dispatchedTasks,
      Server.waitingTasks, Server.setWorker, List.filterMap_append]
    rw [Function.comp_update]
    exact conserved
  · intro other
    by_cases moved : other = worker
    · subst moved
      obtain ⟨finished, current, past, here⟩ := queue.serial other
      obtain ⟨more, next, all, there⟩ := serial finished current here
      refine ⟨more, next, ?_, ?_⟩
      · rw [← all, ← past]
        have every : events.filter (·.worker = other) = events := by
          apply List.filter_eq_self.mpr
          simpa using mine
        simp [Server.eventsOf, Server.setWorker, every]
      · simpa [Server.setWorker] using there
    · obtain ⟨finished, current, past, here⟩ := queue.serial other
      refine ⟨finished, current, ?_, ?_⟩
      · rw [← past]
        have none_here : events.filter (·.worker = other) = [] := by
          apply List.filter_eq_nil_iff.mpr
          intro event member
          simp [mine event member, Ne.symm moved]
        simp [Server.eventsOf, Server.setWorker, none_here]
      · simpa [Server.setWorker_of_ne moved] using here
  · intro other beyond
    have different : other ≠ worker :=
      Nat.ne_of_gt (Nat.lt_of_lt_of_le bound beyond)
    simp only [Server.setWorker_of_ne different]
    exact queue.idle_beyond other beyond
  · intro event member
    rcases List.mem_append.mp member with earlier | new
    · exact queue.events_bound event earlier
    · rw [mine event new]
      exact bound

/-- A worker without a waiting task leaves the waiting tasks alone. -/
theorem waiting_update_none {server : Server} {worker : WorkerId}
    (nothing : (server.workerThread worker).waiting = none) :
    update (WorkerPoint.waiting ∘ server.workerThread) worker none =
      WorkerPoint.waiting ∘ server.workerThread := by
  rw [← nothing]
  exact Function.update_eq_self _ _

/-- A worker takes the task at the head of the queue. -/
theorem take {config : Config} {server : Server}
    (queue : TaskQueue config server) {worker : WorkerId}
    (bound : worker < config.numWorkers) {task : IOTask}
    {rest : List IOTask} (at_point : server.workerThread worker = .idle)
    (head : server.tasks = task :: rest) :
    TaskQueue config
      ({ server.recordWorker (.take worker task) with
          tasks := rest }.setWorker worker (.taken task)) := by
  refine queue.moveWorker bound (.taken task) [.take worker task] rest
    ?_ ?_ ?_ ?_
  · simp [WorkerEvent.worker]
  · simp [head, WorkerEvent.taken]
  · have fill := Slots.contents_fill List.nodup_range
      (List.mem_range.mpr bound) (WorkerPoint.waiting ∘ server.workerThread)
      (by simp [at_point, WorkerPoint.waiting]) task
    refine (queue.conserved.append_right [task]).trans ?_
    rw [List.append_assoc]
    simp only [WorkerEvent.dispatched, List.filterMap_cons, List.filterMap_nil,
      List.append_nil]
    refine List.Perm.append_left _ ?_
    refine (List.perm_append_singleton _ _).trans ?_
    exact fill.symm
  · intro finished current opened
    rw [at_point] at opened
    cases opened
    exact ⟨finished, _, by simp, .taken task⟩

/-- A worker starts the callback of its task. -/
theorem dispatch {config : Config} {server : Server}
    (queue : TaskQueue config server) {worker : WorkerId}
    (bound : worker < config.numWorkers) {task : IOTask}
    (kind : EventType)
    (at_point : server.workerThread worker = .taken task) :
    TaskQueue config
      ((server.recordWorker (.callback worker task kind)).setWorker worker
        (.callback task none)) := by
  refine queue.moveWorker bound (.callback task none)
    [.callback worker task kind] server.tasks ?_ ?_ ?_ ?_
  · simp [WorkerEvent.worker]
  · simp [WorkerEvent.taken]
  · have clear := Slots.contents_clear List.nodup_range
      (List.mem_range.mpr bound) (WorkerPoint.waiting ∘ server.workerThread)
      (show _ = some task by simp [at_point, WorkerPoint.waiting])
    simp only [WorkerEvent.taken, WorkerEvent.dispatched,
      List.filterMap_cons, List.filterMap_nil, List.append_nil,
      WorkerPoint.waiting]
    refine queue.conserved.trans ?_
    rw [List.append_assoc]
    exact clear.append_left _
  · intro finished current opened
    rw [at_point] at opened
    cases opened
    exact ⟨finished, _, by simp, .callback task none kind⟩

/-- A worker moves inside its callback. -/
theorem moveInside {config : Config} {server : Server}
    (queue : TaskQueue config server) {worker : WorkerId}
    (bound : worker < config.numWorkers) {task : IOTask}
    {call : Option Call} (next : Option Call)
    (at_point : server.workerThread worker = .callback task call) :
    TaskQueue config (server.setWorker worker (.callback task next)) := by
  have moved := queue.moveWorker bound (.callback task next) [] server.tasks
    (by simp) (by simp)
    (by
      rw [show (WorkerPoint.callback task next).waiting = none from rfl,
        waiting_update_none (by simp [at_point, WorkerPoint.waiting])]
      simpa [Server.waitingTasks] using queue.conserved)
    (by
      intro finished current opened
      rw [at_point] at opened
      cases opened with
      | callback task call kind =>
          exact ⟨finished, _, by simp, .callback task next kind⟩)
  simpa using moved

/-- A worker ends its callback. -/
theorem finish {config : Config} {server : Server}
    (queue : TaskQueue config server) {worker : WorkerId}
    (bound : worker < config.numWorkers) {task : IOTask}
    (at_point : server.workerThread worker = .callback task none) :
    TaskQueue config
      ((server.recordWorker (.finish worker task)).setWorker worker
        .idle) := by
  refine queue.moveWorker bound .idle [.finish worker task] server.tasks
    ?_ ?_ ?_ ?_
  · simp [WorkerEvent.worker]
  · simp [WorkerEvent.taken]
  · rw [show WorkerPoint.idle.waiting = none from rfl,
      waiting_update_none (by simp [at_point, WorkerPoint.waiting])]
    simpa [WorkerEvent.taken, WorkerEvent.dispatched,
      Server.waitingTasks] using queue.conserved
  · intro finished current opened
    rw [at_point] at opened
    cases opened with
    | callback task call kind =>
        exact ⟨finished ++ [(task, kind)], [], by simp [serialEvents], .idle⟩

/-! ## Steps -/

theorem workerStep {config : Config} {before after : Server}
    {worker : WorkerId} {choice : WorkerChoice}
    (queue : TaskQueue config before) (bound : worker < config.numWorkers)
    (taken : WorkerStep config before worker choice after) :
    TaskQueue config after := by
  cases taken with
  | take task rest at_point head => exact queue.take bound at_point head
  | dispatch task at_point => exact queue.dispatch bound _ at_point
  | call task request call at_point =>
      exact { queue.moveInside bound (some call) at_point with }
  | syscall choice task call next syscall result kernel transfers at_point
      transferred =>
      exact { queue.moveInside bound (some next) at_point with }
  | returnCall task call at_point =>
      exact { queue.moveInside bound none at_point with }
  | close task at_point may_close =>
      obtain ⟨_, _, _, result⟩ :=
        before.closeConnection_frame config task.eventStorePointer
      rw [result]
      exact { queue with }
  | finish task at_point => exact queue.finish bound at_point

theorem serverStep {config : Config} {before after : Server}
    {action : Action} (queue : TaskQueue config before)
    (taken : ServerStep config before action after) :
    TaskQueue config after := by
  cases taken with
  | network taken => cases taken <;> exact { queue with }
  | accept choice taken =>
      cases taken with
      | initConnection store outcome at_point =>
          obtain ⟨_, _, _, result⟩ :=
            before.initConnection_frame config store outcome
          rw [result]
          exact { queue with }
      | enqueue store at_point =>
          exact { queue.enqueueTask
            { eventStorePointer := store, origin := .accept } with }
      | _ => exact { queue with }
  | poller poller choice bound taken =>
      cases taken with
      | dispatch store rest at_point =>
          exact { queue.enqueueTask
            { eventStorePointer := store, origin := .data } with }
      | enqueue store rest at_point =>
          exact { queue.enqueueTask
            { eventStorePointer := store, origin := .removal } with }
      | closeConnection store rest at_point =>
          obtain ⟨_, _, _, result⟩ := before.closeConnection_frame config store
          rw [result]
          exact { queue with }
      | _ => exact { queue with }
  | worker worker choice bound taken => exact queue.workerStep bound taken
  | stop taken =>
      cases taken with
      | closeListening closed at_point closes =>
          obtain ⟨_, _, result⟩ := Server.closeListening_frame closes
          rw [result]
          exact { queue with }
      | closing store rest at_point =>
          obtain ⟨_, _, _, result⟩ := before.closeConnection_frame config store
          rw [result]
          exact { queue with }
      | _ => exact { queue with }

end TaskQueue

/-- The bookkeeping holds in every reachable state. -/
theorem taskQueue_of_reachable {config : Config} {server : Server}
    (reachable : (tcpServer config).Reachable server) :
    TaskQueue config server := by
  refine TransitionSystem.Reachable.invariant ?_ ?_ reachable
  · rintro state rfl
    exact TaskQueue.start config
  · intro before action after _ taken queue
    exact queue.serverStep (serverStep_of_step taken)

/-! ## The order of callbacks -/

/-- With one worker, everything the pool did is what that worker did. -/
theorem TaskQueue.eventsOf_single {config : Config} {server : Server}
    (queue : TaskQueue config server) (single : config.numWorkers = 1) :
    server.eventsOf 0 = server.workerTrace := by
  apply List.filter_eq_self.mpr
  intro event member
  have bound := queue.events_bound event member
  simp only [decide_eq_true_eq]
  exact Nat.lt_one_iff.mp (single ▸ bound)

theorem takenTasks_of_serial (worker : WorkerId)
    (finished : List (IOTask × EventType)) :
    (serialEvents worker finished).filterMap (·.taken) =
      finished.map (·.1) := by
  induction finished with
  | nil => rfl
  | cons run rest inductionHypothesis =>
      simpa [serialEvents, WorkerEvent.taken] using inductionHypothesis

/-- Workers take the tasks in the order they were enqueued, a removal task is
the last one of its connection, and each worker runs its callbacks from start to
end one after the other.  With a single worker, callbacks therefore run one at a
time in the order of the queue. -/
theorem callbacks_in_queue_order {config : Config} {server : Server}
    (reachable : (tcpServer config).Reachable server) :
    server.enqueued = server.takenTasks ++ server.tasks ∧
      (∀ connection before after,
        server.taskOrigins connection = before ++ .removal :: after →
          after = []) ∧
      (∀ worker, ∃ finished current,
        server.eventsOf worker = serialEvents worker finished ++ current ∧
          OpenEvents worker (server.workerThread worker) current) ∧
      (config.numWorkers = 1 → ∃ finished current,
        server.workerTrace = serialEvents 0 finished ++ current ∧
          OpenEvents 0 (server.workerThread 0) current ∧
          finished.map (·.1) <+: server.enqueued) := by
  have queue := taskQueue_of_reachable reachable
  have order := taskOrder_of_reachable reachable
  refine ⟨queue.in_order, ?_, queue.serial, ?_⟩
  · intro connection before after split_at
    obtain ⟨phase, at_phase⟩ :=
      Option.ne_none_iff_exists'.mp (order.followed connection)
    have whole : phaseAfter (server.taskOrigins connection) = some phase :=
      at_phase
    rw [split_at] at whole
    exact (removal_last_of_phaseAfter whole).2
  · intro single
    obtain ⟨finished, current, past, opened⟩ := queue.serial 0
    rw [queue.eventsOf_single single] at past
    refine ⟨finished, current, past, opened, ?_⟩
    rw [queue.in_order, Server.takenTasks, past, List.filterMap_append,
      takenTasks_of_serial, List.append_assoc]
    exact List.prefix_append _ _

/-- The only worker has run the accept callback and is inside the data
callback. -/
theorem callbacks_in_queue_order_single :
    ∃ server,
      (tcpServer .single).Reachable server ∧
        server.taskOrigins 0 = [.accept, .data] ∧
        server.tasks = [] ∧
        ∃ finished current,
          server.workerTrace = serialEvents 0 finished ++ current ∧
            OpenEvents 0 (server.workerThread 0) current ∧
            finished.map (·.1) <+: server.enqueued := by
  obtain ⟨server, reachable, raised, drained⟩ :=
    exists_server_of_replay .single (fun _ _ => True)
      (fun server => server.taskOrigins 0 = [.accept, .data] ∧
        server.tasks = [])
      (connectAndAdmit 4 ++ [.segment 0 5] ++ pollOne 0 0 ++ handleData 0 ++
        runTask 0 ++ [.worker 0 .take, .worker 0 .dispatch])
      (by decide)
  exact ⟨server, reachable, raised, drained,
    (callbacks_in_queue_order reachable).2.2.2 rfl⟩

/-- Two workers are inside callbacks of one connection. -/
theorem callbacks_overlap :
    ¬ ∀ server,
        (tcpServer { Config.single with numWorkers := 2 }).Reachable server →
          ∀ first second one two firstCall secondCall,
            server.workerThread first = .callback one firstCall →
              server.workerThread second = .callback two secondCall →
                one.eventStorePointer = two.eventStorePointer →
                  first = second := by
  intro serial
  obtain ⟨server, reachable, firstInside, secondInside⟩ :=
    exists_server_of_replay { Config.single with numWorkers := 2 }
      (fun _ _ => True)
      (fun server =>
        server.workerThread 0 =
            .callback { eventStorePointer := 0, origin := .accept } none ∧
          server.workerThread 1 =
            .callback { eventStorePointer := 0, origin := .data } none)
      (connectAndAdmit 4 ++ [.segment 0 5] ++ pollOne 0 0 ++ handleData 0 ++
        [.worker 0 .take, .worker 0 .dispatch, .worker 1 .take,
          .worker 1 .dispatch])
      (by decide)
  have same := serial server reachable 0 1 _ _ _ _ firstInside secondInside rfl
  cases same

/-- Bytes come as soon as the socket is registered, and the poller is faster
than the accept thread: a single worker runs the data task before the accept
task. -/
example :
    ((tcpServer .single).run (Server.start .single)
        ([.connect] ++ reachAccept ++ (admission 4).take 3 ++ [.segment 0 5] ++
          pollOne 0 0 ++ handleData 0 ++ (admission 4).drop 3 ++ runTask 0 ++
            runTask 0)).any
      (fun server =>
        server.tasks = [] ∧
          server.takenTasks.map (·.origin) = [.data, .accept]) = true := by
  decide

end EventPlus

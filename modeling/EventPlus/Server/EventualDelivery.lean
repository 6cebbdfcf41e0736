/-
Module: EventPlus.Server.EventualDelivery
Purpose: Edge-triggered delivery as progress: with the plain handler and a
  receiver that reads in `dataEvent`, everything that has arrived is read and
  every hang-up leads to a removal.
Trusted boundary: the kernel's answers to `FIONREAD` and `read`, as permitted
  here
Main exports:
  serving, Server.Serving, Server.threw, Server.Served, everything_served
-/
import EventPlus.Server.Delivery
import EventPlus.Server.Progress
import EventPlus.Server.TaskQueue

namespace EventPlus

open Function (update)

/-! ## The steps of server and receiver -/

/-- The steps the server takes on its own with a receiver and a kernel as in
`delivers`, and the `receiveData` that a `dataEvent` calls. -/
def serving (config : Config) (state : Server × (WorkerId → Callback)) :
    Action → Prop
  | .worker worker (.call request) =>
      request = .receiveData ∧ state.2 worker = .entered
  | action => working config state.1 action ∧ delivers state action

theorem delivers_of_serving {config : Config}
    (state : Server × (WorkerId → Callback)) (action : Action)
    (reads : serving config state action) : delivers state action := by
  unfold serving at reads
  split at reads
  · trivial
  · exact reads.2

/-! ## What is left to do -/

/-- A worker's share.  A `dataEvent` that has not called `receiveData` yet has
more to do than one that has. -/
def WorkerPoint.callbackWork : WorkerPoint → Callback → Nat
  | .idle, _ => 0
  | .taken _, _ => 8
  | .callback _ none, .entered => 7
  | .callback _ none, _ => 4
  | .callback _ (some _), .entered => 9
  | .callback _ (some _), _ => 6

namespace Server

/-- The effort of everybody but the workers. -/
def effortElsewhere (config : Config) (server : Server) : Nat :=
  server.acceptThread.work + server.listenWork + server.pollerWork config +
    3 * server.tasks.length + server.stopWork config +
    14 * server.edges config

theorem effort_eq (config : Config) (server : Server) :
    server.effort config =
      server.effortElsewhere config + server.workerWork config := by
  unfold effort effortElsewhere
  omega

/-- A worker's step leaves the others what they had to do, less the tasks it
takes. -/
theorem effortElsewhere_le {config : Config} {before after : Server}
    {taken : Nat} (pollers : after.pollerThread = before.pollerThread)
    (accept : after.acceptThread = before.acceptThread)
    (stop : after.stopThread = before.stopThread)
    (map : after.clientEventStores = before.clientEventStores)
    (idles : before.kernel.Idles after.kernel)
    (tasks : after.tasks.length + taken ≤ before.tasks.length) :
    after.effortElsewhere config + 3 * taken ≤
      before.effortElsewhere config := by
  have edges : after.edges config ≤ before.edges config := edges_le idles
  have listens := listenWork_le idles
  have stops : after.stopWork config = before.stopWork config := by
    rw [stopWork, stop, map, stopWork]
  unfold effortElsewhere
  rw [accept, pollerWork, pollers, ← pollerWork, stops]
  omega

end Server

/-- The callbacks that are still to be run through, and what leads to them. -/
def callbacksLeft (config : Config)
    (state : Server × (WorkerId → Callback)) : Nat :=
  4 * state.1.effortElsewhere config +
    workload (List.range config.numWorkers)
      (fun place : WorkerPoint × Callback => place.1.callbackWork place.2)
      fun worker => (state.1.workerThread worker, state.2 worker)

/-- The callbacks left count more than the work inside a callback. -/
def deliveryVariant (config : Config)
    (state : Server × (WorkerId → Callback)) : Nat × (Nat × Nat) :=
  (callbacksLeft config state, state.1.variant config)

def fewerLeft : Nat × (Nat × Nat) → Nat × (Nat × Nat) → Prop :=
  Prod.Lex (· < ·) smaller

theorem wellFounded_fewerLeft : WellFounded fewerLeft :=
  (Prod.lex Nat.lt_wfRel ⟨smaller, wellFounded_smaller⟩).wf

section Steps

variable {config : Config} {before after : Server}
  {callback progress : WorkerId → Callback}

/-- A worker moves and takes `taken` tasks from the queue. -/
theorem callbacksLeft_move (taken : Nat) {worker : WorkerId}
    {old point : WorkerPoint} (bound : worker < config.numWorkers)
    (at_point : before.workerThread worker = old)
    (moved : after.workerThread = update before.workerThread worker point)
    (others : ∀ other, other ≠ worker → progress other = callback other)
    (elsewhere : after.effortElsewhere config + 3 * taken ≤
      before.effortElsewhere config) {done : Nat}
    (here : point.callbackWork (progress worker) + done ≤
      old.callbackWork (callback worker) + 12 * taken) :
    callbacksLeft config (after, progress) + done ≤
      callbacksLeft config (before, callback) := by
  have workers :
      workload (List.range config.numWorkers)
          (fun place : WorkerPoint × Callback =>
            place.1.callbackWork place.2)
          (fun worker => (after.workerThread worker, progress worker)) +
          done ≤
        workload (List.range config.numWorkers)
            (fun place : WorkerPoint × Callback =>
              place.1.callbackWork place.2)
            (fun worker => (before.workerThread worker, callback worker)) +
          12 * taken := by
    apply Workload.exchange List.nodup_range (List.mem_range.mpr bound)
    · rw [moved, Function.update_self, at_point]
      exact here
    · intro other _ different
      rw [moved, Function.update_of_ne different, others other different]
  unfold callbacksLeft
  dsimp only
  omega

/-- A worker brings its callback nearer to its end. -/
theorem fewerLeft_of_worker (taken : Nat) {worker : WorkerId}
    {old point : WorkerPoint} (bound : worker < config.numWorkers)
    (at_point : before.workerThread worker = old)
    (moved : after.workerThread = update before.workerThread worker point)
    (others : ∀ other, other ≠ worker → progress other = callback other)
    (elsewhere : after.effortElsewhere config + 3 * taken ≤
      before.effortElsewhere config)
    (here : point.callbackWork (progress worker) <
      old.callbackWork (callback worker) + 12 * taken) :
    fewerLeft (deliveryVariant config (after, progress))
      (deliveryVariant config (before, callback)) := by
  have fewer : callbacksLeft config (after, progress) + 1 ≤
      callbacksLeft config (before, callback) :=
    callbacksLeft_move taken bound at_point moved others elsewhere here
  exact .left _ _ fewer

/-- A worker works inside a handler call. -/
theorem fewerLeft_inside {worker : WorkerId} {task : IOTask}
    {call next : Call} (bound : worker < config.numWorkers)
    (at_point : before.workerThread worker = .callback task (some call))
    (moved : after.workerThread =
      update before.workerThread worker (.callback task (some next)))
    (elsewhere : after.effortElsewhere config + 3 * 0 ≤
      before.effortElsewhere config)
    (inside : smaller (after.variant config) (before.variant config)) :
    fewerLeft (deliveryVariant config (after, callback))
      (deliveryVariant config (before, callback)) := by
  have left : callbacksLeft config (after, callback) + 0 ≤
      callbacksLeft config (before, callback) := by
    apply callbacksLeft_move 0 bound at_point moved (fun _ _ => rfl) elsewhere
    cases callback worker <;> exact Nat.le_refl _
  rcases Nat.lt_or_eq_of_le left with fewer | same
  · exact .left _ _ fewer
  · have equal : callbacksLeft config (after, callback) =
        callbacksLeft config (before, callback) := same
    unfold deliveryVariant
    rw [equal]
    exact .right _ inside

/-- Steps of the other threads are work by themselves. -/
theorem fewerLeft_elsewhere {action : Action} (owned : Ownership before)
    (works : working config before action)
    (elsewhere : ∀ worker choice, action ≠ .worker worker choice)
    (taken : (tcpServer config).step before action = some after) :
    fewerLeft (deliveryVariant config (after, callback))
      (deliveryVariant config (before, callback)) := by
  have less := variant_smaller owned works taken
  have workers :=
    (workers_of_step (serverStep_of_step taken) elsewhere).1
  have sizes : after.sizing config = before.sizing config := by
    rw [Server.sizing, workers, Server.sizing]
  have effort : after.effort config < before.effort config := by
    unfold Server.variant at less
    rw [sizes] at less
    rcases Prod.lex_def.mp less with impossible | ⟨-, less⟩
    · exact absurd impossible (Nat.lt_irrefl _)
    · exact less
  have work : after.workerWork config = before.workerWork config := by
    rw [Server.workerWork, workers, Server.workerWork]
  rw [Server.effort_eq, Server.effort_eq, work] at effort
  have fewer : callbacksLeft config (after, callback) <
      callbacksLeft config (before, callback) := by
    unfold callbacksLeft
    dsimp only
    rw [workers]
    omega
  exact .left _ _ fewer

theorem fewerLeft_of_workerLine {worker : WorkerId} {choice : WorkerChoice}
    (bound : worker < config.numWorkers)
    (reads : serving config (before, callback) (.worker worker choice))
    (taken : WorkerLine config before worker choice after) :
    fewerLeft
      (deliveryVariant config
        (after, receiveProgress before (.worker worker choice) callback))
      (deliveryVariant config (before, callback)) := by
  have others : ∀ other, other ≠ worker →
      receiveProgress before (.worker worker choice) callback other =
        callback other :=
    fun other different =>
      receiveProgress_of_ne before choice callback different
  have same := Kernel.Idles.refl before.kernel
  have line := taken
  cases taken with
  | take task rest at_point queue =>
      refine fewerLeft_of_worker 1 bound at_point rfl others
        (Server.effortElsewhere_le rfl rfl rfl rfl same ?_) ?_
      · rw [queue]
        exact Nat.le_refl _
      · simp [WorkerPoint.callbackWork]
  | dispatch task at_point =>
      refine fewerLeft_of_worker 0 bound at_point rfl others
        (Server.effortElsewhere_le rfl rfl rfl rfl same (Nat.le_refl _)) ?_
      simp only [receiveProgress, at_point]
      split <;> simp [WorkerPoint.callbackWork]
  | call task request call at_point started free =>
      obtain ⟨rfl, entered⟩ := reads
      refine fewerLeft_of_worker 0 bound at_point rfl others
        (Server.effortElsewhere_le rfl rfl rfl rfl same (Nat.le_refl _)) ?_
      dsimp only at entered
      simp [receiveProgress, entered, WorkerPoint.callbackWork]
  | syscall task call syscall result kernel at_point next transferred =>
      apply fewerLeft_inside bound at_point rfl
      · exact Server.effortElsewhere_le rfl rfl rfl rfl
          (Kernel.idles_transfer transferred) (Nat.le_refl _)
      · exact workerLine_smaller bound reads.1 line
  | sslSyscall task syscall result kernel at_point transferred =>
      exact reads.1.elim
  | returnCall task call at_point ended =>
      refine fewerLeft_of_worker 0 bound at_point rfl others
        (Server.effortElsewhere_le rfl rfl rfl rfl same (Nat.le_refl _)) ?_
      cases here : callback worker <;>
        simp [receiveProgress, here, WorkerPoint.callbackWork]
  | close task at_point may_close free => exact reads.1.elim
  | finish task at_point =>
      refine fewerLeft_of_worker 0 bound at_point rfl others
        (Server.effortElsewhere_le rfl rfl rfl rfl same (Nat.le_refl _)) ?_
      cases callback worker <;> simp [WorkerPoint.callbackWork]

theorem fewerLeft_of_reading {config : Config}
    {before after : Server × (WorkerId → Callback)} {action : Action}
    (owned : Ownership before.1) (reads : serving config before action)
    (taken : (deliveringServer config).step before action = some after) :
    fewerLeft (deliveryVariant config after)
      (deliveryVariant config before) := by
  obtain ⟨server, callback⟩ := before
  obtain ⟨next, progress⟩ := after
  obtain ⟨moved, rfl⟩ := TransitionSystem.step_of_observed taken
  cases action with
  | worker worker choice =>
      obtain ⟨bound, line⟩ := workerLine_of_step moved
      exact fewerLeft_of_workerLine bound reads line
  | _ => exact fewerLeft_elsewhere owned reads.1 (by simp) moved

end Steps

/-! ## Reads have room -/

/-- A `read` of the plain handler asks for at least one byte. -/
def Call.Unfilled : Call → Prop
  | .reading dataSize buffer => buffer.length < dataSize
  | _ => True

namespace Call

theorem unfilled_readLoop (dataSize : Nat) (buffer : List UInt8) :
    (TCPServerSocketHandler.readLoop dataSize buffer).Unfilled := by
  unfold TCPServerSocketHandler.readLoop
  split
  · assumption
  · trivial

theorem unfilled_sendLoop (data : List UInt8) (totalSent : Nat) :
    (TCPServerSocketHandler.sendLoop data totalSent).Unfilled := by
  unfold TCPServerSocketHandler.sendLoop
  split <;> trivial

theorem unfilled_receivePartialData (dataSize : Int) :
    (TCPServerSocketHandler.receivePartialData dataSize).Unfilled := by
  unfold TCPServerSocketHandler.receivePartialData
  split
  · trivial
  · exact unfilled_readLoop _ _

theorem unfilled_start (handler : Handler) (ssl : SSLPointer)
    (request : Request) : (handler.start ssl request).Unfilled := by
  cases handler with
  | tcp =>
      cases request with
      | sendData data => exact unfilled_sendLoop data 0
      | receivePartialData dataSize =>
          exact unfilled_receivePartialData dataSize
      | _ => trivial
  | tls =>
      rcases Handler.start_tls ssl request with ended | inside
      · cases started : Handler.tls.start ssl request with
        | reading dataSize buffer =>
            rw [started] at ended
            cases ended
        | _ => trivial
      · rw [inside]
        trivial

theorem unfilled_resume {call : Call} (unfilled : call.Unfilled)
    (result : SysResult) : (call.resume result).Unfilled := by
  unfold resume
  split
  · split
    · trivial
    · exact unfilled_sendLoop _ _
  · trivial
  · trivial
  · exact unfilled_receivePartialData _
  · exact unfilled_receivePartialData _
  · trivial
  · exact unfilled_readLoop _ _
  · exact unfilled
  · trivial
  · trivial
  · trivial
  · trivial
  · exact unfilled

end Call

theorem unfilled_of_reachable {config : Config} {server : Server}
    (reachable : (tcpServer config).Reachable server) :
    ∀ worker task call,
      server.workerThread worker = .callback task (some call) →
        call.Unfilled := by
  refine TransitionSystem.Reachable.invariant ?_ ?_ reachable
  · rintro state rfl worker task call at_point
    cases at_point
  · intro before action after _ taken unfilled
    by_cases mine : ∃ worker choice, action = .worker worker choice
    · obtain ⟨worker, choice, rfl⟩ := mine
      obtain ⟨-, line⟩ := workerLine_of_step taken
      have moves : ∀ {server : Server} {point : WorkerPoint},
          (∀ task call, point = .callback task (some call) →
            call.Unfilled) →
          server.workerThread = update before.workerThread worker point →
            ∀ other task call,
              server.workerThread other = .callback task (some call) →
                call.Unfilled := by
        intro server point allowed moved other task call at_point
        rw [moved] at at_point
        by_cases same : other = worker
        · rw [same, Function.update_self] at at_point
          exact allowed task call at_point
        · rw [Function.update_of_ne same] at at_point
          exact unfilled other task call at_point
      cases line with
      | call task request call at_point started free =>
          refine moves ?_ rfl
          rintro _ _ ⟨⟩
          rw [started]
          exact Call.unfilled_start _ _ _
      | syscall task call syscall result kernel at_point next transferred =>
          refine moves ?_ rfl
          rintro _ _ ⟨⟩
          exact Call.unfilled_resume (unfilled worker task call at_point) _
      | sslSyscall task syscall result kernel at_point transferred =>
          exact unfilled
      | close task at_point may_close free =>
          obtain ⟨_, _, _, result⟩ :=
            before.closeConnection_frame config task.eventStorePointer
          rw [result]
          exact unfilled
      | _ =>
          refine moves ?_ rfl
          rintro _ _ ⟨⟩
    · obtain ⟨threads, -⟩ := workers_of_step (serverStep_of_step taken)
        fun worker choice same => mine ⟨worker, choice, same⟩
      rw [threads]
      exact unfilled

/-- Before shutdown all loops run. -/
structure Server.Serving (server : Server) : Prop where
  stop : server.stopThread = .idle
  accepting : server.continueAccepting = true
  accept : server.acceptThread ≠ .exited
  polling : ∀ poller, server.continuePolling poller = true
  pollers : ∀ poller, server.pollerThread poller ≠ .exited

theorem serving_of_reached {config : Config} {server : Server}
    (reached : (tcpServer config).Reached beforeShutdown server) :
    server.Serving := by
  refine TransitionSystem.Reached.invariant ?_ ?_ reached
  · rintro state rfl
    exact ⟨rfl, rfl, by simp [Server.start], fun _ => rfl,
      by simp [Server.start]⟩
  · intro before action after _ allowed taken serving
    have moved := serverStep_of_step taken
    have flags := StopFlags.serverStep moved allowed
    refine ⟨?_, ?_, ?_, ?_, ?_⟩
    · rw [flags.stopThread]
      exact serving.stop
    · rw [flags.continueAccepting]
      exact serving.accepting
    · by_cases mine : ∃ choice, action = .accept choice
      · obtain ⟨choice, rfl⟩ := mine
        cases moved with
        | network impossible => cases impossible
        | accept choice moved =>
            cases moved <;> simp [serving.accepting]
      · rw [acceptThread_of_step moved fun choice same =>
          mine ⟨choice, same⟩]
        exact serving.accept
    · rw [flags.continuePolling]
      exact serving.polling
    · intro poller
      by_cases mine : ∃ choice, action = .poller poller choice
      · obtain ⟨choice, rfl⟩ := mine
        cases moved with
        | network impossible => cases impossible
        | poller _ _ bound moved =>
            cases moved <;> simp [serving.polling]
      · rw [pollerThread_elsewhere moved fun choice same =>
          mine ⟨choice, same⟩]
        exact serving.pollers poller

theorem serving_of_delivers {config : Config}
    {state : Server × (WorkerId → Callback)}
    (reached : (deliveringServer config).Reached delivers state) :
    state.1.Serving := by
  have before_shutdown : (tcpServer config).Reached beforeShutdown state.1 := by
    refine TransitionSystem.Reached.of_observed ?_ reached
    intro before action allowed
    apply beforeShutdown_of_ne
    rintro rfl
    exact allowed
  exact serving_of_reached before_shutdown

/-! ## Nobody is stuck -/

/-- A step that server and receiver can take on their own. -/
def canRead (config : Config) (state : Server × (WorkerId → Callback)) :
    Prop :=
  ∃ action after, serving config state action ∧
    (deliveringServer config).step state action = some after

/-- A handler call of some worker threw.  Nothing catches the exception, so the
process is about to end. -/
def Server.threw (config : Config) (server : Server) : Prop :=
  ∃ worker < config.numWorkers, ∃ task,
    server.workerThread worker = .callback task (some .threw)

theorem canRead_of_step {config : Config}
    {state : Server × (WorkerId → Callback)} {action : Action}
    {after : Server} (reads : serving config state action)
    (taken : (tcpServer config).step state.1 action = some after) :
    canRead config state :=
  ⟨action, (after, receiveProgress state.1 action state.2), reads,
    congrArg (Option.map _) taken⟩

/-- The kernel has an answer other than an interruption. -/
theorem Kernel.exists_answer (kernel : Kernel) (fd : Fd) {call : Call}
    {syscall : Syscall} (next : call.syscall = some syscall)
    (unfilled : call.Unfilled) :
    ∃ result, result ≠ .error .EINTR ∧ kernel.answers fd syscall result ∧
      (kernel.transfer fd syscall result).isSome = true := by
  cases denotes : kernel.file fd with
  | none =>
      refine ⟨.error .EBADF, by simp, ?_, by simp [transfer, denotes]⟩
      intro connection client
      cases denotes.symm.trans client
  | some file =>
      cases file with
      | client connection =>
          cases syscall with
          | send bytes =>
              refine ⟨.error .EAGAIN, by simp, fun _ _ => trivial, ?_⟩
              simp [transfer, denotes, Syscall.admits]
          | ioctlFIONREAD =>
              refine ⟨.available (kernel.socket connection).unread, by simp,
                ?_, ?_⟩
              · intro other client
                cases denotes.symm.trans client
                rfl
              · simp [transfer, denotes, Syscall.admits]
          | read count =>
              by_cases unread : 0 < (kernel.socket connection).unread
              · have room : 1 ≤ count := by
                  cases call with
                  | reading dataSize buffer =>
                      cases next
                      exact Nat.sub_pos_of_lt unfilled
                  | _ => cases next
                refine ⟨.bytes [0], by simp, ?_, ?_⟩
                · intro other client _
                  exact .inr ⟨[0], by simp, rfl⟩
                · have filled : 1 ≤ (kernel.socket connection).unread := unread
                  simp [transfer, denotes, Syscall.admits, room, filled]
              · refine ⟨.error .EAGAIN, by simp, ?_, ?_⟩
                · intro other client pending
                  cases denotes.symm.trans client
                  exact absurd pending unread
                · simp [transfer, denotes, Syscall.admits]
      | _ =>
          refine ⟨.error .EAGAIN, by simp, ?_, ?_⟩
          · intro connection client
            cases denotes.symm.trans client
          · simp [transfer, denotes, Syscall.admits]

section Workers

variable {config : Config} {server : Server}
  {callback : WorkerId → Callback}

theorem canRead_of_worker {worker : WorkerId} (choice : WorkerChoice)
    (bound : worker < config.numWorkers)
    (reads : serving config (server, callback) (.worker worker choice))
    (enabled : (workerStep config server worker choice).isSome = true) :
    canRead config (server, callback) := by
  obtain ⟨after, taken⟩ := Option.isSome_iff_exists.mp enabled
  exact canRead_of_step reads ((if_pos bound).trans taken)

/-- A worker inside a handler call goes on, unless the call threw. -/
theorem inside_canRead {worker : WorkerId} {task : IOTask} {call : Call}
    (bound : worker < config.numWorkers)
    (at_point : server.workerThread worker = .callback task (some call))
    (unfilled : call.Unfilled) :
    server.threw config ∨ canRead config (server, callback) := by
  cases next : call.syscall with
  | some syscall =>
      right
      obtain ⟨result, finishes, answers, answered⟩ :=
        server.kernel.exists_answer (server.fd task.eventStorePointer) next
          unfilled
      apply canRead_of_worker (.syscall result) bound
      · refine ⟨finishes, ?_⟩
        intro other called syscall' there next'
        cases at_point.symm.trans there
        cases next.symm.trans next'
        exact answers
      · obtain ⟨kernel, transferred⟩ :=
          Option.isSome_iff_exists.mp answered
        simp [workerStep, at_point, next, Server.transfer, transferred]
  | none =>
      cases call with
      | threw => exact .inl ⟨worker, bound, task, at_point⟩
      | returned value appended =>
          right
          apply canRead_of_worker .returnCall bound ⟨trivial, trivial⟩
          simp [workerStep, at_point, Call.finished]
      | ssl =>
          right
          apply canRead_of_worker .returnCall bound ⟨trivial, trivial⟩
          simp [workerStep, at_point]
      | _ => cases next

/-- A worker that is not idle goes on, or the holder of the `m_socketMutex` it
waits for does, unless a call threw. -/
theorem worker_canRead {worker : WorkerId}
    (held : SocketHeld config server)
    (unfilled : ∀ worker task call,
      server.workerThread worker = .callback task (some call) →
        call.Unfilled)
    (bound : worker < config.numWorkers)
    (busy : server.workerThread worker ≠ .idle) :
    server.threw config ∨ canRead config (server, callback) := by
  cases at_point : server.workerThread worker with
  | idle => exact absurd at_point busy
  | taken task =>
      right
      apply canRead_of_worker .dispatch bound ⟨trivial, trivial⟩
      simp [workerStep, at_point]
  | callback task call =>
      cases call with
      | some call =>
          exact inside_canRead bound at_point
            (unfilled worker task call at_point)
      | none =>
          by_cases entered : callback worker = .entered
          · cases holder : server.socketMutex task.eventStorePointer with
            | some other =>
                obtain ⟨below, given, call, there, -⟩ :=
                  held.holder _ other holder
                exact inside_canRead below there
                  (unfilled other given call there)
            | none =>
                right
                apply canRead_of_worker (.call .receiveData) bound
                  ⟨rfl, entered⟩
                simp [workerStep, at_point, Server.callBlocked, holder]
          · right
            apply canRead_of_worker .finish bound ⟨trivial, entered⟩
            simp [workerStep, at_point]

end Workers

/-! ## Rest -/

/-- Everything that has arrived has been served: no connection request is
announced, every registered connection has been read to its end and none of
them has hung up, and the receiver has been told about every event. -/
structure Server.Served (config : Config) (server : Server) : Prop where
  accept : server.acceptThread = .epollWait ∧
    ¬(server.kernel.listenRegistered = true ∧
      server.kernel.listenEdge = true)
  pollers : ∀ poller < config.numPollers,
    server.pollerThread poller = .epollWait ∧
      ∀ connection ∈ server.kernel.registered poller,
        (server.kernel.socket connection).unread = 0 ∧
          (server.kernel.socket connection).hungUp = false
  workers : ∀ worker, server.workerThread worker = .idle
  dispatched : server.enqueued.Perm server.dispatchedTasks
  mutex : server.clientEventStoresMutex = none

/-- At rest nothing is unread. -/
theorem served_of_atRest {config : Config}
    {state : Server × (WorkerId → Callback)} (plain : config.handler = .tcp)
    (positive : 0 < config.numWorkers)
    (reached : (deliveringServer config).Reached delivers state)
    (rest : state.1.AtRest config) :
    state.1.threw config ∨ state.1.Served config := by
  have serving := serving_of_delivers reached
  have reachable : (tcpServer config).Reachable state.1 :=
    TransitionSystem.Reached.of_observed (fun _ _ _ => trivial) reached
  have queue := taskQueue_of_reachable reachable
  have exclusive := mutualExclusion_of_reachable reachable
  by_cases failed : state.1.threw config
  · exact .inl failed
  right
  have idle : ∀ worker, state.1.workerThread worker = .idle := by
    intro worker
    by_cases bound : worker < config.numWorkers
    · have resting := rest.workers worker bound
      cases at_point : state.1.workerThread worker with
      | idle => rfl
      | taken task =>
          rw [at_point] at resting
          cases resting
      | callback task call =>
          exfalso
          rw [at_point] at resting
          unfold WorkerPoint.resting at resting
          split at resting
          · rename_i impossible
            cases impossible
          · rename_i same
            cases same
            exact failed ⟨worker, bound, _, at_point⟩
          · cases resting
    · exact queue.idle_beyond worker (Nat.le_of_not_lt bound)
  have tasks : state.1.tasks = [] := rest.tasks 0 positive (idle 0)
  have undispatched : state.1.undispatched config = [] := by
    rw [Server.undispatched, tasks, List.append_nil]
    apply List.filterMap_eq_nil_iff.mpr
    intro worker _
    simp [idle worker, WorkerPoint.waiting]
  constructor
  · exact rest.accept.resolve_left serving.accept
  · intro poller bound
    obtain ⟨waits, quiet⟩ :=
      (rest.pollers poller bound).resolve_left (serving.pollers poller)
    refine ⟨waits, ?_⟩
    intro connection registered
    obtain ⟨edge, open_⟩ :=
      quiet connection (Kernel.mem_watched.mpr (.inl registered))
    refine ⟨?_, open_⟩
    by_contra unread
    have positive : 0 < (state.1.kernel.socket connection).unread :=
      Nat.pos_of_ne_zero unread
    cases (delivered_of_reached plain reached).token poller connection
      registered (exclusive.not_removing rest.mutex connection) positive with
    | edge pending => cases edge.symm.trans pending
    | batch member =>
        rw [waits] at member
        cases member
    | task queued =>
        obtain ⟨task, -, -, member | ⟨worker, holds⟩⟩ := queued
        · rw [tasks] at member
          cases member
        · cases (idle worker).symm.trans holds
    | entered worker task call at_point same progress =>
        cases (idle worker).symm.trans at_point
    | sizing worker task at_point same progress =>
        cases (idle worker).symm.trans at_point
    | reading worker task dataSize buffer at_point same progress covers =>
        cases (idle worker).symm.trans at_point
  · exact idle
  · have all := queue.enqueued_perm
    rw [undispatched, List.append_nil] at all
    exact all
  · exact rest.mutex

/-- A reached state is at rest, or a step can be taken. -/
theorem served_or_canRead {config : Config}
    {state : Server × (WorkerId → Callback)} (plain : config.handler = .tcp)
    (positive : 0 < config.numWorkers)
    (reached : (deliveringServer config).Reached delivers state) :
    (state.1.threw config ∨ state.1.Served config) ∨
      canRead config state := by
  have reachable : (tcpServer config).Reachable state.1 :=
    TransitionSystem.Reached.of_observed (fun _ _ _ => trivial) reached
  have held := socketHeld_of_reachable reachable
  have unfilled := unfilled_of_reachable reachable
  rcases outcome_or_canWork reachable with
    outcome | ⟨action, after, works, taken⟩
  · exact .inl
      (served_of_atRest plain positive reached (outcome.plain plain))
  · cases action with
    | connect => exact works.elim
    | segment connection count => exact works.elim
    | hangUp connection cause => exact works.elim
    | accept choice =>
        have reads : serving config state (.accept choice) := ⟨works, trivial⟩
        exact .inr (canRead_of_step reads taken)
    | poller poller choice =>
        have reads : serving config state (.poller poller choice) :=
          ⟨works, trivial⟩
        exact .inr (canRead_of_step reads taken)
    | worker worker choice =>
        obtain ⟨bound, line⟩ := workerLine_of_step taken
        by_cases busy : state.1.workerThread worker = .idle
        · cases line with
          | take task rest at_point queue =>
              have reads : serving config state (.worker worker .take) :=
                ⟨trivial, trivial⟩
              exact .inr (canRead_of_step reads taken)
          | _ =>
              rename_i at_point
              cases busy.symm.trans ‹state.1.workerThread worker = _›
        · rcases worker_canRead held unfilled bound busy with failed | can
          · exact .inl (.inl failed)
          · exact .inr can
    | stop => exact absurd (serving_of_delivers reached).stop works.1

/-- Nothing that has arrived is left behind.  With the plain handler, a receiver
whose `dataEvent` calls `receiveData` and at least one worker, from every state
before shutdown any steps of the server and its receiver lead to a state in
which every registered connection has been read to its end, none of them has
hung up, every event has been dispatched, and all threads wait.  Or else a
`receiveData` has thrown, which ends the process. -/
theorem everything_served {config : Config} (plain : config.handler = .tcp)
    (positive : 0 < config.numWorkers)
    {state : Server × (WorkerId → Callback)}
    (reached : (deliveringServer config).Reached delivers state) :
    (deliveringServer config).Inevitable (serving config)
      (fun state => state.1.threw config ∨ state.1.Served config) state := by
  refine TransitionSystem.Inevitable.of_variant wellFounded_fewerLeft
    (deliveryVariant config) delivers_of_serving ?_ ?_ reached
  · intro before action after earlier reads taken
    have reachable : (tcpServer config).Reachable before.1 :=
      TransitionSystem.Reached.of_observed (fun _ _ _ => trivial) earlier
    exact fewerLeft_of_reading (ownership_of_reachable reachable) reads taken
  · intro state here
    exact served_or_canRead plain positive here

/-- Three bytes have arrived and then the half-close, while the worker is in
`receiveData`. -/
theorem everything_served_halfClosed :
    ∃ state : Server × (WorkerId → Callback),
      (deliveringServer .single).Reached delivers state ∧
        (state.1.kernel.socket 0).unread = 3 ∧
        (state.1.kernel.socket 0).hungUp = true ∧
        (deliveringServer .single).Inevitable (serving .single)
          (fun state =>
            state.1.threw .single ∨ state.1.Served .single) state := by
  have start : (deliveringServer .single).initial
      (Server.start .single, fun _ => .outside) := ⟨rfl, rfl⟩
  have found : ∃ state : Server × (WorkerId → Callback),
      (deliveringServer .single).Reached
          (fun state action => deliversUnasked state action = true) state ∧
        ((state.1.kernel.socket 0).unread = 3 ∧
          (state.1.kernel.socket 0).hungUp = true) :=
    TransitionSystem.exists_reached_of_replay
      (connectAndAdmit 4 ++ [.segment 0 3] ++ pollOne 0 0 ++ handleData 0 ++
        [.worker 0 .take, .worker 0 .dispatch, .worker 0 (.call .receiveData),
          .hangUp 0 .halfClose])
      start (by decide)
  obtain ⟨state, reached, unread, hung_up⟩ := found
  have delivering := reached.mono fun state _ =>
    delivers_of_unasked state
  exact ⟨state, delivering, unread, hung_up,
    everything_served rfl (by decide) delivering⟩

end EventPlus

/-
Module: EventPlus.Server.WorkerCalls
Purpose: The lines of a pool worker, each with what it needs to be taken, and
  the worker that holds a store's `m_socketMutex`.
Trusted boundary: none
Main exports:
  WorkerLine, workerLine_of_some, SocketHeld, socketHeld_of_reachable,
  unblocks
-/
import EventPlus.Server.Transitions

namespace EventPlus

open Function (update)

/-- The lines of `workerThread`, `handleCallBackEvent` and the handler calls a
callback makes. -/
inductive WorkerLine (config : Config) (server : Server) (worker : WorkerId) :
    WorkerChoice → Server → Prop where
  | take (task : IOTask) (rest : List IOTask)
      (at_point : server.workerThread worker = .idle)
      (queue : server.tasks = task :: rest) :
      WorkerLine config server worker .take
        ({ server.recordWorker (.take worker task) with
            tasks := rest }.setWorker worker (.taken task))
  | dispatch (task : IOTask)
      (at_point : server.workerThread worker = .taken task) :
      WorkerLine config server worker .dispatch
        ((server.recordWorker
            (.callback worker task
              (server.store task.eventStorePointer).eventType)).setWorker
          worker (.callback task none))
  | call (task : IOTask) (request : Request) (call : Call)
      (at_point : server.workerThread worker = .callback task none)
      (started : call =
        config.handler.start (server.store task.eventStorePointer).ssl request)
      (free : server.callBlocked task.eventStorePointer call = false) :
      WorkerLine config server worker (.call request)
        ((server.lockSocket worker task.eventStorePointer call).setWorker
          worker (.callback task (some call)))
  | syscall (task : IOTask) (call : Call) (syscall : Syscall)
      (result : SysResult) (kernel : Kernel)
      (at_point : server.workerThread worker = .callback task (some call))
      (next : call.syscall = some syscall)
      (transferred :
        server.kernel.transfer (server.fd task.eventStorePointer) syscall
          result = some kernel) :
      WorkerLine config server worker (.syscall result)
        ({ server.record
            (.transfer task.eventStorePointer syscall
              (server.kernel.file (server.fd task.eventStorePointer))) with
            kernel := kernel }.setWorker
          worker (.callback task (some (call.resume result))))
  | sslSyscall (task : IOTask) (syscall : Syscall) (result : SysResult)
      (kernel : Kernel)
      (at_point : server.workerThread worker = .callback task (some .ssl))
      (transferred :
        server.kernel.transfer (server.fd task.eventStorePointer) syscall
          result = some kernel) :
      WorkerLine config server worker (.sslSyscall syscall result)
        { server.record
            (.transfer task.eventStorePointer syscall
              (server.kernel.file (server.fd task.eventStorePointer))) with
            kernel := kernel }
  | returnCall (task : IOTask) (call : Call)
      (at_point : server.workerThread worker = .callback task (some call))
      (ended : call.finished = true ∨ call = .ssl) :
      WorkerLine config server worker .returnCall
        ((server.unlockSocket worker task.eventStorePointer).setWorker
          worker (.callback task none))
  | close (task : IOTask)
      (at_point : server.workerThread worker = .callback task none)
      (may_close : config.callbacksClose = true)
      (free : server.closeBlocked config task.eventStorePointer = false) :
      WorkerLine config server worker .close
        (server.closeConnection config task.eventStorePointer)
  | finish (task : IOTask)
      (at_point : server.workerThread worker = .callback task none) :
      WorkerLine config server worker .finish
        ((server.recordWorker (.finish worker task)).setWorker worker .idle)

theorem workerLine_of_some {config : Config} {before after : Server}
    {worker : WorkerId} {choice : WorkerChoice}
    (taken : workerStep config before worker choice = some after) :
    WorkerLine config before worker choice after := by
  unfold workerStep at taken
  split at taken
  · split at taken
    · cases taken
    · cases taken
      exact .take _ _ ‹_› ‹_›
  · cases taken
    exact .dispatch _ ‹_›
  · dsimp only at taken
    split at taken
    · cases taken
    · rename_i unblocked
      cases taken
      exact .call _ _ _ ‹_› rfl (Bool.not_eq_true _ ▸ unblocked)
  · split at taken
    · cases taken
    · split at taken
      · cases taken
      · rename_i moved
        obtain ⟨kernel, transferred, rfl⟩ := Server.transfer_spec moved
        cases taken
        exact .syscall _ _ _ _ _ ‹_› ‹_› transferred
  · obtain ⟨kernel, transferred, rfl⟩ := Server.transfer_spec taken
    exact .sslSyscall _ _ _ _ ‹_› transferred
  · split at taken
    · cases taken
      exact .returnCall _ _ ‹_› ‹_›
    · cases taken
  · split at taken
    · rename_i guard
      cases taken
      exact .close _ ‹_› guard.1 (Bool.not_eq_true _ ▸ guard.2)
    · cases taken
  · cases taken
    exact .finish _ ‹_›
  · cases taken

/-! ## The holder of `m_socketMutex` -/

/-- Whoever holds a store's `m_socketMutex` is inside a handler call for the
store, and a call of the TLS handler can always return. -/
structure SocketHeld (config : Config) (server : Server) : Prop where
  holder : ∀ store worker, server.socketMutex store = some worker →
    worker < config.numWorkers ∧
      ∃ task call, server.workerThread worker = .callback task (some call) ∧
        task.eventStorePointer = store
  returns : config.handler = .tls → ∀ worker task call,
    server.workerThread worker = .callback task (some call) →
      call.finished = true ∨ call = .ssl

theorem Handler.start_tls (ssl : SSLPointer) (request : Request) :
    (Handler.tls.start ssl request).finished = true ∨
      Handler.tls.start ssl request = .ssl := by
  unfold Handler.start
  cases request with
  | getAvailableDataInSocket => exact .inl rfl
  | _ =>
      dsimp only
      split
      · exact .inl rfl
      · exact .inr rfl

theorem Server.holder_of_lockSocket {server : Server} {worker : WorkerId}
    {store : ConnectionId} {call : Call} {other : ConnectionId}
    {holder : WorkerId}
    (holds :
      (server.lockSocket worker store call).socketMutex other = some holder) :
    server.socketMutex other = some holder ∨
      (other = store ∧ holder = worker) := by
  unfold Server.lockSocket at holds
  dsimp only at holds
  split at holds
  · by_cases same : other = store
    · rw [same, Function.update_self] at holds
      exact .inr ⟨same, (Option.some.inj holds).symm⟩
    · rw [Function.update_of_ne same] at holds
      exact .inl holds
  · exact .inl holds

theorem Server.holder_of_unlockSocket {server : Server} {worker : WorkerId}
    {store other : ConnectionId} {holder : WorkerId}
    (holds :
      (server.unlockSocket worker store).socketMutex other = some holder) :
    server.socketMutex other = some holder ∧
      ¬(other = store ∧ holder = worker) := by
  unfold Server.unlockSocket at holds
  dsimp only at holds
  split at holds
  · by_cases same : other = store
    · rw [same, Function.update_self] at holds
      cases holds
    · rw [Function.update_of_ne same] at holds
      exact ⟨holds, fun both => same both.1⟩
  · rename_i elsewhere
    refine ⟨holds, ?_⟩
    rintro ⟨rfl, rfl⟩
    exact elsewhere holds

namespace SocketHeld

/-- A worker outside the handler calls holds no mutex. -/
theorem free_of_outside {config : Config} {server : Server}
    (held : SocketHeld config server) {worker : WorkerId}
    (outside : ∀ task call,
      server.workerThread worker ≠ .callback task (some call))
    (store : ConnectionId) : server.socketMutex store ≠ some worker := by
  intro holds
  obtain ⟨-, task, call, at_point, -⟩ := held.holder store worker holds
  exact outside task call at_point

/-- A worker moves to a point outside the handler calls, with no mutex. -/
theorem moveOutside {config : Config} {server : Server}
    (held : SocketHeld config server) {worker : WorkerId}
    (unheld : ∀ store, server.socketMutex store ≠ some worker)
    {point : WorkerPoint}
    (outside : ∀ task call, point ≠ .callback task (some call)) :
    SocketHeld config (server.setWorker worker point) where
  holder := by
    intro store other holds
    have different : other ≠ worker := by
      rintro rfl
      exact unheld store holds
    obtain ⟨bound, task, call, at_point, same⟩ :=
      held.holder store other holds
    refine ⟨bound, task, call, ?_, same⟩
    rw [← at_point]
    exact Server.setWorker_of_ne different _ _
  returns := by
    intro tls other task call at_point
    by_cases same : other = worker
    · rw [same] at at_point
      exact absurd ((Server.setWorker_self _ _ _).symm.trans at_point)
        (outside task call)
    · apply held.returns tls other task call
      rw [← at_point]
      exact (Server.setWorker_of_ne same _ _).symm

/-- A handler call goes on. -/
theorem continueCall {config : Config} {server : Server}
    (held : SocketHeld config server) {worker : WorkerId} {task : IOTask}
    {call next : Call}
    (at_point : server.workerThread worker = .callback task (some call))
    (may_return : config.handler = .tls →
      next.finished = true ∨ next = .ssl) :
    SocketHeld config
      (server.setWorker worker (.callback task (some next))) where
  holder := by
    intro store other holds
    obtain ⟨bound, given, earlier, there, same⟩ :=
      held.holder store other holds
    by_cases here : other = worker
    · subst here
      cases at_point.symm.trans there
      exact ⟨bound, task, next, Server.setWorker_self _ _ _, same⟩
    · refine ⟨bound, given, earlier, ?_, same⟩
      rw [← there]
      exact Server.setWorker_of_ne here _ _
  returns := by
    intro tls other given later there
    by_cases here : other = worker
    · rw [here] at there
      cases (Server.setWorker_self _ _ _).symm.trans there
      exact may_return tls
    · apply held.returns tls other given later
      rw [← there]
      exact (Server.setWorker_of_ne here _ _).symm

/-- A call starts, with the mutex if it takes it. -/
theorem startCall {config : Config} {server : Server}
    (held : SocketHeld config server) {worker : WorkerId}
    (bound : worker < config.numWorkers) {task : IOTask} {call : Call}
    (at_point : server.workerThread worker = .callback task none)
    (may_return : config.handler = .tls →
      call.finished = true ∨ call = .ssl) :
    SocketHeld config
      ((server.lockSocket worker task.eventStorePointer call).setWorker
        worker (.callback task (some call))) where
  holder := by
    intro store other holds
    by_cases here : other = worker
    · subst here
      refine ⟨bound, task, call, Server.setWorker_self _ _ _, ?_⟩
      rcases Server.holder_of_lockSocket holds with earlier | ⟨same, -⟩
      · exact absurd earlier (held.free_of_outside (by simp [at_point]) store)
      · exact same.symm
    · rcases Server.holder_of_lockSocket holds with earlier | ⟨-, now⟩
      · obtain ⟨below, given, later, there, same⟩ :=
          held.holder store other earlier
        refine ⟨below, given, later, ?_, same⟩
        rw [← there]
        exact Server.setWorker_of_ne here _ _
      · exact absurd now here
  returns := by
    intro tls other given later there
    by_cases here : other = worker
    · rw [here] at there
      cases (Server.setWorker_self _ _ _).symm.trans there
      exact may_return tls
    · apply held.returns tls other given later
      rw [← there]
      exact (Server.setWorker_of_ne here _ _).symm

/-- A call returns, and its mutex is released. -/
theorem returnCall {config : Config} {server : Server}
    (held : SocketHeld config server) {worker : WorkerId} {task : IOTask}
    {call : Call}
    (at_point : server.workerThread worker = .callback task (some call)) :
    SocketHeld config
      ((server.unlockSocket worker task.eventStorePointer).setWorker worker
        (.callback task none)) := by
  have unlocked : SocketHeld config
      (server.unlockSocket worker task.eventStorePointer) :=
    { holder := fun store other holds =>
        held.holder store other (Server.holder_of_unlockSocket holds).1
      returns := held.returns }
  apply unlocked.moveOutside
  · intro store holds
    obtain ⟨earlier, elsewhere⟩ := Server.holder_of_unlockSocket holds
    obtain ⟨-, given, later, there, same⟩ := held.holder store worker earlier
    cases at_point.symm.trans there
    exact elsewhere ⟨same.symm, rfl⟩
  · simp

theorem workerLine {config : Config} {before after : Server}
    {worker : WorkerId} {choice : WorkerChoice}
    (held : SocketHeld config before) (bound : worker < config.numWorkers)
    (taken : WorkerLine config before worker choice after) :
    SocketHeld config after := by
  cases taken with
  | take task rest at_point queue =>
      have recorded : SocketHeld config
          { before.recordWorker (.take worker task) with tasks := rest } :=
        { held with }
      apply recorded.moveOutside
      · exact held.free_of_outside (by simp [at_point])
      · simp
  | dispatch task at_point =>
      have recorded : SocketHeld config
          (before.recordWorker
            (.callback worker task
              (before.store task.eventStorePointer).eventType)) :=
        { held with }
      apply recorded.moveOutside
      · exact held.free_of_outside (by simp [at_point])
      · simp
  | call task request call at_point started free =>
      apply held.startCall bound at_point
      intro tls
      rw [started, tls]
      exact Handler.start_tls _ request
  | syscall task call syscall result kernel at_point next transferred =>
      have moved : SocketHeld config
          { before.record
              (.transfer task.eventStorePointer syscall
                (before.kernel.file (before.fd task.eventStorePointer))) with
              kernel := kernel } :=
        { held with }
      apply moved.continueCall at_point
      intro tls
      rcases held.returns tls worker task call at_point with ended | rfl
      · cases call with
        | returned value appended => cases next
        | _ => cases ended
      · cases next
  | sslSyscall task syscall result kernel at_point transferred =>
      exact { held with }
  | returnCall task call at_point ended => exact held.returnCall at_point
  | close task at_point may_close free =>
      obtain ⟨_, _, _, result⟩ :=
        before.closeConnection_frame config task.eventStorePointer
      rw [result]
      exact { held with }
  | finish task at_point =>
      have recorded : SocketHeld config
          (before.recordWorker (.finish worker task)) :=
        { held with }
      apply recorded.moveOutside
      · exact held.free_of_outside (by simp [at_point])
      · simp

end SocketHeld

/-- The workers' points and `m_socketMutex` change in workers' steps only. -/
theorem workers_of_step {config : Config} {before after : Server}
    {action : Action} (taken : ServerStep config before action after)
    (elsewhere : ∀ worker choice, action ≠ .worker worker choice) :
    after.workerThread = before.workerThread ∧
      after.socketMutex = before.socketMutex := by
  cases taken with
  | network taken => cases taken <;> exact ⟨rfl, rfl⟩
  | accept choice taken =>
      cases taken with
      | initConnection store outcome at_point =>
          obtain ⟨_, _, _, result⟩ :=
            before.initConnection_frame config store outcome
          rw [result]
          exact ⟨rfl, rfl⟩
      | _ => exact ⟨rfl, rfl⟩
  | poller poller choice bound taken =>
      cases taken with
      | closeConnection store rest at_point =>
          obtain ⟨_, _, _, result⟩ := before.closeConnection_frame config store
          rw [result]
          exact ⟨rfl, rfl⟩
      | _ => exact ⟨rfl, rfl⟩
  | worker worker choice bound taken => exact absurd rfl (elsewhere _ _)
  | stop taken =>
      cases taken with
      | closeListening closed at_point closes =>
          obtain ⟨_, _, result⟩ := Server.closeListening_frame closes
          rw [result]
          exact ⟨rfl, rfl⟩
      | closing store rest at_point =>
          obtain ⟨_, _, _, result⟩ := before.closeConnection_frame config store
          rw [result]
          exact ⟨rfl, rfl⟩
      | _ => exact ⟨rfl, rfl⟩

theorem workerLine_of_step {config : Config} {before after : Server}
    {worker : WorkerId} {choice : WorkerChoice}
    (taken :
      (tcpServer config).step before (.worker worker choice) = some after) :
    worker < config.numWorkers ∧
      WorkerLine config before worker choice after := by
  change (if _ then _ else none) = _ at taken
  split at taken
  · rename_i bound
    exact ⟨bound, workerLine_of_some taken⟩
  · cases taken

theorem socketHeld_of_reachable {config : Config} {server : Server}
    (reachable : (tcpServer config).Reachable server) :
    SocketHeld config server := by
  refine TransitionSystem.Reachable.invariant ?_ ?_ reachable
  · intro state initially
    cases initially
    constructor
    · intro store worker holds
      cases holds
    · intro _ worker task call at_point
      cases at_point
  · intro before action after _ taken held
    by_cases working : ∃ worker choice, action = .worker worker choice
    · obtain ⟨worker, choice, rfl⟩ := working
      obtain ⟨bound, line⟩ := workerLine_of_step taken
      exact held.workerLine bound line
    · obtain ⟨threads, mutexes⟩ :=
        workers_of_step (serverStep_of_step taken)
          fun worker choice same => working ⟨worker, choice, same⟩
      constructor
      · rw [threads, mutexes]
        exact held.holder
      · rw [threads]
        exact held.returns

/-- A `closeConnection` that has to wait can go on once the worker that is
inside a handler call has returned from it. -/
theorem unblocks {config : Config} {server : Server}
    (held : SocketHeld config server) {store : ConnectionId}
    (blocked : server.closeBlocked config store = true) :
    ∃ worker after,
      (tcpServer config).step server (.worker worker .returnCall) =
          some after ∧
        after.closeBlocked config store = false ∧
        ∃ mutexes threads,
          after =
            { server with
                socketMutex := mutexes
                workerThread := threads } := by
  unfold Server.closeBlocked at blocked
  simp only [decide_eq_true_eq] at blocked
  obtain ⟨tls, -, taken⟩ := blocked
  obtain ⟨worker, holds⟩ := Option.isSome_iff_exists.mp taken
  obtain ⟨bound, task, call, at_point, rfl⟩ := held.holder store worker holds
  have ended := held.returns tls worker task call at_point
  refine ⟨worker,
    (server.unlockSocket worker task.eventStorePointer).setWorker worker
      (.callback task none), ?_, ?_, ?_⟩
  · change (if _ then _ else none) = _
    rw [if_pos bound]
    simp only [workerStep, at_point]
    rw [if_pos ended]
  · simp [Server.closeBlocked, Server.setWorker, Server.unlockSocket, holds]
  · exact ⟨_, _, rfl⟩

end EventPlus

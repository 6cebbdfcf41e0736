/-
Module: EventPlus.Server.Transitions
Purpose: What a step of each thread can do: inversion of the step functions
  into relations with one constructor for each line of the source that touches
  shared state.
Trusted boundary: none
Main exports:
  NetworkStep, AcceptStep, PollerStep, WorkerStep, StopStep, ServerStep,
  serverStep_of_step, pollerThread_of_step, acceptThread_of_step
-/
import EventPlus.Server.Step

namespace EventPlus

open Function (update)

/-- Arrivals from the network. -/
inductive NetworkStep (server : Server) : Action → Server → Prop where
  | connect :
      NetworkStep server .connect
        { server with kernel := server.kernel.connect }
  | segment (connection : ConnectionId) (count : Nat)
      (still_open : (server.kernel.socket connection).hungUp = false) :
      NetworkStep server (.segment connection count)
        { server with kernel := server.kernel.segment connection count }
  | hangUp (connection : ConnectionId) (cause : HangUp) :
      NetworkStep server (.hangUp connection cause)
        { server with kernel := server.kernel.hangUp connection cause }

/-- Steps of the accept thread. -/
inductive AcceptStep (config : Config) (server : Server) :
    AcceptChoice → Server → Prop where
  | loop (at_point : server.acceptThread = .loop) :
      AcceptStep config server .proceed
        { server with
            acceptThread :=
              if server.continueAccepting then .epollWait else .exited }
  | report (at_point : server.acceptThread = .epollWait) :
      AcceptStep config server .report
        { server with
            kernel := { server.kernel with listenEdge := false }
            acceptThread := .handleEvent }
  | timeout (at_point : server.acceptThread = .epollWait) :
      AcceptStep config server .timeout { server with acceptThread := .loop }
  | handleEvent (at_point : server.acceptThread = .handleEvent) :
      AcceptStep config server .proceed
        { server with
            acceptThread :=
              if server.continueAccepting then .lock else .loop }
  | lock (at_point : server.acceptThread = .lock)
      (free : server.clientEventStoresMutex = none) :
      AcceptStep config server .proceed
        { server with
            clientEventStoresMutex := some .accept
            acceptThread := .accept }
  | acceptFailed (lost : Bool) (at_point : server.acceptThread = .accept) :
      AcceptStep config server (.acceptFailed lost)
        { server with
            kernel :=
              { server.kernel with
                  backlog :=
                    if lost then server.kernel.backlog - 1
                    else server.kernel.backlog }
            acceptThread := .unlock }
  | accepted (fd : Fd) (ssl : SSLPointer) (kernel : Kernel)
      (at_point : server.acceptThread = .accept)
      (got : server.kernel.accept fd server.accepted = some kernel) :
      AcceptStep config server (.accepted fd true ssl)
        { server.makeStore kernel fd ssl with
            acceptThread := .admitting .initConnection server.accepted }
  | ntopFailed (fd : Fd) (ssl : SSLPointer) (kernel : Kernel)
      (at_point : server.acceptThread = .accept)
      (got : server.kernel.accept fd server.accepted = some kernel) :
      AcceptStep config server (.accepted fd false ssl)
        { server with
            kernel := kernel
            accepted := server.accepted + 1
            acceptThread := .unlock }
  | initConnection (store : ConnectionId) (outcome : Handshake)
      (at_point : server.acceptThread = .admitting .initConnection store) :
      AcceptStep config server (.handshake outcome)
        { server.initConnection config store outcome with
            acceptThread := .admitting .addSocket store }
  | registered (store : ConnectionId) (kernel : Kernel)
      (at_point : server.acceptThread = .admitting .addSocket store)
      (added :
        server.kernel.epollCtlAdd (server.nextIndex config)
          (server.fd store) = some kernel) :
      AcceptStep config server (.epollCtl true)
        { server with
            kernel := kernel
            currentIndex := server.nextIndex config
            registeredWith :=
              update server.registeredWith store
                (some (server.nextIndex config))
            acceptThread :=
              .admitting (.backPointer (server.nextIndex config)) store }
  | refused (store : ConnectionId) (granted : Bool)
      (at_point : server.acceptThread = .admitting .addSocket store) :
      AcceptStep config server (.epollCtl granted)
        { server with
            currentIndex := server.nextIndex config
            acceptThread := .admitting .insert store }
  | backPointer (poller : PollerId) (store : ConnectionId)
      (at_point :
        server.acceptThread = .admitting (.backPointer poller) store) :
      AcceptStep config server .proceed
        { server.setBackPointer store poller with
            acceptThread := .admitting .insert store }
  | insert (store : ConnectionId)
      (at_point : server.acceptThread = .admitting .insert store) :
      AcceptStep config server .proceed
        { server.insertStore store with
            acceptThread := .admitting .enqueue store }
  | enqueue (store : ConnectionId)
      (at_point : server.acceptThread = .admitting .enqueue store) :
      AcceptStep config server .proceed
        { server.enqueueTask
              { eventStorePointer := store, origin := .accept } with
            acceptThread := .unlock }
  | unlock (at_point : server.acceptThread = .unlock) :
      AcceptStep config server .proceed
        { server with
            clientEventStoresMutex := none
            acceptThread := .loop }

/-- Steps of a poller. -/
inductive PollerStep (config : Config) (server : Server) (poller : PollerId) :
    PollerChoice → Server → Prop where
  | loop (at_point : server.pollerThread poller = .loop) :
      PollerStep config server poller .proceed
        (server.setPoller poller
          (if server.continuePolling poller then .epollWait else .exited))
  | report (reported : List ConnectionId) (entries : List EpollEvent)
      (kernel : Kernel)
      (at_point : server.pollerThread poller = .epollWait)
      (waited :
        server.kernel.epollWait poller reported = some (entries, kernel)) :
      PollerStep config server poller (.report reported)
        ({ server with kernel := kernel }.setPoller poller (.batch entries))
  | timeout (at_point : server.pollerThread poller = .epollWait) :
      PollerStep config server poller .timeout
        ({ server with
            kernel := server.kernel.epollReturns poller }.setPoller poller
          .loop)
  | batchDone (at_point : server.pollerThread poller = .batch []) :
      PollerStep config server poller .proceed (server.setPoller poller .loop)
  | hangUp (entry : EpollEvent) (rest : List EpollEvent)
      (at_point : server.pollerThread poller = .batch (entry :: rest))
      (flag : entry.epollRdhup = true) :
      PollerStep config server poller .proceed
        (server.setPoller poller (.busy .removeSocket entry.store rest))
  | data (entry : EpollEvent) (rest : List EpollEvent)
      (at_point : server.pollerThread poller = .batch (entry :: rest))
      (flag : entry.epollRdhup = false) :
      PollerStep config server poller .proceed
        (server.setPoller poller (.busy .handleEvent entry.store rest))
  | skipped (entry : EpollEvent) (rest : List EpollEvent)
      (at_point : server.pollerThread poller = .batch (entry :: rest)) :
      PollerStep config server poller .proceed
        (server.setPoller poller (.batch rest))
  | setIncoming (store : ConnectionId) (rest : List EpollEvent)
      (at_point : server.pollerThread poller = .busy .handleEvent store rest) :
      PollerStep config server poller .proceed
        ((server.setEventType store .incomingData).setPoller poller
          (.busy .dispatch store rest))
  | dispatch (store : ConnectionId) (rest : List EpollEvent)
      (at_point : server.pollerThread poller = .busy .dispatch store rest) :
      PollerStep config server poller .proceed
        ({ server.enqueueTask
              { eventStorePointer := store, origin := .data } with
            offered :=
              update server.offered store
                (server.kernel.socket store).arrived }.setPoller
          poller (.batch rest))
  | lock (store : ConnectionId) (rest : List EpollEvent)
      (at_point :
        server.pollerThread poller = .busy .removeSocket store rest)
      (free : server.clientEventStoresMutex = none) :
      PollerStep config server poller .proceed
        ({ server with
            clientEventStoresMutex := some (.poller poller) }.setPoller
          poller (.busy .setClosed store rest))
  | setClosed (store : ConnectionId) (rest : List EpollEvent)
      (at_point : server.pollerThread poller = .busy .setClosed store rest) :
      PollerStep config server poller .proceed
        ((server.setEventType store .closedConnection).setPoller poller
          (.busy .epollDel store rest))
  | noHandler (store : ConnectionId) (rest : List EpollEvent)
      (at_point : server.pollerThread poller = .busy .epollDel store rest)
      (handler_eq : (server.store store).socketEventHandler = none) :
      PollerStep config server poller .proceed
        (server.setPoller poller (.busy .enqueue store rest))
  | epollDel (store : ConnectionId) (rest : List EpollEvent)
      (handler : PollerId)
      (at_point : server.pollerThread poller = .busy .epollDel store rest)
      (handler_eq :
        (server.store store).socketEventHandler = some handler) :
      PollerStep config server poller .proceed
        ({ server.record
            (.epollDel store handler
              (server.kernel.canDelete handler (server.fd store))) with
            kernel :=
              server.kernel.epollCtlDel handler
                (server.fd store) }.setPoller
          poller (.busy .closeConnection store rest))
  | closeConnection (store : ConnectionId) (rest : List EpollEvent)
      (at_point :
        server.pollerThread poller = .busy .closeConnection store rest) :
      PollerStep config server poller .proceed
        ((server.closeConnection config store).setPoller poller
          (.busy .enqueue store rest))
  | enqueue (store : ConnectionId) (rest : List EpollEvent)
      (at_point : server.pollerThread poller = .busy .enqueue store rest) :
      PollerStep config server poller .proceed
        ((server.enqueueTask
            { eventStorePointer := store, origin := .removal }).setPoller
          poller (.busy .erase store rest))
  | erase (store : ConnectionId) (rest : List EpollEvent)
      (at_point : server.pollerThread poller = .busy .erase store rest) :
      PollerStep config server poller .proceed
        ((server.eraseStore store).setPoller poller
          (.busy .unlock store rest))
  | unlock (store : ConnectionId) (rest : List EpollEvent)
      (at_point : server.pollerThread poller = .busy .unlock store rest) :
      PollerStep config server poller .proceed
        ({ server with clientEventStoresMutex := none }.setPoller poller
          (.batch rest))

/-- The choices that issue a system call on the store's number. -/
def WorkerChoice.transfers : WorkerChoice → Bool
  | .syscall _ | .sslSyscall _ _ => true
  | _ => false

/-- Steps of a pool worker. -/
inductive WorkerStep (config : Config) (server : Server) (worker : WorkerId) :
    WorkerChoice → Server → Prop where
  | take (task : IOTask) (rest : List IOTask)
      (at_point : server.workerThread worker = .idle)
      (queue : server.tasks = task :: rest) :
      WorkerStep config server worker .take
        ({ server.recordWorker (.take worker task) with
            tasks := rest }.setWorker worker (.taken task))
  | dispatch (task : IOTask)
      (at_point : server.workerThread worker = .taken task) :
      WorkerStep config server worker .dispatch
        ((server.recordWorker
            (.callback worker task
              (server.store task.eventStorePointer).eventType)).setWorker
          worker (.callback task none))
  | call (task : IOTask) (request : Request) (call : Call)
      (at_point : server.workerThread worker = .callback task none) :
      WorkerStep config server worker (.call request)
        ((server.lockSocket worker task.eventStorePointer call).setWorker
          worker (.callback task (some call)))
  | syscall (choice : WorkerChoice) (task : IOTask) (call next : Call)
      (syscall : Syscall) (result : SysResult) (kernel : Kernel)
      (transfers : choice.transfers = true)
      (at_point : server.workerThread worker = .callback task (some call))
      (transferred :
        server.kernel.transfer (server.fd task.eventStorePointer) syscall
          result = some kernel) :
      WorkerStep config server worker choice
        ({ server.record
            (.transfer task.eventStorePointer syscall
              (server.kernel.file (server.fd task.eventStorePointer))) with
            kernel := kernel }.setWorker
          worker (.callback task (some next)))
  | returnCall (task : IOTask) (call : Call)
      (at_point : server.workerThread worker = .callback task (some call)) :
      WorkerStep config server worker .returnCall
        ((server.unlockSocket worker task.eventStorePointer).setWorker
          worker (.callback task none))
  | close (task : IOTask)
      (at_point : server.workerThread worker = .callback task none)
      (may_close : config.callbacksClose = true) :
      WorkerStep config server worker .close
        (server.closeConnection config task.eventStorePointer)
  | finish (task : IOTask)
      (at_point : server.workerThread worker = .callback task none) :
      WorkerStep config server worker .finish
        ((server.recordWorker (.finish worker task)).setWorker worker .idle)

/-- Steps of the thread in `stopPolling`. -/
inductive StopStep (config : Config) (server : Server) : Server → Prop where
  | call (at_point : server.stopThread.critical = false)
      (next : StopPoint) (still_outside : next.critical = false) :
      StopStep config server { server with stopThread := next }
  | unregister (at_point : server.stopThread.critical = false)
      (next : StopPoint) (still_outside : next.critical = false)
      (listening : Bool) :
      StopStep config server
        { server with
            kernel := { server.kernel with listenRegistered := listening }
            stopThread := next }
  | closeListening (closed : Server)
      (at_point : server.stopThread = .closeListening)
      (closes : server.closeListening config = some closed) :
      StopStep config server
        { closed with stopThread := .stopAccepting }
  | stopAccepting (at_point : server.stopThread = .stopAccepting) :
      StopStep config server
        { server with
            continueAccepting := false
            stopThread := .closeAcceptEpoll }
  | stopPoller (poller : PollerId)
      (at_point : server.stopThread = .stopPoller poller) :
      StopStep config server
        { server with
            continuePolling := update server.continuePolling poller false
            stopThread := .closePollerEpoll poller }
  | closePollerEpoll (poller : PollerId)
      (at_point : server.stopThread = .closePollerEpoll poller) :
      StopStep config server
        { server with
            kernel :=
              server.kernel.closeEpoll poller
                (decide (server.pollerThread poller = .epollWait))
            stopThread := .stopPoller (poller + 1) }
  | lockAll (at_point : server.stopThread = .lockAll)
      (free : server.clientEventStoresMutex = none) :
      StopStep config server
        { server with
            clientEventStoresMutex := some .stopper
            stopThread := .closing server.ownedStores }
  | closing (store : ConnectionId) (rest : List ConnectionId)
      (at_point : server.stopThread = .closing (store :: rest)) :
      StopStep config server
        { server.closeConnection config store with
            stopThread := .closing rest }
  | clear (at_point : server.stopThread = .closing []) :
      StopStep config server { server.clearStores with stopThread := .unlock }
  | unlock (at_point : server.stopThread = .unlock) :
      StopStep config server
        { server with
            clientEventStoresMutex := none
            stopThread := .returned }

/-- One step of the whole server. -/
inductive ServerStep (config : Config) (before : Server) :
    Action → Server → Prop where
  | network {action : Action} {after : Server}
      (taken : NetworkStep before action after) :
      ServerStep config before action after
  | accept {after : Server} (choice : AcceptChoice)
      (taken : AcceptStep config before choice after) :
      ServerStep config before (.accept choice) after
  | poller {after : Server} (poller : PollerId) (choice : PollerChoice)
      (bound : poller < config.numPollers)
      (taken : PollerStep config before poller choice after) :
      ServerStep config before (.poller poller choice) after
  | worker {after : Server} (worker : WorkerId) (choice : WorkerChoice)
      (bound : worker < config.numWorkers)
      (taken : WorkerStep config before worker choice after) :
      ServerStep config before (.worker worker choice) after
  | stop {after : Server} (taken : StopStep config before after) :
      ServerStep config before .stop after

/-! ## Inversion of the step functions -/

theorem acceptStep_of_some {config : Config} {before after : Server}
    {choice : AcceptChoice}
    (taken : acceptStep config before choice = some after) :
    AcceptStep config before choice after := by
  unfold acceptStep at taken
  split at taken
  · cases taken
    exact .loop ‹_›
  · split at taken
    · cases taken
      exact .report ‹_›
    · cases taken
  · cases taken
    exact .timeout ‹_›
  · cases taken
    exact .handleEvent ‹_›
  · split at taken
    · cases taken
      exact .lock ‹_› ‹_›
    · cases taken
  · cases taken
    exact .acceptFailed _ ‹_›
  · split at taken
    · cases taken
    · split at taken
      · cases taken
        rename_i passed
        rw [passed]
        exact .accepted _ _ _ ‹_› ‹_›
      · cases taken
        rename_i passed
        rw [Bool.not_eq_true] at passed
        rw [passed]
        exact .ntopFailed _ _ _ ‹_› ‹_›
  · cases taken
    exact .initConnection _ _ ‹_›
  · split at taken
    · rename_i kernel attempt
      cases taken
      unfold Server.registerSocket at attempt
      split at attempt
      · rename_i granted
        rw [granted]
        exact .registered _ _ ‹_› attempt
      · cases attempt
    · cases taken
      exact .refused _ _ ‹_›
  · cases taken
    exact .backPointer _ _ ‹_›
  · cases taken
    exact .insert _ ‹_›
  · cases taken
    exact .enqueue _ ‹_›
  · cases taken
    exact .unlock ‹_›
  · cases taken

theorem pollerStep_of_some {config : Config} {before after : Server}
    {poller : PollerId} {choice : PollerChoice}
    (taken : pollerStep config before poller choice = some after) :
    PollerStep config before poller choice after := by
  unfold pollerStep at taken
  split at taken
  · cases taken
    exact .loop ‹_›
  · split at taken
    · cases taken
    · cases taken
      exact .report _ _ _ ‹_› ‹_›
  · cases taken
    exact .timeout ‹_›
  · cases taken
    exact .batchDone ‹_›
  · split at taken
    · cases taken
      exact .hangUp _ _ ‹_› ‹_›
    · rename_i flag
      split at taken
      · cases taken
        exact .data _ _ ‹_› (by simpa using flag)
      · cases taken
        exact .skipped _ _ ‹_›
  · cases taken
    exact .setIncoming _ _ ‹_›
  · cases taken
    exact .dispatch _ _ ‹_›
  · split at taken
    · cases taken
      exact .lock _ _ ‹_› ‹_›
    · cases taken
  · cases taken
    exact .setClosed _ _ ‹_›
  · split at taken
    · cases taken
      exact .noHandler _ _ ‹_› ‹_›
    · cases taken
      exact .epollDel _ _ _ ‹_› ‹_›
  · split at taken
    · cases taken
    · cases taken
      exact .closeConnection _ _ ‹_›
  · cases taken
    exact .enqueue _ _ ‹_›
  · cases taken
    exact .erase _ _ ‹_›
  · cases taken
    exact .unlock _ _ ‹_›
  · cases taken

/-- What a system call on a store's number leaves behind. -/
theorem Server.transfer_spec {before after : Server} {store : ConnectionId}
    {syscall : Syscall} {result : SysResult}
    (taken : before.transfer store syscall result = some after) :
    ∃ kernel,
      before.kernel.transfer (before.fd store) syscall result =
          some kernel ∧
        after =
          { before.record
              (.transfer store syscall
                (before.kernel.file (before.fd store))) with
              kernel := kernel } := by
  unfold Server.transfer at taken
  split at taken
  · cases taken
  · rename_i kernel transferred
    cases taken
    exact ⟨kernel, transferred, rfl⟩

theorem workerStep_of_some {config : Config} {before after : Server}
    {worker : WorkerId} {choice : WorkerChoice}
    (taken : workerStep config before worker choice = some after) :
    WorkerStep config before worker choice after := by
  unfold workerStep at taken
  split at taken
  · split at taken
    · cases taken
    · cases taken
      exact .take _ _ ‹_› ‹_›
  · cases taken
    exact .dispatch _ ‹_›
  · dsimp only at taken
    split at taken
    · cases taken
    · cases taken
      exact .call _ _ _ ‹_›
  · split at taken
    · cases taken
    · split at taken
      · cases taken
      · rename_i moved
        obtain ⟨kernel, transferred, rfl⟩ := Server.transfer_spec moved
        cases taken
        exact .syscall _ _ _ _ _ _ _ rfl ‹_› transferred
  · rename_i task syscall result at_point
    obtain ⟨kernel, transferred, rfl⟩ := Server.transfer_spec taken
    have unmoved :
        update before.workerThread worker
            (before.workerThread worker) = before.workerThread :=
      Function.update_eq_self _ _
    have step : WorkerStep config before worker
        (.sslSyscall syscall result) _ :=
      .syscall _ _ _ .ssl _ _ kernel rfl at_point transferred
    rw [← at_point] at step
    simpa [Server.setWorker, Server.record, unmoved] using step
  · split at taken
    · cases taken
      exact .returnCall _ _ ‹_›
    · cases taken
  · split at taken
    · rename_i guard
      cases taken
      exact .close _ ‹_› guard.1
    · cases taken
  · cases taken
    exact .finish _ ‹_›
  · cases taken

theorem stopStep_of_some {config : Config} {before after : Server}
    (taken : stopStep config before = some after) :
    StopStep config before after := by
  unfold stopStep at taken
  split at taken
  · rename_i at_point
    cases taken
    exact .call (by simp [at_point, StopPoint.critical]) _ rfl
  · rename_i at_point
    cases taken
    exact .call (by simp [at_point, StopPoint.critical]) _ rfl
  · rename_i at_point
    cases taken
    refine .call (by simp [at_point, StopPoint.critical]) _ ?_
    split <;> rfl
  · rename_i at_point
    cases taken
    exact .unregister (by simp [at_point, StopPoint.critical]) _ rfl _
  · rename_i at_point
    split at taken
    · cases taken
    · rename_i closes
      cases taken
      exact .closeListening _ at_point closes
  · cases taken
    exact .stopAccepting ‹_›
  · rename_i at_point
    cases taken
    exact .unregister (by simp [at_point, StopPoint.critical]) _ rfl _
  · rename_i at_point
    split at taken
    · cases taken
      exact .stopPoller _ at_point
    · cases taken
      exact .call (by simp [at_point, StopPoint.critical]) _ rfl
  · cases taken
    exact .closePollerEpoll _ ‹_›
  · split at taken
    · cases taken
      exact .lockAll ‹_› ‹_›
    · cases taken
  · split at taken
    · cases taken
    · cases taken
      exact .closing _ _ ‹_›
  · cases taken
    exact .clear ‹_›
  · cases taken
    exact .unlock ‹_›

/-- Every step of the transition system is a step of the network or of one
thread. -/
theorem serverStep_of_step {config : Config} {before after : Server}
    {action : Action}
    (taken : (tcpServer config).step before action = some after) :
    ServerStep config before action after := by
  change step config before action = some after at taken
  cases action with
  | connect =>
      simp only [step] at taken
      split at taken
      · cases taken
        exact .network .connect
      · cases taken
  | segment connection count =>
      simp only [step] at taken
      split at taken
      · cases taken
      · rename_i still_open
        cases taken
        exact .network (.segment _ _ (by simpa using still_open))
  | hangUp connection cause =>
      cases taken
      exact .network (.hangUp connection cause)
  | accept choice => exact .accept choice (acceptStep_of_some taken)
  | poller poller choice =>
      simp only [step] at taken
      split at taken
      · rename_i bound
        exact .poller poller choice bound (pollerStep_of_some taken)
      · cases taken
  | worker worker choice =>
      simp only [step] at taken
      split at taken
      · rename_i bound
        exact .worker worker choice bound (workerStep_of_some taken)
      · cases taken
  | stop => exact .stop (stopStep_of_some taken)

/-! ## What a step leaves where it is -/

/-- A poller stays where it is while others move. -/
theorem pollerThread_elsewhere {config : Config} {before after : Server}
    {action : Action} (taken : ServerStep config before action after)
    {poller : PollerId} (other : ∀ choice, action ≠ .poller poller choice) :
    after.pollerThread poller = before.pollerThread poller := by
  cases taken with
  | network taken => cases taken <;> rfl
  | accept choice taken =>
      cases taken with
      | initConnection store outcome at_point =>
          obtain ⟨_, _, _, result⟩ :=
            before.initConnection_frame config store outcome
          rw [result]
      | _ => rfl
  | poller mover choice bound taken =>
      have different : poller ≠ mover := by
        rintro rfl
        exact other choice rfl
      cases taken with
      | closeConnection store rest at_point =>
          simp only [Server.setPoller_of_ne different]
          rw [before.pollerThread_closeConnection]
      | _ => exact Function.update_of_ne different _ _
  | worker worker choice bound taken =>
      cases taken with
      | close task at_point may_close =>
          rw [before.pollerThread_closeConnection]
      | _ => rfl
  | stop taken =>
      cases taken with
      | closeListening closed at_point closes =>
          obtain ⟨_, _, result⟩ := Server.closeListening_frame closes
          rw [result]
      | closing store rest at_point =>
          change (before.closeConnection config store).pollerThread poller = _
          rw [before.pollerThread_closeConnection]
      | _ => rfl

/-- Steps of the other threads leave the pollers where they are. -/
theorem pollerThread_of_step {config : Config} {before after : Server}
    {action : Action} (taken : ServerStep config before action after)
    (not_poller : ∀ poller choice, action ≠ .poller poller choice) :
    after.pollerThread = before.pollerThread := by
  funext poller
  exact pollerThread_elsewhere taken (not_poller poller)

/-- Steps of the other threads leave the accept thread where it is. -/
theorem acceptThread_of_step {config : Config} {before after : Server}
    {action : Action} (taken : ServerStep config before action after)
    (not_accept : ∀ choice, action ≠ .accept choice) :
    after.acceptThread = before.acceptThread := by
  cases taken with
  | network taken => cases taken <;> rfl
  | accept choice taken => exact absurd rfl (not_accept choice)
  | poller poller choice bound taken =>
      cases taken with
      | closeConnection store rest at_point =>
          exact before.acceptThread_closeConnection config store
      | _ => rfl
  | worker worker choice bound taken =>
      cases taken with
      | close task at_point may_close =>
          exact before.acceptThread_closeConnection config _
      | _ => rfl
  | stop taken =>
      cases taken with
      | closeListening closed at_point closes =>
          obtain ⟨_, _, result⟩ := Server.closeListening_frame closes
          rw [result]
      | closing store rest at_point =>
          exact before.acceptThread_closeConnection config store
      | _ => rfl

end EventPlus

/-
Module: EventPlus.Server.Step
Purpose: The steps of a running server, one for each access to shared state of
  the accept thread, the pollers, the pool workers and `stopPolling`, and the
  transition system they form.
Trusted boundary: none
Main exports:
  AcceptChoice, acceptStep, PollerChoice, pollerStep, WorkerChoice,
  workerStep, stopStep, Action, step, tcpServer
-/
import EventPlus.Library.TransitionSystem
import EventPlus.Server.State

namespace EventPlus

open Function (update)

/-!
A step takes one thread from one access to shared state to the next.  What the
source does between two such accesses is local to the thread and is part of
the step.  The choice carried by a step is what the environment decides: the
outcome of a system call, the entries of an `epoll_wait`, the request a
callback makes.  A thread that would block has no step.
-/

/-! ## The accept thread -/

/-- Outcomes the accept thread meets.  `acceptFailed lost` says whether the
failed call took the pending connection out of the backlog; `accepted` carries
the new number, the outcome of `inet_ntop`, and what the fresh store's `m_SSL`
happens to contain. -/
inductive AcceptChoice where
  | proceed
  | report
  | timeout
  | acceptFailed (lost : Bool)
  | accepted (fd : Fd) (inetNtop : Bool) (ssl : SSLPointer)
  | handshake (outcome : Handshake)
  | epollCtl (granted : Bool)
deriving Repr, DecidableEq

/-- One step of the accept poller: `startPolling` and `handleEvent` on the
listening socket, then `TcpServerSocket::handleIOEvent`. -/
def acceptStep (config : Config) (server : Server) (choice : AcceptChoice) :
    Option Server :=
  match server.acceptThread, choice with
  | .loop, .proceed =>
      some
        { server with
            acceptThread :=
              if server.continueAccepting then .epollWait else .exited }
  | .epollWait, .report =>
      if server.kernel.listenRegistered ∧ server.kernel.listenEdge then
        some
          { server with
              kernel := { server.kernel with listenEdge := false }
              acceptThread := .handleEvent }
      else none
  | .epollWait, .timeout => some { server with acceptThread := .loop }
  | .handleEvent, .proceed =>
      some
        { server with
            acceptThread :=
              if server.continueAccepting then .lock else .loop }
  | .lock, .proceed =>
      if server.clientEventStoresMutex = none then
        some
          { server with
              clientEventStoresMutex := some .accept
              acceptThread := .accept }
      else none
  | .accept, .acceptFailed lost =>
      some
        { server with
            kernel :=
              { server.kernel with
                  backlog :=
                    if lost then server.kernel.backlog - 1
                    else server.kernel.backlog }
            acceptThread := .unlock }
  | .accept, .accepted fd inetNtop ssl =>
      match server.kernel.accept fd server.accepted with
      | none => none
      | some kernel =>
          -- the early return after a failed `inet_ntop` keeps the descriptor
          if inetNtop then
            some
              { server.makeStore kernel fd ssl with
                  acceptThread := .admitting .initConnection server.accepted }
          else
            some
              { server with
                  kernel := kernel
                  accepted := server.accepted + 1
                  acceptThread := .unlock }
  | .admitting .initConnection store, .handshake outcome =>
      some
        { server.initConnection config store outcome with
            acceptThread := .admitting .addSocket store }
  | .admitting .addSocket store, .epollCtl granted =>
      -- the index advances whether or not the registration succeeds
      match server.registerSocket config store granted with
      | some kernel =>
          some
            { server with
                kernel := kernel
                currentIndex := server.nextIndex config
                registeredWith :=
                  update server.registeredWith store
                    (some (server.nextIndex config))
                acceptThread :=
                  .admitting (.backPointer (server.nextIndex config)) store }
      | none =>
          some
            { server with
                currentIndex := server.nextIndex config
                acceptThread := .admitting .insert store }
  | .admitting (.backPointer poller) store, .proceed =>
      some
        { server.setBackPointer store poller with
            acceptThread := .admitting .insert store }
  | .admitting .insert store, .proceed =>
      some
        { server.insertStore store with
            acceptThread := .admitting .enqueue store }
  | .admitting .enqueue store, .proceed =>
      some
        { server.enqueueTask
              { eventStorePointer := store, origin := .accept } with
            acceptThread := .unlock }
  | .unlock, .proceed =>
      some
        { server with
            clientEventStoresMutex := none
            acceptThread := .loop }
  | _, _ => none

/-! ## The pollers -/

inductive PollerChoice where
  | proceed
  | report (reported : List ConnectionId)
  | timeout
deriving Repr, DecidableEq

def Server.setPoller (server : Server) (poller : PollerId)
    (point : PollerPoint) : Server :=
  { server with pollerThread := update server.pollerThread poller point }

namespace Server

@[simp] theorem setPoller_self (server : Server) (poller : PollerId)
    (point : PollerPoint) :
    (server.setPoller poller point).pollerThread poller = point :=
  Function.update_self _ _ _

@[simp] theorem mutex_setPoller (server : Server) (poller : PollerId)
    (point : PollerPoint) :
    (server.setPoller poller point).clientEventStoresMutex =
      server.clientEventStoresMutex := rfl

theorem setPoller_of_ne {poller other : PollerId} (different : other ≠ poller)
    (server : Server) (point : PollerPoint) :
    (server.setPoller poller point).pollerThread other =
      server.pollerThread other :=
  Function.update_of_ne different _ _

end Server

/-- One step of a poller: `startPolling`, `handleEvent` and
`TcpServerSocket::removeSocket`. -/
def pollerStep (config : Config) (server : Server) (poller : PollerId)
    (choice : PollerChoice) : Option Server :=
  match server.pollerThread poller, choice with
  | .loop, .proceed =>
      some
        (server.setPoller poller
          (if server.continuePolling poller then .epollWait else .exited))
  | .epollWait, .report reported =>
      match server.kernel.epollWait poller reported with
      | none => none
      | some (entries, kernel) =>
          some
            ({ server with kernel := kernel }.setPoller poller
              (.batch entries))
  | .epollWait, .timeout =>
      some
        ({ server with
            kernel := server.kernel.epollReturns poller }.setPoller poller
          .loop)
  | .batch [], .proceed => some (server.setPoller poller .loop)
  | .batch (entry :: rest), .proceed =>
      -- `EPOLLRDHUP` is tested first, whatever other flags the entry has
      if entry.epollRdhup then
        some
          (server.setPoller poller (.busy .removeSocket entry.store rest))
      else if server.continuePolling poller then
        some (server.setPoller poller (.busy .handleEvent entry.store rest))
      else some (server.setPoller poller (.batch rest))
  | .busy .handleEvent store rest, .proceed =>
      some
        ((server.setEventType store .incomingData).setPoller poller
          (.busy .dispatch store rest))
  | .busy .dispatch store rest, .proceed =>
      some
        ({ server.enqueueTask
              { eventStorePointer := store, origin := .data } with
            offered :=
              update server.offered store
                (server.kernel.socket store).arrived }.setPoller
          poller (.batch rest))
  | .busy .removeSocket store rest, .proceed =>
      if server.clientEventStoresMutex = none then
        some
          ({ server with
              clientEventStoresMutex := some (.poller poller) }.setPoller
            poller (.busy .setClosed store rest))
      else none
  | .busy .setClosed store rest, .proceed =>
      some
        ((server.setEventType store .closedConnection).setPoller poller
          (.busy .epollDel store rest))
  | .busy .epollDel store rest, .proceed =>
      match (server.store store).socketEventHandler with
      | none =>
          some (server.setPoller poller (.busy .enqueue store rest))
      | some handler =>
          some
            ({ server.record
                (.epollDel store handler
                  (server.kernel.canDelete handler (server.fd store))) with
                kernel :=
                  server.kernel.epollCtlDel handler
                    (server.fd store) }.setPoller
              poller (.busy .closeConnection store rest))
  | .busy .closeConnection store rest, .proceed =>
      if server.closeBlocked config store then none
      else
        some
          ((server.closeConnection config store).setPoller poller
            (.busy .enqueue store rest))
  | .busy .enqueue store rest, .proceed =>
      some
        ((server.enqueueTask
            { eventStorePointer := store, origin := .removal }).setPoller
          poller (.busy .erase store rest))
  | .busy .erase store rest, .proceed =>
      some
        ((server.eraseStore store).setPoller poller
          (.busy .unlock store rest))
  | .busy .unlock _ rest, .proceed =>
      some
        ({ server with clientEventStoresMutex := none }.setPoller poller
          (.batch rest))
  | _, _ => none

/-! ## The pool workers -/

/-- Choices of a worker: a receiver's callback makes any requests it likes, and
a system call returns any result the kernel can give.  `sslSyscall` is a read
or write OpenSSL issues inside a call of the TLS handler. -/
inductive WorkerChoice where
  | take
  | dispatch
  | call (request : Request)
  | syscall (result : SysResult)
  | sslSyscall (syscall : Syscall) (result : SysResult)
  | returnCall
  | close
  | finish
deriving Repr, DecidableEq

/-- Note what a worker does. -/
def Server.recordWorker (server : Server) (event : WorkerEvent) : Server :=
  { server with workerTrace := server.workerTrace ++ [event] }

def Server.setWorker (server : Server) (worker : WorkerId)
    (point : WorkerPoint) : Server :=
  { server with workerThread := update server.workerThread worker point }

namespace Server

@[simp] theorem setWorker_self (server : Server) (worker : WorkerId)
    (point : WorkerPoint) :
    (server.setWorker worker point).workerThread worker = point :=
  Function.update_self _ _ _

theorem setWorker_of_ne {worker other : WorkerId} (different : other ≠ worker)
    (server : Server) (point : WorkerPoint) :
    (server.setWorker worker point).workerThread other =
      server.workerThread other :=
  Function.update_of_ne different _ _

end Server

/-- A system call on `eventStorePointer->m_socketId`. -/
def Server.transfer (server : Server) (store : ConnectionId)
    (syscall : Syscall) (result : SysResult) : Option Server :=
  match server.kernel.transfer (server.fd store) syscall result with
  | none => none
  | some kernel =>
      some
        { server.record
            (.transfer store syscall
              (server.kernel.file (server.fd store))) with
            kernel := kernel }

/-- Whether starting a call has to wait for `m_socketMutex`. -/
def Server.callBlocked (server : Server) (store : ConnectionId)
    (call : Call) : Bool :=
  call.locksSocketMutex && (server.socketMutex store).isSome

def Server.lockSocket (server : Server) (worker : WorkerId)
    (store : ConnectionId) (call : Call) : Server :=
  { server with
      socketMutex :=
        if call.locksSocketMutex then
          update server.socketMutex store (some worker)
        else server.socketMutex }

def Server.unlockSocket (server : Server) (worker : WorkerId)
    (store : ConnectionId) : Server :=
  { server with
      socketMutex :=
        if server.socketMutex store = some worker then
          update server.socketMutex store none
        else server.socketMutex }

/-- One step of a pool worker: `workerThread`, `handleCallBackEvent`, and the
receiver's callback with the handler calls it makes. -/
def workerStep (config : Config) (server : Server) (worker : WorkerId)
    (choice : WorkerChoice) : Option Server :=
  match server.workerThread worker, choice with
  | .idle, .take =>
      match server.tasks with
      | [] => none
      | task :: rest =>
          some
            ({ server.recordWorker (.take worker task) with
                tasks := rest }.setWorker worker (.taken task))
  | .taken task, .dispatch =>
      -- `handleCallBackEvent` reads the store's field now
      some
        ((server.recordWorker
            (.callback worker task
              (server.store task.eventStorePointer).eventType)).setWorker
          worker (.callback task none))
  | .callback task none, .call request =>
      let store := task.eventStorePointer
      let call := config.handler.start (server.store store).ssl request
      if server.callBlocked store call then none
      else
        some
          ((server.lockSocket worker store call).setWorker worker
            (.callback task (some call)))
  | .callback task (some call), .syscall result =>
      match call.syscall with
      | none => none
      | some syscall =>
          match server.transfer task.eventStorePointer syscall result with
          | none => none
          | some server =>
              some
                (server.setWorker worker
                  (.callback task (some (call.resume result))))
  | .callback task (some .ssl), .sslSyscall syscall result =>
      server.transfer task.eventStorePointer syscall result
  | .callback task (some call), .returnCall =>
      if call.finished ∨ call = .ssl then
        some
          ((server.unlockSocket worker task.eventStorePointer).setWorker
            worker (.callback task none))
      else none
  | .callback task none, .close =>
      if config.callbacksClose ∧
          ¬ server.closeBlocked config task.eventStorePointer then
        some (server.closeConnection config task.eventStorePointer)
      else none
  | .callback task none, .finish =>
      some
        ((server.recordWorker (.finish worker task)).setWorker worker .idle)
  | _, _ => none

/-! ## Shutdown -/

/-- One step of `TcpServerSocket::stopPolling`.  No poller thread is joined. -/
def stopStep (config : Config) (server : Server) : Option Server :=
  match server.stopThread with
  | .idle | .returned =>
      some { server with stopThread := .checkServerSocket }
  | .checkServerSocket =>
      some
        { server with
            stopThread :=
              if config.serverSocketID ≠ -1 ∧
                  server.serverSocketOpen config then
                .deleteListening
              else .stopAccepting }
  | .deleteListening =>
      some
        { server with
            kernel := { server.kernel with listenRegistered := false }
            stopThread := .closeListening }
  | .closeListening =>
      match server.closeListening config with
      | none => none
      | some closed => some { closed with stopThread := .stopAccepting }
  | .stopAccepting =>
      some
        { server with
            continueAccepting := false
            stopThread := .closeAcceptEpoll }
  | .closeAcceptEpoll =>
      -- an `epoll_wait` under way may still report the listening socket
      some
        { server with
            kernel :=
              { server.kernel with
                  listenRegistered :=
                    server.kernel.listenRegistered &&
                      decide (server.acceptThread = .epollWait) }
            stopThread := .stopPoller 0 }
  | .stopPoller poller =>
      if poller < config.numPollers then
        some
          { server with
              continuePolling :=
                update server.continuePolling poller false
              stopThread := .closePollerEpoll poller }
      else some { server with stopThread := .lockAll }
  | .closePollerEpoll poller =>
      some
        { server with
            kernel :=
              server.kernel.closeEpoll poller
                (decide (server.pollerThread poller = .epollWait))
            stopThread := .stopPoller (poller + 1) }
  | .lockAll =>
      if server.clientEventStoresMutex = none then
        some
          { server with
              clientEventStoresMutex := some .stopper
              stopThread := .closing server.ownedStores }
      else none
  | .closing (store :: rest) =>
      if server.closeBlocked config store then none
      else
        some
          { server.closeConnection config store with
              stopThread := .closing rest }
  | .closing [] => some { server.clearStores with stopThread := .unlock }
  | .unlock =>
      some
        { server with
            clientEventStoresMutex := none
            stopThread := .returned }

/-! ## The system -/

/-- The actions of a run: arrivals from the network, and steps of the
threads. -/
inductive Action where
  | connect
  | segment (connection : ConnectionId) (count : Nat)
  | hangUp (connection : ConnectionId) (cause : HangUp)
  | accept (choice : AcceptChoice)
  | poller (poller : PollerId) (choice : PollerChoice)
  | worker (worker : WorkerId) (choice : WorkerChoice)
  | stop
deriving Repr, DecidableEq

/-- The step of an action, if it is enabled. -/
def step (config : Config) (server : Server) : Action → Option Server
  | .connect =>
      if server.kernel.file config.listenFd = some .listening then
        some { server with kernel := server.kernel.connect }
      else none
  | .segment connection count =>
      if (server.kernel.socket connection).hungUp then none
      else
        some
          { server with kernel := server.kernel.segment connection count }
  | .hangUp connection cause =>
      some { server with kernel := server.kernel.hangUp connection cause }
  | .accept choice => acceptStep config server choice
  | .poller poller choice =>
      if poller < config.numPollers then
        pollerStep config server poller choice
      else none
  | .worker worker choice =>
      if worker < config.numWorkers then
        workerStep config server worker choice
      else none
  | .stop => stopStep config server

/-- The transition system of a running `TcpServerSocket`. -/
def tcpServer (config : Config) : TransitionSystem Server Action where
  initial := fun server => server = Server.start config
  step := step config

/-- Steps other than those of `stopPolling`. -/
def beforeShutdown (_ : Server) : Action → Prop
  | .stop => False
  | _ => True

instance (server : Server) :
    (action : Action) → Decidable (beforeShutdown server action)
  | .stop => .isFalse id
  | .connect | .segment _ _ | .hangUp _ _ | .accept _ | .poller _ _
  | .worker _ _ => .isTrue trivial

theorem beforeShutdown_of_ne {server : Server} {action : Action}
    (not_stop : action ≠ .stop) : beforeShutdown server action := by
  cases action with
  | stop => exact absurd rfl not_stop
  | _ => trivial

/-- A run of the server that can be replayed step by step. -/
theorem exists_server_of_replay (config : Config)
    (permitted : Server → Action → Prop)
    [∀ server action, Decidable (permitted server action)]
    (test : Server → Prop) [DecidablePred test] (actions : List Action)
    (tested :
      ((tcpServer config).replay permitted (Server.start config) actions).any
        (fun server => test server) = true) :
    ∃ server,
      (tcpServer config).Reached permitted server ∧ test server :=
  TransitionSystem.exists_reached_of_replay actions rfl tested

/-! ## Schedules -/

/-- One poller and one worker, with the plain handler. -/
def Config.single : Config where
  handler := .tcp
  numPollers := 1
  numWorkers := 1

/-- The accept thread from the loop head to the call of `accept`. -/
def reachAccept : List Action :=
  [.accept .proceed, .accept .report, .accept .proceed, .accept .proceed]

/-- The accept thread through a successful `handleIOEvent`, from the return of
`accept` with the number `fd` on. -/
def admission (fd : Fd) : List Action :=
  [.accept (.accepted fd true .indeterminate),
    .accept (.handshake { certificate := true, sslAccept := 1 }),
    .accept (.epollCtl true), .accept .proceed, .accept .proceed,
    .accept .proceed, .accept .proceed]

/-- A client connects and is admitted under the number `fd`. -/
def connectAndAdmit (fd : Fd) : List Action :=
  .connect :: reachAccept ++ admission fd

/-- A poller at its loop head is told about one connection. -/
def pollOne (poller : PollerId) (connection : ConnectionId) : List Action :=
  [.poller poller .proceed, .poller poller (.report [connection])]

/-- A poller takes the only entry of its batch through `handleEvent`. -/
def handleData (poller : PollerId) : List Action :=
  List.replicate 4 (.poller poller .proceed)

/-- A poller takes the only entry of its batch through `removeSocket`, up to the
release of the mutex. -/
def handleHangUp (poller : PollerId) : List Action :=
  List.replicate 8 (.poller poller .proceed)

/-- A worker takes a task and runs its callback, which asks for nothing. -/
def runTask (worker : WorkerId) : List Action :=
  [.worker worker .take, .worker worker .dispatch, .worker worker .finish]

end EventPlus

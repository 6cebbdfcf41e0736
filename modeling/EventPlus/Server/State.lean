/-
Module: EventPlus.Server.State
Purpose: The state of a running `TcpServerSocket`: its threads' program
  points, the fields they share, and the kernel; and the operations of the
  source on that state.
Trusted boundary: none
Main exports:
  Config, Thread, AcceptPoint, PollerPoint, WorkerPoint, StopPoint,
  WorkerEvent, DescriptorEvent, Server, Server.closeConnection,
  Server.enqueueTask, Server.insertStore, Server.eraseStore
-/
import Mathlib.Data.List.AList
import EventPlus.Handlers.TLSServerSocketHandler
import EventPlus.Kernel.Sockets

namespace EventPlus

open Function (update)

/-- What does not change while the server runs.  The constructor passes one
number for both thread counts; the model keeps them apart.
`serverSocketID` is the field no constructor or method assigns, and
`callbacksClose` says whether the receiver's callbacks may call
`EventStorePointer::closeConnection`. -/
structure Config where
  handler : Handler
  numPollers : Nat
  numPollers_pos : 0 < numPollers := by decide
  numWorkers : Nat
  callbacksClose : Bool := false
  listenFd : Fd := 3
  otherFds : List Fd := [0, 1, 2]
  serverSocketID : Int := -1
  listenSsl : SSLPointer := .indeterminate

/-- The threads that take `clientEventStoresMutex`. -/
inductive Thread where
  | accept
  | poller (poller : PollerId)
  | stopper
deriving Repr, DecidableEq

/-! ## Program points -/

/-- Inside `TcpServerSocket::handleIOEvent`, after `accept` succeeded.
`backPointer` is `SocketEventHandler::addSocket` between `epoll_ctl` and the
assignment of `m_socketEventHandler`. -/
inductive AdmitStage where
  | initConnection
  | addSocket
  | backPointer (poller : PollerId)
  | insert
  | enqueue
deriving Repr, DecidableEq

/-- The accept poller's thread. -/
inductive AcceptPoint where
  | loop
  | epollWait
  | handleEvent
  | lock
  | accept
  | admitting (stage : AdmitStage) (store : ConnectionId)
  | unlock
  | exited
deriving Repr, DecidableEq

/-- `handleIOEvent` holds `clientEventStoresMutex` from its first line to its
return. -/
def AcceptPoint.critical : AcceptPoint → Bool
  | .accept | .admitting _ _ | .unlock => true
  | _ => false

/-- A poller at work on one entry: the two halves of `handleEvent`, then the
lines of `TcpServerSocket::removeSocket`. -/
inductive PollerStage where
  | handleEvent
  | dispatch
  | removeSocket
  | setClosed
  | epollDel
  | closeConnection
  | enqueue
  | erase
  | unlock
deriving Repr, DecidableEq

/-- `removeSocket` holds `clientEventStoresMutex` from its first line to its
return. -/
def PollerStage.critical : PollerStage → Bool
  | .handleEvent | .dispatch | .removeSocket => false
  | _ => true

/-- A thread in `SocketEventHandler::startPolling`: at the loop head, in
`epoll_wait`, in the `for` loop with the entries still to be taken, or at work
on the entry of `store`. -/
inductive PollerPoint where
  | loop
  | epollWait
  | batch (rest : List EpollEvent)
  | busy (stage : PollerStage) (store : ConnectionId) (rest : List EpollEvent)
  | exited
deriving Repr, DecidableEq

def PollerPoint.critical : PollerPoint → Bool
  | .busy stage _ _ => stage.critical
  | _ => false

/-- The stores a poller still refers to: the one in hand and those of the
entries not taken yet. -/
def PollerPoint.held : PollerPoint → List ConnectionId
  | .batch rest => rest.map (·.store)
  | .busy _ store rest => store :: rest.map (·.store)
  | _ => []

/-- A thread in `ThreadPool::workerThread`: waiting for a task, with a task
taken, or inside the receiver's callback and there possibly inside a handler
call. -/
inductive WorkerPoint where
  | idle
  | taken (task : IOTask)
  | callback (task : IOTask) (call : Option Call)
deriving Repr, DecidableEq

/-- The task a worker has taken and not finished. -/
def WorkerPoint.task : WorkerPoint → Option IOTask
  | .idle => none
  | .taken task | .callback task _ => some task

/-- The thread that calls `TcpServerSocket::stopPolling`. -/
inductive StopPoint where
  | idle
  | checkServerSocket
  | deleteListening
  | closeListening
  | stopAccepting
  | closeAcceptEpoll
  | stopPoller (poller : PollerId)
  | closePollerEpoll (poller : PollerId)
  | lockAll
  | closing (rest : List ConnectionId)
  | unlock
  | returned
deriving Repr, DecidableEq

/-- `closeAllClientSocket` holds `clientEventStoresMutex` throughout. -/
def StopPoint.critical : StopPoint → Bool
  | .closing _ | .unlock => true
  | _ => false

/-! ## The shared state -/

/-- What the pool workers did, in order. -/
inductive WorkerEvent where
  | take (worker : WorkerId) (task : IOTask)
  | callback (worker : WorkerId) (task : IOTask) (kind : EventType)
  | finish (worker : WorkerId) (task : IOTask)
deriving Repr, DecidableEq

/-- What was done with descriptors and with `clientEventStores`, in order.
`close store file` is a `close` call on the number in the store's
`m_socketId`, with what the number denoted then; `transfer` likewise. -/
inductive DescriptorEvent where
  | epollDel (store : ConnectionId) (poller : PollerId) (succeeded : Bool)
  | close (store : ConnectionId) (file : Option File)
  | closeListening (file : Option File)
  | erase (store : ConnectionId) (found : Option ConnectionId)
  | transfer (store : ConnectionId) (syscall : Syscall) (file : Option File)
deriving Repr, DecidableEq

/-- A running server.  `accepted` counts the connections accepted so far and
`lifetime` says which stores exist.

The last five fields are history, which no step reads: the poller a store was
registered with, the bytes of a connection that had arrived when its last data
task was enqueued, all tasks enqueued so far, and what the workers and the
descriptor operations did. -/
structure Server where
  kernel : Kernel
  store : ConnectionId → EventStorePointer
  lifetime : ConnectionId → Lifetime
  accepted : ConnectionId
  clientEventStores : AList fun _ : Fd => ConnectionId
  clientEventStoresMutex : Option Thread
  socketMutex : ConnectionId → Option WorkerId
  currentIndex : Nat
  continueAccepting : Bool
  continuePolling : PollerId → Bool
  tasks : List IOTask
  acceptThread : AcceptPoint
  pollerThread : PollerId → PollerPoint
  workerThread : WorkerId → WorkerPoint
  stopThread : StopPoint
  registeredWith : ConnectionId → Option PollerId
  offered : ConnectionId → Nat
  enqueued : List IOTask
  workerTrace : List WorkerEvent
  descriptorTrace : List DescriptorEvent

/-- The server after `startReceivingConnection` and a successful
`createServerSocketAndStartReceiving`. -/
def Server.start (config : Config) : Server where
  kernel :=
    { file := fun fd =>
        if fd = config.listenFd then some .listening
        else if fd ∈ config.otherFds then some .other
        else none
      socket := fun _ => {}
      epollOpen := fun _ => true
      registered := fun _ => []
      inFlight := fun _ => []
      backlog := 0
      listenEdge := false
      listenRegistered := true }
  store := fun _ => {}
  lifetime := fun _ => .unborn
  accepted := 0
  clientEventStores := ∅
  clientEventStoresMutex := none
  socketMutex := fun _ => none
  currentIndex := 0
  continueAccepting := true
  continuePolling := fun _ => true
  tasks := []
  acceptThread := .loop
  pollerThread := fun _ => .loop
  workerThread := fun _ => .idle
  stopThread := .idle
  registeredWith := fun _ => none
  offered := fun _ => 0
  enqueued := []
  workerTrace := []
  descriptorTrace := []

namespace Server

variable (config : Config) (server : Server)

/-- The descriptor number in a store. -/
def fd (store : ConnectionId) : Fd := (server.store store).socketId

/-- The store registered under a descriptor number in `clientEventStores`. -/
def find (fd : Fd) : Option ConnectionId :=
  server.clientEventStores.lookup fd

/-- Note a descriptor event. -/
def record (event : DescriptorEvent) : Server :=
  { server with descriptorTrace := server.descriptorTrace ++ [event] }

/-- `close(eventStorePointer->m_socketId)`. -/
def closeDescriptor (store : ConnectionId) : Server :=
  { server.record (.close store (server.kernel.file (server.fd store))) with
      kernel := server.kernel.close (server.fd store) }

def setSSL (store : ConnectionId) (ssl : SSLPointer) : Server :=
  { server with
      store :=
        update server.store store
          { server.store store with ssl := ssl } }

/-- Whether `closeConnection` would have to wait: the TLS handler takes
`m_socketMutex` for a store that has an SSL object. -/
def closeBlocked (store : ConnectionId) : Bool :=
  config.handler = .tls ∧ (server.store store).ssl ≠ .null ∧
    (server.socketMutex store).isSome

/-- `EventStorePointer::closeConnection`.  The TLS handler does nothing for a
null `m_SSL`, and nulls the field otherwise. -/
def closeConnection (store : ConnectionId) : Server :=
  match config.handler with
  | .tcp => server.closeDescriptor store
  | .tls =>
      if (server.store store).ssl = .null then server
      else
        (server.closeDescriptor store).setSSL store .null

/-- The store `handleIOEvent` makes for the connection just accepted. -/
def makeStore (kernel : Kernel) (fd : Fd) (ssl : SSLPointer) : Server :=
  { server with
      kernel := kernel
      store :=
        update server.store server.accepted
          { socketId := fd
            socketEventHandler := none
            eventType := .newConnection
            ssl := ssl }
      lifetime := update server.lifetime server.accepted .alive
      accepted := server.accepted + 1 }

/-- `m_socketOperationHandler->initConnection(rawPointer)`; the caller drops
the result. -/
def initConnection (store : ConnectionId) (handshake : Handshake) : Server :=
  let result :=
    config.handler.initConnection (server.store store).ssl handshake
  if result.closes then
    (server.closeDescriptor store).setSSL store result.ssl
  else server.setSSL store result.ssl

/-- The index `EventScheduler::addSocket` computes. -/
def nextIndex : Nat := (server.currentIndex + 1) % config.numPollers

/-- The `epoll_ctl` of `addSocket` on the next poller, where the environment
may refuse it. -/
def registerSocket (store : ConnectionId) (granted : Bool) : Option Kernel :=
  if granted then
    server.kernel.epollCtlAdd (server.nextIndex config) (server.fd store)
  else none

def setBackPointer (store : ConnectionId) (poller : PollerId) : Server :=
  { server with
      store :=
        update server.store store
          { server.store store with socketEventHandler := some poller } }

def setEventType (store : ConnectionId) (kind : EventType) : Server :=
  { server with
      store :=
        update server.store store
          { server.store store with eventType := kind } }

/-- End of life of the stores that satisfy `dying`. -/
def destroy (dying : ConnectionId → Bool) : Server :=
  { server with
      lifetime := fun store =>
        if dying store then .destroyed else server.lifetime store }

/-- `clientEventStores[clientSocketId] = std::move(clientEventStore)`: an
entry already there is replaced, and its store destroyed. -/
def insertStore (store : ConnectionId) : Server :=
  { server.destroy fun other => server.find (server.fd store) = some other with
      clientEventStores :=
        server.clientEventStores.insert (server.fd store) store }

/-- The end of `removeSocket`: whatever entry is found under the descriptor
number is erased and its store destroyed. -/
def eraseStore (store : ConnectionId) : Server :=
  { (server.record (.erase store (server.find (server.fd store)))).destroy
      fun other => server.find (server.fd store) = some other with
      clientEventStores :=
        server.clientEventStores.erase (server.fd store) }

/-- The stores `clientEventStores` owns, in iteration order. -/
def ownedStores : List ConnectionId :=
  server.clientEventStores.entries.map (·.2)

/-- `clientEventStores.clear()`. -/
def clearStores : Server :=
  { server.destroy fun other => other ∈ server.ownedStores with
      clientEventStores := ∅ }

/-- `IOWorkerThreadHandler::handleIOEvent` and `ThreadPool::enqueueTask`.  The
queue mutex makes the push one step. -/
def enqueueTask (task : IOTask) : Server :=
  { server with
      tasks := server.tasks ++ [task]
      enqueued := server.enqueued ++ [task] }

/-- `isSocketClosed(m_serverSocketID)` is false, for a field that nothing has
assigned. -/
def serverSocketOpen : Bool :=
  0 ≤ config.serverSocketID ∧
    (server.kernel.file config.serverSocketID.toNat).isSome

/-- `m_eventStore->closeConnection()` on the listening store, whose `m_SSL`
nothing assigns.  The TLS handler returns where it finds it null; otherwise it
hands a pointer that was never set to `SSL_shutdown`, and there is no defined
result. -/
def closeListening : Option Server :=
  match config.handler with
  | .tcp =>
      some
        { server.record
            (.closeListening (server.kernel.file config.listenFd)) with
            kernel := server.kernel.close config.listenFd }
  | .tls => if config.listenSsl = .null then some server else none

/-! ## Pollers at work -/

theorem critical_of_busy {poller : PollerId} {stage : PollerStage}
    {store : ConnectionId} {rest : List EpollEvent}
    (at_point : server.pollerThread poller = .busy stage store rest)
    (inside : stage.critical = true) :
    (server.pollerThread poller).critical = true := by
  rw [at_point]
  exact inside

theorem held_of_busy {poller : PollerId} {stage : PollerStage}
    {store : ConnectionId} {rest : List EpollEvent}
    (at_point : server.pollerThread poller = .busy stage store rest) :
    store ∈ (server.pollerThread poller).held := by
  rw [at_point]
  exact List.mem_cons_self

/-! ## What the operations leave alone -/

variable {config server}

@[simp] theorem fd_setSSL (store other : ConnectionId) (ssl : SSLPointer) :
    (server.setSSL store ssl).fd other = server.fd other := by
  by_cases same : other = store
  · subst same
    simp [fd, setSSL]
  · simp [fd, setSSL, Function.update_of_ne same]

@[simp] theorem fd_setEventType (store other : ConnectionId)
    (kind : EventType) :
    (server.setEventType store kind).fd other = server.fd other := by
  by_cases same : other = store
  · subst same
    simp [fd, setEventType]
  · simp [fd, setEventType, Function.update_of_ne same]

@[simp] theorem fd_setBackPointer (store other : ConnectionId)
    (poller : PollerId) :
    (server.setBackPointer store poller).fd other = server.fd other := by
  by_cases same : other = store
  · subst same
    simp [fd, setBackPointer]
  · simp [fd, setBackPointer, Function.update_of_ne same]

theorem fd_makeStore_of_ne (kernel : Kernel) (number : Fd)
    (ssl : SSLPointer) {other : ConnectionId}
    (older : other ≠ server.accepted) :
    (server.makeStore kernel number ssl).fd other = server.fd other := by
  simp [fd, makeStore, Function.update_of_ne older]

@[simp] theorem fd_makeStore_self (kernel : Kernel) (number : Fd)
    (ssl : SSLPointer) :
    (server.makeStore kernel number ssl).fd server.accepted = number := by
  simp [fd, makeStore]

@[simp] theorem handler_setSSL (store other : ConnectionId)
    (ssl : SSLPointer) :
    ((server.setSSL store ssl).store other).socketEventHandler =
      (server.store other).socketEventHandler := by
  by_cases same : other = store
  · subst same
    simp [setSSL]
  · simp [setSSL, Function.update_of_ne same]

@[simp] theorem handler_setEventType (store other : ConnectionId)
    (kind : EventType) :
    ((server.setEventType store kind).store other).socketEventHandler =
      (server.store other).socketEventHandler := by
  by_cases same : other = store
  · subst same
    simp [setEventType]
  · simp [setEventType, Function.update_of_ne same]

@[simp] theorem eventType_setSSL (store other : ConnectionId)
    (ssl : SSLPointer) :
    ((server.setSSL store ssl).store other).eventType =
      (server.store other).eventType := by
  by_cases same : other = store
  · subst same
    simp [setSSL]
  · simp [setSSL, Function.update_of_ne same]

@[simp] theorem eventType_setEventType_self (store : ConnectionId)
    (kind : EventType) :
    ((server.setEventType store kind).store store).eventType = kind := by
  simp [setEventType]

theorem eventType_setEventType_of_ne {store other : ConnectionId}
    (different : other ≠ store) (kind : EventType) :
    ((server.setEventType store kind).store other).eventType =
      (server.store other).eventType := by
  simp [setEventType, Function.update_of_ne different]

@[simp] theorem eventType_setBackPointer (store other : ConnectionId)
    (poller : PollerId) :
    ((server.setBackPointer store poller).store other).eventType =
      (server.store other).eventType := by
  by_cases same : other = store
  · subst same
    simp [setBackPointer]
  · simp [setBackPointer, Function.update_of_ne same]

/-- `closeConnection` does nothing, or closes the number in the store and may
change the store's `m_SSL`. -/
theorem closeConnection_cases (config : Config) (server : Server)
    (store : ConnectionId) :
    server.closeConnection config store = server ∨
      server.closeConnection config store = server.closeDescriptor store ∨
      server.closeConnection config store =
        (server.closeDescriptor store).setSSL store .null := by
  unfold closeConnection
  split
  · exact .inr (.inl rfl)
  · split
    · exact .inl rfl
    · exact .inr (.inr rfl)

/-- Apart from the kernel, the stores and the record of what was done with
descriptors, `closeConnection` changes nothing. -/
theorem closeConnection_frame (config : Config) (server : Server)
    (store : ConnectionId) :
    ∃ kernel stores events,
      server.closeConnection config store =
        { server with
            kernel := kernel
            store := stores
            descriptorTrace := events } := by
  rcases closeConnection_cases config server store with
    result | result | result
  · exact ⟨_, _, _, result⟩
  · exact ⟨_, _, _, result⟩
  · exact ⟨_, _, _, result⟩

@[simp] theorem lifetime_closeConnection (config : Config)
    (server : Server) (store : ConnectionId) :
    (server.closeConnection config store).lifetime = server.lifetime := by
  obtain ⟨_, _, _, result⟩ := closeConnection_frame config server store
  rw [result]

theorem pollerThread_closeConnection (config : Config) (server : Server)
    (store : ConnectionId) :
    (server.closeConnection config store).pollerThread =
      server.pollerThread := by
  obtain ⟨_, _, _, result⟩ := closeConnection_frame config server store
  rw [result]

theorem acceptThread_closeConnection (config : Config) (server : Server)
    (store : ConnectionId) :
    (server.closeConnection config store).acceptThread =
      server.acceptThread := by
  obtain ⟨_, _, _, result⟩ := closeConnection_frame config server store
  rw [result]

theorem continueAccepting_closeConnection (config : Config)
    (server : Server) (store : ConnectionId) :
    (server.closeConnection config store).continueAccepting =
      server.continueAccepting := by
  obtain ⟨_, _, _, result⟩ := closeConnection_frame config server store
  rw [result]

theorem closeConnection_tcp (server : Server) (store : ConnectionId)
    (plain : config.handler = .tcp) :
    server.closeConnection config store = server.closeDescriptor store := by
  simp [closeConnection, plain]

/-- The connection set-up changes the store's `m_SSL` and may close its
number. -/
theorem initConnection_cases (config : Config) (server : Server)
    (store : ConnectionId) (handshake : Handshake) :
    ∃ ssl,
      server.initConnection config store handshake =
          server.setSSL store ssl ∨
        server.initConnection config store handshake =
          (server.closeDescriptor store).setSSL store ssl := by
  unfold initConnection
  dsimp only
  split
  · exact ⟨_, .inr rfl⟩
  · exact ⟨_, .inl rfl⟩

theorem initConnection_frame (config : Config) (server : Server)
    (store : ConnectionId) (handshake : Handshake) :
    ∃ kernel stores events,
      server.initConnection config store handshake =
        { server with
            kernel := kernel
            store := stores
            descriptorTrace := events } := by
  obtain ⟨ssl, result | result⟩ :=
    initConnection_cases config server store handshake
  · exact ⟨_, _, _, result⟩
  · exact ⟨_, _, _, result⟩

/-- The plain handler sets nothing up. -/
theorem initConnection_tcp (server : Server) (store : ConnectionId)
    (handshake : Handshake) (plain : config.handler = .tcp) :
    server.initConnection config store handshake =
      server.setSSL store (server.store store).ssl := by
  simp [initConnection, Handler.initConnection, plain]

theorem closeListening_tcp (plain : config.handler = .tcp) :
    server.closeListening config =
      some
        { server.record
            (.closeListening (server.kernel.file config.listenFd)) with
            kernel := server.kernel.close config.listenFd } := by
  simp [closeListening, plain]

/-- The TLS handler never closes the listening socket. -/
theorem closeListening_tls {closed : Server} (tls : config.handler = .tls)
    (closes : server.closeListening config = some closed) :
    closed = server := by
  simp only [closeListening, tls] at closes
  split at closes
  · exact (Option.some.inj closes).symm
  · cases closes

/-- Where the listening store's `closeConnection` returns, it has closed the
listening number or done nothing. -/
theorem closeListening_cases {closed : Server}
    (closes : server.closeListening config = some closed) :
    closed = server ∨
      closed =
        { server.record
            (.closeListening (server.kernel.file config.listenFd)) with
            kernel := server.kernel.close config.listenFd } := by
  cases handler : config.handler with
  | tcp =>
      rw [closeListening_tcp handler] at closes
      exact .inr (Option.some.inj closes).symm
  | tls => exact .inl (closeListening_tls handler closes)

theorem closeListening_frame {closed : Server}
    (closes : server.closeListening config = some closed) :
    ∃ kernel events,
      closed =
        { server with kernel := kernel, descriptorTrace := events } := by
  rcases closeListening_cases closes with result | result
  · exact ⟨_, _, result⟩
  · exact ⟨_, _, result⟩

/-! ## The map of stores -/

/-- A made store stays made, whatever is destroyed. -/
theorem made_destroy (dying : ConnectionId → Bool) {store : ConnectionId}
    (made : server.lifetime store ≠ .unborn) :
    (server.destroy dying).lifetime store ≠ .unborn := by
  simp only [destroy]
  split
  · simp
  · exact made

theorem made_insertStore (store : ConnectionId) {other : ConnectionId}
    (made : server.lifetime other ≠ .unborn) :
    (server.insertStore store).lifetime other ≠ .unborn :=
  server.made_destroy
    (fun other => server.find (server.fd store) = some other) made

theorem made_eraseStore (store : ConnectionId) {other : ConnectionId}
    (made : server.lifetime other ≠ .unborn) :
    (server.eraseStore store).lifetime other ≠ .unborn :=
  server.made_destroy
    (fun other => server.find (server.fd store) = some other) made

theorem made_clearStores {store : ConnectionId}
    (made : server.lifetime store ≠ .unborn) :
    server.clearStores.lifetime store ≠ .unborn :=
  server.made_destroy (fun other => other ∈ server.ownedStores) made

@[simp] theorem lifetime_insertStore (store other : ConnectionId) :
    (server.insertStore store).lifetime other =
      if server.find (server.fd store) = some other then .destroyed
      else server.lifetime other := by
  simp [insertStore, destroy]

@[simp] theorem lifetime_eraseStore (store other : ConnectionId) :
    (server.eraseStore store).lifetime other =
      if server.find (server.fd store) = some other then .destroyed
      else server.lifetime other := by
  simp [eraseStore, destroy, record]

/-- With nothing under the number, an insertion destroys no store. -/
theorem lifetime_insertStore_of_free {store : ConnectionId}
    (free : server.find (server.fd store) = none) (other : ConnectionId) :
    (server.insertStore store).lifetime other = server.lifetime other := by
  simp [free]

theorem lifetime_eraseStore_self {store : ConnectionId}
    (found : server.find (server.fd store) = some store) :
    (server.eraseStore store).lifetime store = .destroyed := by
  simp [found]

theorem lifetime_eraseStore_of_ne {store other : ConnectionId}
    (found : server.find (server.fd store) = some store)
    (different : other ≠ store) :
    (server.eraseStore store).lifetime other = server.lifetime other := by
  simp [found, Ne.symm different]

theorem find_insertStore (store : ConnectionId) (number : Fd) :
    (server.insertStore store).find number =
      if number = server.fd store then some store
      else server.find number := by
  split
  · rename_i same
    rw [same]
    exact AList.lookup_insert _
  · rename_i different
    exact AList.lookup_insert_ne different

theorem find_eraseStore (store : ConnectionId) (number : Fd) :
    (server.eraseStore store).find number =
      if number = server.fd store then none else server.find number := by
  split
  · rename_i same
    rw [same]
    exact AList.lookup_erase _ _
  · rename_i different
    exact AList.lookup_erase_ne different

@[simp] theorem find_clearStores (number : Fd) :
    server.clearStores.find number = none := AList.lookup_empty _

theorem mem_ownedStores {store : ConnectionId} :
    store ∈ server.ownedStores ↔
      ∃ number, server.find number = some store := by
  simp only [ownedStores, List.mem_map, find]
  constructor
  · rintro ⟨⟨number, owned⟩, member, rfl⟩
    exact ⟨number, AList.mem_lookup_iff.mpr member⟩
  · rintro ⟨number, found⟩
    exact ⟨⟨number, store⟩, AList.mem_lookup_iff.mp found, rfl⟩

end Server

end EventPlus

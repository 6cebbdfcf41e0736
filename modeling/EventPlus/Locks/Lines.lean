/-
Module: EventPlus.Locks.Lines
Purpose: The functions that take a mutex, line by line, with the data they read
  and write: the server's, the scheduler's, the pollers', the pool's, and those
  of both socket handlers.
Trusted boundary: the replies of system and OpenSSL calls
Main exports:
  Locks.EventHandler, Locks.Mutex, Locks.Data, Locks.Line, Locks.Reply,
  Locks.line, Locks.entry, Locks.code
-/
import EventPlus.Handlers.SharedStore
import EventPlus.Handlers.TLSServerSocketHandler
import EventPlus.Library.LockOrder

namespace EventPlus

open Function (update)

namespace Locks

/-- A `SocketEventHandler`: `m_socketEventHandler` of the server, or one of
`m_socketEventHandlers` of the scheduler. -/
inductive EventHandler where
  | acceptor
  | poller (index : PollerId)
deriving Repr, Inhabited, DecidableEq

/-- The mutexes; all are `std::mutex`. -/
inductive Mutex where
  | clientEventStores
  | scheduler
  | poll (handler : EventHandler)
  | socket (store : ConnectionId)
  | certificate
  | queue
deriving Repr, Inhabited, DecidableEq

/-- The fields of `EventStorePointer` that decide which way a function goes. -/
structure Store where
  socketId : Fd
  socketEventHandler : Option EventHandler
  socketOperationHandler : Handler
  ssl : SSLPointer
deriving Repr, Inhabited, DecidableEq

/-- The shared fields.  A store is named by its address, and what is at an
address stays readable, whoever owns it.  `eventStore` is the server's own. -/
structure Data where
  serverSocketID : Int
  eventStore : Option ConnectionId
  socketOperationHandler : Handler
  numThreads : Nat
  currentIndex : Nat
  clientEventStores : List (Fd × ConnectionId)
  store : ConnectionId → Store
  tasks : List ConnectionId
  stop : Bool

def Data.setStore (data : Data) (address : ConnectionId) (store : Store) :
    Data :=
  { data with store := update data.store address store }

/-- The place of a frame in its function, with the function's locals.  The
constructor named after a function is its first line. -/
inductive Line where
  -- TcpServerSocket
  | handleIOEvent (listening : ConnectionId)
  | accept (listening : ConnectionId)
  | initNew (store : ConnectionId)
  | addNew (store : ConnectionId)
  | insertNew (store : ConnectionId)
  | enqueueNew (store : ConnectionId)
  | removeSocket (store : ConnectionId)
  | unregister (store : ConnectionId)
  | closeRemoved (store : ConnectionId) (clientSocketId : Fd)
  | enqueueRemoved (store : ConnectionId) (clientSocketId : Fd)
  | eraseRemoved (clientSocketId : Fd)
  | stopPolling
  | closeServer (store : ConnectionId)
  | stopThreads
  | closeAllClientSocket
  | iterate
  | closeClients (remaining : List ConnectionId)
  -- EventScheduler
  | schedule (store : ConnectionId)
  | nextIndex (store : ConnectionId)
  | delegate (index : PollerId) (store : ConnectionId)
  -- SocketEventHandler
  | addSocket (handler : EventHandler) (store : ConnectionId)
  | epollAdd (handler : EventHandler) (store : ConnectionId)
  | delSocket (handler : EventHandler) (store : ConnectionId)
  | epollDel (handler : EventHandler) (store : ConnectionId)
  -- ThreadPool
  | enqueueTask (store : ConnectionId)
  | emplace (store : ConnectionId)
  | dequeue
  | predicate
  | sleeping
  | woken
  | takeTask
  -- SSLCertificateHandler
  | getNewCertificate
  | sslNew
  -- the socket handlers
  | initConnection (handler : Handler) (store : ConnectionId)
  | handshake (store : ConnectionId)
  | closeConnection (store : ConnectionId)
  | tcp (store : ConnectionId) (request : Request)
  | tcpPlain (store : ConnectionId) (call : Call)
  | tcpLocked (store : ConnectionId) (call : Call)
  | tcpClose (store : ConnectionId)
  | tls (store : ConnectionId) (point : SharedStore.Point)
  -- the end of a scope, and of a function
  | unlock (mutex : Mutex)
  | returned
deriving Repr, Inhabited

/-- What a call outside the program comes back with.  `accepted` carries the
descriptor and the address of the store that is made for it. -/
inductive Reply where
  | proceed
  | failed
  | fcntl (isOpen : Bool)
  | accepted (fd : Fd) (store : ConnectionId)
  | handshake (outcome : Handshake)
  | syscall (result : SysResult)
  | sslRead (result : SSLReadResult)
  | sslWrite (result : Int)
deriving Repr, Inhabited

abbrev Step := Option (Locking.Instruction Data Line Mutex)

/-- A line that neither writes the shared data nor takes a mutex. -/
def Data.goto (data : Data) (next : Line) : Step := some (.goto data next)

/-! ## `TcpServerSocket` -/

/-- `handleIOEvent`.  It returns without a store when `accept` or `inet_ntop`
fails. -/
def handleIOEvent (data : Data) : Line → Reply → Step
  | .handleIOEvent listening, _ =>
      some (.lock .clientEventStores (.accept listening))
  | .accept _, .accepted fd store =>
      some
        (.goto
          (data.setStore store
            { socketId := fd
              socketEventHandler := none
              socketOperationHandler := data.socketOperationHandler
              ssl := (data.store store).ssl })
          (.initNew store))
  | .accept _, .failed => data.goto (.unlock .clientEventStores)
  | .initNew store, _ =>
      some
        (.call (.initConnection data.socketOperationHandler store)
          (.addNew store))
  | .addNew store, _ => some (.call (.schedule store) (.insertNew store))
  | .insertNew store, _ =>
      let fd := (data.store store).socketId
      some
        (.goto
          { data with
              clientEventStores :=
                (fd, store) ::
                  data.clientEventStores.filter fun entry => entry.1 ≠ fd }
          (.enqueueNew store))
  | .enqueueNew store, _ =>
      some (.call (.enqueueTask store) (.unlock .clientEventStores))
  | _, _ => none

/-- `removeSocket`. -/
def removeSocket (data : Data) : Line → Reply → Step
  | .removeSocket store, _ =>
      some (.lock .clientEventStores (.unregister store))
  | .unregister store, _ =>
      let clientSocketId := (data.store store).socketId
      match (data.store store).socketEventHandler with
      | some handler =>
          some
            (.call (.delSocket handler store)
              (.closeRemoved store clientSocketId))
      | none => data.goto (.enqueueRemoved store clientSocketId)
  | .closeRemoved store clientSocketId, _ =>
      some
        (.call (.closeConnection store)
          (.enqueueRemoved store clientSocketId))
  | .enqueueRemoved store clientSocketId, _ =>
      some (.call (.enqueueTask store) (.eraseRemoved clientSocketId))
  | .eraseRemoved clientSocketId, _ =>
      some
        (.goto
          { data with
              clientEventStores :=
                data.clientEventStores.filter fun entry =>
                  entry.1 ≠ clientSocketId }
          (.unlock .clientEventStores))
  | _, _ => none

/-- `stopPolling`, with `closeServerSocket` and `closeAllClientSocket`.  The
loops of `stopEventThread` in between write flags and close the epoll sets.  A
null `m_eventStore` is dereferenced. -/
def stopPolling (data : Data) : Line → Reply → Step
  | .stopPolling, .fcntl isOpen =>
      if data.serverSocketID ≠ -1 ∧ isOpen = true then
        data.eventStore.map fun store =>
          .call (.delSocket .acceptor store) (.closeServer store)
      else data.goto .stopThreads
  | .closeServer store, _ => some (.call (.closeConnection store) .stopThreads)
  | .stopThreads, _ => data.goto .closeAllClientSocket
  | .closeAllClientSocket, _ => some (.lock .clientEventStores .iterate)
  | .iterate, _ =>
      data.goto (.closeClients (data.clientEventStores.map (·.2)))
  | .closeClients (store :: rest), _ =>
      some (.call (.closeConnection store) (.closeClients rest))
  | .closeClients [], _ =>
      some
        (.goto { data with clientEventStores := [] }
          (.unlock .clientEventStores))
  | _, _ => none

/-! ## `EventScheduler`, `SocketEventHandler` and `ThreadPool` -/

/-- `EventScheduler::addSocket`.  Without threads the remainder has no defined
result. -/
def schedule (data : Data) : Line → Reply → Step
  | .schedule store, _ => some (.lock .scheduler (.nextIndex store))
  | .nextIndex store, _ =>
      if data.numThreads = 0 then none
      else
        let index := (data.currentIndex + 1) % data.numThreads
        some (.goto { data with currentIndex := index } (.delegate index store))
  | .delegate index store, _ =>
      some (.call (.addSocket (.poller index) store) (.unlock .scheduler))
  | _, _ => none

/-- `SocketEventHandler::addSocket` and `SocketEventHandler::removeSocket`. -/
def socketEventHandler (data : Data) : Line → Reply → Step
  | .addSocket handler store, _ =>
      some (.lock (.poll handler) (.epollAdd handler store))
  | .epollAdd handler store, .proceed =>
      some
        (.goto
          (data.setStore store
            { data.store store with socketEventHandler := some handler })
          (.unlock (.poll handler)))
  | .epollAdd handler _, .failed => data.goto (.unlock (.poll handler))
  | .delSocket handler store, _ =>
      some (.lock (.poll handler) (.epollDel handler store))
  | .epollDel handler _, _ => data.goto (.unlock (.poll handler))
  | _, _ => none

/-- `enqueueTask`, and one round of `workerThread` up to `execute`.  `wait`
gives the mutex back while the thread sleeps, and a thread may wake for no
reason. -/
def threadPool (data : Data) : Line → Reply → Step
  | .enqueueTask store, _ => some (.lock .queue (.emplace store))
  | .emplace store, _ =>
      some
        (.goto { data with tasks := data.tasks ++ [store] } (.unlock .queue))
  | .dequeue, _ => some (.lock .queue .predicate)
  | .predicate, _ =>
      if data.stop = true ∨ data.tasks ≠ [] then data.goto .takeTask
      else some (.unlock .queue .sleeping)
  | .sleeping, _ => data.goto .woken
  | .woken, _ => some (.lock .queue .predicate)
  | .takeTask, _ =>
      if data.stop = true ∧ data.tasks = [] then data.goto (.unlock .queue)
      else
        some (.goto { data with tasks := data.tasks.tail } (.unlock .queue))
  | _, _ => none

/-! ## The socket handlers -/

/-- `getNewCertificate`, and the `initConnection` of both handlers. -/
def initConnection (data : Data) : Line → Reply → Step
  | .getNewCertificate, _ => some (.lock .certificate .sslNew)
  | .sslNew, _ => data.goto (.unlock .certificate)
  | .initConnection .tcp _, _ => data.goto .returned
  | .initConnection .tls store, _ =>
      if (data.store store).ssl = .null then data.goto .returned
      else some (.call .getNewCertificate (.handshake store))
  | .handshake store, .handshake outcome =>
      let before := data.store store
      let result := TLSServerSocketHandler.initConnection before.ssl outcome
      some
        (.goto (data.setStore store { before with ssl := result.ssl })
          .returned)
  | _, _ => none

/-- `closeConnection` through the base pointer of the store. -/
def closeConnection (data : Data) : Line → Reply → Step
  | .closeConnection store, _ =>
      match (data.store store).socketOperationHandler with
      | .tcp => data.goto (.tcpClose store)
      | .tls => data.goto (.tls store (.test .closeConnection))
  | _, _ => none

/-- The TCP handler.  `sendData` and `receiveData` lock; `receiveData` runs
`getAvailableDataInSocket` and `receivePartialData`, which do not, inside its
scope. -/
def tcpHandler (data : Data) : Line → Reply → Step
  | .tcp store request, _ =>
      let call := Handler.start .tcp (data.store store).ssl request
      match request with
      | .sendData _ | .receiveData =>
          some (.lock (.socket store) (.tcpLocked store call))
      | .receivePartialData _ | .getAvailableDataInSocket =>
          data.goto (.tcpPlain store call)
  | .tcpPlain store call, reply =>
      match call.syscall, reply with
      | some syscall, .syscall result =>
          if syscall.admits result then
            data.goto (.tcpPlain store (call.resume result))
          else none
      | some _, _ => none
      | none, _ => data.goto .returned
  | .tcpLocked store call, reply =>
      match call.syscall, reply with
      | some syscall, .syscall result =>
          if syscall.admits result then
            data.goto (.tcpLocked store (call.resume result))
          else none
      | some _, _ => none
      | none, _ => data.goto (.unlock (.socket store))
  | .tcpClose _, _ => data.goto .returned
  | _, _ => none

/-- The TLS handler. -/
def tlsHandler (data : Data) : Line → Reply → Step
  | .tls _ .outside, _ => none
  | .tls store (.test operation), _ =>
      if (data.store store).ssl = .null then data.goto .returned
      else data.goto (.tls store (.lock operation))
  | .tls store (.lock operation), _ =>
      some (.lock (.socket store) (.tls store operation.entry))
  | .tls store (.write _), .sslWrite result =>
      data.goto (.tls store (.unlock (some result) []))
  | .tls store (.read reading), .sslRead result =>
      if reading.admits result then
        (reading.next result).bind fun point => data.goto (.tls store point)
      else none
  | .tls store .copy, _ =>
      data.goto (.tls store (.shutdown (data.store store).ssl))
  | .tls store (.shutdown pSSL), _ => data.goto (.tls store (.close pSSL))
  | .tls store (.close pSSL), _ => data.goto (.tls store (.free pSSL))
  | .tls store (.free _), _ => data.goto (.tls store .setNull)
  | .tls store .setNull, _ =>
      some
        (.goto (data.setStore store { data.store store with ssl := .null })
          (.tls store (.unlock none [])))
  | .tls store (.unlock _ _), _ => some (.unlock (.socket store) .returned)
  | _, _ => none

/-! ## All of it -/

/-- The function a line belongs to takes it. -/
def line (data : Data) (at_line : Line) (reply : Reply) : Step :=
  match at_line with
  | .handleIOEvent _ | .accept _ | .initNew _ | .addNew _ | .insertNew _
  | .enqueueNew _ => handleIOEvent data at_line reply
  | .removeSocket _ | .unregister _ | .closeRemoved _ _ | .enqueueRemoved _ _
  | .eraseRemoved _ => removeSocket data at_line reply
  | .stopPolling | .closeServer _ | .stopThreads | .closeAllClientSocket
  | .iterate | .closeClients _ => stopPolling data at_line reply
  | .schedule _ | .nextIndex _ | .delegate _ _ => schedule data at_line reply
  | .addSocket _ _ | .epollAdd _ _ | .delSocket _ _ | .epollDel _ _ =>
      socketEventHandler data at_line reply
  | .enqueueTask _ | .emplace _ | .dequeue | .predicate | .sleeping | .woken
  | .takeTask => threadPool data at_line reply
  | .getNewCertificate | .sslNew | .initConnection _ _ | .handshake _ =>
      initConnection data at_line reply
  | .closeConnection _ => closeConnection data at_line reply
  | .tcp _ _ | .tcpPlain _ _ | .tcpLocked _ _ | .tcpClose _ =>
      tcpHandler data at_line reply
  | .tls _ _ => tlsHandler data at_line reply
  | .unlock mutex => some (.unlock mutex .returned)
  | .returned => some .ret

/-- What a thread may call: the server's and the scheduler's functions, those
of a poller and of the pool, and the data operations and `closeConnection` of
both handlers. -/
def entry : Line → Bool
  | .handleIOEvent _ | .removeSocket _ | .stopPolling | .schedule _
  | .addSocket _ _ | .delSocket _ _ | .enqueueTask _ | .dequeue
  | .getNewCertificate | .closeConnection _ | .tcp _ _ | .tcpClose _
  | .tls _ (.test _) => true
  | _ => false

def code : Locking.Code Data Line Mutex Reply where
  entry := entry
  line := line

end Locks

end EventPlus

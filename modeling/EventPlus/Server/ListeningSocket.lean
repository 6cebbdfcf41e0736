/-
Module: EventPlus.Server.ListeningSocket
Purpose: `TcpServerSocket::createServerSocketAndStartReceiving` on a new server,
  with every outcome of the calls below it and what each failure leaves behind.
Trusted boundary: none
Main exports:
  ServerOutcomes, AcceptSide, SocketHandler.createServerSocket,
  AcceptSide.addSocket, AcceptSide.createServerSocketAndStartReceiving,
  AcceptSide.lifecycle_agrees, AcceptSide.startsOrFails_iff
-/
import EventPlus.Kernel.SocketTable
import EventPlus.Server.ThreadHandles

namespace EventPlus

/-! ## The accept side of a server -/

/-- What the calls answer: `socket`, `bind`, `listen`, `epoll_ctl`, and the
constructor of `std::thread`. -/
structure ServerOutcomes where
  socket : Bool
  bind : Bool
  listen : Bool
  epollCtl : Bool
  thread : Bool
deriving Repr, Inhabited, DecidableEq

/-- The fields of `m_socketDetails` that `createServerSocket` assigns. -/
structure ServerDetails where
  socketId : Int
  sinPort : BitVec 16
  sinAddr : BitVec 32
deriving Repr, Inhabited, DecidableEq

/-- The members of a `TcpServerSocket` for its listening socket, and the
kernel's side of them.  `listening` holds the sockets on which `listen` has
succeeded, `epollSet` those in the set of the accept poller, and the stores's
`m_socketEventHandler` is set when `registered`. -/
structure AcceptSide where
  serverIP : String
  serverPort : Int
  socketDetails : ServerDetails
  eventStore : Option (ServerDetails × Bool)
  socketEventHandler : EventHandlerThread
  host : Host
  listening : List Nat
  epollSet : List Nat

/-- `htons`, on a machine that stores the low byte first. -/
def htons (value : BitVec 16) : BitVec 16 :=
  value.extractLsb' 0 8 ++ value.extractLsb' 8 8

/-- `createServerSocket`, with its exception as an error.  `serverPort` is the
number that `std::to_string` and `atoi` pass on. -/
def SocketHandler.createServerSocket (numbering : Numbering)
    (inetAddr : String → BitVec 32) (outcomes : ServerOutcomes)
    (serverIP : String) (serverPort : Int) (side : AcceptSide) :
    Except String Int × AcceptSide :=
  let opened := side.host.socket numbering 2 1 0 outcomes.socket
  if opened.1 < 0 then
    (.error "Failed to create socket", { side with host := opened.2 })
  else
    let details : ServerDetails :=
      { socketId := opened.1
        sinPort := htons (BitVec.ofInt 16 serverPort)
        sinAddr := inetAddr serverIP }
    let bound := opened.2.call (.bind opened.1 details.sinPort details.sinAddr)
    if outcomes.bind = false then
      (.error "Failed to bind socket to port",
        { side with socketDetails := details, host := bound.close opened.1 })
    else
      let listened := bound.call (.listen opened.1)
      if outcomes.listen = false then
        (.error "Failed to listen on socket",
          { side with
              socketDetails := details
              host := listened.close opened.1 })
      else
        (.ok opened.1,
          { side with
              socketDetails := details
              listening :=
                (listened.sockets.denotes opened.1).toList ++
                  side.listening
              host := listened.call (.setNonBlocking opened.1) })

/-- How `createServerSocketAndStartReceiving` ends. -/
inductive StartResult where
  | returned (value : Bool)
  | threw (what : String)
  | terminated
deriving Repr, Inhabited, DecidableEq

namespace AcceptSide

/-- The constructor, with the result of `epoll_create` and what
`m_socketDetails` happens to hold. -/
def construct (serverIP : String) (serverPort : Int)
    (socketDetails : ServerDetails) (epollCreated : Bool) : AcceptSide where
  serverIP := serverIP
  serverPort := serverPort
  socketDetails := socketDetails
  eventStore := none
  socketEventHandler := .construct epollCreated
  host := .empty
  listening := []
  epollSet := []

/-- `m_socketEventHandler.addSocket(m_eventStore.get())`.  `epoll_ctl` fails
with `EBADF` when the epoll or the socket is not open. -/
def addSocket (side : AcceptSide) (granted : Bool) : Bool × AcceptSide :=
  match side.eventStore with
  | none => (false, side)
  | some (details, _) =>
      match side.host.sockets.denotes details.socketId with
      | none => (false, side)
      | some socket =>
          if side.socketEventHandler.epollOpen && granted then
            (true,
              { side with
                  eventStore := some (details, true)
                  epollSet := socket :: side.epollSet })
          else (false, side)

/-- The call of `createServerSocket`, for the server's own address. -/
def createServerSocket (numbering : Numbering)
    (inetAddr : String → BitVec 32) (outcomes : ServerOutcomes)
    (side : AcceptSide) : Except String Int × AcceptSide :=
  SocketHandler.createServerSocket numbering inetAddr outcomes side.serverIP
    side.serverPort side

/-- `createServerSocketAndStartReceiving`.  The result of `addSocket` is
dropped. -/
def createServerSocketAndStartReceiving (numbering : Numbering)
    (inetAddr : String → BitVec 32) (outcomes : ServerOutcomes)
    (side : AcceptSide) : StartResult × AcceptSide :=
  match side.createServerSocket numbering inetAddr outcomes with
  | (.error what, failed) => (.threw what, failed)
  | (.ok socketId, made) =>
      if socketId < 0 then (.returned false, made)
      else
        let stored :=
          { made with eventStore := some (made.socketDetails, false) }
        let added := (stored.addSocket outcomes.epollCtl).2
        if outcomes.thread then
          let started := added.socketEventHandler.startEventReceiverThread
          let after := { added with socketEventHandler := started.1 }
          match started.2 with
          | .terminated => (.terminated, after)
          | _ => (.returned true, after)
        else (.threw "Resource temporarily unavailable", added)

/-- A listening descriptor is open and in the epoll set, and the accept thread
has been started. -/
structure Receiving (side : AcceptSide) : Prop where
  registered : ∃ fd socket, side.host.sockets.denotes fd = some socket ∧
    socket ∈ side.listening ∧ socket ∈ side.epollSet
  started : side.socketEventHandler.eventHandlerThread =
    some { joinable := true }

/-- The call returns true exactly when the server receives; in every other case
it returns false, and has left no descriptor open and started no thread. -/
structure StartsOrFails (outcome : StartResult × AcceptSide) : Prop where
  returnsTrue : outcome.1 = .returned true ↔ outcome.2.Receiving
  returnsFalse : outcome.1 ≠ .returned true →
    outcome.1 = .returned false ∧
      outcome.2.host.sockets.ledger.live = [] ∧
      outcome.2.socketEventHandler.eventHandlerThread = none

/-! ## The listening socket -/

section CreateServerSocket

variable (numbering : Numbering) (inetAddr : String → BitVec 32)
  {outcomes : ServerOutcomes} (side : AcceptSide)

/-- Any of the three failures is an exception. -/
theorem createServerSocket_error
    (fails : (outcomes.socket && outcomes.bind && outcomes.listen) = false) :
    ∃ what, (side.createServerSocket numbering inetAddr outcomes).1 =
      .error what := by
  unfold createServerSocket SocketHandler.createServerSocket
  cases socket : outcomes.socket with
  | false => exact ⟨_, rfl⟩
  | true =>
      rw [Host.socket_created]
      dsimp only
      rw [if_neg (Int.not_lt.mpr (Int.natCast_nonneg _))]
      cases bind : outcomes.bind with
      | false => exact ⟨_, rfl⟩
      | true =>
          have listen : outcomes.listen = false := by
            simpa [socket, bind] using fails
          rw [listen]
          exact ⟨_, rfl⟩

/-- Without a failure there is one new socket, and it listens. -/
theorem createServerSocket_ok
    (succeeds : (outcomes.socket && outcomes.bind && outcomes.listen) =
      true) :
    ∃ made, side.createServerSocket numbering inetAddr outcomes =
        (.ok (numbering.next side.host.sockets), made) ∧
      made.host.sockets.denotes made.socketDetails.socketId =
        some side.host.sockets.ledger.made ∧
      made.listening = side.host.sockets.ledger.made :: side.listening ∧
      made.epollSet = side.epollSet := by
  simp only [Bool.and_eq_true] at succeeds
  obtain ⟨⟨socket, bind⟩, listen⟩ := succeeds
  unfold createServerSocket SocketHandler.createServerSocket
  rw [socket, Host.socket_created]
  dsimp only
  rw [if_neg (Int.not_lt.mpr (Int.natCast_nonneg _)), bind, listen]
  refine ⟨_, rfl, Host.denotes_allocated, ?_, rfl⟩
  change (SocketTable.denotes (side.host.allocated numbering) _).toList ++ _ =
    _
  rw [Host.denotes_allocated]
  rfl

/-- The store and the accept thread are not touched. -/
theorem createServerSocket_frame (outcomes : ServerOutcomes) :
    (side.createServerSocket numbering inetAddr outcomes).2.eventStore =
        side.eventStore ∧
      (side.createServerSocket numbering inetAddr
        outcomes).2.socketEventHandler = side.socketEventHandler := by
  unfold createServerSocket SocketHandler.createServerSocket
  dsimp only
  split
  · exact ⟨rfl, rfl⟩
  · split
    · exact ⟨rfl, rfl⟩
    · split <;> exact ⟨rfl, rfl⟩

end CreateServerSocket

/-! ## The start -/

section Start

variable {numbering : Numbering} {inetAddr : String → BitVec 32}
  {outcomes : ServerOutcomes} {side : AcceptSide}

/-- `addSocket` changes neither the sockets nor the thread. -/
theorem addSocket_frame (side : AcceptSide) (granted : Bool) :
    (side.addSocket granted).2.socketEventHandler = side.socketEventHandler ∧
      (side.addSocket granted).2.host = side.host ∧
      (side.addSocket granted).2.listening = side.listening := by
  unfold addSocket
  split
  · exact ⟨rfl, rfl, rfl⟩
  · split
    · exact ⟨rfl, rfl, rfl⟩
    · split <;> exact ⟨rfl, rfl, rfl⟩

@[simp] theorem addSocket_socketEventHandler (granted : Bool) :
    (side.addSocket granted).2.socketEventHandler =
      side.socketEventHandler :=
  (side.addSocket_frame granted).1

/-- An open socket is in the set afterwards when the epoll is open and
`epoll_ctl` grants it. -/
theorem addSocket_epollSet {details : ServerDetails} {registered : Bool}
    {socket : Nat} (stored : side.eventStore = some (details, registered))
    (denotes : side.host.sockets.denotes details.socketId = some socket)
    (granted : Bool) :
    (side.addSocket granted).2.epollSet =
      if side.socketEventHandler.epollOpen && granted then
        socket :: side.epollSet
      else side.epollSet := by
  unfold addSocket
  rw [stored]
  dsimp only
  rw [denotes]
  dsimp only
  split <;> rfl

@[simp] theorem addSocket_eventStore_isSome (granted : Bool) :
    (side.addSocket granted).2.eventStore.isSome =
      side.eventStore.isSome := by
  unfold addSocket
  split
  · rfl
  · split
    · rfl
    · split
      · simp [*]
      · rfl

/-- The model of the thread handles sees the same store and the same thread,
where it is told whether the socket could be made. -/
theorem lifecycle_agrees {server : Lifecycle}
    (store : server.eventStore = side.eventStore.isSome)
    (handler : server.socketEventHandler = side.socketEventHandler) :
    (server.createServerSocketAndStartReceiving
        (outcomes.socket && outcomes.bind && outcomes.listen)
        outcomes.thread).eventStore =
      (side.createServerSocketAndStartReceiving numbering inetAddr
        outcomes).2.eventStore.isSome ∧
    (server.createServerSocketAndStartReceiving
        (outcomes.socket && outcomes.bind && outcomes.listen)
        outcomes.thread).socketEventHandler =
      (side.createServerSocketAndStartReceiving numbering inetAddr
        outcomes).2.socketEventHandler := by
  obtain ⟨sameStore, sameHandler⟩ :=
    side.createServerSocket_frame numbering inetAddr outcomes
  unfold createServerSocketAndStartReceiving
  generalize result : side.createServerSocket numbering inetAddr outcomes =
    called at sameStore sameHandler ⊢
  obtain ⟨ending, made⟩ := called
  dsimp only at sameStore sameHandler
  cases bound : outcomes.socket && outcomes.bind && outcomes.listen with
  | false =>
      obtain ⟨what, failed⟩ :=
        side.createServerSocket_error numbering inetAddr bound
      rw [result] at failed
      rw [show ending = .error what from failed]
      exact ⟨by rw [sameStore]; exact store, by rw [sameHandler]; exact handler⟩
  | true =>
      obtain ⟨after, created, -⟩ :=
        side.createServerSocket_ok numbering inetAddr bound
      rw [result] at created
      cases created
      dsimp only
      rw [if_neg (Int.not_lt.mpr (Int.natCast_nonneg _))]
      unfold Lifecycle.createServerSocketAndStartReceiving
      cases thread : outcomes.thread with
      | false => simp [sameHandler, handler]
      | true =>
          simp only [if_true, addSocket_socketEventHandler, sameHandler,
            handler]
          cases side.socketEventHandler.startEventReceiverThread.2 <;>
            simp [Lifecycle.endsWith]

/-- An exception breaks the contract. -/
theorem not_startsOrFails_of_threw {outcome : StartResult × AcceptSide}
    {what : String} (threw : outcome.1 = .threw what) :
    ¬StartsOrFails outcome := by
  intro contract
  have returned := (contract.returnsFalse (by simp [threw])).1
  rw [threw] at returned
  cases returned

/-- A call that returns true after `addSocket` has failed breaks it as well. -/
theorem startsOrFails_iff_registered {after : AcceptSide} {fd : Int}
    {socket : Nat}
    (denotes : after.host.sockets.denotes fd = some socket)
    (listening : after.listening = [socket])
    (started : after.socketEventHandler.eventHandlerThread =
      some { joinable := true }) :
    StartsOrFails (.returned true, after) ↔ socket ∈ after.epollSet := by
  constructor
  · intro contract
    obtain ⟨-, other, -, listens, registered⟩ :=
      (contract.returnsTrue.mp rfl).registered
    rw [listening, List.mem_singleton] at listens
    exact listens ▸ registered
  · intro registered
    constructor
    · refine iff_of_true rfl ⟨⟨fd, socket, denotes, ?_, registered⟩, started⟩
      rw [listening]
      exact List.mem_singleton_self socket
    · intro other
      exact absurd rfl other

/-- The store and `addSocket` for a new listening socket, then the thread. -/
theorem startsOrFails_start_iff {made : AcceptSide} {socket : Nat}
    {epollCreated : Bool}
    (denotes : made.host.sockets.denotes made.socketDetails.socketId =
      some socket)
    (listening : made.listening = [socket]) (unregistered : made.epollSet = [])
    (unstarted : made.socketEventHandler = .construct epollCreated)
    {stored : AcceptSide}
    (stores : stored =
      { made with eventStore := some (made.socketDetails, false) })
    (granted : Bool) :
    StartsOrFails
        (.returned true,
          { (stored.addSocket granted).2 with
              socketEventHandler := ((stored.addSocket
                granted).2.socketEventHandler.startEventReceiverThread).1 }) ↔
      epollCreated = true ∧ granted = true := by
  obtain ⟨handler, host, listens⟩ := stored.addSocket_frame granted
  have denoted : (stored.addSocket granted).2.host.sockets.denotes
      made.socketDetails.socketId = some socket := by
    rw [host, stores]
    exact denotes
  have listened : (stored.addSocket granted).2.listening = [socket] := by
    rw [listens, stores]
    exact listening
  have registered : (stored.addSocket granted).2.epollSet =
      if epollCreated && granted then [socket] else [] := by
    rw [addSocket_epollSet (by rw [stores]) (by rw [stores]; exact denotes),
      stores]
    dsimp only
    rw [unstarted, unregistered]
    rfl
  refine Iff.trans (startsOrFails_iff_registered denoted listened rfl) ?_
  change socket ∈ (stored.addSocket granted).2.epollSet ↔ _
  rw [registered]
  cases epollCreated <;> cases granted <;> simp

/-- On a new server the call is all or nothing exactly when none of the calls
below it fails.  A failure of `socket`, `bind` or `listen` is thrown past the
check of a negative descriptor, and one of the epoll goes unnoticed. -/
theorem startsOrFails_iff (numbering : Numbering)
    (inetAddr : String → BitVec 32) (outcomes : ServerOutcomes)
    (serverIP : String) (serverPort : Int) (socketDetails : ServerDetails)
    (epollCreated : Bool) :
    StartsOrFails
        ((construct serverIP serverPort socketDetails
          epollCreated).createServerSocketAndStartReceiving numbering inetAddr
            outcomes) ↔
      outcomes.socket = true ∧ outcomes.bind = true ∧
        outcomes.listen = true ∧ epollCreated = true ∧
        outcomes.epollCtl = true ∧ outcomes.thread = true := by
  generalize fresh :
    construct serverIP serverPort socketDetails epollCreated = side
  obtain ⟨-, sameHandler⟩ :=
    side.createServerSocket_frame numbering inetAddr outcomes
  unfold createServerSocketAndStartReceiving
  cases bound : outcomes.socket && outcomes.bind && outcomes.listen with
  | false =>
      obtain ⟨what, failed⟩ :=
        side.createServerSocket_error numbering inetAddr bound
      generalize side.createServerSocket numbering inetAddr outcomes =
        called at failed ⊢
      obtain ⟨ending, made⟩ := called
      rw [show ending = .error what from failed]
      refine iff_of_false (not_startsOrFails_of_threw rfl) ?_
      rintro ⟨socket, bind, listen, -⟩
      simp [socket, bind, listen] at bound
  | true =>
      obtain ⟨made, created, denotes, listening, epollSet⟩ :=
        side.createServerSocket_ok numbering inetAddr bound
      simp only [Bool.and_eq_true] at bound
      obtain ⟨⟨socket, bind⟩, listen⟩ := bound
      rw [created] at sameHandler ⊢
      rw [← fresh] at sameHandler denotes listening epollSet
      dsimp only at sameHandler ⊢
      rw [if_neg (Int.not_lt.mpr (Int.natCast_nonneg _))]
      cases thread : outcomes.thread with
      | false =>
          refine iff_of_false (not_startsOrFails_of_threw rfl) ?_
          rintro ⟨-, -, -, -, -, ⟨⟩⟩
      | true =>
          have started := startsOrFails_start_iff denotes listening epollSet
            sameHandler rfl outcomes.epollCtl
          simp only [socket, bind, listen, true_and, and_true, ← started,
            addSocket_socketEventHandler, sameHandler]
          exact Iff.rfl

end Start

/-- A start on port 8089 with these outcomes. -/
def startWith (outcomes : ServerOutcomes) : StartResult × AcceptSide :=
  (construct "127.0.0.1" 8089
    default true).createServerSocketAndStartReceiving (.lowestFrom 3)
      (fun _ => 0x0100007f) outcomes

/-- The port is taken. -/
def bindFails : ServerOutcomes := ⟨true, false, true, true, true⟩

/-- The kernel is out of memory for the epoll set. -/
def epollCtlFails : ServerOutcomes := ⟨true, true, true, false, true⟩

/-- When the port is taken the call throws, and when `epoll_ctl` fails it
returns true for a socket that is not in the set. -/
theorem createServerSocketAndStartReceiving_breaks_contract :
    ¬(∀ outcomes, StartsOrFails (startWith outcomes)) ∧
    (startWith bindFails).1 = .threw "Failed to bind socket to port" ∧
    (startWith epollCtlFails).1 = .returned true ∧
    (startWith epollCtlFails).2.epollSet = [] := by
  have thrown :
      (startWith bindFails).1 = .threw "Failed to bind socket to port" := by
    decide
  refine ⟨?_, thrown, by decide, by decide⟩
  intro always
  exact not_startsOrFails_of_threw thrown (always bindFails)

end AcceptSide

end EventPlus

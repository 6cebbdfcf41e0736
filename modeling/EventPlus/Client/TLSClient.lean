/-
Module: EventPlus.Client.TLSClient
Purpose: The methods of `TLSClient` in any order and with any outcomes, and the
  orders in which no method follows a null pointer.
Trusted boundary: the behaviour of OpenSSL described here
Main exports:
  ClientFault, TLSClient, ClientCall, TLSClient.step, TLSClient.lifetime,
  Holdings, holdings, Holdings.InOrder, TLSClient.Tracks,
  TLSClient.lifetime_ok_iff
-/
import EventPlus.Client.ClientSockets
import EventPlus.Library.Simulation

namespace EventPlus

/-! ## The client -/

/-- What has no defined result: following a null `m_clientSocket`, and passing a
null or freed `SSL` to OpenSSL. -/
inductive ClientFault where
  | nullClientSocket
  | nullSSL
  | freedSSL
deriving Repr, Inhabited, DecidableEq

/-- The fields of the `EventStorePointer` that `Connect` makes. -/
structure ClientStore where
  socketId : Int
  ssl : Option Nat
deriving Repr, Inhabited, DecidableEq

/-- A `TLSClient`: `m_ctx`, `m_socketDetails.m_socketId` and `m_clientSocket`,
and beside them the contexts, sessions and sockets it has made. -/
structure TLSClient where
  ctx : Option Nat
  socketId : Int
  clientSocket : Option ClientStore
  contexts : Ledger
  sessions : Ledger
  host : Host

namespace TLSClient

/-- The constructor.  `m_socketId` holds what happens to be there. -/
def construct (socketId : Int) : TLSClient where
  ctx := none
  socketId := socketId
  clientSocket := none
  contexts := .empty
  sessions := .empty
  host := .empty

/-- `m_clientSocket->`. -/
def dereference (client : TLSClient) : Except ClientFault ClientStore :=
  match client.clientSocket with
  | none => .error .nullClientSocket
  | some store => .ok store

/-- A function of OpenSSL gets this pointer. -/
def useSSL (client : TLSClient) (ssl : Option Nat) : Except ClientFault Nat :=
  match ssl with
  | none => .error .nullSSL
  | some session =>
      if session ∈ client.sessions.live then .ok session
      else .error .freedSSL

/-- `InitCTX`, with what `SSL_CTX_new` answers. -/
def initCTX (client : TLSClient) (contextCreated : Bool) : TLSClient :=
  if contextCreated then
    { client with
        ctx := some client.contexts.made
        contexts := client.contexts.make }
  else { client with ctx := none }

/-- `Init`. -/
def init (client : TLSClient) (contextCreated : Bool) : Bool × TLSClient :=
  let made := client.initCTX contextCreated
  (made.ctx.isSome, made)

/-- `make_unique<EventStorePointer>` and `SSL_new(m_ctx)`, which is null for a
null context. -/
def newSession (client : TLSClient) (sslCreated : Bool) : TLSClient :=
  if client.ctx.isSome && sslCreated then
    { client with
        clientSocket := some
          { socketId := client.socketId
            ssl := some client.sessions.made }
        sessions := client.sessions.make }
  else
    { client with
        clientSocket := some { socketId := client.socketId, ssl := none } }

/-- The rest of `Connect`, with `SSL_set_fd` and what `SSL_connect` answers. -/
def handshake (client : TLSClient) (sslConnected : Bool) :
    Except ClientFault (Bool × TLSClient) := do
  let store ← client.dereference
  if store.ssl.isNone then
    return (false, client)
  let _ ← client.useSSL store.ssl
  return (sslConnected, client)

/-- `Connect`, with the addresses of `getaddrinfo` and what `SSL_new` and
`SSL_connect` answer. -/
def connect (numbering : Numbering) (client : TLSClient)
    (addrs : Option (List Attempt)) (sslCreated sslConnected : Bool) :
    Except ClientFault (Bool × TLSClient) :=
  let created := createSocket numbering addrs client.socketId client.host
  let opened := { client with socketId := created.2.1, host := created.2.2 }
  if created.1 then (opened.newSession sslCreated).handshake sslConnected
  else .ok (false, opened)

/-- `m_clientSocket->m_SSL` is passed to OpenSSL. -/
def useSession (client : TLSClient) : Except ClientFault Nat := do
  let store ← client.dereference
  client.useSSL store.ssl

/-- `SendData`, with the result of `SSL_write`. -/
def sendData (client : TLSClient) (written : Int) : Except ClientFault Int :=
  client.useSession.map fun _ => written

/-- `ReceiveData`, with what `SSL_read` delivers, nothing where it fails.  The
constructor of `data` throws for a negative size, which is `none`. -/
def receiveData (client : TLSClient) (size : Int) (read : List UInt8) :
    Except ClientFault (Option (List UInt8)) :=
  if size < 0 then .ok none
  else client.useSession.map fun _ => some (read.take size.toNat)

/-- The first block of `Close`, with `SSL_shutdown` and `SSL_free`. -/
def freeSSL (client : TLSClient) : Except ClientFault TLSClient := do
  let store ← client.dereference
  if store.ssl.isNone then
    return client
  let session ← client.useSSL store.ssl
  return { client with
    clientSocket := some { store with ssl := none }
    sessions := client.sessions.release session }

/-- The second block of `Close`. -/
def closeSocket (client : TLSClient) : TLSClient :=
  if client.socketId ≠ -1 then
    { client with
        socketId := -1
        host := client.host.close client.socketId }
  else client

/-- The third block of `Close`. -/
def freeCTX (client : TLSClient) : TLSClient :=
  match client.ctx with
  | none => client
  | some context =>
      { client with
          ctx := none
          contexts := client.contexts.release context }

/-- `Close`. -/
def close (client : TLSClient) : Except ClientFault TLSClient :=
  client.freeSSL.map fun freed => freed.closeSocket.freeCTX

/-- `~TLSClient`. -/
def destruct (client : TLSClient) : Except ClientFault TLSClient :=
  client.close

end TLSClient

/-- A call of a public method, with what the calls below it answer. -/
inductive ClientCall where
  | init (contextCreated : Bool)
  | connect (addrs : Option (List Attempt)) (sslCreated sslConnected : Bool)
  | sendData (written : Int)
  | receiveData (size : Int) (read : List UInt8)
  | close
deriving Repr, Inhabited, DecidableEq

namespace TLSClient

/-- What a call leaves behind. -/
def step (numbering : Numbering) (client : TLSClient) :
    ClientCall → Except ClientFault TLSClient
  | .init contextCreated => .ok (client.init contextCreated).2
  | .connect addrs sslCreated sslConnected =>
      (client.connect numbering addrs sslCreated sslConnected).map (·.2)
  | .sendData written => (client.sendData written).map fun _ => client
  | .receiveData size read =>
      (client.receiveData size read).map fun _ => client
  | .close => client.close

/-- A client from its construction to its destruction. -/
def lifetime (numbering : Numbering) (socketId : Int)
    (calls : List ClientCall) : Except ClientFault TLSClient := do
  let last ← calls.foldlM (step numbering) (construct socketId)
  last.destruct

end TLSClient

/-! ## What the client holds -/

/-- What a client holds, as its calls and their outcomes alone tell: a context,
a store, a session in the store, and a socket. -/
structure Holdings where
  context : Bool
  store : Bool
  session : Bool
  socket : Bool
deriving Repr, Inhabited, DecidableEq

/-- There is an address to attempt. -/
def attemptsAddress : Option (List Attempt) → Bool
  | some (_ :: _) => true
  | _ => false

/-- Some attempt succeeds. -/
def getsSocket (addrs : Option (List Attempt)) : Bool :=
  addrs.any fun attempts => attempts.any Attempt.succeeds

namespace Holdings

def nothing : Holdings where
  context := false
  store := false
  session := false
  socket := false

/-- What is held after a call.  `Close` leaves the store. -/
def after (held : Holdings) : ClientCall → Holdings
  | .init contextCreated => { held with context := contextCreated }
  | .connect addrs sslCreated _ =>
      if getsSocket addrs then
        { held with
            store := true
            session := held.context && sslCreated
            socket := true }
      else if attemptsAddress addrs then { held with socket := false }
      else held
  | .sendData _ => held
  | .receiveData _ _ => held
  | .close =>
      { held with
          context := false
          session := false
          socket := false }

/-- What a call needs: a store to close, a session to use.  `ReceiveData` with
a negative size throws before it uses one. -/
def InOrder (held : Holdings) : ClientCall → Prop
  | .init _ => True
  | .connect _ _ _ => True
  | .sendData _ => held.session = true
  | .receiveData size _ => 0 ≤ size → held.session = true
  | .close => held.store = true

end Holdings

/-- The calls on a client that holds nothing at first. -/
def holdings : TransitionSystem Holdings ClientCall :=
  .total .nothing .after

namespace TLSClient

/-! ## Three owners -/

def contextOwner (client : TLSClient) : Owner where
  ledger := client.contexts
  pointer := client.ctx

def sessionOwner (client : TLSClient) : Owner where
  ledger := client.sessions
  pointer := client.clientSocket.bind ClientStore.ssl

def socketOwner (client : TLSClient) : Owner where
  ledger := client.host.sockets.ledger
  pointer := client.host.sockets.denotes client.socketId

section Owners

variable {client : TLSClient}

theorem contextOwner_initCTX (contextCreated : Bool) :
    (client.initCTX contextCreated).contextOwner =
      client.contextOwner.assign contextCreated := by
  cases contextCreated <;> rfl

/-- `InitCTX` leaves the store and the socket alone. -/
theorem initCTX_frame (client : TLSClient) (contextCreated : Bool) :
    (client.initCTX contextCreated).clientSocket = client.clientSocket ∧
      (client.initCTX contextCreated).sessionOwner = client.sessionOwner ∧
      (client.initCTX contextCreated).socketOwner = client.socketOwner ∧
      (client.initCTX contextCreated).socketId = client.socketId := by
  cases contextCreated <;> exact ⟨rfl, rfl, rfl, rfl⟩

theorem sessionOwner_newSession (sslCreated : Bool) :
    (client.newSession sslCreated).sessionOwner =
      client.sessionOwner.assign (client.ctx.isSome && sslCreated) := by
  unfold newSession
  cases client.ctx.isSome && sslCreated <;> rfl

/-- A new session leaves the context and the socket alone, and there is a store
for it. -/
theorem newSession_frame (client : TLSClient) (sslCreated : Bool) :
    (client.newSession sslCreated).clientSocket.isSome = true ∧
      (client.newSession sslCreated).contextOwner = client.contextOwner ∧
      (client.newSession sslCreated).socketOwner = client.socketOwner := by
  unfold newSession
  cases client.ctx.isSome && sslCreated <;> exact ⟨rfl, rfl, rfl⟩

theorem contextOwner_freeCTX :
    client.freeCTX.contextOwner = client.contextOwner.release := by
  unfold freeCTX contextOwner Owner.release
  cases ctx : client.ctx with
  | none =>
      dsimp only
      rw [ctx]
  | some context => rfl

/-- The third block leaves the store and the socket alone. -/
theorem freeCTX_frame (client : TLSClient) :
    client.freeCTX.clientSocket = client.clientSocket ∧
      client.freeCTX.sessionOwner = client.sessionOwner ∧
      client.freeCTX.socketOwner = client.socketOwner ∧
      client.freeCTX.socketId = client.socketId := by
  unfold freeCTX
  cases client.ctx <;> exact ⟨rfl, rfl, rfl, rfl⟩

/-- A call that opens and closes nothing. -/
theorem socketOwner_of_sockets {host : Host}
    (same : host.sockets = client.host.sockets) :
    socketOwner { client with host := host } = client.socketOwner := by
  change Owner.mk host.sockets.ledger _ = _
  rw [same]
  rfl

/-- A number other than -1 has to be that of an open socket. -/
theorem socketOwner_closeSocket
    (valid : client.socketOwner.pointer.isSome = true ∨ client.socketId = -1) :
    client.closeSocket.socketOwner = client.socketOwner.release := by
  unfold closeSocket Owner.release
  by_cases closed : client.socketId = -1
  · have null : client.socketOwner.pointer = none := by
      rw [socketOwner, closed]
      rfl
    rw [if_neg (not_not.mpr closed), null]
  · obtain ⟨socket, points⟩ :=
      Option.isSome_iff_exists.mp (valid.resolve_right closed)
    rw [if_pos closed, points]
    change client.host.sockets.denotes client.socketId = some socket at points
    change Owner.mk (client.host.sockets.close client.socketId).ledger none = _
    rw [SocketTable.close, points]
    rfl

/-- The second block leaves the store and the context alone. -/
theorem closeSocket_frame (client : TLSClient) :
    client.closeSocket.clientSocket = client.clientSocket ∧
      client.closeSocket.sessionOwner = client.sessionOwner ∧
      client.closeSocket.contextOwner = client.contextOwner ∧
      client.closeSocket.socketId = -1 := by
  unfold closeSocket
  split
  · exact ⟨rfl, rfl, rfl, rfl⟩
  · exact ⟨rfl, rfl, rfl, not_not.mp ‹_›⟩

end Owners

/-! ## Pointers that can be followed -/

section Pointers

variable {client : TLSClient}

theorem dereference_ok {store : ClientStore}
    (points : client.clientSocket = some store) :
    client.dereference = .ok store := by
  rw [dereference, points]

theorem useSSL_ok {session : Nat} (live : session ∈ client.sessions.live) :
    client.useSSL (some session) = .ok session :=
  if_pos live

/-- A session that is held can be followed all the way. -/
theorem useSession_ok (sound : client.sessionOwner.Sound)
    (held : client.sessionOwner.pointer.isSome = true) :
    ∃ session, client.useSession = .ok session := by
  obtain ⟨session, points⟩ := Option.isSome_iff_exists.mp held
  obtain ⟨store, stored, made⟩ := Option.bind_eq_some_iff.mp points
  refine ⟨session, ?_⟩
  rw [useSession, dereference_ok stored]
  change client.useSSL store.ssl = _
  rw [made]
  exact useSSL_ok (sound.live session points)

/-- Without a session one of the two pointers is null. -/
theorem useSession_error
    (none_held : client.sessionOwner.pointer.isSome = false) :
    ∃ fault, client.useSession = .error fault := by
  rw [Option.isSome_eq_false_iff, Option.isNone_iff_eq_none, sessionOwner]
    at none_held
  cases stored : client.clientSocket with
  | none =>
      refine ⟨.nullClientSocket, ?_⟩
      rw [useSession, dereference, stored]
      rfl
  | some store =>
      refine ⟨.nullSSL, ?_⟩
      rw [stored] at none_held
      rw [useSession, dereference_ok stored]
      change client.useSSL store.ssl = _
      rw [show store.ssl = none from none_held]
      rfl

end Pointers

/-! ## What `Connect` does -/

section Connect

variable {numbering : Numbering} {client : TLSClient}
  {addrs : Option (List Attempt)}

/-- Without an address `CreateSocket` opens nothing and assigns nothing. -/
theorem createSocket_unattempted (socketId : Int) (host : Host)
    (unattempted : attemptsAddress addrs = false) :
    ∃ called, createSocket numbering addrs socketId host =
        (false, socketId, called) ∧
      getsSocket addrs = false ∧ called.sockets = host.sockets := by
  cases addrs with
  | none => exact ⟨host, rfl, rfl, rfl⟩
  | some attempts =>
      cases attempts with
      | nil => exact ⟨host.call .freeaddrinfo, rfl, rfl, rfl⟩
      | cons first rest => cases unattempted

/-- With one `m_socketId` gets another value. -/
theorem createSocket_attempted (socketId : Int) (host : Host)
    (attempted : attemptsAddress addrs = true) :
    ∃ chosen called, createSocket numbering addrs socketId host =
        (getsSocket addrs, descriptorOf chosen, called) ∧
      chosen.isSome = getsSocket addrs ∧
      LeavesOpen chosen host.sockets called.sockets ∧
      called.sockets.ledger.strays = host.sockets.ledger.strays := by
  cases addrs with
  | none => cases attempted
  | some attempts =>
      cases attempts with
      | nil => cases attempted
      | cons first rest =>
          obtain ⟨chosen, value, chooses⟩ :=
            createClientLoop_chooses numbering (first :: rest) host
          have freed := chooses.call .freeaddrinfo rfl
          refine ⟨chosen, _, ?_, freed.succeeds, freed.leavesOpen,
            freed.strays⟩
          rw [createSocket, createSocketLoop_eq, ← value]
          rfl

/-- The socket that is left open takes the place of the one before. -/
theorem replaced_of_leavesOpen {chosen : Option Fd} {called : Host}
    (left : LeavesOpen chosen client.host.sockets called.sockets)
    (strays : called.sockets.ledger.strays =
      client.host.sockets.ledger.strays) :
    client.socketOwner.Replaced
        (socketOwner
          { client with socketId := descriptorOf chosen, host := called }) ∧
      (socketOwner { client with
        socketId := descriptorOf chosen
        host := called }).pointer.isSome = chosen.isSome := by
  cases chosen with
  | none =>
      refine ⟨⟨left, ?_, strays⟩, rfl⟩
      intro socket points
      cases points
  | some fd =>
      obtain ⟨socket, denotes, newer, -, live⟩ := left
      have points : (socketOwner { client with
          socketId := descriptorOf (some fd)
          host := called }).pointer = some socket := denotes
      refine ⟨⟨?_, ?_, strays⟩, by rw [points]; rfl⟩
      · rw [points]
        exact live
      · intro other same older
        rw [points] at same
        cases same
        exact absurd (Ledger.lt_of_live older) (Nat.not_lt.mpr newer)

/-- What a call of `Connect` leaves behind when there is no address, when none
can be connected, and when one can. -/
inductive Connected (client : TLSClient) (addrs : Option (List Attempt))
    (sslCreated : Bool) : TLSClient → Prop where
  | unattempted (host : Host) (unattempted : attemptsAddress addrs = false)
      (fails : getsSocket addrs = false)
      (same : host.sockets = client.host.sockets) :
      Connected client addrs sslCreated { client with host := host }
  | failed (host : Host) (attempted : attemptsAddress addrs = true)
      (fails : getsSocket addrs = false)
      (replaced : client.socketOwner.Replaced
        (socketOwner { client with socketId := -1, host := host })) :
      Connected client addrs sslCreated
        { client with socketId := -1, host := host }
  | reached (opened : TLSClient) (attempted : attemptsAddress addrs = true)
      (reaches : getsSocket addrs = true)
      (replaced : client.socketOwner.Replaced opened.socketOwner)
      (isOpen : opened.socketOwner.pointer.isSome = true)
      (context : opened.contextOwner = client.contextOwner)
      (session : opened.sessionOwner = client.sessionOwner) :
      Connected client addrs sslCreated (opened.newSession sslCreated)

/-- OpenSSL takes a session that was just made. -/
theorem handshake_newSession (client : TLSClient)
    (sslCreated sslConnected : Bool) :
    ∃ answer, (client.newSession sslCreated).handshake sslConnected =
      .ok (answer, client.newSession sslCreated) := by
  unfold newSession
  cases client.ctx.isSome && sslCreated with
  | false => exact ⟨_, rfl⟩
  | true =>
      refine ⟨sslConnected, ?_⟩
      rw [handshake, dereference_ok rfl]
      change Except.bind (useSSL _ _) _ = _
      rw [useSSL_ok List.mem_cons_self]
      rfl

/-- Every call of `Connect` returns. -/
theorem connect_connected (client : TLSClient)
    (addrs : Option (List Attempt)) (sslCreated sslConnected : Bool) :
    ∃ answer after,
      client.connect numbering addrs sslCreated sslConnected =
        .ok (answer, after) ∧
      Connected client addrs sslCreated after := by
  unfold connect
  cases attempted : attemptsAddress addrs with
  | false =>
      obtain ⟨called, created, fails, same⟩ :=
        createSocket_unattempted client.socketId client.host attempted
      rw [created]
      exact ⟨_, _, rfl, .unattempted called attempted fails same⟩
  | true =>
      obtain ⟨chosen, called, created, found, left, strays⟩ :=
        createSocket_attempted client.socketId client.host attempted
      obtain ⟨replaced, isOpen⟩ := replaced_of_leavesOpen left strays
      rw [created]
      cases reaches : getsSocket addrs with
      | false =>
          rw [reaches, Option.isSome_eq_false_iff,
            Option.isNone_iff_eq_none] at found
          rw [found] at replaced ⊢
          exact ⟨_, _, rfl, .failed called attempted reaches replaced⟩
      | true =>
          rw [reaches] at found
          obtain ⟨answer, returned⟩ := handshake_newSession
            { client with socketId := descriptorOf chosen, host := called }
            sslCreated sslConnected
          refine ⟨answer, _, returned, ?_⟩
          exact .reached _ attempted reaches replaced (isOpen.trans found)
            rfl rfl

end Connect

/-! ## What `Close` does -/

/-- What `Close` leaves behind: all three owners have released what they
pointed at. -/
structure Closed (client after : TLSClient) : Prop where
  stored : after.clientSocket.isSome = true
  socketId : after.socketId = -1
  contexts : after.contextOwner = client.contextOwner.release
  sessions : after.sessionOwner = client.sessionOwner.release
  sockets : after.socketOwner = client.socketOwner.release

section Close

variable {client : TLSClient}

/-- The first block, on a store. -/
theorem freeSSL_ok {store : ClientStore}
    (points : client.clientSocket = some store)
    (sound : client.sessionOwner.Sound) :
    ∃ freed, client.freeSSL = .ok freed ∧
      freed.clientSocket.isSome = true ∧
      freed.sessionOwner = client.sessionOwner.release ∧
      freed.contextOwner = client.contextOwner ∧
      freed.socketOwner = client.socketOwner ∧
      freed.socketId = client.socketId := by
  have pointer : client.sessionOwner.pointer = store.ssl := by
    rw [sessionOwner, points]
    rfl
  unfold freeSSL Owner.release
  rw [dereference_ok points, pointer]
  cases made : store.ssl with
  | none =>
      refine ⟨client, ?_, by rw [points]; rfl, rfl, rfl, rfl, rfl⟩
      change (if store.ssl.isNone then _ else _) = _
      rw [made]
      rfl
  | some session =>
      have live := sound.live session (pointer.trans made)
      refine ⟨{ client with
        clientSocket := some { store with ssl := none }
        sessions := client.sessions.release session },
        ?_, rfl, rfl, rfl, rfl, rfl⟩
      change (if store.ssl.isNone then _ else Except.bind _ _) = _
      rw [made, useSSL_ok live]
      rfl

theorem close_ok (stored : client.clientSocket.isSome = true)
    (sound : client.sessionOwner.Sound)
    (valid : client.socketOwner.pointer.isSome = true ∨
      client.socketId = -1) :
    ∃ after, client.close = .ok after ∧ Closed client after := by
  obtain ⟨store, points⟩ := Option.isSome_iff_exists.mp stored
  obtain ⟨freed, done, store, session, context, socket, socketId⟩ :=
    freeSSL_ok points sound
  rw [← socket, ← socketId] at valid
  obtain ⟨storeClosed, sessionClosed, contextClosed, noSocket⟩ :=
    freed.closeSocket_frame
  obtain ⟨storeLast, sessionLast, socketLast, socketIdLast⟩ :=
    freed.closeSocket.freeCTX_frame
  refine ⟨freed.closeSocket.freeCTX, ?_, ?_⟩
  · rw [close, done]
    rfl
  · constructor
    · rw [storeLast, storeClosed, store]
    · rw [socketIdLast, noSocket]
    · rw [contextOwner_freeCTX, contextClosed, context]
    · rw [sessionLast, sessionClosed, session]
    · rw [socketLast, socketOwner_closeSocket valid, socket]

theorem close_error (unstored : client.clientSocket.isSome = false) :
    client.close = .error .nullClientSocket := by
  rw [Option.isSome_eq_false_iff, Option.isNone_iff_eq_none] at unstored
  rw [close, freeSSL, dereference, unstored]
  rfl

end Close

/-! ## The client and what it holds -/

/-- The client's pointers are set where it holds something, and none dangles.
While no socket has been lost, a session is held only beside one. -/
structure Tracks (client : TLSClient) (held : Holdings) : Prop where
  context : client.contextOwner.pointer.isSome = held.context
  store : client.clientSocket.isSome = held.store
  session : client.sessionOwner.pointer.isSome = held.session
  socket : client.socketOwner.pointer.isSome = held.socket
  contexts : client.contextOwner.Sound
  sessions : client.sessionOwner.Sound
  sockets : client.socketOwner.Sound
  closed : held.store = true → held.socket = false → client.socketId = -1
  tied : client.socketOwner.NothingLost → held.session = true →
    held.socket = true

theorem tracks_construct (socketId : Int) :
    Tracks (construct socketId) .nothing := by
  have none_live : (construct socketId).socketOwner.pointer = none := by
    cases socketId <;> rfl
  constructor
  · rfl
  · rfl
  · rfl
  · rw [none_live]
    rfl
  · constructor
    · intro thing points
      cases points
    · rfl
  · constructor
    · intro thing points
      cases points
    · rfl
  · constructor
    · intro thing points
      rw [none_live] at points
      cases points
    · rfl
  · intro stored
    cases stored
  · intro _ held
    cases held

namespace Tracks

variable {client : TLSClient} {held : Holdings}

/-- `Init`. -/
theorem init (tracks : Tracks client held) (contextCreated : Bool) :
    Tracks (client.init contextCreated).2
      (held.after (.init contextCreated)) := by
  obtain ⟨store, session, socket, socketId⟩ :=
    client.initCTX_frame contextCreated
  constructor
  · change (client.initCTX contextCreated).contextOwner.pointer.isSome = _
    rw [contextOwner_initCTX, Owner.isSome_pointer_assign]
    rfl
  · exact (congrArg Option.isSome store).trans tracks.store
  · exact (congrArg (Option.isSome ∘ Owner.pointer) session).trans
      tracks.session
  · exact (congrArg (Option.isSome ∘ Owner.pointer) socket).trans tracks.socket
  · change (client.initCTX contextCreated).contextOwner.Sound
    rw [contextOwner_initCTX]
    exact (Owner.replaced_assign _ _).sound tracks.contexts
  · exact session ▸ tracks.sessions
  · exact socket ▸ tracks.sockets
  · intro stored unheld
    exact socketId.trans (tracks.closed stored unheld)
  · intro held
    change (client.initCTX contextCreated).socketOwner.NothingLost at held
    rw [socket] at held
    exact tracks.tied held

/-- A session over a new socket, in place of the session before. -/
theorem reached (tracks : Tracks client held) {opened : TLSClient}
    (replaced : client.socketOwner.Replaced opened.socketOwner)
    (isOpen : opened.socketOwner.pointer.isSome = true)
    (context : opened.contextOwner = client.contextOwner)
    (session : opened.sessionOwner = client.sessionOwner)
    (sslCreated : Bool) :
    Tracks (opened.newSession sslCreated)
      { held with
          store := true
          session := held.context && sslCreated
          socket := true } := by
  obtain ⟨stored, contextAfter, socketAfter⟩ :=
    opened.newSession_frame sslCreated
  have sessionAfter : (opened.newSession sslCreated).sessionOwner =
      client.sessionOwner.assign (held.context && sslCreated) := by
    have context : opened.ctx.isSome = held.context := by
      rw [← tracks.context, ← context]
      rfl
    rw [sessionOwner_newSession, session, context]
  constructor
  · rw [contextAfter, context]
    exact tracks.context
  · exact stored
  · rw [sessionAfter]
    exact Owner.isSome_pointer_assign _
  · rw [socketAfter]
    exact isOpen
  · rw [contextAfter, context]
    exact tracks.contexts
  · rw [sessionAfter]
    exact (Owner.replaced_assign _ _).sound tracks.sessions
  · rw [socketAfter]
    exact replaced.sound tracks.sockets
  · intro _ unheld
    cases unheld
  · intro _ _
    rfl

/-- `Connect`. -/
theorem connect (tracks : Tracks client held)
    {addrs : Option (List Attempt)} {sslCreated : Bool} {after : TLSClient}
    (connected : Connected client addrs sslCreated after)
    (sslConnected : Bool) :
    Tracks after (held.after (.connect addrs sslCreated sslConnected)) := by
  rw [Holdings.after]
  cases connected with
  | unattempted host unattempted fails same =>
      have socket : socketOwner { client with host := host } =
          client.socketOwner :=
        socketOwner_of_sockets same
      rw [fails, unattempted]
      constructor
      · exact tracks.context
      · exact tracks.store
      · exact tracks.session
      · rw [socket]
        exact tracks.socket
      · exact tracks.contexts
      · exact tracks.sessions
      · rw [socket]
        exact tracks.sockets
      · exact tracks.closed
      · rw [socket]
        exact tracks.tied
  | failed host attempted fails replaced =>
      rw [fails, attempted]
      constructor
      · exact tracks.context
      · exact tracks.store
      · exact tracks.session
      · rfl
      · exact tracks.contexts
      · exact tracks.sessions
      · exact replaced.sound tracks.sockets
      · intro _ _
        rfl
      · -- a session over the socket before would have lost that socket here
        intro nothingLost heldSession
        obtain ⟨before, null⟩ :=
          (replaced.nothingLost_iff tracks.sockets).mp nothingLost
        have heldSocket := tracks.tied before heldSession
        rw [← tracks.socket, null] at heldSocket
        cases heldSocket
  | reached opened attempted reaches replaced isOpen context session =>
      rw [reaches]
      exact tracks.reached replaced isOpen context session sslCreated

/-- The number in `m_socketId` is that of an open socket or -1 once there is a
store. -/
theorem valid (tracks : Tracks client held) (stored : held.store = true) :
    client.socketOwner.pointer.isSome = true ∨ client.socketId = -1 := by
  rw [tracks.socket]
  cases socket : held.socket with
  | true => exact .inl rfl
  | false => exact .inr (tracks.closed stored socket)

/-- `Close`. -/
theorem close (tracks : Tracks client held) {after : TLSClient}
    (closed : Closed client after) (stored : held.store = true) :
    Tracks after (held.after .close) := by
  constructor
  · rw [closed.contexts, Owner.pointer_release]
    rfl
  · rw [closed.stored]
    exact stored.symm
  · rw [closed.sessions, Owner.pointer_release]
    rfl
  · rw [closed.sockets, Owner.pointer_release]
    rfl
  · rw [closed.contexts]
    exact tracks.contexts.release
  · rw [closed.sessions]
    exact tracks.sessions.release
  · rw [closed.sockets]
    exact tracks.sockets.release
  · intro _ _
    exact closed.socketId
  · intro _ heldSession
    cases heldSession

end Tracks

/-! ## Every order of calls -/

/-- The client follows its holdings: a call goes wrong exactly when it is out of
order. -/
theorem simulation (numbering : Numbering) :
    Simulation (step numbering) Holdings.after Holdings.InOrder Tracks := by
  constructor
  · intro client held call tracks inOrder
    cases call with
    | init contextCreated => exact ⟨_, rfl, tracks.init contextCreated⟩
    | connect addrs sslCreated sslConnected =>
        obtain ⟨answer, after, returned, connected⟩ :=
          connect_connected client addrs sslCreated sslConnected
        refine ⟨after, ?_, tracks.connect connected sslConnected⟩
        rw [step, returned]
        rfl
    | sendData written =>
        obtain ⟨session, used⟩ :=
          useSession_ok tracks.sessions (tracks.session.trans inOrder)
        refine ⟨client, ?_, tracks⟩
        rw [step, sendData, used]
        rfl
    | receiveData size read =>
        refine ⟨client, ?_, tracks⟩
        rw [step, receiveData]
        split
        · rfl
        · rename_i fits
          obtain ⟨session, used⟩ := useSession_ok tracks.sessions
            (tracks.session.trans (inOrder (Int.not_lt.mp fits)))
          rw [used]
          rfl
    | close =>
        obtain ⟨after, returned, closed⟩ := close_ok
          (tracks.store.trans inOrder) tracks.sessions (tracks.valid inOrder)
        exact ⟨after, returned, tracks.close closed inOrder⟩
  · intro client held call tracks outOfOrder
    cases call with
    | init contextCreated => exact absurd trivial outOfOrder
    | connect addrs sslCreated sslConnected => exact absurd trivial outOfOrder
    | sendData written =>
        obtain ⟨fault, failed⟩ := useSession_error
          (tracks.session.trans (Bool.eq_false_iff.mpr outOfOrder))
        refine ⟨fault, ?_⟩
        rw [step, sendData, failed]
        rfl
    | receiveData size read =>
        obtain ⟨fits, unheld⟩ := Classical.not_imp.mp outOfOrder
        obtain ⟨fault, failed⟩ := useSession_error
          (tracks.session.trans (Bool.eq_false_iff.mpr unheld))
        refine ⟨fault, ?_⟩
        rw [step, receiveData, if_neg (Int.not_lt.mpr fits), failed]
        rfl
    | close =>
        refine ⟨_, close_error ?_⟩
        rw [tracks.store]
        exact Bool.eq_false_iff.mpr outOfOrder

/-- The destructor is one more `Close`. -/
theorem lifetime_eq (numbering : Numbering) (socketId : Int)
    (calls : List ClientCall) :
    lifetime numbering socketId calls =
      (calls ++ [ClientCall.close]).foldlM (step numbering)
        (construct socketId) := by
  rw [lifetime, List.foldlM_append]
  congr 1
  funext last
  rw [List.foldlM_cons]
  exact (bind_pure _).symm

/-- The client survives its calls and its destruction exactly when they come in
order: `SendData` and `ReceiveData` while there is a session, and `Close`, the
destructor's included, after some `Connect` has got a socket. -/
theorem lifetime_ok_iff (numbering : Numbering) (socketId : Int)
    (calls : List ClientCall) :
    (∃ after, lifetime numbering socketId calls = .ok after) ↔
      holdings.Along Holdings.InOrder .nothing (calls ++ [.close]) := by
  rw [lifetime_eq]
  exact (simulation numbering).succeeds_iff_along (tracks_construct socketId)

/-- An address where nobody listens, and one where a server does. -/
def refusedAddress : Attempt :=
  ⟨⟨2, 1, 6, [127, 0, 0, 1]⟩, true, false⟩

def acceptedAddress : Attempt :=
  ⟨⟨2, 1, 6, [127, 0, 0, 1]⟩, true, true⟩

/-- A client whose `Connect` finds no server ends in the null `m_clientSocket`
of its destructor, and one without `Init` in the null `m_SSL` of `SendData`. -/
theorem lifetime_follows_null :
    ¬(∀ numbering socketId calls,
      ∃ after, lifetime numbering socketId calls = .ok after) ∧
    lifetime (.lowestFrom 3) 0
      [.init true, .connect (some [refusedAddress]) true true] =
        .error .nullClientSocket ∧
    lifetime (.lowestFrom 3) 0
      [.connect (some [acceptedAddress]) true true, .sendData 18] =
        .error .nullSSL := by
  have failed : lifetime (.lowestFrom 3) 0
      [.init true, .connect (some [refusedAddress]) true true] =
        .error .nullClientSocket := rfl
  refine ⟨?_, failed, rfl⟩
  intro always
  obtain ⟨after, survived⟩ := always (.lowestFrom 3) 0
    [.init true, .connect (some [refusedAddress]) true true]
  rw [failed] at survived
  cases survived

end TLSClient

end EventPlus

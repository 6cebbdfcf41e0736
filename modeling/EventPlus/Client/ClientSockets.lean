/-
Module: EventPlus.Client.ClientSockets
Purpose: `SocketHandler::createClientSocket` and `TLSClient::CreateSocket`, two
  loops over the addresses of `getaddrinfo` that make the same choice.
Trusted boundary: none
Main exports:
  Attempt, tried, SocketHandler.createClientSocket, TLSClient.createSocket,
  callsFor, Chooses, clientSockets_agree
-/
import EventPlus.Kernel.SocketTable

namespace EventPlus

open Function (update)

/-! ## Attempts -/

/-- An address with the outcomes of the calls made for it: whether `socket`
gives a descriptor, and whether `connect` on it succeeds. -/
structure Attempt where
  addrinfo : Addrinfo
  created : Bool
  connected : Bool
deriving Repr, Inhabited, DecidableEq

def Attempt.succeeds (attempt : Attempt) : Bool :=
  attempt.created && attempt.connected

/-- The `socket` call for an address. -/
def Attempt.socketCall (attempt : Attempt) : SocketCall :=
  .socket attempt.addrinfo.family attempt.addrinfo.socktype
    attempt.addrinfo.protocol

/-- `socket` with the fields of an address. -/
def Host.openFor (numbering : Numbering) (host : Host) (attempt : Attempt) :
    Int × Host :=
  host.socket numbering attempt.addrinfo.family attempt.addrinfo.socktype
    attempt.addrinfo.protocol attempt.created

/-! ## The two loops -/

/-- The `for` loop of `createClientSocket`, with the value of `sfd`. -/
def SocketHandler.createClientLoop (numbering : Numbering) :
    List Attempt → Int → Host → Int × Host
  | [], sfd, host => (sfd, host)
  | addr :: rest, _, host =>
      let opened := host.openFor numbering addr
      if opened.1 = -1 then createClientLoop numbering rest opened.1 opened.2
      else
        let asked := opened.2.call (.connect opened.1 addr.addrinfo.addr)
        if addr.connected then (opened.1, asked)
        else createClientLoop numbering rest (-1) (asked.close opened.1)

/-- `createClientSocket`, where `addrs` is the list `getaddrinfo` returned,
`none` for a failure. -/
def SocketHandler.createClientSocket (numbering : Numbering)
    (addrs : Option (List Attempt)) (host : Host) : Int × Host :=
  match addrs with
  | none => (-1, host)
  | some addrs =>
      let left := createClientLoop numbering addrs (-1) host
      let freed := left.2.call .freeaddrinfo
      if left.1 = -1 then (-1, freed)
      else (left.1, freed.call (.setNonBlocking left.1))

/-- The `for` loop of `CreateSocket` and what follows it, with the value of
`m_socketDetails.m_socketId`. -/
def TLSClient.createSocketLoop (numbering : Numbering) :
    List Attempt → Int → Host → Bool × Int × Host
  | [], socketId, host => (false, socketId, host.call .freeaddrinfo)
  | p :: rest, _, host =>
      let opened := host.openFor numbering p
      if opened.1 = -1 then createSocketLoop numbering rest opened.1 opened.2
      else
        let asked := opened.2.call (.connect opened.1 p.addrinfo.addr)
        if p.connected then (true, opened.1, asked.call .freeaddrinfo)
        else createSocketLoop numbering rest (-1) (asked.close opened.1)

/-- `CreateSocket`: its result, and `m_socketId` after it. -/
def TLSClient.createSocket (numbering : Numbering)
    (addrs : Option (List Attempt)) (socketId : Int) (host : Host) :
    Bool × Int × Host :=
  match addrs with
  | none => (false, socketId, host)
  | some addrs => createSocketLoop numbering addrs socketId host

/-! ## The choice -/

/-- The attempts up to the first that succeeds. -/
def tried : List Attempt → List Attempt
  | [] => []
  | attempt :: rest =>
      attempt :: if attempt.succeeds then [] else tried rest

/-- The value that stands for a descriptor or for none. -/
def descriptorOf : Option Fd → Int
  | none => -1
  | some fd => fd

/-- The calls of `socket`, `connect` and `close`. -/
def socketCalls (calls : List SocketCall) : List SocketCall :=
  calls.filter fun
    | .socket _ _ _ | .connect _ _ | .close _ => true
    | _ => false

/-- The calls for an address whose socket, if it gets one, has the number `fd`:
`connect` is called on that socket, and `close` where `connect` fails. -/
def Attempt.calls (fd : Fd) (attempt : Attempt) : List SocketCall :=
  attempt.socketCall ::
    if attempt.created then
      .connect fd attempt.addrinfo.addr ::
        if attempt.connected then [] else [.close fd]
    else []

/-- The calls for addresses attempted one after the other, when the next socket
to be opened is `socket` and each has the number `number` gives it. -/
def callsFor (number : Nat → Fd) (socket : Nat) :
    List Attempt → List SocketCall
  | [] => []
  | attempt :: rest =>
      attempt.calls (number socket) ++
        callsFor number (socket + attempt.created.toNat) rest

/-- If a descriptor is chosen, it denotes the socket opened last, which is open;
nothing else has become open since `before`. -/
def LeavesOpen (chosen : Option Fd) (before after : SocketTable) : Prop :=
  match chosen with
  | none => after.ledger.live = before.ledger.live
  | some fd =>
      ∃ socket, after.denotes fd = some socket ∧
        before.ledger.made ≤ socket ∧ socket + 1 = after.ledger.made ∧
        after.ledger.live = socket :: before.ledger.live

/-- The addresses are attempted in order up to the first that succeeds, each
with calls on a socket of its own.  The descriptor on which `connect` succeeded
is the one left open, and no other; each socket that was opened and not chosen
has been closed exactly once. -/
structure Chooses (attempts : List Attempt) (chosen : Option Fd)
    (before after : Host) : Prop where
  succeeds : chosen.isSome = attempts.any Attempt.succeeds
  calls : socketCalls after.calls =
    socketCalls before.calls ++
      callsFor after.sockets.number before.sockets.ledger.made
        (tried attempts)
  connected : ∀ fd, chosen = some fd → ∃ attempt,
    attempts.find? Attempt.succeeds = some attempt ∧
      (socketCalls after.calls).getLast? =
        some (.connect fd attempt.addrinfo.addr)
  numbers : ∀ socket < before.sockets.ledger.made,
    after.sockets.number socket = before.sockets.number socket
  leavesOpen : LeavesOpen chosen before.sockets after.sockets
  closedOnce : ∀ socket, before.sockets.ledger.made ≤ socket →
    socket < after.sockets.ledger.made →
    (∀ fd, chosen = some fd → after.sockets.denotes fd ≠ some socket) →
    after.sockets.ledger.released.count socket = 1
  strays : after.sockets.ledger.strays = before.sockets.ledger.strays

/-! ## One attempt -/

section Attempt

variable {numbering : Numbering} {host : Host} {attempt : Attempt}
  {rest : List Attempt} {value : Int}

theorem openFor_refused (refused : attempt.created = false) :
    host.openFor numbering attempt = (-1, host.call attempt.socketCall) := by
  rw [Host.openFor, refused]
  exact Host.socket_refused

theorem openFor_created (created : attempt.created = true) :
    host.openFor numbering attempt =
      ((numbering.next host.sockets : Int),
        { host.call attempt.socketCall with
            sockets := host.allocated numbering }) := by
  rw [Host.openFor, created]
  exact Host.socket_created

end Attempt

/-- What is not live any more has been closed exactly once. -/
theorem closedOnce_of_leavesOpen {chosen : Option Fd}
    {before after : SocketTable} (left : LeavesOpen chosen before after)
    {socket : Nat} (newer : before.ledger.made ≤ socket)
    (made : socket < after.ledger.made)
    (other : ∀ fd, chosen = some fd → after.denotes fd ≠ some socket) :
    after.ledger.released.count socket = 1 := by
  have not_older : socket ∉ before.ledger.live := by
    intro live
    have older := Ledger.lt_of_live live
    omega
  rw [Ledger.count_released made, if_neg]
  intro live
  cases chosen with
  | none =>
      rw [left] at live
      exact not_older live
  | some fd =>
      obtain ⟨open_one, denotes, -, -, all⟩ := left
      rw [all, List.mem_cons] at live
      rcases live with rfl | live
      · exact other fd rfl denotes
      · exact not_older live

section Loops

variable {numbering : Numbering} {host : Host} {attempt : Attempt}
  {rest : List Attempt} {chosen : Option Fd} {after : Host}

/-- An address for which there is no socket is skipped. -/
theorem Chooses.refused (refused : attempt.created = false)
    (chooses : Chooses rest chosen (host.call attempt.socketCall) after) :
    Chooses (attempt :: rest) chosen host after := by
  have fails : attempt.succeeds = false := by simp [Attempt.succeeds, refused]
  have calls := chooses.calls
  constructor
  · rw [List.any_cons, fails, Bool.false_or]
    exact chooses.succeeds
  · simpa [tried, fails, refused, socketCalls, callsFor, Attempt.calls,
      Host.call, Attempt.socketCall] using calls
  · rw [List.find?_cons_of_neg (by simp [fails])]
    exact chooses.connected
  · exact chooses.numbers
  · exact chooses.leavesOpen
  · exact fun socket => chooses.closedOnce socket
  · exact chooses.strays

/-- The host after a socket has been opened and `connect` has been called. -/
def asked (numbering : Numbering) (host : Host) (attempt : Attempt) : Host :=
  { host.call attempt.socketCall with
      sockets := host.allocated numbering }.call
    (.connect (numbering.next host.sockets) attempt.addrinfo.addr)

/-- A socket that cannot be connected is closed before the next address. -/
theorem Chooses.unconnected (created : attempt.created = true)
    (failed : attempt.connected = false)
    (chooses : Chooses rest chosen
      ((asked numbering host attempt).close (numbering.next host.sockets))
      after) :
    Chooses (attempt :: rest) chosen host after := by
  have fails : attempt.succeeds = false := by simp [Attempt.succeeds, failed]
  have ledger : ((asked numbering host attempt).close
      (numbering.next host.sockets)).sockets.ledger =
        host.sockets.ledger.make.release host.sockets.ledger.made :=
    Host.ledger_close_allocated
  have made : ((asked numbering host attempt).close
      (numbering.next host.sockets)).sockets.ledger.made =
        host.sockets.ledger.made + 1 := by
    rw [ledger, Ledger.made_release, Ledger.made_make]
  have number : ((asked numbering host attempt).close
      (numbering.next host.sockets)).sockets.number =
        update host.sockets.number host.sockets.ledger.made
          (numbering.next host.sockets) :=
    Host.number_close_allocated
  have numbers := chooses.numbers
  rw [made, number] at numbers
  have own : after.sockets.number host.sockets.ledger.made =
      numbering.next host.sockets := by
    rw [numbers _ (Nat.lt_succ_self _), Function.update_self]
  have leavesOpen : LeavesOpen chosen host.sockets after.sockets := by
    have left := chooses.leavesOpen
    unfold LeavesOpen at left ⊢
    rw [made, ledger, Ledger.live_make_release] at left
    cases chosen with
    | none => exact left
    | some fd =>
        obtain ⟨socket, denotes, newer, newest, live⟩ := left
        exact ⟨socket, denotes, Nat.le_of_succ_le newer, newest, live⟩
  have calls := chooses.calls
  rw [made] at calls
  have strays := chooses.strays
  rw [ledger, Ledger.strays_release List.mem_cons_self] at strays
  constructor
  · rw [List.any_cons, fails, Bool.false_or]
    exact chooses.succeeds
  · simpa [tried, fails, created, failed, own, socketCalls, callsFor,
      Attempt.calls, asked, Host.call, Host.close, Attempt.socketCall]
      using calls
  · rw [List.find?_cons_of_neg (by simp [fails])]
    exact chooses.connected
  · intro socket older
    rw [numbers socket (Nat.lt_succ_of_lt older),
      Function.update_of_ne (Nat.ne_of_lt older)]
  · exact leavesOpen
  · exact fun socket newer made =>
      closedOnce_of_leavesOpen leavesOpen newer made
  · exact strays

/-- The first address that can be connected ends the search. -/
theorem chooses_connected (created : attempt.created = true)
    (connected : attempt.connected = true) :
    Chooses (attempt :: rest) (some (numbering.next host.sockets)) host
      (asked numbering host attempt) := by
  have succeeds : attempt.succeeds = true := by
    simp [Attempt.succeeds, created, connected]
  have leavesOpen : LeavesOpen (some (numbering.next host.sockets))
      host.sockets (asked numbering host attempt).sockets :=
    ⟨host.sockets.ledger.made, Host.denotes_allocated, Nat.le_refl _, rfl,
      rfl⟩
  have own : (asked numbering host attempt).sockets.number
      host.sockets.ledger.made = numbering.next host.sockets :=
    Function.update_self _ _ _
  constructor
  · rw [List.any_cons, succeeds]
    rfl
  · rw [tried, if_pos succeeds, callsFor, own]
    simp [callsFor, Attempt.calls, created, connected, socketCalls, asked,
      Host.call, Attempt.socketCall]
  · intro fd same
    cases same
    refine ⟨attempt, List.find?_cons_of_pos succeeds, ?_⟩
    simp [socketCalls, asked, Host.call]
  · intro socket older
    exact Function.update_of_ne (Nat.ne_of_lt older) _ _
  · exact leavesOpen
  · exact fun socket newer made =>
      closedOnce_of_leavesOpen leavesOpen newer made
  · rfl

/-- With no address left nothing is chosen. -/
theorem chooses_nil : Chooses [] none host host := by
  refine ⟨rfl, by simp [tried, callsFor], by simp, fun _ _ => rfl, rfl, ?_,
    rfl⟩
  intro socket newer made
  exact absurd made (Nat.not_lt.mpr newer)

/-- The loop of `createClientSocket`, by induction on the addresses. -/
theorem createClientLoop_chooses (numbering : Numbering)
    (addrs : List Attempt) (host : Host) :
    ∃ chosen,
      (SocketHandler.createClientLoop numbering addrs (-1) host).1 =
          descriptorOf chosen ∧
        Chooses addrs chosen host
          (SocketHandler.createClientLoop numbering addrs (-1) host).2 := by
  induction addrs generalizing host with
  | nil => exact ⟨none, rfl, chooses_nil⟩
  | cons attempt rest inductionHypothesis =>
      unfold SocketHandler.createClientLoop
      cases created : attempt.created with
      | false =>
          rw [openFor_refused created]
          obtain ⟨chosen, value, chooses⟩ :=
            inductionHypothesis (host.call attempt.socketCall)
          exact ⟨chosen, value, chooses.refused created⟩
      | true =>
          rw [openFor_created created]
          dsimp only
          rw [if_neg (Host.fd_ne_neg_one _)]
          cases connected : attempt.connected with
          | true =>
              exact ⟨some (numbering.next host.sockets), rfl,
                chooses_connected created connected⟩
          | false =>
              obtain ⟨chosen, value, chooses⟩ :=
                inductionHypothesis ((asked numbering host attempt).close
                  (numbering.next host.sockets))
              exact ⟨chosen, value, chooses.unconnected created connected⟩

/-- The loop of `CreateSocket` does what the other one does. -/
theorem createSocketLoop_eq (numbering : Numbering) (addrs : List Attempt)
    (socketId : Int) (host : Host) :
    TLSClient.createSocketLoop numbering addrs socketId host =
      (addrs.any Attempt.succeeds,
        (SocketHandler.createClientLoop numbering addrs socketId host).1,
        (SocketHandler.createClientLoop numbering addrs socketId host).2.call
          .freeaddrinfo) := by
  induction addrs generalizing socketId host with
  | nil => rfl
  | cons attempt rest inductionHypothesis =>
      unfold TLSClient.createSocketLoop SocketHandler.createClientLoop
      rw [List.any_cons]
      cases created : attempt.created with
      | false =>
          have fails : attempt.succeeds = false := by
            simp [Attempt.succeeds, created]
          rw [openFor_refused created, fails]
          exact inductionHypothesis _ _
      | true =>
          rw [openFor_created created]
          dsimp only
          rw [if_neg (Host.fd_ne_neg_one _), if_neg (Host.fd_ne_neg_one _)]
          cases connected : attempt.connected with
          | true => simp [Attempt.succeeds, created, connected]
          | false =>
              have fails : attempt.succeeds = false := by
                simp [Attempt.succeeds, connected]
              rw [fails]
              exact inductionHypothesis _ _

end Loops

/-! ## The two functions -/

theorem Chooses.call {attempts : List Attempt} {chosen : Option Fd}
    {before after : Host} (chooses : Chooses attempts chosen before after)
    (call : SocketCall) (no_socket : socketCalls [call] = []) :
    Chooses attempts chosen before (after.call call) := by
  have same : socketCalls (after.call call).calls =
      socketCalls after.calls := by
    change socketCalls (after.calls ++ [call]) = _
    rw [socketCalls, List.filter_append, ← socketCalls, ← socketCalls,
      no_socket, List.append_nil]
  constructor
  · exact chooses.succeeds
  · rw [same]
    exact chooses.calls
  · rw [same]
    exact chooses.connected
  · exact chooses.numbers
  · exact chooses.leavesOpen
  · exact chooses.closedOnce
  · exact chooses.strays

/-- What a call of either function is to do for a choice: `result` is the
descriptor it records. -/
structure Records (addrs : List Attempt) (chosen : Option Fd) (before : Host)
    (result : Int) (after : Host) : Prop where
  value : result = descriptorOf chosen
  chooses : Chooses addrs chosen before after

/-- Both functions make the same choice among the addresses, whatever `socket`
and `connect` answer, and record it: one as its result, the other in
`m_socketId` and as its boolean result. -/
theorem clientSockets_agree (numbering : Numbering) (first : Attempt)
    (rest : List Attempt) (socketId : Int) (host : Host) :
    ∃ chosen,
      Records (first :: rest) chosen host
        (SocketHandler.createClientSocket numbering (some (first :: rest))
          host).1
        (SocketHandler.createClientSocket numbering (some (first :: rest))
          host).2 ∧
      Records (first :: rest) chosen host
        (TLSClient.createSocket numbering (some (first :: rest)) socketId
          host).2.1
        (TLSClient.createSocket numbering (some (first :: rest)) socketId
          host).2.2 ∧
      (TLSClient.createSocket numbering (some (first :: rest)) socketId
        host).1 = chosen.isSome := by
  obtain ⟨chosen, value, chooses⟩ :=
    createClientLoop_chooses numbering (first :: rest) host
  have freed := chooses.call .freeaddrinfo rfl
  have same : SocketHandler.createClientLoop numbering (first :: rest)
      socketId host =
        SocketHandler.createClientLoop numbering (first :: rest) (-1) host :=
    rfl
  refine ⟨chosen, ?_, ?_⟩
  · dsimp only [SocketHandler.createClientSocket]
    cases chosen with
    | none =>
        have failed : (SocketHandler.createClientLoop numbering
            (first :: rest) (-1) host).1 = -1 := value
        rw [if_pos failed]
        exact ⟨rfl, freed⟩
    | some fd =>
        have found : (SocketHandler.createClientLoop numbering
            (first :: rest) (-1) host).1 ≠ -1 := by
          rw [value]
          exact Host.fd_ne_neg_one fd
        rw [if_neg found]
        exact ⟨value, freed.call _ rfl⟩
  · dsimp only [TLSClient.createSocket]
    rw [createSocketLoop_eq, same]
    exact ⟨⟨value, freed⟩, chooses.succeeds.symm⟩

end EventPlus

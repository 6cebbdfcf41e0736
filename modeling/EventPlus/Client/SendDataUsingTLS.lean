/-
Module: EventPlus.Client.SendDataUsingTLS
Purpose: The client of `main`, and when it gets to its end with everything it
  made released.
Trusted boundary: the behaviour of OpenSSL described in `TLSClient`
Main exports:
  ClientOutcomes, sendDataUsingTLS, ClientOutcomes.calls, ClientOutcomes.result,
  sendDataUsingTLS_eq, sendDataUsingTLS_ends
-/
import EventPlus.Client.Releases

namespace EventPlus

/-! ## The function -/

/-- What the calls below the client answer in one run. -/
structure ClientOutcomes where
  contextCreated : Bool
  addrs : Option (List Attempt)
  sslCreated : Bool
  sslConnected : Bool
  written : Int
  read : List UInt8
deriving Repr, Inhabited, DecidableEq

namespace TLSClient

/-- `sendDataUsingTLS` from step 5 on. -/
def transfer (outcomes : ClientOutcomes) (client : TLSClient) :
    Except ClientFault (Int × TLSClient) := do
  let bytesSent ← client.sendData outcomes.written
  if bytesSent ≤ 0 then
    let closed ← client.close
    return (-1, closed)
  let response ← client.receiveData 1024 outcomes.read
  -- the constructor in `ReceiveData` does not throw for this size
  if response.all List.isEmpty then
    let closed ← client.close
    return (-1, closed)
  let closed ← client.close
  return (0, closed)

/-- `sendDataUsingTLS` from step 3 on: its result, and the client it leaves to
the destructor. -/
def exchange (numbering : Numbering) (outcomes : ClientOutcomes)
    (client : TLSClient) : Except ClientFault (Int × TLSClient) := do
  let initialised := client.init outcomes.contextCreated
  if initialised.1 = false then
    return (-1, initialised.2)
  let connected ← initialised.2.connect numbering outcomes.addrs
    outcomes.sslCreated outcomes.sslConnected
  if connected.1 = false then
    return (-1, connected.2)
  connected.2.transfer outcomes

end TLSClient

/-- `sendDataUsingTLS`.  Every `return` runs the destructor of `client`. -/
def sendDataUsingTLS (numbering : Numbering) (socketId : Int)
    (outcomes : ClientOutcomes) : Except ClientFault (Int × TLSClient) := do
  let returned ← (TLSClient.construct socketId).exchange numbering outcomes
  let destroyed ← returned.2.destruct
  return (returned.1, destroyed)

/-! ## The calls it makes -/

namespace ClientOutcomes

/-- `Connect` gets past `CreateSocket`. -/
def reaches (outcomes : ClientOutcomes) : Bool :=
  outcomes.contextCreated && getsSocket outcomes.addrs

/-- `Connect` returns true. -/
def connects (outcomes : ClientOutcomes) : Bool :=
  getsSocket outcomes.addrs && outcomes.sslCreated && outcomes.sslConnected

def initCall (outcomes : ClientOutcomes) : ClientCall :=
  .init outcomes.contextCreated

def connectCall (outcomes : ClientOutcomes) : ClientCall :=
  .connect outcomes.addrs outcomes.sslCreated outcomes.sslConnected

/-- The calls from step 5 on. -/
def transferCalls (outcomes : ClientOutcomes) : List ClientCall :=
  .sendData outcomes.written ::
    if outcomes.written ≤ 0 then [.close]
    else [.receiveData 1024 outcomes.read, .close]

/-- The calls before the destructor's. -/
def calls (outcomes : ClientOutcomes) : List ClientCall :=
  outcomes.initCall ::
    if outcomes.contextCreated then
      outcomes.connectCall ::
        if outcomes.connects then outcomes.transferCalls else []
    else []

/-- Something is sent and something received. -/
def transfers (outcomes : ClientOutcomes) : Bool :=
  0 < outcomes.written && !outcomes.read.isEmpty

/-- What the function returns: 0 when every call did what it is for. -/
def result (outcomes : ClientOutcomes) : Int :=
  if outcomes.contextCreated && outcomes.connects && outcomes.transfers then 0
  else -1

end ClientOutcomes

namespace TLSClient

theorem createSocket_answer (numbering : Numbering)
    (addrs : Option (List Attempt)) (socketId : Int) (host : Host) :
    (createSocket numbering addrs socketId host).1 = getsSocket addrs := by
  cases attempted : attemptsAddress addrs with
  | false =>
      obtain ⟨called, created, fails, -⟩ :=
        createSocket_unattempted socketId host attempted
      rw [created, fails]
  | true =>
      obtain ⟨chosen, called, created, -⟩ :=
        createSocket_attempted socketId host attempted
      rw [created]

theorem handshake_answer (client : TLSClient)
    (sslCreated sslConnected : Bool) :
    (client.newSession sslCreated).handshake sslConnected =
      .ok (client.ctx.isSome && sslCreated && sslConnected,
        client.newSession sslCreated) := by
  unfold newSession
  cases client.ctx.isSome && sslCreated with
  | false => rfl
  | true =>
      rw [handshake, dereference_ok rfl]
      change Except.bind (useSSL _ _) _ = _
      rw [useSSL_ok List.mem_cons_self]
      rfl

/-- What `Connect` returns on a client with a context. -/
theorem connect_answer (numbering : Numbering) (client : TLSClient)
    (outcomes : ClientOutcomes) (context : client.ctx.isSome = true) :
    ∃ after, client.connect numbering outcomes.addrs outcomes.sslCreated
      outcomes.sslConnected = .ok (outcomes.connects, after) := by
  have answer := createSocket_answer numbering outcomes.addrs client.socketId
    client.host
  unfold connect ClientOutcomes.connects
  rw [← answer]
  dsimp only
  cases (createSocket numbering outcomes.addrs client.socketId client.host).1
    with
  | false => exact ⟨_, rfl⟩
  | true =>
      rw [if_pos rfl, handshake_answer]
      change ∃ after, Except.ok (client.ctx.isSome && _ && _, _) = _
      rw [context]
      exact ⟨_, rfl⟩

/-- `Close` comes last. -/
theorem closes_eq (numbering : Numbering) (value : Int) (client : TLSClient) :
    (do
      let closed ← client.close
      return (value, closed)) =
      ([ClientCall.close].foldlM (step numbering) client).map (value, ·) := by
  rw [List.foldlM_cons, step]
  cases client.close <;> rfl

/-- The calls from step 5 on. -/
theorem transfer_eq (numbering : Numbering) (outcomes : ClientOutcomes)
    (client : TLSClient) :
    client.transfer outcomes =
      (outcomes.transferCalls.foldlM (step numbering) client).map
        (if outcomes.transfers then 0 else -1, ·) := by
  unfold transfer ClientOutcomes.transferCalls ClientOutcomes.transfers
  rw [List.foldlM_cons, step, sendData]
  cases used : client.useSession with
  | error fault => rfl
  | ok session =>
      change (if outcomes.written ≤ 0 then _ else _) =
        Except.map _ (List.foldlM _ client _)
      by_cases unsent : outcomes.written ≤ 0
      · rw [if_pos unsent, if_pos unsent,
          decide_eq_false (Int.not_lt.mpr unsent)]
        exact closes_eq numbering (-1) client
      · have received : client.receiveData 1024 outcomes.read =
            .ok (some (outcomes.read.take 1024)) := by
          rw [receiveData, used]
          rfl
        have called : step numbering client
            (.receiveData 1024 outcomes.read) = .ok client := by
          rw [step, received]
          rfl
        rw [if_neg unsent, if_neg unsent,
          decide_eq_true (Int.not_le.mp unsent), received, List.foldlM_cons,
          called]
        cases outcomes.read with
        | nil => exact closes_eq numbering (-1) client
        | cons byte rest => exact closes_eq numbering 0 client

/-- The client makes those calls, and returns that result. -/
theorem exchange_eq (numbering : Numbering) (outcomes : ClientOutcomes)
    (client : TLSClient) :
    client.exchange numbering outcomes =
      (outcomes.calls.foldlM (step numbering) client).map
        (outcomes.result, ·) := by
  unfold exchange ClientOutcomes.calls ClientOutcomes.result
  cases created : outcomes.contextCreated with
  | false =>
      rw [ClientOutcomes.initCall, created]
      rfl
  | true =>
      obtain ⟨after, connected⟩ := connect_answer numbering (client.init true).2
        outcomes rfl
      have initialised : (client.init true).1 = true := rfl
      have called : step numbering (client.init true).2 outcomes.connectCall =
          .ok after := by
        rw [ClientOutcomes.connectCall, step, connected]
        rfl
      rw [if_pos rfl, List.foldlM_cons, ClientOutcomes.initCall, created]
      change Except.bind _ _ =
        Except.map _ (List.foldlM _ (client.init true).2 _)
      rw [List.foldlM_cons, called, connected, Bool.true_and]
      cases outcomes.connects with
      | false => rfl
      | true => exact transfer_eq numbering outcomes after

end TLSClient

/-- The destructor's `Close` follows them. -/
theorem sendDataUsingTLS_eq (numbering : Numbering) (socketId : Int)
    (outcomes : ClientOutcomes) :
    sendDataUsingTLS numbering socketId outcomes =
      ((outcomes.calls ++ [ClientCall.close]).foldlM
        (TLSClient.step numbering)
        (TLSClient.construct socketId)).map (outcomes.result, ·) := by
  rw [sendDataUsingTLS, TLSClient.exchange_eq, List.foldlM_append]
  cases outcomes.calls.foldlM (TLSClient.step numbering)
    (TLSClient.construct socketId) with
  | error fault => rfl
  | ok left => exact TLSClient.closes_eq numbering outcomes.result left

/-! ## The order of the calls -/

namespace ClientOutcomes

variable {outcomes : ClientOutcomes}

/-- What is held once there is a socket. -/
theorem after_connectCall {held : Holdings}
    (reached : getsSocket outcomes.addrs = true) :
    held.after outcomes.connectCall =
      { held with
          store := true
          session := held.context && outcomes.sslCreated
          socket := true } := by
  rw [connectCall, Holdings.after, reached]
  rfl

/-- From a session on, the calls come in order. -/
theorem inOrder_transferCalls {held : Holdings} (stored : held.store = true)
    (session : held.session = true) :
    holdings.Along Holdings.InOrder held
      (outcomes.transferCalls ++ [.close]) := by
  unfold transferCalls
  split
  · exact ⟨session, stored, stored, trivial⟩
  · exact ⟨session, fun _ => session, stored, stored, trivial⟩

/-- Past `CreateSocket` all of them do. -/
theorem inOrder_calls (reaches : outcomes.reaches = true) :
    holdings.Along Holdings.InOrder .nothing
      (outcomes.calls ++ [.close]) := by
  obtain ⟨created, reached⟩ := Bool.and_eq_true_iff.mp reaches
  unfold calls
  rw [initCall, created, if_pos rfl]
  refine ⟨trivial, trivial, ?_⟩
  rw [after_connectCall reached]
  cases connects : outcomes.connects with
  | false => exact ⟨rfl, trivial⟩
  | true =>
      rw [ClientOutcomes.connects, Bool.and_eq_true_iff,
        Bool.and_eq_true_iff] at connects
      exact inOrder_transferCalls rfl connects.1.2

/-- No call overwrites anything. -/
theorem spares_calls (outcomes : ClientOutcomes) :
    holdings.Along Holdings.Spares .nothing outcomes.calls := by
  unfold calls
  refine ⟨rfl, ?_⟩
  split
  · refine ⟨fun _ => rfl, ?_⟩
    split
    · unfold transferCalls
      split
      · exact ⟨trivial, trivial, trivial⟩
      · exact ⟨trivial, trivial, trivial, trivial⟩
    · trivial
  · trivial

/-- Short of it nothing goes wrong yet, and there is no store. -/
theorem calls_of_unreached (unreached : outcomes.reaches = false) :
    holdings.Along Holdings.InOrder .nothing outcomes.calls ∧
      (outcomes.calls.foldl Holdings.after .nothing).store = false := by
  unfold calls
  cases created : outcomes.contextCreated with
  | false => exact ⟨⟨trivial, trivial⟩, rfl⟩
  | true =>
      rw [reaches, created, Bool.true_and] at unreached
      have unconnected : outcomes.connects = false := by
        rw [connects, unreached]
        rfl
      rw [if_pos rfl, unconnected]
      refine ⟨⟨trivial, trivial, trivial⟩, ?_⟩
      change (Holdings.after _ outcomes.connectCall).store = false
      rw [connectCall, Holdings.after, unreached]
      cases attemptsAddress outcomes.addrs <;> rfl

end ClientOutcomes

/-! ## The whole function -/

/-- A client that gets a socket runs to its end: it returns 0 when everything
was sent and received as it should and -1 otherwise, and on either way out has
released its context, its session and every socket exactly once.  One that gets
none ends in the null `m_clientSocket` of its destructor.  The calls of OpenSSL
and of the kernel are taken to return: `SIGPIPE` is ignored. -/
theorem sendDataUsingTLS_ends (numbering : Numbering) (socketId : Int)
    (outcomes : ClientOutcomes) :
    (outcomes.reaches = true →
      ∃ last, sendDataUsingTLS numbering socketId outcomes =
        .ok (outcomes.result, last) ∧ last.ReleasedOnce) ∧
    (outcomes.reaches = false →
      sendDataUsingTLS numbering socketId outcomes =
        .error .nullClientSocket) := by
  have follows := TLSClient.simulation numbering
  have constructed := TLSClient.tracks_construct socketId
  rw [sendDataUsingTLS_eq]
  constructor
  · intro reaches
    obtain ⟨last, ran⟩ := (follows.succeeds_iff_along constructed).mpr
      (ClientOutcomes.inOrder_calls reaches)
    obtain ⟨left, called, taken⟩ := Simulation.last_step_of_foldlM ran
    have tracks := follows.related_last constructed called
    have closed := TLSClient.closed_of_close tracks taken
    have nothingLost : left.NothingLost :=
      (follows.last_iff_along TLSClient.nothingLost_step constructed
        called).mpr ⟨TLSClient.nothingLost_construct socketId,
          outcomes.spares_calls⟩
    refine ⟨last, ?_, ?_⟩
    · rw [ran]
      rfl
    · rw [TLSClient.releasedOnce_of_closed tracks closed,
        TLSClient.nothingLost_close tracks closed]
      exact nothingLost
  · intro unreached
    obtain ⟨inOrder, unstored⟩ :=
      ClientOutcomes.calls_of_unreached unreached
    obtain ⟨left, called⟩ :=
      (follows.succeeds_iff_along constructed).mpr inOrder
    have tracks := follows.related_last constructed called
    have failed : left.close = .error .nullClientSocket :=
      TLSClient.close_error (tracks.store.trans unstored)
    rw [List.foldlM_append, called]
    change Except.map _ ([ClientCall.close].foldlM _ left) = _
    rw [List.foldlM_cons, TLSClient.step, failed]
    rfl

/-- A server that refuses one address, takes the other, and sends nothing
back. -/
theorem sendDataUsingTLS_ends_unanswered :
    ∃ last, sendDataUsingTLS (.lowestFrom 3) 0
        { contextCreated := true
          addrs := some
            [TLSClient.refusedAddress, TLSClient.acceptedAddress]
          sslCreated := true
          sslConnected := true
          written := 18
          read := [] } = .ok (-1, last) ∧ last.ReleasedOnce :=
  (sendDataUsingTLS_ends (.lowestFrom 3) 0 _).1 rfl

end EventPlus

/-
Module: EventPlus.Client.Releases
Purpose: What `Init`, `Connect` and `Close` in any order have released by the
  end of the client, and exactly when that is everything, once.
Trusted boundary: none
Main exports:
  ClientCall.setsUp, connectsFirst, Holdings.Spares, TLSClient.ReleasedOnce,
  TLSClient.NothingLost, TLSClient.nothingLost_step, TLSClient.released_iff
-/
import EventPlus.Client.TLSClient

namespace EventPlus

/-! ## The runs in question -/

/-- `Init`, `Connect` and `Close`. -/
def ClientCall.setsUp : ClientCall → Bool
  | .init _ => true
  | .connect _ _ _ => true
  | .sendData _ => false
  | .receiveData _ _ => false
  | .close => true

/-- Some `Connect` gets past `CreateSocket` before the first `Close`. -/
def connectsFirst : List ClientCall → Bool
  | [] => false
  | .connect addrs _ _ :: rest => getsSocket addrs || connectsFirst rest
  | .close :: _ => false
  | _ :: rest => connectsFirst rest

/-- A call that overwrites nothing: `Init` without a context, and `Connect`
without a socket, unless it finds no address to attempt. -/
def Holdings.Spares (held : Holdings) : ClientCall → Prop
  | .init _ => held.context = false
  | .connect addrs _ _ => attemptsAddress addrs = true → held.socket = false
  | .sendData _ => True
  | .receiveData _ _ => True
  | .close => True

namespace TLSClient

/-- Every context, session and socket the client has made has been released
exactly once, and nothing else has. -/
structure ReleasedOnce (client : TLSClient) : Prop where
  contexts : client.contexts.ReleasedOnce
  sessions : client.sessions.ReleasedOnce
  sockets : client.host.sockets.ledger.ReleasedOnce

/-- All that is live can still be released. -/
structure NothingLost (client : TLSClient) : Prop where
  contexts : client.contextOwner.NothingLost
  sessions : client.sessionOwner.NothingLost
  sockets : client.socketOwner.NothingLost

/-! ## One call -/

section Step

variable {numbering : Numbering} {client after : TLSClient} {held : Holdings}

theorem nothingLost_construct (socketId : Int) :
    NothingLost (construct socketId) := by
  constructor <;> intro thing live <;> cases live

/-- `Init` loses the context before. -/
theorem nothingLost_init (tracks : Tracks client held)
    (contextCreated : Bool) :
    NothingLost (client.init contextCreated).2 ↔
      NothingLost client ∧ held.Spares (.init contextCreated) := by
  obtain ⟨-, session, socket, -⟩ := client.initCTX_frame contextCreated
  have context := (Owner.replaced_assign client.contextOwner
    contextCreated).nothingLost_iff tracks.contexts
  rw [← contextOwner_initCTX,
    Owner.pointer_eq_none_iff tracks.context] at context
  constructor
  · intro nothingLost
    obtain ⟨contexts, spared⟩ := context.mp nothingLost.contexts
    exact ⟨⟨contexts, session ▸ nothingLost.sessions,
      socket ▸ nothingLost.sockets⟩, spared⟩
  · rintro ⟨nothingLost, spared⟩
    exact ⟨context.mpr ⟨nothingLost.contexts, spared⟩,
      session.symm ▸ nothingLost.sessions,
      socket.symm ▸ nothingLost.sockets⟩

/-- `Connect` loses the socket before, and with it a session over it. -/
theorem nothingLost_connect (tracks : Tracks client held)
    {addrs : Option (List Attempt)} {sslCreated : Bool}
    (connected : Connected client addrs sslCreated after)
    (sslConnected : Bool) :
    NothingLost after ↔
      NothingLost client ∧
        held.Spares (.connect addrs sslCreated sslConnected) := by
  rw [Holdings.Spares]
  cases connected with
  | unattempted host unattempted fails same =>
      have socket : socketOwner { client with host := host } =
          client.socketOwner :=
        socketOwner_of_sockets same
      rw [unattempted]
      constructor
      · intro nothingLost
        refine ⟨⟨nothingLost.contexts, nothingLost.sessions, ?_⟩, nofun⟩
        rw [← socket]
        exact nothingLost.sockets
      · rintro ⟨nothingLost, -⟩
        refine ⟨nothingLost.contexts, nothingLost.sessions, ?_⟩
        rw [socket]
        exact nothingLost.sockets
  | failed host attempted fails replaced =>
      have socket := replaced.nothingLost_iff tracks.sockets
      rw [Owner.pointer_eq_none_iff tracks.socket] at socket
      rw [imp_iff_right attempted]
      constructor
      · intro nothingLost
        obtain ⟨sockets, spared⟩ := socket.mp nothingLost.sockets
        exact ⟨⟨nothingLost.contexts, nothingLost.sessions, sockets⟩, spared⟩
      · rintro ⟨nothingLost, spared⟩
        exact ⟨nothingLost.contexts, nothingLost.sessions,
          socket.mpr ⟨nothingLost.sockets, spared⟩⟩
  | reached opened attempted reaches replaced isOpen context session =>
      obtain ⟨-, contextAfter, socketAfter⟩ :=
        opened.newSession_frame sslCreated
      have socket := replaced.nothingLost_iff tracks.sockets
      rw [Owner.pointer_eq_none_iff tracks.socket, ← socketAfter] at socket
      have sessions := (Owner.replaced_assign client.sessionOwner
        (opened.ctx.isSome && sslCreated)).nothingLost_iff tracks.sessions
      rw [Owner.pointer_eq_none_iff tracks.session, ← session,
        ← sessionOwner_newSession, session] at sessions
      rw [imp_iff_right attempted]
      constructor
      · intro nothingLost
        obtain ⟨sockets, spared⟩ := socket.mp nothingLost.sockets
        refine ⟨⟨?_, (sessions.mp nothingLost.sessions).1, sockets⟩, spared⟩
        rw [← context, ← contextAfter]
        exact nothingLost.contexts
      · rintro ⟨nothingLost, spared⟩
        have unheld : held.session = false := by
          rw [Bool.eq_false_iff]
          intro heldSession
          have heldSocket := tracks.tied nothingLost.sockets heldSession
          rw [spared] at heldSocket
          cases heldSocket
        refine ⟨?_, sessions.mpr ⟨nothingLost.sessions, unheld⟩,
          socket.mpr ⟨nothingLost.sockets, spared⟩⟩
        rw [contextAfter, context]
        exact nothingLost.contexts

/-- `Close` loses nothing and finds nothing that was lost. -/
theorem nothingLost_close (tracks : Tracks client held)
    (closed : Closed client after) :
    NothingLost after ↔ NothingLost client := by
  have contexts := Owner.nothingLost_release_iff tracks.contexts
  have sessions := Owner.nothingLost_release_iff tracks.sessions
  have sockets := Owner.nothingLost_release_iff tracks.sockets
  rw [← closed.contexts] at contexts
  rw [← closed.sessions] at sessions
  rw [← closed.sockets] at sockets
  constructor
  · intro nothingLost
    exact ⟨contexts.mp nothingLost.contexts, sessions.mp nothingLost.sessions,
      sockets.mp nothingLost.sockets⟩
  · intro nothingLost
    exact ⟨contexts.mpr nothingLost.contexts,
      sessions.mpr nothingLost.sessions, sockets.mpr nothingLost.sockets⟩

/-- `Close` leaves three null pointers, so what is not released then never
is. -/
theorem releasedOnce_of_closed (tracks : Tracks client held)
    (closed : Closed client after) :
    ReleasedOnce after ↔ NothingLost after := by
  have contexts := Owner.releasedOnce_iff_nothingLost
    tracks.contexts.release Owner.pointer_release
  have sessions := Owner.releasedOnce_iff_nothingLost
    tracks.sessions.release Owner.pointer_release
  have sockets := Owner.releasedOnce_iff_nothingLost
    tracks.sockets.release Owner.pointer_release
  rw [← closed.contexts] at contexts
  rw [← closed.sessions] at sessions
  rw [← closed.sockets] at sockets
  constructor
  · intro released
    exact ⟨contexts.mp released.contexts, sessions.mp released.sessions,
      sockets.mp released.sockets⟩
  · intro nothingLost
    exact ⟨contexts.mpr nothingLost.contexts,
      sessions.mpr nothingLost.sessions, sockets.mpr nothingLost.sockets⟩

theorem closed_of_close (tracks : Tracks client held)
    (taken : client.close = .ok after) : Closed client after := by
  cases stored : held.store with
  | false =>
      rw [close_error (tracks.store.trans stored)] at taken
      cases taken
  | true =>
      obtain ⟨same, returned, closed⟩ := close_ok
        (tracks.store.trans stored) tracks.sessions (tracks.valid stored)
      rw [returned] at taken
      cases taken
      exact closed

/-- A call that only uses the session leaves the client as it is. -/
theorem eq_of_map_ok {β : Type} {result : Except ClientFault β}
    (taken : (result.map fun _ => client) = .ok after) : after = client := by
  cases result with
  | error fault => cases taken
  | ok value =>
      cases taken
      rfl

/-- A call loses something exactly when it overwrites something. -/
theorem nothingLost_step {call : ClientCall} (tracks : Tracks client held)
    (taken : client.step numbering call = .ok after) :
    NothingLost after ↔ NothingLost client ∧ held.Spares call := by
  cases call with
  | init contextCreated =>
      cases taken
      exact nothingLost_init tracks contextCreated
  | connect addrs sslCreated sslConnected =>
      obtain ⟨answer, left, returned, connected⟩ :=
        connect_connected client addrs sslCreated sslConnected
      rw [step, returned] at taken
      cases taken
      exact nothingLost_connect tracks connected sslConnected
  | sendData written =>
      rw [eq_of_map_ok taken]
      exact (and_iff_left trivial).symm
  | receiveData size read =>
      rw [eq_of_map_ok taken]
      exact (and_iff_left trivial).symm
  | close =>
      rw [nothingLost_close tracks (closed_of_close tracks taken)]
      exact (and_iff_left trivial).symm

end Step

/-! ## Whole runs -/

/-- Without `SendData` and `ReceiveData` only the first `Close` can be out of
order. -/
theorem inOrder_of_connectsFirst {held : Holdings} {calls : List ClientCall}
    (restricted : ∀ call ∈ calls, call.setsUp = true)
    (stored : held.store = true ∨ connectsFirst calls = true) :
    holdings.Along Holdings.InOrder held (calls ++ [.close]) := by
  induction calls generalizing held with
  | nil =>
      rcases stored with stored | never
      · exact ⟨stored, trivial⟩
      · cases never
  | cons call rest inductionHypothesis =>
      obtain ⟨here, later⟩ := List.forall_mem_cons.mp restricted
      cases call with
      | init contextCreated =>
          exact ⟨trivial, inductionHypothesis later stored⟩
      | connect addrs sslCreated sslConnected =>
          refine ⟨trivial, inductionHypothesis later ?_⟩
          rw [Holdings.after]
          cases reaches : getsSocket addrs with
          | true => exact .inl rfl
          | false =>
              rw [connectsFirst, reaches, Bool.false_or] at stored
              cases attemptsAddress addrs <;> exact stored
      | sendData written => cases here
      | receiveData size read => cases here
      | close =>
          rcases stored with stored | never
          · exact ⟨stored, inductionHypothesis later (.inl stored)⟩
          · cases never

/-- When some `Connect` gets past `CreateSocket` before the first `Close`, the
client runs to its end, and by then it has released everything it made exactly
once if and only if no `Init` came while it held a context and no `Connect`
attempted an address while it held a socket. -/
theorem released_iff (numbering : Numbering) (socketId : Int)
    (calls : List ClientCall)
    (restricted : ∀ call ∈ calls, call.setsUp = true)
    (connected : connectsFirst calls = true) :
    ∃ after, lifetime numbering socketId calls = .ok after ∧
      (ReleasedOnce after ↔
        holdings.Along Holdings.Spares .nothing calls) := by
  have inOrder : holdings.Along Holdings.InOrder .nothing
      (calls ++ [.close]) :=
    inOrder_of_connectsFirst restricted (.inr connected)
  have follows := simulation numbering
  obtain ⟨after, ran⟩ :=
    (follows.succeeds_iff_along (tracks_construct socketId)).mpr inOrder
  refine ⟨after, (lifetime_eq numbering socketId calls).trans ran, ?_⟩
  obtain ⟨last, called, taken⟩ := Simulation.last_step_of_foldlM ran
  have tracks := follows.related_last (tracks_construct socketId) called
  have closed := closed_of_close tracks taken
  have spared : NothingLost last ↔
      NothingLost (construct socketId) ∧
        holdings.Along Holdings.Spares .nothing calls :=
    follows.last_iff_along nothingLost_step (tracks_construct socketId) called
  rw [releasedOnce_of_closed tracks closed, nothingLost_close tracks closed,
    spared]
  exact and_iff_right (nothingLost_construct socketId)

/-- A client that connects again only after `Close` has released everything. -/
theorem released_iff_again :
    ∃ after, lifetime (.lowestFrom 3) 0
      [.init true, .connect (some [acceptedAddress]) true true, .close,
        .init true, .connect (some [refusedAddress, acceptedAddress]) true
          false] = .ok after ∧ ReleasedOnce after := by
  obtain ⟨after, survived, released⟩ := released_iff (.lowestFrom 3) 0
    [.init true, .connect (some [acceptedAddress]) true true, .close,
      .init true, .connect (some [refusedAddress, acceptedAddress]) true false]
    (by decide) (by decide)
  refine ⟨after, survived, released.mpr ?_⟩
  exact ⟨rfl, fun _ => rfl, trivial, rfl, fun _ => rfl, trivial⟩

/-- The contexts, sessions and sockets that are never released. -/
def leaked (calls : List ClientCall) :
    Except ClientFault (List Nat × List Nat × List Nat) :=
  (lifetime (.lowestFrom 3) 0 calls).map fun after =>
    (after.contexts.live, after.sessions.live, after.host.sockets.ledger.live)

/-- A second `Init` loses a context, a second `Connect` a session and a socket,
and one that fails loses the socket. -/
theorem lifetime_leaks :
    ¬(∀ numbering socketId calls, (∀ call ∈ calls, call.setsUp = true) →
      connectsFirst calls = true →
      ∃ after, lifetime numbering socketId calls = .ok after ∧
        ReleasedOnce after) ∧
    leaked [.init true, .init true,
      .connect (some [acceptedAddress]) true true] = .ok ([0], [], []) ∧
    leaked [.init true, .connect (some [acceptedAddress]) true true,
      .connect (some [acceptedAddress]) true true] = .ok ([], [0], [0]) ∧
    leaked [.init true, .connect (some [acceptedAddress]) true true,
      .connect (some [refusedAddress]) true true] = .ok ([], [], [0]) := by
  have twice : leaked [.init true, .init true,
      .connect (some [acceptedAddress]) true true] = .ok ([0], [], []) := rfl
  refine ⟨?_, twice, rfl, rfl⟩
  intro always
  obtain ⟨after, survived, released⟩ := always (.lowestFrom 3) 0
    [.init true, .init true, .connect (some [acceptedAddress]) true true]
    (by decide) (by decide)
  have none_live := (Ledger.releasedOnce_iff.mp released.contexts).2
  rw [leaked, survived] at twice
  have live : after.contexts.live = [0] :=
    congrArg Prod.fst (Except.ok.inj twice)
  rw [none_live] at live
  cases live

end TLSClient

end EventPlus

/-
Module: EventPlus.Server.Affinity
Purpose: Which poller serves which connection: it follows from the connection's
  place among those accepted, and never changes.
Trusted boundary: none
Main exports:
  Server.rank, Affinity, affinity_of_reachable, connections_take_turns
-/
import Mathlib.Data.List.Range
import EventPlus.Server.Ownership
import EventPlus.Server.StoreMap

namespace EventPlus

open Function (update)

/-- The number of stores made before this one.  A connection whose `inet_ntop`
failed has no store. -/
def Server.rank (server : Server) (store : ConnectionId) : Nat :=
  (List.range store).countP fun earlier => server.lifetime earlier ≠ .unborn

/-- The stores made for which `addSocket` has not been called yet. -/
def AcceptPoint.unassigned : AcceptPoint → Nat
  | .admitting .initConnection _ | .admitting .addSocket _ => 1
  | _ => 0

/-- `m_currentIndex` has advanced once for each store, and every store has got
the poller that was due. -/
structure Affinity (config : Config) (server : Server) : Prop where
  index : ∃ assigned,
    server.rank server.accepted =
        assigned + server.acceptThread.unassigned ∧
      server.currentIndex = assigned % config.numPollers
  assigned : ∀ poller store, server.registeredWith store = some poller →
    poller = (server.rank store + 1) % config.numPollers
  handled : ∀ poller store,
    (server.store store).socketEventHandler = some poller →
      server.registeredWith store = some poller

/-! ## The rank -/

theorem Server.rank_congr {before after : Server} {store : ConnectionId}
    (made : ∀ earlier < store,
      after.lifetime earlier = .unborn ↔ before.lifetime earlier = .unborn) :
    after.rank store = before.rank store := by
  apply List.countP_congr
  intro earlier member
  simp [made earlier (List.mem_range.mp member)]

/-- A store that has been made counts. -/
theorem Server.rank_succ {server : Server} {store : ConnectionId}
    (made : server.lifetime store ≠ .unborn) :
    server.rank (store + 1) = server.rank store + 1 := by
  simp [rank, List.range_succ, made]

theorem Server.rank_succ_unborn {server : Server} {store : ConnectionId}
    (unborn : server.lifetime store = .unborn) :
    server.rank (store + 1) = server.rank store := by
  simp [rank, List.range_succ, unborn]

/-! ## Steps that assign nothing -/

/-- Nothing that bears on the assignment changes. -/
structure Unrouted (before after : Server) : Prop where
  made : ∀ store,
    after.lifetime store = .unborn ↔ before.lifetime store = .unborn
  accepted : after.accepted = before.accepted
  currentIndex : after.currentIndex = before.currentIndex
  registeredWith : after.registeredWith = before.registeredWith
  handler : ∀ store, (after.store store).socketEventHandler =
    (before.store store).socketEventHandler
  unassigned :
    after.acceptThread.unassigned = before.acceptThread.unassigned

namespace Unrouted

theorem closeConnection (config : Config) (server : Server)
    (store : ConnectionId) :
    Unrouted server (server.closeConnection config store) := by
  rcases server.closeConnection_cases config store with
    result | result | result
  · rw [result]
    exact ⟨fun _ => Iff.rfl, rfl, rfl, rfl, fun _ => rfl, rfl⟩
  · rw [result]
    exact ⟨fun _ => Iff.rfl, rfl, rfl, rfl, fun _ => rfl, rfl⟩
  · rw [result]
    exact ⟨fun _ => Iff.rfl, rfl, rfl, rfl,
      fun other => Server.handler_setSSL store other .null, rfl⟩

theorem initConnection (config : Config) (server : Server)
    (store : ConnectionId) (outcome : Handshake) :
    Unrouted server (server.initConnection config store outcome) := by
  obtain ⟨ssl, result | result⟩ :=
    Server.initConnection_cases config server store outcome
  · rw [result]
    exact ⟨fun _ => Iff.rfl, rfl, rfl, rfl,
      fun other => Server.handler_setSSL store other ssl, rfl⟩
  · rw [result]
    exact ⟨fun _ => Iff.rfl, rfl, rfl, rfl,
      fun other => Server.handler_setSSL store other ssl, rfl⟩

theorem network {before after : Server} {action : Action}
    (taken : NetworkStep before action after) : Unrouted before after := by
  cases taken <;> exact ⟨fun _ => Iff.rfl, rfl, rfl, rfl, fun _ => rfl, rfl⟩

theorem pollerStep {config : Config} {before after : Server}
    {poller : PollerId} {choice : PollerChoice} (map : StoreMap before)
    (taken : PollerStep config before poller choice after) :
    Unrouted before after := by
  cases taken with
  | setIncoming store rest at_point =>
      exact ⟨fun _ => Iff.rfl, rfl, rfl, rfl,
        fun other => Server.handler_setEventType store other .incomingData,
        rfl⟩
  | setClosed store rest at_point =>
      exact ⟨fun _ => Iff.rfl, rfl, rfl, rfl,
        fun other => Server.handler_setEventType store other .closedConnection,
        rfl⟩
  | closeConnection store rest at_point =>
      exact { Unrouted.closeConnection config before store with }
  | erase store rest at_point =>
      exact ⟨map.unborn_eraseStore store, rfl, rfl, rfl, fun _ => rfl, rfl⟩
  | _ => exact ⟨fun _ => Iff.rfl, rfl, rfl, rfl, fun _ => rfl, rfl⟩

theorem workerStep {config : Config} {before after : Server}
    {worker : WorkerId} {choice : WorkerChoice}
    (taken : WorkerStep config before worker choice after) :
    Unrouted before after := by
  cases taken with
  | close task at_point may_close =>
      exact Unrouted.closeConnection config before task.eventStorePointer
  | _ => exact ⟨fun _ => Iff.rfl, rfl, rfl, rfl, fun _ => rfl, rfl⟩

theorem stopStep {config : Config} {before after : Server}
    (map : StoreMap before) (taken : StopStep config before after) :
    Unrouted before after := by
  cases taken with
  | closeListening closed at_point closes =>
      obtain ⟨_, _, result⟩ := Server.closeListening_frame closes
      rw [result]
      exact ⟨fun _ => Iff.rfl, rfl, rfl, rfl, fun _ => rfl, rfl⟩
  | closing store rest at_point =>
      exact { Unrouted.closeConnection config before store with }
  | clear at_point =>
      exact ⟨map.unborn_clearStores, rfl, rfl, rfl, fun _ => rfl, rfl⟩
  | _ => exact ⟨fun _ => Iff.rfl, rfl, rfl, rfl, fun _ => rfl, rfl⟩

end Unrouted

/-! ## The invariant -/

namespace Affinity

variable {config : Config} {before after : Server}

theorem start (config : Config) : Affinity config (Server.start config) where
  index := ⟨0, rfl, (Nat.zero_mod _).symm⟩
  assigned := by
    intro poller store registered
    cases registered
  handled := by
    intro poller store set
    cases set

theorem unrouted (affinity : Affinity config before)
    (same : Unrouted before after) : Affinity config after := by
  have ranks : ∀ store, after.rank store = before.rank store :=
    fun store => Server.rank_congr fun earlier _ => same.made earlier
  constructor
  · rw [same.accepted, same.currentIndex, same.unassigned, ranks]
    exact affinity.index
  · intro poller store registered
    rw [ranks]
    apply affinity.assigned
    rw [← same.registeredWith]
    exact registered
  · intro poller store set
    rw [same.registeredWith]
    apply affinity.handled
    rw [← same.handler]
    exact set

/-- A new store raises nobody's rank. -/
theorem rank_makeStore {kernel : Kernel} {fd : Fd} {ssl : SSLPointer}
    {store : ConnectionId} (older : store ≤ before.accepted) :
    (before.makeStore kernel fd ssl).rank store = before.rank store := by
  apply Server.rank_congr
  intro earlier bound
  have different : earlier ≠ before.accepted :=
    Nat.ne_of_lt (Nat.lt_of_lt_of_le bound older)
  simp only [Server.makeStore, Function.update_of_ne different]

/-- The store of the connection just accepted is not assigned yet. -/
theorem makeStore (affinity : Affinity config before)
    (owned : Ownership before) {fd : Fd} {ssl : SSLPointer} {kernel : Kernel}
    (at_point : before.acceptThread = .accept) :
    Affinity config
      { before.makeStore kernel fd ssl with
          acceptThread :=
            .admitting .initConnection before.accepted } := by
  obtain ⟨assigned, counted, current⟩ := affinity.index
  constructor
  · refine ⟨assigned, ?_, current⟩
    have made : (before.makeStore kernel fd ssl).lifetime before.accepted ≠
        .unborn := by
      simp [Server.makeStore]
    change (before.makeStore kernel fd ssl).rank (before.accepted + 1) = _
    rw [Server.rank_succ made, rank_makeStore (Nat.le_refl _), counted,
      at_point]
    rfl
  · intro poller store registered
    change poller =
      ((before.makeStore kernel fd ssl).rank store + 1) % config.numPollers
    rw [rank_makeStore (Nat.le_of_lt (owned.with_lt poller store registered))]
    exact affinity.assigned poller store registered
  · intro poller store set
    by_cases newest : store = before.accepted
    · subst newest
      simp [Server.makeStore] at set
    · simp only [Server.makeStore, Function.update_of_ne newest] at set
      exact affinity.handled poller store set

/-- Without a store nobody's rank changes. -/
theorem ntopFailed (affinity : Affinity config before) (map : StoreMap before)
    (kernel : Kernel) (at_point : before.acceptThread = .accept) :
    Affinity config
      { before with
          kernel := kernel
          accepted := before.accepted + 1
          acceptThread := .unlock } := by
  obtain ⟨assigned, counted, current⟩ := affinity.index
  refine { affinity with index := ⟨assigned, ?_, current⟩ }
  change before.rank (before.accepted + 1) = _
  rw [Server.rank_succ_unborn map.unborn_accepted, counted, at_point]
  rfl

/-- `addSocket` advances the index, which then names the poller that is due. -/
theorem nextIndex (affinity : Affinity config before) (map : StoreMap before)
    (owned : Ownership before) {store : ConnectionId}
    (at_point : before.acceptThread = .admitting .addSocket store) :
    before.nextIndex config = (before.rank store + 1) % config.numPollers ∧
      before.rank before.accepted = before.rank store + 1 := by
  obtain ⟨assigned, counted, current⟩ := affinity.index
  have made : before.lifetime store ≠ .unborn := by
    rw [map.admitting_alive _ store at_point]
    simp
  have total : before.rank before.accepted = before.rank store + 1 := by
    rw [← owned.admitting_last _ store at_point, Server.rank_succ made]
  have same : assigned = before.rank store := by
    rw [total, at_point] at counted
    exact (Nat.succ.inj counted).symm
  refine ⟨?_, total⟩
  rw [Server.nextIndex, current, same, Nat.mod_add_mod]

/-- The accept thread goes on after `addSocket`, which may have registered the
store. -/
theorem addSocket (affinity : Affinity config before) (map : StoreMap before)
    (owned : Ownership before) {store : ConnectionId}
    (at_point : before.acceptThread = .admitting .addSocket store)
    {point : AcceptPoint} (assigned : point.unassigned = 0)
    (kernel : Kernel) {registeredWith : ConnectionId → Option PollerId}
    (registers : registeredWith = before.registeredWith ∨
      registeredWith =
        update before.registeredWith store (some (before.nextIndex config))) :
    Affinity config
      { before with
          kernel := kernel
          currentIndex := before.nextIndex config
          registeredWith := registeredWith
          acceptThread := point } := by
  obtain ⟨next, total⟩ := affinity.nextIndex map owned at_point
  have fresh := owned.admitting_fresh store (.inr at_point)
  constructor
  · refine ⟨before.rank store + 1, ?_, next⟩
    rw [assigned]
    exact total
  · intro poller other registered
    change registeredWith other = some poller at registered
    change poller = (before.rank other + 1) % config.numPollers
    rcases registers with rfl | rfl
    · exact affinity.assigned poller other registered
    · by_cases here : other = store
      · subst here
        rw [Function.update_self] at registered
        rw [← next]
        exact (Option.some.inj registered).symm
      · rw [Function.update_of_ne here] at registered
        exact affinity.assigned poller other registered
  · intro poller other set
    have earlier := affinity.handled poller other set
    change registeredWith other = some poller
    rcases registers with rfl | rfl
    · exact earlier
    · by_cases here : other = store
      · subst here
        cases fresh.symm.trans earlier
      · rw [Function.update_of_ne here]
        exact earlier

/-- The back pointer names the poller the store was registered with. -/
theorem setBackPointer (affinity : Affinity config before)
    (owned : Ownership before) {poller : PollerId} {store : ConnectionId}
    (at_point : before.acceptThread = .admitting (.backPointer poller) store) :
    Affinity config
      { before.setBackPointer store poller with
          acceptThread := .admitting .insert store } := by
  obtain ⟨assigned, counted, current⟩ := affinity.index
  refine
    { affinity with
      index := ⟨assigned, ?_, current⟩
      handled := ?_ }
  · rw [at_point] at counted
    exact counted
  · intro handler other set
    change before.registeredWith other = some handler
    by_cases here : other = store
    · subst here
      simp only [Server.setBackPointer, Function.update_self,
        Option.some.injEq] at set
      rw [← set]
      exact owned.registering poller other at_point
    · simp only [Server.setBackPointer, Function.update_of_ne here] at set
      exact affinity.handled handler other set

theorem acceptStep {choice : AcceptChoice} (affinity : Affinity config before)
    (map : StoreMap before) (owned : Ownership before)
    (taken : AcceptStep config before choice after) :
    Affinity config after := by
  cases taken with
  | accepted fd ssl kernel at_point got =>
      exact affinity.makeStore owned at_point
  | ntopFailed fd ssl kernel at_point got =>
      exact affinity.ntopFailed map kernel at_point
  | initConnection store outcome at_point =>
      apply affinity.unrouted
      exact { Unrouted.initConnection config before store outcome with
        unassigned := by rw [at_point]; rfl }
  | registered store kernel at_point added =>
      exact affinity.addSocket map owned at_point rfl kernel (.inr rfl)
  | refused store granted at_point =>
      exact affinity.addSocket map owned at_point rfl before.kernel (.inl rfl)
  | backPointer poller store at_point =>
      exact affinity.setBackPointer owned at_point
  | insert store at_point =>
      apply affinity.unrouted
      exact ⟨map.unborn_insertStore store, rfl, rfl, rfl, fun _ => rfl,
        by rw [at_point]; rfl⟩
  | loop at_point =>
      apply affinity.unrouted
      refine ⟨fun _ => Iff.rfl, rfl, rfl, rfl, fun _ => rfl, ?_⟩
      rw [at_point]
      dsimp only
      split <;> rfl
  | handleEvent at_point =>
      apply affinity.unrouted
      refine ⟨fun _ => Iff.rfl, rfl, rfl, rfl, fun _ => rfl, ?_⟩
      rw [at_point]
      dsimp only
      split <;> rfl
  | report at_point =>
      apply affinity.unrouted
      exact ⟨fun _ => Iff.rfl, rfl, rfl, rfl, fun _ => rfl,
        by rw [at_point]; rfl⟩
  | timeout at_point =>
      apply affinity.unrouted
      exact ⟨fun _ => Iff.rfl, rfl, rfl, rfl, fun _ => rfl,
        by rw [at_point]; rfl⟩
  | lock at_point free =>
      apply affinity.unrouted
      exact ⟨fun _ => Iff.rfl, rfl, rfl, rfl, fun _ => rfl,
        by rw [at_point]; rfl⟩
  | acceptFailed lost at_point =>
      apply affinity.unrouted
      exact ⟨fun _ => Iff.rfl, rfl, rfl, rfl, fun _ => rfl,
        by rw [at_point]; rfl⟩
  | enqueue store at_point =>
      apply affinity.unrouted
      exact ⟨fun _ => Iff.rfl, rfl, rfl, rfl, fun _ => rfl,
        by rw [at_point]; rfl⟩
  | unlock at_point =>
      apply affinity.unrouted
      exact ⟨fun _ => Iff.rfl, rfl, rfl, rfl, fun _ => rfl,
        by rw [at_point]; rfl⟩

theorem serverStep {action : Action} (affinity : Affinity config before)
    (map : StoreMap before) (owned : Ownership before)
    (taken : ServerStep config before action after) :
    Affinity config after := by
  cases taken with
  | network taken => exact affinity.unrouted (.network taken)
  | accept choice taken => exact affinity.acceptStep map owned taken
  | poller poller choice bound taken =>
      exact affinity.unrouted (.pollerStep map taken)
  | worker worker choice bound taken =>
      exact affinity.unrouted (.workerStep taken)
  | stop taken => exact affinity.unrouted (.stopStep map taken)

end Affinity

theorem affinity_of_reachable {config : Config} {server : Server}
    (reachable : (tcpServer config).Reachable server) :
    Affinity config server := by
  refine TransitionSystem.Reachable.invariant ?_ ?_ reachable
  · rintro state rfl
    exact Affinity.start config
  · intro before action after reached taken affinity
    exact affinity.serverStep (storeMap_of_reachable reached)
      (ownership_of_reachable reached) (serverStep_of_step taken)

/-- The poller that serves a connection follows from the number of stores made
before its own, whatever `initConnection` and `epoll_ctl` return, however many
connections have been removed, and during `stopPolling`: it is the only one
the connection is ever registered with, the only one that has it in a batch or
is handling it, and the only one its back pointer can name. -/
theorem connections_take_turns {config : Config} {server : Server}
    (reachable : (tcpServer config).Reachable server) (poller : PollerId)
    (store : ConnectionId)
    (serves : store ∈ server.kernel.registered poller ∨
      store ∈ (server.pollerThread poller).held ∨
        (server.store store).socketEventHandler = some poller) :
    poller = (server.rank store + 1) % config.numPollers := by
  have affinity := affinity_of_reachable reachable
  have owned := ownership_of_reachable reachable
  apply affinity.assigned poller store
  rcases serves with registered | held | set
  · exact owned.registered_with poller store registered
  · exact owned.held_with poller store held
  · exact affinity.handled poller store set

/-- With two pollers: the registration of the second connection is refused, and
the third one is served by the second poller like the first. -/
theorem connections_take_turns_refused :
    ∃ server : Server,
      (tcpServer
          { handler := .tcp
            numPollers := 2
            numWorkers := 1 }).Reachable server ∧
        (server.rank 2 = 2 ∧ 0 ∈ server.kernel.registered 1 ∧
          2 ∈ server.kernel.registered 1) ∧
        1 = (server.rank 0 + 1) % 2 ∧ 1 = (server.rank 2 + 1) % 2 := by
  obtain ⟨server, reachable, at_state⟩ :=
    exists_server_of_replay
      { handler := .tcp
        numPollers := 2
        numWorkers := 1 }
      (fun _ _ => True)
      (fun server =>
        server.rank 2 = 2 ∧ 0 ∈ server.kernel.registered 1 ∧
          2 ∈ server.kernel.registered 1)
      (connectAndAdmit 4 ++ [.connect] ++ reachAccept ++
        [.accept (.accepted 5 true .indeterminate),
          .accept (.handshake { certificate := true, sslAccept := 1 }),
          .accept (.epollCtl false), .accept .proceed, .accept .proceed,
          .accept .proceed] ++
        connectAndAdmit 6)
      (by decide)
  refine ⟨server, reachable, at_state, ?_, ?_⟩
  · exact connections_take_turns reachable 1 0 (.inl at_state.2.1)
  · exact connections_take_turns reachable 1 2 (.inl at_state.2.2)

end EventPlus

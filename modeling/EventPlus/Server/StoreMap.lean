/-
Module: EventPlus.Server.StoreMap
Purpose: What `clientEventStores` owns: live stores, each under its own
  descriptor number, and never the store `handleIOEvent` has yet to insert.
Trusted boundary: none
Main exports:
  StoreMap, storeMap_of_reachable, StoreMap.find_unique
-/
import EventPlus.Server.MutualExclusion

namespace EventPlus

open Function (update)

/-- The ownership map and the lifetimes of stores.  It holds with either
handler and during shutdown. -/
structure StoreMap (server : Server) : Prop where
  made_lt : ∀ store,
    server.lifetime store ≠ .unborn → store < server.accepted
  admitting_alive : ∀ stage store,
    server.acceptThread = .admitting stage store →
      server.lifetime store = .alive
  registered_made : ∀ poller store,
    server.registeredWith store = some poller →
      server.lifetime store ≠ .unborn
  found_fd : ∀ number store,
    server.find number = some store → server.fd store = number
  found_alive : ∀ number store,
    server.find number = some store → server.lifetime store = .alive
  found_inserted : ∀ number store, server.find number = some store →
    ∀ stage, server.acceptThread = .admitting stage store → stage = .enqueue

namespace StoreMap

theorem start (config : Config) : StoreMap (Server.start config) where
  made_lt := by simp [Server.start]
  admitting_alive := by
    intro stage store at_point
    cases at_point
  registered_made := by simp [Server.start]
  found_fd := by simp [Server.start, Server.find]
  found_alive := by simp [Server.start, Server.find]
  found_inserted := by simp [Server.start]

/-- A store is owned under one number only. -/
theorem find_unique {server : Server} (map : StoreMap server)
    {first second : Fd} {store : ConnectionId}
    (one : server.find first = some store)
    (two : server.find second = some store) : first = second := by
  rw [← map.found_fd first store one, map.found_fd second store two]

/-- The next connection to be accepted has no store. -/
theorem unborn_accepted {server : Server} (map : StoreMap server) :
    server.lifetime server.accepted = .unborn := by
  by_contra made
  exact Nat.lt_irrefl _ (map.made_lt _ made)

/-- Only made stores are destroyed with their map entries. -/
theorem unborn_destroy {server : Server} (map : StoreMap server)
    {dying : ConnectionId → Bool}
    (owned : ∀ store, dying store = true →
      ∃ number, server.find number = some store)
    (store : ConnectionId) :
    (server.destroy dying).lifetime store = .unborn ↔
      server.lifetime store = .unborn := by
  simp only [Server.destroy]
  split
  · rename_i dies
    obtain ⟨number, found⟩ := owned store dies
    simp [map.found_alive number store found]
  · rfl

theorem unborn_insertStore {server : Server} (map : StoreMap server)
    (store other : ConnectionId) :
    (server.insertStore store).lifetime other = .unborn ↔
      server.lifetime other = .unborn :=
  map.unborn_destroy (fun _ dies => ⟨_, of_decide_eq_true dies⟩) other

theorem unborn_eraseStore {server : Server} (map : StoreMap server)
    (store other : ConnectionId) :
    (server.eraseStore store).lifetime other = .unborn ↔
      server.lifetime other = .unborn :=
  map.unborn_destroy (fun _ dies => ⟨_, of_decide_eq_true dies⟩) other

theorem unborn_clearStores {server : Server} (map : StoreMap server)
    (store : ConnectionId) :
    server.clearStores.lifetime store = .unborn ↔
      server.lifetime store = .unborn :=
  map.unborn_destroy
    (fun _ dies => Server.mem_ownedStores.mp (of_decide_eq_true dies)) store

/-! ## Single changes -/

/-- Fields other than the descriptor number do not matter. -/
theorem changeStore {server : Server} (map : StoreMap server)
    {stores : ConnectionId → EventStorePointer}
    (same_fd : ∀ store, (stores store).socketId = server.fd store) :
    StoreMap { server with store := stores } :=
  { map with
    found_fd := by
      intro number store found
      rw [Server.fd, same_fd]
      exact map.found_fd number store found }

theorem setSSL {server : Server} (map : StoreMap server)
    (store : ConnectionId) (ssl : SSLPointer) :
    StoreMap (server.setSSL store ssl) :=
  map.changeStore fun other => Server.fd_setSSL store other ssl

theorem setEventType {server : Server} (map : StoreMap server)
    (store : ConnectionId) (kind : EventType) :
    StoreMap (server.setEventType store kind) :=
  map.changeStore fun other => Server.fd_setEventType store other kind

theorem setBackPointer {server : Server} (map : StoreMap server)
    (store : ConnectionId) (poller : PollerId) :
    StoreMap (server.setBackPointer store poller) :=
  map.changeStore fun other => Server.fd_setBackPointer store other poller

theorem closeConnection {server : Server} (map : StoreMap server)
    (config : Config) (store : ConnectionId) :
    StoreMap (server.closeConnection config store) := by
  rcases server.closeConnection_cases config store with
    result | result | result
  · rw [result]
    exact map
  · rw [result]
    exact { map with }
  · rw [result]
    have closed : StoreMap (server.closeDescriptor store) := { map with }
    exact closed.setSSL store .null

/-- The accept thread moves on with the store it has, or with none. -/
theorem moveAccept {server : Server} (map : StoreMap server)
    (point : AcceptPoint)
    (admitting : ∀ stage store, point = .admitting stage store →
      ∃ earlier, earlier ≠ .enqueue ∧
        server.acceptThread = .admitting earlier store) :
    StoreMap { server with acceptThread := point } := by
  refine { map with admitting_alive := ?_, found_inserted := ?_ }
  · intro stage store at_point
    obtain ⟨earlier, -, before⟩ := admitting stage store at_point
    exact map.admitting_alive earlier store before
  · intro number store found stage at_point
    obtain ⟨earlier, early, before⟩ := admitting stage store at_point
    exact absurd (map.found_inserted number store found earlier before) early

/-- The accept thread moves to a point at which it has no store. -/
theorem moveAcceptOutside {server : Server} (map : StoreMap server)
    (point : AcceptPoint)
    (outside : ∀ stage store, point ≠ .admitting stage store) :
    StoreMap { server with acceptThread := point } :=
  map.moveAccept point fun stage store at_point =>
    absurd at_point (outside stage store)

/-- A connection was accepted and its store made. -/
theorem accepted {server : Server} (map : StoreMap server) {fd : Fd}
    {ssl : SSLPointer} {kernel : Kernel} :
    StoreMap
      { server.makeStore kernel fd ssl with
          acceptThread := .admitting .initConnection server.accepted } := by
  have older : ∀ number store,
      server.find number = some store → store ≠ server.accepted := by
    intro number store found
    have made : server.lifetime store ≠ .unborn := by
      simp [map.found_alive number store found]
    exact Nat.ne_of_lt (map.made_lt store made)
  refine
    { made_lt := ?_
      admitting_alive := ?_
      registered_made := ?_
      found_fd := ?_
      found_alive := ?_
      found_inserted := ?_ }
  · intro store made
    by_cases newest : store = server.accepted
    · subst newest
      exact Nat.lt_succ_self _
    · simp only [Server.makeStore, Function.update_of_ne newest] at made
      exact Nat.lt_succ_of_lt (map.made_lt store made)
  · intro stage store admitted
    cases admitted
    simp [Server.makeStore]
  · intro poller store registered
    by_cases newest : store = server.accepted
    · subst newest
      simp [Server.makeStore]
    · simp only [Server.makeStore, Function.update_of_ne newest]
      exact map.registered_made poller store registered
  · intro number store found
    have before := older number store found
    have same := map.found_fd number store found
    rw [← Server.fd_makeStore_of_ne kernel fd ssl before] at same
    exact same
  · intro number store found
    have before := older number store found
    simp only [Server.makeStore, Function.update_of_ne before]
    exact map.found_alive number store found
  · intro number store found stage admitted
    cases admitted
    exact absurd rfl (older number _ found)

/-- The store being admitted goes into the map, in the place of whatever was
there under its number. -/
theorem insert {server : Server} (map : StoreMap server)
    {store : ConnectionId}
    (at_point : server.acceptThread = .admitting .insert store) :
    StoreMap
      { server.insertStore store with
          acceptThread := .admitting .enqueue store } := by
  have absent : ∀ number, server.find number ≠ some store := by
    intro number found
    cases map.found_inserted number store found .insert at_point
  have alive := map.admitting_alive _ store at_point
  refine
    { made_lt := ?_
      admitting_alive := ?_
      registered_made := ?_
      found_fd := ?_
      found_alive := ?_
      found_inserted := ?_ }
  · intro other made
    apply map.made_lt other
    exact fun unborn => made ((map.unborn_insertStore store other).mpr unborn)
  · intro stage other admitted
    cases admitted
    change (server.insertStore store).lifetime store = .alive
    rw [Server.lifetime_insertStore, if_neg (absent _)]
    exact alive
  · intro poller other registered
    exact server.made_insertStore store
      (map.registered_made poller other registered)
  · intro number other found
    change (server.insertStore store).find number = some other at found
    rw [Server.find_insertStore] at found
    split at found
    · rename_i same
      cases found
      exact same.symm
    · exact map.found_fd number other found
  · intro number other found
    change (server.insertStore store).find number = some other at found
    change (server.insertStore store).lifetime other = .alive
    rw [Server.find_insertStore] at found
    rw [Server.lifetime_insertStore]
    split at found
    · cases found
      rw [if_neg (absent _)]
      exact alive
    · rename_i different
      rw [if_neg]
      · exact map.found_alive number other found
      · intro replaced
        exact different (map.find_unique found replaced)
  · intro number other found stage admitted
    cases admitted
    rfl

/-- Owned stores go out of the map and are destroyed. -/
theorem forget {server : Server} (map : StoreMap server)
    {dying : ConnectionId → Bool}
    {stores : AList fun _ : Fd => ConnectionId}
    (kept : ∀ number store, stores.lookup number = some store →
      server.find number = some store ∧ dying store = false)
    (owned : ∀ store, dying store = true →
      ∃ number, server.find number = some store)
    (outside : server.acceptThread.critical = false) :
    StoreMap { server.destroy dying with clientEventStores := stores } := by
  refine
    { made_lt := ?_
      admitting_alive := ?_
      registered_made := ?_
      found_fd := ?_
      found_alive := ?_
      found_inserted := ?_ }
  · intro store made
    apply map.made_lt store
    exact fun unborn => made ((map.unborn_destroy owned store).mpr unborn)
  · intro stage store admitted
    change server.acceptThread = _ at admitted
    rw [admitted] at outside
    cases outside
  · intro poller store registered
    exact server.made_destroy _ (map.registered_made poller store registered)
  · intro number store found
    exact map.found_fd number store (kept number store found).1
  · intro number store found
    obtain ⟨before, lives⟩ := kept number store found
    simp only [Server.destroy, lives]
    exact map.found_alive number store before
  · intro number store found stage admitted
    change server.acceptThread = _ at admitted
    rw [admitted] at outside
    cases outside

theorem eraseStore {server : Server} (map : StoreMap server)
    (store : ConnectionId)
    (outside : server.acceptThread.critical = false) :
    StoreMap (server.eraseStore store) := by
  have recorded : StoreMap
      (server.record (.erase store (server.find (server.fd store)))) :=
    { map with }
  refine recorded.forget ?_ ?_ outside
  · intro number other found
    change (server.eraseStore store).find number = some other at found
    rw [Server.find_eraseStore] at found
    split at found
    · cases found
    · rename_i different
      refine ⟨found, ?_⟩
      simp only [decide_eq_false_iff_not]
      intro erased
      exact different (map.find_unique found erased)
  · intro other dies
    have found : server.find (server.fd store) = some other := by
      simpa using dies
    exact ⟨server.fd store, found⟩

theorem clearStores {server : Server} (map : StoreMap server)
    (outside : server.acceptThread.critical = false) :
    StoreMap server.clearStores := by
  refine map.forget ?_ ?_ outside
  · intro number other found
    rw [AList.lookup_empty] at found
    cases found
  · intro other dies
    exact Server.mem_ownedStores.mp (by simpa using dies)

/-! ## Steps -/

theorem network {before after : Server} {action : Action}
    (map : StoreMap before)
    (taken : NetworkStep before action after) : StoreMap after := by
  cases taken <;> exact { map with }

theorem acceptStep {config : Config} {before after : Server}
    {choice : AcceptChoice}
    (map : StoreMap before) (taken : AcceptStep config before choice after) :
    StoreMap after := by
  cases taken with
  | loop at_point =>
      apply map.moveAcceptOutside
      intro stage store
      split <;> simp
  | report at_point =>
      exact { map.moveAcceptOutside .handleEvent (by simp) with }
  | timeout at_point => exact map.moveAcceptOutside _ (by simp)
  | handleEvent at_point =>
      apply map.moveAcceptOutside
      intro stage store
      split <;> simp
  | lock at_point free =>
      exact { map.moveAcceptOutside .accept (by simp) with }
  | acceptFailed lost at_point =>
      exact { map.moveAcceptOutside .unlock (by simp) with }
  | accepted fd ssl kernel at_point got => exact map.accepted
  | ntopFailed fd ssl kernel at_point got =>
      have moved := map.moveAcceptOutside .unlock (by simp)
      refine { moved with made_lt := ?_ }
      intro store made
      exact Nat.lt_succ_of_lt (map.made_lt store made)
  | initConnection store outcome at_point =>
      have moved := map.moveAccept (.admitting .addSocket store) (by
        rintro stage other ⟨⟩
        exact ⟨_, by simp, at_point⟩)
      obtain ⟨ssl, result | result⟩ :=
        Server.initConnection_cases config before store outcome
      · rw [result]
        exact { moved.setSSL store ssl with }
      · rw [result]
        have closed : StoreMap (before.closeDescriptor store) :=
          { map with }
        have initialized := closed.setSSL store ssl
        exact { initialized with
          admitting_alive := moved.admitting_alive
          found_inserted := moved.found_inserted }
  | registered store kernel at_point added =>
      have moved := map.moveAccept
        (.admitting (.backPointer (before.nextIndex config)) store) (by
          rintro stage other ⟨⟩
          exact ⟨_, by simp, at_point⟩)
      refine { moved with registered_made := ?_ }
      intro poller other registered
      by_cases here : other = store
      · subst here
        simp [map.admitting_alive _ other at_point]
      · simp only [Function.update_of_ne here] at registered
        exact map.registered_made poller other registered
  | refused store granted at_point =>
      exact { map.moveAccept (.admitting .insert store) (by
        rintro stage other ⟨⟩
        exact ⟨_, by simp, at_point⟩) with }
  | backPointer poller store at_point =>
      have moved := map.moveAccept (.admitting .insert store) (by
        rintro stage other ⟨⟩
        exact ⟨_, by simp, at_point⟩)
      exact moved.setBackPointer store poller
  | insert store at_point => exact map.insert at_point
  | enqueue store at_point =>
      exact { map.moveAcceptOutside .unlock (by simp) with }
  | unlock at_point =>
      exact { map.moveAcceptOutside .loop (by simp) with }

theorem pollerStep {config : Config} {before after : Server}
    {poller : PollerId} {choice : PollerChoice} (map : StoreMap before)
    (exclusive : MutualExclusion before)
    (taken : PollerStep config before poller choice after) :
    StoreMap after := by
  cases taken with
  | setIncoming store rest at_point =>
      exact { map.setEventType store .incomingData with }
  | setClosed store rest at_point =>
      exact { map.setEventType store .closedConnection with }
  | closeConnection store rest at_point =>
      exact { map.closeConnection config store with }
  | erase store rest at_point =>
      have outside := exclusive.accept_excludes_poller
        (before.critical_of_busy at_point rfl)
      exact { map.eraseStore store outside with }
  | _ => exact { map with }

theorem workerStep {config : Config} {before after : Server}
    {worker : WorkerId} {choice : WorkerChoice} (map : StoreMap before)
    (taken : WorkerStep config before worker choice after) :
    StoreMap after := by
  cases taken with
  | close task at_point may_close =>
      exact map.closeConnection config task.eventStorePointer
  | _ => exact { map with }

theorem stopStep {config : Config} {before after : Server}
    (map : StoreMap before) (exclusive : MutualExclusion before)
    (taken : StopStep config before after) : StoreMap after := by
  cases taken with
  | closeListening closed at_point closes =>
      obtain ⟨_, _, result⟩ := Server.closeListening_frame closes
      rw [result]
      exact { map with }
  | closing store rest at_point =>
      exact { map.closeConnection config store with }
  | clear at_point =>
      have outside := exclusive.stopper_excludes_accept (by rw [at_point]; rfl)
      exact { map.clearStores outside with }
  | _ => exact { map with }

theorem serverStep {config : Config} {before after : Server} {action : Action}
    (map : StoreMap before) (exclusive : MutualExclusion before)
    (taken : ServerStep config before action after) : StoreMap after := by
  cases taken with
  | network taken => exact map.network taken
  | accept choice taken => exact map.acceptStep taken
  | poller poller choice bound taken => exact map.pollerStep exclusive taken
  | worker worker choice bound taken => exact map.workerStep taken
  | stop taken => exact map.stopStep exclusive taken

end StoreMap

/-- A made store stays made. -/
theorem made_of_step {config : Config} {before after : Server}
    {action : Action} (taken : ServerStep config before action after)
    {store : ConnectionId} (made : before.lifetime store ≠ .unborn) :
    after.lifetime store ≠ .unborn := by
  cases taken with
  | network taken => cases taken <;> exact made
  | accept choice taken =>
      cases taken with
      | accepted fd ssl kernel at_point got =>
          by_cases newest : store = before.accepted
          · subst newest
            simp [Server.makeStore]
          · simpa [Server.makeStore, Function.update_of_ne newest] using made
      | initConnection other outcome at_point =>
          obtain ⟨_, _, _, result⟩ :=
            before.initConnection_frame config other outcome
          rw [result]
          exact made
      | insert other at_point => exact before.made_insertStore other made
      | _ => exact made
  | poller poller choice bound taken =>
      cases taken with
      | closeConnection other rest at_point =>
          obtain ⟨_, _, _, result⟩ := before.closeConnection_frame config other
          rw [result]
          exact made
      | erase other rest at_point => exact before.made_eraseStore other made
      | _ => exact made
  | worker worker choice bound taken =>
      cases taken with
      | close task at_point may_close =>
          obtain ⟨_, _, _, result⟩ :=
            before.closeConnection_frame config task.eventStorePointer
          rw [result]
          exact made
      | _ => exact made
  | stop taken =>
      cases taken with
      | closeListening closed at_point closes =>
          obtain ⟨_, _, result⟩ := Server.closeListening_frame closes
          rw [result]
          exact made
      | closing other rest at_point =>
          obtain ⟨_, _, _, result⟩ := before.closeConnection_frame config other
          rw [result]
          exact made
      | clear at_point => exact before.made_clearStores made
      | _ => exact made

/-- A connection is counted together with its store, unless `inet_ntop`
failed. -/
theorem accepted_of_step {config : Config} {before after : Server}
    {action : Action} (taken : ServerStep config before action after) :
    after.accepted = before.accepted ∨
      after.accepted = before.accepted + 1 ∧
        (after.lifetime before.accepted = .alive ∨
          ∃ fd ssl, action = .accept (.accepted fd false ssl)) := by
  cases taken with
  | network taken => cases taken <;> exact .inl rfl
  | accept choice taken =>
      cases taken with
      | accepted fd ssl kernel at_point got =>
          exact .inr ⟨rfl, .inl (by simp [Server.makeStore])⟩
      | ntopFailed fd ssl kernel at_point got =>
          exact .inr ⟨rfl, .inr ⟨fd, ssl, rfl⟩⟩
      | initConnection store outcome at_point =>
          obtain ⟨_, _, _, result⟩ :=
            before.initConnection_frame config store outcome
          rw [result]
          exact .inl rfl
      | _ => exact .inl rfl
  | poller poller choice bound taken =>
      cases taken with
      | closeConnection store rest at_point =>
          obtain ⟨_, _, _, result⟩ := before.closeConnection_frame config store
          rw [result]
          exact .inl rfl
      | _ => exact .inl rfl
  | worker worker choice bound taken =>
      cases taken with
      | close task at_point may_close =>
          obtain ⟨_, _, _, result⟩ :=
            before.closeConnection_frame config task.eventStorePointer
          rw [result]
          exact .inl rfl
      | _ => exact .inl rfl
  | stop taken =>
      cases taken with
      | closeListening closed at_point closes =>
          obtain ⟨_, _, result⟩ := Server.closeListening_frame closes
          rw [result]
          exact .inl rfl
      | closing store rest at_point =>
          obtain ⟨_, _, _, result⟩ := before.closeConnection_frame config store
          rw [result]
          exact .inl rfl
      | _ => exact .inl rfl

/-- The map discipline holds in every reachable state. -/
theorem storeMap_of_reachable {config : Config} {server : Server}
    (reachable : (tcpServer config).Reachable server) : StoreMap server := by
  refine TransitionSystem.Reachable.invariant ?_ ?_ reachable
  · rintro state rfl
    exact StoreMap.start config
  · intro before action after reached taken map
    exact map.serverStep (mutualExclusion_of_reachable reached)
      (serverStep_of_step taken)

end EventPlus

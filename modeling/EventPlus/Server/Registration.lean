/-
Module: EventPlus.Server.Registration
Purpose: With the plain handler, before shutdown, and with callbacks that do
  not close connections: the map of stores, the epoll sets, the back pointers
  and the half-processed batches agree.
Trusted boundary: none
Main exports:
  Registration, registration_of_reached, Registration.of_removing
-/
import EventPlus.Server.Stopping
import EventPlus.Server.TaskOrder

namespace EventPlus

open Function (update)

/-- The lines of `removeSocket` between `close` and the erasure. -/
def PollerStage.afterClose : PollerStage → Bool
  | .enqueue | .erase => true
  | _ => false

namespace PollerPoint

/-- The store whose number a poller has closed and not yet erased. -/
def closing : PollerPoint → Option ConnectionId
  | .busy stage store _ => if stage.afterClose then some store else none
  | _ => none

/-- The store a poller has taken out of its epoll set. -/
def deleting : PollerPoint → Option ConnectionId
  | .busy stage store _ => if stage.afterDelete then some store else none
  | _ => none

/-- The store a poller has erased. -/
def leaving : PollerPoint → Option ConnectionId
  | .busy .unlock store _ => some store
  | _ => none

theorem critical_of_closing {point : PollerPoint} {store : ConnectionId}
    (closed : point.closing = some store) : point.critical = true := by
  cases point with
  | busy stage other rest => cases stage <;> first | rfl | cases closed
  | _ => cases closed

theorem critical_of_deleting {point : PollerPoint} {store : ConnectionId}
    (deleted : point.deleting = some store) : point.critical = true := by
  cases point with
  | busy stage other rest => cases stage <;> first | rfl | cases deleted
  | _ => cases deleted

theorem critical_of_leaving {point : PollerPoint} {store : ConnectionId}
    (left : point.leaving = some store) : point.critical = true := by
  cases point with
  | busy stage other rest => cases stage <;> first | rfl | cases left
  | _ => cases left

end PollerPoint

/-- A live store has its own open number, the map owns it or the accept thread
is about to insert it, and a poller that refers to it has it registered; but
for the exceptions inside `removeSocket`. -/
structure Registration (server : Server) : Prop where
  file_of_alive : ∀ store, server.lifetime store = .alive →
    server.kernel.file (server.fd store) = some (.client store) ∨
      ∃ poller, (server.pollerThread poller).closing = some store
  owned_of_alive : ∀ store, server.lifetime store = .alive →
    server.find (server.fd store) = some store ∨
      ∃ stage, stage ≠ .enqueue ∧
        server.acceptThread = .admitting stage store
  alive_of_registered : ∀ poller store,
    store ∈ server.kernel.registered poller →
      server.lifetime store = .alive
  alive_of_held : ∀ poller store,
    store ∈ (server.pollerThread poller).held →
      server.lifetime store = .alive ∨
        (server.pollerThread poller).leaving = some store
  registered_of_held : ∀ poller store,
    store ∈ (server.pollerThread poller).held →
      store ∈ server.kernel.registered poller ∨
        (server.pollerThread poller).deleting = some store

namespace Registration

theorem start (config : Config) : Registration (Server.start config) where
  file_of_alive := by
    intro store alive
    cases alive
  owned_of_alive := by
    intro store alive
    cases alive
  alive_of_registered := by simp [Server.start]
  alive_of_held := by simp [Server.start, PollerPoint.held]
  registered_of_held := by simp [Server.start, PollerPoint.held]

/-! ## Consequences -/

/-- The store a poller is removing is live and owned until it is erased. -/
theorem owned_of_busy {server : Server} (registration : Registration server)
    (exclusive : MutualExclusion server) {poller : PollerId}
    {stage : PollerStage} {store : ConnectionId} {rest : List EpollEvent}
    (at_point : server.pollerThread poller = .busy stage store rest)
    (inside : stage.critical = true) (early : stage ≠ .unlock) :
    server.lifetime store = .alive ∧
      server.find (server.fd store) = some store := by
  have alive : server.lifetime store = .alive := by
    rcases registration.alive_of_held poller store
      (server.held_of_busy at_point) with alive | left
    · exact alive
    · rw [at_point] at left
      cases stage <;> first | exact absurd rfl early | cases left
  refine ⟨alive, ?_⟩
  rcases registration.owned_of_alive store alive with
    found | ⟨stage, -, unset⟩
  · exact found
  · have outside := exclusive.accept_excludes_poller
      (server.critical_of_busy at_point inside)
    rw [unset] at outside
    cases outside

/-- The number of the store a poller is removing denotes its connection until
it is closed. -/
theorem file_of_busy {server : Server} (registration : Registration server)
    (exclusive : MutualExclusion server) {poller : PollerId}
    {stage : PollerStage} {store : ConnectionId} {rest : List EpollEvent}
    (at_point : server.pollerThread poller = .busy stage store rest)
    (inside : stage.critical = true) (early : stage ≠ .unlock)
    (unclosed : stage.afterClose = false) :
    server.kernel.file (server.fd store) = some (.client store) := by
  have alive :=
    (registration.owned_of_busy exclusive at_point inside early).1
  rcases registration.file_of_alive store alive with file | ⟨other, closed⟩
  · exact file
  · have same := exclusive.poller_unique
      (PollerPoint.critical_of_closing closed)
      (server.critical_of_busy at_point inside)
    subst same
    rw [at_point] at closed
    simp [PollerPoint.closing, unclosed] at closed

/-- The store a poller is at is registered with it until `EPOLL_CTL_DEL`. -/
theorem registered_of_busy {server : Server}
    (registration : Registration server) {poller : PollerId}
    {stage : PollerStage} {store : ConnectionId} {rest : List EpollEvent}
    (at_point : server.pollerThread poller = .busy stage store rest)
    (undeleted : stage.afterDelete = false) :
    store ∈ server.kernel.registered poller := by
  rcases registration.registered_of_held poller store
    (server.held_of_busy at_point) with registered | deleted
  · exact registered
  · rw [at_point] at deleted
    simp [PollerPoint.deleting, undeleted] at deleted

/-- With `clientEventStoresMutex` in the accept thread's hands, a live store's
number denotes its connection. -/
theorem file_of_accepting {server : Server}
    (registration : Registration server)
    (exclusive : MutualExclusion server)
    (inside : server.acceptThread.critical = true) {store : ConnectionId}
    (alive : server.lifetime store = .alive) :
    server.kernel.file (server.fd store) = some (.client store) := by
  rcases registration.file_of_alive store alive with file | ⟨poller, closed⟩
  · exact file
  · have outside := exclusive.accept_excludes_poller
      (PollerPoint.critical_of_closing closed)
    rw [inside] at outside
    cases outside

/-- The number of the store about to be inserted is not a key of the map. -/
theorem find_of_inserting {server : Server}
    (registration : Registration server) (map : StoreMap server)
    (exclusive : MutualExclusion server) {store : ConnectionId}
    (at_point : server.acceptThread = .admitting .insert store) :
    server.find (server.fd store) = none := by
  have inside : server.acceptThread.critical = true := by
    rw [at_point]
    rfl
  have alive := map.admitting_alive _ store at_point
  cases found : server.find (server.fd store) with
  | none => rfl
  | some other =>
      have here := registration.file_of_accepting exclusive inside alive
      have there := registration.file_of_accepting exclusive inside
        (map.found_alive _ other found)
      rw [map.found_fd _ other found] at there
      cases here.symm.trans there
      cases map.found_inserted _ _ found _ at_point

/-! ## Single changes -/

/-- Fields other than the descriptor number do not matter. -/
theorem changeStore {server : Server} (registration : Registration server)
    {stores : ConnectionId → EventStorePointer}
    (same_fd : ∀ store, (stores store).socketId = server.fd store) :
    Registration { server with store := stores } := by
  refine
    { registration with
      file_of_alive := ?_
      owned_of_alive := ?_ }
  · intro store alive
    rw [Server.fd, same_fd]
    exact registration.file_of_alive store alive
  · intro store alive
    rw [Server.fd, same_fd]
    exact registration.owned_of_alive store alive

theorem setSSL {server : Server} (registration : Registration server)
    (store : ConnectionId) (ssl : SSLPointer) :
    Registration (server.setSSL store ssl) :=
  registration.changeStore fun other => Server.fd_setSSL store other ssl

theorem setEventType {server : Server} (registration : Registration server)
    (store : ConnectionId) (kind : EventType) :
    Registration (server.setEventType store kind) :=
  registration.changeStore fun other =>
    Server.fd_setEventType store other kind

theorem setBackPointer {server : Server}
    (registration : Registration server) (store : ConnectionId)
    (poller : PollerId) :
    Registration (server.setBackPointer store poller) :=
  registration.changeStore fun other =>
    Server.fd_setBackPointer store other poller

/-- The accept thread moves on, keeping the store it has not inserted yet. -/
theorem moveAccept {server : Server} (registration : Registration server)
    (point : AcceptPoint)
    (kept : ∀ stage store, stage ≠ .enqueue →
      server.acceptThread = .admitting stage store →
        ∃ next, next ≠ .enqueue ∧ point = .admitting next store) :
    Registration { server with acceptThread := point } := by
  refine { registration with owned_of_alive := ?_ }
  intro store alive
  rcases registration.owned_of_alive store alive with
    found | ⟨stage, early, at_point⟩
  · exact .inl found
  · exact .inr (kept stage store early at_point)

/-- The accept thread moves from a point at which it has no store. -/
theorem moveAcceptOutside {server : Server}
    (registration : Registration server) (point : AcceptPoint)
    (outside : ∀ stage store,
      server.acceptThread ≠ .admitting stage store) :
    Registration { server with acceptThread := point } :=
  registration.moveAccept point fun stage store _ at_point =>
    absurd at_point (outside stage store)

/-- A poller moves. -/
theorem movePoller {server : Server} (registration : Registration server)
    (poller : PollerId) (point : PollerPoint)
    (closes : ∀ store,
      (server.pollerThread poller).closing = some store →
        point.closing = some store)
    (alive : ∀ store, store ∈ point.held →
      server.lifetime store = .alive ∨ point.leaving = some store)
    (registered : ∀ store, store ∈ point.held →
      store ∈ server.kernel.registered poller ∨
        point.deleting = some store) :
    Registration (server.setPoller poller point) := by
  refine
    { registration with
      file_of_alive := ?_
      alive_of_held := ?_
      registered_of_held := ?_ }
  · intro store lives
    rcases registration.file_of_alive store lives with file | ⟨other, closed⟩
    · exact .inl file
    · refine .inr ⟨other, ?_⟩
      by_cases moved : other = poller
      · subst moved
        simp only [Server.setPoller_self]
        exact closes store closed
      · simp only [Server.setPoller_of_ne moved]
        exact closed
  · intro other store member
    by_cases moved : other = poller
    · subst moved
      simp only [Server.setPoller_self] at member ⊢
      exact alive store member
    · simp only [Server.setPoller_of_ne moved] at member ⊢
      exact registration.alive_of_held other store member
  · intro other store member
    by_cases moved : other = poller
    · subst moved
      simp only [Server.setPoller_self] at member ⊢
      exact registered store member
    · simp only [Server.setPoller_of_ne moved] at member ⊢
      exact registration.registered_of_held other store member

/-- A poller moves on and keeps at most the stores it refers to. -/
theorem movePollerKeeping {server : Server}
    (registration : Registration server) (poller : PollerId)
    (point : PollerPoint)
    (fewer : ∀ store, store ∈ point.held →
      store ∈ (server.pollerThread poller).held)
    (closes : ∀ store,
      (server.pollerThread poller).closing = some store →
        point.closing = some store)
    (leaves : ∀ store, (server.pollerThread poller).leaving = some store →
      store ∈ point.held → point.leaving = some store)
    (deletes : ∀ store, (server.pollerThread poller).deleting = some store →
      store ∈ point.held → point.deleting = some store) :
    Registration (server.setPoller poller point) := by
  refine registration.movePoller poller point closes ?_ ?_
  · intro store member
    rcases registration.alive_of_held poller store (fewer store member) with
      alive | left
    · exact .inl alive
    · exact .inr (leaves store left member)
  · intro store member
    rcases registration.registered_of_held poller store
      (fewer store member) with registered | deleted
    · exact .inl registered
    · exact .inr (deletes store deleted member)

/-! ## Steps of the accept thread -/

/-- A number was given to a connection and its store made. -/
theorem accepted {server : Server} (registration : Registration server)
    (owned : Ownership server) (map : StoreMap server) {fd : Fd}
    {ssl : SSLPointer} {kernel : Kernel}
    (at_point : server.acceptThread = .accept)
    (got : server.kernel.accept fd server.accepted = some kernel) :
    Registration
      { server.makeStore kernel fd ssl with
          acceptThread := .admitting .initConnection server.accepted } := by
  obtain ⟨unused, rfl⟩ := Kernel.accept_spec got
  have older : ∀ store, server.lifetime store ≠ .unborn →
      store ≠ server.accepted := fun store made =>
    Nat.ne_of_lt (map.made_lt store made)
  have sameLifetime : ∀ store, store ≠ server.accepted →
      (server.makeStore
          { server.kernel with
              file :=
                update server.kernel.file fd
                  (some (.client server.accepted))
              backlog := server.kernel.backlog - 1 } fd ssl).lifetime store =
        server.lifetime store := fun store different =>
    Function.update_of_ne different _ _
  refine
    { file_of_alive := ?_
      owned_of_alive := ?_
      alive_of_registered := ?_
      alive_of_held := ?_
      registered_of_held := registration.registered_of_held }
  · intro store alive
    by_cases newest : store = server.accepted
    · subst newest
      exact .inl (by simp [Server.fd, Server.makeStore])
    · rw [show _ = server.lifetime store from sameLifetime store newest]
        at alive
      rcases registration.file_of_alive store alive with file | closed
      · refine .inl ?_
        have other := Kernel.ne_of_unused file unused
        simp only [Server.fd, Server.makeStore,
          Function.update_of_ne newest]
        exact (Function.update_of_ne other _ _).trans file
      · exact .inr closed
  · intro store alive
    by_cases newest : store = server.accepted
    · subst newest
      exact .inr ⟨_, by simp, rfl⟩
    · rw [show _ = server.lifetime store from sameLifetime store newest]
        at alive
      rcases registration.owned_of_alive store alive with
        found | ⟨stage, -, admitting⟩
      · refine .inl ?_
        simp only [Server.fd, Server.makeStore,
          Function.update_of_ne newest]
        exact found
      · cases at_point.symm.trans admitting
  · intro poller store member
    have alive := registration.alive_of_registered poller store member
    exact (sameLifetime store (older store (by simp [alive]))).trans alive
  · intro poller store member
    have made := map.registered_made poller store
      (owned.held_with poller store member)
    refine (registration.alive_of_held poller store member).imp_left ?_
    exact (sameLifetime store (older store made)).trans

/-- The early return after a failed `inet_ntop` keeps the number. -/
theorem ntopFailed {server : Server} (registration : Registration server)
    {fd : Fd} {kernel : Kernel} (at_point : server.acceptThread = .accept)
    (got : server.kernel.accept fd server.accepted = some kernel) :
    Registration
      { server with
          kernel := kernel
          accepted := server.accepted + 1
          acceptThread := .unlock } := by
  obtain ⟨unused, rfl⟩ := Kernel.accept_spec got
  have moved := registration.moveAcceptOutside .unlock (by simp [at_point])
  refine { moved with file_of_alive := ?_ }
  intro store alive
  rcases registration.file_of_alive store alive with file | closed
  · refine .inl ?_
    have other := Kernel.ne_of_unused file unused
    exact (Function.update_of_ne other _ _).trans file
  · exact .inr closed

/-- The store being admitted is registered. -/
theorem registered {server : Server} (registration : Registration server)
    (map : StoreMap server) (next : AdmitStage) {poller : PollerId}
    {store : ConnectionId} {stage : AdmitStage} {kernel : Kernel}
    (at_point : server.acceptThread = .admitting stage store)
    (early : next ≠ .enqueue) (file : kernel.file = server.kernel.file)
    (added :
      kernel.registered =
        update server.kernel.registered poller
          (server.kernel.registered poller ++ [store])) :
    Registration
      { server with
          kernel := kernel
          acceptThread := .admitting next store } := by
  have moved := registration.moveAccept (.admitting next store) (by
    intro earlier other _ admitting
    cases at_point.symm.trans admitting
    exact ⟨next, early, rfl⟩)
  refine
    { moved with
      file_of_alive := ?_
      alive_of_registered := ?_
      registered_of_held := ?_ }
  · intro other alive
    rw [file]
    exact registration.file_of_alive other alive
  · intro other connection member
    change connection ∈ kernel.registered other at member
    rw [added] at member
    by_cases same : other = poller
    · subst same
      rw [Function.update_self] at member
      rcases List.mem_append.mp member with earlier | new
      · exact registration.alive_of_registered other connection earlier
      · cases List.mem_singleton.mp new
        exact map.admitting_alive _ store at_point
    · rw [Function.update_of_ne same] at member
      exact registration.alive_of_registered other connection member
  · intro other connection member
    refine (registration.registered_of_held other connection member).imp_left
      ?_
    intro earlier
    change connection ∈ kernel.registered other
    rw [added]
    by_cases same : other = poller
    · subst same
      simp [earlier]
    · rwa [Function.update_of_ne same]

/-- The store being admitted goes into the map. -/
theorem insert {server : Server} (registration : Registration server)
    (map : StoreMap server) (exclusive : MutualExclusion server)
    {store : ConnectionId}
    (at_point : server.acceptThread = .admitting .insert store) :
    Registration
      { server.insertStore store with
          acceptThread := .admitting .enqueue store } := by
  have free := registration.find_of_inserting map exclusive at_point
  have sameLifetime := server.lifetime_insertStore_of_free free
  refine
    { file_of_alive := ?_
      owned_of_alive := ?_
      alive_of_registered := ?_
      alive_of_held := ?_
      registered_of_held := registration.registered_of_held }
  · intro other alive
    exact registration.file_of_alive other
      ((sameLifetime other).symm.trans alive)
  · intro other alive
    by_cases here : other = store
    · subst here
      refine .inl ?_
      change (server.insertStore other).find (server.fd other) = some other
      rw [Server.find_insertStore, if_pos rfl]
    · rcases registration.owned_of_alive other
        ((sameLifetime other).symm.trans alive) with
        found | ⟨stage, -, admitting⟩
      · refine .inl ?_
        change (server.insertStore store).find (server.fd other) = some other
        rw [Server.find_insertStore, if_neg]
        · exact found
        · intro same
          rw [same, free] at found
          cases found
      · cases at_point.symm.trans admitting
        exact absurd rfl here
  · intro poller other member
    exact (sameLifetime other).trans
      (registration.alive_of_registered poller other member)
  · intro poller other member
    exact (registration.alive_of_held poller other member).imp_left
      (sameLifetime other).trans

theorem acceptStep {config : Config} {before after : Server}
    {choice : AcceptChoice} (registration : Registration before)
    (plain : config.handler = .tcp) (owned : Ownership before)
    (map : StoreMap before) (exclusive : MutualExclusion before)
    (taken : AcceptStep config before choice after) :
    Registration after := by
  have keep : ∀ stage next store, next ≠ .enqueue →
      before.acceptThread = .admitting stage store →
        Registration
          { before with acceptThread := .admitting next store } := by
    intro stage next store early at_point
    apply registration.moveAccept
    intro earlier other _ admitting
    cases at_point.symm.trans admitting
    exact ⟨next, early, rfl⟩
  cases taken with
  | loop at_point =>
      exact registration.moveAcceptOutside _ (by simp [at_point])
  | report at_point =>
      exact { registration.moveAcceptOutside .handleEvent
        (by simp [at_point]) with }
  | timeout at_point =>
      exact registration.moveAcceptOutside _ (by simp [at_point])
  | handleEvent at_point =>
      exact registration.moveAcceptOutside _ (by simp [at_point])
  | lock at_point free =>
      exact { registration.moveAcceptOutside .accept
        (by simp [at_point]) with }
  | acceptFailed lost at_point =>
      exact { registration.moveAcceptOutside .unlock
        (by simp [at_point]) with }
  | accepted fd ssl kernel at_point got =>
      exact registration.accepted owned map at_point got
  | ntopFailed fd ssl kernel at_point got =>
      exact registration.ntopFailed at_point got
  | initConnection store outcome at_point =>
      rw [Server.initConnection_tcp before store outcome plain]
      have moved := keep _ .addSocket store (by simp) at_point
      exact moved.setSSL store (before.store store).ssl
  | registered store kernel at_point added =>
      obtain ⟨connection, denotes, -, -, file, registered, -⟩ :=
        Kernel.epollCtlAdd_spec added
      cases owned.admitting_file _ store at_point connection denotes
      exact { registration.registered map
        (.backPointer (before.nextIndex config)) at_point (by simp) file
        registered with }
  | refused store granted at_point =>
      exact { keep _ .insert store (by simp) at_point with }
  | backPointer poller store at_point =>
      have moved := keep _ .insert store (by simp) at_point
      exact moved.setBackPointer store poller
  | insert store at_point =>
      exact registration.insert map exclusive at_point
  | enqueue store at_point =>
      have moved := registration.moveAccept .unlock (by
        intro stage other early admitting
        cases at_point.symm.trans admitting
        exact absurd rfl early)
      exact { moved with }
  | unlock at_point =>
      exact { registration.moveAcceptOutside .loop (by simp [at_point]) with }

/-! ## Steps of a poller -/

/-- Only the descriptor table and the epoll sets of the kernel matter. -/
theorem changeKernel {server : Server} (registration : Registration server)
    {kernel : Kernel} (file : kernel.file = server.kernel.file)
    (registered : kernel.registered = server.kernel.registered) :
    Registration { server with kernel := kernel } := by
  refine
    { registration with
      file_of_alive := ?_
      alive_of_registered := ?_
      registered_of_held := ?_ }
  · intro store alive
    rw [file]
    exact registration.file_of_alive store alive
  · intro poller store member
    rw [registered] at member
    exact registration.alive_of_registered poller store member
  · intro poller store member
    rw [registered]
    exact registration.registered_of_held poller store member

/-- `epoll_wait` returned registered stores. -/
theorem report {server : Server} (registration : Registration server)
    (watched : server.kernel.watched = server.kernel.registered)
    {poller : PollerId} {reported : List ConnectionId}
    {entries : List EpollEvent} {kernel : Kernel}
    (at_point : server.pollerThread poller = .epollWait)
    (waited :
      server.kernel.epollWait poller reported = some (entries, kernel)) :
    Registration
      ({ server with kernel := kernel }.setPoller poller (.batch entries)) := by
  obtain ⟨rfl, -, members, file, registered, -⟩ :=
    Kernel.epollWait_spec waited
  have same := registration.changeKernel file registered
  have held : ∀ store,
      store ∈ (PollerPoint.batch (reported.map server.kernel.event)).held →
        store ∈ server.kernel.registered poller := by
    intro store member
    rw [← watched]
    apply members
    simpa [PollerPoint.held, Kernel.event] using member
  apply same.movePoller
  · intro store closed
    change (server.pollerThread poller).closing = some store at closed
    rw [at_point] at closed
    cases closed
  · intro store member
    exact .inl (registration.alive_of_registered poller store
      (held store member))
  · intro store member
    refine .inl ?_
    change store ∈ kernel.registered poller
    rw [registered]
    exact held store member

/-- A poller inside `removeSocket` changes the kernel for its own store, and
goes on to a line after `EPOLL_CTL_DEL`. -/
theorem advance {server : Server} (registration : Registration server)
    (owned : Ownership server) {poller : PollerId}
    {stage next : PollerStage} {store : ConnectionId}
    {rest : List EpollEvent} {kernel : Kernel}
    (at_point : server.pollerThread poller = .busy stage store rest)
    (early : stage ≠ .unlock) (unclosed : stage.afterClose = false)
    (deleted : next.afterDelete = true)
    (file : ∀ other, other ≠ store →
      server.kernel.file (server.fd other) = some (.client other) →
        kernel.file (server.fd other) = some (.client other))
    (own : kernel.file (server.fd store) = some (.client store) ∨
      next.afterClose = true)
    (fewer : ∀ other connection, connection ∈ kernel.registered other →
      connection ∈ server.kernel.registered other)
    (others : ∀ other connection, connection ≠ store →
      connection ∈ server.kernel.registered other →
        connection ∈ kernel.registered other) :
    Registration
      ({ server with kernel := kernel }.setPoller poller
        (.busy next store rest)) := by
  refine
    { file_of_alive := ?_
      owned_of_alive := registration.owned_of_alive
      alive_of_registered := ?_
      alive_of_held := ?_
      registered_of_held := ?_ }
  · intro other alive
    by_cases here : other = store
    · subst here
      rcases own with same | closed
      · exact .inl same
      · refine .inr ⟨poller, ?_⟩
        simp [Server.setPoller, PollerPoint.closing, closed]
    · rcases registration.file_of_alive other alive with
        same | ⟨another, closed⟩
      · exact .inl (file other here same)
      · refine .inr ⟨another, ?_⟩
        by_cases moved : another = poller
        · subst moved
          simp [at_point, PollerPoint.closing, unclosed] at closed
        · simp only [Server.setPoller_of_ne moved]
          exact closed
  · intro other connection member
    exact registration.alive_of_registered other connection
      (fewer other connection member)
  · intro other connection member
    by_cases moved : other = poller
    · subst moved
      simp only [Server.setPoller_self] at member ⊢
      have before := registration.alive_of_held other connection
        (by rw [at_point]; exact member)
      rw [at_point] at before
      rcases before with alive | left
      · exact .inl alive
      · cases stage <;> first | exact absurd rfl early | cases left
    · simp only [Server.setPoller_of_ne moved] at member ⊢
      exact registration.alive_of_held other connection member
  · intro other connection member
    by_cases moved : other = poller
    · subst moved
      simp only [Server.setPoller_self] at member ⊢
      rcases List.mem_cons.mp member with rfl | later
      · exact .inr (by simp [PollerPoint.deleting, deleted])
      · have different := owned.ne_of_later at_point later
        have before := registration.registered_of_held other connection
          (by rw [at_point]; exact member)
        rw [at_point] at before
        rcases before with registered | gone
        · exact .inl (others other connection different registered)
        · simp only [PollerPoint.deleting] at gone
          split at gone
          · cases gone
            exact absurd rfl different
          · cases gone
    · simp only [Server.setPoller_of_ne moved] at member ⊢
      have different := owned.ne_of_elsewhere at_point moved member
      exact (registration.registered_of_held other connection member).imp_left
        (others other connection different)

/-- A store leaves the epoll set of the poller that removes it. -/
theorem epollDel {server : Server} (registration : Registration server)
    (owned : Ownership server) (exclusive : MutualExclusion server)
    {poller : PollerId} (handler : PollerId) {store : ConnectionId}
    {rest : List EpollEvent}
    (at_point : server.pollerThread poller = .busy .epollDel store rest) :
    Registration
      ({ server with
          kernel :=
            server.kernel.epollCtlDel handler (server.fd store) }.setPoller
        poller (.busy .closeConnection store rest)) := by
  have here := registration.file_of_busy exclusive at_point rfl (by simp) rfl
  apply registration.advance owned at_point (by simp) rfl rfl
  · intro other _ file
    rw [Kernel.epollCtlDel_file]
    exact file
  · rw [Kernel.epollCtlDel_file]
    exact .inl here
  · intro other connection member
    exact (Kernel.mem_epollCtlDel_registered.mp member).1
  · intro other connection different member
    refine Kernel.mem_epollCtlDel_registered.mpr ⟨member, ?_⟩
    intro _ denotes
    rw [here] at denotes
    cases denotes
    exact different rfl

/-- The number of the removed store is closed. -/
theorem close {server : Server} (registration : Registration server)
    (owned : Ownership server) (exclusive : MutualExclusion server)
    {poller : PollerId} {store : ConnectionId} {rest : List EpollEvent}
    (at_point :
      server.pollerThread poller = .busy .closeConnection store rest) :
    Registration
      ({ server with
          kernel := server.kernel.close (server.fd store) }.setPoller
        poller (.busy .enqueue store rest)) := by
  have here := registration.file_of_busy exclusive at_point rfl (by simp) rfl
  apply registration.advance owned at_point (by simp) rfl rfl
  · intro other different file
    have apart : server.fd other ≠ server.fd store := by
      intro same
      rw [same, here] at file
      cases file
      exact different rfl
    rw [Kernel.close_file, Function.update_of_ne apart]
    exact file
  · exact .inr rfl
  · intro other connection member
    exact (Kernel.mem_close_registered.mp member).1
  · intro other connection different member
    refine Kernel.mem_close_registered.mpr ⟨member, ?_⟩
    intro denotes
    rw [here] at denotes
    cases denotes
    exact different rfl

/-- The removed store is erased, and no other. -/
theorem erase {server : Server} (registration : Registration server)
    (owned : Ownership server) (order : TaskOrder server)
    (exclusive : MutualExclusion server) {poller : PollerId}
    {store : ConnectionId} {rest : List EpollEvent}
    (at_point : server.pollerThread poller = .busy .erase store rest) :
    Registration
      ((server.eraseStore store).setPoller poller
        (.busy .unlock store rest)) := by
  obtain ⟨-, found⟩ :=
    registration.owned_of_busy exclusive at_point rfl (by simp)
  have gone := order.deleted poller .erase store rest at_point rfl
  have dead := server.lifetime_eraseStore_self found
  have same : ∀ other, other ≠ store →
      (server.eraseStore store).lifetime other = server.lifetime other :=
    fun _ => server.lifetime_eraseStore_of_ne found
  have different_of_alive : ∀ other,
      (server.eraseStore store).lifetime other = .alive → other ≠ store := by
    rintro other alive rfl
    cases dead.symm.trans alive
  refine
    { file_of_alive := ?_
      owned_of_alive := ?_
      alive_of_registered := ?_
      alive_of_held := ?_
      registered_of_held := ?_ }
  · intro other alive
    have different := different_of_alive other alive
    rcases registration.file_of_alive other
      ((same other different).symm.trans alive) with file | ⟨another, closed⟩
    · exact .inl file
    · have samePoller := exclusive.poller_unique
        (PollerPoint.critical_of_closing closed)
        (server.critical_of_busy at_point rfl)
      subst samePoller
      rw [at_point] at closed
      cases closed
      exact absurd rfl different
  · intro other alive
    have different := different_of_alive other alive
    rcases registration.owned_of_alive other
      ((same other different).symm.trans alive) with owns | admitting
    · refine .inl ?_
      change (server.eraseStore store).find (server.fd other) = some other
      rw [Server.find_eraseStore, if_neg]
      · exact owns
      · intro sameFd
        rw [sameFd, found] at owns
        cases owns
        exact different rfl
    · exact .inr admitting
  · intro other connection member
    have different : connection ≠ store := by
      rintro rfl
      exact gone other (Kernel.mem_watched.mpr (.inl member))
    exact (same connection different).trans
      (registration.alive_of_registered other connection member)
  · intro other connection member
    by_cases moved : other = poller
    · subst moved
      simp only [Server.setPoller_self] at member ⊢
      rcases List.mem_cons.mp member with rfl | later
      · exact .inr rfl
      · have different := owned.ne_of_later at_point later
        have before := registration.alive_of_held other connection
          (by rw [at_point]; exact member)
        rw [at_point] at before
        rcases before with alive | left
        · exact .inl ((same connection different).trans alive)
        · cases left
    · simp only [Server.setPoller_of_ne moved] at member ⊢
      have different := owned.ne_of_elsewhere at_point moved member
      exact (registration.alive_of_held other connection member).imp_left
        (same connection different).trans
  · intro other connection member
    have before := registration.registered_of_held other connection
    by_cases moved : other = poller
    · subst moved
      simp only [Server.setPoller_self] at member ⊢
      rw [at_point] at before
      exact before member
    · simp only [Server.setPoller_of_ne moved] at member ⊢
      exact before member

theorem pollerStep {config : Config} {before after : Server}
    {poller : PollerId} {choice : PollerChoice}
    (registration : Registration before) (plain : config.handler = .tcp)
    (owned : Ownership before) (order : TaskOrder before)
    (exclusive : MutualExclusion before)
    (watched : before.kernel.watched = before.kernel.registered)
    (taken : PollerStep config before poller choice after) :
    Registration after := by
  -- moves that keep the phases of the store in hand, or have none
  have move : ∀ point,
      (∀ store, store ∈ point.held →
        store ∈ (before.pollerThread poller).held) →
      (before.pollerThread poller).closing = none →
      (before.pollerThread poller).leaving = none →
      (before.pollerThread poller).deleting = none →
        Registration (before.setPoller poller point) := by
    intro point fewer unclosed unleft undeleted
    apply registration.movePollerKeeping poller point fewer
    · simp [unclosed]
    · simp [unleft]
    · simp [undeleted]
  cases taken with
  | loop at_point =>
      apply move
      · split <;> simp [PollerPoint.held]
      · rw [at_point]; rfl
      · rw [at_point]; rfl
      · rw [at_point]; rfl
  | report reported entries kernel at_point waited =>
      exact registration.report watched at_point waited
  | timeout at_point =>
      have moved := move .loop (by simp [PollerPoint.held])
        (by rw [at_point]; rfl) (by rw [at_point]; rfl)
        (by rw [at_point]; rfl)
      exact { moved with }
  | batchDone at_point =>
      exact move _ (by simp [PollerPoint.held]) (by rw [at_point]; rfl)
        (by rw [at_point]; rfl) (by rw [at_point]; rfl)
  | hangUp entry rest at_point flag =>
      exact move _ (by simp [at_point, PollerPoint.held])
        (by rw [at_point]; rfl) (by rw [at_point]; rfl)
        (by rw [at_point]; rfl)
  | data entry rest at_point flag =>
      exact move _ (by simp [at_point, PollerPoint.held])
        (by rw [at_point]; rfl) (by rw [at_point]; rfl)
        (by rw [at_point]; rfl)
  | skipped entry rest at_point =>
      exact move _ (by simp +contextual [at_point, PollerPoint.held])
        (by rw [at_point]; rfl) (by rw [at_point]; rfl)
        (by rw [at_point]; rfl)
  | setIncoming store rest at_point =>
      have moved := move (.busy .dispatch store rest)
        (by simp [at_point, PollerPoint.held])
        (by rw [at_point]; rfl) (by rw [at_point]; rfl)
        (by rw [at_point]; rfl)
      exact moved.setEventType store .incomingData
  | dispatch store rest at_point =>
      exact { move (.batch rest)
        (by simp +contextual [at_point, PollerPoint.held])
        (by rw [at_point]; rfl) (by rw [at_point]; rfl)
        (by rw [at_point]; rfl) with }
  | lock store rest at_point free =>
      exact { move (.busy .setClosed store rest)
        (by simp [at_point, PollerPoint.held])
        (by rw [at_point]; rfl) (by rw [at_point]; rfl)
        (by rw [at_point]; rfl) with }
  | setClosed store rest at_point =>
      have moved := move (.busy .epollDel store rest)
        (by simp [at_point, PollerPoint.held])
        (by rw [at_point]; rfl) (by rw [at_point]; rfl)
        (by rw [at_point]; rfl)
      exact moved.setEventType store .closedConnection
  | noHandler store rest at_point handler_eq =>
      have set := owned.handler_of_busy exclusive at_point rfl
      cases handler_eq.symm.trans set
  | epollDel store rest handler at_point handler_eq =>
      exact { registration.epollDel owned exclusive handler at_point with }
  | closeConnection store rest at_point =>
      rw [Server.closeConnection_tcp before store plain]
      exact { registration.close owned exclusive at_point with }
  | enqueue store rest at_point =>
      have moved := registration.movePollerKeeping poller
        (.busy .erase store rest) (by simp [at_point, PollerPoint.held])
        (by rw [at_point]; exact fun _ closed => closed)
        (by rw [at_point]; exact fun _ left _ => by cases left)
        (by rw [at_point]; exact fun _ deleted _ => deleted)
      exact { moved with }
  | erase store rest at_point =>
      exact registration.erase owned order exclusive at_point
  | unlock store rest at_point =>
      have absent : ∀ other, (PollerPoint.busy .unlock store rest).leaving =
          some other → other ∉ rest.map (·.store) := by
        rintro other ⟨⟩ later
        exact owned.ne_of_later at_point later rfl
      have moved := registration.movePollerKeeping poller (.batch rest)
        (by simp +contextual [at_point, PollerPoint.held])
        (by rw [at_point]; exact fun _ closed => by cases closed)
        (by rw [at_point]; exact fun other left member =>
          absurd member (absent other left))
        (by rw [at_point]; exact fun other deleted member =>
          absurd member (absent other deleted))
      exact { moved with }

/-! ## All steps -/

theorem workerStep {config : Config} {before after : Server}
    {worker : WorkerId} {choice : WorkerChoice}
    (registration : Registration before)
    (quiet : config.callbacksClose = false)
    (taken : WorkerStep config before worker choice after) :
    Registration after := by
  cases taken with
  | syscall choice task call next syscall result kernel transfers at_point
      transferred =>
      rcases Kernel.transfer_spec transferred with
        rfl | ⟨connection, count, -, rfl⟩
      · exact { registration with }
      · exact { registration with }
  | close task at_point may_close =>
      rw [quiet] at may_close
      cases may_close
  | _ => exact { registration with }

end Registration

/-- The registration discipline holds in every state reached before
shutdown. -/
theorem registration_of_reached {config : Config} {server : Server}
    (plain : config.handler = .tcp) (quiet : config.callbacksClose = false)
    (reached : (tcpServer config).Reached beforeShutdown server) :
    Registration server := by
  refine TransitionSystem.Reached.invariant ?_ ?_ reached
  · rintro state rfl
    exact Registration.start config
  · intro before action after earlier allowed taken registration
    have exclusive := mutualExclusion_of_reachable earlier.reachable
    have owned := ownership_of_reachable earlier.reachable
    have map := storeMap_of_reachable earlier.reachable
    have order := taskOrder_of_reachable earlier.reachable
    cases serverStep_of_step taken with
    | network taken => cases taken <;> exact { registration with }
    | accept choice taken =>
        exact registration.acceptStep plain owned map exclusive taken
    | poller poller choice bound taken =>
        exact registration.pollerStep plain owned order exclusive
          (watched_of_reached earlier) taken
    | worker worker choice bound taken =>
        exact registration.workerStep quiet taken
    | stop taken => cases allowed

end EventPlus

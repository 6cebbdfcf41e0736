/-
Module: EventPlus.Server.Ownership
Purpose: One poller per store: whatever poller refers to a store, in its epoll
  set or in its current batch, is the one the store was registered with.
Trusted boundary: none
Main exports:
  InFlightWaits, inFlightWaits_of_reachable, Ownership,
  ownership_of_reachable, Ownership.held_unique,
  Ownership.handler_of_critical
-/
import EventPlus.Server.MutualExclusion

namespace EventPlus

open Function (update)

/-! ## Calls in flight -/

/-- Only a poller in `epoll_wait` has sockets of a closed set to report. -/
def InFlightWaits (server : Server) : Prop :=
  ∀ poller, server.pollerThread poller ≠ .epollWait →
    server.kernel.inFlight poller = []

namespace InFlightWaits

/-- The pollers stay where they are, and no call gets new sockets. -/
theorem still {before after : Server} (waits : InFlightWaits before)
    (threads : after.pollerThread = before.pollerThread)
    (fewer : ∀ poller, before.kernel.inFlight poller = [] →
      after.kernel.inFlight poller = []) : InFlightWaits after := by
  intro poller elsewhere
  rw [threads] at elsewhere
  exact fewer poller (waits poller elsewhere)

theorem close {server : Server} (waits : InFlightWaits server) (fd : Fd) :
    InFlightWaits { server with kernel := server.kernel.close fd } :=
  waits.still rfl fun poller empty =>
    List.sublist_nil.mp (empty ▸ server.kernel.close_inFlight fd poller)

theorem closeConnection {server : Server} (waits : InFlightWaits server)
    (config : Config) (store : ConnectionId) :
    InFlightWaits (server.closeConnection config store) := by
  rcases server.closeConnection_cases config store with
    result | result | result
  · rw [result]
    exact waits
  · rw [result]
    exact waits.close (server.fd store)
  · rw [result]
    exact waits.close (server.fd store)

/-- A poller whose call has returned, or that was in none, keeps nothing in
flight. -/
theorem movePoller {server : Server} (waits : InFlightWaits server)
    {poller : PollerId} (point : PollerPoint)
    (none_left : server.kernel.inFlight poller = []) :
    InFlightWaits (server.setPoller poller point) := by
  intro other elsewhere
  by_cases moved : other = poller
  · subst moved
    exact none_left
  · rw [Server.setPoller_of_ne moved] at elsewhere
    exact waits other elsewhere

/-- Emptying the call of one poller keeps the others as they are. -/
theorem epollReturns {server : Server} (waits : InFlightWaits server)
    {poller : PollerId} {kernel : Kernel} (point : PollerPoint)
    (returned :
      kernel.inFlight = update server.kernel.inFlight poller []) :
    InFlightWaits
      ({ server with kernel := kernel }.setPoller poller point) := by
  have emptied : InFlightWaits { server with kernel := kernel } := by
    refine waits.still rfl fun other empty => ?_
    change kernel.inFlight other = []
    rw [returned]
    by_cases same : other = poller
    · rw [same, Function.update_self]
    · rw [Function.update_of_ne same]
      exact empty
  refine emptied.movePoller point ?_
  change kernel.inFlight poller = []
  rw [returned, Function.update_self]

theorem acceptStep {config : Config} {before after : Server}
    {choice : AcceptChoice} (waits : InFlightWaits before)
    (taken : AcceptStep config before choice after) :
    InFlightWaits after := by
  cases taken with
  | accepted fd ssl kernel at_point got =>
      obtain ⟨_, rfl⟩ := Kernel.accept_spec got
      exact waits
  | ntopFailed fd ssl kernel at_point got =>
      obtain ⟨_, rfl⟩ := Kernel.accept_spec got
      exact waits
  | initConnection store outcome at_point =>
      obtain ⟨ssl, result | result⟩ :=
        before.initConnection_cases config store outcome
      · rw [result]
        exact waits
      · rw [result]
        exact waits.close (before.fd store)
  | registered store kernel at_point added =>
      obtain ⟨_, -, -, -, -, -, same, -⟩ := Kernel.epollCtlAdd_spec added
      refine waits.still rfl fun poller empty => ?_
      change kernel.inFlight poller = []
      rw [same]
      exact empty
  | _ => exact waits

theorem pollerStep {config : Config} {before after : Server}
    {poller : PollerId} {choice : PollerChoice}
    (waits : InFlightWaits before)
    (taken : PollerStep config before poller choice after) :
    InFlightWaits after := by
  have outside : before.pollerThread poller ≠ .epollWait →
      before.kernel.inFlight poller = [] := waits poller
  cases taken with
  | report reported entries kernel at_point waited =>
      obtain ⟨-, -, -, -, -, same, -⟩ := Kernel.epollWait_spec waited
      exact waits.epollReturns _ same
  | timeout at_point => exact waits.epollReturns _ rfl
  | epollDel store rest handler at_point handler_eq =>
      have deleted : InFlightWaits
          { before with
              kernel :=
                before.kernel.epollCtlDel handler (before.fd store) } := by
        refine waits.still rfl fun other empty => ?_
        simpa using empty
      exact deleted.movePoller (.busy .closeConnection store rest)
        (deleted poller (by simp [at_point]))
  | closeConnection store rest at_point =>
      have closed := waits.closeConnection config store
      exact closed.movePoller _ (closed poller (by
        rw [before.pollerThread_closeConnection, at_point]
        simp))
  | loop at_point => exact waits.movePoller _ (outside (by simp [at_point]))
  | batchDone at_point =>
      exact waits.movePoller _ (outside (by simp [at_point]))
  | hangUp entry rest at_point flag =>
      exact waits.movePoller _ (outside (by simp [at_point]))
  | data entry rest at_point flag =>
      exact waits.movePoller _ (outside (by simp [at_point]))
  | skipped entry rest at_point =>
      exact waits.movePoller _ (outside (by simp [at_point]))
  | noHandler store rest at_point handler_eq =>
      exact waits.movePoller _ (outside (by simp [at_point]))
  | setIncoming store rest at_point =>
      exact waits.movePoller _ (outside (by simp [at_point]))
  | dispatch store rest at_point =>
      exact waits.movePoller _ (outside (by simp [at_point]))
  | lock store rest at_point free =>
      exact waits.movePoller _ (outside (by simp [at_point]))
  | setClosed store rest at_point =>
      exact waits.movePoller _ (outside (by simp [at_point]))
  | enqueue store rest at_point =>
      exact waits.movePoller _ (outside (by simp [at_point]))
  | erase store rest at_point =>
      exact waits.movePoller _ (outside (by simp [at_point]))
  | unlock store rest at_point =>
      exact waits.movePoller _ (outside (by simp [at_point]))

theorem workerStep {config : Config} {before after : Server}
    {worker : WorkerId} {choice : WorkerChoice}
    (waits : InFlightWaits before)
    (taken : WorkerStep config before worker choice after) :
    InFlightWaits after := by
  cases taken with
  | syscall choice task call next syscall result kernel transfers at_point
      transferred =>
      rcases Kernel.transfer_spec transferred with
        rfl | ⟨connection, count, -, rfl⟩
      · exact waits
      · exact waits
  | close task at_point may_close =>
      exact waits.closeConnection config task.eventStorePointer
  | _ => exact waits

theorem stopStep {config : Config} {before after : Server}
    (waits : InFlightWaits before) (taken : StopStep config before after) :
    InFlightWaits after := by
  cases taken with
  | closeListening closed at_point closes =>
      rcases Server.closeListening_cases closes with result | result
      · rw [result]
        exact waits
      · rw [result]
        exact waits.close config.listenFd
  | closePollerEpoll poller at_point =>
      intro other elsewhere
      by_cases same : other = poller
      · subst same
        simp [Kernel.closeEpoll, show before.pollerThread other ≠ _ from
          elsewhere]
      · exact (Function.update_of_ne same _ _).trans (waits other elsewhere)
  | closing store rest at_point =>
      exact waits.closeConnection config store
  | _ => exact waits

theorem serverStep {config : Config} {before after : Server} {action : Action}
    (waits : InFlightWaits before)
    (taken : ServerStep config before action after) :
    InFlightWaits after := by
  cases taken with
  | network taken => cases taken <;> exact waits
  | accept choice taken => exact waits.acceptStep taken
  | poller poller choice bound taken => exact waits.pollerStep taken
  | worker worker choice bound taken => exact waits.workerStep taken
  | stop taken => exact waits.stopStep taken

end InFlightWaits

theorem inFlightWaits_of_reachable {config : Config} {server : Server}
    (reachable : (tcpServer config).Reachable server) :
    InFlightWaits server := by
  refine TransitionSystem.Reachable.invariant ?_ ?_ reachable
  · rintro state rfl poller -
    rfl
  · intro before action after _ taken waits
    exact waits.serverStep (serverStep_of_step taken)

/-! ## The discipline -/

/-- The ownership discipline between the accept thread, the pollers and the
kernel.  It holds with either handler, with callbacks that close connections,
and during shutdown.

A store is registered once, by the accept path, so `registeredWith` is a
function; a poller takes store pointers only from its own epoll set, which an
`epoll_wait` under way keeps when the set is closed.  The back
pointer agrees with it except in the one line of `addSocket` that is about to
set it. -/
structure Ownership (server : Server) : Prop where
  admitting_last : ∀ stage store,
    server.acceptThread = .admitting stage store → store + 1 = server.accepted
  admitting_fresh : ∀ store,
    server.acceptThread = .admitting .initConnection store ∨
        server.acceptThread = .admitting .addSocket store →
      server.registeredWith store = none
  admitting_file : ∀ stage store, server.acceptThread = .admitting stage store →
    ∀ connection,
      server.kernel.file (server.fd store) = some (.client connection) →
        connection = store
  watched_with : ∀ poller store,
    store ∈ server.kernel.watched poller →
      server.registeredWith store = some poller
  watched_file : ∀ poller store,
    store ∈ server.kernel.watched poller →
      server.kernel.file (server.fd store) = some (.client store)
  held_with : ∀ poller store, store ∈ (server.pollerThread poller).held →
    server.registeredWith store = some poller
  held_nodup : ∀ poller, (server.pollerThread poller).held.Nodup
  registering : ∀ poller store,
    server.acceptThread = .admitting (.backPointer poller) store →
      server.registeredWith store = some poller
  with_handler : ∀ poller store,
    server.registeredWith store = some poller →
      (server.store store).socketEventHandler = some poller ∨
        server.acceptThread = .admitting (.backPointer poller) store
  with_lt : ∀ poller store,
    server.registeredWith store = some poller → store < server.accepted

namespace Ownership

theorem start (config : Config) : Ownership (Server.start config) where
  admitting_last := by
    intro stage store at_point
    cases at_point
  admitting_fresh := by simp [Server.start]
  admitting_file := by
    intro stage store at_point
    cases at_point
  watched_with := by simp [Server.start, Kernel.watched]
  watched_file := by simp [Server.start, Kernel.watched]
  held_with := by simp [Server.start, PollerPoint.held]
  held_nodup := by simp [Server.start, PollerPoint.held]
  registering := by
    intro poller store at_point
    cases at_point
  with_handler := by simp [Server.start]
  with_lt := by simp [Server.start]

theorem registered_with {server : Server} (owned : Ownership server)
    (poller : PollerId) (store : ConnectionId)
    (member : store ∈ server.kernel.registered poller) :
    server.registeredWith store = some poller :=
  owned.watched_with poller store (Kernel.mem_watched.mpr (.inl member))

theorem registered_file {server : Server} (owned : Ownership server)
    (poller : PollerId) (store : ConnectionId)
    (member : store ∈ server.kernel.registered poller) :
    server.kernel.file (server.fd store) = some (.client store) :=
  owned.watched_file poller store (Kernel.mem_watched.mpr (.inl member))

/-- Only one poller refers to a store. -/
theorem held_unique {server : Server} (owned : Ownership server)
    {first second : PollerId} {store : ConnectionId}
    (one : store ∈ (server.pollerThread first).held)
    (two : store ∈ (server.pollerThread second).held) : first = second := by
  have same := (owned.held_with _ _ one).symm.trans (owned.held_with _ _ two)
  exact Option.some.inj same

/-- The store a poller is at is not among its later entries. -/
theorem ne_of_later {server : Server} (owned : Ownership server)
    {poller : PollerId} {stage : PollerStage} {store other : ConnectionId}
    {rest : List EpollEvent}
    (at_point : server.pollerThread poller = .busy stage store rest)
    (later : other ∈ rest.map (·.store)) : other ≠ store := by
  have distinct := owned.held_nodup poller
  rw [at_point] at distinct
  rintro rfl
  exact (List.nodup_cons.mp distinct).1 later

/-- No other poller refers to the store a poller is at. -/
theorem ne_of_elsewhere {server : Server} (owned : Ownership server)
    {poller another : PollerId} {stage : PollerStage}
    {store other : ConnectionId} {rest : List EpollEvent}
    (at_point : server.pollerThread poller = .busy stage store rest)
    (elsewhere : another ≠ poller)
    (held : other ∈ (server.pollerThread another).held) :
    other ≠ store := by
  rintro rfl
  exact elsewhere (owned.held_unique held (server.held_of_busy at_point))

/-- Inside `removeSocket` the back pointer is set and names the poller
itself. -/
theorem handler_of_critical {server : Server} (owned : Ownership server)
    (exclusive : MutualExclusion server) {poller : PollerId}
    (inside : (server.pollerThread poller).critical = true)
    {store : ConnectionId}
    (held : store ∈ (server.pollerThread poller).held) :
    (server.store store).socketEventHandler = some poller := by
  rcases owned.with_handler _ _ (owned.held_with _ _ held) with
    set | unset
  · exact set
  · have outside := exclusive.accept_excludes_poller inside
    rw [unset] at outside
    cases outside

theorem handler_of_busy {server : Server} (owned : Ownership server)
    (exclusive : MutualExclusion server) {poller : PollerId}
    {stage : PollerStage} {store : ConnectionId} {rest : List EpollEvent}
    (at_point : server.pollerThread poller = .busy stage store rest)
    (inside : stage.critical = true) :
    (server.store store).socketEventHandler = some poller :=
  owned.handler_of_critical exclusive
    (server.critical_of_busy at_point inside) (server.held_of_busy at_point)

/-- `EPOLL_CTL_DEL` inside `removeSocket` succeeds in taking the store out of
every epoll set: it is registered with the poller at work, if at all, and under
an open number. -/
theorem not_mem_epollCtlDel {server : Server} (owned : Ownership server)
    (exclusive : MutualExclusion server) {poller handler : PollerId}
    {stage : PollerStage} {store : ConnectionId} {rest : List EpollEvent}
    (at_point : server.pollerThread poller = .busy stage store rest)
    (inside : stage.critical = true)
    (handler_eq : (server.store store).socketEventHandler = some handler)
    (other : PollerId) :
    store ∉
      (server.kernel.epollCtlDel handler (server.fd store)).registered
        other := by
  intro member
  obtain ⟨before, denotes⟩ := Kernel.mem_epollCtlDel_registered.mp member
  have sameHandler : some handler = some poller :=
    handler_eq.symm.trans (owned.handler_of_busy exclusive at_point inside)
  have samePoller : some other = some poller :=
    (owned.registered_with other store before).symm.trans
      (owned.held_with poller store (server.held_of_busy at_point))
  cases sameHandler
  cases samePoller
  exact denotes rfl (owned.registered_file _ store before)

/-- The store a poller is at work on is in no `epoll_wait` under way: it would
be one of that poller. -/
theorem not_mem_inFlight {server : Server} (owned : Ownership server)
    (waits : InFlightWaits server) {poller : PollerId} {stage : PollerStage}
    {store : ConnectionId} {rest : List EpollEvent}
    (at_point : server.pollerThread poller = .busy stage store rest)
    (other : PollerId) : store ∉ server.kernel.inFlight other := by
  intro member
  have samePoller : some other = some poller :=
    (owned.watched_with other store
      (Kernel.mem_watched.mpr (.inr member))).symm.trans
        (owned.held_with poller store (server.held_of_busy at_point))
  cases samePoller
  rw [waits _ (by simp [at_point])] at member
  cases member

/-- After its `EPOLL_CTL_DEL` a removed store is reported no more. -/
theorem not_mem_watched {server : Server} (owned : Ownership server)
    (exclusive : MutualExclusion server) (waits : InFlightWaits server)
    {poller handler : PollerId} {stage : PollerStage} {store : ConnectionId}
    {rest : List EpollEvent}
    (at_point : server.pollerThread poller = .busy stage store rest)
    (inside : stage.critical = true)
    (handler_eq : (server.store store).socketEventHandler = some handler)
    (other : PollerId) :
    store ∉
      (server.kernel.epollCtlDel handler (server.fd store)).watched other := by
  intro member
  rcases Kernel.mem_watched.mp member with registered | flight
  · exact owned.not_mem_epollCtlDel exclusive at_point inside handler_eq other
      registered
  · rw [Kernel.epollCtlDel_inFlight] at flight
    exact owned.not_mem_inFlight waits at_point other flight

/-! ## Single changes -/

/-- Closing any descriptor number keeps the discipline. -/
theorem close {server : Server} (owned : Ownership server) (number : Fd) :
    Ownership { server with kernel := server.kernel.close number } := by
  refine
    { owned with
      admitting_file := ?_
      watched_with := ?_
      watched_file := ?_ }
  · intro stage store at_point connection denotes
    change (server.kernel.close number).file (server.fd store) = _
      at denotes
    by_cases same : server.fd store = number
    · simp [same] at denotes
    · rw [Kernel.close_file, Function.update_of_ne same] at denotes
      exact owned.admitting_file stage store at_point connection denotes
  · intro poller store member
    exact owned.watched_with poller store
      (Kernel.mem_close_watched.mp member).1
  · intro poller store member
    obtain ⟨before, denotes⟩ := Kernel.mem_close_watched.mp member
    have file := owned.watched_file poller store before
    have other : server.fd store ≠ number := by
      intro same
      exact denotes (same ▸ file)
    change (server.kernel.close number).file (server.fd store) = _
    rw [Kernel.close_file, Function.update_of_ne other]
    exact file

theorem closeDescriptor {server : Server} (owned : Ownership server)
    (store : ConnectionId) : Ownership (server.closeDescriptor store) :=
  { owned.close (server.fd store) with }

/-- Fields other than the descriptor number and the back pointer do not
matter. -/
theorem changeStore {server : Server} (owned : Ownership server)
    {stores : ConnectionId → EventStorePointer}
    (same_fd : ∀ store, (stores store).socketId = server.fd store)
    (same_handler : ∀ store, (stores store).socketEventHandler =
      (server.store store).socketEventHandler) :
    Ownership { server with store := stores } := by
  refine
    { owned with
      admitting_file := ?_
      watched_file := ?_
      with_handler := ?_ }
  · intro stage store at_point connection
    rw [Server.fd, same_fd]
    exact owned.admitting_file stage store at_point connection
  · intro poller store member
    rw [Server.fd, same_fd]
    exact owned.watched_file poller store member
  · intro poller store registered
    rw [same_handler]
    exact owned.with_handler poller store registered

theorem setSSL {server : Server} (owned : Ownership server)
    (store : ConnectionId) (ssl : SSLPointer) :
    Ownership (server.setSSL store ssl) :=
  owned.changeStore (fun other => Server.fd_setSSL store other ssl)
    (fun other => Server.handler_setSSL store other ssl)

theorem setEventType {server : Server} (owned : Ownership server)
    (store : ConnectionId) (kind : EventType) :
    Ownership (server.setEventType store kind) :=
  owned.changeStore (fun other => Server.fd_setEventType store other kind)
    (fun other => Server.handler_setEventType store other kind)

theorem closeConnection {server : Server} (owned : Ownership server)
    (config : Config) (store : ConnectionId) :
    Ownership (server.closeConnection config store) := by
  rcases server.closeConnection_cases config store with
    result | result | result
  · rw [result]
    exact owned
  · rw [result]
    exact owned.closeDescriptor store
  · rw [result]
    exact (owned.closeDescriptor store).setSSL store .null

/-- The connection set-up of the store being admitted. -/
theorem initConnection {server : Server} (owned : Ownership server)
    (config : Config) (store : ConnectionId)
    (outcome : Handshake) :
    Ownership (server.initConnection config store outcome) := by
  obtain ⟨ssl, result | result⟩ :=
    Server.initConnection_cases config server store outcome
  · rw [result]
    exact owned.setSSL store ssl
  · rw [result]
    exact (owned.closeDescriptor store).setSSL store ssl

/-- A poller drops some of the stores it refers to, or none. -/
theorem movePoller {server : Server} (owned : Ownership server)
    (poller : PollerId) (point : PollerPoint)
    (fewer : point.held.Sublist (server.pollerThread poller).held) :
    Ownership (server.setPoller poller point) := by
  refine { owned with held_with := ?_, held_nodup := ?_ }
  · intro other store member
    by_cases moved : other = poller
    · subst moved
      simp only [Server.setPoller_self] at member
      exact owned.held_with other store (fewer.subset member)
    · simp only [Server.setPoller_of_ne moved] at member
      exact owned.held_with other store member
  · intro other
    by_cases moved : other = poller
    · subst moved
      simp only [Server.setPoller_self]
      exact (owned.held_nodup other).sublist fewer
    · simp only [Server.setPoller_of_ne moved]
      exact owned.held_nodup other

/-- The accept thread moves on, outside the lines that make or register a
store. -/
theorem moveAccept {server : Server} (owned : Ownership server)
    (point : AcceptPoint)
    (admitting : ∀ stage store, point = .admitting stage store →
      ∃ earlier, server.acceptThread = .admitting earlier store)
    (fresh : ∀ store,
      point = .admitting .initConnection store ∨
          point = .admitting .addSocket store →
        server.registeredWith store = none)
    (elsewhere : ∀ poller store, point ≠ .admitting (.backPointer poller) store)
    (handled : ∀ poller store,
      server.acceptThread ≠ .admitting (.backPointer poller) store) :
    Ownership { server with acceptThread := point } := by
  refine
    { owned with
      admitting_last := ?_
      admitting_fresh := fresh
      admitting_file := ?_
      registering := ?_
      with_handler := ?_ }
  · intro stage store at_point
    obtain ⟨earlier, before⟩ := admitting stage store at_point
    exact owned.admitting_last earlier store before
  · intro stage store at_point
    obtain ⟨earlier, before⟩ := admitting stage store at_point
    exact owned.admitting_file earlier store before
  · intro poller store at_point
    exact absurd at_point (elsewhere poller store)
  · intro poller store registered
    rcases owned.with_handler poller store registered with set | unset
    · exact .inl set
    · exact absurd unset (handled poller store)

/-- The accept thread moves between points at which it has no store. -/
theorem moveAcceptOutside {server : Server} (owned : Ownership server)
    (point : AcceptPoint)
    (outside : ∀ stage store, point ≠ .admitting stage store)
    (handled : ∀ poller store,
      server.acceptThread ≠ .admitting (.backPointer poller) store) :
    Ownership { server with acceptThread := point } := by
  apply owned.moveAccept
  · intro stage store at_point
    exact absurd at_point (outside stage store)
  · rintro store (at_point | at_point)
    · exact absurd at_point (outside _ _)
    · exact absurd at_point (outside _ _)
  · intro poller store
    exact outside _ _
  · exact handled

/-! ## Steps -/

theorem network {before after : Server} {action : Action}
    (owned : Ownership before)
    (taken : NetworkStep before action after) : Ownership after := by
  cases taken <;> exact { owned with }

/-- `accept` returned a number, and the store was made for it. -/
theorem accepted {server : Server} (owned : Ownership server) {fd : Fd}
    {ssl : SSLPointer} {kernel : Kernel}
    (at_point : server.acceptThread = .accept)
    (got : server.kernel.accept fd server.accepted = some kernel) :
    Ownership
      { server.makeStore kernel fd ssl with
          acceptThread := .admitting .initConnection server.accepted } := by
  obtain ⟨unused, rfl⟩ := Kernel.accept_spec got
  have older : ∀ poller store,
      server.registeredWith store = some poller → store ≠ server.accepted :=
    fun poller store registered =>
      Nat.ne_of_lt (owned.with_lt poller store registered)
  refine
    { admitting_last := ?_
      admitting_fresh := ?_
      admitting_file := ?_
      watched_with := owned.watched_with
      watched_file := ?_
      held_with := owned.held_with
      held_nodup := owned.held_nodup
      registering := by simp
      with_handler := ?_
      with_lt := ?_ }
  · intro stage store admitted
    cases admitted
    rfl
  · intro store admitted
    have newest : store = server.accepted := by
      rcases admitted with admitted | admitted
      · cases admitted
        rfl
      · cases admitted
    subst newest
    cases registered : server.registeredWith server.accepted with
    | none => exact registered
    | some poller => exact absurd rfl (older poller _ registered)
  · intro stage store admitted connection denotes
    cases admitted
    simp only [Server.fd, Server.makeStore, Function.update_self,
      Option.some.injEq, File.client.injEq] at denotes
    exact denotes.symm
  · intro poller store member
    have file := owned.watched_file poller store member
    have before :=
      older poller store (owned.watched_with poller store member)
    have other := Kernel.ne_of_unused file unused
    simp only [Server.fd, Server.makeStore, Function.update_of_ne before]
    exact (Function.update_of_ne other _ _).trans file
  · intro poller store registered
    have before := older poller store registered
    rcases owned.with_handler poller store registered with set | unset
    · refine .inl ?_
      simp only [Server.makeStore, Function.update_of_ne before]
      exact set
    · rw [at_point] at unset
      cases unset
  · intro poller store registered
    exact Nat.lt_succ_of_lt (owned.with_lt poller store registered)

/-- `accept` returned a number that the early return leaks. -/
theorem ntopFailed {server : Server} (owned : Ownership server) {fd : Fd}
    {kernel : Kernel} (at_point : server.acceptThread = .accept)
    (got : server.kernel.accept fd server.accepted = some kernel) :
    Ownership
      { server with
          kernel := kernel
          accepted := server.accepted + 1
          acceptThread := .unlock } := by
  obtain ⟨unused, rfl⟩ := Kernel.accept_spec got
  have moved := owned.moveAcceptOutside .unlock (by simp)
    (by simp [at_point])
  refine
    { moved with
      admitting_last := by simp
      admitting_file := by simp
      watched_file := ?_
      with_lt := ?_ }
  · intro poller store member
    have file := owned.watched_file poller store member
    have other := Kernel.ne_of_unused file unused
    exact (Function.update_of_ne other _ _).trans file
  · intro poller store registered
    exact Nat.lt_succ_of_lt (owned.with_lt poller store registered)

/-- The store being admitted is registered with the next poller. -/
theorem registered {config : Config} {server : Server}
    (owned : Ownership server) {store : ConnectionId} {kernel : Kernel}
    (at_point : server.acceptThread = .admitting .addSocket store)
    (added :
      server.kernel.epollCtlAdd (server.nextIndex config)
        (server.fd store) = some kernel) :
    Ownership
      { server with
          kernel := kernel
          currentIndex := server.nextIndex config
          registeredWith :=
            update server.registeredWith store
              (some (server.nextIndex config))
          acceptThread :=
            .admitting (.backPointer (server.nextIndex config)) store } := by
  obtain ⟨connection, denotes, absent, -, file, registered, flight, -⟩ :=
    Kernel.epollCtlAdd_spec added
  have same : connection = store :=
    owned.admitting_file _ store at_point connection denotes
  subst same
  have fresh : server.registeredWith connection = none :=
    owned.admitting_fresh connection (.inr at_point)
  have older : ∀ poller store,
      server.registeredWith store = some poller → store ≠ connection := by
    rintro poller store registeredHere rfl
    rw [fresh] at registeredHere
    cases registeredHere
  have earlier : ∀ poller other, other ∈ kernel.watched poller →
      other ≠ connection → other ∈ server.kernel.watched poller := by
    intro poller other member here
    rw [Kernel.mem_watched, flight, registered] at member
    by_cases samePoller : poller = server.nextIndex config
    · subst samePoller
      simpa [Kernel.mem_watched, here] using member
    · rw [Function.update_of_ne samePoller] at member
      exact Kernel.mem_watched.mpr member
  refine
    { admitting_last := ?_
      admitting_fresh := by simp
      admitting_file := ?_
      watched_with := ?_
      watched_file := ?_
      held_with := ?_
      held_nodup := owned.held_nodup
      registering := ?_
      with_handler := ?_
      with_lt := ?_ }
  · intro stage other admitted
    cases admitted
    exact owned.admitting_last _ connection at_point
  · intro stage other admitted client
    cases admitted
    rw [file]
    exact owned.admitting_file _ connection at_point client
  · intro poller other member
    by_cases here : other = connection
    · subst here
      by_cases samePoller : poller = server.nextIndex config
      · subst samePoller
        simp
      · rw [Kernel.mem_watched, flight, registered,
          Function.update_of_ne samePoller] at member
        exact absurd
          (owned.watched_with poller other (Kernel.mem_watched.mpr member))
          (by simp [fresh])
    · simp only [Function.update_of_ne here]
      apply owned.watched_with poller other
      exact earlier poller other member here
  · intro poller other member
    by_cases here : other = connection
    · subst here
      rw [file]
      exact denotes
    · rw [file]
      apply owned.watched_file poller other
      exact earlier poller other member here
  · intro poller other member
    have before := owned.held_with poller other member
    simp only [Function.update_of_ne (older poller other before)]
    exact before
  · intro poller other admitted
    cases admitted
    simp
  · intro poller other registeredHere
    by_cases here : other = connection
    · subst here
      simp only [Function.update_self, Option.some.injEq] at registeredHere
      exact .inr (by rw [registeredHere])
    · simp only [Function.update_of_ne here] at registeredHere
      rcases owned.with_handler poller other registeredHere with set | unset
      · exact .inl set
      · rw [at_point] at unset
        cases unset
  · intro poller other registeredHere
    by_cases here : other = connection
    · subst here
      exact (owned.admitting_last _ other at_point) ▸ Nat.lt_succ_self other
    · simp only [Function.update_of_ne here] at registeredHere
      exact owned.with_lt poller other registeredHere

/-- The back pointer of the registered store is set. -/
theorem backPointer {server : Server} (owned : Ownership server)
    {poller : PollerId} {store : ConnectionId}
    (at_point : server.acceptThread = .admitting (.backPointer poller) store) :
    Ownership
      { server.setBackPointer store poller with
          acceptThread := .admitting .insert store } := by
  refine
    { owned with
      admitting_last := ?_
      admitting_fresh := by simp
      admitting_file := ?_
      watched_file := ?_
      registering := by simp
      with_handler := ?_ }
  · intro stage other admitted
    cases admitted
    exact owned.admitting_last _ store at_point
  · intro stage other admitted connection denotes
    cases admitted
    refine owned.admitting_file _ store at_point connection ?_
    rw [← Server.fd_setBackPointer store store poller]
    exact denotes
  · intro other member registered
    have file := owned.watched_file other member registered
    rw [← Server.fd_setBackPointer store member poller] at file
    exact file
  · intro other member registered
    refine .inl ?_
    by_cases here : member = store
    · subst here
      have same : some poller = some other :=
        (owned.registering poller member at_point).symm.trans registered
      cases same
      simp [Server.setBackPointer]
    · rcases owned.with_handler other member registered with set | unset
      · simpa [Server.setBackPointer, Function.update_of_ne here] using set
      · rw [at_point] at unset
        cases unset
        exact absurd rfl here

theorem acceptStep {config : Config} {before after : Server}
    {choice : AcceptChoice}
    (owned : Ownership before) (taken : AcceptStep config before choice after) :
    Ownership after := by
  cases taken with
  | loop at_point =>
      apply owned.moveAcceptOutside
      · intro stage store
        split <;> simp
      · simp [at_point]
  | report at_point =>
      exact { owned.moveAcceptOutside .handleEvent (by simp)
        (by simp [at_point]) with }
  | timeout at_point =>
      exact owned.moveAcceptOutside _ (by simp) (by simp [at_point])
  | handleEvent at_point =>
      apply owned.moveAcceptOutside
      · intro stage store
        split <;> simp
      · simp [at_point]
  | lock at_point free =>
      exact { owned.moveAcceptOutside .accept (by simp)
        (by simp [at_point]) with }
  | acceptFailed lost at_point =>
      exact { owned.moveAcceptOutside .unlock (by simp)
        (by simp [at_point]) with }
  | accepted fd ssl kernel at_point got => exact owned.accepted at_point got
  | ntopFailed fd ssl kernel at_point got => exact owned.ntopFailed at_point got
  | initConnection store outcome at_point =>
      have initialized := owned.initConnection config store outcome
      have fresh := owned.admitting_fresh store (.inl at_point)
      obtain ⟨ssl, result | result⟩ :=
        Server.initConnection_cases config before store outcome
      · rw [result] at initialized ⊢
        apply initialized.moveAccept
        · rintro stage other ⟨⟩
          exact ⟨_, at_point⟩
        · rintro other (⟨⟨⟩⟩ | ⟨⟨⟩⟩)
          exact fresh
        · simp
        · intro poller other
          exact fun reached => by cases at_point.symm.trans reached
      · rw [result] at initialized ⊢
        apply initialized.moveAccept
        · rintro stage other ⟨⟩
          exact ⟨_, at_point⟩
        · rintro other (⟨⟨⟩⟩ | ⟨⟨⟩⟩)
          exact fresh
        · simp
        · intro poller other
          exact fun reached => by cases at_point.symm.trans reached
  | registered store kernel at_point added =>
      exact owned.registered at_point added
  | refused store granted at_point =>
      exact { owned.moveAccept (.admitting .insert store)
        (by simp [at_point]) (by simp) (by simp)
        (by simp [at_point]) with }
  | backPointer poller store at_point => exact owned.backPointer at_point
  | insert store at_point =>
      exact { owned.moveAccept (.admitting .enqueue store)
        (by simp [at_point]) (by simp) (by simp)
        (by simp [at_point]) with }
  | enqueue store at_point =>
      exact { owned.moveAcceptOutside .unlock (by simp)
        (by simp [at_point]) with }
  | unlock at_point =>
      exact { owned.moveAcceptOutside .loop (by simp)
        (by simp [at_point]) with }

/-- Taking sockets out of what `epoll_wait` may report keeps the discipline. -/
theorem shrink {server : Server} (owned : Ownership server) {kernel : Kernel}
    (file : kernel.file = server.kernel.file)
    (fewer : ∀ poller store, store ∈ kernel.watched poller →
      store ∈ server.kernel.watched poller) :
    Ownership { server with kernel := kernel } := by
  refine
    { owned with
      admitting_file := ?_
      watched_with := ?_
      watched_file := ?_ }
  · intro stage store at_point connection denotes
    change kernel.file _ = _ at denotes
    rw [file] at denotes
    exact owned.admitting_file stage store at_point connection denotes
  · intro poller store member
    exact owned.watched_with poller store (fewer poller store member)
  · intro poller store member
    change kernel.file _ = _
    rw [file]
    exact owned.watched_file poller store (fewer poller store member)

/-- `epoll_wait` returned entries of the set the poller called it with. -/
theorem report {server : Server} (owned : Ownership server)
    {poller : PollerId} {reported : List ConnectionId}
    {entries : List EpollEvent} {kernel : Kernel}
    (waited :
      server.kernel.epollWait poller reported = some (entries, kernel)) :
    Ownership
      ({ server with kernel := kernel }.setPoller poller (.batch entries)) := by
  obtain ⟨rfl, distinct, members, file, registered, flight, -⟩ :=
    Kernel.epollWait_spec waited
  have held :
      (PollerPoint.batch (reported.map server.kernel.event)).held =
        reported := by
    simp [PollerPoint.held, Kernel.event, Function.comp_def]
  refine
    { owned.shrink file (fun _ _ =>
        Kernel.mem_watched_of_returned registered flight) with
      held_with := ?_
      held_nodup := ?_ }
  · intro other store member
    by_cases moved : other = poller
    · subst moved
      simp only [Server.setPoller_self, held] at member
      exact owned.watched_with other store (members store member)
    · simp only [Server.setPoller_of_ne moved] at member
      exact owned.held_with other store member
  · intro other
    by_cases moved : other = poller
    · subst moved
      simp only [Server.setPoller_self, held]
      exact distinct
    · simp only [Server.setPoller_of_ne moved]
      exact owned.held_nodup other

theorem epollCtlDel {server : Server} (owned : Ownership server)
    (poller : PollerId) (number : Fd) :
    Ownership
      { server with kernel := server.kernel.epollCtlDel poller number } :=
  owned.shrink (Kernel.epollCtlDel_file _ _ _) fun _ _ =>
    Kernel.mem_watched_of_epollCtlDel

theorem pollerStep {config : Config} {before after : Server}
    {poller : PollerId} {choice : PollerChoice} (owned : Ownership before)
    (taken : PollerStep config before poller choice after) :
    Ownership after := by
  cases taken with
  | loop at_point =>
      apply owned.movePoller
      split <;> exact List.nil_sublist _
  | report reported entries kernel at_point waited => exact owned.report waited
  | timeout at_point =>
      have returned : Ownership
          { before with kernel := before.kernel.epollReturns poller } :=
        owned.shrink rfl fun _ _ => Kernel.mem_watched_of_returned rfl rfl
      exact returned.movePoller _ _ (List.nil_sublist _)
  | batchDone at_point => exact owned.movePoller _ _ (List.nil_sublist _)
  | hangUp entry rest at_point flag =>
      exact owned.movePoller _ _ (by simp [at_point, PollerPoint.held])
  | data entry rest at_point flag =>
      exact owned.movePoller _ _ (by simp [at_point, PollerPoint.held])
  | skipped entry rest at_point =>
      exact owned.movePoller _ _ (by simp [at_point, PollerPoint.held])
  | setIncoming store rest at_point =>
      exact (owned.setEventType store .incomingData).movePoller _ _
        (by simp [at_point, PollerPoint.held, Server.setEventType])
  | dispatch store rest at_point =>
      exact { owned.movePoller poller (.batch rest)
        (by simp [at_point, PollerPoint.held]) with }
  | lock store rest at_point free =>
      exact { owned.movePoller poller
        (.busy .setClosed store rest)
        (by simp [at_point, PollerPoint.held]) with }
  | setClosed store rest at_point =>
      exact (owned.setEventType store .closedConnection).movePoller _ _
        (by simp [at_point, PollerPoint.held, Server.setEventType])
  | noHandler store rest at_point handler_eq =>
      exact owned.movePoller _ _ (by simp [at_point, PollerPoint.held])
  | epollDel store rest handler at_point handler_eq =>
      have deleted := owned.epollCtlDel handler (before.fd store)
      exact { deleted.movePoller poller
        (.busy .closeConnection store rest)
        (by simp [at_point, PollerPoint.held]) with }
  | closeConnection store rest at_point =>
      have moved := owned.movePoller poller
        (.busy .enqueue store rest)
        (by simp [at_point, PollerPoint.held])
      rcases before.closeConnection_cases config store with
        result | result | result
      · rw [result]
        exact moved
      · rw [result]
        exact { moved.closeDescriptor store with }
      · rw [result]
        exact { (moved.closeDescriptor store).setSSL store .null with }
  | enqueue store rest at_point =>
      exact { owned.movePoller poller
        (.busy .erase store rest)
        (by simp [at_point, PollerPoint.held]) with }
  | erase store rest at_point =>
      exact { owned.movePoller poller
        (.busy .unlock store rest)
        (by simp [at_point, PollerPoint.held]) with }
  | unlock store rest at_point =>
      exact { owned.movePoller poller (.batch rest)
        (by simp [at_point, PollerPoint.held]) with }

theorem workerStep {config : Config} {before after : Server}
    {worker : WorkerId} {choice : WorkerChoice} (owned : Ownership before)
    (taken : WorkerStep config before worker choice after) :
    Ownership after := by
  cases taken with
  | syscall choice task call next syscall result kernel transfers at_point
      transferred =>
      rcases Kernel.transfer_spec transferred with
        rfl | ⟨connection, count, -, rfl⟩
      · exact { owned with }
      · exact { owned with }
  | close task at_point may_close =>
      exact owned.closeConnection config task.eventStorePointer
  | _ => exact { owned with }

theorem stopStep {config : Config} {before after : Server}
    (owned : Ownership before) (taken : StopStep config before after) :
    Ownership after := by
  cases taken with
  | closeListening closed at_point closes =>
      rcases Server.closeListening_cases closes with result | result
      · rw [result]
        exact { owned with }
      · rw [result]
        exact { owned.close config.listenFd with }
  | closePollerEpoll poller at_point =>
      have closed : Ownership
          { before with
              kernel :=
                before.kernel.closeEpoll poller
                  (decide (before.pollerThread poller = .epollWait)) } :=
        owned.shrink rfl fun _ _ => Kernel.mem_watched_of_closeEpoll
      exact { closed with }
  | closing store rest at_point =>
      exact { owned.closeConnection config store with }
  | _ => exact { owned with }

theorem serverStep {config : Config} {before after : Server} {action : Action}
    (owned : Ownership before)
    (taken : ServerStep config before action after) :
    Ownership after := by
  cases taken with
  | network taken => exact owned.network taken
  | accept choice taken => exact owned.acceptStep taken
  | poller poller choice bound taken => exact owned.pollerStep taken
  | worker worker choice bound taken => exact owned.workerStep taken
  | stop taken => exact owned.stopStep taken

end Ownership

/-- The ownership discipline holds in every reachable state. -/
theorem ownership_of_reachable {config : Config} {server : Server}
    (reachable : (tcpServer config).Reachable server) : Ownership server := by
  refine TransitionSystem.Reachable.invariant ?_ ?_ reachable
  · rintro state rfl
    exact Ownership.start config
  · intro before action after _ taken owned
    exact owned.serverStep (serverStep_of_step taken)

end EventPlus

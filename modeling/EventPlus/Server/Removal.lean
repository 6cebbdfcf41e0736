/-
Module: EventPlus.Server.Removal
Purpose: With the plain handler, before shutdown: every `removeSocket` finds a
  live, completely registered store, and takes it out of epoll, closes it and
  erases it exactly once.
Trusted boundary: none
Main exports:
  Server.removals, completeRemoval, RemovalRecord, Consistent,
  consistent_of_reached
-/
import EventPlus.Server.Registration

namespace EventPlus

open Function (update)

/-- The descriptor events that are part of taking a store down. -/
def DescriptorEvent.removes (store : ConnectionId) : DescriptorEvent → Bool
  | .epollDel other _ _ | .close other _ | .erase other _ => other = store
  | _ => false

/-- With one poller inside `removeSocket`, no other is after its
`EPOLL_CTL_DEL`. -/
theorem MutualExclusion.deleting_unique {server : Server}
    (exclusive : MutualExclusion server) {poller : PollerId}
    {stage : PollerStage} {store : ConnectionId} {rest : List EpollEvent}
    (at_point : server.pollerThread poller = .busy stage store rest)
    (inside : stage.critical = true) (other : PollerId)
    (another : ConnectionId)
    (deleted : (server.pollerThread other).deleting = some another) :
    other = poller :=
  exclusive.poller_unique (PollerPoint.critical_of_deleting deleted)
    (server.critical_of_busy at_point inside)

/-- What was done to take a store down, in order. -/
def Server.removals (server : Server) (store : ConnectionId) :
    List DescriptorEvent :=
  server.descriptorTrace.filter (·.removes store)

/-- A successful `EPOLL_CTL_DEL` at the store's poller, the `close` of the
store's own connection, and the erasure of the store itself. -/
def completeRemoval (poller : PollerId) (store : ConnectionId) :
    List DescriptorEvent :=
  [.epollDel store poller true, .close store (some (.client store)),
    .erase store (some store)]

/-- How many of these a poller has done. -/
def PollerStage.done : PollerStage → Nat
  | .closeConnection => 1
  | .enqueue | .erase => 2
  | .unlock => 3
  | _ => 0

theorem Server.removals_record (server : Server) (event : DescriptorEvent)
    (store : ConnectionId) :
    (server.record event).removals store =
      if event.removes store then server.removals store ++ [event]
      else server.removals store := by
  simp only [removals, record, List.filter_append]
  split
  · rename_i here
    simp [here]
  · rename_i elsewhere
    simp [elsewhere]

/-- The removal events of a store against the threads. -/
structure RemovalRecord (server : Server) : Prop where
  untouched : ∀ store, server.lifetime store ≠ .destroyed →
    (∀ poller, (server.pollerThread poller).deleting ≠ some store) →
      server.removals store = []
  under_way : ∀ poller stage store rest,
    server.pollerThread poller = .busy stage store rest →
      stage.afterDelete = true →
        server.removals store =
          (completeRemoval poller store).take stage.done
  erased : ∀ poller store rest,
    server.pollerThread poller = .busy .unlock store rest →
      server.lifetime store = .destroyed
  finished : ∀ store, server.lifetime store = .destroyed →
    ∃ poller, server.registeredWith store = some poller ∧
      server.removals store = completeRemoval poller store

namespace RemovalRecord

theorem start (config : Config) : RemovalRecord (Server.start config) where
  untouched := by
    intro store _ _
    rfl
  under_way := by
    intro poller stage store rest at_point
    cases at_point
  erased := by
    intro poller store rest at_point
    cases at_point
  finished := by
    intro store destroyed
    cases destroyed

/-- A poller moves without a descriptor event. -/
theorem movePoller {server : Server} (recorded : RemovalRecord server)
    (poller : PollerId) (point : PollerPoint)
    (leaves : ∀ store, (server.pollerThread poller).deleting = some store →
      server.lifetime store = .destroyed)
    (enters : point.deleting = none) :
    RemovalRecord (server.setPoller poller point) := by
  refine { recorded with untouched := ?_, under_way := ?_, erased := ?_ }
  · intro store lives free
    apply recorded.untouched store lives
    intro other deleted
    by_cases moved : other = poller
    · subst moved
      exact lives (leaves store deleted)
    · apply free other
      simp only [Server.setPoller_of_ne moved]
      exact deleted
  · intro other stage store rest at_point late
    by_cases moved : other = poller
    · subst moved
      simp only [Server.setPoller_self] at at_point
      subst at_point
      simp [PollerPoint.deleting, late] at enters
    · simp only [Server.setPoller_of_ne moved] at at_point
      exact recorded.under_way other stage store rest at_point late
  · intro other store rest at_point
    by_cases moved : other = poller
    · subst moved
      simp only [Server.setPoller_self] at at_point
      subst at_point
      cases enters
    · simp only [Server.setPoller_of_ne moved] at at_point
      exact recorded.erased other store rest at_point

/-- A poller inside `removeSocket` does the next part of the removal, or
none. -/
theorem advance {server : Server} (recorded : RemovalRecord server)
    (exclusive : MutualExclusion server) {poller : PollerId}
    {stage next : PollerStage} {store : ConnectionId}
    {rest : List EpollEvent} {trace : List DescriptorEvent}
    (at_point : server.pollerThread poller = .busy stage store rest)
    (inside : stage.critical = true) (late : next.afterDelete = true)
    (unfinished : next ≠ .unlock)
    (others : ∀ other, other ≠ store →
      trace.filter (·.removes other) = server.removals other)
    (here : trace.filter (·.removes store) =
      (completeRemoval poller store).take next.done)
    (lives : server.lifetime store ≠ .destroyed) :
    RemovalRecord
      ({ server with descriptorTrace := trace }.setPoller poller
        (.busy next store rest)) := by
  have onlyHere := exclusive.deleting_unique at_point inside
  refine
    { untouched := ?_, under_way := ?_, erased := ?_, finished := ?_ }
  · intro other alive free
    have different : other ≠ store := by
      rintro rfl
      apply free poller
      simp [Server.setPoller, PollerPoint.deleting, late]
    change trace.filter (·.removes other) = []
    rw [others other different]
    apply recorded.untouched other alive
    intro another deleted
    cases onlyHere another other deleted
    rw [at_point] at deleted
    simp only [PollerPoint.deleting] at deleted
    split at deleted
    · cases deleted
      exact different rfl
    · cases deleted
  · intro other stage another later there after_delete
    by_cases moved : other = poller
    · subst moved
      simp only [Server.setPoller_self] at there
      cases there
      exact here
    · simp only [Server.setPoller_of_ne moved] at there
      refine absurd (onlyHere other another ?_) moved
      rw [there]
      simp [PollerPoint.deleting, after_delete]
  · intro other another later there
    by_cases moved : other = poller
    · subst moved
      simp only [Server.setPoller_self] at there
      cases there
      exact absurd rfl unfinished
    · simp only [Server.setPoller_of_ne moved] at there
      exact recorded.erased other another later there
  · intro other destroyed
    have different : other ≠ store := by
      rintro rfl
      exact lives destroyed
    change ∃ poller, server.registeredWith other = some poller ∧
      trace.filter (·.removes other) = completeRemoval poller other
    rw [others other different]
    exact recorded.finished other destroyed

/-- The next part of the removal is recorded. -/
theorem recordNext {server : Server} (recorded : RemovalRecord server)
    (exclusive : MutualExclusion server) {poller : PollerId}
    {stage next : PollerStage} {store : ConnectionId}
    {rest : List EpollEvent} {event : DescriptorEvent}
    (at_point : server.pollerThread poller = .busy stage store rest)
    (inside : stage.critical = true) (late : next.afterDelete = true)
    (unfinished : next ≠ .unlock)
    (about : ∀ other, event.removes other = decide (store = other))
    (here : server.removals store ++ [event] =
      (completeRemoval poller store).take next.done)
    (lives : server.lifetime store ≠ .destroyed) :
    RemovalRecord
      ((server.record event).setPoller poller (.busy next store rest)) := by
  have others : ∀ other, other ≠ store →
      (server.record event).removals other = server.removals other := by
    intro other different
    rw [Server.removals_record, about, decide_eq_false (Ne.symm different)]
    rfl
  have recordedHere : (server.record event).removals store =
      (completeRemoval poller store).take next.done := by
    rw [Server.removals_record, about, decide_eq_true rfl, ← here]
    rfl
  have moved := recorded.advance exclusive at_point inside late unfinished
    others recordedHere lives
  exact { moved with }

/-- Descriptor events that take no store down. -/
theorem transfer {server : Server} (recorded : RemovalRecord server)
    {store : ConnectionId} {syscall : Syscall} {file : Option File} :
    RemovalRecord (server.record (.transfer store syscall file)) := by
  have same : ∀ other,
      (server.record (.transfer store syscall file)).removals other =
        server.removals other := by
    intro other
    rw [Server.removals_record]
    rfl
  refine
    { untouched := ?_, under_way := ?_, erased := recorded.erased,
      finished := ?_ }
  · intro other
    rw [same]
    exact recorded.untouched other
  · intro poller stage other
    rw [same]
    exact recorded.under_way poller stage other
  · intro other
    rw [same]
    exact recorded.finished other

/-- The erasure completes the removal. -/
theorem erase {server : Server} (recorded : RemovalRecord server)
    (registration : Registration server) (owned : Ownership server)
    (exclusive : MutualExclusion server) {poller : PollerId}
    {store : ConnectionId} {rest : List EpollEvent}
    (at_point : server.pollerThread poller = .busy .erase store rest) :
    RemovalRecord
      ((server.eraseStore store).setPoller poller
        (.busy .unlock store rest)) := by
  obtain ⟨alive, found⟩ :=
    registration.owned_of_busy exclusive at_point rfl (by simp)
  have soFar := recorded.under_way poller .erase store rest at_point rfl
  have complete :
      (server.eraseStore store).removals store =
        completeRemoval poller store := by
    change (server.record
      (.erase store (server.find (server.fd store)))).removals store = _
    rw [Server.removals_record, soFar, found]
    simp [DescriptorEvent.removes, completeRemoval, PollerStage.done]
  have others : ∀ other, other ≠ store →
      (server.eraseStore store).removals other = server.removals other := by
    intro other different
    change (server.record
      (.erase store (server.find (server.fd store)))).removals other = _
    rw [Server.removals_record]
    simp [DescriptorEvent.removes, Ne.symm different]
  have dead := server.lifetime_eraseStore_self found
  have sameLifetime : ∀ other, other ≠ store →
      (server.eraseStore store).lifetime other = server.lifetime other :=
    fun _ => server.lifetime_eraseStore_of_ne found
  have onlyHere := exclusive.deleting_unique at_point rfl
  refine
    { untouched := ?_, under_way := ?_, erased := ?_, finished := ?_ }
  · intro other lives free
    have different : other ≠ store := by
      rintro rfl
      exact lives dead
    refine (others other different).trans ?_
    apply recorded.untouched other
    · rw [← sameLifetime other different]
      exact lives
    · intro another deleted
      cases onlyHere another other deleted
      rw [at_point] at deleted
      cases deleted
      exact different rfl
  · intro other stage another later there after_delete
    by_cases moved : other = poller
    · subst moved
      simp only [Server.setPoller_self] at there
      cases there
      exact complete
    · simp only [Server.setPoller_of_ne moved] at there
      have before : server.pollerThread other = _ := there
      refine absurd (onlyHere other another ?_) moved
      rw [before]
      simp [PollerPoint.deleting, after_delete]
  · intro other another later there
    by_cases moved : other = poller
    · subst moved
      simp only [Server.setPoller_self] at there
      cases there
      exact dead
    · simp only [Server.setPoller_of_ne moved] at there
      have before : server.pollerThread other = _ := there
      refine absurd (onlyHere other another ?_) moved
      rw [before]
      rfl
  · intro other destroyed
    by_cases here : other = store
    · subst here
      exact ⟨poller, owned.held_with poller other
        (server.held_of_busy at_point), complete⟩
    · obtain ⟨another, registered, whole⟩ := recorded.finished other
        ((sameLifetime other here).symm.trans destroyed)
      exact ⟨another, registered, (others other here).trans whole⟩

/-! ## Steps -/

theorem acceptStep {config : Config} {before after : Server}
    {choice : AcceptChoice} (recorded : RemovalRecord before)
    (plain : config.handler = .tcp) (registration : Registration before)
    (map : StoreMap before) (exclusive : MutualExclusion before)
    (taken : AcceptStep config before choice after) :
    RemovalRecord after := by
  cases taken with
  | accepted fd ssl kernel at_point got =>
      have fresh := map.unborn_accepted
      have older : ∀ store, before.lifetime store ≠ .unborn →
          store ≠ before.accepted := by
        rintro store made rfl
        exact made fresh
      refine
        { recorded with untouched := ?_, erased := ?_, finished := ?_ }
      · intro store lives free
        by_cases newest : store = before.accepted
        · subst newest
          exact recorded.untouched _ (by simp [fresh]) free
        · apply recorded.untouched store _ free
          simpa [Server.makeStore, Function.update_of_ne newest] using lives
      · intro poller store rest at_point
        have destroyed := recorded.erased poller store rest at_point
        have different := older store (by simp [destroyed])
        exact (Function.update_of_ne different _ _).trans destroyed
      · intro store destroyed
        by_cases newest : store = before.accepted
        · subst newest
          simp [Server.makeStore] at destroyed
        · apply recorded.finished store
          simpa [Server.makeStore, Function.update_of_ne newest]
            using destroyed
  | initConnection store outcome at_point =>
      rw [Server.initConnection_tcp before store outcome plain]
      exact { recorded with }
  | registered store kernel at_point added =>
      refine { recorded with finished := ?_ }
      intro other destroyed
      have different : other ≠ store := by
        rintro rfl
        cases (map.admitting_alive _ other at_point).symm.trans destroyed
      simp only [Function.update_of_ne different]
      exact recorded.finished other destroyed
  | insert store at_point =>
      have free := registration.find_of_inserting map exclusive at_point
      have sameLifetime := before.lifetime_insertStore_of_free free
      refine
        { recorded with untouched := ?_, erased := ?_, finished := ?_ }
      · intro other lives
        apply recorded.untouched other
        rw [← sameLifetime other]
        exact lives
      · intro poller other rest at_point
        exact (sameLifetime other).trans
          (recorded.erased poller other rest at_point)
      · intro other destroyed
        exact recorded.finished other
          ((sameLifetime other).symm.trans destroyed)
  | _ => exact { recorded with }

theorem pollerStep {config : Config} {before after : Server}
    {poller : PollerId} {choice : PollerChoice}
    (recorded : RemovalRecord before) (plain : config.handler = .tcp)
    (registration : Registration before) (owned : Ownership before)
    (exclusive : MutualExclusion before)
    (taken : PollerStep config before poller choice after) :
    RemovalRecord after := by
  have move : ∀ point, (before.pollerThread poller).deleting = none →
      point.deleting = none →
        RemovalRecord (before.setPoller poller point) := by
    intro point undeleted enters
    exact recorded.movePoller poller point (by simp [undeleted]) enters
  cases taken with
  | loop at_point =>
      exact move _ (by rw [at_point]; rfl) (by split <;> rfl)
  | report reported entries kernel at_point waited =>
      exact { move (.batch entries) (by rw [at_point]; rfl) rfl with }
  | timeout at_point =>
      exact { move .loop (by rw [at_point]; rfl) rfl with }
  | batchDone at_point => exact move _ (by rw [at_point]; rfl) rfl
  | hangUp entry rest at_point flag =>
      exact move _ (by rw [at_point]; rfl) rfl
  | data entry rest at_point flag =>
      exact move _ (by rw [at_point]; rfl) rfl
  | skipped entry rest at_point => exact move _ (by rw [at_point]; rfl) rfl
  | setIncoming store rest at_point =>
      exact { move (.busy .dispatch store rest) (by rw [at_point]; rfl)
        rfl with }
  | dispatch store rest at_point =>
      exact { move (.batch rest) (by rw [at_point]; rfl) rfl with }
  | lock store rest at_point free =>
      exact { move (.busy .setClosed store rest) (by rw [at_point]; rfl)
        rfl with }
  | setClosed store rest at_point =>
      exact { move (.busy .epollDel store rest) (by rw [at_point]; rfl)
        rfl with }
  | noHandler store rest at_point handler_eq =>
      have set := owned.handler_of_busy exclusive at_point rfl
      cases handler_eq.symm.trans set
  | epollDel store rest handler at_point handler_eq =>
      have set := owned.handler_of_busy exclusive at_point rfl
      cases set.symm.trans handler_eq
      have alive :=
        (registration.owned_of_busy exclusive at_point rfl (by simp)).1
      have file :=
        registration.file_of_busy exclusive at_point rfl (by simp) rfl
      have registered := registration.registered_of_busy at_point rfl
      have succeeds :
          before.kernel.canDelete poller (before.fd store) = true := by
        simp [Kernel.canDelete, file, registered]
      have nothing : before.removals store = [] := by
        apply recorded.untouched store (by simp [alive])
        intro other deleted
        cases exclusive.deleting_unique at_point rfl other store deleted
        rw [at_point] at deleted
        cases deleted
      rw [succeeds]
      have moved : RemovalRecord
          ((before.record (.epollDel store poller true)).setPoller poller
            (.busy .closeConnection store rest)) :=
        recorded.recordNext exclusive at_point rfl rfl (by simp)
          (fun _ => rfl) (by rw [nothing]; rfl) (by simp [alive])
      exact { moved with }
  | closeConnection store rest at_point =>
      rw [Server.closeConnection_tcp before store plain]
      have alive :=
        (registration.owned_of_busy exclusive at_point rfl (by simp)).1
      have file :=
        registration.file_of_busy exclusive at_point rfl (by simp) rfl
      have soFar := recorded.under_way poller _ store rest at_point rfl
      have moved : RemovalRecord
          ((before.record
            (.close store (before.kernel.file (before.fd store)))).setPoller
              poller (.busy .enqueue store rest)) :=
        recorded.recordNext exclusive at_point rfl rfl (by simp)
          (fun _ => rfl) (by rw [soFar, file]; rfl) (by simp [alive])
      exact { moved with }
  | enqueue store rest at_point =>
      have alive :=
        (registration.owned_of_busy exclusive at_point rfl (by simp)).1
      have moved := recorded.advance exclusive at_point rfl
        (show PollerStage.erase.afterDelete = true from rfl)
        (by simp)
        (fun _ _ => rfl)
        (recorded.under_way poller .enqueue store rest at_point rfl)
        (by simp [alive])
      exact { moved with }
  | erase store rest at_point =>
      exact recorded.erase registration owned exclusive at_point
  | unlock store rest at_point =>
      have destroyed := recorded.erased poller store rest at_point
      have moved := recorded.movePoller poller (.batch rest)
        (by
          rw [at_point]
          rintro other ⟨⟩
          exact destroyed)
        rfl
      exact { moved with }

theorem workerStep {config : Config} {before after : Server}
    {worker : WorkerId} {choice : WorkerChoice}
    (recorded : RemovalRecord before)
    (quiet : config.callbacksClose = false)
    (taken : WorkerStep config before worker choice after) :
    RemovalRecord after := by
  cases taken with
  | syscall choice task call next syscall result kernel transfers at_point
      transferred =>
      have moved : RemovalRecord
          (before.record
            (.transfer task.eventStorePointer syscall
              (before.kernel.file
                (before.fd task.eventStorePointer)))) :=
        recorded.transfer
      exact { moved with }
  | close task at_point may_close =>
      rw [quiet] at may_close
      cases may_close
  | _ => exact { recorded with }

end RemovalRecord

theorem removalRecord_of_reached {config : Config} {server : Server}
    (plain : config.handler = .tcp) (quiet : config.callbacksClose = false)
    (reached : (tcpServer config).Reached beforeShutdown server) :
    RemovalRecord server := by
  refine TransitionSystem.Reached.invariant ?_ ?_ reached
  · rintro state rfl
    exact RemovalRecord.start config
  · intro before action after earlier allowed taken recorded
    have exclusive := mutualExclusion_of_reachable earlier.reachable
    have owned := ownership_of_reachable earlier.reachable
    have map := storeMap_of_reachable earlier.reachable
    have registration := registration_of_reached plain quiet earlier
    cases serverStep_of_step taken with
    | network taken => cases taken <;> exact { recorded with }
    | accept choice taken =>
        exact recorded.acceptStep plain registration map exclusive taken
    | poller poller choice bound taken =>
        exact recorded.pollerStep plain registration owned exclusive taken
    | worker worker choice bound taken =>
        exact recorded.workerStep quiet taken
    | stop taken => cases allowed

/-! ## Between two critical sections -/

/-- What holds of the shared state while `clientEventStoresMutex` is free. -/
structure Consistent (server : Server) : Prop where
  keyed : ∀ number store, server.find number = some store →
    server.fd store = number ∧
      server.kernel.file number = some (.client store)
  registered : ∀ poller store, store ∈ server.kernel.registered poller →
    server.find (server.fd store) = some store ∧
      (∀ other, store ∈ server.kernel.registered other → other = poller) ∧
      (server.store store).socketEventHandler = some poller
  batched : ∀ poller store, store ∈ (server.pollerThread poller).held →
    server.find (server.fd store) = some store ∧
      store ∈ server.kernel.registered poller

/-- With the mutex free, a live store is in the map and its number is open. -/
theorem Registration.of_free {server : Server}
    (registration : Registration server)
    (exclusive : MutualExclusion server)
    (free : server.clientEventStoresMutex = none) {store : ConnectionId}
    (alive : server.lifetime store = .alive) :
    server.find (server.fd store) = some store ∧
      server.kernel.file (server.fd store) = some (.client store) := by
  obtain ⟨noAccept, noPoller, -⟩ := exclusive.of_free free
  constructor
  · rcases registration.owned_of_alive store alive with
      found | ⟨stage, -, admitting⟩
    · exact found
    · rw [admitting] at noAccept
      cases noAccept
  · rcases registration.file_of_alive store alive with
      file | ⟨poller, closed⟩
    · exact file
    · have inside := PollerPoint.critical_of_closing closed
      rw [noPoller poller] at inside
      cases inside

theorem Registration.consistent {server : Server}
    (registration : Registration server) (owned : Ownership server)
    (map : StoreMap server) (exclusive : MutualExclusion server)
    (free : server.clientEventStoresMutex = none) : Consistent server := by
  obtain ⟨noAccept, noPoller, -⟩ := exclusive.of_free free
  refine { keyed := ?_, registered := ?_, batched := ?_ }
  · intro number store found
    have same := map.found_fd number store found
    have file := (registration.of_free exclusive free
      (map.found_alive number store found)).2
    rw [same] at file
    exact ⟨same, file⟩
  · intro poller store member
    have home := owned.registered_with poller store member
    refine ⟨?_, ?_, ?_⟩
    · exact (registration.of_free exclusive free
        (registration.alive_of_registered poller store member)).1
    · intro other also
      exact Option.some.inj
        ((owned.registered_with other store also).symm.trans home)
    · rcases owned.with_handler poller store home with set | unset
      · exact set
      · rw [unset] at noAccept
        cases noAccept
  · intro poller store member
    constructor
    · rcases registration.alive_of_held poller store member with
        alive | left
      · exact (registration.of_free exclusive free alive).1
      · have inside := PollerPoint.critical_of_leaving left
        rw [noPoller poller] at inside
        cases inside
    · rcases registration.registered_of_held poller store member with
        registered | deleted
      · exact registered
      · have inside := PollerPoint.critical_of_deleting deleted
        rw [noPoller poller] at inside
        cases inside

/-- Before shutdown, with the plain handler and callbacks that do not close
connections: whenever the mutex is free, the map, the epoll sets, the back
pointers and the batches agree.  A `removeSocket` that has taken the mutex finds
its store alive, owned, open and registered; one about to release the mutex has
deleted, closed and erased it; and a store has been through that once or not at
all. -/
theorem consistent_of_reached {config : Config} {server : Server}
    (plain : config.handler = .tcp) (quiet : config.callbacksClose = false)
    (reached : (tcpServer config).Reached beforeShutdown server) :
    (server.clientEventStoresMutex = none → Consistent server) ∧
      (∀ poller store rest,
        server.pollerThread poller = .busy .setClosed store rest →
          server.lifetime store = .alive ∧
            server.find (server.fd store) = some store ∧
            server.kernel.file (server.fd store) = some (.client store) ∧
            store ∈ server.kernel.registered poller ∧
            (server.store store).socketEventHandler = some poller) ∧
      (∀ poller store rest,
        server.pollerThread poller = .busy .unlock store rest →
          server.lifetime store = .destroyed ∧
            server.removals store = completeRemoval poller store) ∧
      (server.clientEventStoresMutex = none → ∀ store,
        if server.lifetime store = .destroyed then
          ∃ poller, server.registeredWith store = some poller ∧
            server.removals store = completeRemoval poller store
        else server.removals store = []) := by
  have exclusive := mutualExclusion_of_reachable reached.reachable
  have owned := ownership_of_reachable reached.reachable
  have map := storeMap_of_reachable reached.reachable
  have registration := registration_of_reached plain quiet reached
  have recorded := removalRecord_of_reached plain quiet reached
  refine ⟨?_, ?_, ?_, ?_⟩
  · intro free
    exact registration.consistent owned map exclusive free
  · intro poller store rest at_point
    obtain ⟨alive, found⟩ :=
      registration.owned_of_busy exclusive at_point rfl (by simp)
    refine ⟨alive, found, ?_, ?_, ?_⟩
    · exact registration.file_of_busy exclusive at_point rfl (by simp) rfl
    · exact registration.registered_of_busy at_point rfl
    · exact owned.handler_of_critical exclusive
        (server.critical_of_busy at_point rfl) (server.held_of_busy at_point)
  · intro poller store rest at_point
    exact ⟨recorded.erased poller store rest at_point,
      recorded.under_way poller .unlock store rest at_point rfl⟩
  · intro free store
    obtain ⟨-, noPoller, -⟩ := exclusive.of_free free
    split
    · rename_i destroyed
      exact recorded.finished store destroyed
    · rename_i lives
      apply recorded.untouched store lives
      intro poller deleted
      have inside := PollerPoint.critical_of_deleting deleted
      rw [noPoller poller] at inside
      cases inside

/-- One connection is admitted and removed, and the next one gets its number. -/
theorem consistent_of_reached_reuse :
    ∃ server,
      (tcpServer .single).Reached beforeShutdown server ∧
        server.clientEventStoresMutex = none ∧
        server.lifetime 0 = .destroyed ∧
        server.kernel.registered 0 = [1] ∧
        Consistent server ∧
        if server.lifetime 0 = .destroyed then
          ∃ poller, server.registeredWith 0 = some poller ∧
            server.removals 0 = completeRemoval poller 0
        else server.removals 0 = [] := by
  obtain ⟨server, reached, free, destroyed, registered⟩ :=
    exists_server_of_replay .single beforeShutdown
      (fun server => server.clientEventStoresMutex = none ∧
        server.lifetime 0 = .destroyed ∧ server.kernel.registered 0 = [1])
      (connectAndAdmit 4 ++ [.hangUp 0 .halfClose] ++ pollOne 0 0 ++
        handleHangUp 0 ++ connectAndAdmit 4)
      (by decide)
  obtain ⟨consistent, -, -, removed⟩ :=
    consistent_of_reached rfl rfl reached
  exact ⟨server, reached, free, destroyed, registered, consistent free,
    removed free 0⟩

end EventPlus

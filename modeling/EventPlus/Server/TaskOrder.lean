/-
Module: EventPlus.Server.TaskOrder
Purpose: The tasks the server enqueues for a connection follow the task
  protocol: one accept task, one removal task at most, and nothing after it.
Trusted boundary: none
Main exports:
  Server.phase, TaskOrder, taskOrder_of_reachable, inetNtopSucceeds,
  tasks_of_connection
-/
import EventPlus.Protocol.TaskPhase
import EventPlus.Server.Ownership
import EventPlus.Server.StoreMap

namespace EventPlus

open Function (update)

namespace Server

/-- The events tasks were enqueued for on behalf of one connection. -/
def taskOrigins (server : Server) (connection : ConnectionId) :
    List TaskOrigin :=
  origins server.enqueued connection

/-- The protocol phase of one connection. -/
def phase (server : Server) (connection : ConnectionId) : Option Phase :=
  phaseAfter (server.taskOrigins connection)

theorem taskOrigins_enqueueTask (server : Server) (task : IOTask)
    (connection : ConnectionId) :
    (server.enqueueTask task).taskOrigins connection =
      if task.eventStorePointer = connection then
        server.taskOrigins connection ++ [task.origin]
      else server.taskOrigins connection := by
  simp only [taskOrigins, enqueueTask, origins_append, origins_cons,
    origins_nil]
  split <;> simp

theorem phase_enqueueTask (server : Server) (task : IOTask)
    (connection : ConnectionId) :
    (server.enqueueTask task).phase connection =
      if task.eventStorePointer = connection then
        (server.phase connection).bind fun phase => phase.next task.origin
      else server.phase connection := by
  simp only [phase, taskOrigins_enqueueTask]
  split
  · exact phaseAfter_append_singleton _ _
  · rfl

theorem phase_enqueueTask_self {server : Server} {store : ConnectionId}
    {phase : Phase} (at_phase : server.phase store = some phase)
    (origin : TaskOrigin) :
    (server.enqueueTask
        { eventStorePointer := store, origin := origin }).phase store =
      phase.next origin := by
  rw [phase_enqueueTask, if_pos rfl, at_phase]
  rfl

theorem phase_enqueueTask_of_ne (server : Server) (origin : TaskOrigin)
    {store connection : ConnectionId} (different : connection ≠ store) :
    (server.enqueueTask
        { eventStorePointer := store, origin := origin }).phase connection =
      server.phase connection := by
  rw [phase_enqueueTask, if_neg (Ne.symm different)]

/-- A data task does not change the phase of a connection that is not
removed. -/
theorem phase_enqueueTask_data {server : Server} {store : ConnectionId}
    (live : server.phase store ≠ some .removed)
    (connection : ConnectionId) :
    (server.enqueueTask
        { eventStorePointer := store, origin := .data }).phase connection =
      server.phase connection := by
  rw [phase_enqueueTask]
  split
  · rename_i same
    dsimp only at same
    subst same
    cases at_phase : server.phase store with
    | none => rfl
    | some phase =>
        have notRemoved : phase ≠ .removed := by
          rintro rfl
          exact live at_phase
        exact Phase.next_data notRemoved
  · rfl

end Server

/-- The lines of `removeSocket` after `EPOLL_CTL_DEL`. -/
def PollerStage.afterDelete : PollerStage → Bool
  | .closeConnection | .enqueue | .erase | .unlock => true
  | _ => false

/-- The lines of `removeSocket` after the removal task. -/
def PollerStage.afterEnqueue : PollerStage → Bool
  | .erase | .unlock => true
  | _ => false

theorem PollerStage.critical_of_afterDelete {stage : PollerStage}
    (late : stage.afterDelete = true) : stage.critical = true := by
  cases stage <;> first | rfl | cases late

/-- A connection's phase against the threads and the epoll sets.  A removed
connection is in no epoll set and no call in flight, and only the poller about
to leave `removeSocket` still refers to it. -/
structure TaskOrder (server : Server) : Prop where
  followed : ∀ connection, server.phase connection ≠ none
  pending : ∀ connection, server.phase connection = some .pending ↔
    server.lifetime connection = .unborn ∨
      ∃ stage, server.acceptThread = .admitting stage connection
  removed : ∀ connection, server.phase connection = some .removed →
    ∀ poller, connection ∉ server.kernel.watched poller
  removed_held : ∀ connection, server.phase connection = some .removed →
    ∀ poller, connection ∈ (server.pollerThread poller).held →
      ∃ stage rest, stage.afterEnqueue = true ∧
        server.pollerThread poller = .busy stage connection rest
  deleted : ∀ poller stage connection rest,
    server.pollerThread poller = .busy stage connection rest →
      stage.afterDelete = true →
        ∀ other, connection ∉ server.kernel.watched other

namespace TaskOrder

theorem start (config : Config) : TaskOrder (Server.start config) where
  followed := by
    intro connection
    rw [show (Server.start config).phase connection = some .pending from rfl]
    simp
  pending := by
    intro connection
    exact iff_of_true rfl (.inl rfl)
  removed := by
    intro connection impossible
    cases impossible
  removed_held := by
    intro connection impossible
    cases impossible
  deleted := by
    intro poller stage connection rest at_point
    cases at_point

/-- Away from the last lines of `removeSocket`, a poller does not refer to a
removed connection. -/
theorem not_removed {server : Server} (order : TaskOrder server)
    {poller : PollerId} {stage : PollerStage} {store : ConnectionId}
    {rest : List EpollEvent}
    (at_point : server.pollerThread poller = .busy stage store rest)
    (early : stage.afterEnqueue = false) :
    server.phase store ≠ some .removed := by
  intro removed
  obtain ⟨later, others, late, here⟩ :=
    order.removed_held store removed poller (by
      rw [at_point]
      exact List.mem_cons_self)
  cases at_point.symm.trans here
  rw [early] at late
  cases late

/-! ## Single changes -/

/-- Entries go out of the epoll sets. -/
theorem shrink {server : Server} (order : TaskOrder server) {kernel : Kernel}
    (fewer : ∀ poller store, store ∈ kernel.watched poller →
      store ∈ server.kernel.watched poller) :
    TaskOrder { server with kernel := kernel } :=
  { order with
    removed := fun connection removed poller member =>
      order.removed connection removed poller (fewer _ _ member)
    deleted := fun poller stage connection rest at_point late other member =>
      order.deleted poller stage connection rest at_point late other
        (fewer _ _ member) }

theorem close {server : Server} (order : TaskOrder server) (number : Fd) :
    TaskOrder { server with kernel := server.kernel.close number } :=
  order.shrink fun _ _ member => (Kernel.mem_close_watched.mp member).1

theorem closeConnection {server : Server} (order : TaskOrder server)
    (config : Config) (store : ConnectionId) :
    TaskOrder (server.closeConnection config store) := by
  rcases server.closeConnection_cases config store with
    result | result | result
  · rw [result]
    exact order
  · rw [result]
    exact { order.close (server.fd store) with }
  · rw [result]
    exact { order.close (server.fd store) with }

/-- The accept thread moves on without a task. -/
theorem moveAccept {server : Server} (order : TaskOrder server)
    (point : AcceptPoint)
    (admitting : ∀ store,
      (∃ stage, server.acceptThread = .admitting stage store) ↔
        ∃ stage, point = .admitting stage store) :
    TaskOrder { server with acceptThread := point } :=
  { order with
    pending := fun connection =>
      (order.pending connection).trans
        (or_congr Iff.rfl (admitting connection)) }

/-- The accept thread moves between points at which it has no store. -/
theorem moveAcceptOutside {server : Server} (order : TaskOrder server)
    (point : AcceptPoint)
    (before : ∀ stage store, server.acceptThread ≠ .admitting stage store)
    (after : ∀ stage store, point ≠ .admitting stage store) :
    TaskOrder { server with acceptThread := point } := by
  apply order.moveAccept
  intro store
  constructor
  · rintro ⟨stage, at_point⟩
    exact absurd at_point (before stage store)
  · rintro ⟨stage, at_point⟩
    exact absurd at_point (after stage store)

/-- The accept thread moves on with the store it has. -/
theorem moveAdmit {server : Server} (order : TaskOrder server)
    (next : AdmitStage) {stage : AdmitStage} {store : ConnectionId}
    (at_point : server.acceptThread = .admitting stage store) :
    TaskOrder { server with acceptThread := .admitting next store } := by
  apply order.moveAccept
  intro other
  rw [at_point]
  constructor
  · rintro ⟨_, same⟩
    cases same
    exact ⟨next, rfl⟩
  · rintro ⟨_, same⟩
    cases same
    exact ⟨stage, rfl⟩

/-- A poller moves, keeping at most the stores it refers to. -/
theorem movePoller {server : Server} (order : TaskOrder server)
    (poller : PollerId) (point : PollerPoint)
    (held : ∀ store, server.phase store = some .removed →
      store ∈ point.held →
        ∃ stage rest, stage.afterEnqueue = true ∧
          point = .busy stage store rest)
    (deleted : ∀ stage store rest, point = .busy stage store rest →
      stage.afterDelete = true →
        ∀ other, store ∉ server.kernel.watched other) :
    TaskOrder (server.setPoller poller point) := by
  refine { order with removed_held := ?_, deleted := ?_ }
  · intro connection removed other member
    by_cases moved : other = poller
    · subst moved
      simp only [Server.setPoller_self] at member ⊢
      exact held connection removed member
    · simp only [Server.setPoller_of_ne moved] at member ⊢
      exact order.removed_held connection removed other member
  · intro other stage connection rest at_point late
    by_cases moved : other = poller
    · subst moved
      simp only [Server.setPoller_self] at at_point
      exact deleted stage connection rest at_point late
    · simp only [Server.setPoller_of_ne moved] at at_point
      exact order.deleted other stage connection rest at_point late

/-- A poller moves before the removal task, keeping at most the stores it
refers to. -/
theorem movePollerEarly {server : Server} (order : TaskOrder server)
    (poller : PollerId) (point : PollerPoint)
    (early : ∀ stage store rest,
      server.pollerThread poller = .busy stage store rest →
        stage.afterEnqueue = false)
    (fewer : point.held ⊆ (server.pollerThread poller).held)
    (deleted : ∀ stage store rest, point = .busy stage store rest →
      stage.afterDelete = true →
        ∀ other, store ∉ server.kernel.watched other) :
    TaskOrder (server.setPoller poller point) := by
  refine order.movePoller _ _ ?_ deleted
  intro store removed member
  obtain ⟨stage, rest, late, at_point⟩ :=
    order.removed_held store removed poller (fewer member)
  rw [early stage store rest at_point] at late
  cases late

/-- A poller at a store moves to its next line there, before the removal
task. -/
theorem advance {server : Server} (order : TaskOrder server)
    {poller : PollerId} {stage : PollerStage} {store : ConnectionId}
    {rest : List EpollEvent} (next : PollerStage)
    (at_point : server.pollerThread poller = .busy stage store rest)
    (early : stage.afterEnqueue = false)
    (deleted : next.afterDelete = true →
      ∀ other, store ∉ server.kernel.watched other) :
    TaskOrder (server.setPoller poller (.busy next store rest)) := by
  apply order.movePollerEarly
  · rintro there other others here
    cases at_point.symm.trans here
    exact early
  · rw [at_point]
    exact List.Subset.refl _
  · rintro there other others ⟨⟩ late
    exact deleted late

/-! ## Tasks -/

theorem enqueueData {server : Server} (order : TaskOrder server)
    {store : ConnectionId} (live : server.phase store ≠ some .removed) :
    TaskOrder
      (server.enqueueTask
        { eventStorePointer := store, origin := .data }) := by
  have same := Server.phase_enqueueTask_data live
  refine
    { order with
      followed := ?_
      pending := ?_
      removed := ?_
      removed_held := ?_ }
  · intro connection
    rw [same]
    exact order.followed connection
  · intro connection
    rw [same]
    exact order.pending connection
  · intro connection
    rw [same]
    exact order.removed connection
  · intro connection
    rw [same]
    exact order.removed_held connection

/-- The accept path announces the store it has admitted. -/
theorem enqueueAccept {server : Server} (order : TaskOrder server)
    (map : StoreMap server) {store : ConnectionId}
    (at_point : server.acceptThread = .admitting .enqueue store) :
    TaskOrder
      { server.enqueueTask
            { eventStorePointer := store, origin := .accept } with
          acceptThread := .unlock } := by
  have at_phase : server.phase store = some .pending :=
    (order.pending store).mpr (.inr ⟨_, at_point⟩)
  have here :
      (server.enqueueTask
          { eventStorePointer := store, origin := .accept }).phase store =
        some .announced :=
    Server.phase_enqueueTask_self at_phase .accept
  have elsewhere : ∀ connection, connection ≠ store →
      (server.enqueueTask
          { eventStorePointer := store, origin := .accept }).phase
          connection =
        server.phase connection :=
    fun _ => server.phase_enqueueTask_of_ne .accept
  refine
    { order with
      followed := ?_
      pending := ?_
      removed := ?_
      removed_held := ?_ }
  · intro connection
    by_cases same : connection = store
    · subst same
      exact here ▸ Option.some_ne_none _
    · exact (elsewhere connection same).symm ▸ order.followed connection
  · intro connection
    by_cases same : connection = store
    · subst same
      have alive := map.admitting_alive _ connection at_point
      constructor
      · intro impossible
        cases here.symm.trans impossible
      · rintro (unborn | ⟨stage, impossible⟩)
        · cases alive.symm.trans unborn
        · cases impossible
    · refine (iff_of_eq (congrArg (· = some Phase.pending)
        (elsewhere connection same))).trans
          ((order.pending connection).trans ?_)
      refine or_congr Iff.rfl ?_
      rw [at_point]
      constructor
      · rintro ⟨stage, admitted⟩
        cases admitted
        exact absurd rfl same
      · rintro ⟨stage, impossible⟩
        cases impossible
  · intro connection removed
    by_cases same : connection = store
    · subst same
      cases here.symm.trans removed
    · exact order.removed connection
        ((elsewhere connection same).symm.trans removed)
  · intro connection removed
    by_cases same : connection = store
    · subst same
      cases here.symm.trans removed
    · exact order.removed_held connection
        ((elsewhere connection same).symm.trans removed)

/-- A poller refers to no pending connection inside `removeSocket`. -/
theorem not_pending_of_critical {server : Server} (order : TaskOrder server)
    (owned : Ownership server) (map : StoreMap server)
    (exclusive : MutualExclusion server) {poller : PollerId}
    {store : ConnectionId}
    (inside : (server.pollerThread poller).critical = true)
    (held : store ∈ (server.pollerThread poller).held) :
    server.phase store ≠ some .pending := by
  intro waiting
  rcases (order.pending store).mp waiting with unborn | ⟨stage, admitting⟩
  · exact map.registered_made poller store
      (owned.held_with poller store held) unborn
  · have outside := exclusive.accept_excludes_poller inside
    rw [admitting] at outside
    cases outside

/-- `removeSocket` enqueues its task for an announced connection. -/
theorem announced_of_enqueue {server : Server} (order : TaskOrder server)
    (owned : Ownership server) (map : StoreMap server)
    (exclusive : MutualExclusion server) {poller : PollerId}
    {store : ConnectionId} {rest : List EpollEvent}
    (at_point : server.pollerThread poller = .busy .enqueue store rest) :
    server.phase store = some .announced := by
  cases at_phase : server.phase store with
  | none => exact absurd at_phase (order.followed store)
  | some phase =>
      cases phase with
      | pending =>
          exact absurd at_phase
            (order.not_pending_of_critical owned map exclusive
              (server.critical_of_busy at_point rfl)
              (server.held_of_busy at_point))
      | announced => rfl
      | removed => exact absurd at_phase (order.not_removed at_point rfl)

/-- `removeSocket` enqueues the last task of the store. -/
theorem enqueueRemoval {server : Server} (order : TaskOrder server)
    (owned : Ownership server) (map : StoreMap server)
    (exclusive : MutualExclusion server) {poller : PollerId}
    {store : ConnectionId} {rest : List EpollEvent}
    (at_point : server.pollerThread poller = .busy .enqueue store rest) :
    TaskOrder
      ((server.enqueueTask
          { eventStorePointer := store, origin := .removal }).setPoller
        poller (.busy .erase store rest)) := by
  have announced := order.announced_of_enqueue owned map exclusive at_point
  have here :
      (server.enqueueTask
          { eventStorePointer := store, origin := .removal }).phase store =
        some .removed :=
    Server.phase_enqueueTask_self announced .removal
  have elsewhere : ∀ connection, connection ≠ store →
      (server.enqueueTask
          { eventStorePointer := store, origin := .removal }).phase
          connection =
        server.phase connection :=
    fun _ => server.phase_enqueueTask_of_ne .removal
  have gone := order.deleted poller .enqueue store rest at_point rfl
  refine
    { followed := ?_
      pending := ?_
      removed := ?_
      removed_held := ?_
      deleted := ?_ }
  · intro connection
    by_cases same : connection = store
    · subst same
      exact here ▸ Option.some_ne_none _
    · exact (elsewhere connection same).symm ▸ order.followed connection
  · intro connection
    by_cases same : connection = store
    · subst same
      refine iff_of_false ?_ ?_
      · intro impossible
        cases here.symm.trans impossible
      · intro waiting
        cases announced.symm.trans ((order.pending connection).mpr waiting)
    · exact (iff_of_eq (congrArg (· = some Phase.pending)
        (elsewhere connection same))).trans (order.pending connection)
  · intro connection removed
    by_cases same : connection = store
    · subst same
      exact gone
    · exact order.removed connection
        ((elsewhere connection same).symm.trans removed)
  · intro connection removed other member
    by_cases same : connection = store
    · subst same
      have samePoller : other = poller := by
        by_contra different
        simp only [Server.setPoller_of_ne different] at member
        exact owned.ne_of_elsewhere at_point different member rfl
      subst samePoller
      exact ⟨.erase, rest, rfl, by simp [Server.setPoller]⟩
    · have before := order.removed_held connection
        ((elsewhere connection same).symm.trans removed) other
      by_cases moved : other = poller
      · subst moved
        simp only [Server.setPoller_self] at member
        obtain ⟨stage, others, late, here⟩ := before (by
          rw [at_point]
          exact member)
        cases at_point.symm.trans here
        exact absurd rfl same
      · simp only [Server.setPoller_of_ne moved]
          at member ⊢
        exact before member
  · intro other stage connection others there late
    by_cases moved : other = poller
    · subst moved
      simp only [Server.setPoller_self] at there
      cases there
      exact gone
    · simp only [Server.setPoller_of_ne moved] at there
      exact order.deleted other stage connection others there late

/-! ## Steps -/

theorem network {before after : Server} {action : Action}
    (order : TaskOrder before)
    (taken : NetworkStep before action after) : TaskOrder after := by
  cases taken <;> exact { order with }

/-- A store is made for the accepted connection, which has no task yet. -/
theorem accepted {server : Server} (order : TaskOrder server)
    (map : StoreMap server) {fd : Fd} {ssl : SSLPointer} {kernel : Kernel}
    (at_point : server.acceptThread = .accept)
    (watched : kernel.watched = server.kernel.watched) :
    TaskOrder
      { server.makeStore kernel fd ssl with
          acceptThread := .admitting .initConnection server.accepted } := by
  have moved : TaskOrder { server with kernel := kernel } :=
    order.shrink (by simp [watched])
  refine { moved with pending := ?_ }
  intro connection
  refine (order.pending connection).trans ?_
  rw [at_point]
  by_cases newest : connection = server.accepted
  · subst newest
    exact iff_of_true (.inl map.unborn_accepted) (.inr ⟨_, rfl⟩)
  · simp [Server.makeStore, Function.update_of_ne newest, Ne.symm newest]

/-- The store being admitted is registered, before its accept task. -/
theorem registered {server : Server} (order : TaskOrder server)
    (exclusive : MutualExclusion server) (next : AdmitStage)
    {poller : PollerId} {store : ConnectionId} {stage : AdmitStage}
    {kernel : Kernel}
    (at_point : server.acceptThread = .admitting stage store)
    (added :
      kernel.registered =
        update server.kernel.registered poller
          (server.kernel.registered poller ++ [store]))
    (flight : kernel.inFlight = server.kernel.inFlight) :
    TaskOrder
      { server with
          kernel := kernel
          acceptThread := .admitting next store } := by
  have waiting : server.phase store = some .pending :=
    (order.pending store).mpr (.inr ⟨stage, at_point⟩)
  have newcomer : ∀ connection other,
      connection ∈ kernel.watched other →
        connection = store ∨
          connection ∈ server.kernel.watched other := by
    intro connection other member
    rw [Kernel.mem_watched, added, flight] at member
    rw [Kernel.mem_watched]
    by_cases same : other = poller
    · subst same
      rw [Function.update_self, List.mem_append, List.mem_singleton] at member
      tauto
    · rw [Function.update_of_ne same] at member
      exact .inr member
  have moved := order.moveAdmit next at_point
  refine { moved with removed := ?_, deleted := ?_ }
  · intro connection removed other member
    rcases newcomer connection other member with rfl | earlier
    · cases waiting.symm.trans removed
    · exact order.removed connection removed other earlier
  · intro other late connection rest there isLate another member
    rcases newcomer connection another member with rfl | earlier
    · have inside : (server.pollerThread other).critical = true := by
        rw [show server.pollerThread other = _ from there]
        exact PollerStage.critical_of_afterDelete isLate
      have outside := exclusive.accept_excludes_poller inside
      rw [at_point] at outside
      cases outside
    · exact order.deleted other late connection rest there isLate another
        earlier

theorem acceptStep {config : Config} {before after : Server}
    {choice : AcceptChoice}
    (order : TaskOrder before) (owned : Ownership before)
    (map : StoreMap before) (exclusive : MutualExclusion before)
    (taken : AcceptStep config before choice after) : TaskOrder after := by
  cases taken with
  | loop at_point =>
      apply order.moveAcceptOutside
      · simp [at_point]
      · intro stage store
        split <;> simp
  | report at_point =>
      exact { order.moveAcceptOutside .handleEvent
        (by simp [at_point]) (by simp) with }
  | timeout at_point =>
      exact order.moveAcceptOutside _ (by simp [at_point]) (by simp)
  | handleEvent at_point =>
      apply order.moveAcceptOutside
      · simp [at_point]
      · intro stage store
        split <;> simp
  | lock at_point free =>
      exact { order.moveAcceptOutside .accept
        (by simp [at_point]) (by simp) with }
  | acceptFailed lost at_point =>
      exact { order.moveAcceptOutside .unlock
        (by simp [at_point]) (by simp) with }
  | accepted fd ssl kernel at_point got =>
      obtain ⟨-, rfl⟩ := Kernel.accept_spec got
      exact order.accepted map at_point rfl
  | ntopFailed fd ssl kernel at_point got =>
      obtain ⟨-, rfl⟩ := Kernel.accept_spec got
      exact { order.moveAcceptOutside .unlock
        (by simp [at_point]) (by simp) with }
  | initConnection store outcome at_point =>
      have moved := order.moveAdmit .addSocket at_point
      obtain ⟨ssl, result | result⟩ :=
        Server.initConnection_cases config before store outcome
      · rw [result]
        exact { moved with }
      · rw [result]
        exact { moved.close (before.fd store) with }
  | registered store kernel at_point added =>
      obtain ⟨connection, denotes, -, -, -, registered, flight, -⟩ :=
        Kernel.epollCtlAdd_spec added
      cases owned.admitting_file _ store at_point connection denotes
      exact { order.registered exclusive
        (.backPointer (before.nextIndex config)) at_point
        registered flight with }
  | refused store granted at_point =>
      exact { order.moveAdmit .insert at_point with }
  | backPointer poller store at_point =>
      exact { order.moveAdmit .insert at_point with }
  | insert store at_point =>
      have moved := order.moveAdmit .enqueue at_point
      refine { moved with pending := ?_ }
      intro connection
      exact (moved.pending connection).trans
        (or_congr (map.unborn_insertStore store connection).symm Iff.rfl)
  | enqueue store at_point => exact order.enqueueAccept map at_point
  | unlock at_point =>
      exact { order.moveAcceptOutside .loop
        (by simp [at_point]) (by simp) with }

theorem pollerStep {config : Config} {before after : Server}
    {poller : PollerId} {choice : PollerChoice} (order : TaskOrder before)
    (owned : Ownership before) (map : StoreMap before)
    (exclusive : MutualExclusion before) (waits : InFlightWaits before)
    (taken : PollerStep config before poller choice after) :
    TaskOrder after := by
  cases taken with
  | loop at_point =>
      refine order.movePollerEarly _ _ (by simp [at_point]) ?_ ?_
      · split <;> exact List.nil_subset _
      · split <;> simp
  | report reported entries kernel at_point waited =>
      obtain ⟨rfl, -, members, -, registered, flight, -⟩ :=
        Kernel.epollWait_spec waited
      have returned : TaskOrder { before with kernel := kernel } :=
        order.shrink fun _ _ =>
          Kernel.mem_watched_of_returned registered flight
      refine returned.movePoller _ _ ?_ (by simp)
      intro store removed member
      have reportedHere : store ∈ reported := by
        simpa [PollerPoint.held, Kernel.event] using member
      exact absurd (members store reportedHere)
        (order.removed store removed poller)
  | timeout at_point =>
      have returned : TaskOrder
          { before with kernel := before.kernel.epollReturns poller } :=
        order.shrink fun _ _ => Kernel.mem_watched_of_returned rfl rfl
      exact returned.movePollerEarly _ _ (by simp [at_point])
        (List.nil_subset _) (by simp)
  | batchDone at_point =>
      exact order.movePollerEarly _ _ (by simp [at_point]) (List.nil_subset _)
        (by simp)
  | hangUp entry rest at_point flag =>
      refine order.movePollerEarly _ _ (by simp [at_point])
        (by simp [at_point, PollerPoint.held]) ?_
      rintro stage store others ⟨⟩ late
      cases late
  | data entry rest at_point flag =>
      refine order.movePollerEarly _ _ (by simp [at_point])
        (by simp [at_point, PollerPoint.held]) ?_
      rintro stage store others ⟨⟩ late
      cases late
  | skipped entry rest at_point =>
      exact order.movePollerEarly _ _ (by simp [at_point])
        (by simp [at_point, PollerPoint.held]) (by simp)
  | setIncoming store rest at_point =>
      exact { order.advance .dispatch at_point rfl
        (by simp [PollerStage.afterDelete]) with }
  | dispatch store rest at_point =>
      have live := order.not_removed at_point rfl
      have moved := (order.enqueueData live).movePollerEarly
        poller (.batch rest)
        (by rintro stage other others here
            cases at_point.symm.trans here
            rfl)
        (by simp [at_point, PollerPoint.held, Server.enqueueTask])
        (by simp)
      exact { moved with }
  | lock store rest at_point free =>
      exact { order.advance .setClosed at_point rfl
        (by simp [PollerStage.afterDelete]) with }
  | setClosed store rest at_point =>
      exact { order.advance .epollDel at_point rfl
        (by simp [PollerStage.afterDelete]) with }
  | noHandler store rest at_point handler_eq =>
      have set := owned.handler_of_busy exclusive at_point rfl
      cases handler_eq.symm.trans set
  | epollDel store rest handler at_point handler_eq =>
      have gone := owned.not_mem_watched exclusive waits at_point rfl
        handler_eq
      have deleted : TaskOrder
          { before with
              kernel :=
                before.kernel.epollCtlDel handler (before.fd store) } :=
        order.shrink fun _ _ => Kernel.mem_watched_of_epollCtlDel
      exact { deleted.advance .closeConnection at_point rfl
        (fun _ => gone) with }
  | closeConnection store rest at_point =>
      have gone := order.deleted poller _ store rest at_point rfl
      have moved := order.advance .enqueue at_point rfl (fun _ => gone)
      rcases before.closeConnection_cases config store with
        result | result | result
      · rw [result]
        exact moved
      · rw [result]
        exact { moved.close (before.fd store) with }
      · rw [result]
        exact { moved.close (before.fd store) with }
  | enqueue store rest at_point =>
      exact order.enqueueRemoval owned map exclusive at_point
  | erase store rest at_point =>
      have gone := order.deleted poller _ store rest at_point rfl
      have moved := order.movePoller poller
        (.busy .unlock store rest)
        (by intro other removed member
            obtain ⟨stage, others, late, here⟩ :=
              order.removed_held other removed poller
                (by rw [at_point]; exact member)
            cases at_point.symm.trans here
            exact ⟨_, _, rfl, rfl⟩)
        (by rintro stage other others ⟨⟩ late
            exact gone)
      refine { moved with pending := ?_ }
      intro connection
      exact (order.pending connection).trans
        (or_congr (map.unborn_eraseStore store connection).symm Iff.rfl)
  | unlock store rest at_point =>
      have moved := order.movePoller poller
        (.batch rest)
        (by intro other removed member
            obtain ⟨stage, others, late, here⟩ :=
              order.removed_held other removed poller
                (by rw [at_point]; exact List.mem_cons_of_mem _ member)
            cases at_point.symm.trans here
            exact absurd rfl (owned.ne_of_later at_point member))
        (by simp)
      exact { moved with }

theorem workerStep {config : Config} {before after : Server}
    {worker : WorkerId} {choice : WorkerChoice} (order : TaskOrder before)
    (taken : WorkerStep config before worker choice after) :
    TaskOrder after := by
  cases taken with
  | syscall choice task call next syscall result kernel transfers at_point
      transferred =>
      rcases Kernel.transfer_spec transferred with
        rfl | ⟨connection, count, -, rfl⟩
      · exact { order with }
      · exact { order with }
  | close task at_point may_close =>
      exact order.closeConnection config task.eventStorePointer
  | _ => exact { order with }

theorem stopStep {config : Config} {before after : Server}
    (order : TaskOrder before) (map : StoreMap before)
    (taken : StopStep config before after) : TaskOrder after := by
  cases taken with
  | closeListening closed at_point closes =>
      rcases Server.closeListening_cases closes with result | result
      · rw [result]
        exact { order with }
      · rw [result]
        exact { order.close config.listenFd with }
  | closePollerEpoll poller at_point =>
      have closed : TaskOrder
          { before with
              kernel :=
                before.kernel.closeEpoll poller
                  (decide (before.pollerThread poller = .epollWait)) } :=
        order.shrink fun _ _ => Kernel.mem_watched_of_closeEpoll
      exact { closed with }
  | closing store rest at_point =>
      exact { order.closeConnection config store with }
  | clear at_point =>
      refine { order with pending := ?_ }
      intro connection
      exact (order.pending connection).trans
        (or_congr (map.unborn_clearStores connection).symm Iff.rfl)
  | _ => exact { order with }

theorem serverStep {config : Config} {before after : Server} {action : Action}
    (order : TaskOrder before) (owned : Ownership before)
    (map : StoreMap before) (exclusive : MutualExclusion before)
    (waits : InFlightWaits before)
    (taken : ServerStep config before action after) : TaskOrder after := by
  cases taken with
  | network taken => exact order.network taken
  | accept choice taken => exact order.acceptStep owned map exclusive taken
  | poller poller choice bound taken =>
      exact order.pollerStep owned map exclusive waits taken
  | worker worker choice bound taken => exact order.workerStep taken
  | stop taken => exact order.stopStep map taken

end TaskOrder

/-- Every history of tasks follows the protocol. -/
theorem taskOrder_of_reachable {config : Config} {server : Server}
    (reachable : (tcpServer config).Reachable server) : TaskOrder server := by
  refine TransitionSystem.Reachable.invariant ?_ ?_ reachable
  · rintro state rfl
    exact TaskOrder.start config
  · intro before action after reached taken order
    exact order.serverStep (ownership_of_reachable reached)
      (storeMap_of_reachable reached) (mutualExclusion_of_reachable reached)
      (inFlightWaits_of_reachable reached) (serverStep_of_step taken)

/-! ## What a receiver can rely on -/

/-- Steps in which `inet_ntop` does not fail. -/
def inetNtopSucceeds (_ : Server) : Action → Prop
  | .accept (.accepted _ inetNtop _) => inetNtop = true
  | _ => True

instance (server : Server) :
    (action : Action) → Decidable (inetNtopSucceeds server action)
  | .accept (.accepted _ inetNtop _) =>
      inferInstanceAs (Decidable (inetNtop = true))
  | .accept .proceed | .accept .report | .accept .timeout
  | .accept (.acceptFailed _) | .accept (.handshake _)
  | .accept (.epollCtl _) => .isTrue trivial
  | .connect | .segment _ _ | .hangUp _ _ | .poller _ _ | .worker _ _
  | .stop => .isTrue trivial

/-- With `inet_ntop` succeeding, every accepted connection has a store. -/
theorem made_of_reached {config : Config} {server : Server}
    (reached : (tcpServer config).Reached inetNtopSucceeds server)
    (connection : ConnectionId) (accepted : connection < server.accepted) :
    server.lifetime connection ≠ .unborn := by
  revert connection
  refine TransitionSystem.Reached.invariant ?_ ?_ reached
  · rintro state rfl connection accepted
    exact absurd accepted (Nat.not_lt_zero _)
  · intro before action after _ allowed taken made connection accepted
    have moved := serverStep_of_step taken
    rcases accepted_of_step moved with same | ⟨more, created | failed⟩
    · rw [same] at accepted
      exact made_of_step moved (made connection accepted)
    · rw [more] at accepted
      rcases Nat.lt_succ_iff_lt_or_eq.mp accepted with older | rfl
      · exact made_of_step moved (made connection older)
      · simp [created]
    · obtain ⟨fd, ssl, rfl⟩ := failed
      cases allowed

/-- In every reachable state the tasks enqueued for an accepted connection
contain one accept task, from the end of its `handleIOEvent` on, and at most one
removal task, which comes after the accept task and is the last task of all. -/
theorem tasks_of_connection {config : Config} {server : Server}
    (reached : (tcpServer config).Reached inetNtopSucceeds server)
    {connection : ConnectionId} (accepted : connection < server.accepted) :
    ((∀ stage, server.acceptThread ≠ .admitting stage connection) →
        (server.taskOrigins connection).count .accept = 1) ∧
      (server.taskOrigins connection).count .accept ≤ 1 ∧
      (server.taskOrigins connection).count .removal ≤ 1 ∧
      ∀ before after,
        server.taskOrigins connection = before ++ .removal :: after →
          .accept ∈ before ∧ after = [] := by
  have order := taskOrder_of_reachable reached.reachable
  obtain ⟨phase, at_phase⟩ :=
    Option.ne_none_iff_exists'.mp (order.followed connection)
  have accepts := count_accept_of_phaseAfter at_phase
  have removals := count_removal_of_phaseAfter at_phase
  refine ⟨?_, ?_, ?_, ?_⟩
  · intro finished
    have announced : phase ≠ .pending := by
      rintro rfl
      rcases (order.pending connection).mp at_phase with
        unborn | ⟨stage, admitting⟩
      · exact made_of_reached reached connection accepted unborn
      · exact finished stage admitting
    rw [accepts, if_neg announced]
  · rw [accepts]
    split <;> simp
  · rw [removals]
    split <;> simp
  · intro before after split_at
    have whole : phaseAfter (server.taskOrigins connection) = some phase :=
      at_phase
    rw [split_at] at whole
    exact removal_last_of_phaseAfter whole

/-- A connection that is admitted, sends data and hangs up. -/
theorem tasks_of_connection_served :
    ∃ server,
      (tcpServer .single).Reached inetNtopSucceeds server ∧
        0 < server.accepted ∧
        server.taskOrigins 0 = [.accept, .data, .removal] ∧
        ((∀ stage, server.acceptThread ≠ .admitting stage 0) →
          (server.taskOrigins 0).count .accept = 1) ∧
        (server.taskOrigins 0).count .accept ≤ 1 ∧
        (server.taskOrigins 0).count .removal ≤ 1 ∧
        ∀ before after,
          server.taskOrigins 0 = before ++ .removal :: after →
            .accept ∈ before ∧ after = [] := by
  obtain ⟨server, reached, accepted, served⟩ :=
    exists_server_of_replay .single inetNtopSucceeds
      (fun server => 0 < server.accepted ∧
        server.taskOrigins 0 = [.accept, .data, .removal])
      (connectAndAdmit 4 ++ [.segment 0 5] ++ pollOne 0 0 ++ handleData 0 ++
        [.hangUp 0 .halfClose] ++ pollOne 0 0 ++ handleHangUp 0)
      (by decide)
  exact ⟨server, reached, accepted, served,
    tasks_of_connection reached accepted⟩

end EventPlus

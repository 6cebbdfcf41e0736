/-
Module: EventPlus.Server.EventMarks
Purpose: `m_eventType` of a registered connection against the data tasks
  raised for it: from the first data event on the field says incoming data,
  until `removeSocket` overwrites it.
Trusted boundary: none
Main exports:
  Server.Removing, Server.DataTask, EventMarks, eventMarks_of_reachable,
  EventMarks.incoming
-/
import EventPlus.Server.Descriptors

namespace EventPlus

open Function (update)

namespace Server

/-- `removeSocket` is at work on the connection and has not taken it out of the
epoll set yet. -/
def Removing (server : Server) (connection : ConnectionId) : Prop :=
  ∃ poller rest,
    server.pollerThread poller = .busy .setClosed connection rest ∨
      server.pollerThread poller = .busy .epollDel connection rest

/-- A task of `handleEvent` for the connection that no worker has dispatched
yet. -/
def DataTask (server : Server) (connection : ConnectionId) : Prop :=
  ∃ task, task.eventStorePointer = connection ∧ task.origin = .data ∧
    (task ∈ server.tasks ∨ ∃ worker, server.workerThread worker = .taken task)

/-- A data event has set the field, and nothing but `removeSocket` may have
overwritten it. -/
def Marked (server : Server) (store : ConnectionId) : Prop :=
  (server.store store).eventType = .incomingData ∨
    (server.store store).eventType = .closedConnection

end Server

/-- With the mutex free nothing is being removed. -/
theorem MutualExclusion.not_removing {server : Server}
    (exclusive : MutualExclusion server)
    (free : server.clientEventStoresMutex = none)
    (connection : ConnectionId) : ¬server.Removing connection := by
  rintro ⟨poller, rest, at_point⟩
  have outside := (exclusive.of_free free).2.1 poller
  rcases at_point with at_point | at_point
  · rw [at_point] at outside
    cases outside
  · rw [at_point] at outside
    cases outside

/-- What `m_eventType` says, at any time and in any run. -/
structure EventMarks (server : Server) : Prop where
  closed_with : ∀ store,
    (server.store store).eventType = .closedConnection →
      ∃ poller, server.registeredWith store = some poller
  closed : ∀ poller store, store ∈ server.kernel.registered poller →
    (server.store store).eventType = .closedConnection →
      ∃ other rest, server.pollerThread other = .busy .epollDel store rest
  dispatching : ∀ poller store rest,
    server.pollerThread poller = .busy .dispatch store rest →
      server.Marked store
  data : ∀ store, server.DataTask store → server.Marked store

namespace EventMarks

theorem start (config : Config) : EventMarks (Server.start config) where
  closed_with := by simp [Server.start]
  closed := by simp [Server.start]
  dispatching := by simp [Server.start]
  data := by
    rintro store ⟨task, -, -, member | ⟨worker, holds⟩⟩
    · cases member
    · cases holds

/-- While the connection is registered and not being removed, a data task will
be dispatched as incoming data. -/
theorem incoming {server : Server} (marks : EventMarks server)
    {poller : PollerId} {store : ConnectionId}
    (registered : store ∈ server.kernel.registered poller)
    (kept : ¬server.Removing store) (marked : server.Marked store) :
    (server.store store).eventType = .incomingData := by
  rcases marked with incoming | closed
  · exact incoming
  · obtain ⟨other, rest, at_point⟩ :=
      marks.closed poller store registered closed
    exact absurd ⟨other, rest, .inr at_point⟩ kept

/-! ## Single changes -/

theorem dataTask_of_pending {server : Server} {store : ConnectionId}
    (task : server.DataTask store) : server.Pending store := by
  obtain ⟨given, same, -, member | ⟨worker, holds⟩⟩ := task
  · exact .inl ⟨given, member, same⟩
  · exact .inr ⟨worker, given, by rw [holds]; rfl, same⟩

/-- Changes that keep the field, and add no registration, no data task and no
data event. -/
theorem congr {before after : Server} (marks : EventMarks before)
    (kind : ∀ store,
      (after.store store).eventType = (before.store store).eventType)
    (registeredWith : ∀ store poller,
      before.registeredWith store = some poller →
        after.registeredWith store = some poller)
    (registered : ∀ poller store, store ∈ after.kernel.registered poller →
      store ∈ before.kernel.registered poller)
    (pollers : after.pollerThread = before.pollerThread)
    (data : ∀ store, after.DataTask store → before.DataTask store) :
    EventMarks after := by
  have marked : ∀ store, before.Marked store → after.Marked store := by
    intro store marked
    rw [Server.Marked, kind]
    exact marked
  constructor
  · intro store closed
    rw [kind] at closed
    obtain ⟨poller, with_poller⟩ := marks.closed_with store closed
    exact ⟨poller, registeredWith store poller with_poller⟩
  · intro poller store member closed
    rw [kind] at closed
    rw [pollers]
    exact marks.closed poller store (registered poller store member) closed
  · intro poller store rest at_point
    rw [pollers] at at_point
    exact marked store (marks.dispatching poller store rest at_point)
  · intro store task
    exact marked store (marks.data store (data store task))

/-- A poller moves, and not away from `EPOLL_CTL_DEL` or to the end of
`handleEvent`. -/
theorem movePoller {server : Server} (marks : EventMarks server)
    {poller : PollerId} {old : PollerPoint}
    (at_point : server.pollerThread poller = old)
    (stays : ∀ store rest, old ≠ .busy .epollDel store rest)
    {point : PollerPoint}
    (elsewhere : ∀ store rest, point ≠ .busy .dispatch store rest) :
    EventMarks (server.setPoller poller point) where
  closed_with := marks.closed_with
  closed := by
    intro other store member closed
    obtain ⟨deleter, rest, there⟩ := marks.closed other store member closed
    have different : deleter ≠ poller := by
      rintro rfl
      exact stays store rest (at_point.symm.trans there)
    refine ⟨deleter, rest, ?_⟩
    rw [← there]
    exact Server.setPoller_of_ne different _ _
  dispatching := by
    intro other store rest there
    by_cases same : other = poller
    · rw [same] at there
      exact absurd ((Server.setPoller_self _ _ _).symm.trans there)
        (elsewhere store rest)
    · apply marks.dispatching other store rest
      rw [← there]
      exact (Server.setPoller_of_ne same _ _).symm
  data := marks.data

/-- `closeConnection` and the connection set-up close numbers and write
`m_SSL`. -/
theorem closeDescriptor {server : Server} (marks : EventMarks server)
    (store : ConnectionId) : EventMarks (server.closeDescriptor store) :=
  marks.congr (fun _ => rfl) (fun _ _ => id)
    (fun _ _ member => (Kernel.mem_close_registered.mp member).1) rfl
    (fun _ => id)

theorem setSSL {server : Server} (marks : EventMarks server)
    (store : ConnectionId) (ssl : SSLPointer) :
    EventMarks (server.setSSL store ssl) :=
  marks.congr (fun _ => Server.eventType_setSSL _ _ _) (fun _ _ => id)
    (fun _ _ => id) rfl (fun _ => id)

theorem closeConnection {server : Server} (marks : EventMarks server)
    (config : Config) (store : ConnectionId) :
    EventMarks (server.closeConnection config store) := by
  rcases server.closeConnection_cases config store with
    result | result | result
  · rw [result]
    exact marks
  · rw [result]
    exact marks.closeDescriptor store
  · rw [result]
    exact (marks.closeDescriptor store).setSSL store .null

theorem initConnection {server : Server} (marks : EventMarks server)
    (config : Config) (store : ConnectionId) (outcome : Handshake) :
    EventMarks (server.initConnection config store outcome) := by
  obtain ⟨ssl, result | result⟩ :=
    server.initConnection_cases config store outcome
  · rw [result]
    exact marks.setSSL store ssl
  · rw [result]
    exact (marks.closeDescriptor store).setSSL store ssl

/-- A task that is no data task. -/
theorem enqueueTask {server : Server} (marks : EventMarks server)
    {task : IOTask} (other : task.origin ≠ .data) :
    EventMarks (server.enqueueTask task) := by
  refine marks.congr (fun _ => rfl) (fun _ _ => id) (fun _ _ => id) rfl ?_
  rintro store ⟨given, same, origin, member | taken⟩
  · rcases List.mem_append.mp member with earlier | new
    · exact ⟨given, same, origin, .inl earlier⟩
    · cases List.mem_singleton.mp new
      exact absurd origin other
  · exact ⟨given, same, origin, .inr taken⟩

/-- The new store says new connection, and nothing refers to it yet. -/
theorem accepted {server : Server} (marks : EventMarks server)
    (owned : Ownership server)
    (made : ∀ store, server.Pending store → store < server.accepted)
    {fd : Fd} {ssl : SSLPointer} {kernel : Kernel}
    (got : server.kernel.accept fd server.accepted = some kernel) :
    EventMarks (server.makeStore kernel fd ssl) := by
  have registered : kernel.registered = server.kernel.registered := by
    rw [(Kernel.accept_spec got).2]
  have older : ∀ store, store ≠ server.accepted →
      (server.makeStore kernel fd ssl).store store = server.store store :=
    fun store different => Function.update_of_ne different _ _
  have newest :
      ((server.makeStore kernel fd ssl).store server.accepted).eventType =
        .newConnection := by
    simp [Server.makeStore]
  have marked : ∀ store, store < server.accepted → server.Marked store →
      (server.makeStore kernel fd ssl).Marked store := by
    intro store below marked
    rw [Server.Marked, older store (Nat.ne_of_lt below)]
    exact marked
  constructor
  · intro store closed
    by_cases same : store = server.accepted
    · rw [same, newest] at closed
      cases closed
    · rw [older store same] at closed
      exact marks.closed_with store closed
  · intro poller store member closed
    by_cases same : store = server.accepted
    · rw [same, newest] at closed
      cases closed
    · rw [older store same] at closed
      change store ∈ kernel.registered poller at member
      rw [registered] at member
      exact marks.closed poller store member closed
  · intro poller store rest at_point
    have held := server.held_of_busy at_point
    apply marked store
    · exact owned.with_lt poller store (owned.held_with poller store held)
    · exact marks.dispatching poller store rest at_point
  · intro store task
    apply marked store
    · exact made store (dataTask_of_pending task)
    · exact marks.data store task

/-- A registration is a store's first, so no removal has written to it. -/
theorem registered {server : Server} (marks : EventMarks server)
    (owned : Ownership server) {store : ConnectionId} {poller : PollerId}
    {kernel : Kernel}
    (at_point : server.acceptThread = .admitting .addSocket store)
    (added :
      server.kernel.epollCtlAdd poller (server.fd store) = some kernel) :
    EventMarks
      { server with
          kernel := kernel
          registeredWith :=
            update server.registeredWith store (some poller) } := by
  obtain ⟨connection, denotes, -, -, -, registered, -⟩ :=
    Kernel.epollCtlAdd_spec added
  have same : connection = store :=
    owned.admitting_file .addSocket store at_point connection denotes
  have fresh : server.registeredWith store = none :=
    owned.admitting_fresh store (.inr at_point)
  have unwritten :
      (server.store store).eventType ≠ .closedConnection := by
    intro closed
    obtain ⟨other, written⟩ := marks.closed_with store closed
    rw [fresh] at written
    cases written
  constructor
  · intro other closed
    by_cases here : other = store
    · rw [here]
      exact ⟨poller, Function.update_self _ _ _⟩
    · obtain ⟨earlier, with_earlier⟩ := marks.closed_with other closed
      refine ⟨earlier, ?_⟩
      rw [← with_earlier]
      exact Function.update_of_ne here _ _
  · intro other connection' member closed
    change connection' ∈ kernel.registered other at member
    rw [registered] at member
    by_cases here : other = poller
    · rw [here, Function.update_self, List.mem_append,
        List.mem_singleton] at member
      rcases member with earlier | new
      · exact marks.closed poller connection' earlier closed
      · rw [new, same] at closed
        exact absurd closed unwritten
    · rw [Function.update_of_ne here] at member
      exact marks.closed other connection' member closed
  · exact marks.dispatching
  · exact marks.data

/-- Both values a poller writes leave the field marked. -/
theorem marked_setEventType {server : Server} {store other : ConnectionId}
    {kind : EventType}
    (written : kind = .incomingData ∨ kind = .closedConnection)
    (marked : other = store ∨ server.Marked other) :
    (server.setEventType store kind).Marked other := by
  by_cases same : other = store
  · rw [same, Server.Marked, Server.eventType_setEventType_self]
    exact written
  · rw [Server.Marked, Server.eventType_setEventType_of_ne same]
    exact marked.resolve_left same

/-- `handleEvent` writes the field before it hands the store on. -/
theorem setIncoming {server : Server} (marks : EventMarks server)
    {poller : PollerId} {store : ConnectionId} {rest : List EpollEvent}
    (at_point : server.pollerThread poller = .busy .handleEvent store rest) :
    EventMarks
      ((server.setEventType store .incomingData).setPoller poller
        (.busy .dispatch store rest)) where
  closed_with := by
    intro other closed
    change ((server.setEventType store .incomingData).store other).eventType =
      .closedConnection at closed
    by_cases same : other = store
    · rw [same, Server.eventType_setEventType_self] at closed
      cases closed
    · rw [Server.eventType_setEventType_of_ne same] at closed
      exact marks.closed_with other closed
  closed := by
    intro another other member closed
    change ((server.setEventType store .incomingData).store other).eventType =
      .closedConnection at closed
    by_cases same : other = store
    · rw [same, Server.eventType_setEventType_self] at closed
      cases closed
    · rw [Server.eventType_setEventType_of_ne same] at closed
      obtain ⟨deleter, later, there⟩ := marks.closed another other member closed
      have different : deleter ≠ poller := by
        rintro rfl
        cases at_point.symm.trans there
      refine ⟨deleter, later, ?_⟩
      rw [← there]
      exact Server.setPoller_of_ne different _ _
  dispatching := by
    intro another other later there
    change (server.setEventType store .incomingData).Marked other
    apply marked_setEventType (.inl rfl)
    by_cases same : another = poller
    · rw [same] at there
      cases (Server.setPoller_self _ _ _).symm.trans there
      exact .inl rfl
    · right
      apply marks.dispatching another other later
      rw [← there]
      exact (Server.setPoller_of_ne same _ _).symm
  data := fun other task =>
    marked_setEventType (.inl rfl) (.inr (marks.data other task))

/-- `removeSocket` writes the field, and deletes the registration next. -/
theorem setClosed {server : Server} (marks : EventMarks server)
    {poller : PollerId} {store : ConnectionId} {rest : List EpollEvent}
    (with_poller : server.registeredWith store = some poller)
    (at_point : server.pollerThread poller = .busy .setClosed store rest) :
    EventMarks
      ((server.setEventType store .closedConnection).setPoller poller
        (.busy .epollDel store rest)) where
  closed_with := by
    intro other closed
    change
      ((server.setEventType store .closedConnection).store other).eventType =
        .closedConnection at closed
    by_cases same : other = store
    · rw [same]
      exact ⟨poller, with_poller⟩
    · rw [Server.eventType_setEventType_of_ne same] at closed
      exact marks.closed_with other closed
  closed := by
    intro another other member closed
    change
      ((server.setEventType store .closedConnection).store other).eventType =
        .closedConnection at closed
    by_cases same : other = store
    · rw [same]
      exact ⟨poller, rest, Function.update_self _ _ _⟩
    · rw [Server.eventType_setEventType_of_ne same] at closed
      obtain ⟨deleter, later, there⟩ := marks.closed another other member closed
      have different : deleter ≠ poller := by
        rintro rfl
        cases at_point.symm.trans there
      refine ⟨deleter, later, ?_⟩
      rw [← there]
      exact Server.setPoller_of_ne different _ _
  dispatching := by
    intro another other later there
    change (server.setEventType store .closedConnection).Marked other
    apply marked_setEventType (.inr rfl)
    right
    have different : another ≠ poller := by
      rintro rfl
      cases (Server.setPoller_self _ _ _).symm.trans there
    apply marks.dispatching another other later
    rw [← there]
    exact (Server.setPoller_of_ne different _ _).symm
  data := fun other task =>
    marked_setEventType (.inr rfl) (.inr (marks.data other task))

/-- After `EPOLL_CTL_DEL` the connection is registered nowhere. -/
theorem epollDel {server : Server} (marks : EventMarks server)
    {poller handler : PollerId} {store : ConnectionId}
    {rest : List EpollEvent}
    (at_point : server.pollerThread poller = .busy .epollDel store rest)
    (deleted : ∀ other,
      store ∉
        (server.kernel.epollCtlDel handler (server.fd store)).registered
          other) :
    EventMarks
      ({ server with
          kernel :=
            server.kernel.epollCtlDel handler (server.fd store) }.setPoller
        poller (.busy .closeConnection store rest)) where
  closed_with := marks.closed_with
  closed := by
    intro another other member closed
    have earlier := (Kernel.mem_epollCtlDel_registered.mp member).1
    obtain ⟨deleter, later, there⟩ := marks.closed another other earlier closed
    have different : deleter ≠ poller := by
      rintro rfl
      cases at_point.symm.trans there
      exact deleted another member
    refine ⟨deleter, later, ?_⟩
    rw [← there]
    exact Server.setPoller_of_ne different _ _
  dispatching := by
    intro another other later there
    have different : another ≠ poller := by
      rintro rfl
      cases (Server.setPoller_self _ _ _).symm.trans there
    apply marks.dispatching another other later
    rw [← there]
    exact (Server.setPoller_of_ne different _ _).symm
  data := marks.data

/-- A data task is enqueued for the store whose field was just written. -/
theorem dispatch {server : Server} (marks : EventMarks server)
    {poller : PollerId} {store : ConnectionId} {rest : List EpollEvent}
    {offered : ConnectionId → Nat}
    (at_point : server.pollerThread poller = .busy .dispatch store rest) :
    EventMarks
      ({ server.enqueueTask
            { eventStorePointer := store, origin := .data } with
          offered := offered }.setPoller poller (.batch rest)) := by
  have marked := marks.dispatching poller store rest at_point
  have moved : EventMarks (server.setPoller poller (.batch rest)) := by
    apply marks.movePoller at_point
    · simp
    · simp
  refine { moved with data := ?_ }
  rintro other ⟨task, rfl, origin, member | taken⟩
  · rcases List.mem_append.mp member with earlier | new
    · exact marks.data _ ⟨task, rfl, origin, .inl earlier⟩
    · cases List.mem_singleton.mp new
      exact marked
  · exact marks.data _ ⟨task, rfl, origin, .inr taken⟩

/-! ## Steps -/

theorem acceptStep {config : Config} {before after : Server}
    {choice : AcceptChoice} (marks : EventMarks before)
    (owned : Ownership before)
    (made : ∀ store, before.Pending store → store < before.accepted)
    (taken : AcceptStep config before choice after) : EventMarks after := by
  cases taken with
  | accepted fd ssl kernel at_point got =>
      exact { marks.accepted owned made got with }
  | ntopFailed fd ssl kernel at_point got =>
      obtain ⟨-, rfl⟩ := Kernel.accept_spec got
      exact { marks with }
  | initConnection store outcome at_point =>
      exact { marks.initConnection config store outcome with }
  | registered store kernel at_point added =>
      exact { marks.registered owned at_point added with }
  | backPointer poller store at_point =>
      exact marks.congr (fun _ => Server.eventType_setBackPointer _ _ _)
        (fun _ _ => id) (fun _ _ => id) rfl (fun _ => id)
  | enqueue store at_point =>
      exact { marks.enqueueTask (by simp) with }
  | _ => exact { marks with }

theorem pollerStep {config : Config} {before after : Server}
    {poller : PollerId} {choice : PollerChoice} (marks : EventMarks before)
    (owned : Ownership before) (exclusive : MutualExclusion before)
    (taken : PollerStep config before poller choice after) :
    EventMarks after := by
  cases taken with
  | report reported entries kernel at_point waited =>
      obtain ⟨-, -, -, -, registered, -⟩ := Kernel.epollWait_spec waited
      have waiting : EventMarks { before with kernel := kernel } := by
        refine marks.congr (fun _ => rfl) (fun _ _ => id) ?_ rfl (fun _ => id)
        intro other store member
        rw [← registered]
        exact member
      apply waiting.movePoller at_point
      · simp
      · simp
  | setIncoming store rest at_point => exact marks.setIncoming at_point
  | dispatch store rest at_point => exact marks.dispatch at_point
  | setClosed store rest at_point =>
      apply marks.setClosed _ at_point
      exact owned.held_with poller store (before.held_of_busy at_point)
  | noHandler store rest at_point handler_eq =>
      have set := owned.handler_of_busy exclusive at_point rfl
      cases handler_eq.symm.trans set
  | epollDel store rest handler at_point handler_eq =>
      have deleted := owned.not_mem_epollCtlDel exclusive at_point rfl
        handler_eq
      exact { marks.epollDel at_point deleted with }
  | closeConnection store rest at_point =>
      have there :
          (before.closeConnection config store).pollerThread poller =
            .busy .closeConnection store rest := by
        rw [before.pollerThread_closeConnection]
        exact at_point
      apply (marks.closeConnection config store).movePoller there
      · simp
      · simp
  | enqueue store rest at_point =>
      have raised : EventMarks
          (before.enqueueTask
            { eventStorePointer := store, origin := .removal }) :=
        marks.enqueueTask (by simp)
      apply raised.movePoller at_point
      · simp
      · simp
  | lock store rest at_point free =>
      have moved : EventMarks
          (before.setPoller poller (.busy .setClosed store rest)) := by
        apply marks.movePoller at_point
        · simp
        · simp
      exact { moved with }
  | erase store rest at_point =>
      have moved : EventMarks
          (before.setPoller poller (.busy .unlock store rest)) := by
        apply marks.movePoller at_point
        · simp
        · simp
      exact { moved with }
  | unlock store rest at_point =>
      have moved : EventMarks (before.setPoller poller (.batch rest)) := by
        apply marks.movePoller at_point
        · simp
        · simp
      exact { moved with }
  | loop at_point =>
      apply marks.movePoller at_point
      · simp
      · intro store rest
        split <;> simp
  | hangUp entry rest at_point flag =>
      apply marks.movePoller at_point
      · simp
      · simp
  | data entry rest at_point flag =>
      apply marks.movePoller at_point
      · simp
      · simp
  | skipped entry rest at_point =>
      apply marks.movePoller at_point
      · simp
      · simp
  | timeout at_point =>
      have returned : EventMarks
          { before with kernel := before.kernel.epollReturns poller } :=
        { marks with }
      apply returned.movePoller at_point
      · simp
      · simp
  | batchDone at_point =>
      apply marks.movePoller at_point
      · simp
      · simp

/-- A worker that moves on without a task it has just taken. -/
theorem dataTask_of_setWorker (server : Server) {worker : WorkerId}
    {point : WorkerPoint} (busy : ∀ task, point ≠ .taken task)
    {store : ConnectionId}
    (task : (server.setWorker worker point).DataTask store) :
    server.DataTask store := by
  obtain ⟨given, same, origin, member | ⟨other, holds⟩⟩ := task
  · exact ⟨given, same, origin, .inl member⟩
  · have different : other ≠ worker := by
      rintro rfl
      exact busy given ((Server.setWorker_self _ _ _).symm.trans holds)
    refine ⟨given, same, origin, .inr ⟨other, ?_⟩⟩
    rw [← holds]
    exact (Server.setWorker_of_ne different _ _).symm

/-- The workers raise no tasks. -/
theorem dataTask_of_workerStep {config : Config} {before after : Server}
    {worker : WorkerId} {choice : WorkerChoice} {store : ConnectionId}
    (taken : WorkerStep config before worker choice after)
    (task : after.DataTask store) : before.DataTask store := by
  cases taken with
  | take head rest at_point queue =>
      obtain ⟨given, same, origin, member | ⟨other, holds⟩⟩ := task
      · refine ⟨given, same, origin, .inl ?_⟩
        rw [queue]
        exact List.mem_cons_of_mem _ member
      · by_cases here : other = worker
        · rw [here] at holds
          cases (Server.setWorker_self _ _ _).symm.trans holds
          refine ⟨head, same, origin, .inl ?_⟩
          rw [queue]
          exact List.mem_cons_self
        · refine ⟨given, same, origin, .inr ⟨other, ?_⟩⟩
          rw [← holds]
          exact (Server.setWorker_of_ne here _ _).symm
  | dispatch head at_point =>
      exact dataTask_of_setWorker before (by simp) task
  | call head request call at_point =>
      exact dataTask_of_setWorker before (by simp) task
  | syscall choice head call next syscall result kernel transfers at_point
      transferred =>
      exact dataTask_of_setWorker before (by simp) task
  | returnCall head call at_point =>
      exact dataTask_of_setWorker before (by simp) task
  | close head at_point may_close =>
      obtain ⟨_, _, _, result⟩ :=
        before.closeConnection_frame config head.eventStorePointer
      rw [result] at task
      exact task
  | finish head at_point =>
      exact dataTask_of_setWorker before (by simp) task

theorem workerStep {config : Config} {before after : Server}
    {worker : WorkerId} {choice : WorkerChoice} (marks : EventMarks before)
    (taken : WorkerStep config before worker choice after) :
    EventMarks after := by
  have data : ∀ store, after.DataTask store → before.DataTask store :=
    fun store => dataTask_of_workerStep taken
  cases taken with
  | syscall choice task call next syscall result kernel transfers at_point
      transferred =>
      refine marks.congr (fun _ => rfl) (fun _ _ => id) ?_ rfl data
      intro poller store member
      change store ∈ kernel.registered poller at member
      rcases Kernel.transfer_spec transferred with
        rfl | ⟨connection, count, -, rfl⟩
      · exact member
      · exact member
  | close task at_point may_close =>
      exact marks.closeConnection config task.eventStorePointer
  | _ =>
      exact marks.congr (fun _ => rfl) (fun _ _ => id) (fun _ _ => id) rfl data

theorem stopStep {config : Config} {before after : Server}
    (marks : EventMarks before) (taken : StopStep config before after) :
    EventMarks after := by
  cases taken with
  | closeListening closed at_point closes =>
      rcases Server.closeListening_cases closes with result | result
      · rw [result]
        exact { marks with }
      · rw [result]
        exact marks.congr (fun _ => rfl) (fun _ _ => id)
          (fun _ _ member => (Kernel.mem_close_registered.mp member).1) rfl
          (fun _ => id)
  | closePollerEpoll poller at_point =>
      refine marks.congr (fun _ => rfl) (fun _ _ => id) ?_ rfl (fun _ => id)
      intro other store member
      change store ∈ update before.kernel.registered poller [] other at member
      by_cases same : other = poller
      · rw [same, Function.update_self] at member
        cases member
      · rw [Function.update_of_ne same] at member
        exact member
  | closing store rest at_point =>
      exact { marks.closeConnection config store with }
  | _ => exact { marks with }

end EventMarks

theorem eventMarks_of_reachable {config : Config} {server : Server}
    (reachable : (tcpServer config).Reachable server) :
    EventMarks server := by
  refine TransitionSystem.Reachable.invariant ?_ ?_ reachable
  · intro state initially
    cases initially
    exact EventMarks.start config
  · intro before action after reached taken marks
    have owned := ownership_of_reachable reached
    cases serverStep_of_step taken with
    | network arrival => cases arrival <;> exact { marks with }
    | accept choice line =>
        apply marks.acceptStep owned _ line
        intro store pending
        exact (storeMap_of_reachable reached).made_lt store
          (made_of_pending reached pending)
    | poller poller choice bound line =>
        exact marks.pollerStep owned (mutualExclusion_of_reachable reached)
          line
    | worker worker choice bound line => exact marks.workerStep line
    | stop line => exact marks.stopStep line

end EventPlus

/-
Module: EventPlus.Server.CallbackKinds
Purpose: The event kind a callback is given against the event its task was
  raised for.  The kind is read from the store when the task is dispatched, so
  it is right as long as nothing overwrites it while tasks wait.
Trusted boundary: none
Main exports:
  keepsKinds, KindsKept, kindsKept_of_reached, Server.callbackKinds,
  callbacks_match_events
-/
import Mathlib.Data.List.Count
import EventPlus.Server.TaskQueue

namespace EventPlus

open Function (update)

/-- The store `handleIOEvent` is at work on. -/
def AcceptPoint.store : AcceptPoint → Option ConnectionId
  | .admitting _ store => some store
  | _ => none

/-- The field `m_eventType` of the store may be given the value `kind`: its
accept task has been enqueued, and its tasks not yet dispatched were raised for
events of this kind. -/
def Server.mayBecome (config : Config) (server : Server)
    (store : ConnectionId) (kind : EventType) : Prop :=
  server.acceptThread.store ≠ some store ∧
    ∀ task ∈ server.undispatched config,
      task.eventStorePointer = store → task.origin.eventType = kind

instance (config : Config) (server : Server) (store : ConnectionId)
    (kind : EventType) : Decidable (server.mayBecome config store kind) := by
  unfold Server.mayBecome
  infer_instance

/-- The steps that leave waiting tasks with the right event kind: a poller
writes `m_eventType` only where that changes no waiting task's kind. -/
def keepsKinds (config : Config) (server : Server) : Action → Prop
  | .poller poller _ =>
      match server.pollerThread poller with
      | .busy .handleEvent store _ =>
          server.mayBecome config store .incomingData
      | .busy .setClosed store _ =>
          server.mayBecome config store .closedConnection
      | _ => True
  | _ => True

instance (config : Config) (server : Server) (action : Action) :
    Decidable (keepsKinds config server action) := by
  unfold keepsKinds
  split
  · split <;> infer_instance
  · infer_instance

/-- The lines of `removeSocket` between the write of `m_eventType` and the
removal task. -/
def PollerStage.closes : PollerStage → Bool
  | .epollDel | .closeConnection | .enqueue => true
  | _ => false

/-- The value of `m_eventType` that a poller has written and not yet enqueued a
task for. -/
def PollerPoint.announces : PollerPoint → Option (ConnectionId × EventType)
  | .busy .dispatch store _ => some (store, .incomingData)
  | .busy stage store _ =>
      if stage.closes then some (store, .closedConnection) else none
  | _ => none

theorem PollerPoint.held_of_announces {point : PollerPoint}
    {store : ConnectionId} {kind : EventType}
    (written : point.announces = some (store, kind)) :
    store ∈ point.held := by
  cases point with
  | busy stage other rest =>
      have same : other = store := by
        cases stage <;> simp [announces, PollerStage.closes] at written <;>
          exact written.1
      rw [same]
      exact List.mem_cons_self
  | _ => cases written

/-- Every waiting task finds in its store the kind it was raised for. -/
structure KindsKept (config : Config) (server : Server) : Prop where
  waiting : ∀ task ∈ server.undispatched config,
    (server.store task.eventStorePointer).eventType = task.origin.eventType
  made : ∀ task ∈ server.undispatched config,
    server.lifetime task.eventStorePointer ≠ .unborn
  written : ∀ poller store kind,
    (server.pollerThread poller).announces = some (store, kind) →
      (server.store store).eventType = kind
  admitting : ∀ store, server.acceptThread.store = some store →
    (server.store store).eventType = .newConnection
  delivered : ∀ worker task kind,
    .callback worker task kind ∈ server.workerTrace →
      kind = task.origin.eventType

namespace KindsKept

theorem mem_undispatched {config : Config} {server : Server}
    {task : IOTask} :
    task ∈ server.undispatched config ↔
      (∃ worker < config.numWorkers,
        server.workerThread worker = .taken task) ∨ task ∈ server.tasks := by
  rw [Server.undispatched, List.mem_append, Server.waitingTasks,
    Slots.mem_contents]
  refine or_congr_left ?_
  constructor
  · rintro ⟨worker, bound, holds⟩
    refine ⟨worker, List.mem_range.mp bound, ?_⟩
    rw [Function.comp_apply] at holds
    cases point : server.workerThread worker with
    | taken other =>
        rw [point] at holds
        cases holds
        rfl
    | idle =>
        rw [point] at holds
        cases holds
    | callback other call =>
        rw [point] at holds
        cases holds
  · rintro ⟨worker, bound, holds⟩
    refine ⟨worker, List.mem_range.mpr bound, ?_⟩
    rw [Function.comp_apply, holds]
    rfl

theorem start (config : Config) :
    KindsKept config (Server.start config) where
  waiting := by
    intro task member
    rcases mem_undispatched.mp member with ⟨worker, -, holds⟩ | queued
    · cases holds
    · cases queued
  made := by
    intro task member
    rcases mem_undispatched.mp member with ⟨worker, -, holds⟩ | queued
    · cases holds
    · cases queued
  written := by
    intro poller store kind written
    cases written
  admitting := by
    intro store at_point
    cases at_point
  delivered := by
    intro worker task kind member
    cases member

/-! ## Single changes -/

/-- Fields other than the event kind do not matter. -/
theorem changeStore {config : Config} {server : Server}
    (kept : KindsKept config server)
    {stores : ConnectionId → EventStorePointer}
    (same : ∀ store,
      (stores store).eventType = (server.store store).eventType) :
    KindsKept config { server with store := stores } := by
  refine { kept with waiting := ?_, written := ?_, admitting := ?_ }
  · intro task member
    rw [same]
    exact kept.waiting task member
  · intro poller store kind written
    rw [same]
    exact kept.written poller store kind written
  · intro store at_point
    rw [same]
    exact kept.admitting store at_point

theorem closeConnection {config : Config} {server : Server}
    (kept : KindsKept config server) (store : ConnectionId) :
    KindsKept config (server.closeConnection config store) := by
  rcases server.closeConnection_cases config store with
    result | result | result
  · rw [result]
    exact kept
  · rw [result]
    exact { kept with }
  · rw [result]
    have closed : KindsKept config (server.closeDescriptor store) :=
      { kept with }
    exact closed.changeStore fun other =>
      Server.eventType_setSSL store other .null

/-- A poller moves without writing a kind, and possibly after its task. -/
theorem movePoller {config : Config} {server : Server}
    (kept : KindsKept config server) (poller : PollerId)
    (point : PollerPoint)
    (announces : ∀ store kind, point.announces = some (store, kind) →
      (server.store store).eventType = kind) :
    KindsKept config (server.setPoller poller point) := by
  refine { kept with written := ?_ }
  intro other store kind written
  by_cases moved : other = poller
  · subst moved
    simp only [Server.setPoller_self] at written
    exact announces store kind written
  · simp only [Server.setPoller_of_ne moved] at written
    exact kept.written other store kind written

/-- The accept thread moves on, keeping at most its store. -/
theorem moveAccept {config : Config} {server : Server}
    (kept : KindsKept config server) (point : AcceptPoint)
    (fewer : ∀ store, point.store = some store →
      server.acceptThread.store = some store) :
    KindsKept config { server with acceptThread := point } :=
  { kept with
    admitting := fun store at_point =>
      kept.admitting store (fewer store at_point) }

/-- A task is enqueued for the event its store announces. -/
theorem enqueueTask {config : Config} {server : Server}
    (kept : KindsKept config server) (task : IOTask)
    (same : (server.store task.eventStorePointer).eventType =
      task.origin.eventType)
    (made : server.lifetime task.eventStorePointer ≠ .unborn) :
    KindsKept config (server.enqueueTask task) := by
  have cases_of_member : ∀ other,
      other ∈ (server.enqueueTask task).undispatched config →
        other ∈ server.undispatched config ∨ other = task := by
    intro other member
    rcases mem_undispatched.mp member with held | queued
    · exact .inl (mem_undispatched.mpr (.inl held))
    · rcases List.mem_append.mp queued with earlier | new
      · exact .inl (mem_undispatched.mpr (.inr earlier))
      · exact .inr (List.mem_singleton.mp new)
  refine { kept with waiting := ?_, made := ?_ }
  · intro other member
    rcases cases_of_member other member with earlier | rfl
    · exact kept.waiting other earlier
    · exact same
  · intro other member
    rcases cases_of_member other member with earlier | rfl
    · exact kept.made other earlier
    · exact made

/-- A poller writes the event kind of the store it has in hand. -/
theorem setEventType {config : Config} {server : Server}
    (kept : KindsKept config server) (owned : Ownership server)
    {poller : PollerId} {stage : PollerStage} {store : ConnectionId}
    {rest : List EpollEvent} {kind : EventType} {point : PollerPoint}
    (at_point : server.pollerThread poller = .busy stage store rest)
    (may : server.mayBecome config store kind)
    (next : point.announces = some (store, kind)) :
    KindsKept config
      ((server.setEventType store kind).setPoller poller point) := by
  have held := server.held_of_busy at_point
  refine
    { waiting := ?_
      made := kept.made
      written := ?_
      admitting := ?_
      delivered := kept.delivered }
  · intro task member
    change ((server.setEventType store kind).store
      task.eventStorePointer).eventType = _
    by_cases here : task.eventStorePointer = store
    · rw [here, Server.eventType_setEventType_self]
      exact (may.2 task member here).symm
    · rw [Server.eventType_setEventType_of_ne here]
      exact kept.waiting task member
  · intro other another otherKind written
    change ((server.setEventType store kind).store another).eventType = _
    by_cases moved : other = poller
    · subst moved
      simp only [Server.setPoller_self] at written
      cases next.symm.trans written
      exact Server.eventType_setEventType_self _ _
    · simp only [Server.setPoller_of_ne moved] at written
      have different : another ≠ store := by
        rintro rfl
        exact moved
          (owned.held_unique (PollerPoint.held_of_announces written) held)
      rw [Server.eventType_setEventType_of_ne different]
      exact kept.written other another otherKind written
  · intro other admits
    change ((server.setEventType store kind).store other).eventType = _
    have different : other ≠ store := by
      rintro rfl
      exact may.1 admits
    rw [Server.eventType_setEventType_of_ne different]
    exact kept.admitting other admits

/-- A store is made, for the event of its connection. -/
theorem accepted {config : Config} {server : Server}
    (kept : KindsKept config server) (owned : Ownership server)
    (map : StoreMap server) {kernel : Kernel} {fd : Fd}
    {ssl : SSLPointer} :
    KindsKept config
      { server.makeStore kernel fd ssl with
          acceptThread := .admitting .initConnection server.accepted } := by
  have sameKind : ∀ store, server.lifetime store ≠ .unborn →
      ((server.makeStore kernel fd ssl).store store).eventType =
        (server.store store).eventType := by
    intro store made
    have different := Nat.ne_of_lt (map.made_lt store made)
    simp [Server.makeStore, Function.update_of_ne different]
  refine
    { waiting := ?_
      made := ?_
      written := ?_
      admitting := ?_
      delivered := kept.delivered }
  · intro task member
    exact (sameKind _ (kept.made task member)).trans
      (kept.waiting task member)
  · intro task member
    have made := kept.made task member
    have different := Nat.ne_of_lt (map.made_lt _ made)
    simp only [Server.makeStore, Function.update_of_ne different]
    exact made
  · intro poller store kind written
    have made := map.registered_made poller store
      (owned.held_with poller store
        (PollerPoint.held_of_announces written))
    exact (sameKind store made).trans
      (kept.written poller store kind written)
  · rintro store ⟨⟩
    simp [Server.makeStore]

/-! ## Steps -/

/-- Destruction does not unmake a store. -/
theorem changeLifetime {config : Config} {server : Server}
    (kept : KindsKept config server)
    (lifetime : ConnectionId → Lifetime)
    (made : ∀ store, server.lifetime store ≠ .unborn →
      lifetime store ≠ .unborn) :
    KindsKept config { server with lifetime := lifetime } :=
  { kept with
    made := fun task member => made _ (kept.made task member) }

theorem acceptStep {config : Config} {before after : Server}
    {choice : AcceptChoice} (kept : KindsKept config before)
    (owned : Ownership before) (map : StoreMap before)
    (taken : AcceptStep config before choice after) :
    KindsKept config after := by
  have move : ∀ {point : AcceptPoint} (next : AcceptPoint),
      before.acceptThread = point →
        (∀ store, next.store = some store → point.store = some store) →
        KindsKept config { before with acceptThread := next } := by
    rintro point next rfl fewer
    exact kept.moveAccept next fewer
  cases taken with
  | loop at_point =>
      apply move _ at_point
      split <;> simp [AcceptPoint.store]
  | report at_point =>
      exact { move .handleEvent at_point
        (by simp [AcceptPoint.store]) with }
  | timeout at_point => exact move _ at_point (by simp [AcceptPoint.store])
  | handleEvent at_point =>
      apply move _ at_point
      split <;> simp [AcceptPoint.store]
  | lock at_point free =>
      exact { move .accept at_point
        (by simp [AcceptPoint.store]) with }
  | acceptFailed lost at_point =>
      exact { move .unlock at_point
        (by simp [AcceptPoint.store]) with }
  | accepted fd ssl kernel at_point got => exact kept.accepted owned map
  | ntopFailed fd ssl kernel at_point got =>
      exact { move .unlock at_point
        (by simp [AcceptPoint.store]) with }
  | initConnection store outcome at_point =>
      have moved := move (.admitting .addSocket store) at_point
        (by simp [AcceptPoint.store])
      obtain ⟨ssl, result | result⟩ :=
        Server.initConnection_cases config before store outcome
      · rw [result]
        exact moved.changeStore fun other =>
          Server.eventType_setSSL store other ssl
      · rw [result]
        have closed : KindsKept config
            { before.closeDescriptor store with
                acceptThread := .admitting .addSocket store } :=
          { moved with }
        exact closed.changeStore fun other =>
          Server.eventType_setSSL store other ssl
  | registered store kernel at_point added =>
      exact { move
        (.admitting (.backPointer (before.nextIndex config)) store)
        at_point (by simp [AcceptPoint.store]) with }
  | refused store granted at_point =>
      exact { move (.admitting .insert store) at_point
        (by simp [AcceptPoint.store]) with }
  | backPointer poller store at_point =>
      have moved := move (.admitting .insert store) at_point
        (by simp [AcceptPoint.store])
      exact moved.changeStore fun other =>
        Server.eventType_setBackPointer store other poller
  | insert store at_point =>
      have moved := move (.admitting .enqueue store) at_point
        (by simp [AcceptPoint.store])
      exact { moved.changeLifetime (before.insertStore store).lifetime
        (fun _ => before.made_insertStore store) with }
  | enqueue store at_point =>
      have same := kept.admitting store (by rw [at_point]; rfl)
      have alive := map.admitting_alive _ store at_point
      have enqueued := kept.enqueueTask
        { eventStorePointer := store, origin := .accept } same
        (by simp [alive])
      exact enqueued.moveAccept .unlock (by simp [AcceptPoint.store])
  | unlock at_point =>
      exact { move .loop at_point
        (by simp [AcceptPoint.store]) with }

theorem pollerStep {config : Config} {before after : Server}
    {poller : PollerId} {choice : PollerChoice}
    (kept : KindsKept config before) (owned : Ownership before)
    (map : StoreMap before) (exclusive : MutualExclusion before)
    (allowed : keepsKinds config before (.poller poller choice))
    (taken : PollerStep config before poller choice after) :
    KindsKept config after := by
  have silent : ∀ point : PollerPoint, point.announces = none →
      KindsKept config (before.setPoller poller point) := by
    intro point quiet
    exact kept.movePoller poller point (by simp [quiet])
  have keeps : ∀ {point : PollerPoint} (next : PollerPoint),
      before.pollerThread poller = point →
        (∀ store kind, next.announces = some (store, kind) →
          point.announces = some (store, kind)) →
        KindsKept config (before.setPoller poller next) := by
    rintro point next rfl same
    exact kept.movePoller poller next fun store kind announced =>
      kept.written poller store kind (same store kind announced)
  have made : ∀ {stage store rest},
      before.pollerThread poller = .busy stage store rest →
        before.lifetime store ≠ .unborn := by
    intro stage store rest at_point
    exact map.registered_made poller store
      (owned.held_with poller store (before.held_of_busy at_point))
  cases taken with
  | loop at_point =>
      apply silent
      split <;> rfl
  | report reported entries kernel at_point waited =>
      exact { silent (.batch entries) rfl with }
  | timeout at_point => exact { silent .loop rfl with }
  | batchDone at_point => exact silent _ rfl
  | hangUp entry rest at_point flag => exact silent _ rfl
  | data entry rest at_point flag => exact silent _ rfl
  | skipped entry rest at_point => exact silent _ rfl
  | setIncoming store rest at_point =>
      have may : before.mayBecome config store .incomingData := by
        simpa only [keepsKinds, at_point] using allowed
      exact kept.setEventType owned at_point may rfl
  | dispatch store rest at_point =>
      have same := kept.written poller store .incomingData
        (by rw [at_point]; rfl)
      have enqueued := kept.enqueueTask
        { eventStorePointer := store, origin := .data } same (made at_point)
      exact { enqueued.movePoller poller (.batch rest) (by
        intro other kind impossible
        cases impossible) with }
  | lock store rest at_point free =>
      exact { silent (.busy .setClosed store rest) rfl with }
  | setClosed store rest at_point =>
      have may : before.mayBecome config store .closedConnection := by
        simpa only [keepsKinds, at_point] using allowed
      exact kept.setEventType owned at_point may rfl
  | noHandler store rest at_point handler_eq =>
      have set := owned.handler_of_busy exclusive at_point rfl
      cases handler_eq.symm.trans set
  | epollDel store rest handler at_point handler_eq =>
      exact { keeps (.busy .closeConnection store rest) at_point
        (fun _ _ announced => announced) with }
  | closeConnection store rest at_point =>
      have moved := keeps (.busy .enqueue store rest) at_point
        (fun _ _ announced => announced)
      rcases before.closeConnection_cases config store with
        result | result | result
      · rw [result]
        exact moved
      · rw [result]
        exact { moved with }
      · rw [result]
        have closed : KindsKept config
            ((before.closeDescriptor store).setPoller poller
              (.busy .enqueue store rest)) :=
          { moved with }
        exact closed.changeStore fun other =>
          Server.eventType_setSSL store other .null
  | enqueue store rest at_point =>
      have same := kept.written poller store .closedConnection
        (by rw [at_point]; rfl)
      have enqueued := kept.enqueueTask
        { eventStorePointer := store, origin := .removal } same
        (made at_point)
      exact enqueued.movePoller poller (.busy .erase store rest) (by
        intro other kind impossible
        cases impossible)
  | erase store rest at_point =>
      have moved := silent (.busy .unlock store rest) rfl
      exact { moved.changeLifetime (before.eraseStore store).lifetime
        (fun _ => before.made_eraseStore store) with }
  | unlock store rest at_point =>
      exact { silent (.batch rest) rfl with }

theorem workerStep {config : Config} {before after : Server}
    {worker : WorkerId} {choice : WorkerChoice}
    (kept : KindsKept config before) (bound : worker < config.numWorkers)
    (taken : WorkerStep config before worker choice after) :
    KindsKept config after := by
  -- a worker that moves without a new task leaves fewer tasks waiting
  have fewer : ∀ point task,
      point.waiting = none →
        task ∈ (before.setWorker worker point).undispatched config →
          task ∈ before.undispatched config := by
    intro point task quiet member
    rcases mem_undispatched.mp member with ⟨other, inside, holds⟩ | queued
    · refine mem_undispatched.mpr (.inl ⟨other, inside, ?_⟩)
      by_cases moved : other = worker
      · subst moved
        simp only [Server.setWorker_self] at holds
        rw [holds] at quiet
        cases quiet
      · simpa only [Server.setWorker_of_ne moved]
          using holds
    · exact mem_undispatched.mpr (.inr queued)
  have move : ∀ point : WorkerPoint, point.waiting = none →
      KindsKept config (before.setWorker worker point) := by
    intro point quiet
    exact
      { kept with
        waiting := fun task member =>
          kept.waiting task (fewer point task quiet member)
        made := fun task member =>
          kept.made task (fewer point task quiet member) }
  cases taken with
  | take task rest at_point queue =>
      have same : ∀ other,
          other ∈ ({ before.recordWorker (.take worker task) with
              tasks := rest }.setWorker worker (.taken task)).undispatched
                config →
            other ∈ before.undispatched config := by
        intro other member
        rcases mem_undispatched.mp member with
          ⟨another, inside, holds⟩ | queued
        · by_cases moved : another = worker
          · subst moved
            simp only [Server.setWorker_self] at holds
            cases holds
            refine mem_undispatched.mpr (.inr ?_)
            rw [queue]
            exact List.mem_cons_self
          · simp only [Server.setWorker,
              Function.update_of_ne moved] at holds
            exact mem_undispatched.mpr (.inl ⟨another, inside, holds⟩)
        · refine mem_undispatched.mpr (.inr ?_)
          rw [queue]
          exact List.mem_cons_of_mem _ queued
      refine
        { kept with
          waiting := fun other member => kept.waiting other (same other member)
          made := fun other member => kept.made other (same other member)
          delivered := ?_ }
      intro other otherTask kind member
      rcases List.mem_append.mp member with earlier | new
      · exact kept.delivered other otherTask kind earlier
      · cases List.mem_singleton.mp new
  | dispatch task at_point =>
      have waits : task ∈ before.undispatched config :=
        mem_undispatched.mpr (.inl ⟨worker, bound, at_point⟩)
      refine { move (.callback task none) rfl with delivered := ?_ }
      intro other otherTask kind member
      rcases List.mem_append.mp member with earlier | new
      · exact kept.delivered other otherTask kind earlier
      · cases List.mem_singleton.mp new
        exact kept.waiting task waits
  | call task request call at_point =>
      exact { move (.callback task (some call)) rfl with }
  | syscall choice task call next syscall result kernel transfers at_point
      transferred =>
      exact { move (.callback task (some next)) rfl with }
  | returnCall task call at_point =>
      exact { move (.callback task none) rfl with }
  | close task at_point may_close =>
      exact kept.closeConnection task.eventStorePointer
  | finish task at_point =>
      refine { move .idle rfl with delivered := ?_ }
      intro other otherTask kind member
      rcases List.mem_append.mp member with earlier | new
      · exact kept.delivered other otherTask kind earlier
      · cases List.mem_singleton.mp new

theorem stopStep {config : Config} {before after : Server}
    (kept : KindsKept config before)
    (taken : StopStep config before after) : KindsKept config after := by
  cases taken with
  | closeListening closed at_point closes =>
      obtain ⟨_, _, result⟩ := Server.closeListening_frame closes
      rw [result]
      exact { kept with }
  | closing store rest at_point =>
      exact { kept.closeConnection store with }
  | clear at_point =>
      exact { kept.changeLifetime before.clearStores.lifetime
        (fun _ => before.made_clearStores) with }
  | _ => exact { kept with }

end KindsKept

/-- In a run whose pollers never overwrite the kind of a waiting task, all
waiting tasks keep theirs. -/
theorem kindsKept_of_reached {config : Config} {server : Server}
    (reached : (tcpServer config).Reached (keepsKinds config) server) :
    KindsKept config server := by
  refine TransitionSystem.Reached.invariant ?_ ?_ reached
  · rintro state rfl
    exact KindsKept.start config
  · intro before action after earlier allowed taken kept
    have exclusive := mutualExclusion_of_reachable earlier.reachable
    have owned := ownership_of_reachable earlier.reachable
    have map := storeMap_of_reachable earlier.reachable
    cases serverStep_of_step taken with
    | network taken => cases taken <;> exact { kept with }
    | accept choice taken => exact kept.acceptStep owned map taken
    | poller poller choice bound taken =>
        exact kept.pollerStep owned map exclusive allowed taken
    | worker worker choice bound taken => exact kept.workerStep bound taken
    | stop taken => exact kept.stopStep taken

/-! ## What a connection's receiver is told -/

/-- The kind of a callback for one store. -/
def WorkerEvent.kindFor (store : ConnectionId) :
    WorkerEvent → Option EventType
  | .callback _ task kind =>
      if task.eventStorePointer = store then some kind else none
  | _ => none

/-- The kinds of the callbacks started for one store, in order. -/
def Server.callbackKinds (server : Server) (store : ConnectionId) :
    List EventType :=
  server.workerTrace.filterMap (·.kindFor store)

theorem kinds_of_delivered {trace : List WorkerEvent}
    (delivered : ∀ worker task kind, .callback worker task kind ∈ trace →
      kind = task.origin.eventType) (store : ConnectionId) :
    trace.filterMap (·.kindFor store) =
      (origins (trace.filterMap (·.dispatched)) store).map
        TaskOrigin.eventType := by
  induction trace with
  | nil => rfl
  | cons event rest inductionHypothesis =>
      have tail := inductionHypothesis fun worker task kind member =>
        delivered worker task kind (List.mem_cons_of_mem _ member)
      cases event with
      | take worker task =>
          simpa [WorkerEvent.kindFor, WorkerEvent.dispatched] using tail
      | finish worker task =>
          simpa [WorkerEvent.kindFor, WorkerEvent.dispatched] using tail
      | callback worker task kind =>
          have right := delivered worker task kind List.mem_cons_self
          have started :
              (WorkerEvent.callback worker task kind).dispatched =
                some task := rfl
          rw [List.filterMap_cons_some started, origins_cons]
          by_cases here : task.eventStorePointer = store
          · have counted :
                (WorkerEvent.callback worker task kind).kindFor store =
                  some kind := if_pos here
            rw [List.filterMap_cons_some counted, if_pos here, tail, right]
            rfl
          · have skipped :
                (WorkerEvent.callback worker task kind).kindFor store =
                  none := if_neg here
            rw [List.filterMap_cons_none skipped, if_neg here, tail]

/-- Callbacks of a kind are as many as the tasks enqueued for it, once all
tasks of the connection have been dispatched. -/
theorem KindsKept.count_callbackKinds {config : Config} {server : Server}
    (kept : KindsKept config server) (queue : TaskQueue config server)
    {connection : ConnectionId}
    (drained : ∀ task ∈ server.undispatched config,
      task.eventStorePointer ≠ connection) (origin : TaskOrigin) :
    (server.callbackKinds connection).count origin.eventType =
      (server.taskOrigins connection).count origin := by
  have kinds : server.callbackKinds connection =
      (origins server.dispatchedTasks connection).map TaskOrigin.eventType :=
    kinds_of_delivered kept.delivered connection
  have same := origins_perm queue.enqueued_perm connection
  rw [origins_append, origins_eq_nil drained, List.append_nil] at same
  rw [kinds, List.count_map_of_injective _ _ TaskOrigin.eventType_injective,
    Server.taskOrigins, same.count_eq]

/-- In a run whose pollers never overwrite the kind of a waiting task, every
callback has the kind its task was raised for.  A connection whose tasks have
all been dispatched has had one callback for its accept, one for each data
task, and one for its removal if there was a removal. -/
theorem callbacks_match_events {config : Config} {server : Server}
    (reached : (tcpServer config).Reached (keepsKinds config) server) :
    (∀ worker task kind, .callback worker task kind ∈ server.workerTrace →
        kind = task.origin.eventType) ∧
      ∀ connection, server.lifetime connection ≠ .unborn →
        (∀ stage, server.acceptThread ≠ .admitting stage connection) →
        (∀ task ∈ server.undispatched config,
          task.eventStorePointer ≠ connection) →
          (server.callbackKinds connection).count .newConnection = 1 ∧
            (server.callbackKinds connection).count .incomingData =
              (server.taskOrigins connection).count .data ∧
            (server.callbackKinds connection).count .closedConnection =
              if server.phase connection = some .removed then 1 else 0 := by
  have kept := kindsKept_of_reached reached
  have queue := taskQueue_of_reachable reached.reachable
  have order := taskOrder_of_reachable reached.reachable
  refine ⟨kept.delivered, ?_⟩
  intro connection made finished drained
  have counts := kept.count_callbackKinds queue drained
  obtain ⟨phase, at_phase⟩ :=
    Option.ne_none_iff_exists'.mp (order.followed connection)
  have announced : phase ≠ .pending := by
    rintro rfl
    rcases (order.pending connection).mp at_phase with
      unborn | ⟨stage, admitting⟩
    · exact made unborn
    · exact finished stage admitting
  refine ⟨?_, ?_, ?_⟩
  · refine (counts .accept).trans ?_
    rw [count_accept_of_phaseAfter at_phase, if_neg announced]
  · exact counts .data
  · refine (counts .removal).trans ?_
    rw [count_removal_of_phaseAfter at_phase, at_phase]
    simp

/-- A connection whose worker is prompt: accept, data and removal are each
dispatched before the next event is raised. -/
theorem callbacks_match_events_prompt :
    ∃ server,
      (tcpServer .single).Reached (keepsKinds .single) server ∧
        server.callbackKinds 0 =
          [.newConnection, .incomingData, .closedConnection] ∧
        (server.callbackKinds 0).count .newConnection = 1 ∧
        (server.callbackKinds 0).count .incomingData =
          (server.taskOrigins 0).count .data ∧
        (server.callbackKinds 0).count .closedConnection =
          if server.phase 0 = some .removed then 1 else 0 := by
  obtain ⟨server, reached, kinds, made, idle, drained⟩ :=
    exists_server_of_replay .single (keepsKinds .single)
      (fun server => server.callbackKinds 0 =
          [.newConnection, .incomingData, .closedConnection] ∧
        server.lifetime 0 ≠ .unborn ∧ server.acceptThread = .loop ∧
        server.undispatched .single = [])
      (connectAndAdmit 4 ++ runTask 0 ++ [.segment 0 5] ++ pollOne 0 0 ++
        handleData 0 ++ runTask 0 ++ [.hangUp 0 .halfClose] ++
        pollOne 0 0 ++ handleHangUp 0 ++ runTask 0)
      (by decide)
  refine ⟨server, reached, kinds, ?_⟩
  apply (callbacks_match_events reached).2 0 made
  · simp [idle]
  · simp [drained]

/-- Data that arrives before a worker takes the accept task turns its callback
into a data callback. -/
theorem callback_of_wrong_kind :
    ¬ ∀ server, (tcpServer .single).Reachable server →
        ∀ worker task kind, .callback worker task kind ∈ server.workerTrace →
          kind = task.origin.eventType := by
  intro faithful
  obtain ⟨server, reachable, delivered⟩ :=
    exists_server_of_replay .single (fun _ _ => True)
      (fun server =>
        .callback 0 { eventStorePointer := 0, origin := .accept }
          .incomingData ∈ server.workerTrace)
      (connectAndAdmit 4 ++ [.segment 0 5] ++ pollOne 0 0 ++ handleData 0 ++
        runTask 0)
      (by decide)
  cases faithful server reachable 0 _ _ delivered

end EventPlus

/-
Module: EventPlus.Server.Delivery
Purpose: Edge-triggered delivery with the plain handler: where the wake-up for
  unread bytes is, at every moment between their arrival and the return of the
  `receiveData` that reads them.
Trusted boundary: the kernel's answers to `FIONREAD` and `read`, as permitted
  here
Main exports:
  Callback, receiveProgress, deliveringServer, delivers, Token, Delivered,
  delivered_of_reached, unread_not_stranded, unread_while_removing
-/
import EventPlus.Server.EventMarks
import EventPlus.Server.TaskQueue
import EventPlus.Server.WorkerCalls

namespace EventPlus

open Function (update)

/-! ## How far a callback is -/

/-- A worker between the entry of a callback and its return.  `entered` is a
`dataEvent` that has not called `receiveData` yet, `receiving` one inside its
first `receiveData`, `received` one that has finished it. -/
inductive Callback where
  | outside
  | otherEvent
  | entered
  | receiving
  | received
deriving Repr, DecidableEq

/-- The history of the workers' callbacks. -/
def receiveProgress (server : Server) (action : Action)
    (callback : WorkerId → Callback) : WorkerId → Callback :=
  match action with
  | .worker worker .dispatch =>
      match server.workerThread worker with
      | .taken task =>
          if (server.store task.eventStorePointer).eventType =
              .incomingData then
            update callback worker .entered
          else update callback worker .otherEvent
      | _ => callback
  | .worker worker (.call .receiveData) =>
      if callback worker = .entered then update callback worker .receiving
      else callback
  | .worker worker .returnCall =>
      if callback worker = .receiving then update callback worker .received
      else callback
  | .worker worker .finish => update callback worker .outside
  | _ => callback

/-- A worker's step is about its own callback. -/
theorem receiveProgress_of_ne (server : Server) {worker other : WorkerId}
    (choice : WorkerChoice) (callback : WorkerId → Callback)
    (different : other ≠ worker) :
    receiveProgress server (.worker worker choice) callback other =
      callback other := by
  cases choice with
  | dispatch =>
      simp only [receiveProgress]
      cases server.workerThread worker with
      | taken task =>
          dsimp only
          split
          · exact Function.update_of_ne different _ _
          · exact Function.update_of_ne different _ _
      | _ => rfl
  | call request =>
      cases request with
      | receiveData =>
          simp only [receiveProgress]
          split
          · exact Function.update_of_ne different _ _
          · rfl
      | _ => rfl
  | returnCall =>
      simp only [receiveProgress]
      split
      · exact Function.update_of_ne different _ _
      · rfl
  | finish => exact Function.update_of_ne different _ _
  | _ => rfl

/-- Requests other than `receiveData` count for nothing. -/
theorem receiveProgress_call (server : Server) (worker : WorkerId)
    {request : Request} (other : request ≠ .receiveData)
    (callback : WorkerId → Callback) :
    receiveProgress server (.worker worker (.call request)) callback =
      callback := by
  cases request with
  | receiveData => exact absurd rfl other
  | _ => rfl

/-- The server with the progress of its workers' callbacks. -/
abbrev deliveringServer (config : Config) :
    TransitionSystem (Server × (WorkerId → Callback)) Action :=
  (tcpServer config).observed receiveProgress fun _ => .outside

/-- What the kernel answers for an open client descriptor: `FIONREAD` gives the
number of unread bytes, and a `read` takes at least one byte, or is
interrupted, while there are any. -/
def Kernel.answers (kernel : Kernel) (fd : Fd) (syscall : Syscall)
    (result : SysResult) : Prop :=
  ∀ connection, kernel.file fd = some (.client connection) →
    match syscall with
    | .ioctlFIONREAD =>
        result = .available (kernel.socket connection).unread
    | .read _ =>
        0 < (kernel.socket connection).unread →
          result = .error .EINTR ∨ ∃ data, data ≠ [] ∧ result = .bytes data
    | .send _ => True

/-- Before shutdown, with a receiver whose `dataEvent` calls `receiveData`
before it returns, and a kernel that answers as `Kernel.answers` says. -/
def delivers (state : Server × (WorkerId → Callback)) : Action → Prop
  | .stop => False
  | .worker worker .finish => state.2 worker ≠ .entered
  | .worker worker (.syscall result) =>
      ∀ task call syscall,
        state.1.workerThread worker = .callback task (some call) →
          call.syscall = some syscall →
            state.1.kernel.answers (state.1.fd task.eventStorePointer) syscall
              result
  | _ => True

/-- The entries a poller has still to take through `handleEvent` or to the
first line of `removeSocket`. -/
def PollerPoint.unprocessed : PollerPoint → List ConnectionId
  | .batch rest => rest.map (·.store)
  | .busy .handleEvent store rest | .busy .dispatch store rest
  | .busy .removeSocket store rest => store :: rest.map (·.store)
  | .busy _ _ rest => rest.map (·.store)
  | _ => []

/-- Where the wake-up for a connection's unread bytes can be.  The last place
is a `receiveData` whose size covers all bytes that are still unread. -/
inductive Token (state : Server × (WorkerId → Callback)) (poller : PollerId)
    (connection : ConnectionId) : Prop where
  | edge (pending : (state.1.kernel.socket connection).edge = true)
  | batch (member :
      connection ∈ (state.1.pollerThread poller).unprocessed)
  | task (queued : state.1.DataTask connection)
  | entered (worker : WorkerId) (task : IOTask) (call : Option Call)
      (at_point : state.1.workerThread worker = .callback task call)
      (same : task.eventStorePointer = connection)
      (progress : state.2 worker = .entered)
  | sizing (worker : WorkerId) (task : IOTask)
      (at_point : state.1.workerThread worker = .callback task (some .sizing))
      (same : task.eventStorePointer = connection)
      (progress : state.2 worker = .receiving)
  | reading (worker : WorkerId) (task : IOTask) (dataSize : Nat)
      (buffer : List UInt8)
      (at_point : state.1.workerThread worker =
        .callback task (some (.reading dataSize buffer)))
      (same : task.eventStorePointer = connection)
      (progress : state.2 worker = .receiving)
      (covers : (state.1.kernel.socket connection).unread + buffer.length ≤
        dataSize)

/-- Every registered connection with unread bytes that is not being removed has
its wake-up somewhere, and the pollers run. -/
structure Delivered (state : Server × (WorkerId → Callback)) : Prop where
  polling : ∀ poller, state.1.continuePolling poller = true
  token : ∀ poller connection,
    connection ∈ state.1.kernel.registered poller →
      ¬state.1.Removing connection →
        0 < (state.1.kernel.socket connection).unread →
          Token state poller connection

/-! ## What keeps a token -/

section Keep

variable {before after : Server} {callback : WorkerId → Callback}
  {poller : PollerId} {connection : ConnectionId}

/-- No worker moves, no task goes and no byte comes. -/
theorem Token.keep (token : Token (before, callback) poller connection)
    (edge : (before.kernel.socket connection).edge = true →
      (after.kernel.socket connection).edge = true ∨
        connection ∈ (after.pollerThread poller).unprocessed)
    (batch : connection ∈ (before.pollerThread poller).unprocessed →
      connection ∈ (after.pollerThread poller).unprocessed ∨
        after.DataTask connection)
    (tasks : ∀ task ∈ before.tasks, task ∈ after.tasks)
    (workers : after.workerThread = before.workerThread)
    (unread : (after.kernel.socket connection).unread ≤
      (before.kernel.socket connection).unread) :
    Token (after, callback) poller connection := by
  cases token with
  | edge pending =>
      rcases edge pending with still | reported
      · exact .edge still
      · exact .batch reported
  | batch member =>
      rcases batch member with still | queued
      · exact .batch still
      · exact .task queued
  | task queued =>
      obtain ⟨given, same, origin, member | ⟨worker, holds⟩⟩ := queued
      · exact .task ⟨given, same, origin, .inl (tasks given member)⟩
      · refine .task ⟨given, same, origin, .inr ⟨worker, ?_⟩⟩
        exact (congrFun workers worker).trans holds
  | entered worker given call at_point same progress =>
      exact .entered worker given call
        ((congrFun workers worker).trans at_point) same progress
  | sizing worker given at_point same progress =>
      exact .sizing worker given ((congrFun workers worker).trans at_point)
        same progress
  | reading worker given dataSize buffer at_point same progress covers =>
      exact .reading worker given dataSize buffer
        ((congrFun workers worker).trans at_point) same progress
        (Nat.le_trans (Nat.add_le_add_right unread _) covers)

/-- Every connection either has an edge or is as it was. -/
theorem Delivered.keep (delivered : Delivered (before, callback))
    (polling : after.continuePolling = before.continuePolling)
    (pollers : after.pollerThread = before.pollerThread)
    (tasks : ∀ task ∈ before.tasks, task ∈ after.tasks)
    (workers : after.workerThread = before.workerThread)
    (sockets : ∀ poller connection,
      connection ∈ after.kernel.registered poller →
        0 < (after.kernel.socket connection).unread →
          (after.kernel.socket connection).edge = true ∨
            connection ∈ before.kernel.registered poller ∧
              (after.kernel.socket connection).unread ≤
                (before.kernel.socket connection).unread ∧
              ((before.kernel.socket connection).edge = true →
                (after.kernel.socket connection).edge = true)) :
    Delivered (after, callback) where
  polling := by
    intro poller
    exact (congrFun polling poller).trans (delivered.polling poller)
  token := by
    intro poller connection member kept unread
    rcases sockets poller connection member unread with
      edge | ⟨earlier, fewer, edge⟩
    · exact .edge edge
    · have unremoved : ¬before.Removing connection := by
        rintro ⟨remover, rest, there⟩
        apply kept
        refine ⟨remover, rest, ?_⟩
        rw [pollers]
        exact there
      have token := delivered.token poller connection earlier unremoved
        (Nat.lt_of_lt_of_le unread fewer)
      apply token.keep
      · exact fun pending => .inl (edge pending)
      · rw [pollers]
        exact .inl
      · exact tasks
      · exact workers
      · exact fewer

/-- A poller moves, and hands over or keeps what it has not processed. -/
theorem Delivered.movePoller (delivered : Delivered (before, callback))
    (mover : PollerId) (point : PollerPoint)
    (batch : ∀ connection,
      ¬(before.setPoller mover point).Removing connection →
        connection ∈ (before.pollerThread mover).unprocessed →
          connection ∈ point.unprocessed)
    (removing : ∀ poller connection,
      connection ∈ before.kernel.registered poller →
        before.Removing connection →
          (before.setPoller mover point).Removing connection) :
    Delivered (before.setPoller mover point, callback) where
  polling := delivered.polling
  token := by
    intro poller connection member kept unread
    have unremoved : ¬before.Removing connection :=
      mt (removing poller connection member) kept
    have token := delivered.token poller connection member unremoved unread
    apply token.keep
    · exact .inl
    · intro unprocessed
      left
      by_cases same : poller = mover
      · rw [same] at unprocessed ⊢
        simp only [Server.setPoller_self]
        exact batch connection kept unprocessed
      · simp only [Server.setPoller_of_ne same]
        exact unprocessed
    · exact fun _ => id
    · rfl
    · exact Nat.le_refl _

/-- A removal at work stays at work while another poller moves, or the poller
itself elsewhere. -/
theorem Server.removing_setPoller (server : Server) {mover : PollerId}
    {old : PollerPoint} (at_point : server.pollerThread mover = old)
    (outside : ∀ rest, old ≠ .busy .setClosed connection rest ∧
      old ≠ .busy .epollDel connection rest)
    (point : PollerPoint) (removing : server.Removing connection) :
    (server.setPoller mover point).Removing connection := by
  obtain ⟨remover, rest, there⟩ := removing
  have different : remover ≠ mover := by
    rintro rfl
    rcases there with there | there
    · exact (outside rest).1 (at_point.symm.trans there)
    · exact (outside rest).2 (at_point.symm.trans there)
  refine ⟨remover, rest, ?_⟩
  simp only [Server.setPoller_of_ne different]
  exact there

end Keep

/-! ## Arrivals and admissions -/

/-- A registration announces the bytes that wait already. -/
theorem Kernel.edge_of_epollCtlAdd {kernel after : Kernel} {adder : PollerId}
    {fd : Fd} (added : kernel.epollCtlAdd adder fd = some after)
    {poller : PollerId} {connection : ConnectionId}
    (member : connection ∈ after.registered poller)
    (unread : 0 < (after.socket connection).unread) :
    (after.socket connection).edge = true ∨
      connection ∈ kernel.registered poller ∧
        (after.socket connection).unread ≤
          (kernel.socket connection).unread ∧
        ((kernel.socket connection).edge = true →
          (after.socket connection).edge = true) := by
  unfold Kernel.epollCtlAdd at added
  split at added
  · rename_i added_connection denotes
    split at added
    · cases added
      by_cases same : connection = added_connection
      · left
        subst same
        simp only [Function.update_self] at unread ⊢
        change 0 < (kernel.socket connection).unread at unread
        simp [Kernel.event, unread]
      · right
        simp only [Function.update_of_ne same]
        refine ⟨?_, Nat.le_refl _, id⟩
        by_cases here : poller = adder
        · simp only [here, Function.update_self, List.mem_append,
            List.mem_singleton] at member ⊢
          exact member.resolve_right same
        · simp only [Function.update_of_ne here] at member
          exact member
    · cases added
  · cases added

namespace Delivered

variable {config : Config} {before after : Server}
  {callback : WorkerId → Callback}

theorem start (config : Config) :
    Delivered (Server.start config, fun _ => .outside) where
  polling := fun _ => rfl
  token := by
    intro poller connection member
    cases member

/-- Changes to what no token is about. -/
theorem congr (delivered : Delivered (before, callback))
    (polling : after.continuePolling = before.continuePolling)
    (pollers : after.pollerThread = before.pollerThread)
    (tasks : after.tasks = before.tasks)
    (workers : after.workerThread = before.workerThread)
    (socket : after.kernel.socket = before.kernel.socket)
    (registered : ∀ poller connection,
      connection ∈ after.kernel.registered poller →
        connection ∈ before.kernel.registered poller) :
    Delivered (after, callback) := by
  refine delivered.keep polling pollers ?_ workers ?_
  · rw [tasks]
    exact fun _ => id
  · intro poller connection member unread
    rw [socket]
    exact .inr ⟨registered poller connection member, Nat.le_refl _, id⟩

/-- Every arrival sets the edge. -/
theorem networkStep {action : Action} (delivered : Delivered (before, callback))
    (taken : NetworkStep before action after) :
    Delivered (after, callback) := by
  cases taken with
  | connect =>
      refine delivered.keep rfl rfl (fun _ => id) rfl ?_
      intro poller connection member unread
      exact .inr ⟨member, Nat.le_refl _, id⟩
  | segment arrived count still_open =>
      refine delivered.keep rfl rfl (fun _ => id) rfl ?_
      intro poller connection member unread
      by_cases same : connection = arrived
      · left
        simp [Kernel.segment, same]
      · right
        simp only [Kernel.segment, Function.update_of_ne same]
        exact ⟨member, Nat.le_refl _, id⟩
  | hangUp closed cause =>
      refine delivered.keep rfl rfl (fun _ => id) rfl ?_
      intro poller connection member unread
      by_cases same : connection = closed
      · left
        simp [Kernel.hangUp, same]
      · right
        simp only [Kernel.hangUp, Function.update_of_ne same]
        exact ⟨member, Nat.le_refl _, id⟩

/-- Closing a number changes no socket and adds no registration. -/
theorem closeDescriptor (delivered : Delivered (before, callback))
    (store : ConnectionId) :
    Delivered (before.closeDescriptor store, callback) :=
  delivered.congr rfl rfl rfl rfl (Kernel.close_socket _ _)
    fun _ _ member => (Kernel.mem_close_registered.mp member).1

/-- No token is about the fields of the stores. -/
theorem changeStore (delivered : Delivered (before, callback))
    (stores : ConnectionId → EventStorePointer) :
    Delivered ({ before with store := stores }, callback) :=
  delivered.congr rfl rfl rfl rfl rfl fun _ _ => id

theorem closeConnection (delivered : Delivered (before, callback))
    (config : Config) (store : ConnectionId) :
    Delivered (before.closeConnection config store, callback) := by
  rcases before.closeConnection_cases config store with
    result | result | result
  · rw [result]
    exact delivered
  · rw [result]
    exact delivered.closeDescriptor store
  · rw [result]
    exact (delivered.closeDescriptor store).changeStore _

/-- A changed kernel with the same sockets and registrations. -/
theorem changeKernel (delivered : Delivered (before, callback))
    {kernel : Kernel} (socket : kernel.socket = before.kernel.socket)
    (registered : kernel.registered = before.kernel.registered) :
    Delivered ({ before with kernel := kernel }, callback) := by
  refine delivered.congr rfl rfl rfl rfl socket ?_
  intro poller connection member
  rw [← registered]
  exact member

theorem enqueueTask (delivered : Delivered (before, callback))
    (task : IOTask) : Delivered (before.enqueueTask task, callback) := by
  refine delivered.keep rfl rfl ?_ rfl ?_
  · intro earlier member
    exact List.mem_append_left _ member
  · intro poller connection member unread
    exact .inr ⟨member, Nat.le_refl _, id⟩

theorem acceptStep {choice : AcceptChoice}
    (delivered : Delivered (before, callback))
    (taken : AcceptStep config before choice after) :
    Delivered (after, callback) := by
  cases taken with
  | accepted fd ssl kernel at_point got =>
      obtain ⟨-, rfl⟩ := Kernel.accept_spec got
      exact delivered.congr rfl rfl rfl rfl rfl fun _ _ => id
  | ntopFailed fd ssl kernel at_point got =>
      obtain ⟨-, rfl⟩ := Kernel.accept_spec got
      exact delivered.congr rfl rfl rfl rfl rfl fun _ _ => id
  | initConnection store outcome at_point =>
      obtain ⟨ssl, result | result⟩ :=
        before.initConnection_cases config store outcome
      · rw [result]
        exact delivered.congr rfl rfl rfl rfl rfl fun _ _ => id
      · rw [result]
        exact (delivered.closeDescriptor store).congr rfl rfl rfl rfl rfl
          fun _ _ => id
  | registered store kernel at_point added =>
      refine delivered.keep rfl rfl (fun _ => id) rfl ?_
      intro poller connection member unread
      exact Kernel.edge_of_epollCtlAdd added member unread
  | enqueue store at_point =>
      exact (delivered.enqueueTask _).congr rfl rfl rfl rfl rfl
        fun _ _ => id
  | _ => exact delivered.congr rfl rfl rfl rfl rfl fun _ _ => id

/-! ## Pollers -/

/-- A poller goes on with what it has not processed, away from the lines that
take a connection out of epoll. -/
theorem movePollerOutside (delivered : Delivered (before, callback))
    {mover : PollerId} {old point : PollerPoint}
    (at_point : before.pollerThread mover = old)
    (outside : ∀ connection rest, old ≠ .busy .setClosed connection rest ∧
      old ≠ .busy .epollDel connection rest)
    (batch : ∀ connection ∈ old.unprocessed,
      connection ∈ point.unprocessed) :
    Delivered (before.setPoller mover point, callback) := by
  apply delivered.movePoller
  · intro connection _ member
    rw [at_point] at member
    exact batch connection member
  · intro poller connection _ removing
    exact before.removing_setPoller at_point (outside connection) point
      removing

/-- `epoll_wait` trades edges for entries. -/
theorem report (delivered : Delivered (before, callback))
    (owned : Ownership before) {mover : PollerId}
    {reported : List ConnectionId} {entries : List EpollEvent}
    {kernel : Kernel} (at_point : before.pollerThread mover = .epollWait)
    (waited :
      before.kernel.epollWait mover reported = some (entries, kernel)) :
    Delivered
      ({ before with kernel := kernel }.setPoller mover (.batch entries),
        callback) where
  polling := delivered.polling
  token := by
    intro poller connection member kept unread
    unfold Kernel.epollWait at waited
    split at waited
    · rename_i guard
      cases waited
      have registered : connection ∈ before.kernel.registered poller := member
      have same_unread : ∀ other,
          ((if other ∈ reported then
              { before.kernel.socket other with edge := false }
            else before.kernel.socket other) : Socket).unread =
            (before.kernel.socket other).unread := by
        intro other
        split <;> rfl
      have unremoved : ¬before.Removing connection := by
        intro removing
        apply kept
        exact before.removing_setPoller at_point
          (by simp) _ removing
      have had_unread :
          0 < (before.kernel.socket connection).unread := by
        rw [← same_unread connection]
        exact unread
      have token := delivered.token poller connection registered unremoved
        had_unread
      apply token.keep
      · intro pending
        by_cases here : connection ∈ reported
        · right
          have mine : poller = mover := by
            have one := owned.registered_with poller connection registered
            have other := owned.watched_with mover connection
              (guard.2.2.2 connection here)
            exact Option.some.inj (one.symm.trans other)
          simp only [mine, Server.setPoller_self,
            PollerPoint.unprocessed, List.map_map]
          exact List.mem_map.mpr ⟨connection, here, rfl⟩
        · left
          simp only [Server.setPoller, if_neg here]
          exact pending
      · intro unprocessed
        left
        by_cases same : poller = mover
        · rw [same, at_point] at unprocessed
          cases unprocessed
        · simp only [Server.setPoller_of_ne same]
          exact unprocessed
      · exact fun _ => id
      · rfl
      · exact Nat.le_of_eq (same_unread connection)
    · cases waited

/-- The task of the entry in hand takes the place of the entry. -/
theorem dispatch (delivered : Delivered (before, callback))
    {mover : PollerId} {store : ConnectionId} {rest : List EpollEvent}
    {offered : ConnectionId → Nat}
    (at_point : before.pollerThread mover = .busy .dispatch store rest) :
    Delivered
      ({ before.enqueueTask
            { eventStorePointer := store, origin := .data } with
          offered := offered }.setPoller mover (.batch rest), callback) where
  polling := delivered.polling
  token := by
    intro poller connection member kept unread
    have unremoved : ¬before.Removing connection := by
      intro removing
      apply kept
      exact before.removing_setPoller at_point (by simp) _
        removing
    have token := delivered.token poller connection member unremoved unread
    apply token.keep
    · exact .inl
    · intro unprocessed
      by_cases same : poller = mover
      · rw [same, at_point] at unprocessed
        rcases List.mem_cons.mp unprocessed with mine | later
        · right
          refine ⟨{ eventStorePointer := store, origin := .data }, mine.symm,
            rfl, .inl ?_⟩
          exact List.mem_append_right _ (List.mem_singleton_self _)
        · left
          simp only [same, Server.setPoller_self]
          exact later
      · left
        simp only [Server.setPoller_of_ne same]
        exact unprocessed
    · intro task queued
      exact List.mem_append_left _ queued
    · rfl
    · exact Nat.le_refl _

/-- With its flag set, a poller drops no entry. -/
theorem not_skipped {server : Server} {poller : PollerId} {entry : EpollEvent}
    {rest : List EpollEvent}
    (polling : server.continuePolling poller = true)
    (at_point : server.pollerThread poller = .batch (entry :: rest)) :
    EventPlus.pollerStep config server poller .proceed ≠
      some (server.setPoller poller (.batch rest)) := by
  intro taken
  simp only [EventPlus.pollerStep, at_point, polling, if_true] at taken
  split at taken
  · have there := congrArg (·.pollerThread poller) (Option.some.inj taken)
    simp [Server.setPoller] at there
  · have there := congrArg (·.pollerThread poller) (Option.some.inj taken)
    simp [Server.setPoller] at there

/-- `removeSocket` takes the mutex, and the connection is being removed from
now on. -/
theorem lock (delivered : Delivered (before, callback)) {mover : PollerId}
    {store : ConnectionId} {rest : List EpollEvent}
    (at_point : before.pollerThread mover = .busy .removeSocket store rest) :
    Delivered
      (before.setPoller mover (.busy .setClosed store rest), callback) := by
  apply delivered.movePoller
  · intro connection kept member
    rw [at_point] at member
    rcases List.mem_cons.mp member with mine | later
    · rw [mine] at kept
      exact absurd ⟨mover, rest, .inl (Function.update_self _ _ _)⟩ kept
    · exact later
  · intro poller connection _ removing
    exact before.removing_setPoller at_point (by simp) _ removing

theorem setClosed (delivered : Delivered (before, callback))
    {mover : PollerId} {store : ConnectionId} {rest : List EpollEvent}
    (at_point : before.pollerThread mover = .busy .setClosed store rest) :
    Delivered
      (before.setPoller mover (.busy .epollDel store rest), callback) := by
  apply delivered.movePoller
  · intro connection _ member
    rw [at_point] at member
    exact member
  · rintro poller connection _ ⟨remover, later, there⟩
    by_cases same : remover = mover
    · rw [same] at there
      have mine : connection = store := by
        rcases there with there | there
        · cases at_point.symm.trans there
          rfl
        · cases at_point.symm.trans there
      rw [mine]
      exact ⟨mover, rest, .inr (Function.update_self _ _ _)⟩
    · refine ⟨remover, later, ?_⟩
      simp only [Server.setPoller_of_ne same]
      exact there

/-- With its registration gone, the connection needs no token. -/
theorem epollDel (delivered : Delivered (before, callback))
    {mover handler : PollerId} {store : ConnectionId} {rest : List EpollEvent}
    (at_point : before.pollerThread mover = .busy .epollDel store rest)
    (deleted : ∀ other,
      store ∉
        (before.kernel.epollCtlDel handler (before.fd store)).registered
          other) :
    Delivered
      ({ before with
          kernel :=
            before.kernel.epollCtlDel handler (before.fd store) }.setPoller
        mover (.busy .closeConnection store rest), callback) := by
  have unregistered : Delivered
      ({ before with
          kernel :=
            before.kernel.epollCtlDel handler (before.fd store) },
        callback) :=
    delivered.congr rfl rfl rfl rfl (Kernel.epollCtlDel_socket _ _ _)
      fun _ _ member => (Kernel.mem_epollCtlDel_registered.mp member).1
  apply unregistered.movePoller
  · intro connection _ member
    change connection ∈ (before.pollerThread mover).unprocessed at member
    rw [at_point] at member
    exact member
  · rintro poller connection member ⟨remover, later, there⟩
    have different : remover ≠ mover := by
      rintro rfl
      rcases there with there | there
      · cases at_point.symm.trans there
      · cases at_point.symm.trans there
        exact deleted poller member
    refine ⟨remover, later, ?_⟩
    simp only [Server.setPoller_of_ne different]
    exact there

theorem pollerStep {poller : PollerId} {choice : PollerChoice}
    (delivered : Delivered (before, callback)) (owned : Ownership before)
    (exclusive : MutualExclusion before)
    (taken : EventPlus.pollerStep config before poller choice = some after) :
    Delivered (after, callback) := by
  cases pollerStep_of_some taken with
  | loop at_point =>
      apply delivered.movePollerOutside at_point
      · simp
      · simp [PollerPoint.unprocessed]
  | report reported entries kernel at_point waited =>
      exact delivered.report owned at_point waited
  | timeout at_point =>
      have returned : Delivered
          ({ before with kernel := before.kernel.epollReturns poller },
            callback) :=
        delivered.congr rfl rfl rfl rfl rfl fun _ _ => id
      apply returned.movePollerOutside at_point
      · simp
      · simp [PollerPoint.unprocessed]
  | batchDone at_point =>
      apply delivered.movePollerOutside at_point
      · simp
      · simp [PollerPoint.unprocessed]
  | hangUp entry rest at_point flag =>
      apply delivered.movePollerOutside at_point
      · simp
      · exact fun _ => id
  | data entry rest at_point flag =>
      apply delivered.movePollerOutside at_point
      · simp
      · exact fun _ => id
  | skipped entry rest at_point =>
      exact absurd taken
        (not_skipped (delivered.polling poller) at_point)
  | setIncoming store rest at_point =>
      refine (delivered.changeStore _).movePollerOutside at_point ?_ ?_
      · simp
      · exact fun _ => id
  | dispatch store rest at_point => exact delivered.dispatch at_point
  | lock store rest at_point free =>
      exact (delivered.lock at_point).congr rfl rfl rfl rfl rfl fun _ _ => id
  | setClosed store rest at_point =>
      exact (delivered.setClosed at_point).changeStore _
  | noHandler store rest at_point handler_eq =>
      have set := owned.handler_of_busy exclusive at_point rfl
      cases handler_eq.symm.trans set
  | epollDel store rest handler at_point handler_eq =>
      have deleted := owned.not_mem_epollCtlDel exclusive at_point rfl
        handler_eq
      exact (delivered.epollDel at_point deleted).congr rfl rfl rfl rfl rfl
        fun _ _ => id
  | closeConnection store rest at_point =>
      have there :
          (before.closeConnection config store).pollerThread poller =
            .busy .closeConnection store rest := by
        rw [before.pollerThread_closeConnection]
        exact at_point
      apply (delivered.closeConnection config store).movePollerOutside there
      · simp
      · exact fun _ => id
  | enqueue store rest at_point =>
      refine (delivered.enqueueTask _).movePollerOutside at_point ?_ ?_
      · simp
      · exact fun _ => id
  | erase store rest at_point =>
      have moved : Delivered
          (before.setPoller poller (.busy .unlock store rest), callback) := by
        apply delivered.movePollerOutside at_point
        · simp
        · exact fun _ => id
      exact moved.congr rfl rfl rfl rfl rfl fun _ _ => id
  | unlock store rest at_point =>
      have moved : Delivered
          (before.setPoller poller (.batch rest), callback) := by
        apply delivered.movePollerOutside at_point
        · simp
        · exact fun _ => id
      exact moved.congr rfl rfl rfl rfl rfl fun _ _ => id

end Delivered

/-! ## Workers -/

namespace Kernel

/-- A system call may read bytes, and changes no edge and no registration. -/
theorem transfer_sockets {kernel after : Kernel} {fd : Fd} {syscall : Syscall}
    {result : SysResult}
    (transferred : kernel.transfer fd syscall result = some after)
    (connection : ConnectionId) :
    after.registered = kernel.registered ∧
      (after.socket connection).edge = (kernel.socket connection).edge ∧
        (after.socket connection).unread ≤
          (kernel.socket connection).unread := by
  rcases transfer_spec transferred with rfl | ⟨reader, count, -, rfl⟩
  · exact ⟨rfl, rfl, Nat.le_refl _⟩
  · refine ⟨rfl, ?_⟩
    by_cases same : connection = reader
    · simp only [consume, same, Function.update_self, Socket.unread]
      exact ⟨trivial, by omega⟩
    · simp only [consume, Function.update_of_ne same]
      exact ⟨trivial, Nat.le_refl _⟩

/-- A call that delivers no bytes changes nothing. -/
theorem transfer_quiet {kernel after : Kernel} {fd : Fd} {syscall : Syscall}
    {result : SysResult} (quiet : ∀ data, result ≠ .bytes data)
    (transferred : kernel.transfer fd syscall result = some after) :
    after = kernel := by
  unfold transfer at transferred
  split at transferred
  · cases transferred
    rfl
  · cases transferred
  · exact absurd rfl (quiet _)
  · split at transferred
    · cases transferred
      rfl
    · cases transferred

/-- A read takes its bytes from the connection the number denotes. -/
theorem unread_of_read {kernel after : Kernel} {fd : Fd} {syscall : Syscall}
    {data : List UInt8} {connection : ConnectionId}
    (denotes : kernel.file fd = some (.client connection))
    (transferred : kernel.transfer fd syscall (.bytes data) = some after) :
    (after.socket connection).unread + data.length =
      (kernel.socket connection).unread := by
  unfold transfer at transferred
  rw [denotes] at transferred
  dsimp only at transferred
  split at transferred
  · rename_i guard
    cases transferred
    have enough := guard.2
    simp only [consume, Function.update_self, Socket.unread] at enough ⊢
    omega
  · cases transferred

end Kernel

section Workers

variable {before after : Server} {callback next : WorkerId → Callback}
  {poller : PollerId} {connection : ConnectionId} {worker : WorkerId}

/-- One worker moves.  A token that is not in its hands stays where it is; what
becomes of one that is has to be said. -/
theorem Token.moveWorker (token : Token (before, callback) poller connection)
    (workers : ∀ other, other ≠ worker →
      after.workerThread other = before.workerThread other)
    (callbacks : ∀ other, other ≠ worker → next other = callback other)
    (pollers : after.pollerThread = before.pollerThread)
    (edge : (after.kernel.socket connection).edge =
      (before.kernel.socket connection).edge)
    (unread : (after.kernel.socket connection).unread ≤
      (before.kernel.socket connection).unread)
    (tasks : before.DataTask connection →
      Token (after, next) poller connection)
    (entered : ∀ task call,
      before.workerThread worker = .callback task call →
        task.eventStorePointer = connection → callback worker = .entered →
          Token (after, next) poller connection)
    (sizing : ∀ task,
      before.workerThread worker = .callback task (some .sizing) →
        task.eventStorePointer = connection → callback worker = .receiving →
          Token (after, next) poller connection)
    (reading : ∀ task dataSize buffer,
      before.workerThread worker =
          .callback task (some (.reading dataSize buffer)) →
        task.eventStorePointer = connection → callback worker = .receiving →
          (before.kernel.socket connection).unread + buffer.length ≤
              dataSize →
            Token (after, next) poller connection) :
    Token (after, next) poller connection := by
  cases token with
  | edge pending => exact .edge (edge.trans pending)
  | batch member =>
      apply Token.batch
      rw [pollers]
      exact member
  | task queued => exact tasks queued
  | entered other task call at_point same progress =>
      by_cases here : other = worker
      · rw [here] at at_point progress
        exact entered task call at_point same progress
      · exact .entered other task call ((workers other here).trans at_point)
          same ((callbacks other here).trans progress)
  | sizing other task at_point same progress =>
      by_cases here : other = worker
      · rw [here] at at_point progress
        exact sizing task at_point same progress
      · exact .sizing other task ((workers other here).trans at_point) same
          ((callbacks other here).trans progress)
  | reading other task dataSize buffer at_point same progress covers =>
      by_cases here : other = worker
      · rw [here] at at_point progress
        exact reading task dataSize buffer at_point same progress covers
      · exact .reading other task dataSize buffer
          ((workers other here).trans at_point) same
          ((callbacks other here).trans progress)
          (Nat.le_trans (Nat.add_le_add_right unread _) covers)

/-- A data task that the worker does not hold stays. -/
theorem Server.DataTask.moveWorker (queued : before.DataTask connection)
    (workers : ∀ other, other ≠ worker →
      after.workerThread other = before.workerThread other)
    (tasks : after.tasks = before.tasks)
    (empty : ∀ task, before.workerThread worker ≠ .taken task) :
    after.DataTask connection := by
  obtain ⟨task, same, origin, member | ⟨other, holds⟩⟩ := queued
  · refine ⟨task, same, origin, .inl ?_⟩
    rw [tasks]
    exact member
  · have different : other ≠ worker := by
      rintro rfl
      exact empty task holds
    exact ⟨task, same, origin,
      .inr ⟨other, (workers other different).trans holds⟩⟩

/-- A worker outside callbacks can only have held a token as a task. -/
theorem Token.moveOutside (token : Token (before, callback) poller connection)
    (outside : ∀ task call,
      before.workerThread worker ≠ .callback task call)
    (workers : ∀ other, other ≠ worker →
      after.workerThread other = before.workerThread other)
    (callbacks : ∀ other, other ≠ worker → next other = callback other)
    (pollers : after.pollerThread = before.pollerThread)
    (kernel : after.kernel = before.kernel)
    (tasks : before.DataTask connection →
      Token (after, next) poller connection) :
    Token (after, next) poller connection := by
  apply token.moveWorker workers callbacks pollers (by rw [kernel])
    (Nat.le_of_eq (by rw [kernel])) tasks
  · intro given call there
    exact absurd there (outside given call)
  · intro given there
    exact absurd there (outside given (some .sizing))
  · intro given dataSize buffer there
    exact absurd there (outside given (some (.reading dataSize buffer)))

/-- A worker inside a callback holds no task, and at most the token of its own
connection. -/
theorem Token.moveCallback (token : Token (before, callback) poller connection)
    {task : IOTask} {call : Option Call}
    (at_point : before.workerThread worker = .callback task call)
    (workers : ∀ other, other ≠ worker →
      after.workerThread other = before.workerThread other)
    (callbacks : ∀ other, other ≠ worker → next other = callback other)
    (pollers : after.pollerThread = before.pollerThread)
    (edge : (after.kernel.socket connection).edge =
      (before.kernel.socket connection).edge)
    (unread : (after.kernel.socket connection).unread ≤
      (before.kernel.socket connection).unread)
    (tasks : after.tasks = before.tasks)
    (entered : task.eventStorePointer = connection →
      callback worker = .entered → Token (after, next) poller connection)
    (sizing : call = some .sizing → task.eventStorePointer = connection →
      callback worker = .receiving → Token (after, next) poller connection)
    (reading : ∀ dataSize buffer, call = some (.reading dataSize buffer) →
      task.eventStorePointer = connection → callback worker = .receiving →
        (before.kernel.socket connection).unread + buffer.length ≤ dataSize →
          Token (after, next) poller connection) :
    Token (after, next) poller connection := by
  apply token.moveWorker workers callbacks pollers edge unread
  · intro queued
    apply Token.task
    apply queued.moveWorker workers tasks
    simp [at_point]
  · intro given earlier there same progress
    cases at_point.symm.trans there
    exact entered same progress
  · intro given there same progress
    cases at_point.symm.trans there
    exact sizing rfl same progress
  · intro given dataSize buffer there same progress covers
    cases at_point.symm.trans there
    exact reading dataSize buffer rfl same progress covers

/-- It is enough to carry the tokens over. -/
theorem Delivered.ofWorker (delivered : Delivered (before, callback))
    (polling : after.continuePolling = before.continuePolling)
    (pollers : after.pollerThread = before.pollerThread)
    (unread : ∀ connection, (after.kernel.socket connection).unread ≤
      (before.kernel.socket connection).unread)
    (registered : after.kernel.registered = before.kernel.registered)
    (token : ∀ poller connection,
      connection ∈ before.kernel.registered poller →
        ¬before.Removing connection →
          0 < (after.kernel.socket connection).unread →
            Token (before, callback) poller connection →
              Token (after, next) poller connection) :
    Delivered (after, next) where
  polling := by
    intro poller
    exact (congrFun polling poller).trans (delivered.polling poller)
  token := by
    intro poller connection member kept remaining
    change connection ∈ after.kernel.registered poller at member
    rw [registered] at member
    have unremoved : ¬before.Removing connection := by
      rintro ⟨remover, rest, there⟩
      apply kept
      refine ⟨remover, rest, ?_⟩
      rw [pollers]
      exact there
    apply token poller connection member unremoved remaining
    exact delivered.token poller connection member unremoved
      (Nat.lt_of_lt_of_le remaining (unread connection))

/-! ### The lines of a worker -/

theorem Delivered.take (delivered : Delivered (before, callback))
    {task : IOTask} {rest : List IOTask}
    (at_point : before.workerThread worker = .idle)
    (queue : before.tasks = task :: rest) :
    Delivered
      (({ before.recordWorker (.take worker task) with
          tasks := rest }.setWorker worker (.taken task) : Server),
        callback) := by
  refine delivered.ofWorker rfl rfl (fun _ => Nat.le_refl _) rfl ?_
  intro poller connection _ _ _ token
  refine token.moveOutside (by simp [at_point])
    (fun _ moved => Server.setWorker_of_ne moved _ _) (fun _ _ => rfl) rfl rfl
    ?_
  rintro ⟨given, same, origin, member | ⟨other, holds⟩⟩
  · apply Token.task
    rw [queue] at member
    rcases List.mem_cons.mp member with rfl | later
    · exact ⟨given, same, origin,
        .inr ⟨worker, Function.update_self _ _ _⟩⟩
    · exact ⟨given, same, origin, .inl later⟩
  · have different : other ≠ worker := by
      rintro rfl
      cases at_point.symm.trans holds
    apply Token.task
    exact ⟨given, same, origin,
      .inr ⟨other, (Server.setWorker_of_ne different _ _).trans holds⟩⟩

/-- A data task is dispatched as `dataEvent`, whatever else was dispatched for
the connection. -/
theorem Delivered.dispatchTask (delivered : Delivered (before, callback))
    (marks : EventMarks before) {task : IOTask}
    (at_point : before.workerThread worker = .taken task) :
    Delivered
      ((before.recordWorker
          (.callback worker task
            (before.store task.eventStorePointer).eventType)).setWorker
        worker (.callback task none),
        receiveProgress before (.worker worker .dispatch) callback) := by
  refine delivered.ofWorker rfl rfl (fun _ => Nat.le_refl _) rfl ?_
  intro poller connection registered kept _ token
  refine token.moveOutside (by simp [at_point])
    (fun _ moved => Server.setWorker_of_ne moved _ _)
    (fun _ => receiveProgress_of_ne before _ _) rfl rfl ?_
  intro queued
  have incoming := marks.incoming registered kept
    (marks.data connection queued)
  obtain ⟨given, same, origin, member | ⟨other, holds⟩⟩ := queued
  · exact .task ⟨given, same, origin, .inl member⟩
  · by_cases here : other = worker
    · rw [here] at holds
      cases at_point.symm.trans holds
      refine .entered worker task none (Function.update_self _ _ _) same ?_
      simp [receiveProgress, at_point, same, incoming]
    · apply Token.task
      exact ⟨given, same, origin,
        .inr ⟨other, (Server.setWorker_of_ne here _ _).trans holds⟩⟩

/-- A call starts; the one a `dataEvent` owes is `receiveData`. -/
theorem Delivered.call {config : Config}
    (delivered : Delivered (before, callback))
    (plain : config.handler = .tcp) {task : IOTask} {request : Request}
    {call : Call}
    (at_point : before.workerThread worker = .callback task none)
    (started : call =
      config.handler.start (before.store task.eventStorePointer).ssl
        request) :
    Delivered
      ((before.lockSocket worker task.eventStorePointer call).setWorker worker
          (.callback task (some call)),
        receiveProgress before (.worker worker (.call request))
          callback) := by
  refine delivered.ofWorker rfl rfl (fun _ => Nat.le_refl _) rfl ?_
  intro poller connection _ _ _ token
  refine token.moveCallback at_point
    (fun _ moved => Server.setWorker_of_ne moved _ _)
    (fun _ => receiveProgress_of_ne before _ _) rfl rfl (Nat.le_refl _) rfl
    ?_ ?_ ?_
  · intro same progress
    by_cases receives : request = .receiveData
    · subst receives
      have sizing : call = .sizing := by
        rw [started, plain]
        rfl
      subst sizing
      refine .sizing worker task (Function.update_self _ _ _) same ?_
      simp [receiveProgress, progress]
    · refine .entered worker task (some call) (Function.update_self _ _ _)
        same ?_
      rw [receiveProgress_call before worker receives]
      exact progress
  · intro sizing
    cases sizing
  · intro dataSize buffer reading
    cases reading

/-- A call returns; one that is still reading does not. -/
theorem Delivered.returnCall (delivered : Delivered (before, callback))
    {task : IOTask} {call : Call}
    (at_point : before.workerThread worker = .callback task (some call))
    (ended : call.finished = true ∨ call = .ssl) :
    Delivered
      ((before.unlockSocket worker task.eventStorePointer).setWorker worker
          (.callback task none),
        receiveProgress before (.worker worker .returnCall) callback) := by
  refine delivered.ofWorker rfl rfl (fun _ => Nat.le_refl _) rfl ?_
  intro poller connection _ _ _ token
  refine token.moveCallback at_point
    (fun _ moved => Server.setWorker_of_ne moved _ _)
    (fun _ => receiveProgress_of_ne before _ _) rfl rfl (Nat.le_refl _) rfl
    ?_ ?_ ?_
  · intro same progress
    refine .entered worker task none (Function.update_self _ _ _) same ?_
    simp [receiveProgress, progress]
  · rintro ⟨⟩
    rcases ended with finished | ssl
    · cases finished
    · cases ssl
  · rintro dataSize buffer ⟨⟩
    rcases ended with finished | ssl
    · cases finished
    · cases ssl

/-- The callback returns, a `dataEvent` with its `receiveData` finished. -/
theorem Delivered.finish (delivered : Delivered (before, callback))
    {task : IOTask}
    (at_point : before.workerThread worker = .callback task none)
    (received : callback worker ≠ .entered) :
    Delivered
      ((before.recordWorker (.finish worker task)).setWorker worker .idle,
        receiveProgress before (.worker worker .finish) callback) := by
  refine delivered.ofWorker rfl rfl (fun _ => Nat.le_refl _) rfl ?_
  intro poller connection _ _ _ token
  refine token.moveCallback at_point
    (fun _ moved => Server.setWorker_of_ne moved _ _)
    (fun _ => receiveProgress_of_ne before _ _) rfl rfl (Nat.le_refl _) rfl
    ?_ ?_ ?_
  · intro same progress
    exact absurd progress received
  · intro sizing
    cases sizing
  · intro dataSize buffer reading
    cases reading

open TCPServerSocketHandler in
/-- `receivePartialData` of a positive size starts to read. -/
theorem receivePartialData_of_pos {dataSize : Nat} (positive : 0 < dataSize) :
    receivePartialData dataSize = .reading dataSize [] := by
  simp [receivePartialData, readLoop, positive]

/-- A read that brings something appends it, and reads on while the buffer is
not full. -/
theorem resume_reading {dataSize : Nat} {buffer data : List UInt8}
    (some_bytes : data ≠ []) :
    (Call.reading dataSize buffer).resume (.bytes data) =
      TCPServerSocketHandler.readLoop dataSize (buffer ++ data) := by
  cases data with
  | nil => exact absurd rfl some_bytes
  | cons byte rest => rfl

/-- `FIONREAD` is asked after the edge has been consumed, so its answer covers
every byte no other wake-up stands for; and no `read` leaves more unread than
it has still to read. -/
theorem Delivered.syscall (delivered : Delivered (before, callback))
    (owned : Ownership before) {task : IOTask} {call : Call}
    {syscall : Syscall} {result : SysResult} {kernel : Kernel}
    (at_point : before.workerThread worker = .callback task (some call))
    (asked : call.syscall = some syscall)
    (answers :
      before.kernel.answers (before.fd task.eventStorePointer) syscall result)
    (transferred :
      before.kernel.transfer (before.fd task.eventStorePointer) syscall
        result = some kernel) :
    Delivered
      ({ before.record
          (.transfer task.eventStorePointer syscall
            (before.kernel.file (before.fd task.eventStorePointer))) with
          kernel := kernel }.setWorker
        worker (.callback task (some (call.resume result))), callback) := by
  have sockets := Kernel.transfer_sockets transferred
  refine delivered.ofWorker rfl rfl (fun connection => (sockets connection).2.2)
    (sockets 0).1 ?_
  intro poller connection registered _ remaining token
  have denotes := owned.registered_file poller connection registered
  refine token.moveCallback at_point
    (fun _ moved => Server.setWorker_of_ne moved _ _) (fun _ _ => rfl) rfl
    (sockets connection).2.1 (sockets connection).2.2 rfl ?_ ?_ ?_
  · intro same progress
    exact .entered worker task _ (Function.update_self _ _ _) same progress
  · rintro ⟨⟩ same progress
    cases asked
    rw [same] at answers transferred
    have available := answers connection denotes
    dsimp only at available
    subst available
    have unchanged : kernel = before.kernel :=
      Kernel.transfer_quiet (by simp) transferred
    change 0 < (kernel.socket connection).unread at remaining
    rw [unchanged] at remaining
    refine .reading worker task (before.kernel.socket connection).unread []
      ?_ same progress ?_
    · rw [← receivePartialData_of_pos remaining]
      exact Function.update_self _ _ _
    · change (kernel.socket connection).unread + 0 ≤ _
      rw [unchanged]
      exact Nat.le_refl _
  · rintro dataSize buffer ⟨⟩ same progress covers
    cases asked
    rw [same] at answers transferred
    have fewer := (sockets connection).2.2
    change 0 < (kernel.socket connection).unread at remaining
    rcases answers connection denotes (Nat.lt_of_lt_of_le remaining fewer) with
      rfl | ⟨data, some_bytes, rfl⟩
    · refine .reading worker task dataSize buffer
        (Function.update_self _ _ _) same progress ?_
      exact Nat.le_trans (Nat.add_le_add_right fewer _) covers
    · have consumed := Kernel.unread_of_read denotes transferred
      have unfilled : (buffer ++ data).length < dataSize := by
        rw [List.length_append]
        omega
      refine .reading worker task dataSize (buffer ++ data) ?_ same progress ?_
      · have goes_on : (Call.reading dataSize buffer).resume (.bytes data) =
            .reading dataSize (buffer ++ data) := by
          rw [resume_reading some_bytes]
          exact if_pos unfilled
        rw [← goes_on]
        exact Function.update_self _ _ _
      · change (kernel.socket connection).unread + (buffer ++ data).length ≤ _
        rw [List.length_append]
        omega

theorem Delivered.workerLine {config : Config} {choice : WorkerChoice}
    (delivered : Delivered (before, callback))
    (plain : config.handler = .tcp) (owned : Ownership before)
    (marks : EventMarks before)
    (allowed : delivers (before, callback) (.worker worker choice))
    (taken : WorkerLine config before worker choice after) :
    Delivered
      (after, receiveProgress before (.worker worker choice) callback) := by
  cases taken with
  | take task rest at_point queue => exact delivered.take at_point queue
  | dispatch task at_point => exact delivered.dispatchTask marks at_point
  | call task request call at_point started free =>
      exact delivered.call plain at_point started
  | syscall task call syscall result kernel at_point asked transferred =>
      exact delivered.syscall owned at_point asked
        (allowed task call syscall at_point asked) transferred
  | sslSyscall task syscall result kernel at_point transferred =>
      have sockets := Kernel.transfer_sockets transferred
      refine delivered.keep rfl rfl (fun _ => id) rfl ?_
      intro poller connection member unread
      obtain ⟨registered, edge, fewer⟩ := sockets connection
      right
      refine ⟨?_, fewer, ?_⟩
      · rw [← registered]
        exact member
      · intro pending
        exact edge.trans pending
  | returnCall task call at_point ended =>
      exact delivered.returnCall at_point ended
  | close task at_point may_close free =>
      exact delivered.closeConnection config task.eventStorePointer
  | finish task at_point => exact delivered.finish at_point allowed

end Workers

/-! ## Runs -/

theorem Delivered.step {config : Config}
    {before after : Server × (WorkerId → Callback)} {action : Action}
    (delivered : Delivered before) (plain : config.handler = .tcp)
    (reachable : (tcpServer config).Reachable before.1)
    (allowed : delivers before action)
    (taken : (deliveringServer config).step before action = some after) :
    Delivered after := by
  obtain ⟨server, callback⟩ := before
  obtain ⟨next, history⟩ := after
  obtain ⟨moved, rfl⟩ := TransitionSystem.step_of_observed taken
  have owned := ownership_of_reachable reachable
  cases serverStep_of_step moved with
  | network arrival =>
      have arrived := delivered.networkStep arrival
      cases arrival <;> exact arrived
  | accept choice line => exact delivered.acceptStep line
  | poller poller choice bound line =>
      apply delivered.pollerStep owned
        (mutualExclusion_of_reachable reachable)
      change (if _ then _ else none) = _ at moved
      rw [if_pos bound] at moved
      exact moved
  | worker worker choice bound line =>
      exact delivered.workerLine plain owned
        (eventMarks_of_reachable reachable) allowed
        (workerLine_of_step moved).2
  | stop line => exact allowed.elim

theorem delivered_of_reached {config : Config}
    (plain : config.handler = .tcp)
    {state : Server × (WorkerId → Callback)}
    (reached : (deliveringServer config).Reached delivers state) :
    Delivered state := by
  refine TransitionSystem.Reached.invariant ?_ ?_ reached
  · rintro ⟨server, callback⟩ ⟨rfl, rfl⟩
    exact Delivered.start config
  · intro before action after reachedBefore allowed taken delivered
    have reachable : (tcpServer config).Reachable before.1 :=
      TransitionSystem.Reached.of_observed (fun _ _ _ => trivial)
        reachedBefore
    exact delivered.step plain reachable allowed taken

/-- No arrived byte is stranded.  While a registered connection that is not
being removed has unread bytes, an edge is pending for it, or its poller has
its entry still to process, or a data task for it is in the pool, or a worker
is inside a `dataEvent` for it that has not finished its `receiveData`. -/
theorem unread_not_stranded {config : Config}
    (plain : config.handler = .tcp)
    {state : Server × (WorkerId → Callback)}
    (reached : (deliveringServer config).Reached delivers state)
    {poller : PollerId} {connection : ConnectionId}
    (registered : connection ∈ state.1.kernel.registered poller)
    (kept : ¬state.1.Removing connection)
    (unread : 0 < (state.1.kernel.socket connection).unread) :
    (state.1.kernel.socket connection).edge = true ∨
      connection ∈ (state.1.pollerThread poller).unprocessed ∨
      state.1.DataTask connection ∨
      ∃ worker task call,
        state.1.workerThread worker = .callback task call ∧
          task.eventStorePointer = connection ∧
          (state.2 worker = .entered ∨ state.2 worker = .receiving) := by
  cases (delivered_of_reached plain reached).token poller connection
    registered kept unread with
  | edge pending => exact .inl pending
  | batch member => exact .inr (.inl member)
  | task queued => exact .inr (.inr (.inl queued))
  | entered worker task call at_point same progress =>
      exact .inr (.inr (.inr
        ⟨worker, task, call, at_point, same, .inl progress⟩))
  | sizing worker task at_point same progress =>
      exact .inr (.inr (.inr
        ⟨worker, task, _, at_point, same, .inr progress⟩))
  | reading worker task dataSize buffer at_point same progress covers =>
      exact .inr (.inr (.inr
        ⟨worker, task, _, at_point, same, .inr progress⟩))

/-- Whether `delivers` permits an action without asking what the kernel
answers. -/
def deliversUnasked (state : Server × (WorkerId → Callback)) : Action → Bool
  | .stop | .worker _ (.syscall _) => false
  | .worker worker .finish => state.2 worker ≠ .entered
  | _ => true

theorem delivers_of_unasked (state : Server × (WorkerId → Callback))
    {action : Action} (unasked : deliversUnasked state action = true) :
    delivers state action := by
  unfold deliversUnasked at unasked
  split at unasked
  · cases unasked
  · cases unasked
  · exact of_decide_eq_true (p := state.2 _ ≠ .entered) unasked
  · rename_i no_stop no_syscall no_finish
    unfold delivers
    split
    · exact absurd rfl no_stop
    · exact absurd rfl (no_finish _)
    · exact absurd rfl (no_syscall _ _)
    · trivial

/-- Three bytes have arrived, the poller has handed its entry on, and the worker
is in `receiveData`. -/
theorem unread_not_stranded_reading :
    ∃ state : Server × (WorkerId → Callback),
      (deliveringServer .single).Reached delivers state ∧
        (state.1.kernel.socket 0).edge = false ∧
        ((state.1.kernel.socket 0).edge = true ∨
          0 ∈ (state.1.pollerThread 0).unprocessed ∨
          state.1.DataTask 0 ∨
          ∃ worker task call,
            state.1.workerThread worker = .callback task call ∧
              task.eventStorePointer = 0 ∧
              (state.2 worker = .entered ∨ state.2 worker = .receiving)) := by
  have start : (deliveringServer .single).initial
      (Server.start .single, fun _ => .outside) := ⟨rfl, rfl⟩
  have found : ∃ state : Server × (WorkerId → Callback),
      (deliveringServer .single).Reached
          (fun state action => deliversUnasked state action = true) state ∧
        ((state.1.kernel.socket 0).edge = false ∧
          0 ∈ state.1.kernel.registered 0 ∧
          0 < (state.1.kernel.socket 0).unread ∧
          state.1.clientEventStoresMutex = none) :=
    TransitionSystem.exists_reached_of_replay
      (connectAndAdmit 4 ++ [.segment 0 3] ++ pollOne 0 0 ++ handleData 0 ++
        [.worker 0 .take, .worker 0 .dispatch, .worker 0 (.call .receiveData)])
      start (by decide)
  obtain ⟨state, reached, edge, registered, unread, free⟩ := found
  have delivering := reached.mono fun state _ =>
    delivers_of_unasked state
  have reachable : (tcpServer .single).Reachable state.1 :=
    TransitionSystem.Reached.of_observed (fun _ _ _ => trivial) delivering
  refine ⟨state, delivering, edge, ?_⟩
  apply unread_not_stranded rfl delivering registered _ unread
  exact (mutualExclusion_of_reachable reachable).not_removing free 0

/-- Three bytes and the half-close arrive, and the poller takes the entry to
`removeSocket`, up to `EPOLL_CTL_DEL`: the connection is still registered, in
the map and open, and nobody will read the bytes. -/
theorem unread_while_removing :
    ¬∀ (config : Config) (state : Server × (WorkerId → Callback))
        (poller : PollerId) (connection : ConnectionId),
      config.handler = .tcp →
      (deliveringServer config).Reached delivers state →
      connection ∈ state.1.kernel.registered poller →
      state.1.find (state.1.fd connection) = some connection →
      state.1.kernel.file (state.1.fd connection) =
        some (.client connection) →
      0 < (state.1.kernel.socket connection).unread →
      (state.1.kernel.socket connection).edge = true ∨
        connection ∈ (state.1.pollerThread poller).unprocessed ∨
        (∃ task, task.eventStorePointer = connection ∧
          (task ∈ state.1.tasks ∨
            ∃ worker, state.1.workerThread worker = .taken task)) ∨
        ∃ worker task call,
          state.1.workerThread worker = .callback task call ∧
            task.eventStorePointer = connection ∧
            (state.2 worker = .entered ∨ state.2 worker = .receiving) := by
  intro always
  have start : (deliveringServer .single).initial
      (Server.start .single, fun _ => .outside) := ⟨rfl, rfl⟩
  have found : ∃ state : Server × (WorkerId → Callback),
      (deliveringServer .single).Reached
          (fun state action => deliversUnasked state action = true) state ∧
        ((0 ∈ state.1.kernel.registered 0 ∧
            state.1.find (state.1.fd 0) = some 0 ∧
            state.1.kernel.file (state.1.fd 0) = some (.client 0) ∧
            0 < (state.1.kernel.socket 0).unread) ∧
          (state.1.kernel.socket 0).edge = false ∧
          state.1.pollerThread 0 = .busy .epollDel 0 [] ∧
          state.1.tasks = [] ∧ state.1.workerThread 0 = .idle) :=
    TransitionSystem.exists_reached_of_replay
      (connectAndAdmit 4 ++ runTask 0 ++
        [.segment 0 3, .hangUp 0 .halfClose] ++ pollOne 0 0 ++
        List.replicate 3 (.poller 0 .proceed))
      start (by decide)
  obtain ⟨state, reached, ⟨registered, mapped, opened, unread⟩, no_edge,
    removing, no_task, idle⟩ := found
  have delivering := reached.mono fun state _ => delivers_of_unasked state
  have reachable : (tcpServer .single).Reachable state.1 :=
    TransitionSystem.Reached.of_observed (fun _ _ _ => trivial) delivering
  have all_idle : ∀ worker, state.1.workerThread worker = .idle := by
    intro worker
    cases worker with
    | zero => exact idle
    | succ other =>
        exact (taskQueue_of_reachable reachable).idle_beyond _
          (Nat.succ_le_succ (Nat.zero_le other))
  rcases always .single state 0 0 rfl delivering registered mapped opened
    unread with edge | unprocessed | ⟨task, -, queued | ⟨worker, taken⟩⟩ |
      ⟨worker, task, call, at_point, -⟩
  · cases no_edge.symm.trans edge
  · rw [removing] at unprocessed
    cases unprocessed
  · rw [no_task] at queued
    cases queued
  · cases (all_idle worker).symm.trans taken
  · cases (all_idle worker).symm.trans at_point

end EventPlus

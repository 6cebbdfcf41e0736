/-
Module: EventPlus.Server.Descriptors
Purpose: Descriptor numbers in the stores against the connections they denote:
  a number denotes its store's own connection until some thread closes it, and
  never again after that.
Trusted boundary: none
Main exports:
  Server.Closed, Descriptors, descriptors_of_reachable, Server.OwnTransfers,
  transfersUnclosed, ownTransfers_throughout_iff
-/
import EventPlus.Server.Ownership
import EventPlus.Server.TaskLifetime

namespace EventPlus

open Function (update)

/-- What a `close` call closed. -/
def DescriptorEvent.closed : DescriptorEvent → Option File
  | .close _ file => file
  | .closeListening file => file
  | _ => none

namespace Server

/-- Some `close` call has closed the connection. -/
def Closed (server : Server) (connection : ConnectionId) : Prop :=
  ∃ event ∈ server.descriptorTrace,
    event.closed = some (.client connection)

/-- Every system call issued for a store worked on the store's own
connection. -/
def OwnTransfers (server : Server) : Prop :=
  ∀ store syscall file,
    .transfer store syscall file ∈ server.descriptorTrace →
      file = some (.client store)

end Server

/-- Steps that issue no system call for a store whose connection has been
closed. -/
def transfersUnclosed (server : Server) : Action → Prop
  | .worker worker choice =>
      choice.transfers = true →
        ∀ task, (server.workerThread worker).task = some task →
          ¬ server.Closed task.eventStorePointer
  | _ => True

/-! ## Tasks and the stores that exist -/

/-- A store gets a task while the accept thread or a poller has it in hand. -/
theorem pending_of_step {config : Config} {before after : Server}
    {action : Action} {store : ConnectionId}
    (taken : ServerStep config before action after)
    (pending : after.Pending store) :
    before.Pending store ∨
      before.acceptThread = .admitting .enqueue store ∨
        ∃ poller, store ∈ (before.pollerThread poller).held := by
  cases taken with
  | network taken => cases taken <;> exact .inl pending
  | accept choice taken =>
      cases taken with
      | initConnection other outcome at_point =>
          obtain ⟨_, _, _, result⟩ :=
            before.initConnection_frame config other outcome
          rw [result] at pending
          exact .inl pending
      | enqueue other at_point =>
          rcases Server.pending_enqueueTask.mp pending with earlier | rfl
          · exact .inl earlier
          · exact .inr (.inl at_point)
      | _ => exact .inl pending
  | poller poller choice bound taken =>
      cases taken with
      | dispatch other rest at_point =>
          rcases Server.pending_enqueueTask.mp pending with earlier | rfl
          · exact .inl earlier
          · exact .inr (.inr ⟨poller, before.held_of_busy at_point⟩)
      | enqueue other rest at_point =>
          rcases Server.pending_enqueueTask.mp pending with earlier | rfl
          · exact .inl earlier
          · exact .inr (.inr ⟨poller, before.held_of_busy at_point⟩)
      | closeConnection other rest at_point =>
          exact .inl ((before.pending_closeConnection config other).mp
            pending)
      | _ => exact .inl pending
  | worker worker choice bound taken =>
      exact .inl (pending_of_workerStep taken pending)
  | stop taken =>
      cases taken with
      | closeListening closed at_point closes =>
          obtain ⟨_, _, result⟩ := Server.closeListening_frame closes
          rw [result] at pending
          exact .inl pending
      | closing other rest at_point =>
          exact .inl ((before.pending_closeConnection config other).mp
            pending)
      | _ => exact .inl pending

/-- Tasks are raised only for stores that have been made. -/
theorem made_of_pending {config : Config} {server : Server}
    (reachable : (tcpServer config).Reachable server)
    {store : ConnectionId} (pending : server.Pending store) :
    server.lifetime store ≠ .unborn := by
  have all : ∀ store, server.Pending store →
      server.lifetime store ≠ .unborn := by
    refine TransitionSystem.Reachable.invariant ?_ ?_ reachable
    · rintro state rfl store (⟨task, member, -⟩ | ⟨worker, task, holds, -⟩)
      · cases member
      · cases holds
    · intro before action after reached taken made store pending
      have map := storeMap_of_reachable reached
      have moved := serverStep_of_step taken
      apply made_of_step moved
      rcases pending_of_step moved pending with
        earlier | admitting | ⟨poller, held⟩
      · exact made store earlier
      · rw [map.admitting_alive _ _ admitting]
        simp
      · exact map.registered_made poller store
          ((ownership_of_reachable reached).held_with poller store held)
  exact all store pending

/-! ## The descriptor table -/

/-- The numbers in the stores and the descriptor table.  A number that has been
closed may denote a later connection, but never its store's own again. -/
structure Descriptors (server : Server) : Prop where
  denoted_lt : ∀ number connection,
    server.kernel.file number = some (.client connection) →
      connection < server.accepted
  denoted_fd : ∀ number connection,
    server.kernel.file number = some (.client connection) →
      server.lifetime connection ≠ .unborn → number = server.fd connection
  closed_lt : ∀ connection, server.Closed connection →
    connection < server.accepted
  open_iff : ∀ store, server.lifetime store ≠ .unborn →
    (server.kernel.file (server.fd store) = some (.client store) ↔
      ¬ server.Closed store)

namespace Descriptors

theorem start (config : Config) : Descriptors (Server.start config) := by
  have nothing_denoted : ∀ number connection,
      (Server.start config).kernel.file number ≠
        some (.client connection) := by
    intro number connection
    simp only [Server.start]
    split
    · simp
    · split <;> simp
  constructor
  · intro number connection denotes
    exact absurd denotes (nothing_denoted number connection)
  · intro number connection denotes
    exact absurd denotes (nothing_denoted number connection)
  · rintro connection ⟨event, member, -⟩
    cases member
  · intro store made
    exact absurd rfl made

/-! ## Single changes -/

theorem closed_record {server : Server} {event : DescriptorEvent}
    {connection : ConnectionId} :
    (server.record event).Closed connection ↔
      server.Closed connection ∨
        event.closed = some (.client connection) := by
  simp only [Server.Closed, Server.record, List.mem_append,
    List.mem_singleton]
  constructor
  · rintro ⟨noted, earlier | rfl, closed⟩
    · exact .inl ⟨noted, earlier, closed⟩
    · exact .inr closed
  · rintro (⟨noted, earlier, closed⟩ | closed)
    · exact ⟨noted, .inl earlier, closed⟩
    · exact ⟨event, .inr rfl, closed⟩

/-- Changes that keep the table, the numbers and what has been closed. -/
theorem congr {before after : Server} (descriptors : Descriptors before)
    (file : after.kernel.file = before.kernel.file)
    (number : ∀ store, after.fd store = before.fd store)
    (closed : ∀ connection,
      after.Closed connection ↔ before.Closed connection)
    (accepted : after.accepted = before.accepted)
    (made : ∀ store, after.lifetime store ≠ .unborn →
      before.lifetime store ≠ .unborn) : Descriptors after where
  denoted_lt := by
    intro number connection denotes
    rw [file] at denotes
    rw [accepted]
    exact descriptors.denoted_lt number connection denotes
  denoted_fd := by
    intro given connection denotes exists_store
    rw [file] at denotes
    rw [number]
    exact descriptors.denoted_fd given connection denotes
      (made connection exists_store)
  closed_lt := by
    intro connection was_closed
    rw [accepted]
    exact descriptors.closed_lt connection ((closed connection).mp was_closed)
  open_iff := by
    intro store exists_store
    rw [file, number, closed]
    exact descriptors.open_iff store (made store exists_store)

/-- A `close` call takes the number from its connection for good. -/
theorem close {server : Server} (descriptors : Descriptors server)
    {number : Fd} {event : DescriptorEvent}
    (noted : event.closed = server.kernel.file number) :
    Descriptors
      { server.record event with kernel := server.kernel.close number } where
  denoted_lt := by
    intro other connection denotes
    simp only [Kernel.close_file] at denotes
    by_cases same : other = number
    · simp [same] at denotes
    · rw [Function.update_of_ne same] at denotes
      exact descriptors.denoted_lt other connection denotes
  denoted_fd := by
    intro other connection denotes
    simp only [Kernel.close_file] at denotes
    by_cases same : other = number
    · simp [same] at denotes
    · rw [Function.update_of_ne same] at denotes
      exact descriptors.denoted_fd other connection denotes
  closed_lt := by
    intro connection was_closed
    rcases closed_record.mp was_closed with earlier | now
    · exact descriptors.closed_lt connection earlier
    · exact descriptors.denoted_lt number connection (noted ▸ now)
  open_iff := by
    intro store made
    have open_before := descriptors.open_iff store made
    change (server.kernel.close number).file (server.fd store) =
        some (.client store) ↔ ¬ (server.record event).Closed store
    rw [Kernel.close_file, closed_record, noted]
    by_cases same : server.fd store = number
    · rw [same, Function.update_self]
      rw [same] at open_before
      simp only [reduceCtorEq, false_iff, not_not]
      by_cases denoted :
          server.kernel.file number = some (.client store)
      · exact .inr denoted
      · exact .inl (not_not.mp (mt open_before.mpr denoted))
    · have elsewhere :
          server.kernel.file number ≠ some (.client store) := by
        intro denotes
        exact same (descriptors.denoted_fd number store denotes made).symm
      rw [Function.update_of_ne same]
      simp only [elsewhere, or_false]
      exact open_before

theorem closeDescriptor {server : Server} (descriptors : Descriptors server)
    (store : ConnectionId) : Descriptors (server.closeDescriptor store) :=
  descriptors.close rfl

theorem setSSL {server : Server} (descriptors : Descriptors server)
    (store : ConnectionId) (ssl : SSLPointer) :
    Descriptors (server.setSSL store ssl) :=
  descriptors.congr rfl (Server.fd_setSSL store · ssl) (fun _ => .rfl) rfl
    (fun _ => id)

theorem closeConnection {server : Server} (descriptors : Descriptors server)
    (config : Config) (store : ConnectionId) :
    Descriptors (server.closeConnection config store) := by
  rcases server.closeConnection_cases config store with
    result | result | result
  · rw [result]
    exact descriptors
  · rw [result]
    exact descriptors.closeDescriptor store
  · rw [result]
    exact (descriptors.closeDescriptor store).setSSL store .null

/-- Events that close nothing. -/
theorem closed_record_of_none {server : Server} {event : DescriptorEvent}
    (nothing : event.closed = none) (connection : ConnectionId) :
    (server.record event).Closed connection ↔ server.Closed connection := by
  rw [closed_record, nothing]
  simp

/-- `accept` gives an unused number to a connection that was never closed,
whether or not a store is made for it. -/
theorem accept {server : Server} (descriptors : Descriptors server)
    {fd : Fd} {kernel : Kernel}
    (got : server.kernel.accept fd server.accepted = some kernel)
    {after : Server} (kernel_eq : after.kernel = kernel)
    (accepted : after.accepted = server.accepted + 1)
    (trace : after.descriptorTrace = server.descriptorTrace)
    (older : ∀ store, store ≠ server.accepted →
      after.fd store = server.fd store ∧
        after.lifetime store = server.lifetime store)
    (newest : after.lifetime server.accepted ≠ .unborn →
      after.fd server.accepted = fd) : Descriptors after := by
  obtain ⟨unused, rfl⟩ := Kernel.accept_spec got
  have closed : ∀ connection,
      after.Closed connection ↔ server.Closed connection := by
    intro connection
    rw [Server.Closed, trace, Server.Closed]
  have file : after.kernel.file =
      update server.kernel.file fd (some (.client server.accepted)) := by
    rw [kernel_eq]
  have fresh : ∀ number,
      server.kernel.file number ≠ some (.client server.accepted) := by
    intro number denotes
    exact absurd (descriptors.denoted_lt number _ denotes)
      (Nat.lt_irrefl _)
  constructor
  · intro number connection denotes
    rw [file] at denotes
    rw [accepted]
    by_cases same : number = fd
    · rw [same, Function.update_self] at denotes
      cases denotes
      exact Nat.lt_succ_self _
    · rw [Function.update_of_ne same] at denotes
      exact Nat.lt_succ_of_lt
        (descriptors.denoted_lt number connection denotes)
  · intro number connection denotes made
    rw [file] at denotes
    by_cases same : number = fd
    · rw [same, Function.update_self] at denotes
      cases denotes
      exact same.trans (newest made).symm
    · rw [Function.update_of_ne same] at denotes
      have earlier : connection ≠ server.accepted := by
        rintro rfl
        exact fresh number denotes
      rw [(older connection earlier).2] at made
      rw [(older connection earlier).1]
      exact descriptors.denoted_fd number connection denotes made
  · intro connection was_closed
    rw [accepted]
    exact Nat.lt_succ_of_lt
      (descriptors.closed_lt connection ((closed connection).mp was_closed))
  · intro store made
    rw [file, closed]
    by_cases new : store = server.accepted
    · rw [new] at made ⊢
      rw [newest made, Function.update_self]
      refine iff_of_true rfl ?_
      intro was_closed
      exact absurd (descriptors.closed_lt _ was_closed) (Nat.lt_irrefl _)
    · rw [(older store new).2] at made
      rw [(older store new).1]
      by_cases same : server.fd store = fd
      · have open_before := descriptors.open_iff store made
        rw [same, unused] at open_before
        rw [same, Function.update_self, ← open_before]
        simp [Ne.symm new]
      · rw [Function.update_of_ne same]
        exact descriptors.open_iff store made

/-! ## Steps -/

theorem acceptStep {config : Config} {before after : Server}
    {choice : AcceptChoice} (descriptors : Descriptors before)
    (map : StoreMap before)
    (taken : AcceptStep config before choice after) :
    Descriptors after := by
  cases taken with
  | accepted fd ssl kernel at_point got =>
      apply descriptors.accept got
      · rfl
      · rfl
      · rfl
      · intro store older
        refine ⟨Server.fd_makeStore_of_ne kernel fd ssl older, ?_⟩
        simp [Server.makeStore, Function.update_of_ne older]
      · intro _
        exact Server.fd_makeStore_self kernel fd ssl
  | ntopFailed fd ssl kernel at_point got =>
      apply descriptors.accept got
      · rfl
      · rfl
      · rfl
      · intro store _
        exact ⟨rfl, rfl⟩
      · intro made
        exact absurd (map.made_lt _ made) (Nat.lt_irrefl _)
  | initConnection store outcome at_point =>
      obtain ⟨ssl, result | result⟩ :=
        before.initConnection_cases config store outcome
      · rw [result]
        exact { descriptors.setSSL store ssl with }
      · rw [result]
        exact { (descriptors.closeDescriptor store).setSSL store ssl with }
  | registered store kernel at_point added =>
      obtain ⟨_, -, -, -, file, -, -⟩ := Kernel.epollCtlAdd_spec added
      exact descriptors.congr file (fun _ => rfl) (fun _ => .rfl) rfl
        (fun _ => id)
  | backPointer poller store at_point =>
      exact descriptors.congr rfl (Server.fd_setBackPointer store · poller)
        (fun _ => .rfl) rfl (fun _ => id)
  | insert store at_point =>
      exact descriptors.congr rfl (fun _ => rfl) (fun _ => .rfl) rfl
        fun other made unborn =>
          made ((map.unborn_insertStore store other).mpr unborn)
  | _ => exact { descriptors with }

theorem pollerStep {config : Config} {before after : Server}
    {poller : PollerId} {choice : PollerChoice}
    (descriptors : Descriptors before) (map : StoreMap before)
    (taken : PollerStep config before poller choice after) :
    Descriptors after := by
  cases taken with
  | report reported entries kernel at_point waited =>
      obtain ⟨-, -, -, file, -, -⟩ := Kernel.epollWait_spec waited
      exact descriptors.congr file (fun _ => rfl) (fun _ => .rfl) rfl
        (fun _ => id)
  | setIncoming store rest at_point =>
      exact descriptors.congr rfl
        (Server.fd_setEventType store · .incomingData) (fun _ => .rfl) rfl
        (fun _ => id)
  | setClosed store rest at_point =>
      exact descriptors.congr rfl
        (Server.fd_setEventType store · .closedConnection) (fun _ => .rfl)
        rfl (fun _ => id)
  | epollDel store rest handler at_point handler_eq =>
      exact descriptors.congr (Kernel.epollCtlDel_file _ _ _)
        (fun _ => rfl) (closed_record_of_none rfl) rfl (fun _ => id)
  | closeConnection store rest at_point =>
      exact { descriptors.closeConnection config store with }
  | erase store rest at_point =>
      exact descriptors.congr rfl (fun _ => rfl)
        (closed_record_of_none rfl) rfl
        fun other made unborn =>
          made ((map.unborn_eraseStore store other).mpr unborn)
  | _ => exact { descriptors with }

theorem workerStep {config : Config} {before after : Server}
    {worker : WorkerId} {choice : WorkerChoice}
    (descriptors : Descriptors before)
    (taken : WorkerStep config before worker choice after) :
    Descriptors after := by
  cases taken with
  | syscall choice task call next syscall result kernel transfers at_point
      transferred =>
      exact descriptors.congr (Kernel.transfer_file transferred)
        (fun _ => rfl) (closed_record_of_none rfl) rfl (fun _ => id)
  | close task at_point may_close =>
      exact descriptors.closeConnection config _
  | _ => exact { descriptors with }

theorem stopStep {config : Config} {before after : Server}
    (descriptors : Descriptors before) (map : StoreMap before)
    (taken : StopStep config before after) : Descriptors after := by
  cases taken with
  | closeListening closed at_point closes =>
      rcases Server.closeListening_cases closes with result | result
      · rw [result]
        exact { descriptors with }
      · rw [result]
        have closed : Descriptors
            { before.record
                (.closeListening (before.kernel.file config.listenFd)) with
                kernel := before.kernel.close config.listenFd } :=
          descriptors.close rfl
        exact { closed with }
  | closing store rest at_point =>
      exact { descriptors.closeConnection config store with }
  | clear at_point =>
      exact descriptors.congr rfl (fun _ => rfl) (fun _ => .rfl) rfl
        fun store made unborn =>
          made ((map.unborn_clearStores store).mpr unborn)
  | _ => exact { descriptors with }

theorem serverStep {config : Config} {before after : Server}
    {action : Action} (descriptors : Descriptors before)
    (map : StoreMap before)
    (taken : ServerStep config before action after) :
    Descriptors after := by
  cases taken with
  | network taken => cases taken <;> exact { descriptors with }
  | accept choice taken => exact descriptors.acceptStep map taken
  | poller poller choice bound taken => exact descriptors.pollerStep map taken
  | worker worker choice bound taken => exact descriptors.workerStep taken
  | stop taken => exact descriptors.stopStep map taken

end Descriptors

/-- The numbers in the stores are right in every reachable state, with either
handler. -/
theorem descriptors_of_reachable {config : Config} {server : Server}
    (reachable : (tcpServer config).Reachable server) :
    Descriptors server := by
  refine TransitionSystem.Reachable.invariant ?_ ?_ reachable
  · rintro state rfl
    exact Descriptors.start config
  · intro before action after reached taken descriptors
    exact descriptors.serverStep (storeMap_of_reachable reached)
      (serverStep_of_step taken)

/-! ## Transfers -/

/-- Noting something else than a transfer. -/
theorem ownTransfers_record {server : Server} {event : DescriptorEvent}
    (own : server.OwnTransfers)
    (other : ∀ store syscall file, event ≠ .transfer store syscall file) :
    (server.record event).OwnTransfers := by
  intro store syscall file member
  rcases List.mem_append.mp member with earlier | now
  · exact own store syscall file earlier
  · exact absurd (List.mem_singleton.mp now).symm
      (other store syscall file)

theorem ownTransfers_closeConnection {server : Server}
    (own : server.OwnTransfers) (config : Config) (store : ConnectionId) :
    (server.closeConnection config store).OwnTransfers := by
  have closed : (server.closeDescriptor store).OwnTransfers :=
    ownTransfers_record own (by simp)
  rcases server.closeConnection_cases config store with
    result | result | result
  · rw [result]
    exact own
  · rw [result]
    exact closed
  · rw [result]
    exact closed

/-- A system call is right exactly if its store's connection is still open. -/
theorem ownTransfers_workerStep_iff {config : Config}
    {before after : Server} {worker : WorkerId} {choice : WorkerChoice}
    (own : before.OwnTransfers) (descriptors : Descriptors before)
    (made : ∀ task, (before.workerThread worker).task = some task →
      before.lifetime task.eventStorePointer ≠ .unborn)
    (taken : WorkerStep config before worker choice after) :
    after.OwnTransfers ↔
      transfersUnclosed before (.worker worker choice) := by
  have silent : choice.transfers = false →
      transfersUnclosed before (.worker worker choice) := by
    intro none_issued issued
    rw [none_issued] at issued
    cases issued
  cases taken with
  | syscall choice task call next syscall result kernel transfers at_point
      transferred =>
      have in_hand : (before.workerThread worker).task = some task := by
        rw [at_point]
        rfl
      have open_here := descriptors.open_iff _ (made task in_hand)
      constructor
      · intro right _ other holds
        cases in_hand.symm.trans holds
        apply open_here.mp
        exact right _ syscall _
          (List.mem_append_right _ (List.mem_singleton_self _))
      · intro unclosed store noted file member
        rcases List.mem_append.mp member with earlier | now
        · exact own store noted file earlier
        · cases List.mem_singleton.mp now
          exact open_here.mpr (unclosed transfers task in_hand)
  | take task rest at_point queue => exact iff_of_true own (silent rfl)
  | dispatch task at_point => exact iff_of_true own (silent rfl)
  | call task request call at_point => exact iff_of_true own (silent rfl)
  | returnCall task call at_point => exact iff_of_true own (silent rfl)
  | close task at_point may_close =>
      exact iff_of_true (ownTransfers_closeConnection own config _)
        (silent rfl)
  | finish task at_point => exact iff_of_true own (silent rfl)

theorem ownTransfers_serverStep_iff {config : Config}
    {before after : Server} {action : Action} (own : before.OwnTransfers)
    (descriptors : Descriptors before)
    (made : ∀ store, before.Pending store →
      before.lifetime store ≠ .unborn)
    (taken : ServerStep config before action after) :
    after.OwnTransfers ↔ transfersUnclosed before action := by
  cases taken with
  | network taken => cases taken <;> exact iff_of_true own trivial
  | accept choice taken =>
      refine iff_of_true ?_ trivial
      cases taken with
      | initConnection store outcome at_point =>
          have closed : (before.closeDescriptor store).OwnTransfers :=
            ownTransfers_record own (by simp)
          obtain ⟨ssl, result | result⟩ :=
            before.initConnection_cases config store outcome
          · rw [result]
            exact own
          · rw [result]
            exact closed
      | _ => exact own
  | poller poller choice bound taken =>
      refine iff_of_true ?_ trivial
      cases taken with
      | epollDel store rest handler at_point handler_eq =>
          exact ownTransfers_record own (by simp)
      | closeConnection store rest at_point =>
          exact ownTransfers_closeConnection own config store
      | erase store rest at_point =>
          exact ownTransfers_record own (by simp)
      | _ => exact own
  | worker worker choice bound taken =>
      refine ownTransfers_workerStep_iff own descriptors ?_ taken
      intro task holds
      exact made _ (.inr ⟨worker, task, holds, rfl⟩)
  | stop taken =>
      refine iff_of_true ?_ trivial
      cases taken with
      | closeListening closed at_point closes =>
          rcases Server.closeListening_cases closes with result | result
          · rw [result]
            exact own
          · rw [result]
            exact ownTransfers_record own (by simp)
      | closing store rest at_point =>
          exact ownTransfers_closeConnection own config store
      | _ => exact own

theorem ownTransfers_start (config : Config) :
    (Server.start config).OwnTransfers := by
  intro store syscall file member
  cases member

/-- All system calls of a run work on their stores' own connections exactly
when none of them comes after a `close` of its store's connection. -/
theorem ownTransfers_throughout_iff (config : Config)
    (actions : List Action) :
    (tcpServer config).Throughout Server.OwnTransfers (Server.start config)
        actions ↔
      (tcpServer config).Along transfersUnclosed (Server.start config)
        actions := by
  refine TransitionSystem.throughout_iff_along ?_ (.initial rfl)
    (ownTransfers_start config) actions
  intro before action after reachable own taken
  exact ownTransfers_serverStep_iff own (descriptors_of_reachable reachable)
    (fun _ => made_of_pending reachable) (serverStep_of_step taken)

/-- Between two calls of `send` the removal closes the number and the next
client gets it; the second `send` goes to that client. -/
theorem send_to_other_client :
    ¬ ∀ server, (tcpServer .single).Reachable server →
      server.OwnTransfers := by
  intro always
  obtain ⟨server, reachable, sent⟩ :=
    exists_server_of_replay .single (fun _ _ => True)
      (fun server =>
        .transfer 0 (.send [2]) (some (.client 1)) ∈ server.descriptorTrace)
      (connectAndAdmit 4 ++
        [.worker 0 .take, .worker 0 .dispatch,
          .worker 0 (.call (.sendData [1, 2])),
          .worker 0 (.syscall (.sent 1)), .hangUp 0 .halfClose] ++
        pollOne 0 0 ++ handleHangUp 0 ++ connectAndAdmit 4 ++
        [.worker 0 (.syscall (.sent 1))])
      (by decide)
  cases always server reachable 0 _ _ sent

end EventPlus

/-
Module: EventPlus.Server.EventBudget
Purpose: The pollers' events against the wake-ups of the sockets: as long as
  `epoll_wait` reports edges only, a connection has no more data and removal
  tasks than its socket has been woken.
Trusted boundary: none
Main exports:
  reportsEdges, Action.wakes, Server.eventsFor, Server.announced,
  UnreadAnnounced, events_within_wakeUps
-/
import EventPlus.Server.Aftermath
import EventPlus.Server.Effort

namespace EventPlus

open Function (update)

/-- `epoll_wait` reports sockets with an edge only, as it does for sockets
registered with `EPOLLET`. -/
def reportsEdges (server : Server) : Action → Prop
  | .poller _ (.report reported) =>
      ∀ connection ∈ reported,
        (server.kernel.socket connection).edge = true
  | _ => True

instance (server : Server) :
    (action : Action) → Decidable (reportsEdges server action)
  | .poller _ (.report reported) =>
      inferInstanceAs (Decidable (∀ connection ∈ reported, _))
  | .poller _ .proceed | .poller _ .timeout => .isTrue trivial
  | .connect | .segment _ _ | .hangUp _ _ | .accept _ | .worker _ _
  | .stop => .isTrue trivial

/-- What wakes the socket of a connection: a segment, be it one without data,
and the end of its receiving side, whatever the cause. -/
def Action.wakes (connection : ConnectionId) : Action → Bool
  | .segment other _ | .hangUp other _ => decide (other = connection)
  | _ => false

/-! ## Edges of connections nobody was told about -/

/-- A connection that has not been registered keeps its edge. -/
def UnreadAnnounced (server : Server) : Prop :=
  ∀ connection, server.registeredWith connection = none →
    0 < (server.kernel.socket connection).arrived ∨
        (server.kernel.socket connection).hungUp = true →
      (server.kernel.socket connection).edge = true

/-- What has arrived and which edges are set stay as they are. -/
structure Kernel.Still (before after : Kernel) : Prop where
  arrived : ∀ connection,
    (after.socket connection).arrived = (before.socket connection).arrived
  hungUp : ∀ connection,
    (after.socket connection).hungUp =
      (before.socket connection).hungUp
  edge : ∀ connection,
    (after.socket connection).edge = (before.socket connection).edge

namespace Kernel

variable {before after : Kernel}

theorem still_of_sockets (sockets : after.socket = before.socket) :
    before.Still after := by
  constructor <;> rw [sockets] <;> exact fun _ => rfl

theorem still_transfer {fd : Fd} {syscall : Syscall} {result : SysResult}
    (transferred : before.transfer fd syscall result = some after) :
    before.Still after := by
  rcases transfer_spec transferred with rfl | ⟨connection, count, -, rfl⟩
  · exact still_of_sockets rfl
  · have same : ∀ other,
        ((before.consume connection count).socket other).arrived =
            (before.socket other).arrived ∧
          ((before.consume connection count).socket other).hungUp =
            (before.socket other).hungUp ∧
          ((before.consume connection count).socket other).edge =
            (before.socket other).edge := by
      intro other
      by_cases here : other = connection
      · subst here
        simp [consume]
      · simp [consume, Function.update_of_ne here]
    exact ⟨fun other => (same other).1, fun other => (same other).2.1,
      fun other => (same other).2.2⟩

end Kernel

theorem Server.still_closeConnection (config : Config) (server : Server)
    (store : ConnectionId) :
    server.kernel.Still (server.closeConnection config store).kernel := by
  apply Kernel.still_of_sockets
  rcases server.closeConnection_cases config store with
    result | result | result
  · rw [result]
  · rw [result]
    exact Kernel.close_socket _ _
  · rw [result]
    exact Kernel.close_socket _ _

/-- What `epoll_ctl` finds ready at a registration has its edge already. -/
theorem UnreadAnnounced.still_registered {before : Server}
    (announced : UnreadAnnounced before) (owned : Ownership before)
    {store : ConnectionId} {poller : PollerId}
    (at_point : before.acceptThread = .admitting .addSocket store)
    {kernel : Kernel}
    (added : before.kernel.epollCtlAdd poller (before.fd store) =
      some kernel) : before.kernel.Still kernel := by
  obtain ⟨-, -, -, -, -, -, -, sockets⟩ := Kernel.epollCtlAdd_spec added
  refine ⟨fun other => (sockets other).1, fun other => (sockets other).2.2, ?_⟩
  intro connection
  unfold Kernel.epollCtlAdd at added
  split at added
  · rename_i denoted denotes
    have fresh : before.registeredWith denoted = none := by
      rw [owned.admitting_file _ store at_point denoted denotes]
      exact owned.admitting_fresh store (.inr at_point)
    split at added
    · cases added
      by_cases same : connection = denoted
      · subst same
        simp only [Function.update_self]
        cases edge : (before.kernel.socket connection).edge with
        | true => rfl
        | false =>
            have nothing : ¬(0 <
                  (before.kernel.socket connection).arrived ∨
                (before.kernel.socket connection).hungUp = true) := by
              intro something
              cases edge.symm.trans (announced connection fresh something)
            obtain ⟨none_arrived, still_open⟩ := not_or.mp nothing
            have unread : ¬0 < (before.kernel.socket connection).unread := by
              unfold Socket.unread
              omega
            simp [Kernel.event, unread, still_open]
      · simp only [Function.update_of_ne same]
    · cases added
  · cases added

section Steps

variable {config : Config} {before after : Server}

/-- Only wake-ups and reports change the edges. -/
theorem still_of_step {action : Action} (announced : UnreadAnnounced before)
    (owned : Ownership before) (taken : ServerStep config before action after)
    (unwoken : ∀ connection, action.wakes connection = false)
    (no_report : ∀ poller reported,
      action ≠ .poller poller (.report reported)) :
    before.kernel.Still after.kernel := by
  have same := Kernel.still_of_sockets (rfl : before.kernel.socket = _)
  cases taken with
  | network taken =>
      cases taken with
      | connect => exact Kernel.still_of_sockets rfl
      | segment connection count still_open =>
          have impossible := unwoken connection
          simp [Action.wakes] at impossible
      | hangUp connection cause =>
          have impossible := unwoken connection
          simp [Action.wakes] at impossible
  | accept choice taken =>
      cases taken with
      | accepted fd ssl kernel at_point got =>
          obtain ⟨-, rfl⟩ := Kernel.accept_spec got
          exact Kernel.still_of_sockets rfl
      | ntopFailed fd ssl kernel at_point got =>
          obtain ⟨-, rfl⟩ := Kernel.accept_spec got
          exact Kernel.still_of_sockets rfl
      | initConnection store outcome at_point =>
          obtain ⟨ssl, result | result⟩ :=
            before.initConnection_cases config store outcome
          · rw [result]
            exact same
          · rw [result]
            exact Kernel.still_of_sockets (Kernel.close_socket _ _)
      | registered store kernel at_point added =>
          exact announced.still_registered owned at_point added
      | _ => exact Kernel.still_of_sockets rfl
  | poller poller choice bound taken =>
      cases taken with
      | report reported entries kernel at_point waited =>
          exact absurd rfl (no_report poller reported)
      | epollDel store rest handler at_point handler_eq =>
          exact Kernel.still_of_sockets (Kernel.epollCtlDel_socket _ _ _)
      | closeConnection store rest at_point =>
          exact before.still_closeConnection config store
      | timeout at_point => exact Kernel.still_of_sockets rfl
      | _ => exact same
  | worker worker choice bound taken =>
      cases taken with
      | syscall choice task call next syscall result kernel transfers at_point
          transferred =>
          exact Kernel.still_transfer transferred
      | close task at_point may_close =>
          exact before.still_closeConnection config _
      | _ => exact same
  | stop taken =>
      cases taken with
      | closeListening closed at_point closes =>
          rcases Server.closeListening_cases closes with result | result
          · rw [result]
            exact same
          · rw [result]
            exact Kernel.still_of_sockets (Kernel.close_socket _ _)
      | closing store rest at_point =>
          exact before.still_closeConnection config store
      | _ => exact Kernel.still_of_sockets rfl

/-- Nothing takes a registration back. -/
theorem fresh_of_step {action : Action}
    (taken : ServerStep config before action after)
    {connection : ConnectionId}
    (fresh : after.registeredWith connection = none) :
    before.registeredWith connection = none := by
  cases taken with
  | network taken => cases taken <;> exact fresh
  | accept choice taken =>
      cases taken with
      | initConnection store outcome at_point =>
          obtain ⟨_, _, _, result⟩ :=
            before.initConnection_frame config store outcome
          rw [result] at fresh
          exact fresh
      | registered store kernel at_point added =>
          by_cases same : connection = store
          · subst same
            simp at fresh
          · simpa only [Function.update_of_ne same] using fresh
      | _ => exact fresh
  | poller poller choice bound taken =>
      cases taken with
      | closeConnection store rest at_point =>
          obtain ⟨_, _, _, result⟩ :=
            before.closeConnection_frame config store
          rw [result] at fresh
          exact fresh
      | _ => exact fresh
  | worker worker choice bound taken =>
      cases taken with
      | close task at_point may_close =>
          obtain ⟨_, _, _, result⟩ :=
            before.closeConnection_frame config task.eventStorePointer
          rw [result] at fresh
          exact fresh
      | _ => exact fresh
  | stop taken =>
      cases taken with
      | closeListening closed at_point closes =>
          obtain ⟨_, _, result⟩ := Server.closeListening_frame closes
          rw [result] at fresh
          exact fresh
      | closing store rest at_point =>
          obtain ⟨_, _, _, result⟩ :=
            before.closeConnection_frame config store
          rw [result] at fresh
          exact fresh
      | _ => exact fresh

namespace UnreadAnnounced

theorem still (announced : UnreadAnnounced before)
    (still : before.kernel.Still after.kernel)
    (fresh : ∀ connection, after.registeredWith connection = none →
      before.registeredWith connection = none) : UnreadAnnounced after := by
  intro connection unregistered something
  rw [still.arrived, still.hungUp] at something
  rw [still.edge]
  exact announced connection (fresh connection unregistered) something

/-- Something new comes with an edge. -/
theorem arrival {action : Action} (announced : UnreadAnnounced before)
    (taken : NetworkStep before action after) : UnreadAnnounced after := by
  cases taken with
  | connect => exact announced
  | segment connection count still_open =>
      intro other unregistered something
      by_cases same : other = connection
      · subst same
        simp [Kernel.segment]
      · simp only [Kernel.segment, Function.update_of_ne same] at something ⊢
        exact announced other unregistered something
  | hangUp connection cause =>
      intro other unregistered something
      by_cases same : other = connection
      · subst same
        simp [Kernel.hangUp]
      · simp only [Kernel.hangUp, Function.update_of_ne same]
          at something ⊢
        exact announced other unregistered something

/-- Only sockets that were registered are reported. -/
theorem report (announced : UnreadAnnounced before) (owned : Ownership before)
    {poller : PollerId} {reported : List ConnectionId}
    {entries : List EpollEvent} {kernel : Kernel}
    (waited : before.kernel.epollWait poller reported =
      some (entries, kernel)) (point : PollerPoint) :
    UnreadAnnounced
      ({ before with kernel := kernel }.setPoller poller point) := by
  obtain ⟨-, -, subset, -, -, -, sockets⟩ := Kernel.epollWait_spec waited
  intro connection unregistered something
  change before.registeredWith connection = none at unregistered
  change 0 < (kernel.socket connection).arrived ∨
    (kernel.socket connection).hungUp = true at something
  change (kernel.socket connection).edge = true
  rw [(sockets connection).1, (sockets connection).2.2] at something
  have untold : connection ∉ reported := by
    intro told
    cases unregistered.symm.trans
      (owned.watched_with poller connection (subset connection told))
  rw [Kernel.edge_report waited, decide_eq_false untold]
  exact announced connection unregistered something

end UnreadAnnounced

end Steps

theorem unreadAnnounced_of_reachable {config : Config} {server : Server}
    (reachable : (tcpServer config).Reachable server) :
    UnreadAnnounced server := by
  refine TransitionSystem.Reachable.invariant ?_ ?_ reachable
  · rintro state rfl connection - something
    simp [Server.start] at something
  · intro before action after reached taken announced
    have owned := ownership_of_reachable reached
    have moved := serverStep_of_step taken
    have others : (∀ connection, action.wakes connection = false) →
        (∀ poller reported, action ≠ .poller poller (.report reported)) →
          UnreadAnnounced after := by
      intro unwoken no_report
      apply announced.still
        (still_of_step announced owned moved unwoken no_report)
      exact fun _ => fresh_of_step moved
    cases action with
    | segment connection count =>
        cases moved with
        | network arrived => exact announced.arrival arrived
    | hangUp connection cause =>
        cases moved with
        | network arrived => exact announced.arrival arrived
    | poller poller choice =>
        cases choice with
        | report reported =>
            cases moved with
            | network impossible => cases impossible
            | poller _ _ bound line =>
                cases line with
                | report _ entries kernel at_point waited =>
                    exact announced.report owned waited _
        | _ => exact others (fun _ => rfl) (by simp)
    | _ => exact others (fun _ => rfl) (by simp)

/-! ## What is announced -/

/-- The entries for a connection that will still become a task. -/
def PollerPoint.due (connection : ConnectionId) : PollerPoint → Nat
  | .batch rest => rest.countP fun entry => entry.store = connection
  | .busy stage store rest =>
      (stage.owes && decide (store = connection)).toNat +
        rest.countP fun entry => entry.store = connection
  | _ => 0

namespace Server

/-- The data and removal tasks enqueued for a connection. -/
def eventsFor (connection : ConnectionId) (server : Server) : Nat :=
  server.enqueued.countP fun task =>
    task.eventStorePointer = connection ∧ task.origin ≠ .accept

/-- The tasks of the pollers for a connection, those they have in hand, and the
one its edge will bring. -/
def announced (config : Config) (connection : ConnectionId)
    (server : Server) : Nat :=
  server.eventsFor connection +
    (server.kernel.socket connection).edge.toNat +
    workload (List.range config.numPollers) (PollerPoint.due connection)
      server.pollerThread

end Server

section Announced

variable {config : Config} {before after : Server} {connection : ConnectionId}

theorem announced_same (enqueued : after.enqueued = before.enqueued)
    (pollers : after.pollerThread = before.pollerThread) {more : Nat}
    (edge : (after.kernel.socket connection).edge.toNat ≤
      (before.kernel.socket connection).edge.toNat + more) :
    after.announced config connection ≤
      before.announced config connection + more := by
  unfold Server.announced Server.eventsFor
  rw [enqueued, pollers]
  omega

theorem announced_poller {poller : PollerId} {point next : PollerPoint}
    (bound : poller < config.numPollers)
    (at_point : before.pollerThread poller = point)
    (pollers : after.pollerThread = update before.pollerThread poller next)
    (paid :
      after.eventsFor connection +
          (after.kernel.socket connection).edge.toNat + next.due connection ≤
        before.eventsFor connection +
          (before.kernel.socket connection).edge.toNat +
          point.due connection) :
    after.announced config connection ≤
      before.announced config connection := by
  have moved :
      workload (List.range config.numPollers) (PollerPoint.due connection)
          (update before.pollerThread poller next) +
          (before.pollerThread poller).due connection ≤
        workload (List.range config.numPollers) (PollerPoint.due connection)
          before.pollerThread + next.due connection :=
    Workload.move List.nodup_range (List.mem_range.mpr bound)
      (Nat.le_of_eq (Nat.add_comm _ _))
  rw [at_point] at moved
  unfold Server.announced
  rw [pollers]
  omega

/-- A poller that stays in its batch and enqueues nothing. -/
theorem announced_move {poller : PollerId} {point next : PollerPoint}
    (bound : poller < config.numPollers)
    (at_point : before.pollerThread poller = point)
    (pollers : after.pollerThread = update before.pollerThread poller next)
    (enqueued : after.enqueued = before.enqueued)
    (still : before.kernel.Still after.kernel)
    (due : next.due connection ≤ point.due connection) :
    after.announced config connection ≤
      before.announced config connection := by
  apply announced_poller bound at_point pollers
  unfold Server.eventsFor
  rw [enqueued, still.edge]
  omega

theorem eventsFor_enqueueTask (connection : ConnectionId) (server : Server)
    (store : ConnectionId) {origin : TaskOrigin}
    (not_accept : origin ≠ .accept) :
    (server.enqueueTask
        { eventStorePointer := store, origin := origin }).eventsFor
        connection =
      server.eventsFor connection + (decide (store = connection)).toNat := by
  unfold Server.eventsFor Server.enqueueTask
  by_cases same : store = connection
  · simp [List.countP_append, same, not_accept]
  · simp [List.countP_append, same]

theorem due_entries (entries : List EpollEvent) (entry : EpollEvent) :
    (entry :: entries).countP (fun entry => entry.store = connection) =
      (decide (entry.store = connection)).toNat +
        entries.countP fun entry => entry.store = connection := by
  by_cases same : entry.store = connection
  · simp [same, Nat.add_comm]
  · simp [same]

/-- A report turns the edge of a connection into one entry. -/
theorem due_report (connection : ConnectionId) {kernel next : Kernel}
    {poller : PollerId} {reported : List ConnectionId}
    {entries : List EpollEvent}
    (waited : kernel.epollWait poller reported = some (entries, next))
    (edges : ∀ connection ∈ reported,
      (kernel.socket connection).edge = true) :
    (next.socket connection).edge.toNat +
        entries.countP (fun entry => entry.store = connection) ≤
      (kernel.socket connection).edge.toNat := by
  obtain ⟨rfl, distinct, -, -, -, -⟩ := Kernel.epollWait_spec waited
  rw [Kernel.edge_report waited]
  have entries : (reported.map kernel.event).countP
        (fun entry => entry.store = connection) =
      reported.count connection := by
    rw [List.countP_map, List.count]
    apply List.countP_congr
    intro other _
    rw [beq_iff_eq]
    exact decide_eq_true_iff
  rw [entries]
  by_cases told : connection ∈ reported
  · rw [List.count_eq_one_of_mem distinct told, edges connection told]
    simp [told]
  · rw [List.count_eq_zero_of_not_mem told]
    simp [told]

theorem announced_pollerStep {poller : PollerId} {choice : PollerChoice}
    (bound : poller < config.numPollers)
    (edges : reportsEdges before (.poller poller choice))
    (taken : PollerStep config before poller choice after) :
    after.announced config connection ≤
      before.announced config connection := by
  have same := Kernel.still_of_sockets (rfl : before.kernel.socket = _)
  cases taken with
  | report reported entries kernel at_point waited =>
      refine announced_poller bound at_point rfl ?_
      have paid := due_report connection waited edges
      simp only [PollerPoint.due]
      change before.eventsFor connection + (kernel.socket connection).edge.toNat
        + _ ≤ _
      omega
  | loop at_point =>
      refine announced_move bound at_point rfl rfl same ?_
      split <;> exact Nat.le_refl _
  | hangUp entry rest at_point flag =>
      refine announced_move bound at_point rfl rfl same ?_
      simp only [PollerPoint.due, due_entries, PollerStage.owes, Bool.true_and]
      exact Nat.le_refl _
  | data entry rest at_point flag =>
      refine announced_move bound at_point rfl rfl same ?_
      simp only [PollerPoint.due, due_entries, PollerStage.owes, Bool.true_and]
      exact Nat.le_refl _
  | skipped entry rest at_point =>
      refine announced_move bound at_point rfl rfl same ?_
      simp only [PollerPoint.due, due_entries]
      exact Nat.le_add_left _ _
  | dispatch store rest at_point =>
      refine announced_poller bound at_point rfl ?_
      have more := eventsFor_enqueueTask connection before store
        (show TaskOrigin.data ≠ .accept by decide)
      simp only [PollerPoint.due, PollerStage.owes, Bool.true_and]
      change (before.enqueueTask _).eventsFor connection + _ + _ ≤ _
      rw [more]
      simp only [Server.setPoller, Server.enqueueTask]
      omega
  | enqueue store rest at_point =>
      refine announced_poller bound at_point rfl ?_
      have more := eventsFor_enqueueTask connection before store
        (show TaskOrigin.removal ≠ .accept by decide)
      simp only [PollerPoint.due, PollerStage.owes, Bool.true_and,
        Bool.false_and, Bool.toNat_false]
      change (before.enqueueTask _).eventsFor connection + _ + _ ≤ _
      rw [more]
      simp only [Server.setPoller, Server.enqueueTask]
      omega
  | closeConnection store rest at_point =>
      obtain ⟨enqueued, -, pollers⟩ :=
        raised_closeConnection config before store
      have moved :
          ((before.closeConnection config store).setPoller poller
              (.busy .enqueue store rest)).pollerThread =
            update before.pollerThread poller (.busy .enqueue store rest) := by
        rw [Server.setPoller, pollers]
      exact announced_move bound at_point moved enqueued
        (before.still_closeConnection config store) (Nat.le_refl _)
  | epollDel store rest handler at_point handler_eq =>
      exact announced_move bound at_point rfl rfl
        (Kernel.still_of_sockets (Kernel.epollCtlDel_socket _ _ _))
        (Nat.le_refl _)
  | unlock store rest at_point =>
      exact announced_move bound at_point rfl rfl same (Nat.le_add_left _ _)
  | timeout at_point =>
      exact announced_move bound at_point rfl rfl
        (Kernel.still_of_sockets rfl) (Nat.le_refl _)
  | batchDone at_point =>
      exact announced_move bound at_point rfl rfl same (Nat.le_refl _)
  | setIncoming store rest at_point =>
      exact announced_move bound at_point rfl rfl same (Nat.le_refl _)
  | lock store rest at_point free =>
      exact announced_move bound at_point rfl rfl same (Nat.le_refl _)
  | setClosed store rest at_point =>
      exact announced_move bound at_point rfl rfl same (Nat.le_refl _)
  | noHandler store rest at_point handler_eq =>
      exact announced_move bound at_point rfl rfl same (Nat.le_refl _)
  | erase store rest at_point =>
      exact announced_move bound at_point rfl rfl same (Nat.le_refl _)

end Announced

/-! ## Whole runs -/

section Runs

variable {config : Config} {before after : Server}

/-- A wake-up sets one edge at most. -/
theorem announced_networkStep {action : Action} (connection : ConnectionId)
    (taken : NetworkStep before action after) :
    after.announced config connection ≤
      before.announced config connection +
        (action.wakes connection).toNat := by
  have edges : ∀ {other : ConnectionId} {socket : Socket},
      (update before.kernel.socket other socket connection).edge.toNat ≤
        (before.kernel.socket connection).edge.toNat +
          (decide (other = connection)).toNat := by
    intro other socket
    by_cases same : other = connection
    · rw [decide_eq_true same]
      exact Nat.le_trans (Bool.toNat_le _) (Nat.le_add_left _ _)
    · rw [Function.update_of_ne (Ne.symm same)]
      exact Nat.le_add_right _ _
  cases taken with
  | connect => exact Nat.le_refl _
  | segment other count still_open =>
      exact announced_same (by rfl) (by rfl) edges
  | hangUp other cause =>
      exact announced_same (by rfl) (by rfl) edges

/-- The tasks of the other threads are no events of the pollers. -/
theorem eventsFor_acceptStep {choice : AcceptChoice}
    (connection : ConnectionId)
    (taken : AcceptStep config before choice after) :
    after.eventsFor connection = before.eventsFor connection ∧
      after.pollerThread = before.pollerThread := by
  cases taken with
  | initConnection store outcome at_point =>
      obtain ⟨_, _, _, result⟩ :=
        before.initConnection_frame config store outcome
      rw [result]
      exact ⟨rfl, rfl⟩
  | enqueue store at_point =>
      refine ⟨?_, rfl⟩
      simp [Server.eventsFor, Server.enqueueTask, List.countP_append]
  | _ => exact ⟨rfl, rfl⟩

/-- Each step announces no more than the wake-ups in it. -/
theorem announced_of_step {action : Action} (connection : ConnectionId)
    (reachable : (tcpServer config).Reachable before)
    (edges : reportsEdges before action)
    (taken : (tcpServer config).step before action = some after) :
    after.announced config connection ≤
      before.announced config connection +
        (action.wakes connection).toNat := by
  have moved := serverStep_of_step taken
  have still : (∀ connection, action.wakes connection = false) →
      (∀ poller reported, action ≠ .poller poller (.report reported)) →
        before.kernel.Still after.kernel :=
    still_of_step (unreadAnnounced_of_reachable reachable)
      (ownership_of_reachable reachable) moved
  have unchanged : before.kernel.Still after.kernel →
      (after.kernel.socket connection).edge.toNat ≤
        (before.kernel.socket connection).edge.toNat + 0 := by
    intro still
    rw [still.edge]
    exact Nat.le_refl _
  cases moved with
  | network arrived => exact announced_networkStep connection arrived
  | accept choice line =>
      obtain ⟨events, pollers⟩ := eventsFor_acceptStep connection line
      have edge := unchanged (still (fun _ => rfl) (by simp))
      unfold Server.announced
      rw [events, pollers]
      omega
  | poller poller choice bound line =>
      exact announced_pollerStep bound edges line
  | worker worker choice bound line =>
      have edge := unchanged (still (fun _ => rfl) (by simp))
      cases line with
      | close task at_point may_close =>
          obtain ⟨enqueued, -, pollers⟩ :=
            raised_closeConnection config before task.eventStorePointer
          exact announced_same enqueued pollers edge
      | _ =>
          exact announced_same (by rfl) (by rfl) edge
  | stop line =>
      have edge := unchanged (still (fun _ => rfl) (by simp))
      cases line with
      | closeListening closed at_point closes =>
          obtain ⟨_, _, result⟩ := Server.closeListening_frame closes
          rw [result] at edge ⊢
          exact announced_same (by rfl) (by rfl) edge
      | closing store rest at_point =>
          obtain ⟨enqueued, -, pollers⟩ :=
            raised_closeConnection config before store
          exact announced_same enqueued pollers edge
      | _ =>
          exact announced_same (by rfl) (by rfl) edge

end Runs

/-- The receiver is not told more often than the socket is woken.  In every run,
with either handler, whatever callbacks and `stopPolling` do, the data and
removal tasks ever enqueued for a connection are no more than the wake-ups of
its socket: by a segment, with data or without, or by the end of its receiving
side.  `epoll_wait` reports sockets with an edge only. -/
theorem events_within_wakeUps {config : Config} {actions : List Action}
    {last : Server} (connection : ConnectionId)
    (along :
      (tcpServer config).Along reportsEdges (Server.start config) actions)
    (ran :
      (tcpServer config).run (Server.start config) actions = some last) :
    last.eventsFor connection ≤
      actions.countP (Action.wakes connection) := by
  have pays : (tcpServer config).Pays (fun _ => True) reportsEdges
      (Server.announced config connection)
      fun action => (action.wakes connection).toNat := by
    intro before action after reachable _ edges taken
    exact ⟨trivial, announced_of_step connection reachable edges taken⟩
  have bound := TransitionSystem.run_within_count pays (.initial rfl) trivial
    along ran
  have nothing : (Server.start config).announced config connection = 0 := by
    have pollers : workload (List.range config.numPollers)
        (PollerPoint.due connection) (Server.start config).pollerThread ≤
          0 * (List.range config.numPollers).length :=
      Workload.le_mul fun _ _ => Nat.le_refl _
    rw [Nat.zero_mul] at pollers
    exact Nat.le_antisymm (by simpa [Server.announced, Server.start,
      Server.eventsFor] using pollers) (Nat.zero_le _)
  rw [nothing, Nat.zero_add] at bound
  refine Nat.le_trans ?_ bound
  unfold Server.announced
  omega

/-- Two segments and a reset arrive, and the poller is told twice. -/
theorem events_within_wakeUps_coalesced :
    ∃ actions last,
      (tcpServer .single).run (Server.start .single) actions = some last ∧
        actions.countP (Action.wakes 0) = 3 ∧ last.eventsFor 0 = 2 ∧
          last.eventsFor 0 ≤ 3 := by
  have tested :
      ((tcpServer .single).replay reportsEdges (Server.start .single)
        (connectAndAdmit 4 ++ [.segment 0 3] ++ pollOne 0 0 ++ handleData 0 ++
          [.segment 0 2, .hangUp 0 .reset] ++ pollOne 0 0 ++
            handleHangUp 0)).any
        (fun last => last.eventsFor 0 = 2) = true := by
    decide
  obtain ⟨last, replayed, twice⟩ := Option.any_eq_true _ _ |>.mp tested
  obtain ⟨along, ran⟩ := TransitionSystem.along_of_replay replayed
  exact ⟨_, last, ran, by decide, of_decide_eq_true twice,
    events_within_wakeUps 0 along ran⟩

end EventPlus

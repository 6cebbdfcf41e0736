/-
Module: EventPlus.Server.HangUpNotice
Purpose: Hang-ups, by the peer or by the kernel: where the notice of one is
  until its connection is removed, and that nothing else removes a connection.
Trusted boundary: none
Main exports:
  Kernel.Keeps, Kernel.keeps_of_step, PollerPoint.removals_kept,
  HangUpNotices, hangUpNotices_of_reachable, hangUps_noticed
-/
import EventPlus.Server.HangUp
import EventPlus.Server.TaskOrder

namespace EventPlus

open Function (update)

/-! ## What a step does to the sockets -/

/-- Hang-ups stay, edges stay, and whatever is new comes with an edge. -/
structure Kernel.Keeps (before after : Kernel) : Prop where
  hungUp : ∀ connection,
    (before.socket connection).hungUp = true →
      (after.socket connection).hungUp = true
  closing : ∀ connection, (after.socket connection).hungUp = true →
    (before.socket connection).hungUp = true ∨
      (after.socket connection).edge = true
  edge : ∀ connection, (before.socket connection).edge = true →
    (after.socket connection).edge = true
  watched : ∀ poller connection,
    connection ∈ after.watched poller →
      connection ∈ before.watched poller ∨
        ((after.socket connection).hungUp = true →
          (after.socket connection).edge = true)

namespace Kernel

variable {before after : Kernel}

/-- The sockets are as before, and no more of them are watched. -/
theorem Keeps.of_fewer (sockets : after.socket = before.socket)
    (fewer : ∀ poller connection, connection ∈ after.watched poller →
      connection ∈ before.watched poller) : before.Keeps after where
  hungUp := by
    rw [sockets]
    exact fun _ => id
  closing := by
    rw [sockets]
    exact fun _ => .inl
  edge := by
    rw [sockets]
    exact fun _ => id
  watched := fun poller connection member =>
    .inl (fewer poller connection member)

theorem Keeps.refl (kernel : Kernel) : kernel.Keeps kernel :=
  .of_fewer rfl fun _ _ => id

theorem keeps_close (kernel : Kernel) (fd : Fd) :
    kernel.Keeps (kernel.close fd) :=
  .of_fewer (close_socket kernel fd) fun _ _ member =>
    (mem_close_watched.mp member).1

theorem keeps_epollCtlDel (kernel : Kernel) (poller : PollerId) (fd : Fd) :
    kernel.Keeps (kernel.epollCtlDel poller fd) :=
  .of_fewer (epollCtlDel_socket kernel poller fd) fun _ _ =>
    mem_watched_of_epollCtlDel

theorem keeps_closeEpoll (kernel : Kernel) (poller : PollerId)
    (waiting : Bool) : kernel.Keeps (kernel.closeEpoll poller waiting) :=
  .of_fewer rfl fun _ _ => mem_watched_of_closeEpoll

theorem keeps_epollReturns (kernel : Kernel) (poller : PollerId) :
    kernel.Keeps (kernel.epollReturns poller) :=
  .of_fewer rfl fun _ _ => mem_watched_of_returned rfl rfl

theorem keeps_accept {fd : Fd} {connection : ConnectionId}
    (got : before.accept fd connection = some after) :
    before.Keeps after := by
  obtain ⟨-, rfl⟩ := accept_spec got
  exact .of_fewer rfl fun _ _ => id

/-- A change of one socket that only raises its flags. -/
theorem keeps_update {kernel : Kernel} {connection : ConnectionId}
    {socket : Socket}
    (hungUp : (kernel.socket connection).hungUp = true →
      socket.hungUp = true)
    (closing : socket.hungUp = true →
      (kernel.socket connection).hungUp = true ∨ socket.edge = true)
    (edge : (kernel.socket connection).edge = true → socket.edge = true) :
    kernel.Keeps
      { kernel with socket := update kernel.socket connection socket } := by
  constructor
  · intro other
    by_cases same : other = connection
    · subst same
      simpa using hungUp
    · simp [Function.update_of_ne same]
  · intro other
    by_cases same : other = connection
    · subst same
      simpa using closing
    · simp +contextual [Function.update_of_ne same]
  · intro other
    by_cases same : other = connection
    · subst same
      simpa using edge
    · simp [Function.update_of_ne same]
  · exact fun _ _ => .inl

/-- `EPOLL_CTL_ADD` announces a hang-up that has arrived already. -/
theorem keeps_epollCtlAdd {poller : PollerId} {fd : Fd}
    (added : before.epollCtlAdd poller fd = some after) :
    before.Keeps after := by
  unfold epollCtlAdd at added
  split at added
  · rename_i connection denotes
    split at added
    · cases added
      have sockets : before.Keeps
          { before with
              socket :=
                update before.socket connection
                  { before.socket connection with
                      edge :=
                        (before.socket connection).edge ||
                          (before.event connection).epollIn } } := by
        apply keeps_update
        · exact id
        · exact .inl
        · intro pending
          simp [pending]
      refine { sockets with watched := ?_ }
      intro other connected member
      rw [mem_watched] at member
      dsimp only at member ⊢
      rcases member with registered | flight
      · by_cases same : other = poller
        · subst same
          rw [Function.update_self, List.mem_append, List.mem_singleton]
            at registered
          rcases registered with earlier | rfl
          · exact .inl (mem_watched.mpr (.inl earlier))
          · right
            intro hung_up
            simp only [Function.update_self, event] at hung_up ⊢
            simp [hung_up]
        · rw [Function.update_of_ne same] at registered
          exact .inl (mem_watched.mpr (.inl registered))
      · exact .inl (mem_watched.mpr (.inr flight))
    · cases added
  · cases added

theorem keeps_transfer {fd : Fd} {syscall : Syscall} {result : SysResult}
    (transferred : before.transfer fd syscall result = some after) :
    before.Keeps after := by
  rcases transfer_spec transferred with rfl | ⟨connection, count, -, rfl⟩
  · exact .refl _
  · exact keeps_update id .inl id

end Kernel

theorem Server.keeps_closeConnection (config : Config) (server : Server)
    (store : ConnectionId) :
    server.kernel.Keeps (server.closeConnection config store).kernel := by
  rcases server.closeConnection_cases config store with
    result | result | result
  · rw [result]
    exact .refl _
  · rw [result]
    exact Kernel.keeps_close _ _
  · rw [result]
    exact Kernel.keeps_close _ _

/-- Every step but the return of a poller's `epoll_wait`. -/
theorem Kernel.keeps_of_step {config : Config} {before after : Server}
    {action : Action} (taken : ServerStep config before action after)
    (no_report : ∀ poller reported,
      action ≠ .poller poller (.report reported)) :
    before.kernel.Keeps after.kernel := by
  cases taken with
  | network taken =>
      cases taken with
      | connect => exact .of_fewer rfl fun _ _ => id
      | segment connection count still_open =>
          exact keeps_update id .inl fun _ => rfl
      | hangUp connection cause =>
          exact keeps_update (fun _ => rfl) (fun _ => .inr rfl) fun _ => rfl
  | accept choice taken =>
      cases taken with
      | accepted fd ssl kernel at_point got => exact keeps_accept got
      | ntopFailed fd ssl kernel at_point got => exact keeps_accept got
      | initConnection store outcome at_point =>
          obtain ⟨ssl, result | result⟩ :=
            before.initConnection_cases config store outcome
          · rw [result]
            exact .refl _
          · rw [result]
            exact keeps_close _ _
      | registered store kernel at_point added =>
          exact keeps_epollCtlAdd added
      | _ => exact .of_fewer rfl fun _ _ => id
  | poller poller choice bound taken =>
      cases taken with
      | report reported entries kernel at_point waited =>
          exact absurd rfl (no_report poller reported)
      | timeout at_point => exact keeps_epollReturns _ _
      | epollDel store rest handler at_point handler_eq =>
          exact keeps_epollCtlDel _ _ _
      | closeConnection store rest at_point =>
          exact before.keeps_closeConnection config store
      | _ => exact .refl _
  | worker worker choice bound taken =>
      cases taken with
      | syscall choice task call next syscall result kernel transfers at_point
          transferred =>
          exact keeps_transfer transferred
      | close task at_point may_close =>
          exact before.keeps_closeConnection config _
      | _ => exact .refl _
  | stop taken =>
      cases taken with
      | unregister at_point next still_outside =>
          exact .of_fewer rfl fun _ _ => id
      | closeListening closed at_point closes =>
          rcases Server.closeListening_cases closes with result | result
          · rw [result]
            exact .refl _
          · rw [result]
            exact keeps_close _ _
      | closePollerEpoll poller at_point => exact keeps_closeEpoll _ _ _
      | closing store rest at_point =>
          exact before.keeps_closeConnection config store
      | _ => exact .refl _

/-! ## What a poller has still to remove -/

/-- A poller forgets a removal only where `removeSocket` returns from it. -/
theorem PollerPoint.removals_kept {config : Config} {before after : Server}
    {poller : PollerId} {choice : PollerChoice}
    (taken : pollerStep config before poller choice = some after)
    {store : ConnectionId}
    (planned : store ∈ (before.pollerThread poller).removals) :
    store ∈ (after.pollerThread poller).removals ∨
      ∃ rest, before.pollerThread poller = .busy .unlock store rest := by
  have moves := pollerStep_of_some taken
  have moved : ∀ {server : Server} {point : PollerPoint},
      store ∈ point.removals →
        store ∈ ((server.setPoller poller point).pollerThread poller).removals
      := by
    intro server point member
    rw [Server.setPoller_self]
    exact member
  cases moves with
  | loop at_point =>
      rw [at_point] at planned
      cases planned
  | report reported entries kernel at_point waited =>
      rw [at_point] at planned
      cases planned
  | timeout at_point =>
      rw [at_point] at planned
      cases planned
  | batchDone at_point =>
      rw [at_point] at planned
      cases planned
  | hangUp entry rest at_point flag =>
      rw [at_point] at planned
      refine .inl (moved ?_)
      simpa [PollerPoint.removals, PollerStage.removes, hangUps, flag]
        using planned
  | data entry rest at_point flag =>
      rw [at_point] at planned
      refine .inl (moved ?_)
      simpa [PollerPoint.removals, PollerStage.removes, hangUps, flag]
        using planned
  | skipped entry rest at_point =>
      rw [at_point] at planned
      refine .inl (moved ?_)
      cases flag : entry.epollRdhup with
      | false =>
          simpa [PollerPoint.removals, hangUps, flag] using planned
      | true =>
          -- an entry with `EPOLLRDHUP` is never skipped
          simp only [pollerStep, at_point, flag, if_true,
            Option.some.injEq] at taken
          have points := congrArg (·.pollerThread poller) taken
          simp at points
  | unlock remover rest at_point =>
      rw [at_point] at planned
      rcases List.mem_cons.mp planned with rfl | later
      · exact .inr ⟨rest, at_point⟩
      · exact .inl (moved later)
  | lock remover rest at_point free =>
      rw [at_point] at planned
      exact .inl (moved planned)
  | noHandler remover rest at_point handler_eq =>
      rw [at_point] at planned
      exact .inl (moved planned)
  | epollDel remover rest handler at_point handler_eq =>
      rw [at_point] at planned
      exact .inl (moved planned)
  | _ =>
      rename_i at_point
      rw [at_point] at planned
      exact .inl (moved planned)

/-! ## The notices -/

/-- A watched connection that has hung up has an edge that is still to be
reported, or its poller is on the way to remove it.  Nothing else is on the way
to be removed, and no removal task is about anything else. -/
structure HangUpNotices (server : Server) : Prop where
  noticed : ∀ poller connection,
    connection ∈ server.kernel.watched poller →
      (server.kernel.socket connection).hungUp = true →
        (server.kernel.socket connection).edge = true ∨
          connection ∈ (server.pollerThread poller).removals
  removing : ∀ poller, ∀ connection ∈ (server.pollerThread poller).removals,
    (server.kernel.socket connection).hungUp = true
  tasks : ∀ task ∈ server.enqueued, task.origin = .removal →
    (server.kernel.socket task.eventStorePointer).hungUp = true

namespace HangUpNotices

variable {config : Config} {before after : Server}

theorem start (config : Config) : HangUpNotices (Server.start config) where
  noticed := by
    intro poller connection member
    cases member
  removing := by
    intro poller connection member
    cases member
  tasks := by
    intro task member
    cases member

/-- A step that keeps the sockets' flags. -/
theorem keep (notices : HangUpNotices before)
    (kept : before.kernel.Keeps after.kernel)
    (planned : ∀ poller, ∀ connection ∈ (before.pollerThread poller).removals,
      connection ∈ (after.pollerThread poller).removals ∨
        connection ∉ before.kernel.watched poller)
    (fewer : ∀ poller, ∀ connection ∈ (after.pollerThread poller).removals,
      connection ∈ (before.pollerThread poller).removals)
    (tasks : ∀ task ∈ after.enqueued, task ∈ before.enqueued ∨
      (task.origin = .removal →
        ∃ poller,
          task.eventStorePointer ∈ (before.pollerThread poller).removals)) :
    HangUpNotices after where
  noticed := by
    intro poller connection member hung_up
    rcases kept.watched poller connection member with earlier | announced
    · rcases kept.closing connection hung_up with was | announced
      · rcases notices.noticed poller connection earlier was with
          pending | there
        · exact .inl (kept.edge connection pending)
        · rcases planned poller connection there with still | gone
          · exact .inr still
          · exact absurd earlier gone
      · exact .inl announced
    · exact .inl (announced hung_up)
  removing := by
    intro poller connection member
    apply kept.hungUp
    exact notices.removing poller connection (fewer poller connection member)
  tasks := by
    intro task member removal
    apply kept.hungUp
    rcases tasks task member with earlier | raised
    · exact notices.tasks task earlier removal
    · obtain ⟨poller, there⟩ := raised removal
      exact notices.removing poller _ there

/-- `epoll_wait` turns the edges it takes into entries of the batch. -/
theorem report (notices : HangUpNotices before) (owned : Ownership before)
    {poller : PollerId} {reported : List ConnectionId}
    {entries : List EpollEvent} {kernel : Kernel}
    (at_point : before.pollerThread poller = .epollWait)
    (waited : before.kernel.epollWait poller reported =
      some (entries, kernel)) :
    HangUpNotices
      ({ before with kernel := kernel }.setPoller poller
        (.batch entries)) := by
  obtain ⟨rfl, -, subset, -, sets, flight, flags⟩ :=
    Kernel.epollWait_spec waited
  have unreported : ∀ connection, connection ∉ reported →
      kernel.socket connection = before.kernel.socket connection := by
    intro connection outside
    unfold Kernel.epollWait at waited
    split at waited
    · cases waited
      exact if_neg outside
    · cases waited
  constructor
  · intro other connection member hung_up
    change connection ∈ kernel.watched other at member
    change (kernel.socket connection).hungUp = true at hung_up
    change (kernel.socket connection).edge = true ∨ _
    have earlier := Kernel.mem_watched_of_returned sets flight member
    rw [(flags connection).2.2] at hung_up
    by_cases told : connection ∈ reported
    · -- a connection is watched by one poller only
      have here := owned.watched_with _ _ (subset connection told)
      have there := owned.watched_with _ _ earlier
      cases here.symm.trans there
      right
      rw [Server.setPoller_self]
      simp only [PollerPoint.removals, hangUps, List.mem_map,
        List.mem_filter]
      exact ⟨before.kernel.event connection,
        ⟨⟨connection, told, rfl⟩, hung_up⟩, rfl⟩
    · rw [unreported connection told]
      rcases notices.noticed other connection earlier hung_up with
        pending | there
      · exact .inl pending
      · have elsewhere : other ≠ poller := by
          rintro rfl
          rw [at_point] at there
          cases there
        right
        rw [Server.setPoller_of_ne elsewhere]
        exact there
  · intro other connection member
    change (kernel.socket connection).hungUp = true
    rw [(flags connection).2.2]
    by_cases same : other = poller
    · subst same
      rw [Server.setPoller_self] at member
      exact (mem_hangUps_report member).2
    · rw [Server.setPoller_of_ne same] at member
      exact notices.removing other connection member
  · intro task member removal
    change (kernel.socket task.eventStorePointer).hungUp = true
    rw [(flags _).2.2]
    exact notices.tasks task member removal

end HangUpNotices

/-- The tasks a poller's step enqueues. -/
theorem enqueued_of_pollerStep {config : Config} {before after : Server}
    {poller : PollerId} {choice : PollerChoice}
    (taken : PollerStep config before poller choice after) {task : IOTask}
    (member : task ∈ after.enqueued) :
    task ∈ before.enqueued ∨
      (task.origin = .removal →
        task.eventStorePointer ∈ (before.pollerThread poller).removals) := by
  cases taken with
  | dispatch store rest at_point =>
      rcases List.mem_append.mp member with earlier | now
      · exact .inl earlier
      · right
        rw [List.mem_singleton.mp now]
        intro removal
        cases removal
  | closeConnection store rest at_point =>
      obtain ⟨_, _, _, result⟩ := before.closeConnection_frame config store
      rw [result] at member
      exact .inl member
  | enqueue store rest at_point =>
      rcases List.mem_append.mp member with earlier | now
      · exact .inl earlier
      · right
        rw [List.mem_singleton.mp now, at_point]
        exact fun _ => List.mem_cons_self
  | _ => exact .inl member

/-- The other threads enqueue no removal task. -/
theorem enqueued_of_step {config : Config} {before after : Server}
    {action : Action} (taken : ServerStep config before action after)
    (not_poller : ∀ poller choice, action ≠ .poller poller choice)
    {task : IOTask} (member : task ∈ after.enqueued) :
    task ∈ before.enqueued ∨ task.origin = .accept := by
  cases taken with
  | network taken => cases taken <;> exact .inl member
  | accept choice taken =>
      cases taken with
      | initConnection store outcome at_point =>
          obtain ⟨_, _, _, result⟩ :=
            before.initConnection_frame config store outcome
          rw [result] at member
          exact .inl member
      | enqueue store at_point =>
          rcases List.mem_append.mp member with earlier | now
          · exact .inl earlier
          · rw [List.mem_singleton.mp now]
            exact .inr rfl
      | _ => exact .inl member
  | poller poller choice bound taken => exact absurd rfl (not_poller _ _)
  | worker worker choice bound taken =>
      cases taken with
      | close task at_point may_close =>
          obtain ⟨_, _, _, result⟩ :=
            before.closeConnection_frame config task.eventStorePointer
          rw [result] at member
          exact .inl member
      | _ => exact .inl member
  | stop taken =>
      cases taken with
      | closeListening closed at_point closes =>
          obtain ⟨_, _, result⟩ := Server.closeListening_frame closes
          rw [result] at member
          exact .inl member
      | closing store rest at_point =>
          obtain ⟨_, _, _, result⟩ :=
            before.closeConnection_frame config store
          change task ∈ (before.closeConnection config store).enqueued
            at member
          rw [result] at member
          exact .inl member
      | _ => exact .inl member

/-- In every reachable state every hang-up has its notice. -/
theorem hangUpNotices_of_reachable {config : Config} {server : Server}
    (reachable : (tcpServer config).Reachable server) :
    HangUpNotices server := by
  refine TransitionSystem.Reachable.invariant ?_ ?_ reachable
  · rintro state rfl
    exact HangUpNotices.start config
  · intro before action after earlier taken notices
    have moved := serverStep_of_step taken
    have owned := ownership_of_reachable earlier
    have order := taskOrder_of_reachable earlier
    cases action with
    | poller poller choice =>
        have inside : poller < config.numPollers := by
          cases moved with
          | network moved => cases moved
          | poller _ _ bound _ => exact bound
        have stepped : pollerStep config before poller choice = some after :=
          (if_pos inside).symm.trans taken
        have moves := pollerStep_of_some stepped
        by_cases told : ∃ reported, choice = .report reported
        · obtain ⟨reported, rfl⟩ := told
          cases moves with
          | report _ entries kernel at_point waited =>
              exact notices.report owned at_point waited
        · apply notices.keep
          · apply Kernel.keeps_of_step moved
            rintro _ reported ⟨⟩
            exact told ⟨reported, rfl⟩
          · intro other connection planned
            by_cases same : other = poller
            · subst same
              rcases PollerPoint.removals_kept stepped planned with
                still | ⟨rest, at_point⟩
              · exact .inl still
              · exact .inr
                  (order.deleted other .unlock connection rest at_point rfl
                    other)
            · left
              rw [pollerThread_elsewhere moved
                (by
                  rintro choice ⟨⟩
                  exact same rfl)]
              exact planned
          · intro other connection planned
            rcases removals_of_pollerStep moves planned with
              was | ⟨reported, rfl, -⟩
            · exact was
            · exact absurd ⟨reported, rfl⟩ told
          · intro task member
            exact (enqueued_of_pollerStep moves member).imp_right
              fun raised removal => ⟨poller, raised removal⟩
    | _ =>
        have threads := pollerThread_of_step moved (by simp)
        apply notices.keep
        · exact Kernel.keeps_of_step moved (by simp)
        · rw [threads]
          exact fun _ _ => .inl
        · rw [threads]
          exact fun _ _ => id
        · intro task member
          refine (enqueued_of_step moved (by simp) member).imp_right ?_
          intro accepts removal
          rw [accepts] at removal
          cases removal

/-- No hang-up is forgotten, and no connection is removed without one.  As long
as a poller's `epoll_wait` may report a connection that has hung up, because it
was half-closed or reset by its peer or given up by the kernel, either an edge
for it is still to be reported or that poller is on the way to remove it; and
whatever a poller is removing, or has enqueued a removal task for, has hung
up. -/
theorem hangUps_noticed {config : Config} {server : Server}
    (reachable : (tcpServer config).Reachable server) :
    (∀ poller connection, connection ∈ server.kernel.watched poller →
      (server.kernel.socket connection).hungUp = true →
        (server.kernel.socket connection).edge = true ∨
          connection ∈ (server.pollerThread poller).removals) ∧
      (∀ poller, ∀ connection ∈ (server.pollerThread poller).removals,
        (server.kernel.socket connection).hungUp = true) ∧
      ∀ task ∈ server.enqueued, task.origin = .removal →
        (server.kernel.socket task.eventStorePointer).hungUp = true := by
  have notices := hangUpNotices_of_reachable reachable
  exact ⟨notices.noticed, notices.removing, notices.tasks⟩

/-- A half-close that arrives while its poller has already taken the connection
for a data event leaves an edge behind. -/
theorem hangUps_noticed_late :
    ∃ server : Server,
      (tcpServer .single).Reachable server ∧
        server.pollerThread 0 =
          .batch [{ store := 0, epollIn := true, epollRdhup := false }] ∧
        (server.kernel.socket 0).hungUp = true ∧
        (server.kernel.socket 0).edge = true := by
  obtain ⟨server, reached, at_point, hung_up, watched⟩ :=
    exists_server_of_replay .single (fun _ _ => True)
      (fun server =>
        server.pollerThread 0 =
            .batch [{ store := 0, epollIn := true, epollRdhup := false }] ∧
          (server.kernel.socket 0).hungUp = true ∧
          0 ∈ server.kernel.watched 0)
      (connectAndAdmit 4 ++ [.segment 0 5] ++ pollOne 0 0 ++
        [.hangUp 0 .halfClose])
      (by decide)
  refine ⟨server, reached, at_point, hung_up, ?_⟩
  rcases (hangUps_noticed reached).1 0 0 watched hung_up with
    pending | planned
  · exact pending
  · rw [at_point] at planned
    cases planned

end EventPlus

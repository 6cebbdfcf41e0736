/-
Module: EventPlus.Server.Aftermath
Purpose: What may still be enqueued once `stopPolling` has cleared its flags:
  the tasks the other threads had in hand then, and no more.
Trusted boundary: none
Main exports:
  Server.Silenced, Server.owed, silenced_of_unlock, tasks_after_stop
-/
import EventPlus.Library.Budget
import EventPlus.Library.Workload
import EventPlus.Server.HangUp
import EventPlus.Server.Quiescence

namespace EventPlus

open Function (update)

/-! ## What is in hand -/

/-- An accept under way will enqueue one task. -/
def AcceptPoint.owed : AcceptPoint → Nat
  | .lock | .accept | .admitting _ _ => 1
  | _ => 0

/-- Whether the entry at work is still to be enqueued. -/
def PollerStage.owes : PollerStage → Bool
  | .erase | .unlock => false
  | _ => true

/-- The entry at work and the hang-ups after it.  A poller whose flag is
cleared drops the other entries. -/
def PollerPoint.owed : PollerPoint → Nat
  | .batch rest => (hangUps rest).length
  | .busy stage _ rest => stage.owes.toNat + (hangUps rest).length
  | _ => 0

/-- What a poller has in hand.  An `epoll_wait` that was entered before its
epoll was closed may still report the connections it has kept, in one batch. -/
def Server.pollerOwed (server : Server) (poller : PollerId) : Nat :=
  (server.pollerThread poller).owed +
    min maxEvents (server.kernel.inFlight poller).length

/-- The tasks the accept thread and the pollers have in hand. -/
def Server.owed (config : Config) (server : Server) : Nat :=
  server.acceptThread.owed +
    workload (List.range config.numPollers) id server.pollerOwed

/-- `stopPolling` has cleared all flags and closed the epolls of the
pollers. -/
structure Server.Silenced (config : Config) (server : Server) : Prop where
  accepting : server.continueAccepting = false
  polling : ∀ poller < config.numPollers,
    server.continuePolling poller = false
  epolls : ∀ poller < config.numPollers,
    server.kernel.epollOpen poller = false

/-! ## The flags stay cleared -/

/-- Nothing sets a flag again or opens an epoll. -/
theorem silenced_of_step {config : Config} {before after : Server}
    {action : Action} (silenced : before.Silenced config)
    (taken : (tcpServer config).step before action = some after) :
    after.Silenced config := by
  by_cases stops : action = .stop
  · subst stops
    cases stopLine_of_some taken with
    | closeListening closed at_point closes =>
        rcases Server.closeListening_cases closes with result | result
        · rw [result]
          exact { silenced with }
        · rw [result]
          refine { silenced with epolls := ?_ }
          intro poller bound
          change (before.kernel.close _).epollOpen poller = false
          rw [Kernel.close_epollOpen]
          exact silenced.epolls poller bound
    | stopAccepting at_point => exact { silenced with accepting := rfl }
    | stopPoller poller at_point bound =>
        refine { silenced with polling := ?_ }
        intro other otherBound
        exact Stopped.update_false (silenced.polling other otherBound)
    | closePollerEpoll poller at_point =>
        refine { silenced with epolls := ?_ }
        intro other otherBound
        exact Stopped.update_false (silenced.epolls other otherBound)
    | closing store rest at_point =>
        have flags := StopFlags.closeConnection config before store
        constructor
        · exact flags.continueAccepting.trans silenced.accepting
        · intro poller bound
          exact (congrFun flags.continuePolling poller).trans
            (silenced.polling poller bound)
        · intro poller bound
          exact (congrFun flags.epollOpen poller).trans
            (silenced.epolls poller bound)
    | _ => exact { silenced with }
  · have flags := StopFlags.serverStep (serverStep_of_step taken)
      (beforeShutdown_of_ne stops)
    constructor
    · rw [flags.continueAccepting]
      exact silenced.accepting
    · rw [flags.continuePolling]
      exact silenced.polling
    · rw [flags.epollOpen]
      exact silenced.epolls

/-- The thread of `stopPolling` has cleared all flags when it is about to
return. -/
theorem silenced_of_unlock {config : Config} {server : Server}
    (reachable : (tcpServer config).Reachable server)
    (at_unlock : server.stopThread = .unlock) : server.Silenced config := by
  have progress := stopProgress_of_reachable reachable
  constructor
  · exact progress.accepting (by rw [at_unlock]; rfl)
  · intro poller bound
    exact progress.polling poller (by rw [at_unlock]; exact bound)
  · intro poller bound
    exact progress.epolls poller (by rw [at_unlock]; exact bound)

/-! ## Every task is paid for -/

section Steps

variable {config : Config} {before after : Server}

/-- The tasks enqueued and those in hand. -/
def Server.raised (config : Config) (server : Server) : Nat :=
  server.enqueued.length + server.owed config

/-- A poller that stays where it is owes no more when its call loses
sockets. -/
theorem pollerOwed_le {poller : PollerId}
    (still : after.pollerThread poller = before.pollerThread poller)
    (fewer : (after.kernel.inFlight poller).Sublist
      (before.kernel.inFlight poller)) :
    after.pollerOwed poller ≤ before.pollerOwed poller := by
  have shorter := fewer.length_le
  rw [Server.pollerOwed, Server.pollerOwed, still]
  omega

theorem raised_accept
    (pollers : after.pollerThread = before.pollerThread)
    (fewer : ∀ poller < config.numPollers,
      (after.kernel.inFlight poller).Sublist
        (before.kernel.inFlight poller))
    (paid : after.enqueued.length + after.acceptThread.owed ≤
      before.enqueued.length + before.acceptThread.owed) :
    after.raised config ≤ before.raised config := by
  have owed : workload (List.range config.numPollers) id after.pollerOwed ≤
      workload (List.range config.numPollers) id before.pollerOwed :=
    Workload.le fun poller member =>
      pollerOwed_le (congrFun pollers poller)
        (fewer poller (List.mem_range.mp member))
  rw [Server.raised, Server.raised, Server.owed, Server.owed]
  omega

theorem raised_same (enqueued : after.enqueued = before.enqueued)
    (accept : after.acceptThread = before.acceptThread)
    (pollers : after.pollerThread = before.pollerThread)
    (fewer : ∀ poller < config.numPollers,
      (after.kernel.inFlight poller).Sublist
        (before.kernel.inFlight poller)) :
    after.raised config ≤ before.raised config := by
  apply raised_accept pollers fewer
  rw [enqueued, accept]

/-- A poller takes a step, and what it owed covers what it enqueues and what it
owes then. -/
theorem raised_paid {poller : PollerId} {next : PollerPoint}
    (bound : poller < config.numPollers)
    (accept : after.acceptThread = before.acceptThread)
    (pollers : after.pollerThread = update before.pollerThread poller next)
    (fewer : ∀ poller < config.numPollers,
      (after.kernel.inFlight poller).Sublist
        (before.kernel.inFlight poller))
    (paid : after.enqueued.length + after.pollerOwed poller ≤
      before.enqueued.length + before.pollerOwed poller) :
    after.raised config ≤ before.raised config := by
  have moved :
      workload (List.range config.numPollers) id after.pollerOwed +
          before.pollerOwed poller ≤
        workload (List.range config.numPollers) id before.pollerOwed +
          after.pollerOwed poller := by
    apply Workload.exchange List.nodup_range (List.mem_range.mpr bound)
    · exact Nat.le_of_eq (Nat.add_comm _ _)
    · intro other member different
      apply pollerOwed_le _ (fewer other (List.mem_range.mp member))
      rw [pollers, Function.update_of_ne different]
  rw [Server.raised, Server.raised, Server.owed, Server.owed, accept]
  omega

theorem raised_poller {poller : PollerId} {point next : PollerPoint}
    (bound : poller < config.numPollers)
    (at_point : before.pollerThread poller = point)
    (accept : after.acceptThread = before.acceptThread)
    (pollers : after.pollerThread = update before.pollerThread poller next)
    (fewer : ∀ poller < config.numPollers,
      (after.kernel.inFlight poller).Sublist
        (before.kernel.inFlight poller))
    (paid : after.enqueued.length + next.owed ≤
      before.enqueued.length + point.owed) :
    after.raised config ≤ before.raised config := by
  apply raised_paid bound accept pollers fewer
  have shorter := (fewer poller bound).length_le
  rw [Server.pollerOwed, Server.pollerOwed, pollers, Function.update_self,
    at_point]
  omega

theorem raised_closeConnection (config : Config) (server : Server)
    (store : ConnectionId) :
    (server.closeConnection config store).enqueued = server.enqueued ∧
      (server.closeConnection config store).acceptThread =
        server.acceptThread ∧
      (server.closeConnection config store).pollerThread =
        server.pollerThread := by
  obtain ⟨_, _, _, result⟩ := server.closeConnection_frame config store
  rw [result]
  exact ⟨rfl, rfl, rfl⟩

theorem raised_acceptStep {choice : AcceptChoice}
    (silenced : before.Silenced config)
    (taken : AcceptStep config before choice after) :
    after.raised config ≤ before.raised config := by
  have fewer := fun poller (_ : poller < config.numPollers) =>
    (StopFlags.acceptStep taken).inFlight poller
  cases taken with
  | loop at_point =>
      refine raised_accept rfl fewer ?_
      simp [silenced.accepting, AcceptPoint.owed]
  | handleEvent at_point =>
      refine raised_accept rfl fewer ?_
      simp [silenced.accepting, AcceptPoint.owed]
  | initConnection store outcome at_point =>
      obtain ⟨_, _, _, result⟩ :=
        before.initConnection_frame config store outcome
      rw [result] at fewer ⊢
      refine raised_accept rfl fewer ?_
      simp [at_point, AcceptPoint.owed]
  | enqueue store at_point =>
      refine raised_accept rfl fewer ?_
      simp [at_point, AcceptPoint.owed, Server.enqueueTask]
  | accepted fd ssl kernel at_point got =>
      refine raised_accept rfl fewer ?_
      simp [at_point, AcceptPoint.owed, Server.makeStore]
  | registered store kernel at_point added =>
      refine raised_accept rfl fewer ?_
      simp [at_point, AcceptPoint.owed]
  | refused store granted at_point =>
      refine raised_accept rfl fewer ?_
      simp [at_point, AcceptPoint.owed]
  | backPointer poller store at_point =>
      refine raised_accept rfl fewer ?_
      simp [at_point, AcceptPoint.owed, Server.setBackPointer]
  | insert store at_point =>
      refine raised_accept rfl fewer ?_
      simp [at_point, AcceptPoint.owed, Server.insertStore, Server.destroy]
  | lock at_point free =>
      refine raised_accept rfl fewer ?_
      simp [at_point, AcceptPoint.owed]
  | _ =>
      refine raised_accept rfl fewer ?_
      simp [AcceptPoint.owed]

/-- An `epoll_wait` on a closed epoll reports what it has kept, `MAX_EVENTS`
sockets at most. -/
theorem reported_le_inFlight {kernel next : Kernel} {poller : PollerId}
    {reported : List ConnectionId} {entries : List EpollEvent}
    (unregistered : kernel.registered poller = [])
    (waited : kernel.epollWait poller reported = some (entries, next)) :
    entries.length ≤ min maxEvents (kernel.inFlight poller).length := by
  unfold Kernel.epollWait at waited
  split at waited
  · rename_i guard
    cases waited
    rw [List.length_map]
    have kept : reported ⊆ kernel.inFlight poller := by
      intro connection member
      have watched := guard.2.2.2 connection member
      rw [Kernel.watched, unregistered] at watched
      exact watched
    exact Nat.le_min.mpr
      ⟨guard.2.1, (guard.2.2.1.subperm kept).length_le⟩
  · cases waited

theorem hangUps_length_le (entries : List EpollEvent) :
    (hangUps entries).length ≤ entries.length := by
  rw [hangUps, List.length_map]
  exact List.length_filter_le _ _

theorem raised_pollerStep {poller : PollerId} {choice : PollerChoice}
    (bound : poller < config.numPollers) (silenced : before.Silenced config)
    (progress : StopProgress config before)
    (taken : pollerStep config before poller choice = some after) :
    after.raised config ≤ before.raised config := by
  have moved := pollerStep_of_some taken
  have fewer := fun other (_ : other < config.numPollers) =>
    (StopFlags.pollerStep moved).inFlight other
  cases moved with
  | loop at_point =>
      refine raised_poller bound at_point rfl rfl fewer ?_
      simp [silenced.polling poller bound, PollerPoint.owed, Server.setPoller]
  | report reported entries kernel at_point waited =>
      have kept := reported_le_inFlight
        (progress.unregistered poller (silenced.epolls poller bound)) waited
      have few := hangUps_length_le entries
      obtain ⟨-, -, -, -, -, returned, -⟩ := Kernel.epollWait_spec waited
      refine raised_paid bound rfl rfl fewer ?_
      apply Nat.add_le_add_left
      simp only [Server.pollerOwed, Server.setPoller, Function.update_self,
        returned, at_point, PollerPoint.owed, List.length_nil]
      omega
  | timeout at_point =>
      exact raised_poller bound at_point rfl rfl fewer (Nat.le_refl _)
  | batchDone at_point =>
      exact raised_poller bound at_point rfl rfl fewer (Nat.le_refl _)
  | hangUp entry rest at_point flag =>
      refine raised_poller bound at_point rfl rfl fewer ?_
      simp [PollerPoint.owed, PollerStage.owes, hangUps, flag,
        Server.setPoller, Nat.add_comm]
  | data entry rest at_point flag =>
      rw [pollerStep_skip at_point flag (silenced.polling poller bound)]
        at taken
      rw [← Option.some.inj taken]
      refine raised_poller bound at_point rfl rfl fewer ?_
      simp [PollerPoint.owed, hangUps, flag, Server.setPoller]
  | skipped entry rest at_point =>
      refine raised_poller bound at_point rfl rfl fewer ?_
      apply Nat.add_le_add_left
      exact (List.Sublist.filter _ (List.sublist_cons_self entry rest)).map _
        |>.length_le
  | dispatch store rest at_point =>
      refine raised_poller bound at_point rfl rfl fewer ?_
      simp [PollerPoint.owed, PollerStage.owes, Server.setPoller,
        Server.enqueueTask]
      omega
  | closeConnection store rest at_point =>
      obtain ⟨enqueued, accept, pollers⟩ :=
        raised_closeConnection config before store
      have moved :
          ((before.closeConnection config store).setPoller poller
              (.busy .enqueue store rest)).pollerThread =
            update before.pollerThread poller (.busy .enqueue store rest) := by
        rw [Server.setPoller, pollers]
      refine raised_poller bound at_point accept moved fewer ?_
      exact Nat.add_le_add_right (Nat.le_of_eq (congrArg _ enqueued)) _
  | enqueue store rest at_point =>
      refine raised_poller bound at_point rfl rfl fewer ?_
      simp [PollerPoint.owed, PollerStage.owes, Server.setPoller,
        Server.enqueueTask]
      omega
  | setIncoming store rest at_point =>
      exact raised_poller bound at_point rfl rfl fewer (Nat.le_refl _)
  | lock store rest at_point free =>
      exact raised_poller bound at_point rfl rfl fewer (Nat.le_refl _)
  | setClosed store rest at_point =>
      exact raised_poller bound at_point rfl rfl fewer (Nat.le_refl _)
  | noHandler store rest at_point handler_eq =>
      exact raised_poller bound at_point rfl rfl fewer (Nat.le_refl _)
  | epollDel store rest handler at_point handler_eq =>
      exact raised_poller bound at_point rfl rfl fewer (Nat.le_refl _)
  | erase store rest at_point =>
      exact raised_poller bound at_point rfl rfl fewer (Nat.le_refl _)
  | unlock store rest at_point =>
      refine raised_poller bound at_point rfl rfl fewer ?_
      simp [PollerPoint.owed, PollerStage.owes, Server.setPoller]

/-- Once the flags are cleared, no step raises the number of tasks enqueued or
in hand. -/
theorem raised_of_step {action : Action}
    (reachable : (tcpServer config).Reachable before)
    (silenced : before.Silenced config)
    (taken : (tcpServer config).step before action = some after) :
    after.raised config ≤ before.raised config := by
  have progress := stopProgress_of_reachable reachable
  cases serverStep_of_step taken with
  | network moved =>
      cases moved <;> exact raised_same rfl rfl rfl fun _ _ => .refl _
  | accept choice moved => exact raised_acceptStep silenced moved
  | poller poller choice bound moved =>
      have stepped : pollerStep config before poller choice = some after :=
        (if_pos bound).symm.trans taken
      exact raised_pollerStep bound silenced progress stepped
  | worker worker choice bound moved =>
      have fewer := fun poller (_ : poller < config.numPollers) =>
        (StopFlags.workerStep moved).inFlight poller
      cases moved with
      | close task at_point may_close =>
          obtain ⟨enqueued, accept, pollers⟩ :=
            raised_closeConnection config before task.eventStorePointer
          exact raised_same enqueued accept pollers fewer
      | _ => exact raised_same rfl rfl rfl fewer
  | stop moved =>
      cases stopLine_of_some taken with
      | closeListening closed at_point closes =>
          rcases Server.closeListening_cases closes with result | result
          · rw [result]
            exact raised_same rfl rfl rfl fun _ _ => .refl _
          · rw [result]
            exact raised_same rfl rfl rfl fun poller _ =>
              before.kernel.close_inFlight config.listenFd poller
      | closePollerEpoll poller at_point =>
          exact raised_same rfl rfl rfl fun other below =>
            Kernel.closeEpoll_inFlight _
              (progress.unregistered other (silenced.epolls other below))
      | closing store rest at_point =>
          obtain ⟨enqueued, accept, pollers⟩ :=
            raised_closeConnection config before store
          exact raised_same enqueued accept pollers fun poller _ =>
            (StopFlags.closeConnection config before store).inFlight poller
      | _ => exact raised_same rfl rfl rfl fun _ _ => .refl _

end Steps

/-! ## The length of a batch -/

/-- The entries a poller has not done with. -/
def PollerPoint.entries : PollerPoint → Nat
  | .batch rest => rest.length
  | .busy _ _ rest => rest.length + 1
  | _ => 0

theorem PollerPoint.owed_le (point : PollerPoint) :
    point.owed ≤ point.entries := by
  cases point with
  | batch rest => exact hangUps_length_le rest
  | busy stage store rest =>
      have fewer := hangUps_length_le rest
      cases owes : stage.owes with
      | false =>
          simp only [owed, entries, owes, Bool.toNat_false]
          omega
      | true =>
          simp only [owed, entries, owes, Bool.toNat_true]
          omega
  | _ => exact Nat.le_refl _

/-- One step of a poller brings no more than `MAX_EVENTS` entries. -/
theorem entries_of_pollerStep {config : Config} {before after : Server}
    {poller : PollerId} {choice : PollerChoice}
    (bounded : (before.pollerThread poller).entries ≤ maxEvents)
    (taken : PollerStep config before poller choice after) :
    (after.pollerThread poller).entries ≤ maxEvents := by
  cases taken with
  | loop at_point =>
      rw [Server.setPoller_self]
      split <;> exact Nat.zero_le _
  | report reported entries kernel at_point waited =>
      rw [Server.setPoller_self]
      unfold Kernel.epollWait at waited
      split at waited
      · rename_i guard
        cases waited
        simpa [PollerPoint.entries] using guard.2.1
      · cases waited
  | timeout at_point =>
      rw [Server.setPoller_self]
      exact Nat.zero_le _
  | batchDone at_point =>
      rw [Server.setPoller_self]
      exact Nat.zero_le _
  | hangUp entry rest at_point flag =>
      rw [at_point] at bounded
      rw [Server.setPoller_self]
      exact bounded
  | data entry rest at_point flag =>
      rw [at_point] at bounded
      rw [Server.setPoller_self]
      exact bounded
  | skipped entry rest at_point =>
      rw [at_point] at bounded
      rw [Server.setPoller_self]
      exact Nat.le_of_succ_le bounded
  | dispatch store rest at_point =>
      rw [at_point] at bounded
      rw [Server.setPoller_self]
      exact Nat.le_of_succ_le bounded
  | unlock store rest at_point =>
      rw [at_point] at bounded
      rw [Server.setPoller_self]
      exact Nat.le_of_succ_le bounded
  | setIncoming store rest at_point =>
      rw [at_point] at bounded
      rw [Server.setPoller_self]
      exact bounded
  | lock store rest at_point free =>
      rw [at_point] at bounded
      rw [Server.setPoller_self]
      exact bounded
  | setClosed store rest at_point =>
      rw [at_point] at bounded
      rw [Server.setPoller_self]
      exact bounded
  | noHandler store rest at_point handler_eq =>
      rw [at_point] at bounded
      rw [Server.setPoller_self]
      exact bounded
  | epollDel store rest handler at_point handler_eq =>
      rw [at_point] at bounded
      rw [Server.setPoller_self]
      exact bounded
  | closeConnection store rest at_point =>
      rw [at_point] at bounded
      rw [Server.setPoller_self]
      exact bounded
  | enqueue store rest at_point =>
      rw [at_point] at bounded
      rw [Server.setPoller_self]
      exact bounded
  | erase store rest at_point =>
      rw [at_point] at bounded
      rw [Server.setPoller_self]
      exact bounded

theorem entries_of_reachable {config : Config} {server : Server}
    (reachable : (tcpServer config).Reachable server) (poller : PollerId) :
    (server.pollerThread poller).entries ≤ maxEvents := by
  refine TransitionSystem.Reachable.invariant ?_ ?_ reachable
  · rintro state rfl
    exact Nat.zero_le _
  · intro before action after _ taken bounded
    have moved := serverStep_of_step taken
    by_cases mine : ∃ choice, action = .poller poller choice
    · obtain ⟨choice, rfl⟩ := mine
      cases moved with
      | network impossible => cases impossible
      | poller _ _ bound moved => exact entries_of_pollerStep bounded moved
    · rw [pollerThread_elsewhere moved fun choice same => mine ⟨choice, same⟩]
      exact bounded

/-- The accept thread has one task in hand at most and each poller a batch. -/
theorem owed_le {config : Config} {server : Server}
    (reachable : (tcpServer config).Reachable server) :
    server.owed config ≤ 1 + maxEvents * config.numPollers := by
  have each : ∀ poller, server.pollerOwed poller ≤ maxEvents := by
    intro poller
    rw [Server.pollerOwed]
    by_cases at_wait : server.pollerThread poller = .epollWait
    · rw [at_wait]
      simp [PollerPoint.owed]
    · rw [inFlightWaits_of_reachable reachable poller at_wait]
      exact Nat.le_trans (server.pollerThread poller).owed_le
        (entries_of_reachable reachable poller)
  have pollers : workload (List.range config.numPollers) id
      server.pollerOwed ≤ _ := Workload.le_mul fun poller _ => each poller
  have accept : server.acceptThread.owed ≤ 1 := by
    cases server.acceptThread <;> simp [AcceptPoint.owed]
  rw [List.length_range] at pollers
  exact Nat.add_le_add accept pollers

/-! ## After `stopPolling` -/

/-- `stopPolling` joins no poller, and threads that were at work go on after it
has returned.  But what they still enqueue is bounded by what they had in hand
when it returned, however long the run and whatever the network does: one task
for an accept under way, and for each poller the entry at work and the hang-ups
left in its batch of `MAX_EVENTS` entries at most, or such a batch of the
connections its `epoll_wait` has kept from before its epoll was closed.  The
same holds from the moment on at which the flags are cleared and the epolls
closed. -/
theorem tasks_after_stop {config : Config} {server last : Server}
    (reachable : (tcpServer config).Reachable server)
    (stopping : server.stopThread = .unlock ∨ server.Silenced config)
    {actions : List Action}
    (ran : (tcpServer config).run server actions = some last) :
    last.enqueued.length ≤ server.enqueued.length + server.owed config ∧
      server.owed config ≤ 1 + maxEvents * config.numPollers := by
  have silenced : server.Silenced config := by
    rcases stopping with at_unlock | silenced
    · exact silenced_of_unlock reachable at_unlock
    · exact silenced
  have pays : (tcpServer config).Pays (Server.Silenced config)
      (fun _ _ => True) (Server.raised config) (fun _ => 0) := by
    intro before action after reached held _ taken
    exact ⟨silenced_of_step held taken, raised_of_step reached held taken⟩
  have bound :=
    TransitionSystem.run_without_cost pays reachable silenced ran
  refine ⟨?_, owed_le reachable⟩
  exact Nat.le_trans (Nat.le_add_right _ _) bound

/-- A hang-up in the batch and a task already enqueued for the connection: one
more follows. -/
theorem tasks_after_stop_hangUp :
    ∃ server last : Server, ∃ actions,
      (tcpServer .single).Reachable server ∧
        (tcpServer .single).run server actions = some last ∧
        (server.stopThread = .unlock ∧ server.owed .single = 1 ∧
          server.enqueued.length = 1) ∧
        last.enqueued.length = 2 ∧
        last.enqueued.length ≤ server.enqueued.length + 1 := by
  obtain ⟨server, reachable, at_state, ends⟩ :=
    exists_server_of_replay .single (fun _ _ => True)
      (fun server =>
        (server.stopThread = .unlock ∧ server.owed .single = 1 ∧
            server.enqueued.length = 1) ∧
          ((tcpServer .single).run server
            (.stop :: List.replicate 8 (.poller 0 .proceed))).any
            (fun last => last.enqueued.length = 2) = true)
      (connectAndAdmit 4 ++ [.hangUp 0 .halfClose] ++ pollOne 0 0 ++
        List.replicate 10 .stop)
      (by decide)
  obtain ⟨last, ran, more⟩ := TransitionSystem.exists_last_of_run ends
  have bound := (tasks_after_stop reachable (.inl at_state.1) ran).1
  rw [at_state.2.1] at bound
  exact ⟨server, last, _, reachable, ran, at_state, more, bound⟩

end EventPlus

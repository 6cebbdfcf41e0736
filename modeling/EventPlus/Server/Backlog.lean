/-
Module: EventPlus.Server.Backlog
Purpose: The accept backlog against the listening socket's edge: when the
  accept thread goes back to `epoll_wait` with completed connections that no
  edge will announce.
Trusted boundary: none
Main exports:
  Kernel.Announced, Server.BacklogAnnounced, acceptsLast,
  backlogAnnounced_of_reached
-/
import EventPlus.Server.Transitions

namespace EventPlus

open Function (update)

namespace Kernel

/-- Completed connections are announced by a pending edge. -/
def Announced (kernel : Kernel) : Prop :=
  kernel.listenEdge = true ∨ kernel.backlog = 0

instance (kernel : Kernel) : Decidable kernel.Announced :=
  inferInstanceAs (Decidable (_ ∨ _))

end Kernel

/-- No connection is stranded: while the accept thread waits without a pending
edge, the backlog is empty. -/
def Server.BacklogAnnounced (server : Server) : Prop :=
  server.acceptThread = .epollWait → server.kernel.listenEdge = false →
    server.kernel.backlog = 0

/-- Runs in which the one `accept` a report leads to takes the last completed
connection, or a new edge is pending when it returns.  `acceptFailed` takes a
connection only when it is lost. -/
def acceptsLast (server : Server) : Action → Prop
  | .accept (.acceptFailed lost) =>
      server.kernel.listenEdge = true ∨
        server.kernel.backlog ≤ if lost then 1 else 0
  | .accept (.accepted _ _ _) =>
      server.kernel.listenEdge = true ∨ server.kernel.backlog ≤ 1
  | _ => True

instance (server : Server) :
    (action : Action) → Decidable (acceptsLast server action)
  | .accept (.acceptFailed _) => inferInstanceAs (Decidable (_ ∨ _ ≤ _))
  | .accept (.accepted _ _ _) => inferInstanceAs (Decidable (_ ∨ _ ≤ _))
  | .accept .proceed | .accept .report | .accept .timeout
  | .accept (.handshake _) | .accept (.epollCtl _) => .isTrue trivial
  | .connect | .segment _ _ | .hangUp _ _ | .poller _ _ | .worker _ _
  | .stop => .isTrue trivial

/-! ## Kernel calls and the listening socket -/

namespace Kernel

theorem Announced.connect (kernel : Kernel) : kernel.connect.Announced :=
  .inl rfl

/-- Closing the listening socket drops its backlog; other files have no part
in it. -/
theorem Announced.close {kernel : Kernel} (announced : kernel.Announced)
    (fd : Fd) : (kernel.close fd).Announced := by
  unfold Kernel.close
  split
  · exact announced
  · exact .inr rfl
  · exact announced
  · exact announced

theorem Announced.epollCtlAdd {kernel after : Kernel} {poller : PollerId}
    {fd : Fd} (announced : kernel.Announced)
    (added : kernel.epollCtlAdd poller fd = some after) :
    after.Announced := by
  unfold Kernel.epollCtlAdd at added
  split at added
  · split at added
    · cases added
      exact announced
    · cases added
  · cases added

theorem Announced.epollCtlDel {kernel : Kernel}
    (announced : kernel.Announced) (poller : PollerId) (fd : Fd) :
    (kernel.epollCtlDel poller fd).Announced := by
  unfold Kernel.epollCtlDel
  split
  · exact announced
  · exact announced

theorem Announced.epollWait {kernel after : Kernel} {poller : PollerId}
    {reported : List ConnectionId} {entries : List EpollEvent}
    (announced : kernel.Announced)
    (waited : kernel.epollWait poller reported = some (entries, after)) :
    after.Announced := by
  unfold Kernel.epollWait at waited
  split at waited
  · cases waited
    exact announced
  · cases waited

theorem Announced.transfer {kernel after : Kernel} {fd : Fd}
    {syscall : Syscall} {result : SysResult} (announced : kernel.Announced)
    (transferred : kernel.transfer fd syscall result = some after) :
    after.Announced := by
  rcases transfer_spec transferred with rfl | ⟨connection, count, -, rfl⟩
  · exact announced
  · exact announced

/-- `accept` leaves the rest of the backlog unannounced, unless it took the
last connection or an edge came up. -/
theorem announced_of_accept {kernel after : Kernel} {fd : Fd}
    {connection : ConnectionId}
    (got : kernel.accept fd connection = some after)
    (last : kernel.listenEdge = true ∨ kernel.backlog ≤ 1) :
    after.Announced := by
  obtain ⟨-, rfl⟩ := accept_spec got
  rcases last with edge | last
  · exact .inl edge
  · refine .inr ?_
    change kernel.backlog - 1 = 0
    omega

end Kernel

theorem announced_closeConnection {server : Server}
    (announced : server.kernel.Announced) (config : Config)
    (store : ConnectionId) :
    (server.closeConnection config store).kernel.Announced := by
  rcases server.closeConnection_cases config store with
    result | result | result
  · rw [result]
    exact announced
  · rw [result]
    exact announced.close _
  · rw [result]
    exact announced.close _

/-! ## The accept thread

Between the report that consumes the edge and the return of `accept` the
backlog may be unannounced.  A report that finds polling stopped takes the
thread to the loop head with no `accept` at all, and from there to its exit.
-/

/-- The points at which completed connections are announced. -/
def AcceptPoint.announces : AcceptPoint → Bool
  | .handleEvent | .lock | .accept | .exited => false
  | _ => true

/-- The backlog is announced wherever the accept thread is not between a report
and its `accept`, unless polling has been stopped. -/
def BacklogInvariant (server : Server) : Prop :=
  server.acceptThread.announces = true →
    server.kernel.Announced ∨
      server.acceptThread = .loop ∧ server.continueAccepting = false

namespace BacklogInvariant

theorem start (config : Config) : BacklogInvariant (Server.start config) :=
  fun _ => .inl (.inr rfl)

/-- Kernel calls of the other threads. -/
theorem changeKernel {before after : Server}
    (held : BacklogInvariant before)
    (kept : before.kernel.Announced → after.kernel.Announced)
    (point : after.acceptThread = before.acceptThread)
    (continues : after.continueAccepting = before.continueAccepting) :
    BacklogInvariant after := by
  intro announces
  rw [point] at announces
  rcases held announces with announced | ⟨at_loop, stopped⟩
  · exact .inl (kept announced)
  · exact .inr ⟨point.trans at_loop, continues.trans stopped⟩

theorem acceptStep {config : Config} {before after : Server}
    {choice : AcceptChoice} (held : BacklogInvariant before)
    (allowed : acceptsLast before (.accept choice))
    (taken : AcceptStep config before choice after) :
    BacklogInvariant after := by
  -- at these points the thread is neither at the loop head nor in `accept`
  have announced : ∀ {point}, before.acceptThread = point →
      point.announces = true → point ≠ .loop → before.kernel.Announced := by
    rintro point rfl announces not_loop
    rcases held announces with announced | ⟨at_loop, -⟩
    · exact announced
    · exact absurd at_loop not_loop
  intro announces
  cases taken with
  | loop at_point =>
      rcases held (by rw [at_point]; rfl) with known | ⟨-, stopped⟩
      · exact .inl known
      · simp [stopped, AcceptPoint.announces] at announces
  | report at_point => cases announces
  | timeout at_point => exact .inl (announced at_point rfl (by simp))
  | handleEvent at_point =>
      cases continues : before.continueAccepting with
      | true => simp [continues, AcceptPoint.announces] at announces
      | false => exact .inr ⟨by simp, rfl⟩
  | lock at_point free => cases announces
  | acceptFailed lost at_point =>
      rcases allowed with edge | last
      · exact .inl (.inl edge)
      · refine .inl (.inr ?_)
        cases lost with
        | true =>
            change before.kernel.backlog - 1 = 0
            simp only [if_true] at last
            omega
        | false => simpa using last
  | accepted fd ssl kernel at_point got =>
      exact .inl (Kernel.announced_of_accept got allowed)
  | ntopFailed fd ssl kernel at_point got =>
      exact .inl (Kernel.announced_of_accept got allowed)
  | initConnection store outcome at_point =>
      have known := announced at_point rfl (by simp)
      obtain ⟨ssl, result | result⟩ :=
        before.initConnection_cases config store outcome
      · rw [result]
        exact .inl known
      · rw [result]
        exact .inl (known.close _)
  | registered store kernel at_point added =>
      exact .inl ((announced at_point rfl (by simp)).epollCtlAdd added)
  | refused store granted at_point =>
      exact .inl (announced at_point rfl (by simp))
  | backPointer poller store at_point =>
      exact .inl (announced at_point rfl (by simp))
  | insert store at_point => exact .inl (announced at_point rfl (by simp))
  | enqueue store at_point => exact .inl (announced at_point rfl (by simp))
  | unlock at_point => exact .inl (announced at_point rfl (by simp))

theorem pollerStep {config : Config} {before after : Server}
    {poller : PollerId} {choice : PollerChoice}
    (held : BacklogInvariant before)
    (taken : PollerStep config before poller choice after) :
    BacklogInvariant after := by
  cases taken with
  | report reported entries kernel at_point waited =>
      exact held.changeKernel (·.epollWait waited) rfl rfl
  | epollDel store rest handler at_point handler_eq =>
      exact held.changeKernel (·.epollCtlDel _ _) rfl rfl
  | closeConnection store rest at_point =>
      refine held.changeKernel
        (announced_closeConnection · config store) ?_ ?_
      · exact before.acceptThread_closeConnection config store
      · exact before.continueAccepting_closeConnection config store
  | _ => exact held

theorem workerStep {config : Config} {before after : Server}
    {worker : WorkerId} {choice : WorkerChoice}
    (held : BacklogInvariant before)
    (taken : WorkerStep config before worker choice after) :
    BacklogInvariant after := by
  cases taken with
  | syscall choice task call next syscall result kernel transfers at_point
      transferred =>
      exact held.changeKernel (·.transfer transferred) rfl rfl
  | close task at_point may_close =>
      refine held.changeKernel (announced_closeConnection · config _) ?_ ?_
      · exact before.acceptThread_closeConnection config _
      · exact before.continueAccepting_closeConnection config _
  | _ => exact held

theorem stopStep {config : Config} {before after : Server}
    (held : BacklogInvariant before)
    (taken : StopStep config before after) : BacklogInvariant after := by
  cases taken with
  | closeListening closed at_point closes =>
      rcases Server.closeListening_cases closes with result | result
      · rw [result]
        exact held
      · rw [result]
        exact held.changeKernel (·.close _) rfl rfl
  | stopAccepting at_point =>
      intro announces
      rcases held announces with announced | ⟨at_loop, -⟩
      · exact .inl announced
      · exact .inr ⟨at_loop, rfl⟩
  | closing store rest at_point =>
      refine held.changeKernel
        (announced_closeConnection · config store) ?_ ?_
      · exact before.acceptThread_closeConnection config store
      · exact before.continueAccepting_closeConnection config store
  | _ => exact held

theorem serverStep {config : Config} {before after : Server}
    {action : Action} (held : BacklogInvariant before)
    (allowed : acceptsLast before action)
    (taken : ServerStep config before action after) :
    BacklogInvariant after := by
  cases taken with
  | network taken =>
      cases taken with
      | connect =>
          exact held.changeKernel (fun _ => .connect before.kernel) rfl rfl
      | segment connection count still_open => exact held
      | hangUp connection cause => exact held
  | accept choice taken => exact held.acceptStep allowed taken
  | poller poller choice bound taken => exact held.pollerStep taken
  | worker worker choice bound taken => exact held.workerStep taken
  | stop taken => exact held.stopStep taken

end BacklogInvariant

/-- Where every `accept` takes the last completed connection, or returns with a
new edge pending, no connection is ever stranded. -/
theorem backlogAnnounced_of_reached {config : Config} {server : Server}
    (reached : (tcpServer config).Reached acceptsLast server) :
    server.BacklogAnnounced := by
  have held : BacklogInvariant server := by
    refine TransitionSystem.Reached.invariant ?_ ?_ reached
    · rintro state rfl
      exact BacklogInvariant.start config
    · intro before action after _ allowed taken held
      exact held.serverStep allowed (serverStep_of_step taken)
  intro waiting no_edge
  have announces : server.acceptThread.announces = true := by
    rw [waiting]
    rfl
  rcases held announces with announced | ⟨at_loop, -⟩
  · rcases announced with edge | empty
    · rw [no_edge] at edge
      cases edge
    · exact empty
  · rw [waiting] at at_loop
    cases at_loop

/-- Two clients connect, the second one after the report for the first; both
are accepted. -/
theorem backlogAnnounced_of_reached_twice :
    ∃ server : Server,
      (tcpServer .single).Reached acceptsLast server ∧
        (server.accepted = 2 ∧ server.acceptThread = .epollWait ∧
          server.kernel.listenEdge = false) ∧
        server.kernel.backlog = 0 := by
  obtain ⟨server, reached, both, waiting, no_edge⟩ :=
    exists_server_of_replay .single acceptsLast
      (fun server =>
        server.accepted = 2 ∧ server.acceptThread = .epollWait ∧
          server.kernel.listenEdge = false)
      ([.connect] ++ reachAccept ++ [.connect] ++ admission 4 ++
        reachAccept ++ admission 5 ++ [.accept .proceed])
      (by decide)
  exact ⟨server, reached, ⟨both, waiting, no_edge⟩,
    backlogAnnounced_of_reached reached waiting no_edge⟩

/-- Two clients connect before the report; the second one is stranded. -/
theorem connection_stranded :
    ¬ ∀ server, (tcpServer .single).Reachable server →
      server.BacklogAnnounced := by
  intro always
  obtain ⟨server, reachable, waiting, no_edge, stranded⟩ :=
    exists_server_of_replay .single (fun _ _ => True)
      (fun server =>
        server.acceptThread = .epollWait ∧
          server.kernel.listenEdge = false ∧ server.kernel.backlog = 1)
      ([.connect] ++ connectAndAdmit 4 ++ [.accept .proceed])
      (by decide)
  have empty := always server reachable waiting no_edge
  rw [stranded] at empty
  cases empty

end EventPlus

/-
Module: EventPlus.Server.HangUp
Purpose: Bytes against hang-ups: what a peer sent before its half-close is
  offered to the application before the socket is deleted and closed, as long
  as no hang-up is reported together with bytes nobody was told about.
Trusted boundary: none
Main exports:
  Server.Covered, Server.RemovalsCovered, hangUpAfterData,
  removalsCovered_of_reached
-/
import EventPlus.Server.Transitions

namespace EventPlus

open Function (update)

namespace Server

/-- No byte of the connection waits in the kernel without having arrived before
some data task was enqueued. -/
def Covered (server : Server) (connection : ConnectionId) : Prop :=
  (server.kernel.socket connection).arrived ≤
    max (server.kernel.socket connection).consumed
      (server.offered connection)

instance (server : Server) (connection : ConnectionId) :
    Decidable (server.Covered connection) :=
  inferInstanceAs (Decidable (_ ≤ _))

/-- `removeSocket` deletes and closes covered connections only. -/
def RemovalsCovered (server : Server) : Prop :=
  ∀ poller stage store rest,
    server.pollerThread poller = .busy stage store rest →
      stage = .epollDel ∨ stage = .closeConnection → server.Covered store

/-- Nothing more will arrive, and all that has is covered. -/
def Drained (server : Server) (connection : ConnectionId) : Prop :=
  (server.kernel.socket connection).hungUp = true ∧
    server.Covered connection

end Server

/-- Runs in which `epoll_wait` reports a hang-up only when a data task has been
enqueued since the last byte arrived, or the bytes have been read. -/
def hangUpAfterData (server : Server) : Action → Prop
  | .poller _ (.report reported) =>
      ∀ connection ∈ reported,
        (server.kernel.socket connection).hungUp = true →
          server.Covered connection
  | _ => True

instance (server : Server) :
    (action : Action) → Decidable (hangUpAfterData server action)
  | .poller _ (.report _) => inferInstanceAs (Decidable (∀ _ ∈ _, _ → _))
  | .poller _ .proceed | .poller _ .timeout => .isTrue trivial
  | .connect | .segment _ _ | .hangUp _ _ | .accept _ | .worker _ _
  | .stop => .isTrue trivial

/-! ## Covered connections stay covered

After the hang-up no byte arrives any more.  Reads only add to what was
consumed, and a data task offers all that has arrived.
-/

namespace Server

theorem drained_of_same {before after : Server} {connection : ConnectionId}
    (drained : before.Drained connection)
    (sockets :
      after.kernel.socket connection = before.kernel.socket connection)
    (offers : after.offered connection = before.offered connection) :
    after.Drained connection := by
  unfold Drained Covered
  rw [sockets, offers]
  exact drained

/-- Kernel calls that keep the bytes and the hang-up of a connection. -/
theorem drained_of_kept {before after : Server} {connection : ConnectionId}
    (drained : before.Drained connection)
    (kept :
      (after.kernel.socket connection).arrived =
          (before.kernel.socket connection).arrived ∧
        (after.kernel.socket connection).consumed =
            (before.kernel.socket connection).consumed ∧
          (after.kernel.socket connection).hungUp =
            (before.kernel.socket connection).hungUp)
    (offers : after.offered = before.offered) :
    after.Drained connection := by
  unfold Drained Covered
  rw [kept.1, kept.2.1, kept.2.2, offers]
  exact drained

theorem drained_closeConnection {server : Server} {connection : ConnectionId}
    (drained : server.Drained connection) (config : Config)
    (store : ConnectionId) :
    (server.closeConnection config store).Drained connection := by
  rcases server.closeConnection_cases config store with
    result | result | result
  · rw [result]
    exact drained
  · rw [result]
    exact drained_of_same drained
      (congrFun (Kernel.close_socket server.kernel _) connection) rfl
  · rw [result]
    exact drained_of_same drained
      (congrFun (Kernel.close_socket server.kernel _) connection) rfl

end Server

theorem drained_of_networkStep {before after : Server} {action : Action}
    {connection : ConnectionId} (drained : before.Drained connection)
    (taken : NetworkStep before action after) :
    after.Drained connection := by
  cases taken with
  | connect => exact drained
  | segment target count still_open =>
      have elsewhere : connection ≠ target := by
        intro same
        rw [← same, drained.1] at still_open
        cases still_open
      exact Server.drained_of_same drained
        (Function.update_of_ne elsewhere _ _) rfl
  | hangUp target cause =>
      by_cases same : connection = target
      · subst same
        have covered : before.Covered connection := drained.2
        simp [Server.Drained, Server.Covered, Kernel.hangUp] at covered ⊢
        exact covered
      · exact Server.drained_of_same drained
          (Function.update_of_ne same _ _) rfl

theorem drained_of_acceptStep {config : Config} {before after : Server}
    {choice : AcceptChoice} {connection : ConnectionId}
    (drained : before.Drained connection)
    (taken : AcceptStep config before choice after) :
    after.Drained connection := by
  cases taken with
  | accepted fd ssl kernel at_point got =>
      obtain ⟨-, rfl⟩ := Kernel.accept_spec got
      exact drained
  | ntopFailed fd ssl kernel at_point got =>
      obtain ⟨-, rfl⟩ := Kernel.accept_spec got
      exact drained
  | initConnection store outcome at_point =>
      obtain ⟨ssl, result | result⟩ :=
        before.initConnection_cases config store outcome
      · rw [result]
        exact drained
      · rw [result]
        exact Server.drained_of_same drained
          (congrFun (Kernel.close_socket before.kernel _) connection) rfl
  | registered store kernel at_point added =>
      obtain ⟨_, -, -, -, -, -, -, kept⟩ := Kernel.epollCtlAdd_spec added
      exact Server.drained_of_kept drained (kept connection) rfl
  | loop at_point => exact drained
  | report at_point => exact drained
  | timeout at_point => exact drained
  | handleEvent at_point => exact drained
  | lock at_point free => exact drained
  | acceptFailed lost at_point => exact drained
  | refused store granted at_point => exact drained
  | backPointer poller store at_point => exact drained
  | insert store at_point => exact drained
  | enqueue store at_point => exact drained
  | unlock at_point => exact drained

theorem drained_of_pollerStep {config : Config} {before after : Server}
    {poller : PollerId} {choice : PollerChoice} {connection : ConnectionId}
    (drained : before.Drained connection)
    (taken : PollerStep config before poller choice after) :
    after.Drained connection := by
  cases taken with
  | report reported entries kernel at_point waited =>
      obtain ⟨-, -, -, -, -, -, kept⟩ := Kernel.epollWait_spec waited
      exact Server.drained_of_kept drained (kept connection) rfl
  | dispatch store rest at_point =>
      by_cases same : connection = store
      · subst same
        have offered_all : (before.kernel.socket connection).arrived ≤
            max (before.kernel.socket connection).consumed
              (before.kernel.socket connection).arrived :=
          Nat.le_max_right _ _
        refine ⟨drained.1, ?_⟩
        simpa only [Server.Covered, Server.setPoller, Server.enqueueTask,
          Function.update_self] using offered_all
      · exact Server.drained_of_same drained rfl
          (Function.update_of_ne same _ _)
  | epollDel store rest handler at_point handler_eq =>
      exact Server.drained_of_same drained
        (congrFun (Kernel.epollCtlDel_socket before.kernel _ _) connection)
        rfl
  | closeConnection store rest at_point =>
      exact Server.drained_closeConnection drained config store
  | loop at_point => exact drained
  | timeout at_point => exact drained
  | batchDone at_point => exact drained
  | hangUp entry rest at_point flag => exact drained
  | data entry rest at_point flag => exact drained
  | skipped entry rest at_point => exact drained
  | setIncoming store rest at_point => exact drained
  | lock store rest at_point free => exact drained
  | setClosed store rest at_point => exact drained
  | noHandler store rest at_point handler_eq => exact drained
  | enqueue store rest at_point => exact drained
  | erase store rest at_point => exact drained
  | unlock store rest at_point => exact drained

theorem drained_of_workerStep {config : Config} {before after : Server}
    {worker : WorkerId} {choice : WorkerChoice} {connection : ConnectionId}
    (drained : before.Drained connection)
    (taken : WorkerStep config before worker choice after) :
    after.Drained connection := by
  cases taken with
  | syscall choice task call next syscall result kernel transfers at_point
      transferred =>
      rcases Kernel.transfer_spec transferred with
        rfl | ⟨served, count, -, rfl⟩
      · exact drained
      · by_cases same : connection = served
        · subst same
          have covered : before.Covered connection := drained.2
          refine ⟨?_, ?_⟩
          · simpa [Server.setWorker, Kernel.consume] using drained.1
          · simp only [Server.Covered, Server.setWorker, Server.record,
              Kernel.consume, Function.update_self] at covered ⊢
            omega
        · exact Server.drained_of_same drained
            (Function.update_of_ne same _ _) rfl
  | close task at_point may_close =>
      exact Server.drained_closeConnection drained config _
  | take task rest at_point queue => exact drained
  | dispatch task at_point => exact drained
  | call task request call at_point => exact drained
  | returnCall task call at_point => exact drained
  | finish task at_point => exact drained

theorem drained_of_stopStep {config : Config} {before after : Server}
    {connection : ConnectionId} (drained : before.Drained connection)
    (taken : StopStep config before after) : after.Drained connection := by
  cases taken with
  | closeListening closed at_point closes =>
      rcases Server.closeListening_cases closes with result | result
      · rw [result]
        exact drained
      · rw [result]
        exact Server.drained_of_same drained
          (congrFun (Kernel.close_socket before.kernel _) connection) rfl
  | closing store rest at_point =>
      exact Server.drained_closeConnection drained config store
  | call at_point next still_outside => exact drained
  | unregister at_point next still_outside => exact drained
  | stopAccepting at_point => exact drained
  | stopPoller poller at_point => exact drained
  | closePollerEpoll poller at_point => exact drained
  | lockAll at_point free => exact drained
  | clear at_point => exact drained
  | unlock at_point => exact drained

theorem drained_of_step {config : Config} {before after : Server}
    {action : Action} {connection : ConnectionId}
    (drained : before.Drained connection)
    (taken : ServerStep config before action after) :
    after.Drained connection := by
  cases taken with
  | network taken => exact drained_of_networkStep drained taken
  | accept choice taken => exact drained_of_acceptStep drained taken
  | poller poller choice bound taken =>
      exact drained_of_pollerStep drained taken
  | worker worker choice bound taken =>
      exact drained_of_workerStep drained taken
  | stop taken => exact drained_of_stopStep drained taken

/-! ## The removals a poller still has to make -/

/-- The stages of `removeSocket`. -/
def PollerStage.removes : PollerStage → Bool
  | .handleEvent | .dispatch => false
  | _ => true

/-- The stores of the entries with `EPOLLRDHUP`. -/
def hangUps (entries : List EpollEvent) : List ConnectionId :=
  (entries.filter (·.epollRdhup)).map (·.store)

/-- The stores a poller is removing or will remove before its next
`epoll_wait`. -/
def PollerPoint.removals : PollerPoint → List ConnectionId
  | .batch rest => hangUps rest
  | .busy stage store rest =>
      if stage.removes then store :: hangUps rest else hangUps rest
  | _ => []

theorem mem_hangUps_report {kernel : Kernel} {reported : List ConnectionId}
    {store : ConnectionId}
    (planned : store ∈ hangUps (reported.map kernel.event)) :
    store ∈ reported ∧ (kernel.socket store).hungUp = true := by
  simp only [hangUps, List.mem_map, List.mem_filter] at planned
  obtain ⟨_, ⟨⟨connection, member, rfl⟩, flag⟩, rfl⟩ := planned
  exact ⟨member, flag⟩

theorem mem_hangUps_cons (entry : EpollEvent) {rest : List EpollEvent}
    {store : ConnectionId} (member : store ∈ hangUps rest) :
    store ∈ hangUps (entry :: rest) := by
  unfold hangUps at member ⊢
  rw [List.filter_cons]
  split
  · exact List.mem_cons_of_mem _ member
  · exact member

/-- New removals come from `epoll_wait` only. -/
theorem removals_of_pollerStep {config : Config} {before after : Server}
    {poller other : PollerId} {choice : PollerChoice} {store : ConnectionId}
    (taken : PollerStep config before poller choice after)
    (planned : store ∈ (after.pollerThread other).removals) :
    store ∈ (before.pollerThread other).removals ∨
      ∃ reported, choice = .report reported ∧ store ∈ reported ∧
        (before.kernel.socket store).hungUp = true := by
  have narrowed : ∀ {threads : PollerId → PollerPoint} {point next},
      before.pollerThread poller = point →
        store ∈ (threads other).removals →
          threads = update before.pollerThread poller next →
            (store ∈ next.removals → store ∈ point.removals) →
              store ∈ (before.pollerThread other).removals := by
    rintro threads point next rfl member rfl fewer
    by_cases same : other = poller
    · subst same
      rw [Function.update_self] at member
      exact fewer member
    · rw [Function.update_of_ne same] at member
      exact member
  cases taken with
  | report reported entries kernel at_point waited =>
      obtain ⟨rfl, -, -, -, -, -⟩ := Kernel.epollWait_spec waited
      by_cases same : other = poller
      · subst same
        simp only [Server.setPoller_self] at planned
        exact .inr ⟨reported, rfl, mem_hangUps_report planned⟩
      · simp only [Server.setPoller_of_ne same] at planned
        exact .inl planned
  | loop at_point =>
      refine .inl (narrowed at_point planned rfl ?_)
      split <;> exact id
  | timeout at_point => exact .inl (narrowed at_point planned rfl id)
  | batchDone at_point => exact .inl (narrowed at_point planned rfl id)
  | hangUp entry rest at_point flag =>
      refine .inl (narrowed at_point planned rfl ?_)
      simp [PollerPoint.removals, PollerStage.removes, hangUps, flag]
  | data entry rest at_point flag =>
      refine .inl (narrowed at_point planned rfl ?_)
      simp [PollerPoint.removals, PollerStage.removes, hangUps, flag]
  | skipped entry rest at_point =>
      refine .inl (narrowed at_point planned rfl ?_)
      exact fun member => mem_hangUps_cons entry member
  | setIncoming store rest at_point =>
      exact .inl (narrowed at_point planned rfl id)
  | dispatch store rest at_point =>
      exact .inl (narrowed at_point planned rfl id)
  | lock store rest at_point free =>
      exact .inl (narrowed at_point planned rfl id)
  | setClosed store rest at_point =>
      exact .inl (narrowed at_point planned rfl id)
  | noHandler store rest at_point handler_eq =>
      exact .inl (narrowed at_point planned rfl id)
  | epollDel store rest handler at_point handler_eq =>
      exact .inl (narrowed at_point planned rfl id)
  | closeConnection store rest at_point =>
      have moved := congrArg
        (update · poller (.busy .enqueue store rest))
        (before.pollerThread_closeConnection config store)
      exact .inl (narrowed at_point planned moved id)
  | enqueue store rest at_point =>
      exact .inl (narrowed at_point planned rfl id)
  | erase store rest at_point =>
      exact .inl (narrowed at_point planned rfl id)
  | unlock store rest at_point =>
      refine .inl (narrowed at_point planned rfl ?_)
      exact List.mem_cons_of_mem _

/-! ## Runs -/

/-- What every poller still has to remove is drained. -/
def RemovalsDrained (server : Server) : Prop :=
  ∀ poller, ∀ store ∈ (server.pollerThread poller).removals,
    server.Drained store

theorem removalsDrained_of_step {config : Config} {before after : Server}
    {action : Action} (drained : RemovalsDrained before)
    (allowed : hangUpAfterData before action)
    (taken : ServerStep config before action after) :
    RemovalsDrained after := by
  intro other store planned
  have drained_before : before.Drained store := by
    cases taken with
    | poller poller choice bound taken =>
        rcases removals_of_pollerStep taken planned with
          earlier | ⟨reported, rfl, member, hung_up⟩
        · exact drained other store earlier
        · exact ⟨hung_up, allowed store member hung_up⟩
    | network taken =>
        refine drained other store ?_
        cases taken <;> exact planned
    | accept choice taken =>
        rw [pollerThread_of_step (.accept choice taken) (by simp)] at planned
        exact drained other store planned
    | worker worker choice bound taken =>
        rw [pollerThread_of_step (.worker worker choice bound taken)
          (by simp)] at planned
        exact drained other store planned
    | stop taken =>
        rw [pollerThread_of_step (.stop taken) (by simp)] at planned
        exact drained other store planned
  exact drained_of_step drained_before taken

/-- Where no hang-up is reported ahead of bytes nobody was told about, every
connection `removeSocket` deletes and closes has all its bytes read or
offered to the application. -/
theorem removalsCovered_of_reached {config : Config} {server : Server}
    (reached : (tcpServer config).Reached hangUpAfterData server) :
    server.RemovalsCovered := by
  have drained : RemovalsDrained server := by
    refine TransitionSystem.Reached.invariant ?_ ?_ reached
    · rintro state rfl poller store ⟨⟩
    · intro before action after _ allowed taken held
      exact removalsDrained_of_step held allowed (serverStep_of_step taken)
  intro poller stage store rest at_point removing
  refine (drained poller store ?_).2
  rw [at_point]
  rcases removing with rfl | rfl
  · exact List.mem_cons_self
  · exact List.mem_cons_self

/-- Five bytes get their data task; the half-close comes after that. -/
theorem removalsCovered_of_reached_apart :
    ∃ server : Server,
      (tcpServer .single).Reached hangUpAfterData server ∧
        ((server.kernel.socket 0).arrived = 5 ∧
          (server.kernel.socket 0).consumed = 0 ∧
            server.pollerThread 0 = .busy .closeConnection 0 []) ∧
        server.Covered 0 := by
  obtain ⟨server, reached, arrived, unread, closing⟩ :=
    exists_server_of_replay .single hangUpAfterData
      (fun server =>
        (server.kernel.socket 0).arrived = 5 ∧
          (server.kernel.socket 0).consumed = 0 ∧
            server.pollerThread 0 = .busy .closeConnection 0 [])
      (connectAndAdmit 4 ++ [.segment 0 5] ++ pollOne 0 0 ++ handleData 0 ++
        [.hangUp 0 .halfClose] ++ pollOne 0 0 ++
          List.replicate 4 (.poller 0 .proceed))
      (by decide)
  exact ⟨server, reached, ⟨arrived, unread, closing⟩,
    removalsCovered_of_reached reached 0 _ 0 [] closing (.inr rfl)⟩

/-- Five bytes and the half-close arrive before one `epoll_wait`; the socket is
deleted and about to be closed, and no data task was ever enqueued. -/
theorem removal_with_bytes_unread :
    ¬ ∀ server, (tcpServer .single).Reachable server →
      server.RemovalsCovered := by
  intro always
  obtain ⟨server, reachable, uncovered, closing⟩ :=
    exists_server_of_replay .single (fun _ _ => True)
      (fun server =>
        ¬ server.Covered 0 ∧
          server.pollerThread 0 = .busy .closeConnection 0 [])
      (connectAndAdmit 4 ++ [.segment 0 5, .hangUp 0 .halfClose] ++
        pollOne 0 0 ++ List.replicate 4 (.poller 0 .proceed))
      (by decide)
  exact uncovered
    (always server reachable 0 _ 0 [] closing (.inr rfl))

end EventPlus

/-
Module: EventPlus.Server.Release
Purpose: What `stopPolling` leaves open: as long as no step takes one of the
  ways out that forget a descriptor, nothing the server opened is open when it
  returns.
Trusted boundary: none
Main exports:
  Tracked, tracked_of_reached, EpollsDown, epollsDown_of_reachable,
  released_of_reached, listening_leaked
-/
import EventPlus.Server.NoLeak

namespace EventPlus

open Function (update)

/-! ## Every open connection is known -/

/-- `handleIOEvent` has the connection in hand and has not inserted its store
yet. -/
def Server.Admitting (server : Server) (connection : ConnectionId) : Prop :=
  ∃ stage, stage ≠ .enqueue ∧
    server.acceptThread = .admitting stage connection

/-- An open connection is in the map under its number, or being admitted.
`closeAllClientSocket` still has every open one before it, and none is open
behind it. -/
structure Tracked (server : Server) : Prop where
  found : ∀ fd connection,
    server.kernel.file fd = some (.client connection) →
      server.find fd = some connection ∨ server.Admitting connection
  closing : ∀ rest, server.stopThread = .closing rest →
    ∀ fd connection, server.kernel.file fd = some (.client connection) →
      connection ∈ rest
  stopped : server.stopThread = .unlock ∨ server.stopThread = .returned →
    ∀ fd connection, server.kernel.file fd ≠ some (.client connection)

namespace Tracked

variable {config : Config} {before after : Server}

theorem start (config : Config) : Tracked (Server.start config) where
  found := by
    intro fd connection denotes
    exact absurd
      ((Descriptors.start config).denoted_lt fd connection denotes)
      (Nat.not_lt_zero connection)
  closing := by
    intro rest at_point
    cases at_point
  stopped := by
    rintro (at_point | at_point)
    · cases at_point
    · cases at_point

/-- A step that accepts nothing, keeps the entries of open connections, and
drops none that is being admitted. -/
theorem found_of (tracked : Tracked before)
    (file : ∀ fd connection,
      after.kernel.file fd = some (.client connection) →
        before.kernel.file fd = some (.client connection))
    (entry : ∀ fd connection,
      before.kernel.file fd = some (.client connection) →
        before.find fd = some connection → after.find fd = some connection)
    (admitting : ∀ connection, before.Admitting connection →
      after.Admitting connection)
    (fd : Fd) (connection : ConnectionId)
    (denotes : after.kernel.file fd = some (.client connection)) :
    after.find fd = some connection ∨ after.Admitting connection := by
  have earlier := file fd connection denotes
  rcases tracked.found fd connection earlier with known | admitted
  · exact .inl (entry fd connection earlier known)
  · exact .inr (admitting connection admitted)

/-- Away from the stages of an admission nothing is being admitted. -/
theorem not_admitting {server : Server} {point : AcceptPoint}
    (at_point : server.acceptThread = point)
    (elsewhere : ∀ stage store, stage ≠ .enqueue →
      point ≠ .admitting stage store)
    (connection : ConnectionId) : ¬server.Admitting connection := by
  rintro ⟨stage, inserted, admitting⟩
  rw [at_point] at admitting
  exact elsewhere stage connection inserted admitting

/-- A step from one stage of an admission to the next. -/
theorem admitting_next {server : Server} {stage next : AdmitStage}
    {store : ConnectionId}
    (at_point : before.acceptThread = .admitting stage store)
    (at_next : server.acceptThread = .admitting next store)
    (not_inserted : next ≠ .enqueue) (connection : ConnectionId)
    (admitting : before.Admitting connection) :
    server.Admitting connection := by
  obtain ⟨_, -, same⟩ := admitting
  rw [at_point] at same
  cases same
  exact ⟨next, not_inserted, at_next⟩

/-- A step that accepts nothing and keeps the map, with nothing being
admitted. -/
theorem found_idle (tracked : Tracked before) {point : AcceptPoint}
    (at_point : before.acceptThread = point)
    (elsewhere : ∀ stage store, stage ≠ .enqueue →
      point ≠ .admitting stage store)
    (file : after.kernel.file = before.kernel.file)
    (same : ∀ fd, after.find fd = before.find fd)
    (fd : Fd) (connection : ConnectionId)
    (denotes : after.kernel.file fd = some (.client connection)) :
    after.find fd = some connection ∨ after.Admitting connection := by
  apply tracked.found_of _ _ _ fd connection denotes
  · intro fd connection denotes
    rw [file] at denotes
    exact denotes
  · intro fd connection _ known
    rw [same]
    exact known
  · intro other admitting
    exact absurd admitting (not_admitting at_point elsewhere other)

/-- `accept` and the admission of a store. -/
theorem acceptStep_found (tracked : Tracked before)
    (clients : ClientsClosable config before) (sound : Sound config before)
    {choice : AcceptChoice}
    (allowed : noLeak config before (.accept choice) = true)
    (taken : AcceptStep config before choice after)
    (fd : Fd) (connection : ConnectionId)
    (denotes : after.kernel.file fd = some (.client connection)) :
    after.find fd = some connection ∨ after.Admitting connection := by
  cases taken with
  | accepted number ssl kernel at_point got =>
      rcases Kernel.file_of_accept got denotes with
        earlier | ⟨-, newest⟩
      · rcases tracked.found fd connection earlier with known | admitting
        · exact .inl known
        · exact absurd admitting (not_admitting at_point (by simp) connection)
      · cases newest
        exact .inr ⟨.initConnection, by simp, rfl⟩
  | ntopFailed number ssl kernel at_point got => cases allowed
  | initConnection store outcome at_point =>
      apply tracked.found_of _ _ _ fd connection denotes
      · intro fd connection denotes
        obtain ⟨ssl, result | result⟩ :=
          before.initConnection_cases config store outcome
        · rw [result] at denotes
          exact denotes
        · rw [result] at denotes
          exact Kernel.file_of_close denotes
      · intro fd connection _ known
        obtain ⟨_, _, _, result⟩ :=
          before.initConnection_frame config store outcome
        rw [result]
        exact known
      · exact admitting_next at_point rfl (by simp)
  | registered store kernel at_point added =>
      obtain ⟨_, -, -, -, file, -, -⟩ := Kernel.epollCtlAdd_spec added
      apply tracked.found_of _ _ _ fd connection denotes
      · intro fd connection denotes
        change kernel.file fd = _ at denotes
        rw [file] at denotes
        exact denotes
      · exact fun _ _ _ known => known
      · exact admitting_next at_point rfl (by simp)
  | refused store granted at_point =>
      apply tracked.found_of _ _ _ fd connection denotes
      · exact fun _ _ denotes => denotes
      · exact fun _ _ _ known => known
      · exact admitting_next at_point rfl (by simp)
  | backPointer poller store at_point =>
      apply tracked.found_of _ _ _ fd connection denotes
      · exact fun _ _ denotes => denotes
      · exact fun _ _ _ known => known
      · exact admitting_next at_point rfl (by simp)
  | insert store at_point =>
      left
      change before.kernel.file fd = _ at denotes
      change (before.insertStore store).find fd = some connection
      rw [Server.find_insertStore]
      split
      · rename_i same
        rw [same] at denotes
        rw [sound.owned.admitting_file _ store at_point connection denotes]
      · rename_i different
        rcases tracked.found fd connection denotes with known | admitting
        · exact known
        · obtain ⟨stage, -, admitting⟩ := admitting
          rw [at_point] at admitting
          cases admitting
          exact absurd (clients.number sound.descriptors denotes) different
  | enqueue store at_point =>
      apply tracked.found_idle at_point _ _ _ fd connection denotes
      · intro stage other not_inserted same
        cases same
        exact not_inserted rfl
      · rfl
      · intro number
        rfl
  | _ =>
      apply tracked.found_idle ‹before.acceptThread = _› _ _ _ fd connection
        denotes
      · simp
      · rfl
      · intro number
        rfl

/-- The steps of the other threads.  What `removeSocket` erases is closed, and
so is everything when `closeAllClientSocket` clears the map. -/
theorem otherStep_entry (tracked : Tracked before)
    (entries : EntriesClosed before) {action : Action}
    (taken : (tcpServer config).step before action = some after)
    (not_accept : ∀ choice, action ≠ .accept choice)
    (fd : Fd) (connection : ConnectionId)
    (denotes : before.kernel.file fd = some (.client connection))
    (known : before.find fd = some connection) :
    after.find fd = some connection := by
  have kept : ∀ store,
      (before.closeConnection config store).find fd = some connection := by
    intro store
    obtain ⟨_, _, _, result⟩ := before.closeConnection_frame config store
    rw [result]
    exact known
  cases serverStep_of_step taken with
  | network moved => cases moved <;> exact known
  | accept choice moved => exact absurd rfl (not_accept choice)
  | poller poller choice bound moved =>
      cases moved with
      | closeConnection store rest at_point => exact kept store
      | erase store rest at_point =>
          change (before.eraseStore store).find fd = some connection
          rw [Server.find_eraseStore]
          split
          · rename_i same
            rw [same] at denotes known
            exact absurd denotes (Server.entryOpen_eq_false.mp
              (entries poller store rest (.inr at_point)) connection known)
          · exact known
      | _ => exact known
  | worker worker choice bound moved =>
      cases moved with
      | close task at_point may_close => exact kept task.eventStorePointer
      | _ => exact known
  | stop moved =>
      cases moved with
      | closeListening closed at_point closes =>
          obtain ⟨_, _, result⟩ := Server.closeListening_frame closes
          rw [result]
          exact known
      | closing store rest at_point => exact kept store
      | clear at_point =>
          cases tracked.closing [] at_point fd connection denotes
      | _ => exact known

theorem waiting_of_accept {kernel next : Kernel} {fd : Fd}
    {connection : ConnectionId}
    (got : kernel.accept fd connection = some next) : 0 < kernel.backlog := by
  unfold Kernel.accept at got
  split at got
  · rename_i guard
    exact guard.1
  · cases got

/-- Behind `closeServerSocket` nothing is accepted any more. -/
theorem file_of_past (sound : Sound config before)
    (down : ListeningDown config before)
    (past : before.stopThread.pastListening = true) {action : Action}
    (taken : (tcpServer config).step before action = some after)
    {fd : Fd} {file : File} (denotes : after.kernel.file fd = some file) :
    before.kernel.file fd = some file := by
  have empty := sound.listening.backlog (down.closed past)
  rcases (tableStep_of_step taken).file_before denotes with
    earlier | ⟨-, inetNtop, ssl, rfl⟩
  · exact earlier
  · cases serverStep_of_step taken with
    | network moved => cases moved
    | accept choice moved =>
        cases moved with
        | accepted fd ssl kernel at_point got =>
            exact absurd (waiting_of_accept got) (by omega)
        | ntopFailed fd ssl kernel at_point got =>
            exact absurd (waiting_of_accept got) (by omega)

theorem step (tracked : Tracked before)
    (clients : ClientsClosable config before)
    (down : ListeningDown config before) (entries : EntriesClosed before)
    (sound : Sound config before) {action : Action}
    (allowed : noLeak config before action = true)
    (taken : (tcpServer config).step before action = some after) :
    Tracked after := by
  have moved := serverStep_of_step taken
  constructor
  · by_cases accepts : ∃ choice, action = .accept choice
    · obtain ⟨choice, rfl⟩ := accepts
      cases moved with
      | accept _ moved =>
          exact tracked.acceptStep_found clients sound allowed moved
      | network moved => cases moved
    · have not_accept : ∀ choice, action ≠ .accept choice :=
        fun choice same => accepts ⟨choice, same⟩
      apply tracked.found_of
      · exact fun _ _ => file_of_other taken not_accept
      · exact tracked.otherStep_entry entries taken not_accept
      · rintro connection ⟨stage, inserted, admitting⟩
        rw [← acceptThread_of_step moved not_accept] at admitting
        exact ⟨stage, inserted, admitting⟩
  · intro rest at_point fd connection denotes
    by_cases stops : action = .stop
    · subst stops
      have earlier := file_of_other taken (by simp) denotes
      cases stopLine_of_some taken with
      | lockAll at_lock free =>
          cases at_point
          rcases tracked.found fd connection earlier with
            known | ⟨stage, -, admitting⟩
          · exact Server.mem_ownedStores.mpr ⟨fd, known⟩
          · have outside := (sound.exclusive.of_free free).1
            rw [admitting] at outside
            cases outside
      | closing store later at_closing =>
          cases at_point
          have before_us :=
            tracked.closing (store :: rest) at_closing fd connection earlier
          rcases List.mem_cons.mp before_us with rfl | remaining
          · have freed := Server.file_closeConnection_self
              (clients.closes fd connection earlier)
            rw [← clients.number sound.descriptors earlier] at freed
            change (before.closeConnection config connection).kernel.file
              fd = _ at denotes
            rw [freed] at denotes
            cases denotes
          · exact remaining
      | _ => cases at_point
    · rw [stopThread_of_step moved stops] at at_point
      apply tracked.closing rest at_point fd connection
      apply file_of_past sound down _ taken denotes
      rw [at_point]
      rfl
  · intro at_point fd connection denotes
    by_cases stops : action = .stop
    · subst stops
      have earlier := file_of_other taken (by simp) denotes
      cases stopLine_of_some taken with
      | clear at_clear =>
          cases tracked.closing [] at_clear fd connection earlier
      | unlock at_unlock =>
          exact tracked.stopped (.inl at_unlock) fd connection earlier
      | _ => rcases at_point with at_point | at_point <;> cases at_point
    · rw [stopThread_of_step moved stops] at at_point
      apply tracked.stopped at_point fd connection
      apply file_of_past sound down _ taken denotes
      rcases at_point with at_point | at_point
      · rw [at_point]
        rfl
      · rw [at_point]
        rfl

theorem otherFiles (tracked : Tracked before)
    (change : OtherFiles before after) : Tracked after := by
  have client := change.client_iff
  cases change with
  | changed number written foreign_before foreign_after =>
      constructor
      · intro fd connection denotes
        exact tracked.found fd connection ((client fd connection).mp denotes)
      · intro rest at_point fd connection denotes
        exact tracked.closing rest at_point fd connection
          ((client fd connection).mp denotes)
      · intro at_point fd connection denotes
        exact tracked.stopped at_point fd connection
          ((client fd connection).mp denotes)

end Tracked

theorem tracked_of_reached {config : ProcessConfig} {process : Process}
    (reached : (serverProcess config).Reached (NoLeak config) process) :
    Tracked process.server := by
  refine server_invariant ?_ ?_ ?_ reached
  · exact Tracked.start config.toConfig
  · intro before action after earlier allowed taken tracked
    exact tracked.step (clientsClosable_of_reached earlier)
      (listeningDown_of_reached earlier) (entriesClosed_of_reached earlier)
      (sound_of_reachable earlier.reachable) allowed taken
  · intro before after change tracked
    exact tracked.otherFiles change

/-! ## The epolls -/

/-- The epolls this call of `stopPolling` has closed. -/
def StopPoint.closedEpolls (numPollers : Nat) : StopPoint → List Epoll
  | .stopPoller poller | .closePollerEpoll poller => Epoll.all poller
  | .lockAll | .closing _ | .unlock | .returned => Epoll.all numPollers
  | _ => []

/-- `m_epollFileDescriptor` is `-1` for the epolls closed so far. -/
structure EpollsDown (config : ProcessConfig) (process : Process) : Prop where
  created : ∀ epoll, epoll ∉ Epoll.all config.numPollers →
    process.epollFileDescriptor epoll = none
  closed : ∀ epoll ∈
      process.server.stopThread.closedEpolls config.numPollers,
    process.epollFileDescriptor epoll = none

@[simp] theorem Epoll.accept_mem_all (numPollers : Nat) :
    Epoll.accept ∈ Epoll.all numPollers := List.mem_cons_self

@[simp] theorem Epoll.poller_mem_all {numPollers : Nat} {poller : PollerId} :
    Epoll.poller poller ∈ Epoll.all numPollers ↔ poller < numPollers := by
  simp [Epoll.all]

theorem Epoll.all_subset {first second : Nat} (le : first ≤ second)
    {epoll : Epoll} (member : epoll ∈ Epoll.all first) :
    epoll ∈ Epoll.all second := by
  cases epoll with
  | accept => exact Epoll.accept_mem_all second
  | poller poller =>
      rw [Epoll.poller_mem_all] at member ⊢
      exact Nat.lt_of_lt_of_le member le

namespace EpollsDown

variable {config : ProcessConfig} {before after : Process}

theorem start (config : ProcessConfig) :
    EpollsDown config (Process.start config) where
  created := by
    intro epoll unlisted
    simp [Process.start, unlisted]
  closed := by
    intro epoll member
    cases member

theorem epollFileDescriptor_closeEpoll (process : Process) (epoll : Epoll) :
    (process.closeEpoll epoll).epollFileDescriptor =
      update process.epollFileDescriptor epoll none := by
  unfold Process.closeEpoll
  split
  · rename_i unset
    rw [← unset, Function.update_eq_self]
  · rfl

theorem stopThread_closeEpoll (process : Process) (epoll : Epoll) :
    (process.closeEpoll epoll).server.stopThread =
      process.server.stopThread := by
  unfold Process.closeEpoll
  split
  · rfl
  · rfl

/-- The lines of `stopPolling` that close no epoll go no further than the
epolls already closed. -/
theorem closedEpolls_of_line {server : Server}
    (line : StopLine config.toConfig before.server server)
    (no_epoll : before.server.stopThread.closesEpoll = none) {epoll : Epoll}
    (member : epoll ∈ server.stopThread.closedEpolls config.numPollers) :
    epoll ∈
      before.server.stopThread.closedEpolls config.numPollers := by
  cases line with
  | stopPoller poller at_point bound =>
      rw [at_point]
      exact member
  | pollersDone poller at_point all =>
      rw [at_point]
      exact Epoll.all_subset all member
  | closeAcceptEpoll at_point =>
      rw [at_point] at no_epoll
      cases no_epoll
  | closePollerEpoll poller at_point =>
      rw [at_point] at no_epoll
      cases no_epoll
  | lockAll at_point free =>
      rw [at_point]
      exact member
  | closing store rest at_point =>
      rw [at_point]
      exact member
  | clear at_point =>
      rw [at_point]
      exact member
  | unlock at_point =>
      rw [at_point]
      exact member
  | _ => cases member

/-- The lines that close an epoll add that one. -/
theorem closedEpolls_of_close {server : Server} {epoll other : Epoll}
    (line : StopLine config.toConfig before.server server)
    (closes : before.server.stopThread.closesEpoll = some epoll)
    (member : other ∈ server.stopThread.closedEpolls config.numPollers) :
    other = epoll ∨
      other ∈
        before.server.stopThread.closedEpolls config.numPollers := by
  cases line with
  | closeAcceptEpoll at_point =>
      rw [at_point] at closes
      cases closes
      left
      simpa [StopPoint.closedEpolls, Epoll.all] using member
  | closePollerEpoll poller at_point =>
      rw [at_point] at closes ⊢
      cases closes
      change other ∈ Epoll.all (poller + 1) at member
      change other = _ ∨ other ∈ Epoll.all poller
      cases other with
      | accept => exact .inr (Epoll.accept_mem_all poller)
      | poller another =>
          rw [Epoll.poller_mem_all] at member ⊢
          rcases Nat.lt_succ_iff_lt_or_eq.mp member with earlier | rfl
          · exact .inr earlier
          · exact .inl rfl
  | begin at_point =>
      rcases at_point with at_point | at_point
      · rw [at_point] at closes
        cases closes
      · rw [at_point] at closes
        cases closes
  | _ =>
      rw [‹before.server.stopThread = _›] at closes
      cases closes

theorem processStep (down : EpollsDown config before)
    {action : ProcessAction}
    (taken : ProcessStep config before action after) :
    EpollsDown config after := by
  cases taken with
  | server action server taken no_epoll =>
      constructor
      · exact down.created
      · intro epoll member
        apply down.closed epoll
        by_cases stops : action = .stop
        · subst stops
          exact closedEpolls_of_line (stopLine_of_some taken) no_epoll member
        · rw [← stopThread_of_step (serverStep_of_step taken) stops]
          exact member
  | closeEpoll epoll server taken closes =>
      constructor
      · intro other unlisted
        rw [epollFileDescriptor_closeEpoll]
        by_cases same : other = epoll
        · rw [same, Function.update_self]
        · rw [Function.update_of_ne same]
          exact down.created other unlisted
      · intro other member
        rw [stopThread_closeEpoll] at member
        rw [epollFileDescriptor_closeEpoll]
        by_cases same : other = epoll
        · rw [same, Function.update_self]
        · rw [Function.update_of_ne same]
          rcases closedEpolls_of_close (stopLine_of_some taken) closes
            member with now | earlier
          · exact absurd now same
          · exact down.closed other earlier
  | openFile fd unused => exact ⟨down.created, down.closed⟩
  | closeFile fd denotes foreign => exact ⟨down.created, down.closed⟩

end EpollsDown

theorem epollsDown_of_reachable {config : ProcessConfig} {process : Process}
    (reachable : (serverProcess config).Reachable process) :
    EpollsDown config process := by
  refine TransitionSystem.Reachable.invariant ?_ ?_ reachable
  · intro state initially
    cases initially
    exact EpollsDown.start config
  · intro before action after _ taken down
    exact down.processStep (processStep_of_some taken)

/-! ## After `stopPolling` -/

/-- In a run whose steps take none of the ways out that forget a descriptor,
everything is closed whenever `stopPolling` has returned, with either handler
and whatever the unset fields contain. -/
theorem released_of_reached {config : ProcessConfig} {process : Process}
    (reached : (serverProcess config).Reached (NoLeak config) process)
    (returned : process.server.stopThread = .returned) :
    process.Released := by
  have reachable := reached.reachable
  have table := epollTable_of_reachable reachable
  have down := epollsDown_of_reachable reachable
  constructor
  · intro fd listens
    obtain rfl :=
      (sound_of_reachable reachable).listening.number fd listens
    apply (listeningDown_of_reached reached).closed _ listens
    rw [returned]
    rfl
  · exact (tracked_of_reached reached).stopped (.inr returned)
  · intro fd epoll denotes
    have field := (table.denotes_iff fd epoll).mp denotes
    have closed : process.epollFileDescriptor epoll = none := by
      by_cases listed : epoll ∈ Epoll.all config.numPollers
      · apply down.closed
        rw [returned]
        exact listed
      · exact down.created epoll listed
    rw [closed] at field
    cases field

/-- The field happens to hold the listening number, and one client is
admitted. -/
theorem released_of_reached_listening :
    ∃ process,
      (serverProcess (.single false 3)).Reached
          (NoLeak (.single false 3)) process ∧
        process.server.accepted = 1 ∧ process.Released := by
  obtain ⟨process, reached, accepted, returned⟩ :=
    exists_process_of_replay (.single false 3) (NoLeak (.single false 3))
      (fun process =>
        process.server.accepted = 1 ∧ process.server.stopThread = .returned)
      (serverActions (connectAndAdmit 4 ++ List.replicate 13 .stop))
      (by decide)
  exact ⟨process, reached, accepted, released_of_reached reached returned⟩

/-- The other threads have ended or wait for a task. -/
def Server.OthersStopped (config : Config) (server : Server) : Prop :=
  server.acceptThread = .exited ∧
    (∀ poller < config.numPollers, server.pollerThread poller = .exited) ∧
    ∀ worker < config.numWorkers, server.workerThread worker = .idle

instance (config : Config) (server : Server) :
    Decidable (server.OthersStopped config) :=
  inferInstanceAs (Decidable (_ ∧ _))

/-- With `-1` in the field `stopPolling` leaves the listening socket open. -/
theorem listening_leaked :
    ¬∀ process, (serverProcess (.single false (-1))).Reachable process →
      process.server.stopThread = .returned →
        process.server.OthersStopped
            (ProcessConfig.single false (-1)).toConfig →
          process.Released := by
  intro always
  obtain ⟨process, reachable, returned, stopped, listens⟩ :=
    exists_process_of_replay (.single false (-1)) (fun _ _ => True)
      (fun process =>
        process.server.stopThread = .returned ∧
          process.server.OthersStopped
            (ProcessConfig.single false (-1)).toConfig ∧
          process.server.kernel.file 3 = some .listening)
      (serverActions
        (List.replicate 10 .stop ++
          [.accept .proceed, .poller 0 .proceed]))
      (by decide)
  exact (always process reachable returned stopped).listening 3 listens

end EventPlus

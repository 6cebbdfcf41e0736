/-
Module: EventPlus.Server.NoLeak
Purpose: The steps that forget an open descriptor, and what holds as long as
  none is taken: every open connection and the listening socket can be closed
  when `stopPolling` comes to them, and removals erase closed entries only.
Trusted boundary: none
Main exports:
  Process.Released, Handler.closes, noLeak, NoLeak, ClientsClosable,
  clientsClosable_of_reached, ListeningDown, listeningDown_of_reached,
  EntriesClosed, entriesClosed_of_reached
-/
import EventPlus.Server.Process

namespace EventPlus

open Function (update)

/-! ## Released descriptors, and steps that leak none -/

/-- None of the descriptors the server has opened is open. -/
structure Process.Released (process : Process) : Prop where
  listening : ∀ fd, process.server.kernel.file fd ≠ some .listening
  clients : ∀ fd connection,
    process.server.kernel.file fd ≠ some (.client connection)
  epolls : ∀ fd epoll, process.epollFile fd ≠ some epoll

/-- `closeConnection` closes the connection of a client's store: the TLS handler
does so only where `m_SSL` is not null.  Whatever else a fresh store has there,
`initConnection` replaces by a session or by null. -/
def Handler.closes (handler : Handler) (ssl : SSLPointer) : Bool :=
  handler = .tcp ∨ ssl ≠ .null

/-- The map has an entry under the number, and it is the entry of the
connection the number denotes. -/
def Server.entryOpen (server : Server) (fd : Fd) : Bool :=
  match server.find fd with
  | none => false
  | some found => server.kernel.file fd = some (.client found)

/-- Steps that take none of the ways out that forget an open descriptor: the
early return of `handleIOEvent` after a failed `inet_ntop`, a store whose
`m_SSL` is null under the TLS handler, a removal whose `closeConnection` does
nothing while the entry it is about to erase is open, and a
`closeServerSocket` that does not reach its `closeConnection` or reaches it
with the TLS handler, which never closes the listening socket. -/
def noLeak (config : Config) (server : Server) : Action → Bool
  | .accept (.accepted _ inetNtop ssl) =>
      inetNtop && config.handler.closes ssl
  | .poller poller .proceed =>
      match server.pollerThread poller with
      | .busy .closeConnection store _ =>
          config.handler.closes (server.store store).ssl ||
            !server.entryOpen (server.fd store)
      | _ => true
  | .stop =>
      server.stopThread ≠ .checkServerSocket ∨
        server.kernel.file config.listenFd ≠ some .listening ∨
        (config.serverSocketID ≠ -1 ∧ server.serverSocketOpen config ∧
          config.handler = .tcp)
  | _ => true

/-- The same for the actions of a process; what other code does with its own
files leaks nothing. -/
def processNoLeak (config : ProcessConfig) (process : Process) :
    ProcessAction → Bool
  | .server action => noLeak config.toConfig process.server action
  | .openFile _ | .closeFile _ => true

/-! ## Closing -/

namespace Server

variable {config : Config} {server : Server} {store other : ConnectionId}

/-- Where `closeConnection` gets past its test, the number is free after
it. -/
theorem file_closeConnection_self
    (closes : config.handler.closes (server.store store).ssl = true) :
    (server.closeConnection config store).kernel.file (server.fd store) =
      none := by
  have freed :
      (server.closeDescriptor store).kernel.file (server.fd store) = none := by
    change (server.kernel.close (server.fd store)).file _ = none
    rw [Kernel.close_file, Function.update_self]
  simp only [Handler.closes, decide_eq_true_eq] at closes
  unfold closeConnection
  split
  · exact freed
  · rename_i tls
    rw [tls] at closes
    have set : (server.store store).ssl ≠ .null := by simpa using closes
    rw [if_neg set]
    exact freed

theorem ssl_setEventType (store other : ConnectionId) (kind : EventType) :
    ((server.setEventType store kind).store other).ssl =
      (server.store other).ssl := by
  by_cases same : other = store
  · subst same
    simp [setEventType]
  · simp [setEventType, Function.update_of_ne same]

theorem ssl_setSSL_of_ne (different : other ≠ store) (ssl : SSLPointer) :
    ((server.setSSL store ssl).store other).ssl = (server.store other).ssl := by
  simp [setSSL, Function.update_of_ne different]

/-- `closeConnection` nulls `m_SSL` only where it has closed the number. -/
theorem closes_closeConnection
    (closes : config.handler.closes (server.store other).ssl = true)
    (still :
      (server.closeConnection config store).kernel.file (server.fd other) =
        some (.client other)) :
    config.handler.closes
      ((server.closeConnection config store).store other).ssl = true := by
  by_cases same : other = store
  · subst same
    rw [file_closeConnection_self closes] at still
    cases still
  · rcases server.closeConnection_cases config store with
      result | result | result
    · rw [result]
      exact closes
    · rw [result]
      exact closes
    · rw [result, ssl_setSSL_of_ne same]
      exact closes

/-- Nor does the connection set-up. -/
theorem closes_initConnection {handshake : Handshake}
    (closes : config.handler.closes (server.store other).ssl = true)
    (still :
      (server.initConnection config store handshake).kernel.file
          (server.fd other) = some (.client other)) :
    config.handler.closes
      ((server.initConnection config store handshake).store other).ssl =
        true := by
  unfold initConnection at still ⊢
  dsimp only at still ⊢
  by_cases same : other = store
  · subst same
    split at still
    · change (server.kernel.close (server.fd other)).file _ = _ at still
      rw [Kernel.close_file, Function.update_self] at still
      cases still
    · rename_i stays
      rw [if_neg stays]
      simp only [setSSL, Function.update_self]
      simp only [Handler.closes, decide_eq_true_eq] at closes ⊢
      cases handler : config.handler with
      | tcp => exact .inl rfl
      | tls =>
          simp only [handler, reduceCtorEq, false_or] at closes
          simp only [handler, Handler.initConnection,
            TLSServerSocketHandler.initConnection, if_neg closes] at stays ⊢
          split at stays
          · exact absurd rfl stays
          · split at stays
            · exact absurd rfl stays
            · rename_i certificate accepted
              simp [certificate, accepted]
  · split
    · rw [ssl_setSSL_of_ne same]
      exact closes
    · rw [ssl_setSSL_of_ne same]
      exact closes

end Server

/-! ## Every open connection can be closed -/

/-- No step nulls the `m_SSL` of a connection it leaves open. -/
theorem closes_of_step {config : Config} {before after : Server}
    {action : Action} (map : StoreMap before)
    (taken : ServerStep config before action after)
    {connection : ConnectionId}
    (made : before.lifetime connection ≠ .unborn)
    (closes :
      config.handler.closes (before.store connection).ssl = true)
    (still :
      after.kernel.file (before.fd connection) = some (.client connection)) :
    config.handler.closes (after.store connection).ssl = true := by
  cases taken with
  | network taken => cases taken <;> exact closes
  | accept choice taken =>
      cases taken with
      | accepted fd ssl kernel at_point got =>
          have older : connection ≠ before.accepted := by
            rintro rfl
            exact made map.unborn_accepted
          simpa [Server.makeStore, Function.update_of_ne older] using closes
      | initConnection store outcome at_point =>
          exact Server.closes_initConnection closes still
      | backPointer poller store at_point =>
          rw [← closes]
          by_cases same : connection = store
          · subst same
            simp [Server.setBackPointer]
          · simp [Server.setBackPointer, Function.update_of_ne same]
      | _ => exact closes
  | poller poller choice bound taken =>
      cases taken with
      | setIncoming store rest at_point =>
          rw [← closes]
          exact congrArg _ (Server.ssl_setEventType store connection _)
      | setClosed store rest at_point =>
          rw [← closes]
          exact congrArg _ (Server.ssl_setEventType store connection _)
      | closeConnection store rest at_point =>
          exact Server.closes_closeConnection closes still
      | _ => exact closes
  | worker worker choice bound taken =>
      cases taken with
      | close task at_point may_close =>
          exact Server.closes_closeConnection closes still
      | _ => exact closes
  | stop taken =>
      cases taken with
      | closeListening closed at_point returned =>
          obtain ⟨_, _, result⟩ := Server.closeListening_frame returned
          rw [result]
          exact closes
      | closing store rest at_point =>
          exact Server.closes_closeConnection closes still
      | _ => exact closes

/-- An open connection has a store, with an `m_SSL` that lets
`closeConnection` close it. -/
structure ClientsClosable (config : Config) (server : Server) : Prop where
  made : ∀ fd connection,
    server.kernel.file fd = some (.client connection) →
      server.lifetime connection ≠ .unborn
  closes : ∀ fd connection,
    server.kernel.file fd = some (.client connection) →
      config.handler.closes (server.store connection).ssl = true

namespace ClientsClosable

variable {config : Config} {before after : Server}

theorem start (config : Config) :
    ClientsClosable config (Server.start config) := by
  have none_denoted : ∀ fd connection,
      (Server.start config).kernel.file fd ≠ some (.client connection) := by
    intro fd connection denotes
    exact absurd ((Descriptors.start config).denoted_lt fd connection denotes)
      (Nat.not_lt_zero connection)
  constructor
  · intro fd connection denotes
    exact absurd denotes (none_denoted fd connection)
  · intro fd connection denotes
    exact absurd denotes (none_denoted fd connection)

/-- A number that denotes a connection is the number in its store. -/
theorem number (clients : ClientsClosable config before)
    (descriptors : Descriptors before) {fd : Fd} {connection : ConnectionId}
    (denotes : before.kernel.file fd = some (.client connection)) :
    fd = before.fd connection :=
  descriptors.denoted_fd fd connection denotes
    (clients.made fd connection denotes)

theorem step (clients : ClientsClosable config before)
    (sound : Sound config before) {action : Action}
    (allowed : noLeak config before action = true)
    (taken : (tcpServer config).step before action = some after) :
    ClientsClosable config after := by
  have moved := serverStep_of_step taken
  have effect := tableStep_of_step taken
  have fresh : ∀ fd inetNtop ssl,
      action = .accept (.accepted fd inetNtop ssl) →
        after.lifetime before.accepted ≠ .unborn ∧
          config.handler.closes (after.store before.accepted).ssl = true := by
    rintro fd inetNtop ssl rfl
    simp only [noLeak, Bool.and_eq_true] at allowed
    obtain ⟨resolved, closes⟩ := allowed
    cases moved with
    | accept choice moved =>
        cases moved with
        | accepted fd ssl kernel at_point got =>
            constructor
            · simp [Server.makeStore]
            · simpa [Server.makeStore] using closes
        | ntopFailed fd ssl kernel at_point got => cases resolved
    | network moved => cases moved
  constructor
  · intro fd connection denotes
    rcases effect.file_before denotes with
      earlier | ⟨newest, inetNtop, ssl, accepts⟩
    · exact made_of_step moved (clients.made fd connection earlier)
    · cases newest
      exact (fresh fd inetNtop ssl accepts).1
  · intro fd connection denotes
    rcases effect.file_before denotes with
      earlier | ⟨newest, inetNtop, ssl, accepts⟩
    · apply closes_of_step sound.map moved
      · exact clients.made fd connection earlier
      · exact clients.closes fd connection earlier
      · rw [← clients.number sound.descriptors earlier]
        exact denotes
    · cases newest
      exact (fresh fd inetNtop ssl accepts).2

theorem otherFiles (clients : ClientsClosable config before)
    (change : OtherFiles before after) : ClientsClosable config after := by
  have client := change.client_iff
  cases change with
  | changed number written foreign_before foreign_after =>
      constructor
      · intro fd connection denotes
        exact clients.made fd connection ((client fd connection).mp denotes)
      · intro fd connection denotes
        exact clients.closes fd connection ((client fd connection).mp denotes)

end ClientsClosable

/-- Steps of the process that leak nothing. -/
abbrev NoLeak (config : ProcessConfig) (process : Process)
    (action : ProcessAction) : Prop :=
  processNoLeak config process action = true

theorem clientsClosable_of_reached {config : ProcessConfig}
    {process : Process}
    (reached : (serverProcess config).Reached (NoLeak config) process) :
    ClientsClosable config.toConfig process.server := by
  refine server_invariant ?_ ?_ ?_ reached
  · exact ClientsClosable.start config.toConfig
  · intro before action after earlier allowed taken clients
    exact clients.step (sound_of_reachable earlier.reachable) allowed taken
  · intro before after change clients
    exact clients.otherFiles change

/-! ## The listening socket -/

/-- `closeServerSocket` is behind the thread in `stopPolling`. -/
def StopPoint.pastListening : StopPoint → Bool
  | .idle | .checkServerSocket | .deleteListening | .closeListening => false
  | _ => true

/-- On its way to the `closeConnection` of the listening socket, `stopPolling`
will close it, and has closed it behind that line. -/
structure ListeningDown (config : Config) (server : Server) : Prop where
  plain : server.stopThread = .deleteListening ∨
      server.stopThread = .closeListening →
    server.kernel.file config.listenFd = some .listening →
      config.handler = .tcp
  closed : server.stopThread.pastListening = true →
    server.kernel.file config.listenFd ≠ some .listening

namespace ListeningDown

variable {config : Config} {before after : Server}

theorem closeListening_file (plain : config.handler = .tcp)
    (closes : before.closeListening config = some after) :
    after.kernel.file config.listenFd = none := by
  rw [Server.closeListening_tcp plain] at closes
  cases closes
  simp

/-- Away from the lines of `closeServerSocket` only the second part says
anything. -/
theorem of_elsewhere {server : Server}
    (elsewhere : server.stopThread ≠ .deleteListening ∧
      server.stopThread ≠ .closeListening)
    (closed : server.stopThread.pastListening = true →
      server.kernel.file config.listenFd ≠ some .listening) :
    ListeningDown config server where
  plain := by
    intro at_point
    rcases at_point with at_point | at_point
    · exact absurd at_point elsewhere.1
    · exact absurd at_point elsewhere.2
  closed := closed

/-- A line behind `closeServerSocket` that opens nothing. -/
theorem behind (down : ListeningDown config before)
    (past : before.stopThread.pastListening = true)
    (still : after.stopThread.pastListening = true)
    (kept : after.kernel.file config.listenFd = some .listening →
      before.kernel.file config.listenFd = some .listening) :
    ListeningDown config after := by
  apply of_elsewhere
  · constructor
    · intro at_point
      rw [at_point] at still
      cases still
    · intro at_point
      rw [at_point] at still
      cases still
  · intro _ listens
    exact down.closed past (kept listens)

theorem stopLine (down : ListeningDown config before)
    (allowed : noLeak config before .stop = true)
    (line : StopLine config before after) : ListeningDown config after := by
  have checked : before.stopThread = .checkServerSocket →
      before.kernel.file config.listenFd = some .listening →
        config.serverSocketID ≠ -1 ∧
          before.serverSocketOpen config = true ∧
          config.handler = .tcp := by
    intro at_point listens
    simpa [noLeak, at_point, listens] using allowed
  cases line with
  | begin at_point =>
      apply of_elsewhere
      · simp
      · intro past
        cases past
  | found at_point set opened =>
      constructor
      · intro _ listens
        exact (checked at_point listens).2.2
      · intro past
        cases past
  | skipped at_point unset =>
      apply of_elsewhere
      · simp
      · intro _ listens
        obtain ⟨set, opened, -⟩ := checked at_point listens
        rcases unset with unset | closed
        · exact set unset
        · rw [opened] at closed
          cases closed
  | deleteListening at_point =>
      constructor
      · intro _ listens
        exact down.plain (.inl at_point) listens
      · intro past
        cases past
  | closeListening closed at_point closes =>
      apply of_elsewhere
      · simp
      · intro _ listens
        change closed.kernel.file config.listenFd = some .listening
          at listens
        have earlier :
            before.kernel.file config.listenFd = some .listening := by
          rcases Server.closeListening_cases closes with result | result
          · rw [result] at listens
            exact listens
          · rw [result] at listens
            exact Kernel.file_of_close listens
        rw [closeListening_file (down.plain (.inr at_point) earlier) closes]
          at listens
        cases listens
  | closing store rest at_point =>
      apply down.behind
      · rw [at_point]
        rfl
      · rfl
      · exact Server.file_of_closeConnection
  | _ =>
      apply down.behind
      · rw [‹before.stopThread = _›]
        rfl
      · rfl
      · exact id

theorem step (down : ListeningDown config before) {action : Action}
    (allowed : noLeak config before action = true)
    (taken : (tcpServer config).step before action = some after) :
    ListeningDown config after := by
  have moved := serverStep_of_step taken
  by_cases stops : action = .stop
  · subst stops
    exact down.stopLine allowed (stopLine_of_some taken)
  · have flags := StopFlags.serverStep moved (beforeShutdown_of_ne stops)
    constructor
    · intro at_point listens
      rw [flags.stopThread] at at_point
      exact down.plain at_point (listening_of_step taken listens)
    · intro past listens
      rw [flags.stopThread] at past
      exact down.closed past (listening_of_step taken listens)

theorem otherFiles (down : ListeningDown config before)
    (change : OtherFiles before after) : ListeningDown config after := by
  have listens : after.kernel.file config.listenFd = some .listening →
      before.kernel.file config.listenFd = some .listening :=
    (change.file_iff (by simp) config.listenFd).mp
  cases change with
  | changed number written foreign_before foreign_after =>
      constructor
      · intro at_point open_now
        exact down.plain at_point (listens open_now)
      · intro past open_now
        exact down.closed past (listens open_now)

end ListeningDown

theorem listeningDown_of_reached {config : ProcessConfig} {process : Process}
    (reached : (serverProcess config).Reached (NoLeak config) process) :
    ListeningDown config.toConfig process.server := by
  refine server_invariant ?_ ?_ ?_ reached
  · constructor
    · rintro (at_point | at_point)
      · cases at_point
      · cases at_point
    · intro past
      cases past
  · intro before action after earlier allowed taken down
    exact down.step allowed taken
  · intro before after change down
    exact down.otherFiles change

/-! ## The entries that removals erase -/

/-- From its `closeConnection` on a removal finds no open entry under its
number. -/
def EntriesClosed (server : Server) : Prop :=
  ∀ poller store rest,
    server.pollerThread poller = .busy .enqueue store rest ∨
        server.pollerThread poller = .busy .erase store rest →
      server.entryOpen (server.fd store) = false

theorem Server.entryOpen_eq_false {server : Server} {fd : Fd} :
    server.entryOpen fd = false ↔
      ∀ found, server.find fd = some found →
        server.kernel.file fd ≠ some (.client found) := by
  unfold Server.entryOpen
  cases server.find fd with
  | none => simp
  | some found => simp

namespace EntriesClosed

variable {config : Config} {before after : Server}

/-- While a poller is inside `removeSocket` the others leave the entry it will
erase as it is, or close it. -/
theorem elsewhere (sound : Sound config before) {action : Action}
    (taken : (tcpServer config).step before action = some after)
    (outside : action.outside before) {store : ConnectionId}
    (made : before.lifetime store ≠ .unborn)
    (closed : before.entryOpen (before.fd store) = false) :
    after.entryOpen (after.fd store) = false := by
  have moved := serverStep_of_step taken
  rw [sound.fd_of_made moved made, Server.entryOpen_eq_false]
  intro found entry denotes
  rw [find_of_outside moved outside] at entry
  exact Server.entryOpen_eq_false.mp closed found entry
    (file_of_outside taken outside denotes)

/-- The poller's own steps: only its `closeConnection` leads to the erasure. -/
theorem pollerStep (entries : EntriesClosed before)
    (sound : Sound config before) {poller : PollerId} {choice : PollerChoice}
    (allowed : noLeak config before (.poller poller choice) = true)
    (bound : poller < config.numPollers)
    (taken : PollerStep config before poller choice after)
    {store : ConnectionId} {rest : List EpollEvent}
    (at_point : after.pollerThread poller = .busy .enqueue store rest ∨
      after.pollerThread poller = .busy .erase store rest) :
    after.entryOpen (after.fd store) = false := by
  cases taken with
  | loop at_before =>
      simp only [Server.setPoller_self] at at_point
      split at at_point <;> simp at at_point
  | noHandler other later at_before handler_eq =>
      have set := sound.owned.handler_of_busy sound.exclusive at_before rfl
      cases handler_eq.symm.trans set
  | closeConnection other later at_before =>
      simp only [Server.setPoller_self, PollerPoint.busy.injEq,
        true_and, reduceCtorEq, false_and, or_false] at at_point
      obtain ⟨rfl, rfl⟩ := at_point
      have moved : ServerStep config before (.poller poller .proceed) _ :=
        .poller poller .proceed bound (.closeConnection other later at_before)
      have made := sound.held_made (before.held_of_busy at_before)
      rw [sound.fd_of_made moved made, Server.entryOpen_eq_false]
      intro found entry denotes
      change (before.closeConnection config other).find _ = _ at entry
      change (before.closeConnection config other).kernel.file _ = _
        at denotes
      simp only [noLeak, at_before, Bool.or_eq_true, Bool.not_eq_true']
        at allowed
      rcases allowed with closes | closed
      · rw [Server.file_closeConnection_self closes] at denotes
        cases denotes
      · obtain ⟨_, _, _, result⟩ := before.closeConnection_frame config other
        have same_entry : before.find (before.fd other) = some found := by
          rw [result] at entry
          exact entry
        exact Server.entryOpen_eq_false.mp closed found same_entry
          (Server.file_of_closeConnection denotes)
  | enqueue other later at_before =>
      simp only [Server.setPoller_self, PollerPoint.busy.injEq,
        true_and, reduceCtorEq, false_and, false_or] at at_point
      obtain ⟨rfl, rfl⟩ := at_point
      exact entries poller other later (.inl at_before)
  | _ => simp [Server.setPoller] at at_point

theorem step (entries : EntriesClosed before) (sound : Sound config before)
    {action : Action} (allowed : noLeak config before action = true)
    (taken : (tcpServer config).step before action = some after) :
    EntriesClosed after := by
  intro poller store rest at_point
  by_cases own : ∃ choice, action = .poller poller choice
  · obtain ⟨choice, rfl⟩ := own
    cases serverStep_of_step taken with
    | poller _ _ bound moved =>
        exact entries.pollerStep sound allowed bound moved at_point
    | network moved => cases moved
  · have other : ∀ choice, action ≠ .poller poller choice :=
      fun choice same => own ⟨choice, same⟩
    rw [pollerThread_elsewhere (serverStep_of_step taken) other] at at_point
    have there : (before.pollerThread poller).critical = true ∧
        store ∈ (before.pollerThread poller).held := by
      rcases at_point with at_point | at_point
      · exact ⟨before.critical_of_busy at_point rfl,
          before.held_of_busy at_point⟩
      · exact ⟨before.critical_of_busy at_point rfl,
          before.held_of_busy at_point⟩
    apply elsewhere sound taken
    · exact sound.exclusive.outside_of_critical there.1 other
    · exact sound.held_made there.2
    · exact entries poller store rest at_point

theorem otherFiles (entries : EntriesClosed before)
    (change : OtherFiles before after) : EntriesClosed after := by
  have client := change.client_iff
  cases change with
  | changed number written foreign_before foreign_after =>
      intro poller store rest at_point
      rw [Server.entryOpen_eq_false]
      intro found entry denotes
      exact Server.entryOpen_eq_false.mp
        (entries poller store rest at_point) found entry
        ((client _ found).mp denotes)

end EntriesClosed

theorem entriesClosed_of_reached {config : ProcessConfig} {process : Process}
    (reached : (serverProcess config).Reached (NoLeak config) process) :
    EntriesClosed process.server := by
  refine server_invariant ?_ ?_ ?_ reached
  · intro poller store rest at_point
    rcases at_point with at_point | at_point
    · cases at_point
    · cases at_point
  · intro before action after earlier allowed taken entries
    exact entries.step (sound_of_reachable earlier.reachable) allowed taken
  · intro before after change entries
    exact entries.otherFiles change

end EventPlus

/-
Module: EventPlus.Server.Process
Purpose: The server inside its process: the descriptor numbers of its epolls,
  and other code of the process that opens and closes descriptors of its own.
Trusted boundary: none
Main exports:
  Epoll, ProcessConfig, Process, ProcessAction, serverProcess, ProcessStep,
  processStep_of_some, fd_of_step, OtherFiles, Sound, sound_of_reachable,
  EpollTable, epollTable_of_reachable, server_invariant
-/
import EventPlus.Server.Descriptors
import EventPlus.Server.TableStep

namespace EventPlus

open Function (update)

/-!
The numbers of the epolls are entries `other` of the descriptor table, like
those of the rest of the process.  A `Process` adds which of them belong to
which epoll, and what is in the fields `m_epollFileDescriptor`.
-/

/-! ## The state -/

/-- The epolls of a server: the accept poller's and those of the scheduler. -/
inductive Epoll where
  | accept
  | poller (poller : PollerId)
deriving Repr, DecidableEq

/-- The epolls the constructors create. -/
def Epoll.all (numPollers : Nat) : List Epoll :=
  .accept :: (List.range numPollers).map .poller

/-- A server's configuration with the numbers `epoll_create` returned. -/
structure ProcessConfig extends Config where
  epollFd : Epoll → Fd
  epollFd_other : ∀ epoll ∈ Epoll.all numPollers,
    epollFd epoll ∈ otherFds ∧ epollFd epoll ≠ listenFd
  epollFd_injective : ∀ first ∈ Epoll.all numPollers,
    ∀ second ∈ Epoll.all numPollers,
      epollFd first = epollFd second → first = second

/-- The server and the epolls.  `epollFileDescriptor` is the field of each
`SocketEventHandler`, with `none` for `-1`; `epollFile` is the epoll a number
denotes; `epollCloses` is a history of the `close` calls of `closeEpoll`, each
with the epoll its number denoted. -/
structure Process where
  server : Server
  epollFileDescriptor : Epoll → Option Fd
  epollFile : Fd → Option Epoll
  epollCloses : List (Epoll × Option Epoll)

def Process.start (config : ProcessConfig) : Process where
  server := Server.start config.toConfig
  epollFileDescriptor := fun epoll =>
    if epoll ∈ Epoll.all config.numPollers then some (config.epollFd epoll)
    else none
  epollFile := fun fd =>
    (Epoll.all config.numPollers).find? fun epoll => config.epollFd epoll = fd
  epollCloses := []

/-! ## The steps -/

/-- Another entry of the descriptor table under one number. -/
def Server.setFile (server : Server) (fd : Fd) (file : Option File) :
    Server :=
  { server with
      kernel :=
        { server.kernel with file := update server.kernel.file fd file } }

namespace Process

variable (process : Process)

/-- The process after a step of the server.  A number keeps its epoll as long
as no `close` call frees it. -/
def moveServer (server : Server) : Process :=
  { process with
      server := server
      epollFile := fun fd =>
        if server.kernel.file fd = some .other then process.epollFile fd
        else none }

/-- The `close` call of `SocketEventHandler::closeEpoll`, which makes none for
the number `-1`, and the assignment of `-1`. -/
def closeEpoll (epoll : Epoll) : Process :=
  match process.epollFileDescriptor epoll with
  | none => process
  | some fd =>
      { server :=
          { process.server with kernel := process.server.kernel.close fd }
        epollFileDescriptor := update process.epollFileDescriptor epoll none
        epollFile := update process.epollFile fd none
        epollCloses := process.epollCloses ++ [(epoll, process.epollFile fd)] }

end Process

/-- The epoll that the line `stopPolling` is at closes. -/
def StopPoint.closesEpoll : StopPoint → Option Epoll
  | .closeAcceptEpoll => some .accept
  | .closePollerEpoll poller => some (.poller poller)
  | _ => none

def closesEpoll (server : Server) : Action → Option Epoll
  | .stop => server.stopThread.closesEpoll
  | _ => none

/-- Actions of a process: those of the server, and the opening and closing of
descriptors by other code. -/
inductive ProcessAction where
  | server (action : Action)
  | openFile (fd : Fd)
  | closeFile (fd : Fd)
deriving Repr, DecidableEq

/-- The step of an action, if it is enabled.  The kernel gives an unused number
to other code too, and other code closes only what it has opened. -/
def processStep (config : ProcessConfig) (process : Process) :
    ProcessAction → Option Process
  | .server action =>
      (step config.toConfig process.server action).map fun server =>
        match closesEpoll process.server action with
        | none => process.moveServer server
        | some epoll => (process.moveServer server).closeEpoll epoll
  | .openFile fd =>
      if process.server.kernel.file fd = none then
        some
          { process with server := process.server.setFile fd (some .other) }
      else none
  | .closeFile fd =>
      if process.server.kernel.file fd = some .other ∧
          process.epollFile fd = none then
        some { process with server := process.server.setFile fd none }
      else none

/-- The transition system of a process that runs a server. -/
def serverProcess (config : ProcessConfig) :
    TransitionSystem Process ProcessAction where
  initial := fun process => process = Process.start config
  step := processStep config

/-- A part of a run in which only the server moves. -/
def serverActions (actions : List Action) : List ProcessAction :=
  actions.map .server

/-- A run of the process that can be replayed step by step. -/
theorem exists_process_of_replay (config : ProcessConfig)
    (permitted : Process → ProcessAction → Prop)
    [∀ process action, Decidable (permitted process action)]
    (test : Process → Prop) [DecidablePred test]
    (actions : List ProcessAction)
    (tested :
      ((serverProcess config).replay permitted (Process.start config)
        actions).any (fun process => test process) = true) :
    ∃ process,
      (serverProcess config).Reached permitted process ∧ test process :=
  TransitionSystem.exists_reached_of_replay actions rfl tested

/-- The numbers from `first` on, for the accept poller's epoll and then for the
scheduler's. -/
def numberedFrom (first : Fd) : Epoll → Fd
  | .accept => first
  | .poller poller => first + (poller + 1)

theorem numberedFrom_injective (first : Fd) {one other : Epoll}
    (same : numberedFrom first one = numberedFrom first other) :
    one = other := by
  cases one with
  | accept =>
      cases other with
      | accept => rfl
      | poller poller =>
          have zero : 0 = poller + 1 := Nat.add_left_cancel same
          cases zero
  | poller poller =>
      cases other with
      | accept =>
          have zero : poller + 1 = 0 := Nat.add_left_cancel same
          cases zero
      | poller another =>
          have next : poller + 1 = another + 1 := Nat.add_left_cancel same
          rw [Nat.succ.inj next]

theorem numberedFrom_five : ∀ epoll ∈ Epoll.all 1,
    numberedFrom 5 epoll ∈ [0, 1, 2, 5, 6] ∧ numberedFrom 5 epoll ≠ 3 := by
  decide

theorem numberedFrom_five_injective : ∀ first ∈ Epoll.all 1,
    ∀ second ∈ Epoll.all 1,
      numberedFrom 5 first = numberedFrom 5 second → first = second := by
  intro first _ second _ same
  exact numberedFrom_injective 5 same

/-- One poller and one worker with the plain handler, the epolls under the
numbers 5 and 6, and a value the field `m_serverSocketID` happens to have. -/
def ProcessConfig.single (callbacksClose : Bool) (serverSocketID : Int) :
    ProcessConfig where
  handler := .tcp
  numPollers := 1
  numPollers_pos := Nat.one_pos
  numWorkers := 1
  callbacksClose := callbacksClose
  otherFds := [0, 1, 2, 5, 6]
  serverSocketID := serverSocketID
  epollFd := numberedFrom 5
  epollFd_other := numberedFrom_five
  epollFd_injective := numberedFrom_five_injective

/-- What a step of a process can do. -/
inductive ProcessStep (config : ProcessConfig) (before : Process) :
    ProcessAction → Process → Prop where
  | server (action : Action) (server : Server)
      (taken :
        (tcpServer config.toConfig).step before.server action = some server)
      (no_epoll : closesEpoll before.server action = none) :
      ProcessStep config before (.server action) (before.moveServer server)
  | closeEpoll (epoll : Epoll) (server : Server)
      (taken :
        (tcpServer config.toConfig).step before.server .stop = some server)
      (closes : before.server.stopThread.closesEpoll = some epoll) :
      ProcessStep config before (.server .stop)
        ((before.moveServer server).closeEpoll epoll)
  | openFile (fd : Fd) (unused : before.server.kernel.file fd = none) :
      ProcessStep config before (.openFile fd)
        { before with server := before.server.setFile fd (some .other) }
  | closeFile (fd : Fd) (denotes : before.server.kernel.file fd = some .other)
      (foreign : before.epollFile fd = none) :
      ProcessStep config before (.closeFile fd)
        { before with server := before.server.setFile fd none }

theorem processStep_of_some {config : ProcessConfig}
    {before after : Process} {action : ProcessAction}
    (taken : (serverProcess config).step before action = some after) :
    ProcessStep config before action after := by
  cases action with
  | server action =>
      obtain ⟨server, moved, rfl⟩ := Option.map_eq_some_iff.mp taken
      split
      · exact .server action server moved ‹_›
      · rename_i epoll closes
        cases action with
        | stop => exact .closeEpoll epoll server moved closes
        | _ => cases closes
  | openFile fd =>
      simp only [serverProcess, processStep] at taken
      split at taken
      · cases taken
        exact .openFile fd ‹_›
      · cases taken
  | closeFile fd =>
      simp only [serverProcess, processStep] at taken
      split at taken
      · rename_i guard
        cases taken
        exact .closeFile fd guard.1 guard.2
      · cases taken

/-! ## The numbers in the stores -/

/-- The number in a store never changes.  A store that is made gets a number
that was not open. -/
theorem fd_of_step {config : Config} {before after : Server}
    {action : Action} (map : StoreMap before)
    (taken : ServerStep config before action after) {store : ConnectionId}
    (made : after.lifetime store ≠ .unborn) :
    before.lifetime store ≠ .unborn ∧ after.fd store = before.fd store ∨
      store = before.accepted ∧
        before.kernel.file (after.fd store) = none := by
  have closeConnection : ∀ other,
      (before.closeConnection config other).lifetime store ≠ .unborn →
        before.lifetime store ≠ .unborn ∧
          (before.closeConnection config other).fd store =
            before.fd store := by
    intro other made
    rw [Server.lifetime_closeConnection] at made
    refine ⟨made, ?_⟩
    rcases before.closeConnection_cases config other with
      result | result | result
    · rw [result]
    · rw [result]
      rfl
    · rw [result, Server.fd_setSSL]
      rfl
  cases taken with
  | network taken => cases taken <;> exact .inl ⟨made, rfl⟩
  | accept choice taken =>
      cases taken with
      | accepted fd ssl kernel at_point got =>
          obtain ⟨unused, -⟩ := Kernel.accept_spec got
          by_cases newest : store = before.accepted
          · right
            constructor
            · exact newest
            · rw [newest]
              change before.kernel.file
                ((before.makeStore kernel fd ssl).fd before.accepted) = none
              rw [Server.fd_makeStore_self]
              exact unused
          · left
            constructor
            · simpa [Server.makeStore, Function.update_of_ne newest] using made
            · exact Server.fd_makeStore_of_ne kernel fd ssl newest
      | initConnection other outcome at_point =>
          left
          obtain ⟨ssl, result | result⟩ :=
            before.initConnection_cases config other outcome
          · rw [result] at made ⊢
            exact ⟨made, Server.fd_setSSL other store ssl⟩
          · rw [result] at made ⊢
            exact ⟨made, Server.fd_setSSL other store ssl⟩
      | backPointer poller other at_point =>
          exact .inl ⟨made, Server.fd_setBackPointer other store poller⟩
      | insert other at_point =>
          exact .inl ⟨mt (map.unborn_insertStore other store).mpr made, rfl⟩
      | _ => exact .inl ⟨made, rfl⟩
  | poller poller choice bound taken =>
      left
      cases taken with
      | setIncoming other rest at_point =>
          exact ⟨made, Server.fd_setEventType other store .incomingData⟩
      | setClosed other rest at_point =>
          exact ⟨made, Server.fd_setEventType other store .closedConnection⟩
      | closeConnection other rest at_point =>
          exact closeConnection other made
      | erase other rest at_point =>
          exact ⟨mt (map.unborn_eraseStore other store).mpr made, rfl⟩
      | _ => exact ⟨made, rfl⟩
  | worker worker choice bound taken =>
      left
      cases taken with
      | close task at_point may_close =>
          exact closeConnection task.eventStorePointer made
      | _ => exact ⟨made, rfl⟩
  | stop taken =>
      left
      cases taken with
      | closeListening closed at_point closes =>
          obtain ⟨_, _, result⟩ := Server.closeListening_frame closes
          rw [result] at made ⊢
          exact ⟨made, rfl⟩
      | closing other rest at_point => exact closeConnection other made
      | clear at_point =>
          exact ⟨mt (map.unborn_clearStores store).mpr made, rfl⟩
      | _ => exact ⟨made, rfl⟩

/-! ## Invariants of the server among other code -/

/-- Other code has opened or closed a number of its own. -/
inductive OtherFiles (before : Server) : Server → Prop where
  | changed (fd : Fd) (file : Option File)
      (foreign_before : before.kernel.file fd = none ∨
        before.kernel.file fd = some .other)
      (foreign_after : file = none ∨ file = some .other) :
      OtherFiles before (before.setFile fd file)

/-- A change of other code keeps the numbers of the server's own files. -/
theorem OtherFiles.file_iff {before after : Server}
    (change : OtherFiles before after) {file : File} (own : file ≠ .other)
    (fd : Fd) :
    after.kernel.file fd = some file ↔ before.kernel.file fd = some file := by
  cases change with
  | changed number written foreign_before foreign_after =>
      change update before.kernel.file number written fd = _ ↔ _
      by_cases same : fd = number
      · rw [same, Function.update_self]
        constructor
        · rintro rfl
          rcases foreign_after with free | foreign
          · cases free
          · exact absurd (Option.some.inj foreign) own
        · intro denotes
          rw [denotes] at foreign_before
          rcases foreign_before with free | foreign
          · cases free
          · exact absurd (Option.some.inj foreign) own
      · rw [Function.update_of_ne same]

/-- So it opens and closes no connection of a client. -/
theorem OtherFiles.client_iff {before after : Server}
    (change : OtherFiles before after) (fd : Fd)
    (connection : ConnectionId) :
    after.kernel.file fd = some (.client connection) ↔
      before.kernel.file fd = some (.client connection) :=
  change.file_iff (by simp) fd

/-! ## Outside the mutex -/

/-- The thread that an action moves is outside `clientEventStoresMutex`. -/
def Action.outside (action : Action) (server : Server) : Prop :=
  match action with
  | .accept _ => server.acceptThread.critical = false
  | .poller mover _ => (server.pollerThread mover).critical = false
  | .stop => server.stopThread.critical = false
  | _ => True

/-- Outside the mutex the map does not change. -/
theorem find_of_outside {config : Config} {before after : Server}
    {action : Action} (taken : ServerStep config before action after)
    (outside : action.outside before) (fd : Fd) :
    after.find fd = before.find fd := by
  cases taken with
  | network taken => cases taken <;> rfl
  | accept choice taken =>
      simp only [Action.outside] at outside
      cases taken with
      | initConnection store outcome at_point =>
          rw [at_point] at outside
          cases outside
      | insert store at_point =>
          rw [at_point] at outside
          cases outside
      | _ => rfl
  | poller poller choice bound taken =>
      simp only [Action.outside] at outside
      cases taken with
      | closeConnection store rest at_point =>
          rw [at_point] at outside
          cases outside
      | erase store rest at_point =>
          rw [at_point] at outside
          cases outside
      | _ => rfl
  | worker worker choice bound taken =>
      cases taken with
      | close task at_point may_close =>
          obtain ⟨_, _, _, result⟩ :=
            before.closeConnection_frame config task.eventStorePointer
          rw [result]
          rfl
      | _ => rfl
  | stop taken =>
      simp only [Action.outside] at outside
      cases taken with
      | closeListening closed at_point closes =>
          obtain ⟨_, _, result⟩ := Server.closeListening_frame closes
          rw [result]
          rfl
      | closing store rest at_point =>
          rw [at_point] at outside
          cases outside
      | clear at_point =>
          rw [at_point] at outside
          cases outside
      | _ => rfl

/-- Outside the mutex no connection is accepted. -/
theorem file_of_outside {config : Config} {before after : Server}
    {action : Action}
    (taken : (tcpServer config).step before action = some after)
    (outside : action.outside before) {fd : Fd} {file : File}
    (denotes : after.kernel.file fd = some file) :
    before.kernel.file fd = some file := by
  rcases (tableStep_of_step taken).file_before denotes with
    earlier | ⟨-, inetNtop, ssl, rfl⟩
  · exact earlier
  · simp only [Action.outside] at outside
    cases serverStep_of_step taken with
    | network moved => cases moved
    | accept choice moved =>
        cases moved with
        | accepted fd ssl kernel at_point got =>
            rw [at_point] at outside
            cases outside
        | ntopFailed fd ssl kernel at_point got =>
            rw [at_point] at outside
            cases outside

/-- With a poller inside `removeSocket` every other thread is outside. -/
theorem MutualExclusion.outside_of_critical {before : Server}
    (exclusive : MutualExclusion before) {poller : PollerId}
    (inside : (before.pollerThread poller).critical = true) {action : Action}
    (other : ∀ choice, action ≠ .poller poller choice) :
    action.outside before := by
  cases action with
  | accept choice => exact exclusive.accept_excludes_poller inside
  | poller mover choice =>
      cases critical : (before.pollerThread mover).critical with
      | false => exact critical
      | true =>
          obtain rfl := exclusive.poller_unique critical inside
          exact absurd rfl (other choice)
  | stop =>
      cases critical : before.stopThread.critical with
      | false => exact critical
      | true =>
          rw [exclusive.stopper_excludes_poller critical poller] at inside
          cases inside
  | _ => trivial

/-- With the accept thread inside `handleIOEvent` too. -/
theorem MutualExclusion.outside_of_admitting {before : Server}
    (exclusive : MutualExclusion before)
    (inside : before.acceptThread.critical = true) {action : Action}
    (other : ∀ choice, action ≠ .accept choice) : action.outside before := by
  cases action with
  | accept choice => exact absurd rfl (other choice)
  | poller mover choice =>
      cases critical : (before.pollerThread mover).critical with
      | false => exact critical
      | true =>
          rw [exclusive.accept_excludes_poller critical] at inside
          cases inside
  | stop =>
      cases critical : before.stopThread.critical with
      | false => exact critical
      | true =>
          rw [exclusive.stopper_excludes_accept critical] at inside
          cases inside
  | _ => trivial

/-! ## The server's invariants -/

/-- The invariants of the server that the descriptor table enters, in one
bundle. -/
structure Sound (config : Config) (server : Server) : Prop where
  exclusive : MutualExclusion server
  map : StoreMap server
  owned : Ownership server
  descriptors : Descriptors server
  listening : ListeningSocket config.listenFd server.kernel
  pending_made : ∀ store, server.Pending store →
    server.lifetime store ≠ .unborn
  closing_made : ∀ rest, server.stopThread = .closing rest →
    ∀ store ∈ rest, server.lifetime store ≠ .unborn

namespace Sound

variable {config : Config} {before after : Server}

theorem start (config : Config) : Sound config (Server.start config) where
  exclusive := MutualExclusion.start config
  map := StoreMap.start config
  owned := Ownership.start config
  descriptors := Descriptors.start config
  listening := listeningSocket_of_reachable (.initial rfl)
  pending_made := fun _ => made_of_pending (.initial rfl)
  closing_made := by
    intro rest at_point
    cases at_point

theorem held_made (sound : Sound config before) {poller : PollerId}
    {store : ConnectionId} (held : store ∈ (before.pollerThread poller).held) :
    before.lifetime store ≠ .unborn :=
  sound.map.registered_made poller store
    (sound.owned.held_with poller store held)

/-- A made store keeps its number. -/
theorem fd_of_made (sound : Sound config before) {action : Action}
    (taken : ServerStep config before action after) {store : ConnectionId}
    (made : before.lifetime store ≠ .unborn) :
    after.fd store = before.fd store := by
  rcases fd_of_step sound.map taken (made_of_step taken made) with
    ⟨-, same⟩ | ⟨rfl, -⟩
  · exact same
  · exact absurd sound.map.unborn_accepted made

theorem step (sound : Sound config before) {action : Action}
    (taken : (tcpServer config).step before action = some after) :
    Sound config after := by
  have moved := serverStep_of_step taken
  constructor
  · exact sound.exclusive.serverStep moved
  · exact sound.map.serverStep sound.exclusive moved
  · exact sound.owned.serverStep moved
  · exact sound.descriptors.serverStep sound.map moved
  · exact listeningSocket_of_step sound.listening taken
  · intro store pending
    apply made_of_step moved
    rcases pending_of_step moved pending with
      earlier | admitting | ⟨poller, held⟩
    · exact sound.pending_made store earlier
    · rw [sound.map.admitting_alive _ _ admitting]
      simp
    · exact sound.held_made held
  · intro rest at_point store member
    apply made_of_step moved
    by_cases stops : action = .stop
    · subst stops
      cases stopLine_of_some taken with
      | lockAll at_lock free =>
          cases at_point
          obtain ⟨number, found⟩ := Server.mem_ownedStores.mp member
          rw [sound.map.found_alive number store found]
          simp
      | closing closed remaining at_closing =>
          cases at_point
          exact sound.closing_made _ at_closing store
            (List.mem_cons_of_mem closed member)
      | _ => cases at_point
    · rw [stopThread_of_step moved stops] at at_point
      exact sound.closing_made rest at_point store member

theorem of_reachable {server : Server}
    (reachable : (tcpServer config).Reachable server) :
    Sound config server := by
  refine TransitionSystem.Reachable.invariant ?_ ?_ reachable
  · rintro state rfl
    exact Sound.start config
  · intro before action after _ taken sound
    exact sound.step taken

theorem otherFiles (sound : Sound config before)
    (change : OtherFiles before after) : Sound config after := by
  have client := change.client_iff
  have listens : ∀ fd, after.kernel.file fd = some .listening ↔
      before.kernel.file fd = some .listening := change.file_iff (by simp)
  cases change with
  | changed number written foreign_before foreign_after =>
      constructor
      · exact { sound.exclusive with }
      · exact { sound.map with }
      · exact
          { sound.owned with
              admitting_file := by
                intro stage store at_point connection denotes
                apply sound.owned.admitting_file stage store at_point
                exact (client _ connection).mp denotes
              watched_file := by
                intro poller store member
                apply (client _ store).mpr
                exact sound.owned.watched_file poller store member }
      · exact
          { sound.descriptors with
              denoted_lt := by
                intro fd connection denotes
                exact sound.descriptors.denoted_lt fd connection
                  ((client fd connection).mp denotes)
              denoted_fd := by
                intro fd connection denotes
                exact sound.descriptors.denoted_fd fd connection
                  ((client fd connection).mp denotes)
              open_iff := by
                intro store made
                exact (client _ store).trans
                  (sound.descriptors.open_iff store made) }
      · constructor
        · intro fd denotes
          exact sound.listening.number fd ((listens fd).mp denotes)
        · intro closed
          exact sound.listening.backlog (mt (listens _).mpr closed)
      · exact sound.pending_made
      · exact sound.closing_made

/-- The stores the server closes have been made. -/
theorem made_of_closeCall (sound : Sound config before) {action : Action}
    {store : ConnectionId}
    (calls : closeCall config before action = some (.client store)) :
    before.lifetime store ≠ .unborn := by
  have same_store : ∀ {other : ConnectionId},
      before.closeConnectionCall config other = some (.client store) →
        other = store := by
    intro other called
    unfold Server.closeConnectionCall at called
    split at called
    · cases called
    · cases called
      rfl
  unfold closeCall at calls
  split at calls
  · split at calls
    · rename_i at_point
      split at calls
      · cases calls
        rw [sound.map.admitting_alive _ _ at_point]
        simp
      · cases calls
    · cases calls
  · split at calls
    · rename_i at_point
      obtain rfl := same_store calls
      exact sound.held_made (before.held_of_busy at_point)
    · cases calls
  · split at calls
    · rename_i worker _ task at_point
      obtain rfl := same_store calls
      apply sound.pending_made
      exact .inr ⟨worker, task, by rw [at_point]; rfl, rfl⟩
    · cases calls
  · split at calls
    · split at calls
      · cases calls
      · cases calls
    · rename_i at_point
      obtain rfl := same_store calls
      exact sound.closing_made _ at_point _ List.mem_cons_self
    · cases calls
  · cases calls

end Sound

/-! ## The epolls -/

/-- The fields `m_epollFileDescriptor` against the descriptor table: each names
the number that denotes its epoll, and no store has that number. -/
structure EpollTable (config : ProcessConfig) (process : Process) : Prop where
  denotes_iff : ∀ fd epoll,
    process.epollFile fd = some epoll ↔
      process.epollFileDescriptor epoll = some fd
  file_other : ∀ fd epoll, process.epollFile fd = some epoll →
    process.server.kernel.file fd = some .other
  not_listening : ∀ fd epoll, process.epollFile fd = some epoll →
    fd ≠ config.listenFd
  not_store : ∀ fd epoll, process.epollFile fd = some epoll →
    ∀ store, process.server.lifetime store ≠ .unborn →
      process.server.fd store ≠ fd

namespace EpollTable

variable {config : ProcessConfig}

theorem start (config : ProcessConfig) :
    EpollTable config (Process.start config) := by
  have named : ∀ fd epoll,
      (Process.start config).epollFile fd = some epoll →
        epoll ∈ Epoll.all config.numPollers ∧ config.epollFd epoll = fd := by
    intro fd epoll denotes
    have found : (Epoll.all config.numPollers).find?
        (fun epoll => config.epollFd epoll = fd) = some epoll := denotes
    constructor
    · exact List.mem_of_find?_eq_some found
    · simpa using List.find?_some found
  constructor
  · intro fd epoll
    constructor
    · intro denotes
      obtain ⟨member, rfl⟩ := named fd epoll denotes
      simp [Process.start, member]
    · intro field
      simp only [Process.start] at field
      split at field
      · rename_i member
        cases field
        cases found : (Process.start config).epollFile
            (config.epollFd epoll) with
        | none =>
            have missing := List.find?_eq_none.mp found epoll member
            simp at missing
        | some other =>
            obtain ⟨also, same⟩ := named _ other found
            rw [config.epollFd_injective other also epoll member same]
      · cases field
  · intro fd epoll denotes
    obtain ⟨member, rfl⟩ := named fd epoll denotes
    obtain ⟨listed, different⟩ := config.epollFd_other epoll member
    simp [Process.start, Server.start, listed, different]
  · intro fd epoll denotes
    obtain ⟨member, rfl⟩ := named fd epoll denotes
    exact (config.epollFd_other epoll member).2
  · intro fd epoll denotes store made
    exact absurd rfl made

/-- A step of the server closes no epoll's number. -/
theorem other_of_step {before : Process} {server : Server} {action : Action}
    (table : EpollTable config before)
    (sound : Sound config.toConfig before.server)
    (taken :
      (tcpServer config.toConfig).step before.server action = some server)
    {fd : Fd} {epoll : Epoll} (denotes : before.epollFile fd = some epoll) :
    server.kernel.file fd = some .other := by
  have other := table.file_other fd epoll denotes
  generalize called : closeCall config.toConfig before.server action = call
  have effect := tableStep_of_step taken
  rw [called] at effect
  cases effect with
  | closed _ call file trace =>
      have elsewhere : fd ≠ call.fd config.toConfig before.server := by
        cases call with
        | client store =>
            exact Ne.symm (table.not_store fd epoll denotes store
              (sound.made_of_closeCall called))
        | listening => exact table.not_listening fd epoll denotes
      rw [file, Function.update_of_ne elsewhere]
      exact other
  | kept _ file events trace no_close =>
      rw [file]
      exact other
  | opened number inetNtop ssl unused file trace =>
      have elsewhere : fd ≠ number := by
        rintro rfl
        rw [unused] at other
        cases other
      rw [file, Function.update_of_ne elsewhere]
      exact other

/-- No step of the server changes which number denotes which epoll. -/
theorem epollFile_moveServer {before : Process} {server : Server}
    {action : Action} (table : EpollTable config before)
    (sound : Sound config.toConfig before.server)
    (taken :
      (tcpServer config.toConfig).step before.server action = some server) :
    (before.moveServer server).epollFile = before.epollFile := by
  funext fd
  simp only [Process.moveServer]
  cases denotes : before.epollFile fd with
  | none => simp
  | some epoll => simp [table.other_of_step sound taken denotes]

theorem moveServer {before : Process} {server : Server} {action : Action}
    (table : EpollTable config before)
    (sound : Sound config.toConfig before.server)
    (taken :
      (tcpServer config.toConfig).step before.server action = some server) :
    EpollTable config (before.moveServer server) := by
  have same := table.epollFile_moveServer sound taken
  constructor
  · intro fd epoll
    rw [same]
    exact table.denotes_iff fd epoll
  · intro fd epoll denotes
    rw [same] at denotes
    exact table.other_of_step sound taken denotes
  · intro fd epoll denotes
    rw [same] at denotes
    exact table.not_listening fd epoll denotes
  · intro fd epoll denotes store made
    rw [same] at denotes
    rcases fd_of_step sound.map (serverStep_of_step taken) made with
      ⟨earlier, number⟩ | ⟨-, unused⟩
    · exact fun same_number => table.not_store fd epoll denotes store earlier
        (number.symm.trans same_number)
    · rintro rfl
      have other := table.file_other _ epoll denotes
      rw [Process.moveServer, unused] at other
      cases other

theorem closeEpoll_cases {process : Process}
    (table : EpollTable config process) (epoll : Epoll) :
    process.epollFileDescriptor epoll = none ∧
        process.closeEpoll epoll = process ∨
      ∃ fd, process.epollFile fd = some epoll ∧
        process.closeEpoll epoll =
          { server := process.server.setFile fd none
            epollFileDescriptor :=
              update process.epollFileDescriptor epoll none
            epollFile := update process.epollFile fd none
            epollCloses := process.epollCloses ++ [(epoll, some epoll)] } := by
  unfold Process.closeEpoll
  cases field : process.epollFileDescriptor epoll with
  | none => exact .inl ⟨rfl, rfl⟩
  | some fd =>
      have denotes := (table.denotes_iff fd epoll).mpr field
      have closed : process.server.kernel.close fd =
          (process.server.setFile fd none).kernel := by
        simp [Kernel.close, table.file_other fd epoll denotes, Server.setFile]
      right
      refine ⟨fd, denotes, ?_⟩
      dsimp only
      rw [closed, denotes]
      rfl

theorem closeEpoll {process : Process} (table : EpollTable config process)
    (epoll : Epoll) : EpollTable config (process.closeEpoll epoll) := by
  rcases table.closeEpoll_cases epoll with
    ⟨-, result⟩ | ⟨closed, denoted, result⟩
  · rw [result]
    exact table
  · rw [result]
    have still : ∀ fd other,
        update process.epollFile closed none fd = some other →
          fd ≠ closed ∧ process.epollFile fd = some other := by
      intro fd other denotes
      by_cases same : fd = closed
      · rw [same, Function.update_self] at denotes
        cases denotes
      · rw [Function.update_of_ne same] at denotes
        exact ⟨same, denotes⟩
    constructor
    · intro fd other
      constructor
      · intro denotes
        obtain ⟨different, earlier⟩ := still fd other denotes
        have field := (table.denotes_iff fd other).mp earlier
        have another : other ≠ epoll := by
          rintro rfl
          rw [(table.denotes_iff closed other).mp denoted] at field
          exact different (Option.some.inj field).symm
        change update process.epollFileDescriptor epoll none other = some fd
        rw [Function.update_of_ne another]
        exact field
      · intro field
        change update process.epollFileDescriptor epoll none other =
          some fd at field
        by_cases same : other = epoll
        · rw [same, Function.update_self] at field
          cases field
        · rw [Function.update_of_ne same] at field
          have denotes := (table.denotes_iff fd other).mpr field
          have different : fd ≠ closed := by
            rintro rfl
            rw [denoted] at denotes
            exact same (Option.some.inj denotes).symm
          change update process.epollFile closed none fd = some other
          rw [Function.update_of_ne different]
          exact denotes
    · intro fd other denotes
      obtain ⟨different, earlier⟩ := still fd other denotes
      change update process.server.kernel.file closed none fd = _
      rw [Function.update_of_ne different]
      exact table.file_other fd other earlier
    · intro fd other denotes
      exact table.not_listening fd other (still fd other denotes).2
    · intro fd other denotes
      exact table.not_store fd other (still fd other denotes).2

/-- Other code takes no number of an epoll and closes none. -/
theorem setFile {process : Process} (table : EpollTable config process)
    {fd : Fd} (foreign : process.epollFile fd = none) (file : Option File) :
    EpollTable config
      { process with server := process.server.setFile fd file } :=
  { table with
    file_other := by
      intro other epoll denotes
      have different : other ≠ fd := by
        rintro rfl
        rw [foreign] at denotes
        cases denotes
      change update process.server.kernel.file fd file other = _
      rw [Function.update_of_ne different]
      exact table.file_other other epoll denotes }

theorem unused {process : Process} (table : EpollTable config process)
    {fd : Fd} (free : process.server.kernel.file fd = none) :
    process.epollFile fd = none := by
  cases denotes : process.epollFile fd with
  | none => rfl
  | some epoll =>
      rw [table.file_other fd epoll denotes] at free
      cases free

end EpollTable

/-! ## What holds of every process -/

/-- A step of the process is a step of the server, or none, and then perhaps
the opening or closing of a file that is not the server's. -/
theorem serverPart_of_step {config : ProcessConfig} {before after : Process}
    {action : ProcessAction} (table : EpollTable config before)
    (sound : Sound config.toConfig before.server)
    (taken : ProcessStep config before action after) :
    ∃ server,
      (server = before.server ∨
        ∃ inner, action = .server inner ∧
          (tcpServer config.toConfig).step before.server inner =
            some server) ∧
      (after.server = server ∨ OtherFiles server after.server) := by
  cases taken with
  | server action server taken no_epoll =>
      exact ⟨server, .inr ⟨action, rfl, taken⟩, .inl rfl⟩
  | closeEpoll epoll server taken closes =>
      refine ⟨server, .inr ⟨.stop, rfl, taken⟩, ?_⟩
      have moved := table.moveServer sound taken
      rcases moved.closeEpoll_cases epoll with
        ⟨-, result⟩ | ⟨closed, denoted, result⟩
      · rw [result]
        exact .inl rfl
      · rw [result]
        right
        apply OtherFiles.changed closed none
        · exact .inr (moved.file_other closed epoll denoted)
        · exact .inl rfl
  | openFile fd unused =>
      refine ⟨before.server, .inl rfl, .inr ?_⟩
      exact .changed fd (some .other) (.inl unused) (.inr rfl)
  | closeFile fd denotes foreign =>
      refine ⟨before.server, .inl rfl, .inr ?_⟩
      exact .changed fd none (.inr denotes) (.inl rfl)

theorem Sound.processStep {config : ProcessConfig} {before after : Process}
    {action : ProcessAction} (sound : Sound config.toConfig before.server)
    (table : EpollTable config before)
    (taken : ProcessStep config before action after) :
    Sound config.toConfig after.server := by
  obtain ⟨server, moved, shared⟩ := serverPart_of_step table sound taken
  have here : Sound config.toConfig server := by
    rcases moved with rfl | ⟨inner, -, stepped⟩
    · exact sound
    · exact sound.step stepped
  rcases shared with same | change
  · rw [same]
    exact here
  · exact here.otherFiles change

theorem EpollTable.processStep {config : ProcessConfig}
    {before after : Process} {action : ProcessAction}
    (table : EpollTable config before)
    (sound : Sound config.toConfig before.server)
    (taken : ProcessStep config before action after) :
    EpollTable config after := by
  cases taken with
  | server action server taken no_epoll => exact table.moveServer sound taken
  | closeEpoll epoll server taken closes =>
      exact (table.moveServer sound taken).closeEpoll epoll
  | openFile fd unused => exact table.setFile (table.unused unused) _
  | closeFile fd denotes foreign => exact table.setFile foreign none

theorem sound_and_epollTable {config : ProcessConfig} {process : Process}
    (reachable : (serverProcess config).Reachable process) :
    Sound config.toConfig process.server ∧ EpollTable config process := by
  refine TransitionSystem.Reachable.invariant ?_ ?_ reachable
  · intro state initially
    cases initially
    exact ⟨Sound.start config.toConfig, EpollTable.start config⟩
  · intro before action after _ taken held
    obtain ⟨sound, table⟩ := held
    have moved := processStep_of_some taken
    exact ⟨sound.processStep table moved, table.processStep sound moved⟩

/-- The server's invariants survive in a process with other code. -/
theorem sound_of_reachable {config : ProcessConfig} {process : Process}
    (reachable : (serverProcess config).Reachable process) :
    Sound config.toConfig process.server :=
  (sound_and_epollTable reachable).1

theorem epollTable_of_reachable {config : ProcessConfig} {process : Process}
    (reachable : (serverProcess config).Reachable process) :
    EpollTable config process :=
  (sound_and_epollTable reachable).2

/-- The invariant rule for what concerns the server only: it is kept by the
server's own steps and by what other code does to the descriptor table. -/
theorem server_invariant {config : ProcessConfig}
    {permitted : Process → ProcessAction → Prop} {holds : Server → Prop}
    (start : holds (Server.start config.toConfig))
    (stepped : ∀ before action after,
      (serverProcess config).Reached permitted before →
      permitted before (.server action) →
      (tcpServer config.toConfig).step before.server action = some after →
      holds before.server → holds after)
    (shared : ∀ before after, OtherFiles before after →
      holds before → holds after)
    {process : Process}
    (reached : (serverProcess config).Reached permitted process) :
    holds process.server := by
  refine TransitionSystem.Reached.invariant ?_ ?_ reached
  · intro state initially
    cases initially
    exact start
  · intro before action after earlier allowed taken held
    have reachable := earlier.reachable
    obtain ⟨server, moved, table⟩ :=
      serverPart_of_step (epollTable_of_reachable reachable)
        (sound_of_reachable reachable) (processStep_of_some taken)
    have here : holds server := by
      rcases moved with rfl | ⟨inner, rfl, step⟩
      · exact held
      · exact stepped before inner server earlier allowed step held
    rcases table with same | change
    · rw [same]
      exact here
    · exact shared server after.server change here

end EventPlus

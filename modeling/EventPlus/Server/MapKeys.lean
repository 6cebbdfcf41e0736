/-
Module: EventPlus.Server.MapKeys
Purpose: The keys of `clientEventStores` against the numbers `accept` returns:
  as long as nothing closes a number that is a key, every key is open, so
  `accept` returns none of them.
Trusted boundary: none
Main exports:
  Server.NoReplacement, Server.keyed, closesUnkeyed, KeysOpen,
  keysOpen_of_reached, noReplacement_of_reached, entry_replaced
-/
import EventPlus.Server.Process

namespace EventPlus

open Function (update)

/-- While a client is being admitted, nothing is registered under its number
before its own entry is. -/
def Server.NoReplacement (server : Server) : Prop :=
  ∀ stage store, server.acceptThread = .admitting stage store →
    stage ≠ .enqueue → server.find (server.fd store) = none

/-! ## Closing a key -/

namespace Server

variable (server : Server)

/-- The number of the client that is being admitted and not registered yet. -/
def admittedFd : Option Fd :=
  match server.acceptThread with
  | .admitting .enqueue _ => none
  | .admitting _ store => some (server.fd store)
  | _ => none

/-- A store is registered under the number, or is about to be. -/
def keyed (fd : Fd) : Bool :=
  (server.find fd).isSome || server.admittedFd = some fd

end Server

/-- Outside `removeSocket` and `stopPolling` no `close` call is made on an open
number that is a key or about to be one: no callback closes a registered
connection, and no handshake of an admission fails.  `removeSocket` erases the
entry it has closed before it releases the mutex, and `closeAllClientSocket`
clears the map. -/
def closesUnkeyed (config : Config) (server : Server) (action : Action) :
    Bool :=
  match action, closeCall config server action with
  | .poller _ _, _ | .stop, _ => true
  | _, some (.client store) =>
      server.kernel.file (server.fd store) = none ||
        !server.keyed (server.fd store)
  | _, _ => true

namespace Server

variable {server : Server}

theorem keyed_of_find {fd : Fd} (found : server.find fd ≠ none) :
    server.keyed fd = true := by
  have entry : (server.find fd).isSome = true := by
    cases here : server.find fd with
    | none => exact absurd here found
    | some store => rfl
  simp [keyed, entry]

theorem keyed_of_admitting {stage : AdmitStage} {store : ConnectionId}
    (at_point : server.acceptThread = .admitting stage store)
    (early : stage ≠ .enqueue) : server.keyed (server.fd store) = true := by
  have admitted : server.admittedFd = some (server.fd store) := by
    unfold admittedFd
    rw [at_point]
    cases stage with
    | enqueue => exact absurd rfl early
    | _ => rfl
  simp [keyed, admitted]

end Server

/-- An open key stays open in a step that no poller and no `stopPolling`
takes. -/
theorem key_stays_open {config : Config} {before after : Server}
    {action : Action}
    (allowed : closesUnkeyed config before action = true)
    (no_poller : ∀ poller choice, action ≠ .poller poller choice)
    (no_stop : action ≠ .stop)
    (taken : (tcpServer config).step before action = some after) {fd : Fd}
    (key : before.keyed fd = true) (opened : before.kernel.file fd ≠ none) :
    after.kernel.file fd ≠ none := by
  have effect := tableStep_of_step taken
  cases calls : closeCall config before action with
  | none =>
      rw [calls] at effect
      cases effect with
      | kept _ same events trace no_close => rwa [same]
      | opened number inetNtop ssl unused result trace =>
          rw [result]
          by_cases same : fd = number
          · simp [same]
          · rwa [Function.update_of_ne same]
  | some call =>
      cases call with
      | listening =>
          exfalso
          unfold closeCall at calls
          split at calls
          · split at calls
            · split at calls
              · cases calls
              · cases calls
            · cases calls
          · exact no_poller _ _ rfl
          · split at calls
            · unfold Server.closeConnectionCall at calls
              split at calls
              · cases calls
              · cases calls
            · cases calls
          · exact no_stop rfl
          · cases calls
      | client store =>
          have elsewhere : fd ≠ before.fd store := by
            rintro rfl
            unfold closesUnkeyed at allowed
            rw [calls] at allowed
            split at allowed
            · exact no_poller _ _ rfl
            · exact no_stop rfl
            · rename_i same
              cases same
              simp [opened, key] at allowed
            · rename_i none_closed
              exact none_closed store rfl
          rw [calls] at effect
          cases effect with
          | closed _ _ result trace =>
              rw [result]
              change update before.kernel.file (before.fd store) none fd ≠ none
              rwa [Function.update_of_ne elsewhere]

/-- Outside the mutex a poller closes nothing, and `stopPolling` only the
listening socket. -/
theorem key_open_outside {config : Config} {before after : Server}
    {action : Action}
    (allowed : closesUnkeyed config before action = true)
    (outside : action.outside before)
    (taken : (tcpServer config).step before action = some after)
    (listens : after.kernel.file config.listenFd = some .listening) {fd : Fd}
    (key : before.keyed fd = true) (opened : before.kernel.file fd ≠ none) :
    after.kernel.file fd ≠ none := by
  by_cases inside :
      action = .stop ∨ ∃ poller choice, action = .poller poller choice
  · have no_client : ∀ store,
        closeCall config before action ≠ some (.client store) := by
      intro store calls
      unfold closeCall at calls
      split at calls
      · simp at inside
      · split at calls
        · rename_i at_point
          simp only [Action.outside, at_point] at outside
          cases outside
        · cases calls
      · simp at inside
      · split at calls
        · split at calls
          · cases calls
          · cases calls
        · rename_i at_point
          simp only [Action.outside, at_point] at outside
          cases outside
        · cases calls
      · cases calls
    have effect := tableStep_of_step taken
    generalize closeCall config before action = call at no_client effect
    cases effect with
    | closed _ call result trace =>
        cases call with
        | client store => exact absurd rfl (no_client store)
        | listening =>
            rw [result] at listens
            change update before.kernel.file config.listenFd none _ = _
              at listens
            rw [Function.update_self] at listens
            cases listens
    | kept _ same events trace no_close => rwa [same]
    | opened number inetNtop ssl unused result trace => simp at inside
  · obtain ⟨no_stop, no_poller⟩ := not_or.mp inside
    exact key_stays_open allowed
      (fun poller choice same => no_poller ⟨poller, choice, same⟩) no_stop
      taken key opened

/-! ## Every key is open -/

/-- A poller inside `removeSocket` is about to erase the entry. -/
def Server.Erasing (server : Server) (fd : Fd) : Prop :=
  ∃ poller store rest,
    (server.pollerThread poller = .busy .enqueue store rest ∨
        server.pollerThread poller = .busy .erase store rest) ∧
      server.fd store = fd

/-- As long as the listening socket is open, the number of a client that is
being admitted is open, and so is every key, unless `removeSocket` is about to
erase it or `closeAllClientSocket` to clear the map. -/
structure KeysOpen (config : Config) (server : Server) : Prop where
  unreplaced : server.NoReplacement
  admitted : server.kernel.file config.listenFd = some .listening →
    ∀ stage store, server.acceptThread = .admitting stage store →
      stage ≠ .enqueue → server.kernel.file (server.fd store) ≠ none
  entries : server.kernel.file config.listenFd = some .listening →
    (∀ rest, server.stopThread ≠ .closing rest) →
      ∀ fd, server.find fd ≠ none →
        server.kernel.file fd ≠ none ∨ server.Erasing fd

section Steps

variable {config : Config} {before after : Server}

/-- A step of the accept thread that leaves a client in admission either goes
on with the admission or begins it. -/
theorem admission_of_acceptStep {choice : AcceptChoice}
    (taken : AcceptStep config before choice after) {stage : AdmitStage}
    {store : ConnectionId}
    (at_point : after.acceptThread = .admitting stage store)
    (early : stage ≠ .enqueue) :
    (∀ fd, after.find fd = before.find fd) ∧
      ((∃ earlier, earlier ≠ .enqueue ∧
          before.acceptThread = .admitting earlier store) ∨
        ∃ fd kernel, before.acceptThread = .accept ∧
          before.kernel.accept fd before.accepted = some kernel ∧
            after.kernel = kernel ∧ after.fd store = fd) := by
  cases taken with
  | loop at_before =>
      dsimp only at at_point
      split at at_point
      · cases at_point
      · cases at_point
  | handleEvent at_before =>
      dsimp only at at_point
      split at at_point
      · cases at_point
      · cases at_point
  | accepted fd ssl kernel at_before got =>
      cases at_point
      refine ⟨fun _ => rfl, .inr ⟨fd, kernel, at_before, got, rfl, ?_⟩⟩
      exact Server.fd_makeStore_self kernel fd ssl
  | initConnection other outcome at_before =>
      cases at_point
      obtain ⟨_, _, _, result⟩ :=
        before.initConnection_frame config store outcome
      refine ⟨fun fd => ?_, .inl ⟨_, by simp, at_before⟩⟩
      rw [result]
      rfl
  | registered other kernel at_before added =>
      cases at_point
      exact ⟨fun _ => rfl, .inl ⟨_, by simp, at_before⟩⟩
  | refused other granted at_before =>
      cases at_point
      exact ⟨fun _ => rfl, .inl ⟨_, by simp, at_before⟩⟩
  | backPointer poller other at_before =>
      cases at_point
      exact ⟨fun _ => rfl, .inl ⟨_, by simp, at_before⟩⟩
  | insert other at_before =>
      cases at_point
      exact absurd rfl early
  | _ => cases at_point

/-- A step of the accept thread adds a key only by inserting the store it
admits. -/
theorem key_of_acceptStep {choice : AcceptChoice}
    (taken : AcceptStep config before choice after) {fd : Fd}
    (found : after.find fd ≠ none) :
    before.find fd ≠ none ∨
      ∃ store, before.acceptThread = .admitting .insert store ∧
        before.fd store = fd ∧ after.kernel = before.kernel := by
  cases taken with
  | initConnection store outcome at_point =>
      obtain ⟨_, _, _, result⟩ :=
        before.initConnection_frame config store outcome
      rw [result] at found
      exact .inl found
  | insert store at_point =>
      change (before.insertStore store).find fd ≠ none at found
      rw [Server.find_insertStore] at found
      split at found
      · rename_i same
        exact .inr ⟨store, at_point, same.symm, rfl⟩
      · exact .inl found
  | _ => exact .inl found

namespace KeysOpen

theorem start (config : Config) : KeysOpen config (Server.start config) where
  unreplaced := by
    intro stage store at_point
    cases at_point
  admitted := by
    intro _ stage store at_point
    cases at_point
  entries := by
    intro _ _ fd found
    exact absurd rfl found

/-- A connection is accepted only with the listening socket open, so under a
number that is no key. -/
theorem unregistered (keys : KeysOpen config before)
    (sound : Sound config before) (at_point : before.acceptThread = .accept)
    {fd : Fd} {connection : ConnectionId} {kernel : Kernel}
    (got : before.kernel.accept fd connection = some kernel) :
    before.find fd = none := by
  have inside : before.acceptThread.critical = true := by
    rw [at_point]
    rfl
  have listens : before.kernel.file config.listenFd = some .listening := by
    by_contra closed
    simp [Kernel.accept, sound.listening.backlog closed] at got
  have running : ∀ rest, before.stopThread ≠ .closing rest := by
    intro rest closing
    rw [sound.exclusive.stopper_excludes_accept (by rw [closing]; rfl)]
      at inside
    cases inside
  by_contra found
  rcases keys.entries listens running fd found with
    opened | ⟨poller, store, rest, at_erase, -⟩
  · exact opened (Kernel.accept_spec got).1
  · have removing : (before.pollerThread poller).critical = true := by
      rcases at_erase with at_erase | at_erase
      · exact before.critical_of_busy at_erase rfl
      · exact before.critical_of_busy at_erase rfl
    rw [sound.exclusive.accept_excludes_poller removing] at inside
    cases inside

/-- The accept thread stays where it is, and so does the map. -/
theorem admission_of_other {action : Action} (sound : Sound config before)
    (no_accept : ∀ choice, action ≠ .accept choice)
    (taken : (tcpServer config).step before action = some after)
    {stage : AdmitStage} {store : ConnectionId}
    (at_point : after.acceptThread = .admitting stage store) :
    before.acceptThread = .admitting stage store ∧
      after.fd store = before.fd store ∧ action.outside before := by
  have moved := serverStep_of_step taken
  rw [acceptThread_of_step moved no_accept] at at_point
  have alive := sound.map.admitting_alive _ _ at_point
  refine ⟨at_point, sound.fd_of_made moved (by simp [alive]), ?_⟩
  exact sound.exclusive.outside_of_admitting (by rw [at_point]; rfl) no_accept

theorem unreplaced_step (keys : KeysOpen config before)
    (sound : Sound config before) {action : Action}
    (taken : (tcpServer config).step before action = some after) :
    after.NoReplacement := by
  intro stage store at_point early
  have moved := serverStep_of_step taken
  by_cases accepts : ∃ choice, action = .accept choice
  · obtain ⟨choice, rfl⟩ := accepts
    cases moved with
    | network impossible => cases impossible
    | accept _ line =>
        obtain ⟨same, ⟨earlier, early_before, at_before⟩ |
          ⟨fd, kernel, at_before, got, -, number⟩⟩ :=
            admission_of_acceptStep line at_point early
        · have alive := sound.map.admitting_alive _ _ at_before
          rw [same, sound.fd_of_made (.accept choice line) (by simp [alive])]
          exact keys.unreplaced earlier store at_before early_before
        · rw [same, number]
          exact keys.unregistered sound at_before got
  · obtain ⟨at_before, number, outside⟩ := admission_of_other sound
      (fun choice same => accepts ⟨choice, same⟩) taken at_point
    rw [find_of_outside moved outside, number]
    exact keys.unreplaced stage store at_before early

theorem admitted_step (keys : KeysOpen config before)
    (sound : Sound config before) {action : Action}
    (allowed : closesUnkeyed config before action = true)
    (taken : (tcpServer config).step before action = some after)
    (listens : after.kernel.file config.listenFd = some .listening)
    {stage : AdmitStage} {store : ConnectionId}
    (at_point : after.acceptThread = .admitting stage store)
    (early : stage ≠ .enqueue) :
    after.kernel.file (after.fd store) ≠ none := by
  have moved := serverStep_of_step taken
  have listened := listening_of_step taken listens
  by_cases accepts : ∃ choice, action = .accept choice
  · obtain ⟨choice, rfl⟩ := accepts
    cases moved with
    | network impossible => cases impossible
    | accept _ line =>
        obtain ⟨-, ⟨earlier, early_before, at_before⟩ |
          ⟨fd, kernel, -, got, result, number⟩⟩ :=
            admission_of_acceptStep line at_point early
        · have alive := sound.map.admitting_alive _ _ at_before
          rw [sound.fd_of_made (.accept choice line) (by simp [alive])]
          exact key_stays_open allowed (by simp) (by simp) taken
            (Server.keyed_of_admitting at_before early_before)
            (keys.admitted listened earlier store at_before early_before)
        · obtain ⟨-, rfl⟩ := Kernel.accept_spec got
          rw [number, result]
          simp
  · obtain ⟨at_before, number, outside⟩ := admission_of_other sound
      (fun choice same => accepts ⟨choice, same⟩) taken at_point
    rw [number]
    exact key_open_outside allowed outside taken listens
      (Server.keyed_of_admitting at_before early)
      (keys.admitted listened stage store at_before early)

/-- A poller about to erase an entry is not moved by the others. -/
theorem erasing_stays (sound : Sound config before) {action : Action}
    (taken : (tcpServer config).step before action = some after)
    {poller : PollerId} {store : ConnectionId} {rest : List EpollEvent}
    (other : ∀ choice, action ≠ .poller poller choice)
    (at_point : before.pollerThread poller = .busy .enqueue store rest ∨
      before.pollerThread poller = .busy .erase store rest) :
    after.Erasing (before.fd store) := by
  have moved := serverStep_of_step taken
  have held : store ∈ (before.pollerThread poller).held := by
    rcases at_point with at_point | at_point
    · exact before.held_of_busy at_point
    · exact before.held_of_busy at_point
  refine ⟨poller, store, rest, ?_, sound.fd_of_made moved
    (sound.held_made held)⟩
  rw [pollerThread_elsewhere moved other]
  exact at_point

/-- A key that was there before stays open, or is still about to be erased. -/
theorem entry_of_outside (keys : KeysOpen config before)
    (sound : Sound config before) {action : Action}
    (allowed : closesUnkeyed config before action = true)
    (outside : action.outside before)
    (no_poller : ∀ poller choice, action ≠ .poller poller choice)
    (taken : (tcpServer config).step before action = some after)
    (listens : after.kernel.file config.listenFd = some .listening)
    (running : ∀ rest, before.stopThread ≠ .closing rest) {fd : Fd}
    (found : after.find fd ≠ none) :
    after.kernel.file fd ≠ none ∨ after.Erasing fd := by
  rw [find_of_outside (serverStep_of_step taken) outside] at found
  rcases keys.entries (listening_of_step taken listens) running fd found with
    opened | ⟨poller, store, rest, at_point, rfl⟩
  · exact .inl (key_open_outside allowed outside taken listens
      (Server.keyed_of_find found) opened)
  · exact .inr (erasing_stays sound taken (no_poller poller) at_point)

theorem entries_acceptStep (keys : KeysOpen config before)
    (sound : Sound config before) {choice : AcceptChoice}
    (allowed : closesUnkeyed config before (.accept choice) = true)
    (taken : (tcpServer config).step before (.accept choice) = some after)
    (line : AcceptStep config before choice after)
    (listens : after.kernel.file config.listenFd = some .listening)
    (running : ∀ rest, before.stopThread ≠ .closing rest) {fd : Fd}
    (found : after.find fd ≠ none) :
    after.kernel.file fd ≠ none ∨ after.Erasing fd := by
  have listened := listening_of_step taken listens
  rcases key_of_acceptStep line found with
    earlier | ⟨store, at_point, rfl, same⟩
  · rcases keys.entries listened running fd earlier with
      opened | ⟨poller, store, rest, at_point, rfl⟩
    · exact .inl (key_stays_open allowed (by simp) (by simp) taken
        (Server.keyed_of_find earlier) opened)
    · exact .inr (erasing_stays sound taken (by simp) at_point)
  · left
    rw [same]
    exact keys.admitted listened .insert store at_point (by simp)

/-- A poller about to erase an entry is not moved by another poller. -/
theorem erasing_elsewhere (sound : Sound config before)
    {poller other : PollerId} {choice : PollerChoice}
    (taken : (tcpServer config).step before (.poller poller choice) =
      some after)
    (different : other ≠ poller) {store : ConnectionId}
    {rest : List EpollEvent}
    (at_point : before.pollerThread other = .busy .enqueue store rest ∨
      before.pollerThread other = .busy .erase store rest) :
    after.Erasing (before.fd store) := by
  apply erasing_stays sound taken _ at_point
  intro choice same
  cases same
  exact different rfl

/-- A key that was there before a step of a poller which erases nothing. -/
theorem entry_of_away (keys : KeysOpen config before)
    (sound : Sound config before) {poller : PollerId} {choice : PollerChoice}
    (taken : (tcpServer config).step before (.poller poller choice) =
      some after)
    (listened : before.kernel.file config.listenFd = some .listening)
    (running : ∀ rest, before.stopThread ≠ .closing rest)
    (away : ∀ store rest,
      before.pollerThread poller ≠ .busy .enqueue store rest ∧
        before.pollerThread poller ≠ .busy .erase store rest) {fd : Fd}
    (found : before.find fd ≠ none) :
    before.kernel.file fd ≠ none ∨ after.Erasing fd := by
  rcases keys.entries listened running fd found with
    opened | ⟨other, store, rest, at_point, rfl⟩
  · exact .inl opened
  · right
    apply erasing_elsewhere sound taken _ at_point
    rintro rfl
    rcases at_point with at_point | at_point
    · exact (away store rest).1 at_point
    · exact (away store rest).2 at_point

/-- What `removeSocket` closes it goes on to erase. -/
theorem entries_closeConnection (keys : KeysOpen config before)
    (sound : Sound config before) {poller : PollerId}
    {store : ConnectionId} {rest : List EpollEvent}
    (at_point : before.pollerThread poller = .busy .closeConnection store rest)
    (next : after.pollerThread poller = .busy .enqueue store rest)
    (taken : (tcpServer config).step before (.poller poller .proceed) =
      some after)
    (listened : before.kernel.file config.listenFd = some .listening)
    (running : ∀ rest, before.stopThread ≠ .closing rest) {fd : Fd}
    (found : before.find fd ≠ none) :
    after.kernel.file fd ≠ none ∨ after.Erasing fd := by
  have made := sound.held_made (before.held_of_busy at_point)
  rcases keys.entry_of_away sound taken listened running (by simp [at_point])
    found with opened | erasing
  · by_cases same : before.fd store = fd
    · right
      refine ⟨poller, store, rest, .inl next, ?_⟩
      rw [← same]
      exact sound.fd_of_made (serverStep_of_step taken) made
    · left
      have effect := tableStep_of_step taken
      generalize call_eq : closeCall config before
        (.poller poller .proceed) = call at effect
      cases effect with
      | closed _ call result trace =>
          rw [result]
          simp only [closeCall, at_point, Server.closeConnectionCall]
            at call_eq
          split at call_eq
          · cases call_eq
          · cases call_eq
            change update before.kernel.file (before.fd store) none fd ≠ _
            rwa [Function.update_of_ne (Ne.symm same)]
      | kept _ result events trace no_close => rwa [result]
  · exact .inr erasing

/-- Every key stays open or is about to be erased, whatever a poller does. -/
theorem entries_pollerStep (keys : KeysOpen config before)
    (sound : Sound config before) {poller : PollerId} {choice : PollerChoice}
    (taken : (tcpServer config).step before (.poller poller choice) =
      some after)
    (line : PollerStep config before poller choice after)
    (listens : after.kernel.file config.listenFd = some .listening)
    (running : ∀ rest, before.stopThread ≠ .closing rest) {fd : Fd}
    (found : after.find fd ≠ none) :
    after.kernel.file fd ≠ none ∨ after.Erasing fd := by
  have listened := listening_of_step taken listens
  have quiet : after.find fd = before.find fd →
      after.kernel.file = before.kernel.file →
      (∀ store rest, before.pollerThread poller ≠ .busy .enqueue store rest ∧
        before.pollerThread poller ≠ .busy .erase store rest) →
      after.kernel.file fd ≠ none ∨ after.Erasing fd := by
    intro same_entry same_file away
    rw [same_entry] at found
    rw [same_file]
    exact keys.entry_of_away sound taken listened running away found
  cases line with
  | closeConnection store rest at_point =>
      obtain ⟨_, _, _, result⟩ := before.closeConnection_frame config store
      rw [result] at found
      exact keys.entries_closeConnection sound at_point
        (Function.update_self _ _ _) taken listened running found
  | enqueue store rest at_point =>
      rcases keys.entries listened running fd found with
        opened | ⟨other, removed, later, at_erase, rfl⟩
      · exact .inl opened
      · right
        by_cases same : other = poller
        · subst same
          rw [at_point] at at_erase
          obtain ⟨rfl, rfl⟩ : store = removed ∧ rest = later := by
            simpa using at_erase
          exact ⟨other, store, rest, .inr (Function.update_self _ _ _), rfl⟩
        · exact erasing_elsewhere sound taken same at_erase
  | erase store rest at_point =>
      change (before.eraseStore store).find fd ≠ none at found
      rw [Server.find_eraseStore] at found
      split at found
      · exact absurd rfl found
      · rename_i different
        rcases keys.entries listened running fd found with
          opened | ⟨other, removed, later, at_erase, rfl⟩
        · exact .inl opened
        · right
          apply erasing_elsewhere sound taken _ at_erase
          rintro rfl
          rw [at_point] at at_erase
          obtain ⟨rfl, rfl⟩ : store = removed ∧ rest = later := by
            simpa using at_erase
          exact different rfl
  | loop at_point => exact quiet rfl rfl (by simp [at_point])
  | report reported entries kernel at_point waited =>
      obtain ⟨-, -, -, file, -⟩ := Kernel.epollWait_spec waited
      exact quiet rfl file (by simp [at_point])
  | timeout at_point => exact quiet rfl rfl (by simp [at_point])
  | batchDone at_point => exact quiet rfl rfl (by simp [at_point])
  | hangUp entry rest at_point flag =>
      exact quiet rfl rfl (by simp [at_point])
  | data entry rest at_point flag => exact quiet rfl rfl (by simp [at_point])
  | skipped entry rest at_point => exact quiet rfl rfl (by simp [at_point])
  | setIncoming store rest at_point =>
      exact quiet rfl rfl (by simp [at_point])
  | dispatch store rest at_point => exact quiet rfl rfl (by simp [at_point])
  | lock store rest at_point free => exact quiet rfl rfl (by simp [at_point])
  | setClosed store rest at_point => exact quiet rfl rfl (by simp [at_point])
  | noHandler store rest at_point handler_eq =>
      exact quiet rfl rfl (by simp [at_point])
  | epollDel store rest handler at_point handler_eq =>
      exact quiet rfl (Kernel.epollCtlDel_file _ _ _) (by simp [at_point])
  | unlock store rest at_point => exact quiet rfl rfl (by simp [at_point])

/-- `closeAllClientSocket` closes the keys and then clears the map. -/
theorem entries_stop (keys : KeysOpen config before)
    (sound : Sound config before)
    (taken : (tcpServer config).step before .stop = some after)
    (listens : after.kernel.file config.listenFd = some .listening)
    (running : ∀ rest, after.stopThread ≠ .closing rest) {fd : Fd}
    (found : after.find fd ≠ none) :
    after.kernel.file fd ≠ none ∨ after.Erasing fd := by
  cases critical : before.stopThread.critical with
  | false =>
      have outside : Action.stop.outside before := critical
      apply keys.entry_of_outside sound rfl outside (by simp) taken listens
        _ found
      intro rest closing
      rw [closing] at critical
      cases critical
  | true =>
      cases stopLine_of_some taken with
      | closing store rest at_point => exact absurd rfl (running rest)
      | clear at_point => exact absurd (before.find_clearStores fd) found
      | unlock at_point =>
          have before_running : ∀ rest, before.stopThread ≠ .closing rest := by
            simp [at_point]
          rcases keys.entries listens before_running fd found with
            opened | ⟨poller, store, rest, at_erase, rfl⟩
          · exact .inl opened
          · exact .inr (erasing_stays sound taken (by simp) at_erase)
      | begin at_point =>
          rcases at_point with at_point | at_point
          · rw [at_point] at critical
            cases critical
          · rw [at_point] at critical
            cases critical
      | _ =>
          rw [‹before.stopThread = _›] at critical
          cases critical

theorem step (keys : KeysOpen config before) (sound : Sound config before)
    {action : Action} (allowed : closesUnkeyed config before action = true)
    (taken : (tcpServer config).step before action = some after) :
    KeysOpen config after where
  unreplaced := keys.unreplaced_step sound taken
  admitted := fun listens _ _ at_point early =>
    keys.admitted_step sound allowed taken listens at_point early
  entries := by
    intro listens running fd found
    have moved := serverStep_of_step taken
    have still : action ≠ .stop →
        ∀ rest, before.stopThread ≠ .closing rest := by
      intro no_stop
      rw [← stopThread_of_step moved no_stop]
      exact running
    cases moved with
    | network arrived =>
        cases arrived with
        | _ =>
            exact keys.entry_of_outside sound allowed trivial (by simp) taken
              listens (still (by simp)) found
    | accept choice line =>
        exact keys.entries_acceptStep sound allowed taken line listens
          (still (by simp)) found
    | poller poller choice bound line =>
        exact keys.entries_pollerStep sound taken line listens
          (still (by simp)) found
    | worker worker choice bound line =>
        exact keys.entry_of_outside sound allowed trivial (by simp) taken
          listens (still (by simp)) found
    | stop line =>
        exact keys.entries_stop sound taken listens running found

end KeysOpen

end Steps

theorem keysOpen_of_reached {config : Config} {server : Server}
    (reached : (tcpServer config).Reached
      (fun server action => closesUnkeyed config server action = true)
      server) :
    KeysOpen config server := by
  refine TransitionSystem.Reached.invariant ?_ ?_ reached
  · rintro state rfl
    exact KeysOpen.start config
  · intro before action after earlier allowed taken keys
    exact keys.step (Sound.of_reachable earlier.reachable) allowed taken

/-- Without a `close` call that takes the number of a registered store, or of
one about to be registered, from under it, no admission replaces an entry:
nothing is registered under the number `accept` returned.  It holds with either
handler, for every outcome of `epoll_ctl`, and during shutdown. -/
theorem noReplacement_of_reached {config : Config} {server : Server}
    (reached : (tcpServer config).Reached
      (fun server action => closesUnkeyed config server action = true)
      server) :
    server.NoReplacement :=
  (keysOpen_of_reached reached).unreplaced

/-- The first client hangs up and is removed, and the next one gets its
number. -/
theorem noReplacement_of_reached_reused :
    ∃ server,
      (tcpServer .single).Reached
          (fun server action => closesUnkeyed .single server action = true)
          server ∧
        (server.acceptThread = .admitting .insert 1 ∧ server.fd 1 = 4 ∧
          server.lifetime 0 = .destroyed) ∧
        server.NoReplacement := by
  obtain ⟨server, reached, here⟩ :=
    exists_server_of_replay .single
      (fun server action => closesUnkeyed .single server action = true)
      (fun server =>
        server.acceptThread = .admitting .insert 1 ∧ server.fd 1 = 4 ∧
          server.lifetime 0 = .destroyed)
      (connectAndAdmit 4 ++ [.hangUp 0 .halfClose] ++ pollOne 0 0 ++
        handleHangUp 0 ++ [.connect] ++ reachAccept ++ (admission 4).take 4)
      (by decide)
  exact ⟨server, reached, here, noReplacement_of_reached reached⟩

/-- A callback closes its connection, which leaves the entry behind; the next
client gets the number, and its admission destroys the first client's store. -/
theorem entry_replaced :
    ¬∀ server,
      (tcpServer { Config.single with callbacksClose := true }).Reachable
          server →
        server.NoReplacement := by
  intro always
  obtain ⟨server, reachable, at_point, found⟩ :=
    exists_server_of_replay { Config.single with callbacksClose := true }
      (fun _ _ => True)
      (fun server =>
        server.acceptThread = .admitting .insert 1 ∧
          server.find (server.fd 1) = some 0)
      (connectAndAdmit 4 ++
        [.worker 0 .take, .worker 0 .dispatch, .worker 0 .close,
          .worker 0 .finish, .connect] ++ reachAccept ++
        (admission 4).take 4)
      (by decide)
  have absent := always server reachable .insert 1 at_point (by simp)
  rw [found] at absent
  cases absent

end EventPlus

/-
Module: EventPlus.Server.Progress
Purpose: From every reachable state the server's own steps come to an end: no
  thread works for ever, and none is stuck but behind an `SSL_accept` or in a
  call without a defined result.  At rest nothing that was announced is left
  undone.
Trusted boundary: none
Main exports:
  Server.AtRest, Action.thread, Server.HeldUp, Server.Undefined,
  Server.Outcome, canWork, heldUp_of_stuck, settles
-/
import EventPlus.Library.Progress
import EventPlus.Server.Effort
import EventPlus.Server.HangUpNotice

namespace EventPlus

open Function (update)

/-! ## Rest -/

/-- A worker with nothing to run, or one whose handler call threw.  Nothing
catches the exception, so the process is about to end. -/
def WorkerPoint.resting : WorkerPoint → Bool
  | .idle => true
  | .callback _ (some .threw) => true
  | _ => false

/-- Every thread waits for something new.  No edge is left for the accept
thread or a poller that waits, no connection that such a poller watches has
hung up, no task waits for an idle worker, and `stopPolling` is not on its
way. -/
structure Server.AtRest (config : Config) (server : Server) : Prop where
  accept : server.acceptThread = .exited ∨
    server.acceptThread = .epollWait ∧
      ¬(server.kernel.listenRegistered = true ∧
        server.kernel.listenEdge = true)
  pollers : ∀ poller < config.numPollers,
    server.pollerThread poller = .exited ∨
      server.pollerThread poller = .epollWait ∧
        ∀ connection ∈ server.kernel.watched poller,
          (server.kernel.socket connection).edge = false ∧
            (server.kernel.socket connection).hungUp = false
  workers : ∀ worker < config.numWorkers,
    (server.workerThread worker).resting = true
  tasks : ∀ worker < config.numWorkers,
    server.workerThread worker = .idle → server.tasks = []
  stop : server.stopThread = .idle ∨ server.stopThread = .returned
  mutex : server.clientEventStoresMutex = none

/-- The thread whose step an action is, if it is one that takes the mutex. -/
def Action.thread : Action → Option Thread
  | .accept _ => some .accept
  | .poller index _ => some (.poller index)
  | .stop => some .stopper
  | _ => none

/-- Every thread but the holder of the mutex has done all it can.  Data has
been reported, enqueued and dealt with; who has to take the mutex waits for
it. -/
structure Server.HeldUp (config : Config) (holder : Thread)
    (server : Server) : Prop where
  mutex : server.clientEventStoresMutex = some holder
  accept : holder ≠ .accept →
    server.acceptThread = .exited ∨
      (server.acceptThread = .epollWait ∧
        ¬(server.kernel.listenRegistered = true ∧
          server.kernel.listenEdge = true)) ∨
      server.acceptThread = .lock
  pollers : ∀ poller < config.numPollers, holder ≠ .poller poller →
    server.pollerThread poller = .exited ∨
      (server.pollerThread poller = .epollWait ∧
        ∀ connection ∈ server.kernel.watched poller,
          (server.kernel.socket connection).edge = false ∧
            (server.kernel.socket connection).hungUp = false) ∨
      ∃ store rest,
        server.pollerThread poller = .busy .removeSocket store rest
  workers : ∀ worker < config.numWorkers,
    (server.workerThread worker).resting = true
  tasks : ∀ worker < config.numWorkers,
    server.workerThread worker = .idle → server.tasks = []
  stop : holder ≠ .stopper →
    server.stopThread = .idle ∨ server.stopThread = .returned ∨
      server.stopThread = .lockAll

/-- `stopPolling` is about to hand the listening store's `m_SSL`, which nothing
has set, to `SSL_shutdown`. -/
def Server.Undefined (config : Config) (server : Server) : Prop :=
  server.stopThread = .closeListening ∧ config.handler = .tls ∧
    config.listenSsl ≠ .null

/-- Where the server's own steps end: at rest, behind an `SSL_accept` whose
client lets it wait, or at a call that has no defined result. -/
inductive Server.Outcome (config : Config) (server : Server) : Prop where
  | atRest (rests : server.AtRest config)
  | handshaking (waits : server.InSSLAccept config)
      (others : server.HeldUp config .accept)
  | undefined (calls : server.Undefined config)

/-- The plain handler calls nothing of OpenSSL. -/
theorem Server.Outcome.plain {config : Config} {server : Server}
    (outcome : server.Outcome config) (plain : config.handler = .tcp) :
    server.AtRest config := by
  cases outcome with
  | atRest rests => exact rests
  | handshaking waits others => cases plain.symm.trans waits.1
  | undefined calls => cases plain.symm.trans calls.2.1

/-- Some thread of the server can take a step of its own, and an allowed
one. -/
def canWork (allowed : Action → Prop) (config : Config) (server : Server) :
    Prop :=
  ∃ action after, (allowed action ∧ working config server action) ∧
    (tcpServer config).step server action = some after

/-! ## Single threads -/

section Threads

variable {allowed : Action → Prop} {config : Config} {server : Server}

theorem canWork_of_accept (choice : AcceptChoice)
    (may : allowed (.accept choice))
    (works : working config server (.accept choice))
    (enabled : (acceptStep config server choice).isSome = true) :
    canWork allowed config server := by
  obtain ⟨after, taken⟩ := Option.isSome_iff_exists.mp enabled
  exact ⟨.accept choice, after, ⟨may, works⟩, taken⟩

theorem canWork_of_poller {poller : PollerId}
    (may : allowed (.poller poller .proceed))
    (bound : poller < config.numPollers)
    (enabled : (pollerStep config server poller .proceed).isSome = true) :
    canWork allowed config server := by
  obtain ⟨after, taken⟩ := Option.isSome_iff_exists.mp enabled
  exact ⟨.poller poller .proceed, after, ⟨may, trivial⟩,
    (if_pos bound).trans taken⟩

theorem canWork_of_worker {worker : WorkerId} (choice : WorkerChoice)
    (may : allowed (.worker worker choice))
    (bound : worker < config.numWorkers)
    (works : working config server (.worker worker choice))
    (enabled : (workerStep config server worker choice).isSome = true) :
    canWork allowed config server := by
  obtain ⟨after, taken⟩ := Option.isSome_iff_exists.mp enabled
  exact ⟨.worker worker choice, after, ⟨may, works⟩,
    (if_pos bound).trans taken⟩

theorem canWork_of_stop (may : allowed .stop)
    (called : server.stopThread ≠ .idle)
    (unreturned : server.stopThread ≠ .returned)
    (enabled : (stopStep config server).isSome = true) :
    canWork allowed config server := by
  obtain ⟨after, taken⟩ := Option.isSome_iff_exists.mp enabled
  exact ⟨.stop, after, ⟨may, called, unreturned⟩, taken⟩

/-- The accept thread goes on, with the mutex free where it has to take it and
no client to wait for. -/
theorem accept_canWork (may : ∀ choice, allowed (.accept choice))
    (free : server.acceptThread = .lock → server.clientEventStoresMutex = none)
    (busy : server.acceptThread ≠ .exited)
    (told : server.acceptThread = .epollWait →
      server.kernel.listenRegistered = true ∧
        server.kernel.listenEdge = true)
    (answered : ¬server.InSSLAccept config) :
    canWork allowed config server := by
  cases at_point : server.acceptThread with
  | loop =>
      apply canWork_of_accept .proceed (may _) trivial
      simp [acceptStep, at_point]
  | epollWait =>
      apply canWork_of_accept .report (may _) trivial
      simp [acceptStep, at_point, told at_point]
  | handleEvent =>
      apply canWork_of_accept .proceed (may _) trivial
      simp [acceptStep, at_point]
  | lock =>
      apply canWork_of_accept .proceed (may _) trivial
      simp [acceptStep, at_point, free at_point]
  | accept =>
      apply canWork_of_accept (.acceptFailed false) (may _) trivial
      simp [acceptStep, at_point]
  | admitting stage store =>
      cases stage with
      | initConnection =>
          apply canWork_of_accept
            (.handshake { certificate := true, sslAccept := 1 }) (may _)
            answered
          simp [acceptStep, at_point]
      | addSocket =>
          apply canWork_of_accept (.epollCtl false) (may _) trivial
          simp [acceptStep, at_point, Server.registerSocket]
      | _ =>
          apply canWork_of_accept .proceed (may _) trivial
          simp [acceptStep, at_point]
  | unlock =>
      apply canWork_of_accept .proceed (may _) trivial
      simp [acceptStep, at_point]
  | exited => exact absurd at_point busy

/-- A poller inside its loop goes on, with the mutex free where it has to take
it and no handler call in the way of `closeConnection`. -/
theorem poller_canWork {poller : PollerId}
    (may : ∀ choice, allowed (.poller poller choice))
    (bound : poller < config.numPollers)
    (free : ∀ store rest,
      server.pollerThread poller = .busy .removeSocket store rest →
        server.clientEventStoresMutex = none)
    (unblocked : ∀ store, server.closeBlocked config store = false)
    (waits : server.pollerThread poller ≠ .epollWait)
    (busy : server.pollerThread poller ≠ .exited) :
    canWork allowed config server := by
  apply canWork_of_poller (may _) bound
  cases at_point : server.pollerThread poller with
  | loop => simp [pollerStep, at_point]
  | epollWait => exact absurd at_point waits
  | batch rest =>
      cases rest with
      | nil => simp [pollerStep, at_point]
      | cons entry rest =>
          simp only [pollerStep, at_point]
          split
          · rfl
          · split <;> rfl
  | busy stage store rest =>
      cases stage with
      | removeSocket =>
          simp [pollerStep, at_point, free store rest at_point]
      | epollDel =>
          simp only [pollerStep, at_point]
          split <;> rfl
      | closeConnection => simp [pollerStep, at_point, unblocked]
      | _ => simp [pollerStep, at_point]
  | exited => exact absurd at_point busy

/-- A watched socket with an edge can be reported. -/
theorem report_canWork {poller : PollerId}
    (may : ∀ choice, allowed (.poller poller choice))
    (bound : poller < config.numPollers)
    (waits : server.pollerThread poller = .epollWait)
    {connection : ConnectionId}
    (member : connection ∈ server.kernel.watched poller)
    (edge : (server.kernel.socket connection).edge = true) :
    canWork allowed config server := by
  obtain ⟨kernel, waited⟩ := Kernel.epollWait_single member
  refine ⟨.poller poller (.report [connection]),
    { server with kernel := kernel }.setPoller poller
      (.batch [server.kernel.event connection]),
    ⟨may _, ?_⟩, ?_⟩
  · intro other told
    cases List.mem_singleton.mp told
    exact edge
  · refine (if_pos bound).trans ?_
    simp [pollerStep, waits, waited]

/-- A worker that is not at rest goes on. -/
theorem worker_canWork {worker : WorkerId}
    (may : ∀ choice, allowed (.worker worker choice))
    (bound : worker < config.numWorkers)
    (busy : (server.workerThread worker).resting = false) :
    canWork allowed config server := by
  cases at_point : server.workerThread worker with
  | idle =>
      rw [at_point] at busy
      cases busy
  | taken task =>
      apply canWork_of_worker .dispatch (may _) bound trivial
      simp [workerStep, at_point]
  | callback task call =>
      cases call with
      | none =>
          apply canWork_of_worker .finish (may _) bound trivial
          simp [workerStep, at_point]
      | some call =>
          cases next : call.syscall with
          | some syscall =>
              -- whatever the number denotes, the call may fail with `EBADF`
              apply canWork_of_worker (.syscall (.error .EBADF)) (may _)
                bound (by simp [working])
              have answered : (server.transfer task.eventStorePointer syscall
                  (.error .EBADF)).isSome = true := by
                have admitted :
                    syscall.admits (.error .EBADF) = true := by
                  cases syscall <;> rfl
                unfold Server.transfer Kernel.transfer
                cases server.kernel.file
                    (server.fd task.eventStorePointer) with
                | none => rfl
                | some file => cases file <;> simp [admitted]
              obtain ⟨after, transferred⟩ :=
                Option.isSome_iff_exists.mp answered
              simp [workerStep, at_point, next, transferred]
          | none =>
              apply canWork_of_worker .returnCall (may _) bound trivial
              have ended : call.finished = true ∨ call = .ssl := by
                cases call with
                | returned value appended => exact .inl rfl
                | ssl => exact .inr rfl
                | threw =>
                    rw [at_point] at busy
                    cases busy
                | _ => cases next
              simp [workerStep, at_point, ended]

/-- `stopPolling` goes on, where its next call has a result. -/
theorem stop_canWork (may : allowed .stop)
    (called : server.stopThread ≠ .idle)
    (unreturned : server.stopThread ≠ .returned)
    (defined : ¬server.Undefined config)
    (free : server.stopThread = .lockAll →
      server.clientEventStoresMutex = none)
    (unblocked : ∀ store, server.closeBlocked config store = false) :
    canWork allowed config server := by
  apply canWork_of_stop may called unreturned
  cases at_point : server.stopThread with
  | idle => exact absurd at_point called
  | returned => exact absurd at_point unreturned
  | stopPoller poller =>
      simp only [stopStep, at_point]
      split <;> rfl
  | lockAll =>
      simp [stopStep, at_point, free at_point]
  | closeListening =>
      have returns : (server.closeListening config).isSome = true := by
        cases handler : config.handler with
        | tcp => simp [Server.closeListening_tcp handler]
        | tls =>
            have null : config.listenSsl = .null := by
              by_contra set
              exact defined ⟨at_point, handler, set⟩
            simp [Server.closeListening, handler, null]
      obtain ⟨closed, closes⟩ := Option.isSome_iff_exists.mp returns
      simp [stopStep, at_point, closes]
  | closing rest =>
      cases rest with
      | nil => simp [stopStep, at_point]
      | cons store rest => simp [stopStep, at_point, unblocked]
  | _ => simp [stopStep, at_point]

end Threads

/-! ## Threads that cannot go on -/

/-- Only the pollers there are ever leave the head of their loop. -/
theorem pollerThread_beyond {config : Config} {server : Server}
    (reachable : (tcpServer config).Reachable server) {poller : PollerId}
    (beyond : config.numPollers ≤ poller) :
    server.pollerThread poller = .loop := by
  refine TransitionSystem.Reachable.invariant ?_ ?_ reachable
  · rintro state rfl
    rfl
  · intro before action after _ taken unmoved
    have moved := serverStep_of_step taken
    rw [pollerThread_elsewhere moved]
    · exact unmoved
    · rintro choice rfl
      cases moved with
      | network moved => cases moved
      | poller _ _ bound _ => exact Nat.not_lt.mpr beyond bound

/-- With no worker inside a handler call that could return, no
`closeConnection` has to wait. -/
theorem unblocked_of_resting {config : Config} {server : Server}
    (held : SocketHeld config server)
    (resting : ∀ worker < config.numWorkers,
      (server.workerThread worker).resting = true)
    (store : ConnectionId) : server.closeBlocked config store = false := by
  rw [← Bool.not_eq_true]
  intro blocked
  unfold Server.closeBlocked at blocked
  obtain ⟨tls, -, taken⟩ := of_decide_eq_true blocked
  obtain ⟨worker, holds⟩ := Option.isSome_iff_exists.mp taken
  obtain ⟨bound, task, call, at_point, -⟩ := held.holder store worker holds
  have rests := resting worker bound
  rw [at_point] at rests
  rcases held.returns tls worker task call at_point with ended | rfl
  · cases call with
    | returned value appended => cases rests
    | _ => cases ended
  · cases rests

section Stuck

variable {allowed : Action → Prop} {config : Config} {server : Server}

theorem workers_resting (stuck : ¬canWork allowed config server)
    (may : ∀ worker choice, allowed (.worker worker choice)) :
    ∀ worker < config.numWorkers,
      (server.workerThread worker).resting = true := by
  intro worker bound
  by_contra running
  exact stuck
    (worker_canWork (may worker) bound (Bool.eq_false_iff.mpr running))

/-- The accept thread likewise has returned, waits with no request to be told
about, for the mutex or in `SSL_accept`, if it cannot go on. -/
theorem accept_resting (stuck : ¬canWork allowed config server)
    (may : ∀ choice, allowed (.accept choice)) :
    server.acceptThread = .exited ∨
      (server.acceptThread = .epollWait ∧
        ¬(server.kernel.listenRegistered = true ∧
          server.kernel.listenEdge = true)) ∨
      (server.acceptThread = .lock ∧
        server.clientEventStoresMutex ≠ none) ∨
      server.InSSLAccept config := by
  by_contra running
  obtain ⟨inside, going⟩ := not_or.mp running
  obtain ⟨told, others⟩ := not_or.mp going
  obtain ⟨unlocked, answered⟩ := not_or.mp others
  apply stuck
  apply accept_canWork may ?_ inside ?_ answered
  · intro at_point
    by_contra locked
    exact unlocked ⟨at_point, locked⟩
  · intro at_point
    by_contra quiet
    exact told ⟨at_point, quiet⟩

/-- No task is left for a worker that waits. -/
theorem tasks_taken (stuck : ¬canWork allowed config server)
    (may : ∀ worker choice, allowed (.worker worker choice))
    {worker : WorkerId} (bound : worker < config.numWorkers)
    (idle : server.workerThread worker = .idle) : server.tasks = [] := by
  cases queue : server.tasks with
  | nil => rfl
  | cons task rest =>
      exfalso
      apply stuck
      apply canWork_of_worker .take (may _ _) bound trivial
      simp [workerStep, idle, queue]

/-- A poller that cannot go on has returned, waits with nothing to report, or
waits for the mutex. -/
theorem poller_resting (stuck : ¬canWork allowed config server)
    (notices : HangUpNotices server)
    (unblocked : ∀ store, server.closeBlocked config store = false)
    {poller : PollerId}
    (may : ∀ choice, allowed (.poller poller choice))
    (bound : poller < config.numPollers) :
    server.pollerThread poller = .exited ∨
      (server.pollerThread poller = .epollWait ∧
        ∀ connection ∈ server.kernel.watched poller,
          (server.kernel.socket connection).edge = false ∧
            (server.kernel.socket connection).hungUp = false) ∨
      (∃ store rest,
        server.pollerThread poller = .busy .removeSocket store rest) ∧
        server.clientEventStoresMutex ≠ none := by
  by_cases inside : server.pollerThread poller = .exited
  · exact .inl inside
  · right
    by_cases waits : server.pollerThread poller = .epollWait
    · left
      refine ⟨waits, ?_⟩
      intro connection member
      have unmarked :
          (server.kernel.socket connection).edge = false := by
        by_contra edge
        apply stuck
        exact report_canWork may bound waits member
          (Bool.not_eq_false _ ▸ edge)
      refine ⟨unmarked, ?_⟩
      by_contra hung_up
      rcases notices.noticed poller connection member
        (Bool.not_eq_false _ ▸ hung_up) with pending | planned
      · cases unmarked.symm.trans pending
      · rw [waits] at planned
        cases planned
    · right
      by_contra elsewhere
      apply stuck
      apply poller_canWork may bound ?_ unblocked waits inside
      intro store rest at_point
      by_contra locked
      exact elsewhere ⟨⟨store, rest, at_point⟩, locked⟩

/-- So has `stopPolling`. -/
theorem stop_resting (stuck : ¬canWork allowed config server)
    (may : allowed .stop) (defined : ¬server.Undefined config)
    (unblocked : ∀ store, server.closeBlocked config store = false) :
    server.stopThread = .idle ∨ server.stopThread = .returned ∨
      server.stopThread = .lockAll ∧
        server.clientEventStoresMutex ≠ none := by
  by_contra running
  obtain ⟨called, inside⟩ := not_or.mp running
  obtain ⟨unreturned, elsewhere⟩ := not_or.mp inside
  apply stuck
  apply stop_canWork may called unreturned defined ?_ unblocked
  intro at_point
  by_contra locked
  exact elsewhere ⟨at_point, locked⟩

/-- With the mutex held and nothing to do for anybody else, everybody else is
held up. -/
theorem heldUp_of_stuck (reachable : (tcpServer config).Reachable server)
    {holder : Thread}
    (held : server.clientEventStoresMutex = some holder)
    (may : ∀ action : Action, action.thread ≠ some holder → allowed action)
    (stuck : ¬canWork allowed config server)
    (defined : ¬server.Undefined config) : server.HeldUp config holder := by
  have exclusive := mutualExclusion_of_reachable reachable
  have notices := hangUpNotices_of_reachable reachable
  have free_workers : ∀ worker choice, allowed (.worker worker choice) :=
    fun _ _ => may _ (by simp [Action.thread])
  have workers := workers_resting stuck free_workers
  have unblocked :=
    unblocked_of_resting (socketHeld_of_reachable reachable) workers
  constructor
  · exact held
  · intro other
    have accepts := accept_resting stuck
      fun _ => may _ (by simp [Action.thread, Ne.symm other])
    rcases accepts with
      returned | waits | ⟨at_point, -⟩ | ⟨-, store, at_point, -⟩
    · exact .inl returned
    · exact .inr (.inl waits)
    · exact .inr (.inr at_point)
    · -- `SSL_accept` is called with the mutex held
      have mine := exclusive.accept.mpr (by rw [at_point]; rfl)
      cases held.symm.trans mine
      exact absurd rfl other
  · intro poller bound other
    have rests := poller_resting stuck notices unblocked
      (fun _ => may _ (by simp [Action.thread, Ne.symm other])) bound
    rcases rests with returned | waits | ⟨at_point, -⟩
    · exact .inl returned
    · exact .inr (.inl waits)
    · exact .inr (.inr at_point)
  · exact workers
  · intro worker bound idle
    exact tasks_taken stuck free_workers bound idle
  · intro other
    have stops := stop_resting stuck
      (may _ (by simp [Action.thread, Ne.symm other])) defined unblocked
    rcases stops with uncalled | returned | ⟨at_point, -⟩
    · exact .inl uncalled
    · exact .inr (.inl returned)
    · exact .inr (.inr at_point)

end Stuck

/-! ## The whole server -/

section Ends

variable {config : Config} {server : Server}

/-- Where nobody can go on, nobody is inside the mutex but an accept thread in
`SSL_accept`: any other holder could. -/
theorem free_of_stuck (reachable : (tcpServer config).Reachable server)
    (stuck : ¬canWork (fun _ => True) config server)
    (defined : ¬server.Undefined config)
    (answered : ¬server.InSSLAccept config) :
    server.clientEventStoresMutex = none := by
  have exclusive := mutualExclusion_of_reachable reachable
  have workers := workers_resting stuck (fun _ _ => trivial)
  have unblocked :=
    unblocked_of_resting (socketHeld_of_reachable reachable) workers
  cases holder : server.clientEventStoresMutex with
  | none => rfl
  | some thread =>
      exfalso
      cases thread with
      | accept =>
          have inside := exclusive.accept.mp holder
          rcases accept_resting stuck (fun _ => trivial) with
            at_point | ⟨at_point, -⟩ | ⟨at_point, -⟩ | waits
          · rw [at_point] at inside
            cases inside
          · rw [at_point] at inside
            cases inside
          · rw [at_point] at inside
            cases inside
          · exact answered waits
      | poller poller =>
          have inside := (exclusive.poller poller).mp holder
          have bound : poller < config.numPollers := by
            by_contra beyond
            have unmoved := pollerThread_beyond reachable
              (Nat.le_of_not_lt beyond)
            rw [unmoved] at inside
            cases inside
          have rests := poller_resting stuck
            (hangUpNotices_of_reachable reachable) unblocked
            (fun _ => trivial) bound
          rcases rests with
            at_point | ⟨at_point, -⟩ | ⟨⟨store, rest, at_point⟩, -⟩
          · rw [at_point] at inside
            cases inside
          · rw [at_point] at inside
            cases inside
          · rw [at_point] at inside
            cases inside
      | stopper =>
          have inside := exclusive.stopper.mp holder
          rcases stop_resting stuck trivial defined unblocked with
            at_point | at_point | ⟨at_point, -⟩
          · rw [at_point] at inside
            cases inside
          · rw [at_point] at inside
            cases inside
          · rw [at_point] at inside
            cases inside

theorem atRest_of_stuck (reachable : (tcpServer config).Reachable server)
    (stuck : ¬canWork (fun _ => True) config server)
    (defined : ¬server.Undefined config)
    (answered : ¬server.InSSLAccept config) : server.AtRest config := by
  have free := free_of_stuck reachable stuck defined answered
  have workers := workers_resting stuck (fun _ _ => trivial)
  have unblocked :=
    unblocked_of_resting (socketHeld_of_reachable reachable) workers
  constructor
  · rcases accept_resting stuck (fun _ => trivial) with
      returned | waits | ⟨-, locked⟩ | waits
    · exact .inl returned
    · exact .inr waits
    · exact absurd free locked
    · exact absurd waits answered
  · intro poller bound
    have rests := poller_resting stuck
      (hangUpNotices_of_reachable reachable) unblocked (fun _ => trivial)
      bound
    rcases rests with returned | waits | ⟨-, locked⟩
    · exact .inl returned
    · exact .inr waits
    · exact absurd free locked
  · exact workers
  · intro worker bound idle
    exact tasks_taken stuck (fun _ _ => trivial) bound idle
  · rcases stop_resting stuck trivial defined unblocked with
      uncalled | returned | ⟨-, locked⟩
    · exact .inl uncalled
    · exact .inr returned
    · exact absurd free locked
  · exact free

/-- A reachable state is at one of the ends, or some thread can take a
step. -/
theorem outcome_or_canWork (reachable : (tcpServer config).Reachable server) :
    server.Outcome config ∨
      ∃ action after, working config server action ∧
        (tcpServer config).step server action = some after := by
  by_contra neither
  obtain ⟨busy, none_works⟩ := not_or.mp neither
  have stuck : ¬canWork (fun _ => True) config server := by
    rintro ⟨action, after, ⟨-, works⟩, taken⟩
    exact none_works ⟨action, after, works, taken⟩
  have defined : ¬server.Undefined config :=
    fun calls => busy (.undefined calls)
  have answered : ¬server.InSSLAccept config := by
    intro waits
    have exclusive := mutualExclusion_of_reachable reachable
    obtain ⟨-, store, at_point, -⟩ := id waits
    have held := exclusive.accept.mpr (by rw [at_point]; rfl)
    exact busy (.handshaking waits
      (heldUp_of_stuck reachable held (fun _ _ => trivial) stuck defined))
  exact busy (.atRest (atRest_of_stuck reachable stuck defined answered))

end Ends

end EventPlus

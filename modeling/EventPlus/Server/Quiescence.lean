/-
Module: EventPlus.Server.Quiescence
Purpose: What the pollers and the accept thread still do after `stopPolling`
  has returned, by where they were when it returned.
Trusted boundary: none
Main exports:
  Quiescent, Server.Settled, Stopped, Stopped.step,
  quiescent_iff_settled, hangUp_after_stop
-/
import Mathlib.Data.Set.Finite.Basic
import EventPlus.Server.Ownership
import EventPlus.Server.TableStep
import EventPlus.Server.WorkerCalls

namespace EventPlus

open Function (update)
open TransitionSystem (CanReach)

/-! ## Quiescence, and the states that bring it about -/

/-- The store the accept thread's next line dereferences. -/
def AcceptPoint.dereferences : AcceptPoint → Option ConnectionId
  | .admitting .initConnection store | .admitting .addSocket store
  | .admitting (.backPointer _) store => some store
  | _ => none

/-- The store a poller's next line dereferences.  The lines of `removeSocket`
after `closeConnection` use the pointer and the copied number only. -/
def PollerPoint.dereferences : PollerPoint → Option ConnectionId
  | .busy .handleEvent store _ | .busy .setClosed store _
  | .busy .epollDel store _ | .busy .closeConnection store _ => some store
  | _ => none

/-- Since `stopPolling` returned in the state `after`, no task has been
enqueued and no store inserted, and no poller is about to dereference one of
the stores `swept` that `closeAllClientSocket` destroyed. -/
structure Quiescent (config : Config) (swept : List ConnectionId)
    (after last : Server) : Prop where
  enqueued : last.enqueued = after.enqueued
  absent : ∀ fd, last.find fd = none
  accept : ∀ store ∈ last.acceptThread.dereferences, store ∉ swept
  pollers : ∀ poller < config.numPollers,
    ∀ store ∈ (last.pollerThread poller).dereferences, store ∉ swept

/-- A poller that is not at work on an entry and has no `EPOLLRDHUP` entry
left in its batch.  The other entries are dropped by `handleEvent`, which
tests `m_continuePolling` again. -/
def PollerPoint.settled : PollerPoint → Bool
  | .loop | .epollWait | .exited => true
  | .batch rest => rest.all fun entry => !entry.epollRdhup
  | .busy _ _ _ => false

/-- Where the other threads are when `stopPolling` returns: every poller has
settled; no `epoll_wait` entered before its epoll was closed can still report a
connection; and the accept thread does not wait for `clientEventStoresMutex`
with the listening socket still open. -/
structure Server.Settled (config : Config) (server : Server) : Prop where
  pollers : ∀ poller < config.numPollers,
    (server.pollerThread poller).settled = true
  waits : ∀ poller < config.numPollers,
    server.pollerThread poller = .epollWait →
      server.kernel.inFlight poller = []
  accept : server.acceptThread = .lock →
    server.kernel.file config.listenFd ≠ some .listening

/-! ## A settled server stays quiet -/

/-- The accept thread has nothing to accept any more. -/
def AcceptPoint.harmless (closed : Prop) : AcceptPoint → Prop
  | .loop | .epollWait | .handleEvent | .exited => True
  | .lock | .accept | .unlock => closed
  | .admitting _ _ => False

theorem AcceptPoint.harmless_mono {first second : Prop}
    (implies : first → second) {point : AcceptPoint}
    (harmless : point.harmless first) : point.harmless second := by
  cases point with
  | admitting stage store => exact harmless
  | lock => exact implies harmless
  | accept => exact implies harmless
  | unlock => exact implies harmless
  | _ => trivial

/-- What holds from the return of `stopPolling` on, in a server that had
settled.  Later calls of `stopPolling` keep it too. -/
structure Stopped (config : Config) (enqueued : List IOTask)
    (server : Server) : Prop where
  enqueued : server.enqueued = enqueued
  absent : ∀ fd, server.find fd = none
  accepting : server.continueAccepting = false
  polling : ∀ poller < config.numPollers,
    server.continuePolling poller = false
  epolls : ∀ poller < config.numPollers,
    server.kernel.epollOpen poller = false
  inFlight : ∀ poller < config.numPollers,
    server.kernel.inFlight poller = []
  pollers : ∀ poller < config.numPollers,
    (server.pollerThread poller).settled = true
  accept : server.acceptThread.harmless
    (server.kernel.file config.listenFd ≠ some .listening)

namespace Stopped

theorem quiescent {config : Config} {after last : Server}
    (stopped : Stopped config after.enqueued last)
    (swept : List ConnectionId) : Quiescent config swept after last where
  enqueued := stopped.enqueued
  absent := stopped.absent
  accept := by
    have harmless := stopped.accept
    intro store dereferenced
    cases point : last.acceptThread with
    | admitting stage other =>
        rw [point] at harmless
        exact harmless.elim
    | _ =>
        rw [point] at dereferenced
        cases dereferenced
  pollers := by
    intro poller bound store dereferenced
    have settled := stopped.pollers poller bound
    cases point : last.pollerThread poller with
    | busy stage other rest =>
        rw [point] at settled
        cases settled
    | _ =>
        rw [point] at dereferenced
        cases dereferenced

end Stopped

/-- A poller whose `m_continuePolling` is cleared drops an entry without
`EPOLLRDHUP`. -/
theorem pollerStep_skip {config : Config} {server : Server}
    {poller : PollerId} {entry : EpollEvent} {rest : List EpollEvent}
    (at_point : server.pollerThread poller = .batch (entry :: rest))
    (flag : entry.epollRdhup = false)
    (cleared : server.continuePolling poller = false) :
    pollerStep config server poller .proceed =
      some (server.setPoller poller (.batch rest)) := by
  simp [pollerStep, at_point, flag, cleared]

/-- A call that kept nothing returns without a trace. -/
theorem Kernel.epollReturns_of_empty {kernel : Kernel} {poller : PollerId}
    (empty : kernel.inFlight poller = []) :
    kernel.epollReturns poller = kernel := by
  rw [Kernel.epollReturns, ← empty, Function.update_eq_self]

/-- A settled poller that watches nothing stays settled, and changes nothing
else. -/
theorem settled_pollerStep {config : Config} {before after : Server}
    {poller : PollerId} {choice : PollerChoice}
    (settled : (before.pollerThread poller).settled = true)
    (cleared : before.continuePolling poller = false)
    (unregistered : before.kernel.registered poller = [])
    (empty : before.kernel.inFlight poller = [])
    (taken : pollerStep config before poller choice = some after) :
    ∃ point, point.settled = true ∧ after = before.setPoller poller point := by
  have idle : ∀ stage store rest,
      before.pollerThread poller ≠ .busy stage store rest := by
    intro stage store rest at_point
    rw [at_point] at settled
    cases settled
  cases pollerStep_of_some taken with
  | loop at_point =>
      refine ⟨_, ?_, rfl⟩
      split <;> rfl
  | report reported entries kernel at_point waited =>
      obtain ⟨-, -, subset, -⟩ := Kernel.epollWait_spec waited
      unfold Kernel.epollWait at waited
      split at waited
      · rename_i guard
        obtain ⟨first, member⟩ := List.exists_mem_of_ne_nil _ guard.1
        have watched := subset first member
        rw [Kernel.watched, unregistered, empty] at watched
        cases watched
      · cases waited
  | timeout at_point =>
      refine ⟨.loop, rfl, ?_⟩
      rw [Kernel.epollReturns_of_empty empty]
  | batchDone at_point => exact ⟨.loop, rfl, rfl⟩
  | hangUp entry rest at_point flag =>
      rw [at_point] at settled
      simp [PollerPoint.settled, flag] at settled
  | data entry rest at_point flag =>
      rw [pollerStep_skip at_point flag cleared] at taken
      rw [at_point] at settled
      refine ⟨.batch rest, ?_, (Option.some.inj taken).symm⟩
      simp only [PollerPoint.settled, List.all_cons, Bool.and_eq_true]
        at settled
      exact settled.2
  | skipped entry rest at_point =>
      rw [at_point] at settled
      refine ⟨.batch rest, ?_, rfl⟩
      simp only [PollerPoint.settled, List.all_cons, Bool.and_eq_true]
        at settled
      exact settled.2
  | _ => exact absurd ‹before.pollerThread poller = .busy _ _ _› (idle _ _ _)

/-- The last line of `stopPolling` releases the mutex. -/
theorem step_unlock (config : Config) {server : Server}
    (at_unlock : server.stopThread = .unlock) :
    (tcpServer config).step server .stop =
      some
        { server with
            clientEventStoresMutex := none
            stopThread := .returned } := by
  change stopStep config server = _
  simp only [stopStep, at_unlock]

theorem return_of_unlock {config : Config} {server after : Server}
    (at_unlock : server.stopThread = .unlock)
    (returns : (tcpServer config).step server .stop = some after) :
    after =
      { server with
          clientEventStoresMutex := none
          stopThread := .returned } :=
  Option.some.inj (returns.symm.trans (step_unlock config at_unlock))

namespace Stopped

variable {config : Config} {enqueued : List IOTask} {before after : Server}

/-- Steps that leave the pollers and the accept thread where they are. -/
theorem congr (stopped : Stopped config enqueued before)
    (same_enqueued : after.enqueued = before.enqueued)
    (absent : ∀ fd, before.find fd = none → after.find fd = none)
    (accepting : after.continueAccepting = before.continueAccepting)
    (polling : ∀ poller, before.continuePolling poller = false →
      after.continuePolling poller = false)
    (epolls : ∀ poller, before.kernel.epollOpen poller = false →
      after.kernel.epollOpen poller = false)
    (inFlight : ∀ poller, before.kernel.inFlight poller = [] →
      after.kernel.inFlight poller = [])
    (pollers : after.pollerThread = before.pollerThread)
    (accept : after.acceptThread = before.acceptThread)
    (listens : after.kernel.file config.listenFd = some .listening →
      before.kernel.file config.listenFd = some .listening) :
    Stopped config enqueued after where
  enqueued := same_enqueued.trans stopped.enqueued
  absent := fun fd => absent fd (stopped.absent fd)
  accepting := accepting.trans stopped.accepting
  polling := fun poller bound => polling poller (stopped.polling poller bound)
  epolls := fun poller bound => epolls poller (stopped.epolls poller bound)
  inFlight := fun poller bound =>
    inFlight poller (stopped.inFlight poller bound)
  pollers := by
    rw [pollers]
    exact stopped.pollers
  accept := by
    rw [accept]
    exact AcceptPoint.harmless_mono (mt listens) stopped.accept

theorem moveAccept (stopped : Stopped config enqueued before)
    (point : AcceptPoint)
    (harmless : point.harmless
      (before.kernel.file config.listenFd ≠ some .listening)) :
    Stopped config enqueued { before with acceptThread := point } :=
  { stopped with accept := harmless }

/-- Without the listening socket there is nothing to accept. -/
theorem no_accept (stopped : Stopped config enqueued before)
    (listening : ListeningSocket config.listenFd before.kernel)
    (at_point : before.acceptThread = .accept) {fd : Fd}
    {connection : ConnectionId} {kernel : Kernel} :
    before.kernel.accept fd connection ≠ some kernel := by
  intro got
  have closed := stopped.accept
  rw [at_point] at closed
  have empty := listening.backlog closed
  simp [Kernel.accept, empty] at got

theorem acceptStep {choice : AcceptChoice}
    (stopped : Stopped config enqueued before)
    (listening : ListeningSocket config.listenFd before.kernel)
    (taken : AcceptStep config before choice after) :
    Stopped config enqueued after := by
  have outside : ∀ stage store,
      before.acceptThread ≠ .admitting stage store := by
    intro stage store at_point
    have harmless := stopped.accept
    rw [at_point] at harmless
    exact harmless
  have harmless := stopped.accept
  cases taken with
  | loop at_point =>
      apply stopped.moveAccept
      split <;> trivial
  | report at_point =>
      exact { stopped.moveAccept .handleEvent trivial with }
  | timeout at_point => exact stopped.moveAccept .loop trivial
  | handleEvent at_point =>
      apply stopped.moveAccept
      rw [stopped.accepting]
      trivial
  | lock at_point free =>
      rw [at_point] at harmless
      exact { stopped.moveAccept .accept harmless with }
  | acceptFailed lost at_point =>
      rw [at_point] at harmless
      exact { stopped.moveAccept .unlock harmless with }
  | accepted fd ssl kernel at_point got =>
      exact absurd got (stopped.no_accept listening at_point)
  | ntopFailed fd ssl kernel at_point got =>
      exact absurd got (stopped.no_accept listening at_point)
  | unlock at_point =>
      exact { stopped.moveAccept .loop trivial with }
  | _ =>
      exact absurd ‹before.acceptThread = .admitting _ _› (outside _ _)

theorem pollerStep {poller : PollerId} {choice : PollerChoice}
    (stopped : Stopped config enqueued before)
    (progress : StopProgress config before)
    (bound : poller < config.numPollers)
    (taken : EventPlus.pollerStep config before poller choice = some after) :
    Stopped config enqueued after := by
  obtain ⟨point, settled, rfl⟩ :=
    settled_pollerStep (stopped.pollers poller bound)
      (stopped.polling poller bound)
      (progress.unregistered poller (stopped.epolls poller bound))
      (stopped.inFlight poller bound) taken
  have pollers : ∀ other < config.numPollers,
      (update before.pollerThread poller point other).settled = true := by
    intro other below
    by_cases same : other = poller
    · rw [same, Function.update_self]
      exact settled
    · rw [Function.update_of_ne same]
      exact stopped.pollers other below
  exact { stopped with pollers := pollers }

/-- Arrivals and the pool workers touch none of it. -/
theorem otherStep {action : Action} (stopped : Stopped config enqueued before)
    (taken : (tcpServer config).step before action = some after)
    (other : beforeShutdown before action)
    (enqueues : after.enqueued = before.enqueued)
    (pollers : after.pollerThread = before.pollerThread)
    (accept : after.acceptThread = before.acceptThread) :
    Stopped config enqueued after := by
  have moved := serverStep_of_step taken
  have flags := StopFlags.serverStep moved other
  have outside : ∀ store, before.acceptThread ≠ .admitting .insert store := by
    intro store at_point
    have harmless := stopped.accept
    rw [at_point] at harmless
    exact harmless
  apply stopped.congr
  · exact enqueues
  · intro fd absent
    exact find_of_other moved other outside absent
  · exact flags.continueAccepting
  · rw [flags.continuePolling]
    exact fun _ => id
  · rw [flags.epollOpen]
    exact fun _ => id
  · exact fun poller => flags.inFlight_of_empty
  · exact pollers
  · exact accept
  · exact listening_of_step taken

omit config enqueued before after in
/-- A cleared flag stays cleared when another one is. -/
theorem update_false {flags : PollerId → Bool} {poller other : PollerId}
    (cleared : flags other = false) :
    update flags poller false other = false := by
  by_cases same : other = poller
  · rw [same]
    exact Function.update_self _ _ _
  · rw [Function.update_of_ne same]
    exact cleared

/-- A later `stopPolling` finds nothing left to do. -/
theorem stopLine (stopped : Stopped config enqueued before)
    (progress : StopProgress config before)
    (taken : StopLine config before after)
    (step : (tcpServer config).step before .stop = some after) :
    Stopped config enqueued after := by
  cases taken with
  | closeListening closed at_point closes =>
      have listens := @listening_of_step _ _ _ _ step config.listenFd
      rcases Server.closeListening_cases closes with result | result
      · rw [result]
        exact { stopped with }
      · rw [result] at listens ⊢
        refine stopped.congr rfl (fun _ => id) rfl (fun _ => id) ?_ ?_ rfl rfl
          listens
        · intro poller closed
          exact (congrFun (Kernel.close_epollOpen _ _) poller).trans closed
        · intro poller empty
          exact List.sublist_nil.mp (empty ▸ Kernel.close_inFlight _ _ poller)
  | stopAccepting at_point => exact { stopped with accepting := rfl }
  | stopPoller poller at_point bound =>
      have polling : ∀ other < config.numPollers,
          update before.continuePolling poller false other = false :=
        fun other below => update_false (stopped.polling other below)
      exact { stopped with polling := polling }
  | closePollerEpoll poller at_point =>
      have epolls : ∀ other < config.numPollers,
          update before.kernel.epollOpen poller false other = false :=
        fun other below => update_false (stopped.epolls other below)
      have inFlight : ∀ other < config.numPollers,
          (before.kernel.closeEpoll poller
            (decide (before.pollerThread poller = .epollWait))).inFlight
              other = [] := by
        intro other below
        apply List.sublist_nil.mp
        rw [← stopped.inFlight other below]
        exact Kernel.closeEpoll_inFlight _
          (progress.unregistered other (stopped.epolls other below))
      exact { stopped with epolls := epolls, inFlight := inFlight }
  | closing store rest at_point =>
      have flags := StopFlags.closeConnection config before store
      have listens := @listening_of_step _ _ _ _ step config.listenFd
      obtain ⟨_, _, _, result⟩ := before.closeConnection_frame config store
      rw [result] at flags listens ⊢
      refine stopped.congr rfl (fun _ => id) rfl (fun _ => id) ?_ ?_ rfl rfl
        listens
      · intro poller closed
        exact (congrFun flags.epollOpen poller).trans closed
      · exact fun poller => flags.inFlight_of_empty
  | clear at_point =>
      exact { stopped with absent := before.find_clearStores }
  | _ => exact { stopped with }

/-- Every step keeps it. -/
theorem step {action : Action} (stopped : Stopped config enqueued before)
    (reachable : (tcpServer config).Reachable before)
    (taken : (tcpServer config).step before action = some after) :
    Stopped config enqueued after := by
  have moved := serverStep_of_step taken
  cases moved with
  | network arrival =>
      apply stopped.otherStep taken
      · cases arrival <;> trivial
      · cases arrival <;> rfl
      · cases arrival <;> rfl
      · cases arrival <;> rfl
  | accept choice line =>
      exact stopped.acceptStep (listeningSocket_of_reachable reachable) line
  | poller poller choice bound line =>
      apply stopped.pollerStep (stopProgress_of_reachable reachable) bound
      change (if _ then _ else none) = _ at taken
      rw [if_pos bound] at taken
      exact taken
  | worker worker choice bound line =>
      apply stopped.otherStep taken trivial
      · cases line with
        | close task at_point may_close =>
            obtain ⟨_, _, _, result⟩ :=
              before.closeConnection_frame config task.eventStorePointer
            rw [result]
        | _ => rfl
      · exact pollerThread_of_step (serverStep_of_step taken) (by simp)
      · exact acceptThread_of_step (serverStep_of_step taken) (by simp)
  | stop line =>
      exact stopped.stopLine (stopProgress_of_reachable reachable)
        (stopLine_of_some taken) taken

/-- The return of `stopPolling` in a settled server. -/
theorem of_settled {server : Server}
    (reachable : (tcpServer config).Reachable server)
    (at_unlock : server.stopThread = .unlock)
    (settled : server.Settled config)
    (returns : (tcpServer config).step server .stop = some after) :
    Stopped config after.enqueued after := by
  have progress := stopProgress_of_reachable reachable
  have outside : server.acceptThread.critical = false :=
    (mutualExclusion_of_reachable reachable).stopper_excludes_accept
      (by rw [at_unlock]; rfl)
  have polling := progress.polling
  have epolls := progress.epolls
  rw [at_unlock] at polling epolls
  cases return_of_unlock at_unlock returns
  exact
    { enqueued := rfl
      absent := progress.cleared at_unlock
      accepting := progress.accepting (by rw [at_unlock]; rfl)
      polling := polling
      epolls := epolls
      inFlight := by
        intro poller bound
        by_cases at_wait : server.pollerThread poller = .epollWait
        · exact settled.waits poller bound at_wait
        · exact inFlightWaits_of_reachable reachable poller at_wait
      pollers := settled.pollers
      accept := by
        have closed := settled.accept
        change AcceptPoint.harmless _ server.acceptThread
        cases point : server.acceptThread with
        | lock => exact closed point
        | accept =>
            rw [point] at outside
            cases outside
        | admitting stage store =>
            rw [point] at outside
            cases outside
        | unlock =>
            rw [point] at outside
            cases outside
        | _ => trivial }

end Stopped

/-! ## What an unsettled server still does -/

section Unsettled

variable {config : Config} {server : Server}

theorem step_poller {poller : PollerId} {choice : PollerChoice}
    (bound : poller < config.numPollers) :
    (tcpServer config).step server (.poller poller choice) =
      pollerStep config server poller choice :=
  if_pos bound

/-- Some run from here enqueues a task. -/
abbrev Enqueues (config : Config) (server : Server) : Prop :=
  (tcpServer config).CanReach
    (fun last => last.enqueued ≠ server.enqueued) server

/-- A step that enqueues nothing may come first. -/
theorem Enqueues.step {after : Server} {action : Action}
    (taken : (tcpServer config).step server action = some after)
    (same : after.enqueued = server.enqueued)
    (enqueues : Enqueues config after) : Enqueues config server := by
  apply CanReach.step taken
  rw [← same]
  exact enqueues

theorem Enqueues.now {after : Server} {action : Action} {task : IOTask}
    (taken : (tcpServer config).step server action = some after)
    (enqueued : after.enqueued = server.enqueued ++ [task]) :
    Enqueues config server := by
  apply CanReach.step taken
  apply CanReach.now
  rw [enqueued]
  simp

variable {poller : PollerId} {store : ConnectionId} {rest : List EpollEvent}

theorem enqueues_of_enqueue (bound : poller < config.numPollers)
    (at_point : server.pollerThread poller = .busy .enqueue store rest) :
    Enqueues config server := by
  have taken : (tcpServer config).step server (.poller poller .proceed) =
      some
        ((server.enqueueTask
            { eventStorePointer := store, origin := .removal }).setPoller
          poller (.busy .erase store rest)) := by
    rw [step_poller bound]
    simp [pollerStep, at_point]
  exact Enqueues.now taken rfl

/-- Once `m_socketMutex` is free, `closeConnection` returns. -/
theorem enqueues_of_unblocked (bound : poller < config.numPollers)
    (at_point :
      server.pollerThread poller = .busy .closeConnection store rest)
    (unblocked : server.closeBlocked config store = false) :
    Enqueues config server := by
  have taken : (tcpServer config).step server (.poller poller .proceed) =
      some
        ((server.closeConnection config store).setPoller poller
          (.busy .enqueue store rest)) := by
    rw [step_poller bound]
    simp [pollerStep, at_point, unblocked]
  have same : (server.closeConnection config store).enqueued =
      server.enqueued := by
    obtain ⟨_, _, _, result⟩ := server.closeConnection_frame config store
    rw [result]
  apply Enqueues.step taken same
  exact enqueues_of_enqueue bound (Function.update_self _ _ _)

theorem enqueues_of_closeConnection
    (reachable : (tcpServer config).Reachable server)
    (bound : poller < config.numPollers)
    (at_point :
      server.pollerThread poller = .busy .closeConnection store rest) :
    Enqueues config server := by
  cases blocked : server.closeBlocked config store with
  | false => exact enqueues_of_unblocked bound at_point blocked
  | true =>
      obtain ⟨worker, after, taken, unblocked, mutexes, threads, result⟩ :=
        unblocks (socketHeld_of_reachable reachable) blocked
      have same : after.enqueued = server.enqueued := by rw [result]
      have stays : after.pollerThread = server.pollerThread := by rw [result]
      apply Enqueues.step taken same
      have still : after.pollerThread poller =
          .busy .closeConnection store rest :=
        (congrFun stays poller).trans at_point
      exact enqueues_of_unblocked bound still unblocked

theorem enqueues_of_epollDel
    (reachable : (tcpServer config).Reachable server)
    (bound : poller < config.numPollers)
    (at_point : server.pollerThread poller = .busy .epollDel store rest) :
    Enqueues config server := by
  cases handler_eq : (server.store store).socketEventHandler with
  | none =>
      have taken : (tcpServer config).step server (.poller poller .proceed) =
          some (server.setPoller poller (.busy .enqueue store rest)) := by
        rw [step_poller bound]
        simp [pollerStep, at_point, handler_eq]
      apply Enqueues.step taken rfl
      exact enqueues_of_enqueue bound (Function.update_self _ _ _)
  | some handler =>
      have taken : (tcpServer config).step server (.poller poller .proceed) =
          some
            ({ server.record
                (.epollDel store handler
                  (server.kernel.canDelete handler (server.fd store))) with
                kernel :=
                  server.kernel.epollCtlDel handler
                    (server.fd store) }.setPoller
              poller (.busy .closeConnection store rest)) := by
        rw [step_poller bound]
        simp [pollerStep, at_point, handler_eq]
      apply Enqueues.step taken rfl
      exact enqueues_of_closeConnection (.step reachable trivial taken) bound
        (Function.update_self _ _ _)

/-- `removeSocket` takes no notice of `m_continuePolling`. -/
theorem enqueues_of_removeSocket
    (reachable : (tcpServer config).Reachable server)
    (free : server.clientEventStoresMutex = none)
    (bound : poller < config.numPollers)
    (at_point :
      server.pollerThread poller = .busy .removeSocket store rest) :
    Enqueues config server := by
  have locks : (tcpServer config).step server (.poller poller .proceed) =
      some
        ({ server with
            clientEventStoresMutex := some (.poller poller) }.setPoller
          poller (.busy .setClosed store rest)) := by
    rw [step_poller bound]
    simp [pollerStep, at_point, free]
  have locked : (tcpServer config).Reachable
      ({ server with
          clientEventStoresMutex := some (.poller poller) }.setPoller
        poller (.busy .setClosed store rest)) :=
    .step reachable trivial locks
  have closes : (tcpServer config).step
      ({ server with
          clientEventStoresMutex := some (.poller poller) }.setPoller
        poller (.busy .setClosed store rest)) (.poller poller .proceed) =
      some
        ((({ server with
            clientEventStoresMutex := some (.poller poller) }.setPoller
          poller (.busy .setClosed store rest)).setEventType store
            .closedConnection).setPoller poller
          (.busy .epollDel store rest)) := by
    rw [step_poller bound]
    simp [pollerStep, Server.setPoller]
  apply Enqueues.step locks rfl
  apply Enqueues.step closes rfl
  exact enqueues_of_epollDel (.step locked trivial closes) bound
    (Function.update_self _ _ _)

theorem enqueues_of_dispatch (bound : poller < config.numPollers)
    (at_point : server.pollerThread poller = .busy .dispatch store rest) :
    Enqueues config server := by
  have taken : (tcpServer config).step server (.poller poller .proceed) =
      some
        ({ server.enqueueTask
              { eventStorePointer := store, origin := .data } with
            offered :=
              update server.offered store
                (server.kernel.socket store).arrived }.setPoller
          poller (.batch rest)) := by
    rw [step_poller bound]
    simp [pollerStep, at_point]
  exact Enqueues.now taken rfl

/-- Past its test of `m_continuePolling`, `handleEvent` goes through. -/
theorem enqueues_of_handleEvent (bound : poller < config.numPollers)
    (at_point : server.pollerThread poller = .busy .handleEvent store rest) :
    Enqueues config server := by
  have taken : (tcpServer config).step server (.poller poller .proceed) =
      some
        ((server.setEventType store .incomingData).setPoller poller
          (.busy .dispatch store rest)) := by
    rw [step_poller bound]
    simp [pollerStep, at_point]
  apply Enqueues.step taken rfl
  exact enqueues_of_dispatch bound (Function.update_self _ _ _)

/-- The batch loop drops its entries up to the first one with `EPOLLRDHUP`, by
induction on the entries left. -/
theorem enqueues_of_batch
    (reachable : (tcpServer config).Reachable server)
    (free : server.clientEventStoresMutex = none)
    (cleared : server.continuePolling poller = false)
    (bound : poller < config.numPollers)
    (at_point : server.pollerThread poller = .batch rest)
    (hungUp : (PollerPoint.batch rest).settled = false) :
    Enqueues config server := by
  induction rest generalizing server with
  | nil => cases hungUp
  | cons entry later inductionHypothesis =>
      cases flag : entry.epollRdhup with
      | true =>
          have taken :
              (tcpServer config).step server (.poller poller .proceed) =
                some
                  (server.setPoller poller
                    (.busy .removeSocket entry.store later)) := by
            rw [step_poller bound]
            simp [pollerStep, at_point, flag]
          apply Enqueues.step taken rfl
          exact enqueues_of_removeSocket (.step reachable trivial taken) free
            bound (Function.update_self _ _ _)
      | false =>
          have taken :
              (tcpServer config).step server (.poller poller .proceed) =
                some (server.setPoller poller (.batch later)) := by
            rw [step_poller bound]
            exact pollerStep_skip at_point flag cleared
          have remains : (PollerPoint.batch later).settled = false := by
            simpa [PollerPoint.settled, flag] using hungUp
          apply Enqueues.step taken rfl
          exact inductionHypothesis (.step reachable trivial taken) free
            cleared (Function.update_self _ _ _) remains

/-- An `epoll_wait` under way reports the hang-up of a connection it still
watches, and its poller removes the connection. -/
theorem enqueues_of_inFlight
    (reachable : (tcpServer config).Reachable server)
    (free : server.clientEventStoresMutex = none)
    (cleared : server.continuePolling poller = false)
    (bound : poller < config.numPollers)
    (at_point : server.pollerThread poller = .epollWait)
    (kept : server.kernel.inFlight poller ≠ []) :
    Enqueues config server := by
  obtain ⟨connection, member⟩ := List.exists_mem_of_ne_nil _ kept
  have ends : (tcpServer config).step server
      (.hangUp connection .halfClose) =
      some
        { server with
            kernel := server.kernel.hangUp connection .halfClose } := rfl
  have watches : connection ∈
      (server.kernel.hangUp connection .halfClose).watched poller :=
    Kernel.mem_watched.mpr (.inr member)
  obtain ⟨kernel, waited⟩ := Kernel.epollWait_single watches
  have reports : (tcpServer config).step
      { server with kernel := server.kernel.hangUp connection .halfClose }
      (.poller poller (.report [connection])) =
      some
        ({ server with kernel := kernel }.setPoller poller
          (.batch
            [(server.kernel.hangUp connection .halfClose).event
              connection])) := by
    rw [step_poller bound]
    simp [pollerStep, at_point, waited]
  apply Enqueues.step ends rfl
  apply Enqueues.step reports rfl
  apply enqueues_of_batch (.step (.step reachable trivial ends) trivial reports)
    free cleared bound (Function.update_self _ _ _)
  simp [PollerPoint.settled, Kernel.event, Kernel.hangUp]

/-- A poller that has not settled goes on to enqueue a task. -/
theorem enqueues_of_unsettled
    (reachable : (tcpServer config).Reachable server)
    (free : server.clientEventStoresMutex = none)
    (cleared : server.continuePolling poller = false)
    (bound : poller < config.numPollers)
    (unsettled : (server.pollerThread poller).settled = false) :
    Enqueues config server := by
  have outside : (server.pollerThread poller).critical = false :=
    ((mutualExclusion_of_reachable reachable).of_free free).2.1 poller
  cases at_point : server.pollerThread poller with
  | batch rest =>
      rw [at_point] at unsettled
      exact enqueues_of_batch reachable free cleared bound at_point unsettled
  | busy stage store rest =>
      cases stage with
      | handleEvent => exact enqueues_of_handleEvent bound at_point
      | dispatch => exact enqueues_of_dispatch bound at_point
      | removeSocket =>
          exact enqueues_of_removeSocket reachable free bound at_point
      | _ =>
          rw [at_point] at outside
          cases outside
  | _ =>
      rw [at_point] at unsettled
      cases unsettled

/-! ### The accept in progress -/

/-- Only finitely many numbers are open. -/
theorem finite_open (reachable : (tcpServer config).Reachable server) :
    {fd | server.kernel.file fd ≠ none}.Finite := by
  refine TransitionSystem.Reachable.invariant ?_ ?_ reachable
  · intro state initially
    cases initially
    have few : (insert config.listenFd {fd | fd ∈ config.otherFds} :
        Set Fd).Finite :=
      (List.finite_toSet config.otherFds).insert config.listenFd
    apply few.subset
    intro fd opened
    by_contra absent
    simp only [Set.mem_insert_iff, Set.mem_ofPred_eq, not_or] at absent
    apply opened
    simp [Server.start, absent.1, absent.2]
  · intro before action after _ taken finite
    obtain ⟨number, only⟩ := file_of_step taken
    apply (finite.insert number).subset
    intro fd opened
    obtain ⟨file, denotes⟩ := Option.ne_none_iff_exists'.mp opened
    rcases only fd file denotes with earlier | ⟨same, -⟩
    · right
      change before.kernel.file fd ≠ none
      simp [earlier]
    · exact .inl same

theorem exists_unused (reachable : (tcpServer config).Reachable server) :
    ∃ fd, server.kernel.file fd = none := by
  obtain ⟨fd, unused⟩ := (finite_open reachable).exists_notMem
  exact ⟨fd, not_not.mp unused⟩

/-- Some run from here puts a store into the map. -/
abbrev Inserts (config : Config) (server : Server) : Prop :=
  (tcpServer config).CanReach (fun last => ∃ fd, last.find fd ≠ none) server

theorem inserts_of_insert {store : ConnectionId}
    (at_point : server.acceptThread = .admitting .insert store) :
    Inserts config server := by
  have taken : (tcpServer config).step server (.accept .proceed) =
      some
        { server.insertStore store with
            acceptThread := .admitting .enqueue store } := by
    change acceptStep config server .proceed = _
    simp [acceptStep, at_point]
  apply CanReach.step taken
  apply CanReach.now
  refine ⟨server.fd store, ?_⟩
  change (server.insertStore store).find (server.fd store) ≠ none
  rw [Server.find_insertStore, if_pos rfl]
  simp

theorem inserts_of_addSocket {store : ConnectionId}
    (at_point : server.acceptThread = .admitting .addSocket store) :
    Inserts config server := by
  have taken : (tcpServer config).step server (.accept (.epollCtl false)) =
      some
        { server with
            currentIndex := server.nextIndex config
            acceptThread := .admitting .insert store } := by
    change acceptStep config server (.epollCtl false) = _
    simp [acceptStep, at_point, Server.registerSocket]
  exact CanReach.step taken (inserts_of_insert rfl)

theorem inserts_of_initConnection {store : ConnectionId}
    (at_point : server.acceptThread = .admitting .initConnection store) :
    Inserts config server := by
  have taken : (tcpServer config).step server (.accept (.handshake default)) =
      some
        { server.initConnection config store default with
            acceptThread := .admitting .addSocket store } := by
    change acceptStep config server (.handshake default) = _
    simp [acceptStep, at_point]
  exact CanReach.step taken (inserts_of_addSocket rfl)

theorem inserts_of_accept (reachable : (tcpServer config).Reachable server)
    (at_point : server.acceptThread = .accept)
    (waiting : 0 < server.kernel.backlog) : Inserts config server := by
  obtain ⟨fd, unused⟩ := exists_unused reachable
  have got : server.kernel.accept fd server.accepted =
      some
        { server.kernel with
            file :=
              update server.kernel.file fd (some (.client server.accepted))
            backlog := server.kernel.backlog - 1 } :=
    if_pos ⟨waiting, unused⟩
  have taken :
      (tcpServer config).step server (.accept (.accepted fd true .null)) =
        some
          { server.makeStore
                { server.kernel with
                    file :=
                      update server.kernel.file fd
                        (some (.client server.accepted))
                    backlog := server.kernel.backlog - 1 }
                fd .null with
              acceptThread := .admitting .initConnection server.accepted } := by
    change acceptStep config server (.accepted fd true .null) = _
    simp [acceptStep, at_point, got]
  exact CanReach.step taken (inserts_of_initConnection rfl)

/-- An accept that waits for the mutex takes it and finds a client, if one
comes in. -/
theorem inserts_of_lock (reachable : (tcpServer config).Reachable server)
    (free : server.clientEventStoresMutex = none)
    (at_point : server.acceptThread = .lock)
    (listens : server.kernel.file config.listenFd = some .listening) :
    Inserts config server := by
  have arrives : (tcpServer config).step server .connect =
      some { server with kernel := server.kernel.connect } :=
    if_pos listens
  have locks : (tcpServer config).step
      { server with kernel := server.kernel.connect } (.accept .proceed) =
      some
        { server with
            kernel := server.kernel.connect
            clientEventStoresMutex := some .accept
            acceptThread := .accept } := by
    change acceptStep config _ .proceed = _
    simp [acceptStep, at_point, free]
  apply CanReach.step arrives
  apply CanReach.step locks
  apply inserts_of_accept
    (.step (.step reachable trivial arrives) trivial locks) rfl
  exact Nat.succ_pos _

/-- A server that has not settled goes on to enqueue a task or to insert a
store. -/
theorem disturbed_of_unsettled {after : Server}
    (reachable : (tcpServer config).Reachable server)
    (at_unlock : server.stopThread = .unlock)
    (unsettled : ¬server.Settled config)
    (returns : (tcpServer config).step server .stop = some after) :
    Enqueues config after ∨ Inserts config after := by
  have reachableAfter : (tcpServer config).Reachable after :=
    .step reachable trivial returns
  have polling := (stopProgress_of_reachable reachable).polling
  rw [at_unlock] at polling
  have result := return_of_unlock at_unlock returns
  by_contra quiet
  obtain ⟨no_task, no_store⟩ := not_or.mp quiet
  apply unsettled
  constructor
  · intro poller bound
    by_contra unsettled
    rw [Bool.not_eq_true] at unsettled
    apply no_task
    cases result
    exact enqueues_of_unsettled reachableAfter rfl (polling poller bound)
      bound unsettled
  · intro poller bound at_wait
    by_contra kept
    apply no_task
    cases result
    exact enqueues_of_inFlight reachableAfter rfl (polling poller bound) bound
      at_wait kept
  · intro at_lock listens
    apply no_store
    cases result
    exact inserts_of_lock reachableAfter rfl at_lock listens

end Unsettled

/-- When `stopPolling` returns, the server is quiescent from then on, in every
run, exactly when its pollers have settled, no `epoll_wait` under way can still
report a connection, and no accept waits for the mutex with the listening
socket open.  This is so for whatever stores `swept` were destroyed. -/
theorem quiescent_iff_settled {config : Config} {server after : Server}
    (reachable : (tcpServer config).Reachable server)
    (at_unlock : server.stopThread = .unlock)
    (returns : (tcpServer config).step server .stop = some after)
    (swept : List ConnectionId) :
    (∀ actions last, (tcpServer config).run after actions = some last →
      Quiescent config swept after last) ↔ server.Settled config := by
  constructor
  · intro quiet
    by_contra unsettled
    rcases disturbed_of_unsettled reachable at_unlock unsettled returns with
      enqueues | inserts
    · obtain ⟨actions, last, ran, more⟩ := enqueues
      exact more (quiet actions last ran).enqueued
    · obtain ⟨actions, last, ran, fd, found⟩ := inserts
      exact found ((quiet actions last ran).absent fd)
  · intro settled actions last ran
    apply Stopped.quiescent
    have kept : ∀ before action next, (tcpServer config).Reachable before →
        (tcpServer config).step before action = some next →
        Stopped config after.enqueued before →
        Stopped config after.enqueued next :=
      fun _ _ _ reached taken stopped => stopped.step reached taken
    exact TransitionSystem.run_invariant kept (.step reachable trivial returns)
      (Stopped.of_settled reachable at_unlock settled returns) ran

/-- Nobody has connected, and the threads are at their loop heads. -/
theorem quiescent_after_idle :
    ∃ server after, (tcpServer .single).Reachable server ∧
      (tcpServer .single).step server .stop = some after ∧
      ∀ actions last, (tcpServer .single).run after actions = some last →
        Quiescent .single [] after last := by
  obtain ⟨server, reachable, at_unlock, polls, accepts⟩ :=
    exists_server_of_replay .single (fun _ _ => True)
      (fun server =>
        server.stopThread = .unlock ∧ server.pollerThread 0 = .loop ∧
          server.acceptThread = .loop)
      (List.replicate 9 .stop) (by decide)
  have returns := step_unlock .single at_unlock
  refine ⟨server, _, reachable, returns, ?_⟩
  apply (quiescent_iff_settled reachable at_unlock returns []).mpr
  constructor
  · intro poller bound
    cases Nat.lt_one_iff.mp bound
    rw [polls]
    rfl
  · intro poller bound at_wait
    cases Nat.lt_one_iff.mp bound
    rw [polls] at at_wait
    cases at_wait
  · intro at_lock
    rw [accepts] at at_lock
    cases at_lock

/-- A client hangs up and the poller gets the entry; `stopPolling` runs from
beginning to end; the poller takes the entry and is about to write to the
store `closeAllClientSocket` has destroyed. -/
theorem hangUp_after_stop :
    ¬∀ clearing server after last meanwhile actions,
      (tcpServer .single).Reachable clearing →
      clearing.stopThread = .closing [] →
      (tcpServer .single).run clearing meanwhile = some server →
      server.stopThread = .unlock →
      (tcpServer .single).step server .stop = some after →
      (tcpServer .single).run after actions = some last →
        Quiescent .single clearing.ownedStores after last := by
  intro always
  obtain ⟨clearing, reachable, at_clear, owned, ends⟩ :=
    exists_server_of_replay .single (fun _ _ => True)
      (fun clearing =>
        clearing.stopThread = .closing [] ∧ clearing.ownedStores = [0] ∧
          (((tcpServer .single).run clearing [.stop]).any fun server =>
            decide (server.stopThread = .unlock) &&
              ((tcpServer .single).step server .stop).any fun after =>
                ((tcpServer .single).run after
                  [.poller 0 .proceed, .poller 0 .proceed]).any fun last =>
                    decide (last.pollerThread 0 =
                      .busy .setClosed 0 [])) = true)
      (connectAndAdmit 4 ++ [.hangUp 0 .halfClose] ++ pollOne 0 0 ++
        List.replicate 9 .stop)
      (by decide)
  obtain ⟨server, ran, checked⟩ := Option.any_eq_true _ _ |>.mp ends
  obtain ⟨at_unlock, ends⟩ := Bool.and_eq_true_iff.mp checked
  obtain ⟨after, returns, ends⟩ := Option.any_eq_true _ _ |>.mp ends
  obtain ⟨last, continued, ends⟩ := Option.any_eq_true _ _ |>.mp ends
  have at_point := of_decide_eq_true ends
  have quiet := always clearing server after last _ _ reachable at_clear ran
    (of_decide_eq_true at_unlock) returns continued
  apply quiet.pollers 0 (by decide) 0
  · rw [at_point]
    rfl
  · rw [owned]
    exact List.mem_singleton.mpr rfl

end EventPlus

/-
Module: EventPlus.Server.MutualExclusion
Purpose: `clientEventStoresMutex` is held by a thread exactly while that thread
  is inside `handleIOEvent`, `removeSocket` or `closeAllClientSocket`.
Trusted boundary: none
Main exports:
  MutualExclusion, mutualExclusion_of_reachable,
  MutualExclusion.accept_excludes_poller, MutualExclusion.poller_unique
-/
import EventPlus.Server.Transitions

namespace EventPlus

open Function (update)

/-- The owner of `clientEventStoresMutex` is the thread inside one of the three
critical sections. -/
structure MutualExclusion (server : Server) : Prop where
  accept :
    server.clientEventStoresMutex = some .accept ↔
      server.acceptThread.critical = true
  poller : ∀ poller,
    server.clientEventStoresMutex = some (.poller poller) ↔
      (server.pollerThread poller).critical = true
  stopper :
    server.clientEventStoresMutex = some .stopper ↔
      server.stopThread.critical = true

namespace MutualExclusion

theorem start (config : Config) : MutualExclusion (Server.start config) where
  accept := by simp [Server.start, AcceptPoint.critical]
  poller := by simp [Server.start, PollerPoint.critical]
  stopper := by simp [Server.start, StopPoint.critical]

/-- The accept thread and a poller are never in their critical sections
together. -/
theorem accept_excludes_poller {server : Server}
    (exclusive : MutualExclusion server) {poller : PollerId}
    (inside : (server.pollerThread poller).critical = true) :
    server.acceptThread.critical = false := by
  have holder := (exclusive.poller poller).mpr inside
  have other := exclusive.accept
  rw [holder] at other
  simpa using other

/-- The stopping thread excludes the pollers. -/
theorem stopper_excludes_poller {server : Server}
    (exclusive : MutualExclusion server)
    (inside : server.stopThread.critical = true) (poller : PollerId) :
    (server.pollerThread poller).critical = false := by
  have holder := exclusive.stopper.mpr inside
  have other := exclusive.poller poller
  rw [holder] at other
  simpa using other

/-- The stopping thread excludes the accept thread. -/
theorem stopper_excludes_accept {server : Server}
    (exclusive : MutualExclusion server)
    (inside : server.stopThread.critical = true) :
    server.acceptThread.critical = false := by
  have holder := exclusive.stopper.mpr inside
  have other := exclusive.accept
  rw [holder] at other
  simpa using other

/-- At most one poller is in its critical section. -/
theorem poller_unique {server : Server} (exclusive : MutualExclusion server)
    {first second : PollerId}
    (one : (server.pollerThread first).critical = true)
    (two : (server.pollerThread second).critical = true) :
    first = second := by
  have holder := (exclusive.poller first).mpr one
  rw [(exclusive.poller second).mpr two] at holder
  cases holder
  rfl

/-- With the mutex free, no thread is in its critical section. -/
theorem of_free {server : Server} (exclusive : MutualExclusion server)
    (free : server.clientEventStoresMutex = none) :
    server.acceptThread.critical = false ∧
      (∀ poller, (server.pollerThread poller).critical = false) ∧
      server.stopThread.critical = false := by
  refine ⟨?_, ?_, ?_⟩
  · simpa [free] using exclusive.accept
  · intro poller
    simpa [free] using exclusive.poller poller
  · simpa [free] using exclusive.stopper

/-- The accept thread moves without taking or releasing the mutex. -/
theorem moveAccept {server : Server} (exclusive : MutualExclusion server)
    (point : AcceptPoint)
    (same : point.critical = server.acceptThread.critical) :
    MutualExclusion { server with acceptThread := point } :=
  { exclusive with
    accept := by
      change _ ↔ point.critical = true
      rw [same]
      exact exclusive.accept }

/-- A poller moves without taking or releasing the mutex. -/
theorem movePoller {server : Server} (exclusive : MutualExclusion server)
    (poller : PollerId) (point : PollerPoint)
    (same : point.critical = (server.pollerThread poller).critical) :
    MutualExclusion (server.setPoller poller point) :=
  { exclusive with
    poller := by
      intro other
      by_cases moved : other = poller
      · subst moved
        simp only [Server.setPoller_self]
        rw [same]
        exact exclusive.poller other
      · simp only [Server.setPoller_of_ne moved]
        exact exclusive.poller other }

theorem network {before after : Server} {action : Action}
    (exclusive : MutualExclusion before)
    (taken : NetworkStep before action after) :
    MutualExclusion after := by
  cases taken <;> exact { exclusive with }

theorem acceptStep {config : Config} {before after : Server}
    {choice : AcceptChoice}
    (exclusive : MutualExclusion before)
    (taken : AcceptStep config before choice after) :
    MutualExclusion after := by
  cases taken with
  | loop at_point =>
      refine exclusive.moveAccept _ ?_
      rw [at_point]
      split <;> rfl
  | report at_point =>
      exact { exclusive.moveAccept .handleEvent
        (by rw [at_point]; rfl) with }
  | timeout at_point =>
      exact exclusive.moveAccept _ (by rw [at_point]; rfl)
  | handleEvent at_point =>
      refine exclusive.moveAccept _ ?_
      rw [at_point]
      split <;> rfl
  | lock at_point free =>
      have outside := exclusive.of_free free
      exact
        { accept := by simp [AcceptPoint.critical]
          poller := by simpa using outside.2.1
          stopper := by simpa using outside.2.2 }
  | acceptFailed lost at_point =>
      exact { exclusive.moveAccept .unlock
        (by rw [at_point]; rfl) with }
  | accepted fd ssl kernel at_point got =>
      exact { exclusive.moveAccept
        (.admitting .initConnection before.accepted)
        (by rw [at_point]; rfl) with }
  | ntopFailed fd ssl kernel at_point got =>
      exact { exclusive.moveAccept .unlock
        (by rw [at_point]; rfl) with }
  | initConnection store outcome at_point =>
      have moved := exclusive.moveAccept (.admitting .addSocket store)
        (by rw [at_point]; rfl)
      obtain ⟨_, _, _, result⟩ :=
        before.initConnection_frame config store outcome
      rw [result]
      exact { moved with }
  | registered store kernel at_point added =>
      exact { exclusive.moveAccept
        (.admitting (.backPointer (before.nextIndex config)) store)
        (by rw [at_point]; rfl) with }
  | refused store granted at_point =>
      exact { exclusive.moveAccept (.admitting .insert store)
        (by rw [at_point]; rfl) with }
  | backPointer poller store at_point =>
      exact { exclusive.moveAccept (.admitting .insert store)
        (by rw [at_point]; rfl) with }
  | insert store at_point =>
      exact { exclusive.moveAccept (.admitting .enqueue store)
        (by rw [at_point]; rfl) with }
  | enqueue store at_point =>
      exact { exclusive.moveAccept .unlock
        (by rw [at_point]; rfl) with }
  | unlock at_point =>
      have holder := exclusive.accept.mpr (by rw [at_point]; rfl)
      exact
        { accept := by simp [AcceptPoint.critical]
          poller := by simpa [holder] using exclusive.poller
          stopper := by simpa [holder] using exclusive.stopper }

theorem pollerStep {config : Config} {before after : Server}
    {poller : PollerId} {choice : PollerChoice}
    (exclusive : MutualExclusion before)
    (taken : PollerStep config before poller choice after) :
    MutualExclusion after := by
  cases taken with
  | loop at_point =>
      refine exclusive.movePoller _ _ ?_
      rw [at_point]
      split <;> rfl
  | report reported entries kernel at_point waited =>
      exact { exclusive.movePoller poller (.batch entries)
        (by rw [at_point]; rfl) with }
  | timeout at_point =>
      exact { exclusive.movePoller poller .loop (by rw [at_point]; rfl) with }
  | batchDone at_point =>
      exact exclusive.movePoller _ _ (by rw [at_point]; rfl)
  | hangUp entry rest at_point flag =>
      exact exclusive.movePoller _ _ (by rw [at_point]; rfl)
  | data entry rest at_point flag =>
      exact exclusive.movePoller _ _ (by rw [at_point]; rfl)
  | skipped entry rest at_point =>
      exact exclusive.movePoller _ _ (by rw [at_point]; rfl)
  | setIncoming store rest at_point =>
      exact { exclusive.movePoller poller (.busy .dispatch store rest)
        (by rw [at_point]; rfl) with }
  | dispatch store rest at_point =>
      exact { exclusive.movePoller poller (.batch rest)
        (by rw [at_point]; rfl) with }
  | lock store rest at_point free =>
      have outside := exclusive.of_free free
      refine
        { accept := by simpa [Server.setPoller] using outside.1
          poller := ?_
          stopper := by simpa [Server.setPoller] using outside.2.2 }
      intro other
      by_cases moved : other = poller
      · subst moved
        simp [Server.setPoller, PollerPoint.critical, PollerStage.critical]
      · simp [Server.setPoller_of_ne moved, outside.2.1,
          Ne.symm moved]
  | setClosed store rest at_point =>
      exact { exclusive.movePoller poller (.busy .epollDel store rest)
        (by rw [at_point]; rfl) with }
  | noHandler store rest at_point handler_eq =>
      exact exclusive.movePoller _ _ (by rw [at_point]; rfl)
  | epollDel store rest handler at_point handler_eq =>
      exact { exclusive.movePoller poller
        (.busy .closeConnection store rest)
        (by rw [at_point]; rfl) with }
  | closeConnection store rest at_point =>
      have moved := exclusive.movePoller poller
        (.busy .enqueue store rest) (by rw [at_point]; rfl)
      obtain ⟨_, _, _, result⟩ := before.closeConnection_frame config store
      rw [result]
      exact { moved with }
  | enqueue store rest at_point =>
      exact { exclusive.movePoller poller (.busy .erase store rest)
        (by rw [at_point]; rfl) with }
  | erase store rest at_point =>
      exact { exclusive.movePoller poller (.busy .unlock store rest)
        (by rw [at_point]; rfl) with }
  | unlock store rest at_point =>
      have holder := (exclusive.poller poller).mpr (by rw [at_point]; rfl)
      refine
        { accept := by simpa [Server.setPoller, holder] using exclusive.accept
          poller := ?_
          stopper := by
            simpa [Server.setPoller, holder] using exclusive.stopper }
      intro other
      by_cases moved : other = poller
      · subst moved
        simp [Server.setPoller, PollerPoint.critical]
      · simpa [Server.setPoller_of_ne moved, holder,
          Ne.symm moved] using exclusive.poller other

theorem workerStep {config : Config} {before after : Server}
    {worker : WorkerId} {choice : WorkerChoice}
    (exclusive : MutualExclusion before)
    (taken : WorkerStep config before worker choice after) :
    MutualExclusion after := by
  cases taken with
  | close task at_point may_close =>
      obtain ⟨_, _, _, result⟩ :=
        before.closeConnection_frame config task.eventStorePointer
      rw [result]
      exact { exclusive with }
  | _ => exact { exclusive with }

theorem stopStep {config : Config} {before after : Server}
    (exclusive : MutualExclusion before)
    (taken : StopStep config before after) : MutualExclusion after := by
  have moved : ∀ point : StopPoint,
      point.critical = before.stopThread.critical →
        MutualExclusion { before with stopThread := point } := by
    intro point same
    exact
      { exclusive with
        stopper := by
          change _ ↔ point.critical = true
          rw [same]
          exact exclusive.stopper }
  cases taken with
  | call at_point next still_outside =>
      exact moved next (by rw [at_point, still_outside])
  | unregister at_point next still_outside =>
      exact { moved next (by rw [at_point, still_outside]) with }
  | closeListening closed at_point closes =>
      have here := moved .stopAccepting (by rw [at_point]; rfl)
      obtain ⟨_, _, result⟩ := Server.closeListening_frame closes
      rw [result]
      exact { here with }
  | stopAccepting at_point =>
      exact { moved .closeAcceptEpoll (by rw [at_point]; rfl) with }
  | stopPoller poller at_point =>
      exact { moved (.closePollerEpoll poller) (by rw [at_point]; rfl) with }
  | closePollerEpoll poller at_point =>
      exact { moved (.stopPoller (poller + 1)) (by rw [at_point]; rfl) with }
  | lockAll at_point free =>
      have outside := exclusive.of_free free
      exact
        { accept := by simpa using outside.1
          poller := by simpa using outside.2.1
          stopper := by simp [StopPoint.critical] }
  | closing store rest at_point =>
      have here := moved (.closing rest) (by rw [at_point]; rfl)
      obtain ⟨_, _, _, result⟩ := before.closeConnection_frame config store
      rw [result]
      exact { here with }
  | clear at_point =>
      exact { moved .unlock (by rw [at_point]; rfl) with }
  | unlock at_point =>
      have holder := exclusive.stopper.mpr (by rw [at_point]; rfl)
      exact
        { accept := by simpa [holder] using exclusive.accept
          poller := by simpa [holder] using exclusive.poller
          stopper := by simp [StopPoint.critical] }

theorem serverStep {config : Config} {before after : Server} {action : Action}
    (exclusive : MutualExclusion before)
    (taken : ServerStep config before action after) :
    MutualExclusion after := by
  cases taken with
  | network taken => exact exclusive.network taken
  | accept choice taken => exact exclusive.acceptStep taken
  | poller poller choice bound taken => exact exclusive.pollerStep taken
  | worker worker choice bound taken => exact exclusive.workerStep taken
  | stop taken => exact exclusive.stopStep taken

end MutualExclusion

/-- The mutex discipline holds in every reachable state. -/
theorem mutualExclusion_of_reachable {config : Config} {server : Server}
    (reachable : (tcpServer config).Reachable server) :
    MutualExclusion server := by
  refine TransitionSystem.Reachable.invariant ?_ ?_ reachable
  · rintro state rfl
    exact MutualExclusion.start config
  · intro before action after _ taken exclusive
    exact exclusive.serverStep (serverStep_of_step taken)

end EventPlus

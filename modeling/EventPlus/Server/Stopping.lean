/-
Module: EventPlus.Server.Stopping
Purpose: `stopPolling` line by line, what its thread has done by each of its
  points, and what the other threads leave as it has set it.
Trusted boundary: none
Main exports:
  StopLine, stopLine_of_some, StopFlags, StopFlags.serverStep, StopProgress,
  stopProgress_of_reachable, ListeningSocket, listeningSocket_of_reachable
-/
import EventPlus.Server.MutualExclusion

namespace EventPlus

open Function (update)

/-- The lines of `stopPolling`, each with what it needs to be taken. -/
inductive StopLine (config : Config) (server : Server) : Server → Prop where
  | begin (at_point : server.stopThread = .idle ∨
        server.stopThread = .returned) :
      StopLine config server { server with stopThread := .checkServerSocket }
  | found (at_point : server.stopThread = .checkServerSocket)
      (set : config.serverSocketID ≠ -1)
      (opened : server.serverSocketOpen config = true) :
      StopLine config server { server with stopThread := .deleteListening }
  | skipped (at_point : server.stopThread = .checkServerSocket)
      (unset : config.serverSocketID = -1 ∨
        server.serverSocketOpen config = false) :
      StopLine config server { server with stopThread := .stopAccepting }
  | deleteListening (at_point : server.stopThread = .deleteListening) :
      StopLine config server
        { server with
            kernel := { server.kernel with listenRegistered := false }
            stopThread := .closeListening }
  | closeListening (closed : Server)
      (at_point : server.stopThread = .closeListening)
      (closes : server.closeListening config = some closed) :
      StopLine config server
        { closed with stopThread := .stopAccepting }
  | stopAccepting (at_point : server.stopThread = .stopAccepting) :
      StopLine config server
        { server with
            continueAccepting := false
            stopThread := .closeAcceptEpoll }
  | closeAcceptEpoll (at_point : server.stopThread = .closeAcceptEpoll) :
      StopLine config server
        { server with
            kernel :=
              { server.kernel with
                  listenRegistered :=
                    server.kernel.listenRegistered &&
                      decide (server.acceptThread = .epollWait) }
            stopThread := .stopPoller 0 }
  | stopPoller (poller : PollerId)
      (at_point : server.stopThread = .stopPoller poller)
      (bound : poller < config.numPollers) :
      StopLine config server
        { server with
            continuePolling := update server.continuePolling poller false
            stopThread := .closePollerEpoll poller }
  | pollersDone (poller : PollerId)
      (at_point : server.stopThread = .stopPoller poller)
      (all : config.numPollers ≤ poller) :
      StopLine config server { server with stopThread := .lockAll }
  | closePollerEpoll (poller : PollerId)
      (at_point : server.stopThread = .closePollerEpoll poller) :
      StopLine config server
        { server with
            kernel :=
              server.kernel.closeEpoll poller
                (decide (server.pollerThread poller = .epollWait))
            stopThread := .stopPoller (poller + 1) }
  | lockAll (at_point : server.stopThread = .lockAll)
      (free : server.clientEventStoresMutex = none) :
      StopLine config server
        { server with
            clientEventStoresMutex := some .stopper
            stopThread := .closing server.ownedStores }
  | closing (store : ConnectionId) (rest : List ConnectionId)
      (at_point : server.stopThread = .closing (store :: rest)) :
      StopLine config server
        { server.closeConnection config store with
            stopThread := .closing rest }
  | clear (at_point : server.stopThread = .closing []) :
      StopLine config server { server.clearStores with stopThread := .unlock }
  | unlock (at_point : server.stopThread = .unlock) :
      StopLine config server
        { server with
            clientEventStoresMutex := none
            stopThread := .returned }

theorem stopLine_of_some {config : Config} {before after : Server}
    (taken : stopStep config before = some after) :
    StopLine config before after := by
  unfold stopStep at taken
  split at taken
  · cases taken
    exact .begin (.inl ‹_›)
  · cases taken
    exact .begin (.inr ‹_›)
  · rename_i at_point
    split at taken
    · rename_i passes
      cases taken
      exact .found at_point passes.1 passes.2
    · rename_i fails
      cases taken
      simp only [not_and_or, not_not, Bool.not_eq_true] at fails
      exact .skipped at_point fails
  · cases taken
    exact .deleteListening ‹_›
  · rename_i at_point
    split at taken
    · cases taken
    · rename_i closes
      cases taken
      exact .closeListening _ at_point closes
  · cases taken
    exact .stopAccepting ‹_›
  · cases taken
    exact .closeAcceptEpoll ‹_›
  · rename_i poller at_point
    split at taken
    · cases taken
      exact .stopPoller poller at_point ‹_›
    · rename_i beyond
      cases taken
      exact .pollersDone poller at_point (Nat.le_of_not_lt beyond)
  · cases taken
    exact .closePollerEpoll _ ‹_›
  · split at taken
    · cases taken
      exact .lockAll ‹_› ‹_›
    · cases taken
  · split at taken
    · cases taken
    · cases taken
      exact .closing _ _ ‹_›
  · cases taken
    exact .clear ‹_›
  · cases taken
    exact .unlock ‹_›

/-! ## What the other threads leave alone -/

namespace Kernel

@[simp] theorem close_epollOpen (kernel : Kernel) (fd : Fd) :
    (kernel.close fd).epollOpen = kernel.epollOpen := by
  unfold close
  split <;> rfl

@[simp] theorem epollCtlDel_epollOpen (kernel : Kernel) (poller : PollerId)
    (fd : Fd) :
    (kernel.epollCtlDel poller fd).epollOpen = kernel.epollOpen := by
  unfold epollCtlDel
  split <;> rfl

theorem epollWait_epollOpen {kernel after : Kernel} {poller : PollerId}
    {reported : List ConnectionId} {entries : List EpollEvent}
    (waited : kernel.epollWait poller reported = some (entries, after)) :
    after.epollOpen = kernel.epollOpen := by
  unfold epollWait at waited
  split at waited
  · cases waited
    rfl
  · cases waited

theorem epollCtlAdd_epollOpen {kernel after : Kernel} {poller : PollerId}
    {fd : Fd} (added : kernel.epollCtlAdd poller fd = some after) :
    after.epollOpen = kernel.epollOpen := by
  unfold epollCtlAdd at added
  split at added
  · split at added
    · cases added
      rfl
    · cases added
  · cases added

theorem transfer_epollOpen {kernel after : Kernel} {fd : Fd}
    {syscall : Syscall} {result : SysResult}
    (transferred : kernel.transfer fd syscall result = some after) :
    after.epollOpen = kernel.epollOpen := by
  rcases transfer_spec transferred with rfl | ⟨connection, count, -, rfl⟩
  · rfl
  · rfl

/-! An empty epoll set stays empty, unless `epoll_ctl` adds to it. -/

theorem unregistered_of_subset {kernel after : Kernel} {poller : PollerId}
    (subset : ∀ connection ∈ after.registered poller,
      connection ∈ kernel.registered poller)
    (empty : kernel.registered poller = []) :
    after.registered poller = [] := by
  apply List.eq_nil_iff_forall_not_mem.mpr
  intro connection member
  have earlier := subset connection member
  rw [empty] at earlier
  cases earlier

theorem close_unregistered {kernel : Kernel} {fd : Fd} {poller : PollerId} :
    kernel.registered poller = [] →
      (kernel.close fd).registered poller = [] :=
  unregistered_of_subset fun _ member => (mem_close_registered.mp member).1

theorem epollCtlDel_unregistered {kernel : Kernel} {deleter : PollerId}
    {fd : Fd} {poller : PollerId} :
    kernel.registered poller = [] →
      (kernel.epollCtlDel deleter fd).registered poller = [] :=
  unregistered_of_subset fun _ member =>
    (mem_epollCtlDel_registered.mp member).1

theorem epollWait_unregistered {kernel after : Kernel} {waiter : PollerId}
    {reported : List ConnectionId} {entries : List EpollEvent}
    (waited : kernel.epollWait waiter reported = some (entries, after))
    {poller : PollerId} (empty : kernel.registered poller = []) :
    after.registered poller = [] := by
  obtain ⟨-, -, -, -, same, -⟩ := epollWait_spec waited
  rw [same]
  exact empty

theorem epollCtlAdd_unregistered {kernel after : Kernel} {adder : PollerId}
    {fd : Fd} (added : kernel.epollCtlAdd adder fd = some after)
    {poller : PollerId} (closed : kernel.epollOpen poller = false)
    (empty : kernel.registered poller = []) :
    after.registered poller = [] := by
  obtain ⟨connection, -, -, is_open, -, same, -⟩ := epollCtlAdd_spec added
  rw [same]
  by_cases here : poller = adder
  · rw [here, is_open] at closed
    cases closed
  · rw [Function.update_of_ne here]
    exact empty

theorem transfer_unregistered {kernel after : Kernel} {fd : Fd}
    {syscall : Syscall} {result : SysResult}
    (transferred : kernel.transfer fd syscall result = some after)
    {poller : PollerId} (empty : kernel.registered poller = []) :
    after.registered poller = [] := by
  rcases transfer_spec transferred with rfl | ⟨connection, count, -, rfl⟩
  · exact empty
  · exact empty

/-! Nothing but the end of an epoll set adds to what a call in flight may
report. -/

theorem epollReturns_inFlight (kernel : Kernel) (waiter poller : PollerId) :
    ((kernel.epollReturns waiter).inFlight poller).Sublist
      (kernel.inFlight poller) := by
  by_cases same : poller = waiter
  · simp [epollReturns, same]
  · simp [epollReturns, same]

theorem epollWait_inFlight {kernel after : Kernel} {waiter poller : PollerId}
    {reported : List ConnectionId} {entries : List EpollEvent}
    (waited : kernel.epollWait waiter reported = some (entries, after)) :
    (after.inFlight poller).Sublist (kernel.inFlight poller) := by
  obtain ⟨-, -, -, -, -, returned, -⟩ := epollWait_spec waited
  rw [returned]
  exact kernel.epollReturns_inFlight waiter poller

theorem epollCtlAdd_inFlight {kernel after : Kernel} {adder poller : PollerId}
    {fd : Fd} (added : kernel.epollCtlAdd adder fd = some after) :
    (after.inFlight poller).Sublist (kernel.inFlight poller) := by
  obtain ⟨-, -, -, -, -, -, same, -⟩ := epollCtlAdd_spec added
  rw [same]

theorem transfer_inFlight {kernel after : Kernel} {fd : Fd}
    {syscall : Syscall} {result : SysResult}
    (transferred : kernel.transfer fd syscall result = some after)
    {poller : PollerId} :
    (after.inFlight poller).Sublist (kernel.inFlight poller) := by
  rcases transfer_spec transferred with rfl | ⟨_, count, -, rfl⟩
  · exact .refl _
  · exact .refl _

/-- The end of an epoll set that is empty already. -/
theorem closeEpoll_inFlight {kernel : Kernel} {poller other : PollerId}
    (waiting : Bool) (empty : kernel.registered other = []) :
    ((kernel.closeEpoll poller waiting).inFlight other).Sublist
      (kernel.inFlight other) := by
  by_cases same : other = poller
  · subst same
    cases waiting with
    | true => simp [closeEpoll, watched, empty]
    | false => simp [closeEpoll]
  · simp [closeEpoll, same]

end Kernel

/-- What only `stopPolling` changes; and no other thread adds a socket to a
closed epoll, or to what a call in flight may report. -/
structure StopFlags (before after : Server) : Prop where
  stopThread : after.stopThread = before.stopThread
  continueAccepting : after.continueAccepting = before.continueAccepting
  continuePolling : after.continuePolling = before.continuePolling
  epollOpen : after.kernel.epollOpen = before.kernel.epollOpen
  unregistered : ∀ poller, before.kernel.epollOpen poller = false →
    before.kernel.registered poller = [] →
      after.kernel.registered poller = []
  inFlight : ∀ poller,
    (after.kernel.inFlight poller).Sublist (before.kernel.inFlight poller)

namespace StopFlags

theorem refl (server : Server) : StopFlags server server :=
  ⟨rfl, rfl, rfl, rfl, fun _ _ => id, fun _ => .refl _⟩

theorem closeConnection (config : Config) (server : Server)
    (store : ConnectionId) :
    StopFlags server (server.closeConnection config store) := by
  have closed : StopFlags server (server.closeDescriptor store) :=
    ⟨rfl, rfl, rfl, Kernel.close_epollOpen _ _,
      fun _ _ => Kernel.close_unregistered,
      Kernel.close_inFlight _ _⟩
  rcases server.closeConnection_cases config store with
    result | result | result
  · rw [result]
    exact refl server
  · rw [result]
    exact closed
  · rw [result]
    exact { closed with }

theorem acceptStep {config : Config} {before after : Server}
    {choice : AcceptChoice} (taken : AcceptStep config before choice after) :
    StopFlags before after := by
  cases taken with
  | accepted fd ssl kernel at_point got =>
      obtain ⟨_, rfl⟩ := Kernel.accept_spec got
      exact ⟨rfl, rfl, rfl, rfl, fun _ _ => id, fun _ => .refl _⟩
  | ntopFailed fd ssl kernel at_point got =>
      obtain ⟨_, rfl⟩ := Kernel.accept_spec got
      exact ⟨rfl, rfl, rfl, rfl, fun _ _ => id, fun _ => .refl _⟩
  | initConnection store outcome at_point =>
      obtain ⟨ssl, result | result⟩ :=
        before.initConnection_cases config store outcome
      · rw [result]
        exact ⟨rfl, rfl, rfl, rfl, fun _ _ => id, fun _ => .refl _⟩
      · rw [result]
        exact ⟨rfl, rfl, rfl, Kernel.close_epollOpen _ _,
          fun _ _ => Kernel.close_unregistered, Kernel.close_inFlight _ _⟩
  | registered store kernel at_point added =>
      exact ⟨rfl, rfl, rfl, Kernel.epollCtlAdd_epollOpen added,
        fun _ => Kernel.epollCtlAdd_unregistered added,
        fun _ => Kernel.epollCtlAdd_inFlight added⟩
  | _ => exact ⟨rfl, rfl, rfl, rfl, fun _ _ => id, fun _ => .refl _⟩

theorem pollerStep {config : Config} {before after : Server}
    {poller : PollerId} {choice : PollerChoice}
    (taken : PollerStep config before poller choice after) :
    StopFlags before after := by
  cases taken with
  | report reported entries kernel at_point waited =>
      exact ⟨rfl, rfl, rfl, Kernel.epollWait_epollOpen waited,
        fun _ _ => Kernel.epollWait_unregistered waited,
        fun _ => Kernel.epollWait_inFlight waited⟩
  | timeout at_point =>
      exact ⟨rfl, rfl, rfl, rfl, fun _ _ => id,
        Kernel.epollReturns_inFlight _ _⟩
  | epollDel store rest handler at_point handler_eq =>
      exact ⟨rfl, rfl, rfl, Kernel.epollCtlDel_epollOpen _ _ _,
        fun _ _ => Kernel.epollCtlDel_unregistered,
        fun poller => Kernel.epollCtlDel_inFlight before.kernel handler _ ▸
          .refl (before.kernel.inFlight poller)⟩
  | closeConnection store rest at_point =>
      exact { closeConnection config before store with }
  | _ => exact ⟨rfl, rfl, rfl, rfl, fun _ _ => id, fun _ => .refl _⟩

theorem workerStep {config : Config} {before after : Server}
    {worker : WorkerId} {choice : WorkerChoice}
    (taken : WorkerStep config before worker choice after) :
    StopFlags before after := by
  cases taken with
  | syscall choice task call next syscall result kernel transfers at_point
      transferred =>
      exact ⟨rfl, rfl, rfl, Kernel.transfer_epollOpen transferred,
        fun _ _ => Kernel.transfer_unregistered transferred,
        fun _ => Kernel.transfer_inFlight transferred⟩
  | close task at_point may_close =>
      exact closeConnection config before task.eventStorePointer
  | _ => exact ⟨rfl, rfl, rfl, rfl, fun _ _ => id, fun _ => .refl _⟩

/-- No thread but the one in `stopPolling` changes them. -/
theorem serverStep {config : Config} {before after : Server} {action : Action}
    (taken : ServerStep config before action after)
    (other : beforeShutdown before action) : StopFlags before after := by
  cases taken with
  | network taken =>
      cases taken <;>
        exact ⟨rfl, rfl, rfl, rfl, fun _ _ => id, fun _ => .refl _⟩
  | accept choice taken => exact acceptStep taken
  | poller poller choice bound taken => exact pollerStep taken
  | worker worker choice bound taken => exact workerStep taken
  | stop taken => cases other

end StopFlags

theorem StopFlags.inFlight_of_empty {before after : Server}
    (flags : StopFlags before after) {poller : PollerId}
    (empty : before.kernel.inFlight poller = []) :
    after.kernel.inFlight poller = [] :=
  List.sublist_nil.mp (empty ▸ flags.inFlight poller)

/-- Before shutdown no epoll set is closed under a call. -/
theorem watched_of_reached {config : Config} {server : Server}
    (reached : (tcpServer config).Reached beforeShutdown server) :
    server.kernel.watched = server.kernel.registered := by
  have none_in_flight : ∀ poller, server.kernel.inFlight poller = [] := by
    refine TransitionSystem.Reached.invariant ?_ ?_ reached
    · rintro state rfl poller
      rfl
    · intro before action after _ allowed taken earlier poller
      have flags := StopFlags.serverStep (serverStep_of_step taken) allowed
      exact flags.inFlight_of_empty (earlier poller)
  funext poller
  rw [Kernel.watched, none_in_flight poller, List.append_nil]

theorem stopThread_of_step {config : Config} {before after : Server}
    {action : Action} (taken : ServerStep config before action after)
    (not_stop : action ≠ .stop) : after.stopThread = before.stopThread :=
  (StopFlags.serverStep taken (beforeShutdown_of_ne not_stop)).stopThread

/-! ## What the stopping thread has done -/

namespace StopPoint

/-- The pollers whose `m_continuePolling` this call has cleared. -/
def flagged (numPollers : Nat) : StopPoint → Nat
  | .stopPoller poller => poller
  | .closePollerEpoll poller => poller + 1
  | .lockAll | .closing _ | .unlock => numPollers
  | _ => 0

/-- The pollers whose epoll descriptor this call has closed. -/
def epollsClosed (numPollers : Nat) : StopPoint → Nat
  | .stopPoller poller => poller
  | .closePollerEpoll poller => poller
  | .lockAll | .closing _ | .unlock => numPollers
  | _ => 0

/-- This call has cleared the accept thread's `m_continuePolling`. -/
def pastAccepting : StopPoint → Bool
  | .closeAcceptEpoll | .stopPoller _ | .closePollerEpoll _ | .lockAll
  | .closing _ | .unlock => true
  | _ => false

end StopPoint

/-- What `stopPolling` has done by each of its points. -/
structure StopProgress (config : Config) (server : Server) : Prop where
  accepting : server.stopThread.pastAccepting = true →
    server.continueAccepting = false
  polling : ∀ poller < server.stopThread.flagged config.numPollers,
    server.continuePolling poller = false
  epolls : ∀ poller < server.stopThread.epollsClosed config.numPollers,
    server.kernel.epollOpen poller = false
  unregistered : ∀ poller, server.kernel.epollOpen poller = false →
    server.kernel.registered poller = []
  cleared : server.stopThread = .unlock → ∀ fd, server.find fd = none

/-- Only an insertion puts an entry into the map. -/
theorem find_of_other {config : Config} {before after : Server}
    {action : Action} (taken : ServerStep config before action after)
    (other : beforeShutdown before action)
    (no_insertion : ∀ store, before.acceptThread ≠ .admitting .insert store)
    {fd : Fd} (absent : before.find fd = none) : after.find fd = none := by
  cases taken with
  | network taken => cases taken <;> exact absent
  | accept choice taken =>
      cases taken with
      | initConnection store outcome at_point =>
          obtain ⟨_, _, _, result⟩ :=
            before.initConnection_frame config store outcome
          rw [result]
          exact absent
      | insert store at_point => exact absurd at_point (no_insertion store)
      | _ => exact absent
  | poller poller choice bound taken =>
      cases taken with
      | closeConnection store rest at_point =>
          obtain ⟨_, _, _, result⟩ := before.closeConnection_frame config store
          rw [result]
          exact absent
      | erase store rest at_point =>
          change (before.eraseStore store).find fd = none
          rw [Server.find_eraseStore]
          split
          · rfl
          · exact absent
      | _ => exact absent
  | worker worker choice bound taken =>
      cases taken with
      | close task at_point may_close =>
          obtain ⟨_, _, _, result⟩ :=
            before.closeConnection_frame config task.eventStorePointer
          rw [result]
          exact absent
      | _ => exact absent
  | stop taken => cases other

namespace StopProgress

theorem start (config : Config) :
    StopProgress config (Server.start config) where
  accepting := by simp [Server.start, StopPoint.pastAccepting]
  polling := by simp [Server.start, StopPoint.flagged]
  epolls := by simp [Server.start, StopPoint.epollsClosed]
  unregistered := by simp [Server.start]
  cleared := by simp [Server.start]

/-- The other threads leave it all as it is. -/
theorem otherStep {config : Config} {before after : Server} {action : Action}
    (progress : StopProgress config before)
    (exclusive : MutualExclusion before)
    (taken : ServerStep config before action after)
    (other : beforeShutdown before action) : StopProgress config after := by
  have flags := StopFlags.serverStep taken other
  constructor
  · rw [flags.stopThread, flags.continueAccepting]
    exact progress.accepting
  · rw [flags.stopThread, flags.continuePolling]
    exact progress.polling
  · rw [flags.stopThread, flags.epollOpen]
    exact progress.epolls
  · intro poller closed
    rw [flags.epollOpen] at closed
    exact flags.unregistered poller closed
      (progress.unregistered poller closed)
  · intro at_unlock fd
    rw [flags.stopThread] at at_unlock
    apply find_of_other taken other _ (progress.cleared at_unlock fd)
    intro store inserting
    have outside : before.acceptThread.critical = false :=
      exclusive.stopper_excludes_accept (by rw [at_unlock]; rfl)
    rw [inserting] at outside
    cases outside

/-- A call begins, or goes on from a point by which it has cleared no flag. -/
theorem moveEarly {config : Config} {server : Server}
    (progress : StopProgress config server) (point : StopPoint)
    (early : point.pastAccepting = false)
    (none_flagged : point.flagged config.numPollers = 0)
    (none_closed : point.epollsClosed config.numPollers = 0) :
    StopProgress config { server with stopThread := point } where
  accepting := by simp [early]
  polling := by simp [none_flagged]
  epolls := by simp [none_closed]
  unregistered := progress.unregistered
  cleared := by
    rintro rfl
    cases early

/-- A line that leaves the flags, the epolls and the map alone. -/
theorem move {config : Config} {server after : Server}
    (progress : StopProgress config server) {old new : StopPoint}
    (at_point : server.stopThread = old) (moved : after.stopThread = new)
    (flags : after.continueAccepting = server.continueAccepting ∧
      after.continuePolling = server.continuePolling ∧
      after.kernel.epollOpen = server.kernel.epollOpen)
    (unregistered : ∀ poller, server.kernel.epollOpen poller = false →
      server.kernel.registered poller = [] →
        after.kernel.registered poller = [])
    (accepting : new.pastAccepting = true → old.pastAccepting = true)
    (flagged : new.flagged config.numPollers ≤ old.flagged config.numPollers)
    (closed : new.epollsClosed config.numPollers ≤
      old.epollsClosed config.numPollers)
    (early : new ≠ .unlock) : StopProgress config after := by
  obtain ⟨same_accepting, same_polling, same_open⟩ := flags
  constructor
  · intro past
    rw [moved] at past
    rw [same_accepting]
    exact progress.accepting (at_point ▸ accepting past)
  · intro poller below
    rw [moved] at below
    rw [same_polling]
    exact progress.polling poller
      (at_point ▸ Nat.lt_of_lt_of_le below flagged)
  · intro poller below
    rw [moved] at below
    rw [same_open]
    exact progress.epolls poller (at_point ▸ Nat.lt_of_lt_of_le below closed)
  · intro poller is_closed
    rw [same_open] at is_closed
    exact unregistered poller is_closed
      (progress.unregistered poller is_closed)
  · intro at_unlock
    exact absurd (moved.symm.trans at_unlock) early

/-- The pollers are gone through from the first to the last. -/
theorem cleared_below {flag : PollerId → Bool} {poller : PollerId}
    (earlier : ∀ other, other < poller → flag other = false) :
    ∀ other, other < poller + 1 → update flag poller false other = false := by
  intro other below
  by_cases same : other = poller
  · rw [same]
    exact Function.update_self _ _ _
  · rw [Function.update_of_ne same]
    exact earlier other (Nat.lt_of_le_of_ne (Nat.lt_succ_iff.mp below) same)

theorem stopLine {config : Config} {before after : Server}
    (progress : StopProgress config before)
    (taken : StopLine config before after) : StopProgress config after := by
  cases taken with
  | begin at_point => exact progress.moveEarly _ rfl rfl rfl
  | found at_point set opened => exact progress.moveEarly _ rfl rfl rfl
  | skipped at_point unset => exact progress.moveEarly _ rfl rfl rfl
  | deleteListening at_point =>
      exact { progress.moveEarly .closeListening rfl rfl rfl with }
  | closeListening closed at_point closes =>
      have moved := progress.moveEarly .stopAccepting rfl rfl rfl
      rcases Server.closeListening_cases closes with result | result
      · rw [result]
        exact moved
      · rw [result]
        apply progress.move at_point rfl
        · exact ⟨rfl, rfl, Kernel.close_epollOpen _ _⟩
        · intro poller _
          exact Kernel.close_unregistered
        · exact id
        · exact Nat.le_refl _
        · exact Nat.le_refl _
        · simp
  | stopAccepting at_point =>
      exact
        { accepting := fun _ => rfl
          polling := by simp [StopPoint.flagged]
          epolls := by simp [StopPoint.epollsClosed]
          unregistered := progress.unregistered
          cleared := by simp }
  | closeAcceptEpoll at_point =>
      exact progress.move at_point rfl ⟨rfl, rfl, rfl⟩ (fun _ _ => id)
        (fun _ => rfl)
        (Nat.le_refl _) (Nat.le_refl _) (by simp)
  | stopPoller poller at_point bound =>
      have accepting := progress.accepting (by rw [at_point]; rfl)
      have polling := progress.polling
      have epolls := progress.epolls
      rw [at_point] at polling epolls
      constructor
      · exact fun _ => accepting
      · exact cleared_below polling
      · exact epolls
      · exact progress.unregistered
      · simp
  | pollersDone poller at_point all =>
      exact progress.move at_point rfl ⟨rfl, rfl, rfl⟩ (fun _ _ => id)
        (fun _ => rfl)
        all all (by simp)
  | closePollerEpoll poller at_point =>
      have accepting := progress.accepting (by rw [at_point]; rfl)
      have polling := progress.polling
      have epolls := progress.epolls
      rw [at_point] at polling epolls
      constructor
      · exact fun _ => accepting
      · exact polling
      · exact cleared_below epolls
      · intro other closed
        change update before.kernel.epollOpen poller false other = false
          at closed
        change update before.kernel.registered poller [] other = []
        by_cases same : other = poller
        · rw [same]
          exact Function.update_self _ _ _
        · rw [Function.update_of_ne same] at closed ⊢
          exact progress.unregistered other closed
      · simp
  | lockAll at_point free =>
      exact progress.move at_point rfl ⟨rfl, rfl, rfl⟩ (fun _ _ => id)
        (fun _ => rfl)
        (Nat.le_refl _) (Nat.le_refl _) (by simp)
  | closing store rest at_point =>
      have flags := StopFlags.closeConnection config before store
      exact progress.move at_point rfl
        ⟨flags.continueAccepting, flags.continuePolling, flags.epollOpen⟩
        flags.unregistered (fun _ => rfl) (Nat.le_refl _) (Nat.le_refl _)
        (by simp)
  | clear at_point =>
      have accepting := progress.accepting
      have polling := progress.polling
      have epolls := progress.epolls
      rw [at_point] at accepting polling epolls
      exact
        { accepting := accepting
          polling := polling
          epolls := epolls
          unregistered := progress.unregistered
          cleared := fun _ => before.find_clearStores }
  | unlock at_point =>
      exact { progress.moveEarly .returned rfl rfl rfl with }

end StopProgress

theorem stopProgress_of_reachable {config : Config} {server : Server}
    (reachable : (tcpServer config).Reachable server) :
    StopProgress config server := by
  refine TransitionSystem.Reachable.invariant ?_ ?_ reachable
  · intro state initially
    cases initially
    exact StopProgress.start config
  · intro before action after reached taken progress
    by_cases stops : action = .stop
    · subst stops
      exact progress.stopLine (stopLine_of_some taken)
    · exact progress.otherStep (mutualExclusion_of_reachable reached)
        (serverStep_of_step taken) (beforeShutdown_of_ne stops)

/-! ## The listening socket -/

/-- The listening socket has its own number or none, and without it no
connection waits for `accept`. -/
structure ListeningSocket (listenFd : Fd) (kernel : Kernel) : Prop where
  number : ∀ fd, kernel.file fd = some .listening → fd = listenFd
  backlog : kernel.file listenFd ≠ some .listening → kernel.backlog = 0

namespace ListeningSocket

variable {listenFd : Fd} {kernel after : Kernel}

/-- Changes that keep the descriptor table and let no connection in. -/
theorem congr (listening : ListeningSocket listenFd kernel)
    (file : after.file = kernel.file)
    (backlog : after.backlog ≤ kernel.backlog) :
    ListeningSocket listenFd after where
  number := by
    rw [file]
    exact listening.number
  backlog := by
    intro closed
    rw [file] at closed
    have empty := listening.backlog closed
    omega

theorem close (listening : ListeningSocket listenFd kernel) (fd : Fd) :
    ListeningSocket listenFd (kernel.close fd) where
  number := by
    intro other denotes
    rw [Kernel.close_file] at denotes
    by_cases same : other = fd
    · rw [same, Function.update_self] at denotes
      cases denotes
    · rw [Function.update_of_ne same] at denotes
      exact listening.number other denotes
  backlog := by
    intro closed
    rw [Kernel.close_file] at closed
    by_cases same : listenFd = fd
    · subst same
      have unlistened := listening.backlog
      unfold Kernel.close
      split
      · rename_i unused
        exact unlistened (by simp [unused])
      · rfl
      · rename_i denotes
        exact unlistened (by simp [denotes])
      · rename_i denotes
        exact unlistened (by simp [denotes])
    · rw [Function.update_of_ne same] at closed
      have empty := listening.backlog closed
      unfold Kernel.close
      split
      · exact empty
      · rfl
      · exact empty
      · exact empty

theorem accept (listening : ListeningSocket listenFd kernel) {fd : Fd}
    {connection : ConnectionId}
    (got : kernel.accept fd connection = some after) :
    ListeningSocket listenFd after := by
  obtain ⟨unused, rfl⟩ := Kernel.accept_spec got
  constructor
  · intro other denotes
    change update kernel.file fd _ other = _ at denotes
    by_cases same : other = fd
    · simp [same] at denotes
    · rw [Function.update_of_ne same] at denotes
      exact listening.number other denotes
  · intro closed
    have empty : kernel.backlog = 0 := by
      apply listening.backlog
      intro denotes
      apply closed
      have elsewhere : listenFd ≠ fd := by
        rintro rfl
        rw [unused] at denotes
        cases denotes
      change update kernel.file fd _ listenFd = _
      rw [Function.update_of_ne elsewhere]
      exact denotes
    simp [empty]

theorem connect (listening : ListeningSocket listenFd kernel)
    (opened : kernel.file listenFd = some .listening) :
    ListeningSocket listenFd kernel.connect where
  number := listening.number
  backlog := fun closed => absurd opened closed

theorem epollCtlDel (listening : ListeningSocket listenFd kernel)
    (poller : PollerId) (fd : Fd) :
    ListeningSocket listenFd (kernel.epollCtlDel poller fd) := by
  apply listening.congr (Kernel.epollCtlDel_file kernel poller fd)
  unfold Kernel.epollCtlDel
  split
  · exact Nat.le_refl _
  · exact Nat.le_refl _

theorem epollCtlAdd (listening : ListeningSocket listenFd kernel)
    {poller : PollerId} {fd : Fd}
    (added : kernel.epollCtlAdd poller fd = some after) :
    ListeningSocket listenFd after := by
  unfold Kernel.epollCtlAdd at added
  split at added
  · split at added
    · cases added
      exact listening.congr rfl (Nat.le_refl _)
    · cases added
  · cases added

theorem epollWait (listening : ListeningSocket listenFd kernel)
    {poller : PollerId} {reported : List ConnectionId}
    {entries : List EpollEvent}
    (waited : kernel.epollWait poller reported = some (entries, after)) :
    ListeningSocket listenFd after := by
  unfold Kernel.epollWait at waited
  split at waited
  · cases waited
    exact listening.congr rfl (Nat.le_refl _)
  · cases waited

theorem transfer (listening : ListeningSocket listenFd kernel) {fd : Fd}
    {syscall : Syscall} {result : SysResult}
    (transferred : kernel.transfer fd syscall result = some after) :
    ListeningSocket listenFd after := by
  rcases Kernel.transfer_spec transferred with
    rfl | ⟨connection, count, -, rfl⟩
  · exact listening
  · exact listening.congr rfl (Nat.le_refl _)

end ListeningSocket

theorem Server.closeConnection_listening {config : Config} {server : Server}
    (listening : ListeningSocket config.listenFd server.kernel)
    (store : ConnectionId) :
    ListeningSocket config.listenFd
      (server.closeConnection config store).kernel := by
  rcases server.closeConnection_cases config store with
    result | result | result
  · rw [result]
    exact listening
  · rw [result]
    exact listening.close _
  · rw [result]
    exact listening.close _

/-- Only an open listening socket lets a client in. -/
theorem listening_of_connect {config : Config} {before after : Server}
    (taken : (tcpServer config).step before .connect = some after) :
    before.kernel.file config.listenFd = some .listening := by
  by_contra closed
  have refused : (tcpServer config).step before .connect = none := by
    change (if _ then _ else none) = none
    rw [if_neg closed]
  rw [refused] at taken
  cases taken

theorem listeningSocket_of_step {config : Config} {before after : Server}
    {action : Action}
    (listening : ListeningSocket config.listenFd before.kernel)
    (taken : (tcpServer config).step before action = some after) :
    ListeningSocket config.listenFd after.kernel := by
  cases serverStep_of_step taken with
  | network moved =>
      cases moved with
      | connect =>
          exact listening.connect (listening_of_connect taken)
      | segment connection count still_open =>
          exact listening.congr rfl (Nat.le_refl _)
      | hangUp connection cause => exact listening.congr rfl (Nat.le_refl _)
  | accept choice moved =>
      cases moved with
      | report at_point => exact listening.congr rfl (Nat.le_refl _)
      | acceptFailed lost at_point =>
          refine listening.congr rfl ?_
          dsimp only
          split
          · exact Nat.sub_le _ _
          · exact Nat.le_refl _
      | accepted fd ssl kernel at_point got => exact listening.accept got
      | ntopFailed fd ssl kernel at_point got => exact listening.accept got
      | initConnection store outcome at_point =>
          obtain ⟨ssl, result | result⟩ :=
            before.initConnection_cases config store outcome
          · rw [result]
            exact listening
          · rw [result]
            exact listening.close _
      | registered store kernel at_point added =>
          exact listening.epollCtlAdd added
      | _ => exact listening
  | poller poller choice bound moved =>
      cases moved with
      | report reported entries kernel at_point waited =>
          exact listening.epollWait waited
      | timeout at_point => exact listening.congr rfl (Nat.le_refl _)
      | epollDel store rest handler at_point handler_eq =>
          exact listening.epollCtlDel _ _
      | closeConnection store rest at_point =>
          exact Server.closeConnection_listening listening store
      | _ => exact listening
  | worker worker choice bound moved =>
      cases moved with
      | syscall choice task call next syscall result kernel transfers at_point
          transferred =>
          exact listening.transfer transferred
      | close task at_point may_close =>
          exact Server.closeConnection_listening listening _
      | _ => exact listening
  | stop moved =>
      cases moved with
      | unregister at_point next still_outside =>
          exact listening.congr rfl (Nat.le_refl _)
      | closeListening closed at_point closes =>
          rcases Server.closeListening_cases closes with result | result
          · rw [result]
            exact listening
          · rw [result]
            exact listening.close _
      | closePollerEpoll poller at_point =>
          exact listening.congr rfl (Nat.le_refl _)
      | closing store rest at_point =>
          exact Server.closeConnection_listening listening store
      | _ => exact listening

theorem listeningSocket_of_reachable {config : Config} {server : Server}
    (reachable : (tcpServer config).Reachable server) :
    ListeningSocket config.listenFd server.kernel := by
  refine TransitionSystem.Reachable.invariant ?_ ?_ reachable
  · intro state initially
    cases initially
    constructor
    · intro fd denotes
      simp only [Server.start] at denotes
      split at denotes
      · assumption
      · split at denotes <;> cases denotes
    · intro closed
      rfl
  · intro before action after _ taken listening
    exact listeningSocket_of_step listening taken

/-! ## New entries of the descriptor table -/

namespace Kernel

theorem file_of_close {kernel : Kernel} {number fd : Fd} {file : File}
    (denotes : (kernel.close number).file fd = some file) :
    kernel.file fd = some file := by
  rw [close_file] at denotes
  by_cases same : fd = number
  · rw [same, Function.update_self] at denotes
    cases denotes
  · rw [Function.update_of_ne same] at denotes
    exact denotes

theorem file_of_accept {kernel after : Kernel} {number : Fd}
    {connection : ConnectionId}
    (got : kernel.accept number connection = some after) {fd : Fd}
    {file : File} (denotes : after.file fd = some file) :
    kernel.file fd = some file ∨
      (fd = number ∧ file = .client connection) := by
  obtain ⟨-, rfl⟩ := accept_spec got
  change update kernel.file number _ fd = _ at denotes
  by_cases same : fd = number
  · rw [same, Function.update_self] at denotes
    cases denotes
    exact .inr ⟨same, rfl⟩
  · rw [Function.update_of_ne same] at denotes
    exact .inl denotes

end Kernel

theorem Server.file_of_closeConnection {config : Config} {server : Server}
    {store : ConnectionId} {fd : Fd} {file : File}
    (denotes :
      (server.closeConnection config store).kernel.file fd = some file) :
    server.kernel.file fd = some file := by
  rcases server.closeConnection_cases config store with
    result | result | result
  · rw [result] at denotes
    exact denotes
  · rw [result] at denotes
    exact Kernel.file_of_close denotes
  · rw [result] at denotes
    exact Kernel.file_of_close denotes

end EventPlus

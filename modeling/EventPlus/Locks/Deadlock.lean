/-
Module: EventPlus.Locks.Deadlock
Purpose: The order in which the program takes its mutexes, and that no threads
  ever wait for each other in a circle.
Trusted boundary: none
Main exports:
  Locks.rank, Locks.floor, Locks.holds, Locks.order, Locks.no_deadlock
-/
import Mathlib.Data.Fin.Basic
import Mathlib.Data.Fintype.Order
import EventPlus.Locks.Lines

namespace EventPlus

namespace Locks

/-- `clientEventStoresMutex` comes first and the scheduler's `m_mutex` second;
nothing is taken under the others. -/
@[simp] def rank : Mutex → Fin 3
  | .clientEventStores => 0
  | .scheduler => 1
  | .poll _ | .socket _ | .certificate | .queue => 2

/-- The lowest rank a function takes, its callees included. -/
@[simp] def floor : Line → Fin 3
  | .handleIOEvent _ | .accept _ | .initNew _ | .addNew _ | .insertNew _
  | .enqueueNew _ => 0
  | .removeSocket _ | .unregister _ | .closeRemoved _ _ | .enqueueRemoved _ _
  | .eraseRemoved _ => 0
  | .stopPolling | .closeServer _ | .stopThreads | .closeAllClientSocket
  | .iterate | .closeClients _ => 0
  | .schedule _ | .nextIndex _ | .delegate _ _ => 1
  | .unlock mutex => rank mutex
  | _ => 2

/-- The mutex that is held at a line. -/
@[simp] def holds : Line → List Mutex
  | .accept _ | .initNew _ | .addNew _ | .insertNew _ | .enqueueNew _ =>
      [.clientEventStores]
  | .unregister _ | .closeRemoved _ _ | .enqueueRemoved _ _
  | .eraseRemoved _ => [.clientEventStores]
  | .iterate | .closeClients _ => [.clientEventStores]
  | .nextIndex _ | .delegate _ _ => [.scheduler]
  | .epollAdd handler _ | .epollDel handler _ => [.poll handler]
  | .emplace _ | .predicate | .takeTask => [.queue]
  | .sslNew => [.certificate]
  | .tcpLocked store _ => [.socket store]
  | .tls store point => if point.critical then [.socket store] else []
  | .unlock mutex => [mutex]
  | _ => []

variable {data : Data} {at_line : Line} {reply : Reply}
  {instruction : Locking.Instruction Data Line Mutex}

/-! ## One lemma for each group of functions -/

theorem respects_goto {next : Line}
    (taken : data.goto next = some instruction)
    (rises : floor at_line ≤ floor next) (same : holds next = holds at_line) :
    instruction.Respects rank floor holds at_line := by
  cases taken
  exact ⟨rises, same⟩

theorem handleIOEvent_respects
    (taken : handleIOEvent data at_line reply = some instruction) :
    instruction.Respects rank floor holds at_line := by
  unfold handleIOEvent at taken
  split at taken <;> cases taken <;>
    simp [Locking.Instruction.Respects]

theorem removeSocket_respects
    (taken : removeSocket data at_line reply = some instruction) :
    instruction.Respects rank floor holds at_line := by
  unfold removeSocket at taken
  split at taken
  · cases taken
    simp [Locking.Instruction.Respects]
  · -- the back pointer decides whether the poller is called
    dsimp only at taken
    split at taken <;> cases taken <;>
      simp [Locking.Instruction.Respects]
  all_goals
    cases taken <;> simp [Locking.Instruction.Respects]

theorem stopPolling_respects
    (taken : stopPolling data at_line reply = some instruction) :
    instruction.Respects rank floor holds at_line := by
  unfold stopPolling at taken
  split at taken
  · split at taken
    · obtain ⟨store, -, called⟩ := Option.map_eq_some_iff.mp taken
      subst called
      simp [Locking.Instruction.Respects]
    · exact respects_goto taken le_rfl rfl
  all_goals
    cases taken <;> simp [Locking.Instruction.Respects]

theorem schedule_respects
    (taken : schedule data at_line reply = some instruction) :
    instruction.Respects rank floor holds at_line := by
  unfold schedule at taken
  split at taken
  · cases taken
    simp [Locking.Instruction.Respects]
  · split at taken
    · cases taken
    · cases taken
      simp [Locking.Instruction.Respects]
  all_goals
    cases taken <;> simp [Locking.Instruction.Respects]

theorem socketEventHandler_respects
    (taken : socketEventHandler data at_line reply = some instruction) :
    instruction.Respects rank floor holds at_line := by
  unfold socketEventHandler at taken
  split at taken <;> cases taken <;>
    simp [Locking.Instruction.Respects]

theorem threadPool_respects
    (taken : threadPool data at_line reply = some instruction) :
    instruction.Respects rank floor holds at_line := by
  unfold threadPool at taken
  split at taken
  case h_4 =>
    split at taken
    · exact respects_goto taken le_rfl rfl
    · cases taken
      simp [Locking.Instruction.Respects]
  case h_7 =>
    split at taken
    · exact respects_goto taken le_rfl rfl
    · cases taken
      simp [Locking.Instruction.Respects]
  all_goals
    cases taken <;> simp [Locking.Instruction.Respects]

theorem initConnection_respects
    (taken : initConnection data at_line reply = some instruction) :
    instruction.Respects rank floor holds at_line := by
  unfold initConnection at taken
  split at taken
  case h_4 =>
    split at taken
    · exact respects_goto taken le_rfl rfl
    · cases taken
      simp [Locking.Instruction.Respects]
  all_goals
    cases taken <;> simp [Locking.Instruction.Respects]

theorem closeConnection_respects
    (taken : closeConnection data at_line reply = some instruction) :
    instruction.Respects rank floor holds at_line := by
  unfold closeConnection at taken
  split at taken
  · split at taken
    · exact respects_goto taken le_rfl rfl
    · exact respects_goto taken le_rfl rfl
  · cases taken

theorem tcpHandler_respects
    (taken : tcpHandler data at_line reply = some instruction) :
    instruction.Respects rank floor holds at_line := by
  unfold tcpHandler at taken
  split at taken
  · dsimp only at taken
    split at taken <;> cases taken <;>
      simp [Locking.Instruction.Respects]
  · -- without the lock
    split at taken
    · split at taken
      · exact respects_goto taken le_rfl rfl
      · cases taken
    · cases taken
    · exact respects_goto taken le_rfl rfl
  · -- in the scope of the lock
    split at taken
    · split at taken
      · exact respects_goto taken le_rfl rfl
      · cases taken
    · cases taken
    · exact respects_goto taken le_rfl rfl
  · exact respects_goto taken le_rfl rfl
  · cases taken

theorem entry_critical (operation : SharedStore.Operation) :
    operation.entry.critical = true := by
  cases operation with
  | receivePartialData dataSize =>
      simp only [SharedStore.Operation.entry]
      split <;> rfl
  | _ => rfl

theorem next_critical {reading : SharedStore.Reading} {result : SSLReadResult}
    {point : SharedStore.Point} (next : reading.next result = some point) :
    point.critical = true := by
  unfold SharedStore.Reading.next at next
  split at next
  · dsimp only at next
    split at next
    · cases next
    · split at next <;> cases next <;> rfl
  · cases next
    rfl
  · cases next
    rfl

theorem holds_tls (store : ConnectionId) {point : SharedStore.Point}
    (critical : point.critical = true) :
    holds (.tls store point) = [.socket store] := by
  simp [critical]

theorem tlsHandler_respects
    (taken : tlsHandler data at_line reply = some instruction) :
    instruction.Respects rank floor holds at_line := by
  unfold tlsHandler at taken
  split at taken
  · cases taken
  · split at taken
    · exact respects_goto taken le_rfl rfl
    · exact respects_goto taken le_rfl rfl
  · rename_i store operation
    cases taken
    refine ⟨le_rfl, holds_tls store (entry_critical operation), ?_⟩
    intro mutex member
    cases member
  · exact respects_goto taken le_rfl rfl
  · rename_i store reading result
    split at taken
    · obtain ⟨point, next, gone⟩ := Option.bind_eq_some_iff.mp taken
      cases gone
      exact ⟨le_rfl, holds_tls store (next_critical next)⟩
    · cases taken
  all_goals
    cases taken <;>
      simp [Locking.Instruction.Respects, SharedStore.Point.critical]

/-! ## The order -/

theorem line_respects
    (taken : line data at_line reply = some instruction) :
    instruction.Respects rank floor holds at_line := by
  cases at_line with
  | handleIOEvent | accept | initNew | addNew | insertNew | enqueueNew =>
      exact @handleIOEvent_respects data _ reply _ taken
  | removeSocket | unregister | closeRemoved | enqueueRemoved
  | eraseRemoved => exact @removeSocket_respects data _ reply _ taken
  | stopPolling | closeServer | stopThreads | closeAllClientSocket | iterate
  | closeClients => exact @stopPolling_respects data _ reply _ taken
  | schedule | nextIndex | delegate =>
      exact @schedule_respects data _ reply _ taken
  | addSocket | epollAdd | delSocket | epollDel =>
      exact @socketEventHandler_respects data _ reply _ taken
  | enqueueTask | emplace | dequeue | predicate | sleeping | woken
  | takeTask => exact @threadPool_respects data _ reply _ taken
  | getNewCertificate | sslNew | initConnection | handshake =>
      exact @initConnection_respects data _ reply _ taken
  | closeConnection => exact @closeConnection_respects data _ reply _ taken
  | tcp | tcpPlain | tcpLocked | tcpClose =>
      exact @tcpHandler_respects data _ reply _ taken
  | tls => exact @tlsHandler_respects data _ reply _ taken
  | unlock mutex =>
      cases taken
      cases mutex <;> simp [Locking.Instruction.Respects]
  | returned =>
      cases taken
      rfl

theorem holds_of_entry (at_line : Line) (entered : entry at_line = true) :
    holds at_line = [] := by
  cases at_line with
  | tls store point =>
      cases point with
      | test operation => rfl
      | _ => cases entered
  | handleIOEvent | removeSocket | stopPolling | schedule | addSocket
  | delSocket | enqueueTask | dequeue | getNewCertificate
  | closeConnection | tcp | tcpClose => rfl
  | _ => cases entered

theorem floor_le_rank (at_line : Line) :
    ∀ mutex ∈ holds at_line, floor at_line ≤ rank mutex := by
  cases at_line with
  | tls store point =>
      intro mutex member
      simp only [holds] at member
      split at member
      · cases List.mem_singleton.mp member
        exact le_rfl
      · cases member
  | _ => simp

/-- The program takes its mutexes in the order of their ranks. -/
theorem order : Locking.Order code rank floor holds where
  entry := holds_of_entry
  floor_le := floor_le_rank
  line := line_respects

abbrev ThreadId := Nat

abbrev Threads := Locking.Threads Data Line Mutex ThreadId

/-- Any number of threads that each run any of the functions, one after the
other.  Callbacks of the receiver are such runs: a worker has left `dequeue`
when it makes them. -/
def threads : TransitionSystem Threads
    (Locking.Action Line Reply ThreadId) :=
  code.system

/-- In no reachable state does a thread wait for a mutex it holds, and in none
is there a set of threads that each wait for a mutex held by one of the set. -/
theorem no_deadlock {state : Threads} (reachable : threads.Reachable state) :
    (∀ thread mutex, ¬Locking.Waits code state thread mutex thread) ∧
      ∀ waiting : Set ThreadId, ¬Locking.Deadlocked code state waiting :=
  ⟨order.not_waits_own reachable, order.not_deadlocked reachable⟩

/-- Nothing running yet. -/
def idle : Threads where
  data :=
    { serverSocketID := -1
      eventStore := none
      socketOperationHandler := .tls
      numThreads := 2
      currentIndex := 0
      clientEventStores := []
      store := fun _ => default
      tasks := []
      stop := false }
  holder := fun _ => none
  stack := fun _ => []

/-- One thread is in `handleIOEvent`, and one waits in `removeSocket` for the
mutex the first one has. -/
theorem no_deadlock_waiting :
    ∃ state, threads.Reachable state ∧
      Locking.Waits code state 1 .clientEventStores 0 ∧
      ¬Locking.Deadlocked code state {0, 1} := by
  have start : threads.Reachable idle := .initial ⟨fun _ => rfl, fun _ => rfl⟩
  have reachable := TransitionSystem.reachable_of_run start
    (show threads.run idle
      [.start 0 (.handleIOEvent 0), .line 0 .proceed,
        .start 1 (.removeSocket 1)] = some _ from rfl)
  refine ⟨_, reachable, ?_, (no_deadlock reachable).2 _⟩
  exact ⟨⟨_, _, .proceed, _, rfl, rfl⟩, rfl⟩

end Locks

end EventPlus

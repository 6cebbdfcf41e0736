/-
Module: EventPlus.Handlers.SharedReceive
Purpose: Calls of `receiveData` and `receivePartialData` by several threads on
  one TCP store.  The first takes `m_socketMutex` and the second does not.
Trusted boundary: none
Main exports:
  SharedReceive, SharedReceive.step, sharedReceive, SharedReceive.InPieces,
  SharedReceive.Undivided, SharedReceive.in_pieces_throughout_iff,
  SharedReceive.inPieces_of_locks
-/
import EventPlus.Handlers.ReceiveRuns
import EventPlus.Library.Pieces

namespace EventPlus

open Function (update)
open Pieces (owned Continues)

namespace SharedReceive

abbrev ThreadId := Nat

/-- A thread's place: outside, before the lock of `receiveData`, or in a call,
with the lock or without.  A call is numbered when it can read. -/
inductive Point where
  | outside
  | lock
  | inside (locked : Bool) (number : Nat) (call : Call)
deriving Repr, Inhabited, DecidableEq

inductive Action where
  | receiveData (thread : ThreadId)
  | receivePartialData (thread : ThreadId) (dataSize : Int)
  | line (thread : ThreadId)
  | syscall (thread : ThreadId) (result : SysResult)
deriving Repr, Inhabited, DecidableEq

end SharedReceive

open SharedReceive in
/-- A store and the threads that receive on it.  The last three fields are
history: the bytes taken from the connection, each with the number of the call
that took it, and what the calls returned and appended. -/
structure SharedReceive where
  socketMutex : Option ThreadId
  point : ThreadId → Point
  numCalls : Nat
  taken : List (Nat × UInt8)
  returned : Nat → Option (Int × List UInt8)

namespace SharedReceive

/-- A connection from which nothing has been read. -/
def start : SharedReceive where
  socketMutex := none
  point := fun _ => .outside
  numCalls := 0
  taken := []
  returned := fun _ => none

variable (state : SharedReceive)

def setPoint (thread : ThreadId) (point : Point) : SharedReceive :=
  { state with point := update state.point thread point }

/-- A call begins to use the connection. -/
def enter (thread : ThreadId) (locked : Bool) (call : Call) : SharedReceive :=
  { state with
      socketMutex := if locked then some thread else state.socketMutex
      numCalls := state.numCalls + 1 }.setPoint thread
    (.inside locked state.numCalls call)

/-- The return, which gives the lock back if the call has it. -/
def leave (thread : ThreadId) (locked : Bool) (number : Nat) (value : Int)
    (appended : List UInt8) : SharedReceive :=
  { state with
      socketMutex := if locked then none else state.socketMutex
      returned := update state.returned number (some (value, appended))
      }.setPoint thread .outside

/-- One system call. -/
def resume (thread : ThreadId) (locked : Bool) (number : Nat) (call : Call)
    (syscall : Syscall) (result : SysResult) : SharedReceive :=
  { state with
      taken := state.taken ++
        (syscall.received result).map (Prod.mk number) }.setPoint thread
    (.inside locked number (call.resume result))

/-- The results considered: reads do not fail. -/
def allows (syscall : Syscall) (result : SysResult) : Bool :=
  syscall.admits result &&
    match syscall with
    | .read _ => !result.failsRead
    | _ => true

/-- The step of an action, if it is enabled. -/
def step : Action → Option SharedReceive
  | .receiveData thread =>
      match state.point thread with
      | .outside => some (state.setPoint thread .lock)
      | _ => none
  | .receivePartialData thread dataSize =>
      match state.point thread with
      | .outside =>
          some
            (state.enter thread false
              (TCPServerSocketHandler.receivePartialData dataSize))
      | _ => none
  | .line thread =>
      match state.point thread with
      | .lock =>
          if state.socketMutex = none then
            some (state.enter thread true TCPServerSocketHandler.receiveData)
          else none
      | .inside locked number (.returned value appended) =>
          some (state.leave thread locked number value appended)
      | _ => none
  | .syscall thread result =>
      match state.point thread with
      | .inside locked number call =>
          match call.syscall with
          | some syscall =>
              if allows syscall result then
                some (state.resume thread locked number call syscall result)
              else none
          | none => none
      | _ => none

end SharedReceive

/-- The transition system of the receivers on one store. -/
def sharedReceive : TransitionSystem SharedReceive SharedReceive.Action where
  initial := fun state => state = SharedReceive.start
  step := SharedReceive.step

namespace SharedReceive

/-! ## What a step can do -/

/-- One line or one system call of one thread. -/
inductive Move (state : SharedReceive) : Action → SharedReceive → Prop where
  | wait (thread : ThreadId) (at_point : state.point thread = .outside) :
      Move state (.receiveData thread) (state.setPoint thread .lock)
  | receive (thread : ThreadId) (dataSize : Int)
      (at_point : state.point thread = .outside) :
      Move state (.receivePartialData thread dataSize)
        (state.enter thread false
          (TCPServerSocketHandler.receivePartialData dataSize))
  | lock (thread : ThreadId) (at_point : state.point thread = .lock)
      (unheld : state.socketMutex = none) :
      Move state (.line thread)
        (state.enter thread true TCPServerSocketHandler.receiveData)
  | leave (thread : ThreadId) (locked : Bool) (number : Nat) (value : Int)
      (appended : List UInt8)
      (at_point : state.point thread =
        .inside locked number (.returned value appended)) :
      Move state (.line thread)
        (state.leave thread locked number value appended)
  | resume (thread : ThreadId) (locked : Bool) (number : Nat) (call : Call)
      (syscall : Syscall) (result : SysResult)
      (at_point : state.point thread = .inside locked number call)
      (next : call.syscall = some syscall)
      (allowed : allows syscall result = true) :
      Move state (.syscall thread result)
        (state.resume thread locked number call syscall result)

theorem move_of_step {before after : SharedReceive} {action : Action}
    (taken : sharedReceive.step before action = some after) :
    Move before action after := by
  change before.step action = some after at taken
  cases action with
  | receiveData thread =>
      simp only [step] at taken
      split at taken
      · cases taken
        exact .wait _ ‹_›
      · cases taken
  | receivePartialData thread dataSize =>
      simp only [step] at taken
      split at taken
      · cases taken
        exact .receive _ _ ‹_›
      · cases taken
  | line thread =>
      simp only [step] at taken
      split at taken
      · split at taken
        · cases taken
          exact .lock _ ‹_› ‹_›
        · cases taken
      · cases taken
        exact .leave _ _ _ _ _ ‹_›
      · cases taken
  | syscall thread result =>
      simp only [step] at taken
      split at taken
      · split at taken
        · split at taken
          · cases taken
            exact .resume _ _ _ _ _ _ ‹_› ‹_› ‹_›
          · cases taken
        · cases taken
      · cases taken

/-! ## What every run keeps -/

/-- The stream consumed is one piece for each call that has read, and a call
that has returned a positive count has appended its piece. -/
def InPieces (state : SharedReceive) : Prop :=
  ∃ order piece, order.Nodup ∧ (∀ number ∈ order, piece number ≠ []) ∧
    state.taken = Pieces.join order piece ∧
    ∀ number value appended,
      state.returned number = some (value, appended) → 0 < value →
        number ∈ order ∧ appended = piece number ∧ value = appended.length

/-- Bytes are delivered only to a call that has read none so far, or that has
read the last ones. -/
def Undivided (state : SharedReceive) : Action → Prop
  | .syscall thread result =>
      match state.point thread with
      | .inside _ number _ =>
          result.delivered = [] ∨ Continues number state.taken
      | _ => True
  | _ => True

/-- What a call has staged or appended is what it has read. -/
def Progress (read : List UInt8) : Call → Prop
  | .sizing => read = []
  | .reading _ buffer => buffer = read
  | .returned value appended => appended = read ∧ value = appended.length
  | .threw => read = []
  | _ => False

/-- What holds in every run, whatever the order of the reads. -/
structure Sound (state : SharedReceive) : Prop where
  inside : ∀ thread locked number call,
    state.point thread = .inside locked number call →
      number < state.numCalls ∧ state.returned number = none ∧
        Progress (owned number state.taken) call
  distinct : ∀ first second locked unlocked number call later,
    state.point first = .inside locked number call →
      state.point second = .inside unlocked number later → first = second
  unused : ∀ number, state.numCalls ≤ number →
    state.returned number = none ∧ owned number state.taken = []
  settled : ∀ number value appended,
    state.returned number = some (value, appended) →
      appended = owned number state.taken ∧ value = appended.length

variable {state before after : SharedReceive}

theorem progress_readLoop (dataSize : Nat) (buffer : List UInt8) :
    Progress buffer (TCPServerSocketHandler.readLoop dataSize buffer) := by
  unfold TCPServerSocketHandler.readLoop
  split
  · rfl
  · exact ⟨rfl, rfl⟩

theorem progress_receivePartialData (dataSize : Int) :
    Progress [] (TCPServerSocketHandler.receivePartialData dataSize) := by
  unfold TCPServerSocketHandler.receivePartialData
  split
  · rfl
  · exact progress_readLoop _ _

/-- One system call of a call in progress. -/
theorem Progress.resume {read : List UInt8} {call : Call} {syscall : Syscall}
    {result : SysResult} (progress : Progress read call)
    (next : call.syscall = some syscall)
    (allowed : allows syscall result = true) :
    Progress (read ++ syscall.received result) (call.resume result) := by
  obtain ⟨admitted, succeeds⟩ := Bool.and_eq_true_iff.mp allowed
  cases call with
  | sizing =>
      cases next
      cases progress
      cases result with
      | available amount => exact progress_receivePartialData amount
      | error errno => exact progress_receivePartialData (-1)
      | _ => cases admitted
  | reading dataSize buffer =>
      cases next
      cases progress
      cases result with
      | bytes data =>
          cases data with
          | nil =>
              rw [Syscall.received, List.append_nil]
              exact ⟨rfl, rfl⟩
          | cons byte bytes => exact progress_readLoop _ _
      | error errno =>
          have nothing : ∀ count,
              (Syscall.read count).received (.error errno) = [] :=
            fun _ => rfl
          rw [nothing, List.append_nil]
          cases errno with
          | EINTR => rfl
          | EAGAIN => exact ⟨rfl, rfl⟩
          | _ => cases succeeds
      | _ => cases admitted
  | sending data totalSent => cases progress
  | querying => cases progress
  | ssl => cases progress
  | returned value appended => cases next
  | threw => cases next

/-! ## One lemma for each step -/

/-- Where the threads are after one has moved. -/
theorem point_setPoint {base : SharedReceive} {thread other : ThreadId}
    {point : Point} {locked : Bool} {number : Nat} {call : Call}
    (same : base.point = state.point)
    (at_point : (base.setPoint thread point).point other =
      .inside locked number call) :
    (other = thread ∧ point = .inside locked number call) ∨
      (other ≠ thread ∧ state.point other = .inside locked number call) := by
  by_cases here : other = thread
  · subst here
    left
    simpa only [setPoint, Function.update_self, true_and] using at_point
  · right
    simp only [setPoint, Function.update_of_ne here, same] at at_point
    exact ⟨here, at_point⟩

/-- A thread goes to the lock. -/
theorem Sound.wait (sound : Sound state) (thread : ThreadId) :
    Sound (state.setPoint thread .lock) := by
  have elsewhere : ∀ other locked number call,
      (state.setPoint thread .lock).point other =
        .inside locked number call →
      state.point other = .inside locked number call := by
    intro other locked number call at_point
    rcases point_setPoint rfl at_point with ⟨-, moved⟩ | ⟨-, stays⟩
    · cases moved
    · exact stays
  constructor
  · intro other locked number call at_point
    exact sound.inside other locked number call
      (elsewhere other locked number call at_point)
  · intro first second locked unlocked number call later here there
    exact sound.distinct first second locked unlocked number call later
      (elsewhere first locked number call here)
      (elsewhere second unlocked number later there)
  · exact sound.unused
  · exact sound.settled

/-- A new call has the next number and has read nothing. -/
theorem Sound.enter (sound : Sound state) (thread : ThreadId) (locked : Bool)
    {call : Call} (begins : Progress [] call) :
    Sound (state.enter thread locked call) := by
  have unused := sound.unused state.numCalls (Nat.le_refl _)
  constructor
  · intro other locked number call at_point
    rcases point_setPoint rfl at_point with ⟨-, moved⟩ | ⟨-, stays⟩
    · cases moved
      refine ⟨Nat.lt_succ_self _, unused.1, ?_⟩
      change Progress (owned state.numCalls state.taken) _
      rw [unused.2]
      exact begins
    · obtain ⟨below, progress⟩ := sound.inside other locked number call stays
      exact ⟨Nat.lt_succ_of_lt below, progress⟩
  · intro first second locked unlocked number call later here there
    rcases point_setPoint rfl here with ⟨one, moved⟩ | ⟨-, stays⟩
    · rcases point_setPoint rfl there with ⟨other, -⟩ | ⟨-, remains⟩
      · exact one.trans other.symm
      · cases moved
        have below := (sound.inside second _ _ _ remains).1
        exact absurd below (Nat.lt_irrefl _)
    · rcases point_setPoint rfl there with ⟨-, moved⟩ | ⟨-, remains⟩
      · cases moved
        have below := (sound.inside first _ _ _ stays).1
        exact absurd below (Nat.lt_irrefl _)
      · exact sound.distinct first second _ _ number _ _ stays remains
  · intro number later
    exact sound.unused number (Nat.le_of_succ_le later)
  · exact sound.settled

/-- A call takes bytes, which are then its last ones. -/
theorem Sound.resume (sound : Sound state) {thread : ThreadId} {locked : Bool}
    {number : Nat} {call : Call} {syscall : Syscall} {result : SysResult}
    (at_point : state.point thread = .inside locked number call)
    (next : call.syscall = some syscall)
    (allowed : allows syscall result = true) :
    Sound (state.resume thread locked number call syscall result) := by
  obtain ⟨below, unreturned, progress⟩ :=
    sound.inside thread locked number call at_point
  have others : ∀ other ≠ number,
      owned other (state.resume thread locked number call syscall
        result).taken = owned other state.taken := by
    intro other different
    change owned other (state.taken ++ _) = _
    rw [Pieces.owned_append, Pieces.owned_of_ne different, List.append_nil]
  constructor
  · intro other locked' another later elsewhere
    rcases point_setPoint rfl elsewhere with ⟨-, moved⟩ | ⟨away, stays⟩
    · cases moved
      refine ⟨below, unreturned, ?_⟩
      change Progress (owned number (state.taken ++ _)) _
      rw [Pieces.owned_append, Pieces.owned_self]
      exact progress.resume next allowed
    · obtain ⟨less, silent, continues⟩ :=
        sound.inside other locked' another later stays
      have different : another ≠ number := by
        rintro rfl
        exact away (sound.distinct other thread _ _ another _ _ stays at_point)
      refine ⟨less, silent, ?_⟩
      rw [others another different]
      exact continues
  · intro first second one two another present later here there
    have origin : ∀ other locked' moved,
        (state.resume thread locked number call syscall result).point other =
          .inside locked' another moved →
        ∃ stayed, state.point other = .inside locked' another stayed := by
      intro other locked' moved elsewhere
      rcases point_setPoint rfl elsewhere with ⟨rfl, moved⟩ | ⟨-, stays⟩
      · cases moved
        exact ⟨_, at_point⟩
      · exact ⟨_, stays⟩
    obtain ⟨_, was⟩ := origin first one present here
    obtain ⟨_, were⟩ := origin second two later there
    exact sound.distinct first second _ _ another _ _ was were
  · intro other later
    obtain ⟨silent, nothing⟩ := sound.unused other later
    refine ⟨silent, ?_⟩
    rw [others other (Nat.ne_of_gt (Nat.lt_of_lt_of_le below later))]
    exact nothing
  · intro other value appended returned
    have different : other ≠ number := by
      rintro rfl
      cases unreturned.symm.trans returned
    rw [others other different]
    exact sound.settled other value appended returned

/-- A call returns what it has read. -/
theorem Sound.leave (sound : Sound state) {thread : ThreadId} {locked : Bool}
    {number : Nat} {value : Int} {appended : List UInt8}
    (at_point : state.point thread =
      .inside locked number (.returned value appended)) :
    Sound (state.leave thread locked number value appended) := by
  obtain ⟨below, -, progress⟩ := sound.inside thread locked number _ at_point
  have elsewhere : ∀ other locked' another call,
      (state.leave thread locked number value appended).point other =
        .inside locked' another call →
      other ≠ thread ∧ state.point other = .inside locked' another call := by
    intro other locked' another call there
    rcases point_setPoint rfl there with ⟨-, moved⟩ | stays
    · cases moved
    · exact stays
  constructor
  · intro other locked' another call there
    obtain ⟨away, stays⟩ := elsewhere other locked' another call there
    obtain ⟨less, silent, continues⟩ :=
      sound.inside other locked' another call stays
    have different : another ≠ number := by
      rintro rfl
      exact away (sound.distinct other thread _ _ another _ _ stays at_point)
    refine ⟨less, ?_, continues⟩
    change update state.returned number _ another = none
    rw [Function.update_of_ne different]
    exact silent
  · intro first second one two another call later here there
    exact sound.distinct first second _ _ another _ _
      (elsewhere first one another call here).2
      (elsewhere second two another later there).2
  · intro other later
    obtain ⟨silent, nothing⟩ := sound.unused other later
    have different : other ≠ number :=
      Nat.ne_of_gt (Nat.lt_of_lt_of_le below later)
    refine ⟨?_, nothing⟩
    change update state.returned number _ other = none
    rw [Function.update_of_ne different]
    exact silent
  · intro other result published returned
    change update state.returned number (some (value, appended)) other =
      some (result, published) at returned
    by_cases here : other = number
    · rw [here, Function.update_self] at returned
      cases returned
      rw [here]
      exact progress
    · rw [Function.update_of_ne here] at returned
      exact sound.settled other result published returned

theorem Sound.step {action : Action} (sound : Sound before)
    (taken : sharedReceive.step before action = some after) : Sound after := by
  cases move_of_step taken with
  | wait thread => exact sound.wait thread
  | receive thread dataSize =>
      exact sound.enter thread false (progress_receivePartialData dataSize)
  | lock thread => exact sound.enter thread true rfl
  | leave thread locked number value appended at_point =>
      exact sound.leave at_point
  | resume thread locked number call syscall result at_point next allowed =>
      exact sound.resume at_point next allowed

theorem sound_start : Sound start where
  inside := by
    intro thread locked number call at_point
    cases at_point
  distinct := by
    intro first second locked unlocked number call later at_point
    cases at_point
  unused := fun _ _ => ⟨rfl, rfl⟩
  settled := by
    intro number value appended returned
    cases returned

theorem sound_of_reachable (reachable : sharedReceive.Reachable state) :
    Sound state := by
  refine TransitionSystem.Reachable.invariant ?_ ?_ reachable
  · intro state initially
    cases initially
    exact sound_start
  · intro before action after _ taken sound
    exact sound.step taken

/-! ## Pieces -/

/-- What a call has appended is its piece, if there are pieces at all. -/
theorem Sound.inPieces_iff (sound : Sound state) :
    InPieces state ↔ Pieces.Whole state.taken := by
  constructor
  · rintro ⟨order, piece, nodup, nonempty, joined, -⟩
    exact ⟨order, piece, nodup, nonempty, joined⟩
  · rintro ⟨order, piece, nodup, nonempty, joined⟩
    refine ⟨order, piece, nodup, nonempty, joined, ?_⟩
    intro number value appended returned positive
    obtain ⟨read, length⟩ := sound.settled number value appended returned
    have some_bytes : owned number state.taken ≠ [] := by
      rw [← read]
      apply List.ne_nil_of_length_pos
      omega
    have member : number ∈ order := by
      apply Pieces.mem_of_owner
      rw [← joined]
      exact Pieces.mem_of_owned some_bytes
    refine ⟨member, ?_, length⟩
    rw [read, joined]
    exact Pieces.owned_join nodup member

/-- A step keeps the stream in pieces exactly when it does not deliver bytes to
a call that others have read after. -/
theorem inPieces_step_iff {action : Action}
    (reachable : sharedReceive.Reachable before) (whole : InPieces before)
    (taken : sharedReceive.step before action = some after) :
    InPieces after ↔ Undivided before action := by
  have sound := sound_of_reachable reachable
  have soundAfter : Sound after := sound.step taken
  rw [sound.inPieces_iff] at whole
  rw [soundAfter.inPieces_iff]
  cases move_of_step taken with
  | resume thread locked number call syscall result at_point next allowed =>
      have admitted := (Bool.and_eq_true_iff.mp allowed).1
      simp only [Undivided, at_point]
      change Pieces.Whole (before.taken ++
        (syscall.received result).map (Prod.mk number)) ↔ _
      rw [received_eq_delivered admitted]
      by_cases nothing : result.delivered = []
      · rw [nothing, List.map_nil, List.append_nil]
        exact iff_of_true whole (.inl rfl)
      · rw [Pieces.whole_append_iff whole nothing]
        simp [nothing]
  | _ => exact iff_of_true whole trivial

/-- No call's bytes are split by another's at any point of a run exactly when
every read of the run that delivers bytes is the first of its call that does,
or the one before it was of the same call. -/
theorem in_pieces_throughout_iff (actions : List Action) :
    sharedReceive.Throughout InPieces start actions ↔
      sharedReceive.Along Undivided start actions := by
  have begun : sharedReceive.Reachable start := .initial rfl
  have whole : InPieces start :=
    (sound_of_reachable begun).inPieces_iff.mpr .nil
  apply TransitionSystem.throughout_iff_along _ begun whole
  intro before action after reachable good taken
  exact inPieces_step_iff reachable good taken

/-! ## Calls that take the lock -/

/-- Every entry point but `receivePartialData` takes the mutex before it
reads. -/
def Action.locks : Action → Bool
  | .receivePartialData _ _ => false
  | _ => true

/-- Only the newest call is open, and its bytes are the last ones. -/
structure Serial (state : SharedReceive) : Prop where
  holder : ∀ thread locked number call,
    state.point thread = .inside locked number call →
      locked = true ∧ state.socketMutex = some thread ∧
        number + 1 = state.numCalls
  newest : ∀ number, number + 1 = state.numCalls →
    Continues number state.taken

theorem Serial.wait (serial : Serial state) (thread : ThreadId) :
    Serial (state.setPoint thread .lock) := by
  constructor
  · intro other locked number call at_point
    rcases point_setPoint rfl at_point with ⟨-, moved⟩ | ⟨-, stays⟩
    · cases moved
    · exact serial.holder other locked number call stays
  · exact serial.newest

theorem Serial.enter (serial : Serial state) (sound : Sound state)
    (thread : ThreadId) (unheld : state.socketMutex = none) (call : Call) :
    Serial (state.enter thread true call) := by
  constructor
  · intro other locked number later at_point
    rcases point_setPoint rfl at_point with ⟨rfl, moved⟩ | ⟨-, stays⟩
    · cases moved
      exact ⟨rfl, rfl, rfl⟩
    · have held := (serial.holder other locked number later stays).2.1
      cases unheld.symm.trans held
  · intro number last
    cases last
    left
    apply Pieces.not_mem_of_owned
    exact (sound.unused state.numCalls (Nat.le_refl _)).2

theorem Serial.resume (serial : Serial state) {thread : ThreadId}
    {locked : Bool} {number : Nat} {call : Call} (syscall : Syscall)
    (result : SysResult)
    (at_point : state.point thread = .inside locked number call) :
    Serial (state.resume thread locked number call syscall result) := by
  obtain ⟨locks, held, last⟩ := serial.holder thread locked number call at_point
  constructor
  · intro other locked' another later elsewhere
    rcases point_setPoint rfl elsewhere with ⟨rfl, moved⟩ | ⟨-, stays⟩
    · cases moved
      exact ⟨locks, held, last⟩
    · exact serial.holder other locked' another later stays
  · intro other newest
    have same : other = number := by
      have one : other + 1 = state.numCalls := newest
      omega
    rw [same]
    exact (serial.newest number last).append

theorem Serial.leave (serial : Serial state) {thread : ThreadId}
    {locked : Bool} {number : Nat} {call : Call} (value : Int)
    (appended : List UInt8)
    (at_point : state.point thread = .inside locked number call) :
    Serial (state.leave thread locked number value appended) := by
  have held := (serial.holder thread locked number call at_point).2.1
  constructor
  · intro other locked' another later elsewhere
    rcases point_setPoint rfl elsewhere with ⟨-, moved⟩ | ⟨away, stays⟩
    · cases moved
    · have holds := (serial.holder other locked' another later stays).2.1
      exact absurd (Option.some.inj (holds.symm.trans held)) away
  · exact serial.newest

theorem Serial.step {action : Action} (serial : Serial before)
    (sound : Sound before) (locks : action.locks = true)
    (taken : sharedReceive.step before action = some after) :
    Serial after := by
  cases move_of_step taken with
  | wait thread => exact serial.wait thread
  | receive thread dataSize => cases locks
  | lock thread at_point unheld => exact serial.enter sound thread unheld _
  | leave thread locked number value appended at_point =>
      exact serial.leave value appended at_point
  | resume thread locked number call syscall result at_point =>
      exact serial.resume syscall result at_point

/-- The newest call is the one that reads. -/
theorem Serial.undivided (serial : Serial state) (action : Action) :
    Undivided state action := by
  cases action with
  | syscall thread result =>
      simp only [Undivided]
      split
      · rename_i at_point
        right
        exact serial.newest _ (serial.holder _ _ _ _ at_point).2.2
      · trivial
  | _ => trivial

/-- While no thread calls `receivePartialData`, no call's bytes are split. -/
theorem inPieces_of_locks
    (reached : sharedReceive.Reached
      (fun _ action => action.locks = true) state) : InPieces state := by
  have kept : Serial state ∧ InPieces state := by
    refine TransitionSystem.Reached.invariant ?_ ?_ reached
    · intro state initially
      cases initially
      refine ⟨⟨?_, ?_⟩, sound_start.inPieces_iff.mpr .nil⟩
      · intro thread locked number call at_point
        cases at_point
      · intro number last
        cases last
    · rintro before action after reached locks taken ⟨serial, whole⟩
      have reachable := reached.reachable
      have sound := sound_of_reachable reachable
      refine ⟨serial.step sound locks taken, ?_⟩
      rw [inPieces_step_iff reachable whole taken]
      exact serial.undivided action
  exact kept.2

/-- Two calls of `receivePartialData`; the second reads between two reads of the
first. -/
theorem pieces_split :
    ¬∀ state, sharedReceive.Reachable state → InPieces state := by
  intro always
  have begun : sharedReceive.Reachable start := .initial rfl
  have reachable := TransitionSystem.reachable_of_run begun
    (show sharedReceive.run start
      [.receivePartialData 0 4, .receivePartialData 1 2,
        .syscall 0 (.bytes [1, 2]), .syscall 1 (.bytes [3, 4]),
        .syscall 0 (.bytes [5, 6]), .line 0, .line 1] = some _ from rfl)
  obtain ⟨order, piece, nodup, -, joined, -⟩ := always _ reachable
  have split : List.Sublist [0, 1, 0]
      ((Pieces.join order piece).map Prod.fst) := by
    rw [← joined]
    decide
  exact Pieces.not_split nodup (by decide) split

end SharedReceive

end EventPlus

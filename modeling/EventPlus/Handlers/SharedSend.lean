/-
Module: EventPlus.Handlers.SharedSend
Purpose: Calls of `sendData` by several threads on one TCP store, and the order
  in which their bytes reach the connection.
Trusted boundary: none
Main exports:
  SharedSend, SharedSend.step, sharedSend, SharedSend.Explains,
  SharedSend.accepted_in_lock_order
-/
import Mathlib.Data.List.Infix
import Mathlib.Logic.Function.Basic
import EventPlus.Handlers.SendData

namespace EventPlus

open Function (update)

namespace SharedSend

abbrev ThreadId := Nat

/-- A thread's place: outside `sendData`, before the lock, or behind it.  A
call is numbered when it has the lock. -/
inductive Point where
  | outside
  | lock (data : List UInt8)
  | inside (number : Nat) (call : Call)
deriving Repr, Inhabited, DecidableEq

inductive Action where
  | call (thread : ThreadId) (data : List UInt8)
  | line (thread : ThreadId)
  | send (thread : ThreadId) (result : SysResult)
deriving Repr, Inhabited, DecidableEq

end SharedSend

open SharedSend in
/-- A store, the threads in `sendData` on it, and what the kernel has accepted
on its connection.  The last three fields are history: the calls in the order
they took `m_socketMutex`, with their data and what they returned. -/
structure SharedSend where
  socketMutex : Option ThreadId
  point : ThreadId → Point
  accepted : List UInt8
  numCalls : Nat
  payload : Nat → List UInt8
  returned : Nat → Option Int

namespace SharedSend

/-- An open connection on which nothing has been sent. -/
def start : SharedSend where
  socketMutex := none
  point := fun _ => .outside
  accepted := []
  numCalls := 0
  payload := fun _ => []
  returned := fun _ => none

variable (state : SharedSend)

def setPoint (thread : ThreadId) (point : Point) : SharedSend :=
  { state with point := update state.point thread point }

/-- The lock, and the head of the loop behind it. -/
def lock (thread : ThreadId) (data : List UInt8) : SharedSend :=
  { state with
      socketMutex := some thread
      numCalls := state.numCalls + 1
      payload := update state.payload state.numCalls data }.setPoint thread
    (.inside state.numCalls (TCPServerSocketHandler.sendData data))

/-- The return, which gives the lock back. -/
def unlock (thread : ThreadId) (number : Nat) (value : Int) : SharedSend :=
  { state with
      socketMutex := none
      returned := update state.returned number (some value) }.setPoint thread
    .outside

/-- One `send`. -/
def send (thread : ThreadId) (number : Nat) (call : Call)
    (syscall : Syscall) (result : SysResult) : SharedSend :=
  { state with
      accepted := state.accepted ++ syscall.accepted result }.setPoint thread
    (.inside number (call.resume result))

/-- The step of an action, if it is enabled. -/
def step : Action → Option SharedSend
  | .call thread data =>
      match state.point thread with
      | .outside => some (state.setPoint thread (.lock data))
      | _ => none
  | .line thread =>
      match state.point thread with
      | .lock data =>
          if state.socketMutex = none then some (state.lock thread data)
          else none
      | .inside number (.returned value _) =>
          some (state.unlock thread number value)
      | _ => none
  | .send thread result =>
      match state.point thread with
      | .inside number call =>
          match call.syscall with
          | some syscall =>
              if syscall.admits result then
                some (state.send thread number call syscall result)
              else none
          | none => none
      | _ => none

end SharedSend

/-- The transition system of the senders on one store. -/
def sharedSend : TransitionSystem SharedSend SharedSend.Action where
  initial := fun state => state = SharedSend.start
  step := SharedSend.step

namespace SharedSend

/-- What a call that has the lock has sent. -/
def Progress (data piece : List UInt8) : Call → Prop
  | .sending rest totalSent =>
      rest = data ∧ totalSent < data.length ∧ piece = data.take totalSent
  | .returned value _ =>
      data ≠ [] → (value = data.length ↔ piece = data)
  | _ => False

/-- The bytes accepted are one piece for each call, in the order of the lock:
a prefix of the call's data, and all of it exactly if the call returned the
length. -/
structure Explains (piece : Nat → List UInt8) (state : SharedSend) :
    Prop where
  accepted : state.accepted = (List.range state.numCalls).flatMap piece
  follows : ∀ number < state.numCalls, piece number <+: state.payload number
  whole : ∀ number < state.numCalls, ∀ value,
    state.returned number = some value → state.payload number ≠ [] →
      (value = (state.payload number).length ↔
        piece number = state.payload number)

/-- The same with what the call behind the lock is doing. -/
structure Sound (piece : Nat → List UInt8) (state : SharedSend) : Prop
    extends Explains piece state where
  holder : ∀ thread number call, state.point thread = .inside number call →
    state.socketMutex = some thread
  newest : ∀ thread number call, state.point thread = .inside number call →
    number + 1 = state.numCalls ∧ state.returned number = none ∧
      Progress (state.payload number) (piece number) call
  unreturned : ∀ number, state.numCalls ≤ number →
    state.returned number = none

variable {state before after : SharedSend} {piece : Nat → List UInt8}

/-- The head of the loop, with what has been sent so far. -/
theorem progress_sendLoop {data : List UInt8} {totalSent : Nat}
    (within : totalSent ≤ data.length) :
    Progress data (data.take totalSent)
      (TCPServerSocketHandler.sendLoop data totalSent) := by
  rcases Nat.lt_or_eq_of_le within with more | all
  · rw [sendLoop_of_lt more]
    exact ⟨rfl, more, rfl⟩
  · subst all
    rw [sendLoop_of_le (Nat.le_refl _), List.take_length]
    intro _
    exact iff_of_true rfl rfl

/-- A call that gives up before the end does not return the length. -/
theorem progress_given_up {data : List UInt8} {totalSent : Nat}
    (more : totalSent < data.length) {value : Int}
    (small : value = 0 ∨ value = -1) :
    Progress data (data.take totalSent) (.returned value []) := by
  intro nonempty
  have some_bytes := List.length_pos_iff.mpr nonempty
  refine iff_of_false (by omega) ?_
  intro all
  have length := congrArg List.length all
  rw [List.length_take] at length
  omega

/-- One `send` of the call behind the lock. -/
theorem Progress.send {data sent : List UInt8} {call : Call}
    {syscall : Syscall} {result : SysResult}
    (progress : Progress data sent call) (next : call.syscall = some syscall)
    (admitted : syscall.admits result = true) :
    Progress data (sent ++ syscall.accepted result) (call.resume result) ∧
      sent ++ syscall.accepted result <+: data := by
  cases call with
  | sending rest totalSent =>
      obtain ⟨rfl, more, rfl⟩ := progress
      cases next
      cases result with
      | sent count =>
          have offered : count ≤ rest.length - totalSent := by
            simpa [Syscall.admits] using admitted
          have grown : rest.take totalSent ++ (rest.drop totalSent).take count =
              rest.take (totalSent + count) := List.take_add.symm
          simp only [Syscall.accepted, grown]
          refine ⟨?_, List.take_prefix _ _⟩
          cases count with
          | zero => exact progress_given_up more (.inl rfl)
          | succ count =>
              have within : totalSent + (count + 1) ≤ rest.length := by omega
              exact progress_sendLoop within
      | error errno =>
          simp only [Syscall.accepted, List.append_nil]
          refine ⟨?_, List.take_prefix _ _⟩
          cases errno with
          | EINTR => exact ⟨rfl, more, rfl⟩
          | _ => exact progress_given_up more (.inr rfl)
      | bytes bytes => cases admitted
      | available amount => cases admitted
  | returned value appended => cases next
  | _ => cases progress

/-! ## One lemma for each step -/

/-- Where the threads are after one has moved. -/
theorem inside_setPoint {base : SharedSend} {thread other : ThreadId}
    {point : Point} {number : Nat} {call : Call}
    (same : base.point = state.point)
    (at_point : (base.setPoint thread point).point other =
      .inside number call) :
    (other = thread ∧ point = .inside number call) ∨
      (other ≠ thread ∧ state.point other = .inside number call) := by
  by_cases here : other = thread
  · subst here
    left
    simpa only [setPoint, Function.update_self, true_and] using at_point
  · right
    simp only [setPoint, Function.update_of_ne here, same] at at_point
    exact ⟨here, at_point⟩

/-- A thread moves outside the lock. -/
theorem Sound.setPoint (sound : Sound piece state) {thread : ThreadId}
    {point : Point} (away : ∀ number call, point ≠ .inside number call) :
    Sound piece (state.setPoint thread point) := by
  have elsewhere : ∀ other number call,
      (state.setPoint thread point).point other = .inside number call →
        state.point other = .inside number call := by
    intro other number call at_point
    rcases inside_setPoint rfl at_point with ⟨-, moved⟩ | ⟨-, stays⟩
    · exact absurd moved (away number call)
    · exact stays
  exact
    { sound with
      holder := fun other number call at_point =>
        sound.holder other number call (elsewhere other number call at_point)
      newest := fun other number call at_point =>
        sound.newest other number call
          (elsewhere other number call at_point) }

/-- The last piece apart from the others. -/
theorem flatMap_range_update (piece : Nat → List UInt8) (number : Nat)
    (last : List UInt8) :
    (List.range (number + 1)).flatMap (update piece number last) =
      (List.range number).flatMap piece ++ last := by
  have earlier : (List.range number).flatMap (update piece number last) =
      (List.range number).flatMap piece := by
    apply List.flatMap_congr
    intro other member
    have different := Nat.ne_of_lt (List.mem_range.mp member)
    exact Function.update_of_ne different _ _
  rw [List.range_succ, List.flatMap_append, earlier]
  simp

/-- The new call gets the next number and an empty piece. -/
theorem Sound.lock (sound : Sound piece state) {thread : ThreadId}
    (unheld : state.socketMutex = none) (data : List UInt8) :
    Sound (update piece state.numCalls []) (state.lock thread data) := by
  have nobody : ∀ other number call,
      state.point other ≠ .inside number call := by
    intro other number call at_point
    cases unheld.symm.trans (sound.holder other number call at_point)
  refine ⟨⟨?_, ?_, ?_⟩, ?_, ?_, ?_⟩
  · change state.accepted = (List.range (state.numCalls + 1)).flatMap _
    rw [flatMap_range_update, List.append_nil]
    exact sound.accepted
  · intro number below
    change update piece state.numCalls [] number <+:
      update state.payload state.numCalls data number
    by_cases newest : number = state.numCalls
    · simp [newest]
    · rw [Function.update_of_ne newest, Function.update_of_ne newest]
      exact sound.follows number (Nat.lt_of_le_of_ne (Nat.le_of_lt_succ below)
        newest)
  · intro number below value returned
    change state.returned number = some value at returned
    have earlier : number < state.numCalls := by
      apply Classical.byContradiction
      intro later
      cases returned.symm.trans (sound.unreturned number (by omega))
    have different := Nat.ne_of_lt earlier
    simp only [SharedSend.lock, SharedSend.setPoint,
      Function.update_of_ne different]
    exact sound.whole number earlier value returned
  · intro other number call at_point
    rcases inside_setPoint rfl at_point with ⟨here, -⟩ | ⟨-, stays⟩
    · rw [here]
      rfl
    · exact absurd stays (nobody other number call)
  · intro other number call at_point
    rcases inside_setPoint rfl at_point with ⟨-, moved⟩ | ⟨-, stays⟩
    · cases moved
      refine ⟨rfl, sound.unreturned _ (Nat.le_refl _), ?_⟩
      simp only [SharedSend.lock, SharedSend.setPoint, Function.update_self]
      exact progress_sendLoop (Nat.zero_le _)
    · exact absurd stays (nobody other number call)
  · intro number later
    exact sound.unreturned number (Nat.le_of_succ_le later)

/-- The holder is the only thread behind the lock. -/
theorem Sound.inside_unique (sound : Sound piece state)
    {first second : ThreadId} {number other : Nat} {call later : Call}
    (here : state.point first = .inside number call)
    (there : state.point second = .inside other later) : first = second :=
  Option.some.inj
    ((sound.holder first number call here).symm.trans
      (sound.holder second other later there))

/-- The holder sends; its piece grows. -/
theorem Sound.send (sound : Sound piece state) {thread : ThreadId}
    {number : Nat} {call : Call} {syscall : Syscall} {result : SysResult}
    (at_point : state.point thread = .inside number call)
    (next : call.syscall = some syscall)
    (admitted : syscall.admits result = true) :
    Sound (update piece number (piece number ++ syscall.accepted result))
      (state.send thread number call syscall result) := by
  obtain ⟨newest, unreturned, progress⟩ :=
    sound.newest thread number call at_point
  obtain ⟨progresses, follows⟩ := progress.send next admitted
  refine ⟨⟨?_, ?_, ?_⟩, ?_, ?_, sound.unreturned⟩
  · change state.accepted ++ syscall.accepted result =
      (List.range state.numCalls).flatMap _
    rw [← newest, flatMap_range_update, ← List.append_assoc,
      sound.accepted, ← newest, List.range_succ, List.flatMap_append]
    simp
  · intro other below
    change update piece number _ other <+: state.payload other
    by_cases same : other = number
    · rw [same, Function.update_self]
      exact follows
    · rw [Function.update_of_ne same]
      exact sound.follows other below
  · intro other below value returned
    change state.returned other = some value at returned
    have different : other ≠ number := by
      rintro rfl
      cases unreturned.symm.trans returned
    rw [Function.update_of_ne different]
    exact sound.whole other below value returned
  · intro other another later elsewhere
    rcases inside_setPoint rfl elsewhere with ⟨here, -⟩ | ⟨away, stays⟩
    · rw [here]
      exact sound.holder thread number call at_point
    · exact absurd (sound.inside_unique stays at_point) away
  · intro other another later elsewhere
    rcases inside_setPoint rfl elsewhere with ⟨-, moved⟩ | ⟨away, stays⟩
    · cases moved
      rw [Function.update_self]
      exact ⟨newest, unreturned, progresses⟩
    · exact absurd (sound.inside_unique stays at_point) away

/-- The holder returns. -/
theorem Sound.unlock (sound : Sound piece state) {thread : ThreadId}
    {number : Nat} {value : Int} {appended : List UInt8}
    (at_point : state.point thread =
      .inside number (.returned value appended)) :
    Sound piece (state.unlock thread number value) := by
  obtain ⟨newest, unreturned, progress⟩ :=
    sound.newest thread number _ at_point
  have nobody : ∀ other another later,
      (state.unlock thread number value).point other ≠
        .inside another later := by
    intro other another later elsewhere
    rcases inside_setPoint rfl elsewhere with ⟨-, moved⟩ | ⟨away, stays⟩
    · cases moved
    · exact away (sound.inside_unique stays at_point)
  refine ⟨⟨sound.accepted, sound.follows, ?_⟩, ?_, ?_, ?_⟩
  · intro other below result returned
    change update state.returned number (some value) other = some result
      at returned
    by_cases same : other = number
    · subst same
      rw [Function.update_self] at returned
      cases returned
      exact progress
    · rw [Function.update_of_ne same] at returned
      exact sound.whole other below result returned
  · intro other another later elsewhere
    exact absurd elsewhere (nobody other another later)
  · intro other another later elsewhere
    exact absurd elsewhere (nobody other another later)
  · intro other later
    change state.numCalls ≤ other at later
    change update state.returned number (some value) other = none
    rw [Function.update_of_ne (by omega)]
    exact sound.unreturned other later

theorem Sound.step {action : Action} (sound : Sound piece before)
    (taken : before.step action = some after) :
    ∃ next, Sound next after := by
  cases action with
  | call thread data =>
      simp only [SharedSend.step] at taken
      split at taken
      · cases taken
        refine ⟨piece, sound.setPoint ?_⟩
        intro number call inside
        cases inside
      · cases taken
  | line thread =>
      simp only [SharedSend.step] at taken
      split at taken
      · split at taken
        · rename_i unheld
          cases taken
          exact ⟨_, sound.lock unheld _⟩
        · cases taken
      · rename_i at_point
        cases taken
        exact ⟨piece, sound.unlock at_point⟩
      · cases taken
  | send thread result =>
      simp only [SharedSend.step] at taken
      split at taken
      · rename_i at_point
        split at taken
        · rename_i next
          split at taken
          · rename_i admitted
            cases taken
            exact ⟨_, sound.send at_point next admitted⟩
          · cases taken
        · cases taken
      · cases taken

theorem sound_start : Sound (fun _ => []) start where
  accepted := rfl
  follows := by
    intro number below
    cases below
  whole := by
    intro number below
    cases below
  holder := by
    intro thread number call at_point
    cases at_point
  newest := by
    intro thread number call at_point
    cases at_point
  unreturned := fun _ _ => rfl

/-- The bytes accepted on a connection are one prefix of each call's data, in
the order in which the calls took the mutex, and the whole data exactly for the
calls that returned its length. -/
theorem accepted_in_lock_order (reachable : sharedSend.Reachable state) :
    ∃ piece, Explains piece state := by
  have sound : ∃ piece, Sound piece state := by
    refine TransitionSystem.Reachable.invariant ?_ ?_ reachable
    · intro state initially
      cases initially
      exact ⟨_, sound_start⟩
    · rintro before action after - taken ⟨piece, sound⟩
      exact sound.step taken
  obtain ⟨piece, sound⟩ := sound
  exact ⟨piece, sound.toExplains⟩

/-- Two calls; the first one fails after two of its three bytes, the second one
waits for it. -/
theorem accepted_in_lock_order_two :
    ∃ state, sharedSend.Reachable state ∧ state.accepted = [1, 2, 7] ∧
      ∃ piece, Explains piece state := by
  have begun : sharedSend.Reachable start := .initial rfl
  have reachable := TransitionSystem.reachable_of_run begun
    (show sharedSend.run start
      [.call 0 [1, 2, 3], .call 1 [7], .line 0, .send 0 (.sent 2),
        .send 0 (.error .EAGAIN), .line 0, .line 1, .send 1 (.sent 1),
        .line 1] = some _ from rfl)
  exact ⟨_, reachable, rfl, accepted_in_lock_order reachable⟩

end SharedSend

end EventPlus

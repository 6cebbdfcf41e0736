/-
Module: EventPlus.Server.EventScheduler
Purpose: `EventScheduler::addSocket` with the integer types of its index, called
  by any number of threads, and how it spreads the calls over the pollers.
Trusted boundary: none
Main exports:
  EventScheduler, EventScheduler.nextIndex, EventScheduler.handlerAt,
  Scheduling, scheduling, Scheduling.Spread, Scheduling.spread_of_reachable
-/
import EventPlus.Library.RoundRobin
import EventPlus.Library.TransitionSystem
import EventPlus.Server.State

namespace EventPlus

open Function (update)
open RoundRobin (turns)

/-! ## The scheduler

`m_currentIndex` is an `int` and `m_numThreads` a `size_t`.
-/

/-- The fields of `EventScheduler`.  Of a poller only the sockets that its
`epoll_ctl` has accepted are kept. -/
structure EventScheduler where
  socketEventHandlers : List (List ConnectionId)
  currentIndex : BitVec 32
  numThreads : BitVec 64
deriving Repr, Inhabited, DecidableEq

namespace EventScheduler

/-- How a line can fail: without a defined result, or with the exception of
`std::vector::at`. -/
inductive Failure where
  | overflow
  | divisionByZero
  | outOfRange
deriving Repr, Inhabited, DecidableEq

/-- The constructor. -/
def construct (numThreads : BitVec 64) : EventScheduler where
  socketEventHandlers := List.replicate numThreads.toNat []
  currentIndex := 0
  numThreads := numThreads

variable (scheduler : EventScheduler)

/-- `(m_currentIndex + 1) % m_numThreads`, as it is stored in
`m_currentIndex`.  The sum is an `int`, which the division converts to
`size_t`. -/
def nextIndex : Except Failure (BitVec 32) :=
  if scheduler.currentIndex.toInt = 2147483647 then .error .overflow
  else if scheduler.numThreads = 0 then .error .divisionByZero
  else
    let sum := (scheduler.currentIndex + 1).signExtend 64
    .ok ((sum % scheduler.numThreads).setWidth 32)

/-- The position `m_socketEventHandlers.at(m_currentIndex)` looks at. -/
def handlerAt : Except Failure Nat :=
  let position := (scheduler.currentIndex.signExtend 64).toNat
  if position < scheduler.socketEventHandlers.length then .ok position
  else .error .outOfRange

/-- `SocketEventHandler::addSocket` of one poller, with the outcome of
`epoll_ctl`. -/
def addTo (position : Nat) (store : ConnectionId) (added : Bool) :
    EventScheduler :=
  { scheduler with
      socketEventHandlers :=
        if added then
          scheduler.socketEventHandlers.modify position (· ++ [store])
        else scheduler.socketEventHandlers }

end EventScheduler

/-! ## Concurrent calls -/

namespace Scheduling

/-- A thread that calls `addSocket`. -/
abbrev CallerId := Nat

/-- The place of a caller in `addSocket`. -/
inductive Point where
  | outside
  | lock (store : ConnectionId)
  | advance (store : ConnectionId)
  | delegate (store : ConnectionId)
  | unlock (added : Bool)
  | failed (failure : EventScheduler.Failure)
deriving Repr, Inhabited, DecidableEq

/-- Whether the caller holds `m_mutex`. -/
def Point.inside : Point → Bool
  | .advance _ => true
  | .delegate _ => true
  | .unlock _ => true
  | _ => false

/-- A caller enters `addSocket`, or executes its next line.  `added` is the
outcome of `epoll_ctl` where the line makes that call. -/
inductive Action where
  | call (caller : CallerId) (store : ConnectionId)
  | line (caller : CallerId) (added : Bool)
deriving Repr, Inhabited, DecidableEq

end Scheduling

open Scheduling in
/-- A scheduler and its callers.  `routed` is history: the positions of the
pollers that `addSocket` was called on, oldest first. -/
structure Scheduling where
  scheduler : EventScheduler
  mutex : Option CallerId
  point : CallerId → Point
  routed : List Nat

namespace Scheduling

variable (state : Scheduling)

def setPoint (caller : CallerId) (point : Point) : Scheduling :=
  { state with point := update state.point caller point }

/-- The step of an action, if it is enabled.  An exception gives the lock
back; after an operation without a defined result nothing follows. -/
def step : Action → Option Scheduling
  | .call caller store =>
      match state.point caller with
      | .outside => some (state.setPoint caller (.lock store))
      | _ => none
  | .line caller added =>
      match state.point caller with
      | .outside => none
      | .lock store =>
          if state.mutex = none then
            some
              ({ state with mutex := some caller }.setPoint caller
                (.advance store))
          else none
      | .advance store =>
          match state.scheduler.nextIndex with
          | .ok index =>
              let advanced := { state.scheduler with currentIndex := index }
              some
                ({ state with scheduler := advanced }.setPoint caller
                  (.delegate store))
          | .error failure => some (state.setPoint caller (.failed failure))
      | .delegate store =>
          match state.scheduler.handlerAt with
          | .ok position =>
              some
                ({ state with
                    scheduler := state.scheduler.addTo position store added
                    routed := state.routed ++ [position] }.setPoint caller
                  (.unlock added))
          | .error failure =>
              some
                ({ state with mutex := none }.setPoint caller
                  (.failed failure))
      | .unlock _ =>
          some ({ state with mutex := none }.setPoint caller .outside)
      | .failed _ => none

end Scheduling

/-- The transition system of the callers of a scheduler built with
`numThreads` pollers. -/
def scheduling (numThreads : Nat) :
    TransitionSystem Scheduling Scheduling.Action where
  initial := fun state =>
    state =
      { scheduler := .construct (BitVec.ofNat 64 numThreads)
        mutex := none
        point := fun _ => .outside
        routed := [] }
  step := Scheduling.step

/-! ## The index -/

/-- An `int` that is not negative keeps its value as a `size_t`. -/
theorem toNat_widened {index : BitVec 32} (small : index.toNat < 2 ^ 31) :
    (index.signExtend 64).toNat = index.toNat := by
  have same : (index.signExtend 64).toInt = index.toInt :=
    BitVec.toInt_signExtend_of_le (by decide)
  have narrow := BitVec.toInt_eq_toNat_cond index
  have wide := BitVec.toInt_eq_toNat_cond (index.signExtend 64)
  have bound := (index.signExtend 64).isLt
  omega

namespace EventScheduler

variable {scheduler : EventScheduler} {numThreads : Nat}

/-- The scheduler has its pollers, and the index is that of one of them. -/
structure InRange (numThreads : Nat) (scheduler : EventScheduler) : Prop where
  threads : scheduler.numThreads.toNat = numThreads
  handlers : scheduler.socketEventHandlers.length = numThreads
  index : scheduler.currentIndex.toNat < numThreads

theorem inRange_construct (some_thread : 1 ≤ numThreads)
    (fits : numThreads < 2 ^ 31) :
    (construct (BitVec.ofNat 64 numThreads)).InRange numThreads := by
  have same : (BitVec.ofNat 64 numThreads).toNat = numThreads :=
    Nat.mod_eq_of_lt (by omega)
  exact
    { threads := same
      handlers := by rw [construct, List.length_replicate, same]
      index := some_thread }

/-- The index advances by one, around the number of pollers; nothing overflows
and no conversion changes a value. -/
theorem InRange.nextIndex (inRange : scheduler.InRange numThreads)
    (fits : numThreads < 2 ^ 31) :
    ∃ index, scheduler.nextIndex = .ok index ∧
      index.toNat = (scheduler.currentIndex.toNat + 1) % numThreads := by
  obtain ⟨threads, -, below⟩ := inRange
  have no_overflow : scheduler.currentIndex.toInt ≠ 2147483647 := by
    have value := BitVec.toInt_eq_toNat_cond scheduler.currentIndex
    omega
  have nonzero : scheduler.numThreads ≠ 0 := by
    intro zero
    rw [zero] at threads
    have none : 0 = numThreads := threads
    omega
  have sum : (scheduler.currentIndex + 1).toNat =
      scheduler.currentIndex.toNat + 1 := by
    rw [BitVec.toNat_add]
    exact Nat.mod_eq_of_lt (by change _ + 1 < _; omega)
  have remainder : (scheduler.currentIndex.toNat + 1) % numThreads <
      numThreads := Nat.mod_lt _ (by omega)
  refine ⟨_, by rw [EventScheduler.nextIndex, if_neg no_overflow,
    if_neg nonzero], ?_⟩
  rw [BitVec.toNat_setWidth, BitVec.toNat_umod, threads,
    toNat_widened (by omega), sum]
  exact Nat.mod_eq_of_lt (by omega)

/-- `at` finds the poller whose index was computed. -/
theorem InRange.handlerAt (inRange : scheduler.InRange numThreads)
    (fits : numThreads < 2 ^ 31) :
    scheduler.handlerAt = .ok scheduler.currentIndex.toNat := by
  obtain ⟨-, handlers, below⟩ := inRange
  rw [EventScheduler.handlerAt, toNat_widened (by omega)]
  exact if_pos (by omega)

theorem InRange.advanced (inRange : scheduler.InRange numThreads)
    {index : BitVec 32} (below : index.toNat < numThreads) :
    { scheduler with currentIndex := index }.InRange numThreads :=
  { inRange with index := below }

theorem InRange.addTo (inRange : scheduler.InRange numThreads)
    (position : Nat) (store : ConnectionId) (added : Bool) :
    (scheduler.addTo position store added).InRange numThreads := by
  cases added with
  | false => exact inRange
  | true =>
      exact
        { inRange with
            handlers :=
              (List.length_modify _ _ _).trans inRange.handlers }

/-- The index of the server's model is the one the integer types give. -/
theorem InRange.nextIndex_server {config : Config} {server : Server}
    (inRange : scheduler.InRange config.numPollers)
    (fits : config.numPollers < 2 ^ 31)
    (same : scheduler.currentIndex.toNat = server.currentIndex) :
    ∃ index, scheduler.nextIndex = .ok index ∧
      index.toNat = server.nextIndex config := by
  rw [Server.nextIndex, ← same]
  exact inRange.nextIndex fits

end EventScheduler

/-! ## The callers -/

namespace Scheduling

/-- What a step can do. -/
inductive Move (before : Scheduling) : Action → Scheduling → Prop where
  | call (caller : CallerId) (store : ConnectionId)
      (at_point : before.point caller = .outside) :
      Move before (.call caller store) (before.setPoint caller (.lock store))
  | lock (caller : CallerId) (store : ConnectionId) (added : Bool)
      (at_point : before.point caller = .lock store)
      (free : before.mutex = none) :
      Move before (.line caller added)
        ({ before with mutex := some caller }.setPoint caller
          (.advance store))
  | advance (caller : CallerId) (store : ConnectionId) (added : Bool)
      (index : BitVec 32) (at_point : before.point caller = .advance store)
      (next : before.scheduler.nextIndex = .ok index) :
      Move before (.line caller added)
        ({ before with
            scheduler :=
              { before.scheduler with currentIndex := index } }.setPoint caller
          (.delegate store))
  | advanceFailed (caller : CallerId) (store : ConnectionId) (added : Bool)
      (failure : EventScheduler.Failure)
      (at_point : before.point caller = .advance store)
      (next : before.scheduler.nextIndex = .error failure) :
      Move before (.line caller added)
        (before.setPoint caller (.failed failure))
  | delegate (caller : CallerId) (store : ConnectionId) (added : Bool)
      (position : Nat) (at_point : before.point caller = .delegate store)
      (found : before.scheduler.handlerAt = .ok position) :
      Move before (.line caller added)
        ({ before with
            scheduler := before.scheduler.addTo position store added
            routed := before.routed ++ [position] }.setPoint caller
          (.unlock added))
  | delegateFailed (caller : CallerId) (store : ConnectionId) (added : Bool)
      (failure : EventScheduler.Failure)
      (at_point : before.point caller = .delegate store)
      (found : before.scheduler.handlerAt = .error failure) :
      Move before (.line caller added)
        ({ before with mutex := none }.setPoint caller (.failed failure))
  | unlock (caller : CallerId) (result added : Bool)
      (at_point : before.point caller = .unlock result) :
      Move before (.line caller added)
        ({ before with mutex := none }.setPoint caller .outside)

theorem move_of_step {before after : Scheduling} {action : Action}
    (taken : before.step action = some after) : Move before action after := by
  cases action with
  | call caller store =>
      simp only [step] at taken
      split at taken
      · cases taken
        exact .call caller store ‹_›
      · cases taken
  | line caller added =>
      simp only [step] at taken
      split at taken
      · cases taken
      · rename_i store at_point
        split at taken
        · cases taken
          exact .lock caller store added at_point ‹_›
        · cases taken
      · rename_i store at_point
        split at taken
        · cases taken
          exact .advance caller store added _ at_point ‹_›
        · cases taken
          exact .advanceFailed caller store added _ at_point ‹_›
      · rename_i store at_point
        split at taken
        · cases taken
          exact .delegate caller store added _ at_point ‹_›
        · cases taken
          exact .delegateFailed caller store added _ at_point ‹_›
      · cases taken
        exact .unlock caller _ added ‹_›
      · cases taken

/-- Where a caller is after one of them has moved. -/
theorem point_setPoint {base : Scheduling} {caller other : CallerId}
    {next point : Point}
    (at_point : (base.setPoint caller next).point other = point) :
    other = caller ∧ next = point ∨
      other ≠ caller ∧ base.point other = point := by
  by_cases same : other = caller
  · subst same
    left
    simpa only [setPoint, Function.update_self, true_and] using at_point
  · right
    simp only [setPoint, Function.update_of_ne same] at at_point
    exact ⟨same, at_point⟩

variable {numThreads : Nat} {state before after : Scheduling}

/-- The calls take their turns.  Only the holder of the lock can be between
the two lines that use the index, and there the index is one turn ahead. -/
structure InTurn (numThreads : Nat) (state : Scheduling) : Prop where
  inRange : state.scheduler.InRange numThreads
  holder : ∀ caller, (state.point caller).inside = true →
    state.mutex = some caller
  defined : ∀ caller failure, state.point caller ≠ .failed failure
  routed : state.routed = turns numThreads state.routed.length
  ahead : ∀ caller store, state.point caller = .delegate store →
    state.scheduler.currentIndex.toNat =
      (state.routed.length + 1) % numThreads
  level : (∀ caller store, state.point caller ≠ .delegate store) →
    state.scheduler.currentIndex.toNat = state.routed.length % numThreads

/-- Only one caller is inside. -/
theorem InTurn.alone (inTurn : state.InTurn numThreads)
    {caller other : CallerId} (one : (state.point caller).inside = true)
    (another : (state.point other).inside = true) : other = caller := by
  have first := inTurn.holder caller one
  rw [inTurn.holder other another] at first
  exact Option.some.inj first

/-- The holder keeps the lock as it moves on. -/
theorem InTurn.holder_setPoint (inTurn : state.InTurn numThreads)
    {caller : CallerId} (here : (state.point caller).inside = true)
    (next : Point) (other : CallerId)
    (inside : ((state.setPoint caller next).point other).inside = true) :
    state.mutex = some other := by
  by_cases same : other = caller
  · rw [same]
    exact inTurn.holder caller here
  · simp only [setPoint, Function.update_of_ne same] at inside
    exact inTurn.holder other inside

/-- A line that is neither of the two leaves the turns as they are. -/
theorem InTurn.besides (inTurn : state.InTurn numThreads)
    {mutex : Option CallerId} {caller : CallerId} {next : Point}
    (left : ∀ store, state.point caller ≠ .delegate store)
    (reached : ∀ store, next ≠ .delegate store)
    (defined : ∀ failure, next ≠ .failed failure)
    (holder : ∀ other,
      (({ state with mutex := mutex }.setPoint caller next).point
        other).inside = true → mutex = some other) :
    ({ state with mutex := mutex }.setPoint caller next).InTurn
      numThreads := by
  refine ⟨inTurn.inRange, holder, ?_, inTurn.routed, ?_, ?_⟩
  · intro other failure at_point
    rcases point_setPoint at_point with ⟨-, moved⟩ | ⟨-, stays⟩
    · exact defined failure moved
    · exact inTurn.defined other failure stays
  · intro other store at_point
    rcases point_setPoint at_point with ⟨-, moved⟩ | ⟨-, stays⟩
    · exact absurd moved (reached store)
    · exact inTurn.ahead other store stays
  · intro nobody
    apply inTurn.level
    intro other store at_point
    by_cases same : other = caller
    · subst same
      exact left store at_point
    · apply nobody other store
      simpa only [setPoint, Function.update_of_ne same] using at_point

/-- The new index is that of the next turn. -/
theorem InTurn.advance (inTurn : state.InTurn numThreads)
    (fits : numThreads < 2 ^ 31) {caller : CallerId} {store : ConnectionId}
    {index : BitVec 32} (at_point : state.point caller = .advance store)
    (next : state.scheduler.nextIndex = .ok index) :
    ({ state with
        scheduler :=
          { state.scheduler with currentIndex := index } }.setPoint caller
      (.delegate store)).InTurn numThreads := by
  have here : (state.point caller).inside = true := by rw [at_point]; rfl
  have nobody : ∀ other store, state.point other ≠ .delegate store := by
    intro other store elsewhere
    have inside : (state.point other).inside = true := by
      rw [elsewhere]
      rfl
    have same := inTurn.alone here inside
    rw [same, at_point] at elsewhere
    cases elsewhere
  obtain ⟨computed, ok, value⟩ := inTurn.inRange.nextIndex fits
  rw [next] at ok
  cases ok
  have turn : index.toNat = (state.routed.length + 1) % numThreads := by
    rw [value, inTurn.level nobody, Nat.mod_add_mod]
  refine ⟨inTurn.inRange.advanced ?_, inTurn.holder_setPoint here _, ?_,
    inTurn.routed, ?_, ?_⟩
  · have below := inTurn.inRange.index
    rw [turn]
    exact Nat.mod_lt _ (by omega)
  · intro other failure elsewhere
    rcases point_setPoint elsewhere with ⟨-, moved⟩ | ⟨-, stays⟩
    · cases moved
    · exact inTurn.defined other failure stays
  · intro other store _
    exact turn
  · intro nobody_there
    apply absurd _ (nobody_there caller store)
    exact Function.update_self _ _ _

/-- The call goes to the poller whose turn it is. -/
theorem InTurn.delegate (inTurn : state.InTurn numThreads)
    (fits : numThreads < 2 ^ 31) {caller : CallerId} {store : ConnectionId}
    {position : Nat} (at_point : state.point caller = .delegate store)
    (found : state.scheduler.handlerAt = .ok position) (added : Bool) :
    ({ state with
        scheduler := state.scheduler.addTo position store added
        routed := state.routed ++ [position] }.setPoint caller
      (.unlock added)).InTurn numThreads := by
  have here : (state.point caller).inside = true := by rw [at_point]; rfl
  have turn := inTurn.ahead caller store at_point
  rw [inTurn.inRange.handlerAt fits] at found
  cases found
  have nobody : ∀ other next, (state.setPoint caller (.unlock added)).point
      other ≠ .delegate next := by
    intro other next elsewhere
    rcases point_setPoint elsewhere with ⟨-, moved⟩ | ⟨away, stays⟩
    · cases moved
    · exact away (inTurn.alone here (by rw [stays]; rfl))
  refine ⟨inTurn.inRange.addTo _ store added, inTurn.holder_setPoint here _,
    ?_, ?_, ?_, ?_⟩
  · intro other failure elsewhere
    rcases point_setPoint elsewhere with ⟨-, moved⟩ | ⟨-, stays⟩
    · cases moved
    · exact inTurn.defined other failure stays
  · change state.routed ++ [state.scheduler.currentIndex.toNat] =
      turns numThreads (state.routed ++ [_]).length
    rw [List.length_append, List.length_singleton, RoundRobin.turns_succ,
      ← inTurn.routed, turn]
  · intro other next elsewhere
    exact absurd elsewhere (nobody other next)
  · intro _
    change state.scheduler.currentIndex.toNat =
      (state.routed ++ [_]).length % numThreads
    rw [List.length_append, List.length_singleton, turn]

theorem InTurn.move (inTurn : state.InTurn numThreads)
    (fits : numThreads < 2 ^ 31) {action : Action}
    (move : Move state action after) : after.InTurn numThreads := by
  cases move with
  | call caller store at_point =>
      refine inTurn.besides (by simp [at_point]) (by simp) (by simp) ?_
      intro other inside
      by_cases same : other = caller
      · simp [setPoint, same, Point.inside] at inside
      · simp only [setPoint, Function.update_of_ne same] at inside
        exact inTurn.holder other inside
  | lock caller store added at_point free =>
      apply inTurn.besides (by simp [at_point]) (by simp) (by simp)
      intro other inside
      by_cases same : other = caller
      · rw [same]
      · simp only [setPoint, Function.update_of_ne same] at inside
        have taken := inTurn.holder other inside
        rw [free] at taken
        cases taken
  | advance caller store added index at_point next =>
      exact inTurn.advance fits at_point next
  | advanceFailed caller store added failure at_point next =>
      obtain ⟨index, ok, -⟩ := inTurn.inRange.nextIndex fits
      cases ok.symm.trans next
  | delegate caller store added position at_point found =>
      exact inTurn.delegate fits at_point found added
  | delegateFailed caller store added failure at_point found =>
      cases (inTurn.inRange.handlerAt fits).symm.trans found
  | unlock caller result added at_point =>
      apply inTurn.besides (by simp [at_point]) (by simp) (by simp)
      intro other inside
      by_cases same : other = caller
      · simp [setPoint, same, Point.inside] at inside
      · simp only [setPoint, Function.update_of_ne same] at inside
        apply absurd _ same
        exact inTurn.alone (by rw [at_point]; rfl) inside

theorem inTurn_of_reachable (some_thread : 1 ≤ numThreads)
    (fits : numThreads < 2 ^ 31)
    (reachable : (scheduling numThreads).Reachable state) :
    state.InTurn numThreads := by
  refine TransitionSystem.Reachable.invariant ?_ ?_ reachable
  · rintro initially rfl
    exact
      { inRange := EventScheduler.inRange_construct some_thread fits
        holder := fun _ inside => by cases inside
        defined := fun _ _ at_point => by cases at_point
        routed := rfl
        ahead := fun _ _ at_point => by cases at_point
        level := fun _ => (Nat.zero_mod _).symm }
  · intro before action after _ taken inTurn
    exact inTurn.move fits (move_of_step taken)

/-! ## The spread of the calls -/

/-- No call fails, the index is that of a poller, every call has been routed to
one, and no poller has got two calls more than another. -/
structure Spread (numThreads : Nat) (state : Scheduling) : Prop where
  defined : ∀ caller failure, state.point caller ≠ .failed failure
  index : 0 ≤ state.scheduler.currentIndex.toInt ∧
    state.scheduler.currentIndex.toInt < numThreads
  exist : ∀ position ∈ state.routed,
    position < state.scheduler.socketEventHandlers.length
  balanced : ∀ first second, first < numThreads → second < numThreads →
    state.routed.count first ≤ state.routed.count second + 1

/-- However many threads call `addSocket`, in whatever order, and whatever
`epoll_ctl` answers. -/
theorem spread_of_reachable {numThreads : Nat} (some_thread : 1 ≤ numThreads)
    (fits : numThreads < 2 ^ 31) {state : Scheduling}
    (reachable : (scheduling numThreads).Reachable state) :
    state.Spread numThreads := by
  have inTurn := inTurn_of_reachable some_thread fits reachable
  have below := inTurn.inRange.index
  have value := BitVec.toInt_eq_toNat_cond state.scheduler.currentIndex
  constructor
  · exact inTurn.defined
  · omega
  · intro position routed
    rw [inTurn.inRange.handlers]
    rw [inTurn.routed] at routed
    exact RoundRobin.mem_turns_lt some_thread routed
  · intro first second one other
    rw [inTurn.routed]
    exact RoundRobin.turns_balanced some_thread one other _

/-- Two callers and two pollers, the first call refused by `epoll_ctl`. -/
def interleaved : List Action :=
  [.call 0 10, .call 1 11, .line 0 false, .line 0 false, .line 0 false,
    .line 0 false, .line 1 true, .line 1 true, .line 1 true, .line 1 true]

theorem spread_of_reachable_two : ∃ state : Scheduling,
    (scheduling 2).Reachable state ∧ state.routed = [1, 0] ∧
      state.Spread 2 := by
  have reached : ∃ state : Scheduling,
      (scheduling 2).Reachable state ∧ state.routed = [1, 0] :=
    TransitionSystem.exists_reached_of_replay interleaved rfl (by decide)
  obtain ⟨state, reached, routed⟩ := reached
  exact ⟨state, reached, routed,
    spread_of_reachable (by decide) (by decide) reached⟩

end Scheduling

end EventPlus

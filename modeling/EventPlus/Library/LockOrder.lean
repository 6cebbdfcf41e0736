/-
Module: EventPlus.Library.LockOrder
Purpose: Threads that run code with calls and non-recursive mutexes, and the
  rule that keeps them from waiting in a circle: each mutex has a rank, and one
  is only taken above all those the thread holds.
Trusted boundary: none
Main exports:
  Locking.Instruction, Locking.Code, Locking.Threads, Locking.Code.system,
  Locking.Waits, Locking.Deadlocked, Locking.Order,
  Locking.Order.not_waits_own, Locking.Order.not_deadlocked
-/
import Mathlib.Data.List.Nodup
import Mathlib.Logic.Function.Basic
import Mathlib.Order.WellFounded
import EventPlus.Library.TransitionSystem

/-!
A thread is a stack of frames.  A frame is a place in one function with that
function's locals, and `line` says what the function does there, given the
shared data and what the environment replies.  The order is stated for frames:
`holds` lists the mutexes a frame has taken, the last one first, and all that
the frame or its callees have taken or will take rank at least `floor`.
-/

universe u v w x y z

namespace Locking

open Function (update)

variable {δ : Type u} {φ : Type v} {μ : Type w} {α : Type x} {τ : Type y}

/-- What a line does: take or release a mutex, write the shared data, call a
function, or return from this one.  `next` is where the function goes on. -/
inductive Instruction (δ : Type u) (φ : Type v) (μ : Type w) where
  | lock (mutex : μ) (next : φ)
  | unlock (mutex : μ) (next : φ)
  | goto (data : δ) (next : φ)
  | call (callee next : φ)
  | ret

/-- Functions with their lines.  A thread may start at the frames of `entry`,
and a line without an instruction is not taken. -/
structure Code (δ : Type u) (φ : Type v) (μ : Type w) (α : Type x) where
  entry : φ → Bool
  line : δ → φ → α → Option (Instruction δ φ μ)

/-- Threads that share data and mutexes. -/
structure Threads (δ : Type u) (φ : Type v) (μ : Type w) (τ : Type y) where
  data : δ
  holder : μ → Option τ
  stack : τ → List φ

/-- A thread with nothing to do starts a function, or a thread takes its next
line. -/
inductive Action (φ : Type v) (α : Type x) (τ : Type y) where
  | start (thread : τ) (frame : φ)
  | line (thread : τ) (reply : α)

section Machine

variable [DecidableEq μ] [DecidableEq τ]

def Threads.setStack (threads : Threads δ φ μ τ) (thread : τ)
    (stack : List φ) : Threads δ φ μ τ :=
  { threads with stack := update threads.stack thread stack }

def Threads.setHolder (threads : Threads δ φ μ τ) (mutex : μ)
    (holder : Option τ) : Threads δ φ μ τ :=
  { threads with holder := update threads.holder mutex holder }

/-- The effect of an instruction in the frame above `rest`.  A mutex that is
held cannot be taken, not even by its holder. -/
def Threads.perform (threads : Threads δ φ μ τ) (thread : τ)
    (rest : List φ) : Instruction δ φ μ → Option (Threads δ φ μ τ)
  | .lock mutex next =>
      if (threads.holder mutex).isNone then
        some
          ((threads.setHolder mutex (some thread)).setStack thread
            (next :: rest))
      else none
  | .unlock mutex next =>
      some ((threads.setHolder mutex none).setStack thread (next :: rest))
  | .goto data next =>
      some ({ threads with data := data }.setStack thread (next :: rest))
  | .call callee next =>
      some (threads.setStack thread (callee :: next :: rest))
  | .ret => some (threads.setStack thread rest)

namespace Code

variable (code : Code δ φ μ α)

def step (threads : Threads δ φ μ τ) :
    Action φ α τ → Option (Threads δ φ μ τ)
  | .start thread frame =>
      match threads.stack thread with
      | [] =>
          if code.entry frame then some (threads.setStack thread [frame])
          else none
      | _ :: _ => none
  | .line thread reply =>
      match threads.stack thread with
      | [] => none
      | frame :: rest =>
          (code.line threads.data frame reply).bind
            (threads.perform thread rest)

/-- Any threads that run this code.  They start outside it, with all mutexes
free and the shared data arbitrary. -/
def system : TransitionSystem (Threads δ φ μ τ) (Action φ α τ) where
  initial := fun threads =>
    (∀ mutex, threads.holder mutex = none) ∧
      ∀ thread, threads.stack thread = []
  step := code.step

end Code

end Machine

/-- A thread has come to a line that takes the mutex. -/
def AtLock (code : Code δ φ μ α) (threads : Threads δ φ μ τ) (thread : τ)
    (mutex : μ) : Prop :=
  ∃ frame rest reply next, threads.stack thread = frame :: rest ∧
    code.line threads.data frame reply = some (.lock mutex next)

/-- A thread waits for a mutex that `other` holds. -/
def Waits (code : Code δ φ μ α) (threads : Threads δ φ μ τ) (thread : τ)
    (mutex : μ) (other : τ) : Prop :=
  AtLock code threads thread mutex ∧ threads.holder mutex = some other

/-- Each thread of the set waits for a mutex that one of the set holds. -/
def Deadlocked (code : Code δ φ μ α) (threads : Threads δ φ μ τ)
    (waiting : Set τ) : Prop :=
  waiting.Nonempty ∧
    ∀ thread ∈ waiting, ∃ mutex, ∃ other ∈ waiting,
      Waits code threads thread mutex other

/-! ## The order -/

section Ranks

variable {ρ : Type z} [LinearOrder ρ]

/-- What an instruction has to respect in a frame. -/
def Instruction.Respects (rank : μ → ρ) (floor : φ → ρ) (holds : φ → List μ)
    (frame : φ) : Instruction δ φ μ → Prop
  | .lock mutex next =>
      floor frame ≤ floor next ∧ holds next = mutex :: holds frame ∧
        ∀ held ∈ holds frame, rank held < rank mutex
  | .unlock mutex next =>
      floor frame ≤ floor next ∧ holds frame = mutex :: holds next
  | .goto _ next => floor frame ≤ floor next ∧ holds next = holds frame
  | .call callee next =>
      floor frame ≤ floor next ∧ holds next = holds frame ∧
        floor frame ≤ floor callee ∧ holds callee = [] ∧
        ∀ held ∈ holds frame, rank held < floor callee
  | .ret => holds frame = []

/-- Every line of the code takes mutexes in the order of their ranks. -/
structure Order (code : Code δ φ μ α) (rank : μ → ρ) (floor : φ → ρ)
    (holds : φ → List μ) : Prop where
  entry : ∀ frame, code.entry frame = true → holds frame = []
  floor_le : ∀ frame, ∀ mutex ∈ holds frame, floor frame ≤ rank mutex
  line : ∀ {data frame reply instruction},
    code.line data frame reply = some instruction →
      instruction.Respects rank floor holds frame

/-- The mutexes a stack of frames has taken. -/
def held (holds : φ → List μ) (stack : List φ) : List μ :=
  stack.flatMap holds

/-- Each frame holds mutexes above all those held below it. -/
def Stacked (rank : μ → ρ) (floor : φ → ρ) (holds : φ → List μ) :
    List φ → Prop
  | [] => True
  | frame :: rest =>
      (holds frame).Nodup ∧
        (∀ mutex ∈ held holds rest, rank mutex < floor frame) ∧
        Stacked rank floor holds rest

theorem held_cons (holds : φ → List μ) (frame : φ) (rest : List φ) :
    held holds (frame :: rest) = holds frame ++ held holds rest :=
  List.flatMap_cons

variable {rank : μ → ρ} {floor : φ → ρ} {holds : φ → List μ}

/-- A frame that holds what the one it replaces held. -/
theorem Stacked.goto {frame next : φ} {rest : List φ}
    (stacked : Stacked rank floor holds (frame :: rest))
    (rises : floor frame ≤ floor next) (same : holds next = holds frame) :
    Stacked rank floor holds (next :: rest) := by
  obtain ⟨distinct, below, tail⟩ := stacked
  refine ⟨?_, ?_, tail⟩
  · rw [same]
    exact distinct
  · intro mutex member
    exact lt_of_lt_of_le (below mutex member) rises

/-- The frames' account of the mutexes agrees with the table of holders. -/
structure Sound (rank : μ → ρ) (floor : φ → ρ) (holds : φ → List μ)
    (threads : Threads δ φ μ τ) : Prop where
  stacked : ∀ thread, Stacked rank floor holds (threads.stack thread)
  holder : ∀ mutex thread, threads.holder mutex = some thread ↔
    mutex ∈ held holds (threads.stack thread)

section Soundness

variable [DecidableEq μ] [DecidableEq τ] {code : Code δ φ μ α}
  {threads before after : Threads δ φ μ τ}

omit [DecidableEq μ] in
/-- One thread changes its stack, and the table with it. -/
theorem Sound.turn (sound : Sound rank floor holds threads) {thread : τ}
    {base : Threads δ φ μ τ} (frames : base.stack = threads.stack)
    {stack : List φ} (stacked : Stacked rank floor holds stack)
    (mine : ∀ mutex, base.holder mutex = some thread ↔
      mutex ∈ held holds stack)
    (others : ∀ mutex other, other ≠ thread →
      (base.holder mutex = some other ↔
        threads.holder mutex = some other)) :
    Sound rank floor holds (base.setStack thread stack) := by
  constructor
  · intro other
    by_cases same : other = thread
    · subst same
      simpa only [Threads.setStack, Function.update_self] using stacked
    · simpa only [Threads.setStack, Function.update_of_ne same, frames] using
        sound.stacked other
  · intro mutex other
    change base.holder mutex = some other ↔ _
    by_cases same : other = thread
    · subst same
      simpa only [Threads.setStack, Function.update_self] using mine mutex
    · rw [others mutex other same]
      simpa only [Threads.setStack, Function.update_of_ne same, frames] using
        sound.holder mutex other

omit [DecidableEq μ] in
/-- One thread changes its stack but not what it holds. -/
theorem Sound.keep (sound : Sound rank floor holds threads) {thread : τ}
    {base : Threads δ φ μ τ} (frames : base.stack = threads.stack)
    (holders : base.holder = threads.holder) {stack : List φ}
    (stacked : Stacked rank floor holds stack)
    (same : held holds stack = held holds (threads.stack thread)) :
    Sound rank floor holds (base.setStack thread stack) := by
  apply sound.turn frames stacked
  · intro mutex
    rw [holders, same]
    exact sound.holder mutex thread
  · intro mutex other _
    rw [holders]

/-- A thread takes a mutex that nobody holds. -/
theorem Sound.lock (sound : Sound rank floor holds threads) {thread : τ}
    {mutex : μ} (unheld : threads.holder mutex = none) {stack : List φ}
    (stacked : Stacked rank floor holds stack)
    (more : held holds stack = mutex :: held holds (threads.stack thread)) :
    Sound rank floor holds
      ((threads.setHolder mutex (some thread)).setStack thread stack) := by
  apply sound.turn _ stacked
  · intro other
    rw [more, List.mem_cons]
    by_cases same : other = mutex
    · simp [Threads.setHolder, same]
    · simp only [Threads.setHolder, Function.update_of_ne same, same,
        false_or]
      exact sound.holder other thread
  · intro other holder different
    by_cases same : other = mutex
    · subst same
      simp [Threads.setHolder, unheld, Ne.symm different]
    · simp [Threads.setHolder, Function.update_of_ne same]
  · rfl

/-- A thread gives back the mutex it took last. -/
theorem Sound.unlock (sound : Sound rank floor holds threads) {thread : τ}
    {mutex : μ} {stack : List φ} (stacked : Stacked rank floor holds stack)
    (less : held holds (threads.stack thread) = mutex :: held holds stack)
    (once : mutex ∉ held holds stack) :
    Sound rank floor holds
      ((threads.setHolder mutex none).setStack thread stack) := by
  have mine : threads.holder mutex = some thread := by
    rw [sound.holder, less]
    exact List.mem_cons_self
  apply sound.turn _ stacked
  · intro other
    by_cases same : other = mutex
    · subst same
      simp [Threads.setHolder, once]
    · have unchanged := sound.holder other thread
      rw [less, List.mem_cons] at unchanged
      simpa [Threads.setHolder, Function.update_of_ne same, same] using
        unchanged
  · intro other holder different
    by_cases same : other = mutex
    · subst same
      simp [Threads.setHolder, mine, Ne.symm different]
    · simp [Threads.setHolder, Function.update_of_ne same]
  · rfl

omit [DecidableEq μ] [DecidableEq τ] in
/-- What a frame holds ranks above what its callers hold. -/
theorem Order.not_mem_below (order : Order code rank floor holds)
    {frame : φ} {rest : List φ}
    (stacked : Stacked rank floor holds (frame :: rest)) {mutex : μ}
    (member : mutex ∈ holds frame) : mutex ∉ held holds rest := by
  intro below
  have under := stacked.2.1 mutex below
  exact absurd (order.floor_le frame mutex member) (not_le_of_gt under)

theorem Order.sound_perform (order : Order code rank floor holds)
    (sound : Sound rank floor holds before) {thread : τ} {frame : φ}
    {rest : List φ} (at_frame : before.stack thread = frame :: rest)
    {instruction : Instruction δ φ μ}
    (respects : instruction.Respects rank floor holds frame)
    (performed : before.perform thread rest instruction = some after) :
    Sound rank floor holds after := by
  have stacked := sound.stacked thread
  rw [at_frame] at stacked
  cases instruction with
  | lock mutex next =>
      obtain ⟨rises, more, above⟩ := respects
      simp only [Threads.perform] at performed
      split at performed
      · rename_i unheld
        cases performed
        apply sound.lock (Option.isNone_iff_eq_none.mp unheld)
        · refine ⟨?_, ?_, stacked.2.2⟩
          · rw [more, List.nodup_cons]
            refine ⟨?_, stacked.1⟩
            intro member
            exact absurd (above mutex member) (lt_irrefl _)
          · intro below member
            exact lt_of_lt_of_le (stacked.2.1 below member) rises
        · rw [at_frame, held_cons, held_cons, more, List.cons_append]
      · cases performed
  | unlock mutex next =>
      obtain ⟨rises, less⟩ := respects
      cases performed
      have distinct := stacked.1
      rw [less, List.nodup_cons] at distinct
      apply sound.unlock
      · refine ⟨distinct.2, ?_, stacked.2.2⟩
        intro below member
        exact lt_of_lt_of_le (stacked.2.1 below member) rises
      · rw [at_frame, held_cons, held_cons, less, List.cons_append]
      · rw [held_cons, List.mem_append, not_or]
        refine ⟨distinct.1, order.not_mem_below stacked ?_⟩
        rw [less]
        exact List.mem_cons_self
  | goto data next =>
      obtain ⟨rises, same⟩ := respects
      cases performed
      apply sound.keep _ _ (stacked.goto rises same)
      · rw [at_frame, held_cons, held_cons, same]
      · rfl
      · rfl
  | call callee next =>
      obtain ⟨rises, same, climbs, nothing, above⟩ := respects
      cases performed
      apply sound.keep rfl rfl
      · refine ⟨?_, ?_, stacked.goto rises same⟩
        · rw [nothing]
          exact List.nodup_nil
        · intro below member
          rw [held_cons, same, List.mem_append] at member
          rcases member with own | lower
          · exact above below own
          · exact lt_of_lt_of_le (stacked.2.1 below lower) climbs
      · rw [at_frame, held_cons, held_cons, held_cons, nothing, same,
          List.nil_append]
  | ret =>
      cases performed
      apply sound.keep rfl rfl stacked.2.2
      rw [at_frame, held_cons, respects, List.nil_append]

theorem Order.sound_step (order : Order code rank floor holds)
    {action : Action φ α τ} (taken : code.step before action = some after)
    (sound : Sound rank floor holds before) :
    Sound rank floor holds after := by
  cases action with
  | start thread frame =>
      simp only [Code.step] at taken
      split at taken
      · rename_i idle
        split at taken
        · rename_i entered
          cases taken
          have nothing := order.entry frame entered
          apply sound.keep rfl rfl
          · refine ⟨?_, ?_, trivial⟩
            · rw [nothing]
              exact List.nodup_nil
            · intro mutex member
              cases member
          · rw [idle, held_cons, nothing, List.nil_append]
        · cases taken
      · cases taken
  | line thread reply =>
      simp only [Code.step] at taken
      split at taken
      · cases taken
      · rename_i frame rest at_frame
        obtain ⟨instruction, line, performed⟩ :=
          Option.bind_eq_some_iff.mp taken
        exact order.sound_perform sound at_frame (order.line line) performed

theorem Order.sound_of_reachable (order : Order code rank floor holds)
    (reachable : code.system.Reachable threads) :
    Sound rank floor holds threads := by
  refine TransitionSystem.Reachable.invariant ?_ ?_ reachable
  · intro threads initially
    obtain ⟨unheld, idle⟩ := initially
    constructor
    · intro thread
      rw [idle thread]
      trivial
    · intro mutex thread
      rw [unheld mutex, idle thread]
      simp [held]
  · intro before action after _ taken sound
    exact order.sound_step taken sound

omit [DecidableEq μ] [DecidableEq τ] in
/-- A thread takes a mutex above all those it holds. -/
theorem Order.rank_lt (order : Order code rank floor holds)
    (sound : Sound rank floor holds threads) {thread : τ}
    {wanted taken : μ} (at_lock : AtLock code threads thread wanted)
    (owned : threads.holder taken = some thread) :
    rank taken < rank wanted := by
  obtain ⟨frame, rest, reply, next, at_frame, line⟩ := at_lock
  obtain ⟨rises, more, above⟩ := order.line line
  have stacked := sound.stacked thread
  rw [at_frame] at stacked
  have member := (sound.holder taken thread).mp owned
  rw [at_frame, held_cons, List.mem_append] at member
  rcases member with own | lower
  · exact above taken own
  · have here : wanted ∈ holds next := by
      rw [more]
      exact List.mem_cons_self
    calc rank taken < floor frame := stacked.2.1 taken lower
      _ ≤ floor next := rises
      _ ≤ rank wanted := order.floor_le next wanted here

/-- No thread waits for a mutex it holds. -/
theorem Order.not_waits_own (order : Order code rank floor holds)
    (reachable : code.system.Reachable threads) (thread : τ) (mutex : μ) :
    ¬Waits code threads thread mutex thread := by
  rintro ⟨at_lock, owned⟩
  have sound := order.sound_of_reachable reachable
  exact lt_irrefl _ (order.rank_lt sound at_lock owned)

/-- No set of threads waits for itself: the one that waits for the mutex of the
highest rank would hold one of a rank as high. -/
theorem Order.not_deadlocked [WellFoundedGT ρ]
    (order : Order code rank floor holds)
    (reachable : code.system.Reachable threads) (waiting : Set τ) :
    ¬Deadlocked code threads waiting := by
  rintro ⟨⟨first, member⟩, circle⟩
  have sound := order.sound_of_reachable reachable
  let wanted : Set ρ := fun height =>
    ∃ thread mutex, ∃ other ∈ waiting,
      Waits code threads thread mutex other ∧ rank mutex = height
  have inhabited : wanted.Nonempty := by
    obtain ⟨mutex, other, inside, waits⟩ := circle first member
    exact ⟨rank mutex, first, mutex, other, inside, waits, rfl⟩
  have above : WellFounded ((· > ·) : ρ → ρ → Prop) := wellFounded_gt
  obtain ⟨height, found, highest⟩ := above.has_min wanted inhabited
  obtain ⟨thread, mutex, other, inside, waits, rfl⟩ := found
  obtain ⟨next, third, third_inside, also_waits⟩ := circle other inside
  have higher : rank mutex < rank next :=
    order.rank_lt sound also_waits.1 waits.2
  have wanted_too : rank next ∈ wanted :=
    ⟨other, next, third, third_inside, also_waits, rfl⟩
  exact highest (rank next) wanted_too higher

end Soundness

end Ranks

end Locking

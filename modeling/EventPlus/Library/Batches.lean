/-
Module: EventPlus.Library.Batches
Purpose: A queue whose elements arrive one by one and are served in batches,
  each up to the next element that closes one, and exactly which of them have
  been served by the end of a run.
Trusted boundary: none
Main exports:
  Batches.afterFirst, Batches.queue, Batches.backlog_lt_iff,
  Batches.served_iff
-/
import Mathlib.Data.List.Basic
import Mathlib.Data.List.Infix
import Mathlib.Logic.Function.Iterate

/-!
An event brings an element, or else it is a service.  A service takes everything
up to the first closing element, that element included, or everything if none is
there.  A service that finds less than a full batch is spent all the same, so
the backlog is not the number of batches less the number of services, but the
largest such difference over the most recent parts of the run.
-/

universe u v

namespace Batches

variable {α : Type u} {β : Type v} (arrival : β → Option α) (closes : α → Bool)

/-- What a service leaves. -/
def afterFirst : List α → List α
  | [] => []
  | element :: rest => if closes element then rest else afterFirst rest

def step (waiting : List α) (event : β) : List α :=
  match arrival event with
  | some element => waiting ++ [element]
  | none => afterFirst closes waiting

/-- What waits after a run that began with nothing. -/
def queue (events : List β) : List α :=
  events.foldl (step arrival closes) []

/-- The closing elements that arrive. -/
def closings (events : List β) : Nat :=
  events.countP fun event => (arrival event).any closes

def services (events : List β) : Nat :=
  events.countP fun event => (arrival event).isNone

/-! ## A service -/

section Service

variable {closes} {waiting : List α}

theorem afterFirst_eq_nil (none_closes : waiting.countP closes = 0) :
    afterFirst closes waiting = [] := by
  induction waiting with
  | nil => rfl
  | cons element rest inductionHypothesis =>
      rw [List.countP_eq_zero] at none_closes
      rw [afterFirst, if_neg (none_closes element List.mem_cons_self)]
      apply inductionHypothesis
      rw [List.countP_eq_zero]
      exact fun later member =>
        none_closes later (List.mem_cons_of_mem _ member)

/-- Elements that close nothing can be left out. -/
theorem filter_afterFirst {keeps : α → Bool}
    (kept : ∀ element, closes element = true → keeps element = true)
    (waiting : List α) :
    (afterFirst closes waiting).filter keeps =
      afterFirst closes (waiting.filter keeps) := by
  induction waiting with
  | nil => rfl
  | cons element rest inductionHypothesis =>
      rw [afterFirst, List.filter_cons]
      cases here : closes element with
      | true =>
          rw [if_pos rfl, if_pos (kept element here), afterFirst,
            if_pos here]
      | false =>
          rw [if_neg Bool.false_ne_true, inductionHypothesis]
          split
          · rw [afterFirst, here, if_neg Bool.false_ne_true]
          · rfl

/-- A service closes one batch, if there is one. -/
theorem countP_afterFirst (waiting : List α) :
    (afterFirst closes waiting).countP closes =
      waiting.countP closes - 1 := by
  induction waiting with
  | nil => rfl
  | cons element rest inductionHypothesis =>
      rw [afterFirst, List.countP_cons]
      cases closes element with
      | false => exact inductionHypothesis
      | true => rfl

/-- An element behind a closing one is not reached. -/
theorem afterFirst_concat (element : α) :
    afterFirst closes (waiting ++ [element]) =
      if waiting.countP closes = 0 then []
      else afterFirst closes waiting ++ [element] := by
  induction waiting with
  | nil =>
      rw [List.nil_append, afterFirst, afterFirst]
      exact ite_self []
  | cons first rest inductionHypothesis =>
      rw [List.cons_append, afterFirst, afterFirst, List.countP_cons,
        inductionHypothesis]
      cases closes first with
      | false => rfl
      | true => rfl

/-- More services than batches leave nothing. -/
theorem iterate_eq_nil {times : Nat} (more : waiting.countP closes < times) :
    (afterFirst closes)^[times] waiting = [] := by
  induction times generalizing waiting with
  | zero => cases more
  | succ times inductionHypothesis =>
      rw [Function.iterate_succ_apply]
      by_cases none_closes : waiting.countP closes = 0
      · rw [afterFirst_eq_nil none_closes]
        exact Function.iterate_fixed rfl times
      · apply inductionHypothesis
        rw [countP_afterFirst]
        omega

/-- Services reach the last element when there are more than batches before
it. -/
theorem iterate_concat (times : Nat) (element : α) :
    (afterFirst closes)^[times] (waiting ++ [element]) =
      if times ≤ waiting.countP closes then
        (afterFirst closes)^[times] waiting ++ [element]
      else [] := by
  induction times generalizing waiting with
  | zero => rfl
  | succ times inductionHypothesis =>
      rw [Function.iterate_succ_apply, Function.iterate_succ_apply,
        afterFirst_concat]
      by_cases none_closes : waiting.countP closes = 0
      · rw [if_pos none_closes, if_neg (by omega)]
        exact Function.iterate_fixed rfl times
      · rw [if_neg none_closes, inductionHypothesis, countP_afterFirst]
        exact if_congr (by omega) rfl rfl

end Service

/-! ## A run -/

section Run

variable {event : β} {element : α}

theorem queue_concat (events : List β) (event : β) :
    queue arrival closes (events ++ [event]) =
      step arrival closes (queue arrival closes events) event := by
  rw [queue, List.foldl_append]
  rfl

theorem closings_concat (events : List β) (event : β) :
    closings arrival closes (events ++ [event]) =
      closings arrival closes events + closings arrival closes [event] :=
  List.countP_append

theorem services_concat (events : List β) (event : β) :
    services arrival (events ++ [event]) =
      services arrival events + services arrival [event] :=
  List.countP_append

/-- An event that brings an element. -/
theorem counts_of_arrival (brings : arrival event = some element) :
    closings arrival closes [event] = [element].countP closes ∧
      services arrival [event] = 0 := by
  rw [closings, services, List.countP_singleton, List.countP_singleton,
    List.countP_singleton, brings]
  exact ⟨rfl, rfl⟩

/-- A service. -/
theorem counts_of_service (serves : arrival event = none) :
    closings arrival closes [event] = 0 ∧ services arrival [event] = 1 := by
  rw [closings, services, List.countP_singleton, List.countP_singleton, serves]
  exact ⟨rfl, rfl⟩

/-- An event brings at most one batch more, or serves one, if there is one. -/
theorem countP_step (waiting : List α) (event : β) :
    (step arrival closes waiting event).countP closes =
        waiting.countP closes + closings arrival closes [event] -
          services arrival [event] ∧
      (closings arrival closes [event] ≤ 1 ∧
          services arrival [event] = 0 ∨
        closings arrival closes [event] = 0 ∧
          services arrival [event] = 1) := by
  cases brings : arrival event with
  | some element =>
      obtain ⟨closed, idle⟩ := counts_of_arrival arrival closes brings
      rw [step, brings, closed, idle]
      exact ⟨List.countP_append, .inl ⟨List.countP_le_length, rfl⟩⟩
  | none =>
      obtain ⟨closed, served⟩ := counts_of_service arrival closes brings
      rw [step, brings, closed, served]
      exact ⟨countP_afterFirst waiting, .inr ⟨rfl, rfl⟩⟩

/-- The recent parts of a longer run. -/
theorem forall_suffix_concat {holds : List β → Prop} (event : β) :
    (∀ recent, recent <:+ events ++ [event] → holds recent) ↔
      holds [] ∧ ∀ recent, recent <:+ events → holds (recent ++ [event]) := by
  constructor
  · intro all
    refine ⟨all [] List.nil_suffix, ?_⟩
    intro recent suffix
    exact all _ ((List.suffix_append_inj_of_length_eq rfl).mpr ⟨suffix, rfl⟩)
  · rintro ⟨nothing, more⟩ recent suffix
    rcases List.suffix_concat_iff.mp suffix with rfl | ⟨before, rfl, earlier⟩
    · exact nothing
    · exact more before earlier

/-- The batches that wait are fewer than `bound` exactly when no recent part of
the run has brought `bound` more than it has served. -/
theorem backlog_lt_iff (events : List β) (bound : Nat) :
    (queue arrival closes events).countP closes < bound ↔
      ∀ recent, recent <:+ events →
        closings arrival closes recent <
          services arrival recent + bound := by
  induction events using List.reverseRecOn generalizing bound with
  | nil =>
      constructor
      · intro positive recent suffix
        rw [List.suffix_nil.mp suffix]
        exact Nat.lt_of_lt_of_eq positive (Nat.zero_add bound).symm
      · intro all
        exact Nat.lt_of_lt_of_eq (all [] List.nil_suffix) (Nat.zero_add bound)
  | append_singleton events event inductionHypothesis =>
      rw [queue_concat, forall_suffix_concat]
      simp only [closings_concat, services_concat]
      change _ ↔ 0 < 0 + bound ∧ _
      obtain ⟨backlog, counts⟩ := countP_step arrival closes
        (queue arrival closes events) event
      have here := inductionHypothesis
        (bound + services arrival [event] - closings arrival closes [event])
      rw [backlog]
      constructor
      · intro less
        refine ⟨by omega, ?_⟩
        intro recent suffix
        have earlier := here.mp (by omega) recent suffix
        omega
      · rintro ⟨positive, all⟩
        have fewer := here.mpr fun recent suffix => by
          have later := all recent suffix
          omega
        omega

/-- The events of a longer run, each with what was before and after it. -/
theorem forall_split_concat {holds : List β → β → List β → Prop} (last : β) :
    (∀ past event later, events ++ [last] = past ++ event :: later →
        holds past event later) ↔
      (∀ past event later, events = past ++ event :: later →
        holds past event (later ++ [last])) ∧ holds events last [] := by
  constructor
  · intro all
    constructor
    · rintro past event later rfl
      exact all past event (later ++ [last]) (by simp)
    · exact all events last [] rfl
  · rintro ⟨earlier, final⟩ past event later split
    rcases List.eq_nil_or_concat' later with rfl | ⟨before, other, rfl⟩
    · obtain ⟨rfl, same⟩ := List.append_inj' split rfl
      cases same
      exact final
    · rw [← List.cons_append, ← List.append_assoc] at split
      obtain ⟨rfl, same⟩ := List.append_inj' split rfl
      cases same
      exact earlier past event before rfl

/-- Which elements are left after a run and some more services: one that came
after some past is gone exactly when no recent part of that past has closed as
many batches as have been served since that part began. -/
theorem served_iff (events : List β) (times : Nat) (spared : α → Prop) :
    (∀ element ∈ (afterFirst closes)^[times] (queue arrival closes events),
        spared element) ↔
      ∀ past event later, events = past ++ event :: later →
        ∀ element, arrival event = some element → ¬spared element →
          ∀ recent, recent <:+ past →
            closings arrival closes recent <
              services arrival recent + services arrival later + times := by
  induction events using List.reverseRecOn generalizing times with
  | nil =>
      have nothing : (afterFirst closes)^[times] (queue arrival closes []) =
          [] :=
        Function.iterate_fixed rfl times
      rw [nothing]
      refine iff_of_true nofun ?_
      intro past event later split
      cases past <;> cases split
  | append_singleton events last inductionHypothesis =>
      rw [queue_concat, forall_split_concat]
      simp only [services_concat]
      cases brings : arrival last with
      | some element =>
          obtain ⟨-, idle⟩ := counts_of_arrival arrival closes brings
          have here := inductionHypothesis times
          have backlog := backlog_lt_iff arrival closes events times
          rw [step, brings, iterate_concat, idle]
          split
          · rename_i enough
            rw [List.forall_mem_append, List.forall_mem_singleton, here]
            refine and_congr_right fun _ => ?_
            constructor
            · rintro gone _ ⟨⟩ unspared
              exact absurd gone unspared
            · intro final
              by_contra unspared
              exact absurd (backlog.mpr (final element rfl unspared))
                (Nat.not_lt.mpr enough)
          · rename_i more
            have less := Nat.not_le.mp more
            rw [iterate_eq_nil less] at here
            refine iff_of_true nofun ⟨here.mp nofun, ?_⟩
            intro _ _ _
            exact backlog.mp less
      | none =>
          obtain ⟨-, served⟩ := counts_of_service arrival closes brings
          rw [step, brings, ← Function.iterate_succ_apply,
            inductionHypothesis, served, and_iff_left nofun]
          simp only [Nat.add_right_comm _ 1 times, Nat.add_assoc]

end Run

end Batches

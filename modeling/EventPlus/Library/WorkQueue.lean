/-
Module: EventPlus.Library.WorkQueue
Purpose: A queue of items that workers take in order and each do one at a time.
Trusted boundary: none
Main exports:
  WorkQueue, WorkQueue.Event, workQueue
-/
import EventPlus.Library.TransitionSystem
import Mathlib.Logic.Function.Basic

/-!
The items of a work queue are taken in the order they were put in, each by one
worker.  A worker that has taken an item starts to do it, and finishes it before
it takes another one.
-/

universe u v

/-- What a worker has in hand. -/
inductive WorkQueue.Hand (ι : Type u) where
  | empty
  | holding (item : ι)
  | doing (item : ι)
deriving Repr, DecidableEq

structure WorkQueue (κ : Type v) (ι : Type u) where
  queue : List ι
  hand : κ → WorkQueue.Hand ι

namespace WorkQueue

variable {κ : Type v} {ι : Type u}

inductive Event (κ : Type v) (ι : Type u) where
  | put (item : ι)
  | take (worker : κ) (item : ι)
  | start (worker : κ) (item : ι)
  | finish (worker : κ) (item : ι)
deriving Repr, DecidableEq

/-- The item a worker has taken and not started to do. -/
def Hand.held : Hand ι → Option ι
  | .holding item => some item
  | _ => none

variable [DecidableEq κ] (work : WorkQueue κ ι)

def setHand (worker : κ) (hand : Hand ι) : WorkQueue κ ι :=
  { work with hand := Function.update work.hand worker hand }

theorem setHand_self {work : WorkQueue κ ι} {worker : κ} {hand : Hand ι}
    (same : work.hand worker = hand) : work.setHand worker hand = work := by
  subst same
  rw [setHand, Function.update_eq_self]

theorem held_setHand (worker : κ) (hand : Hand ι) :
    (fun other => ((work.setHand worker hand).hand other).held) =
      Function.update (fun other => (work.hand other).held) worker
        hand.held := by
  funext other
  by_cases here : other = worker
  · subst here
    simp [setHand]
  · simp [setHand, Function.update_of_ne here]

variable [DecidableEq ι]

/-- The step of an event, if it can happen. -/
def step : Event κ ι → Option (WorkQueue κ ι)
  | .put item => some { work with queue := work.queue ++ [item] }
  | .take worker item =>
      match work.hand worker, work.queue with
      | .empty, next :: rest =>
          if next = item then
            some ({ work with queue := rest }.setHand worker (.holding item))
          else none
      | _, _ => none
  | .start worker item =>
      if work.hand worker = .holding item then
        some (work.setHand worker (.doing item))
      else none
  | .finish worker item =>
      if work.hand worker = .doing item then
        some (work.setHand worker .empty)
      else none

end WorkQueue

/-- The transition system of a work queue that begins empty. -/
def workQueue (κ : Type v) (ι : Type u) [DecidableEq κ] [DecidableEq ι] :
    TransitionSystem (WorkQueue κ ι) (WorkQueue.Event κ ι) where
  initial := fun work =>
    work = { queue := [], hand := fun _ => .empty }
  step := fun work => work.step

namespace WorkQueue

variable {κ : Type v} {ι : Type u} [DecidableEq κ] [DecidableEq ι]
  {work : WorkQueue κ ι} {worker : κ} {item : ι}

theorem put_eq :
    (workQueue κ ι).step work (.put item) =
      some { work with queue := work.queue ++ [item] } := rfl

/-- A free worker takes the first item. -/
theorem take_eq {rest : List ι} (free : work.hand worker = .empty)
    (queue : work.queue = item :: rest) :
    (workQueue κ ι).step work (.take worker item) =
      some ({ work with queue := rest }.setHand worker (.holding item)) := by
  simp only [workQueue, step, free, queue, if_true]

theorem start_eq (here : work.hand worker = .holding item) :
    (workQueue κ ι).step work (.start worker item) =
      some (work.setHand worker (.doing item)) :=
  if_pos here

theorem finish_eq (here : work.hand worker = .doing item) :
    (workQueue κ ι).step work (.finish worker item) =
      some (work.setHand worker .empty) :=
  if_pos here

end WorkQueue

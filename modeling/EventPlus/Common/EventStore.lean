/-
Module: EventPlus.Common.EventStore
Purpose: The data the server's threads share: descriptors, event kinds, the
  per-connection event store, and the tasks that carry a store to the pool.
Trusted boundary: none
Main exports:
  Fd, ConnectionId, EventType, SSLPointer, EventStorePointer, Lifetime,
  TaskOrigin, IOTask, origins
-/
import Mathlib.Data.List.Basic

namespace EventPlus

/-- A non-negative descriptor number. -/
abbrev Fd := Nat

/-- An accepted connection, numbered in the order `accept` returned it.  The
server makes at most one `EventStorePointer` for a connection, so the number
also names that object; a pointer to it is the same number. -/
abbrev ConnectionId := Nat

/-- A poller of `EventScheduler`, by its index in `m_socketEventHandlers`. -/
abbrev PollerId := Nat

/-- A thread of `ThreadPool`, by its index in `m_workers`. -/
abbrev WorkerId := Nat

/-- `enum EventType`. -/
inductive EventType where
  | blank
  | newConnection
  | closedConnection
  | incomingData
deriving Repr, Inhabited, DecidableEq

/-- What the field `m_SSL` can hold.  No constructor of `EventStorePointer`
sets it, so a fresh store starts with `null` or with an indeterminate non-null
pointer. -/
inductive SSLPointer where
  | null
  | indeterminate
  | object
deriving Repr, Inhabited, DecidableEq

/-- The mutable fields of `EventStorePointer` that the server's control flow
reads.  `socketEventHandler` is the back pointer to the poller the socket was
registered with, `none` for the null pointer of the constructor. -/
structure EventStorePointer where
  socketId : Fd := 0
  socketEventHandler : Option PollerId := none
  eventType : EventType := .blank
  ssl : SSLPointer := .indeterminate
deriving Repr, Inhabited, DecidableEq

/-- Lifetime of a heap object owned by a `unique_ptr`. -/
inductive Lifetime where
  | unborn
  | alive
  | destroyed
deriving Repr, Inhabited, DecidableEq

/-- The code path that enqueued a task: `TcpServerSocket::handleIOEvent`,
`SocketEventHandler::handleEvent`, or `TcpServerSocket::removeSocket`.  The
program does not store it; it names the event a task was raised for. -/
inductive TaskOrigin where
  | accept
  | data
  | removal
deriving Repr, Inhabited, DecidableEq

/-- The value each code path has written to `m_eventType` before it enqueues
its task. -/
def TaskOrigin.eventType : TaskOrigin → EventType
  | .accept => .newConnection
  | .data => .incomingData
  | .removal => .closedConnection

theorem TaskOrigin.eventType_injective :
    Function.Injective TaskOrigin.eventType := by
  intro first second same
  cases first <;> cases second <;> first | rfl | cases same

/-- `IOTask`: the raw store pointer handed to the pool.  The task function is
the same for all tasks (`handleCallBackEvent`), so it is not a field. -/
structure IOTask where
  eventStorePointer : ConnectionId
  origin : TaskOrigin
deriving Repr, Inhabited, DecidableEq

/-- The events of one store among some tasks, in order. -/
def origins (tasks : List IOTask) (store : ConnectionId) :
    List TaskOrigin :=
  (tasks.filter (·.eventStorePointer = store)).map (·.origin)

@[simp] theorem origins_nil (store : ConnectionId) : origins [] store = [] :=
  rfl

@[simp] theorem origins_append (first second : List IOTask)
    (store : ConnectionId) :
    origins (first ++ second) store =
      origins first store ++ origins second store := by
  simp [origins]

theorem origins_cons (task : IOTask) (tasks : List IOTask)
    (store : ConnectionId) :
    origins (task :: tasks) store =
      if task.eventStorePointer = store then
        task.origin :: origins tasks store
      else origins tasks store := by
  by_cases same : task.eventStorePointer = store <;> simp [origins, same]

theorem origins_perm {first second : List IOTask}
    (same : first.Perm second) (store : ConnectionId) :
    (origins first store).Perm (origins second store) :=
  (same.filter _).map _

theorem origins_eq_nil {tasks : List IOTask} {store : ConnectionId}
    (others : ∀ task ∈ tasks, task.eventStorePointer ≠ store) :
    origins tasks store = [] := by
  rw [origins, List.map_eq_nil_iff, List.filter_eq_nil_iff]
  intro task member
  simpa using others task member

end EventPlus

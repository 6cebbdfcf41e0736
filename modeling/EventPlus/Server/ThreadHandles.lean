/-
Module: EventPlus.Server.ThreadHandles
Purpose: The `std::thread` objects of a `TcpServerSocket` over its public
  lifecycle calls.  Nothing joins or detaches them, so the ones that were
  started end the process when they are overwritten or destroyed.
Trusted boundary: none
Main exports:
  StdThread, EventHandlerThread, LifecycleCall, Lifecycle, lifecycle,
  LifecycleCall.startsThread, destroyed_iff_none_started
-/
import Mathlib.Data.List.Basic
import EventPlus.Library.TransitionSystem

namespace EventPlus

/-- A `std::thread` object. -/
structure StdThread where
  joinable : Bool
deriving Repr, Inhabited, DecidableEq

/-- The fields of `EventHandlerThread` that the lifecycle calls use;
`epollOpen` is `m_epollFileDescriptor ≠ -1`. -/
structure EventHandlerThread where
  continuePolling : Bool
  epollOpen : Bool
  eventHandlerThread : Option StdThread
deriving Repr, Inhabited, DecidableEq

/-- How a call ends: by its return, by an exception, or with the process in
`std::terminate`. -/
inductive Ending where
  | returned
  | threw
  | terminated
deriving Repr, Inhabited, DecidableEq

/-- Destroying what a `unique_ptr<std::thread>` points to. -/
def destroyThread : Option StdThread → Ending
  | some thread => if thread.joinable then .terminated else .returned
  | none => .returned

namespace EventHandlerThread

/-- The constructor, with the result of `epoll_create`. -/
def construct (epollCreated : Bool) : EventHandlerThread where
  continuePolling := epollCreated
  epollOpen := epollCreated
  eventHandlerThread := none

/-- `startEventReceiverThread`.  The new thread exists before the old object
is destroyed by the assignment. -/
def startEventReceiverThread (handler : EventHandlerThread) :
    EventHandlerThread × Ending :=
  ({ handler with eventHandlerThread := some { joinable := true } },
    destroyThread handler.eventHandlerThread)

/-- `stopEventThread`: `stopPolling` and `closeEpoll`.  The lines that would
have detached the thread are comments. -/
def stopEventThread (handler : EventHandlerThread) : EventHandlerThread :=
  { handler with
      continuePolling := false
      epollOpen := false }

/-- The destructor destroys the member. -/
def destruct (handler : EventHandlerThread) : Ending :=
  destroyThread handler.eventHandlerThread

end EventHandlerThread

/-- `startAllEventHandler`.  After `created` threads the constructor of
`std::thread` throws. -/
def startAllEventHandler (created : Nat) :
    List EventHandlerThread → List EventHandlerThread × Ending
  | [] => ([], .returned)
  | handler :: rest =>
      match created with
      | 0 => (handler :: rest, .threw)
      | created + 1 =>
          let started := handler.startEventReceiverThread
          if started.2 = .returned then
            let others := startAllEventHandler created rest
            (started.1 :: others.1, others.2)
          else (started.1 :: rest, started.2)

/-- The handlers of a vector are destroyed one by one. -/
def destroyAll : List EventHandlerThread → Ending
  | [] => .returned
  | handler :: rest =>
      match handler.destruct with
      | .returned => destroyAll rest
      | ending => ending

/-- A public lifecycle call with what its environment does: how many threads
can be started, whether `createServerSocket` returned a descriptor (it throws
otherwise), and whether the number in `m_serverSocketID` is open. -/
inductive LifecycleCall where
  | startReceivingConnection (created : Nat)
  | createServerSocketAndStartReceiving (bound threadCreated : Bool)
  | stopPolling (isOpen : Bool)
  | destruct (isOpen : Bool)
deriving Repr, Inhabited, DecidableEq

/-- What has become of the server object. -/
inductive Fate where
  | alive
  | destroyed
  | terminated
deriving Repr, Inhabited, DecidableEq

/-- A `TcpServerSocket` between two lifecycle calls.  `serverSocketID` is the
member that no constructor or method assigns, and `eventStore` says whether
`m_eventStore` is set. -/
structure Lifecycle where
  serverSocketID : Int
  eventStore : Bool
  socketEventHandler : EventHandlerThread
  socketEventHandlers : List EventHandlerThread
  fate : Fate
deriving Repr, Inhabited, DecidableEq

namespace Lifecycle

/-- The constructor, with the results of `epoll_create`. -/
def construct (serverSocketID : Int) (epollCreated : Bool)
    (pollersCreated : List Bool) : Lifecycle where
  serverSocketID := serverSocketID
  eventStore := false
  socketEventHandler := .construct epollCreated
  socketEventHandlers := pollersCreated.map .construct
  fate := .alive

/-- What a call leaves behind when it ends so. -/
def endsWith (server : Lifecycle) (ending : Ending) : Lifecycle :=
  match ending with
  | .terminated => { server with fate := .terminated }
  | _ => server

/-- `startReceivingConnection`. -/
def startReceivingConnection (server : Lifecycle) (created : Nat) :
    Lifecycle :=
  let started := startAllEventHandler created server.socketEventHandlers
  { server with socketEventHandlers := started.1 }.endsWith started.2

/-- `createServerSocketAndStartReceiving`. -/
def createServerSocketAndStartReceiving (server : Lifecycle)
    (bound threadCreated : Bool) : Lifecycle :=
  if bound then
    let withStore := { server with eventStore := true }
    if threadCreated then
      let started := withStore.socketEventHandler.startEventReceiverThread
      { withStore with socketEventHandler := started.1 }.endsWith started.2
    else withStore
  else server

/-- `stopPolling`.  `closeServerSocket` follows `m_eventStore` when the number
in `m_serverSocketID` is an open descriptor; without a store that has no
defined result.  `closeAllClientSocket` touches no thread. -/
def stopPolling (server : Lifecycle) (isOpen : Bool) : Option Lifecycle :=
  if server.serverSocketID ≠ -1 ∧ isOpen = true ∧ server.eventStore = false
  then none
  else
    some
      { server with
          socketEventHandler := server.socketEventHandler.stopEventThread
          socketEventHandlers :=
            server.socketEventHandlers.map .stopEventThread }

/-- The handlers in the order their destructors run: `m_eventScheduler` is
declared after `m_socketEventHandler`. -/
def handlers (server : Lifecycle) : List EventHandlerThread :=
  server.socketEventHandlers ++ [server.socketEventHandler]

/-- `~TcpServerSocket`: `stopPolling`, then the destructors of the members.
The pool's, which comes first, joins its own threads. -/
def destruct (server : Lifecycle) (isOpen : Bool) : Option Lifecycle :=
  (server.stopPolling isOpen).map fun stopped =>
    { stopped with fate := .destroyed }.endsWith
      (destroyAll stopped.handlers)

/-- One call.  After `std::terminate` no call changes anything. -/
def step (server : Lifecycle) (call : LifecycleCall) : Option Lifecycle :=
  match server.fate with
  | .terminated => some server
  | .destroyed => none
  | .alive =>
      match call with
      | .startReceivingConnection created =>
          some (server.startReceivingConnection created)
      | .createServerSocketAndStartReceiving bound threadCreated =>
          some
            (server.createServerSocketAndStartReceiving bound threadCreated)
      | .stopPolling isOpen => server.stopPolling isOpen
      | .destruct isOpen => server.destruct isOpen

end Lifecycle

/-- The lifecycle calls on a server with `numThreads` pollers. -/
def lifecycle (numThreads : Nat) :
    TransitionSystem Lifecycle LifecycleCall where
  initial := fun server =>
    ∃ serverSocketID epollCreated pollersCreated,
      pollersCreated.length = numThreads ∧
        server = .construct serverSocketID epollCreated pollersCreated
  step := Lifecycle.step

namespace Lifecycle

/-- A call on a living server, or any call after `std::terminate`. -/
inductive Move (server : Lifecycle) : LifecycleCall → Lifecycle → Prop where
  | startReceivingConnection (created : Nat) (alive : server.fate = .alive) :
      Move server (.startReceivingConnection created)
        (server.startReceivingConnection created)
  | createServerSocketAndStartReceiving (bound threadCreated : Bool)
      (alive : server.fate = .alive) :
      Move server (.createServerSocketAndStartReceiving bound threadCreated)
        (server.createServerSocketAndStartReceiving bound threadCreated)
  | stopPolling (isOpen : Bool) (stopped : Lifecycle)
      (alive : server.fate = .alive)
      (stops : server.stopPolling isOpen = some stopped) :
      Move server (.stopPolling isOpen) stopped
  | destruct (isOpen : Bool) (stopped : Lifecycle)
      (alive : server.fate = .alive)
      (stops : server.stopPolling isOpen = some stopped) :
      Move server (.destruct isOpen)
        ({ stopped with fate := .destroyed }.endsWith
          (destroyAll stopped.handlers))
  | terminated (call : LifecycleCall) (ended : server.fate = .terminated) :
      Move server call server

theorem move_of_step {server after : Lifecycle} {call : LifecycleCall}
    (taken : server.step call = some after) : Move server call after := by
  unfold step at taken
  split at taken
  · cases taken
    exact .terminated call ‹_›
  · cases taken
  · rename_i alive
    cases call with
    | startReceivingConnection created =>
        cases taken
        exact .startReceivingConnection created alive
    | createServerSocketAndStartReceiving bound threadCreated =>
        cases taken
        exact .createServerSocketAndStartReceiving bound threadCreated alive
    | stopPolling isOpen => exact .stopPolling isOpen _ alive taken
    | destruct isOpen =>
        obtain ⟨stopped, stops, rfl⟩ := Option.map_eq_some_iff.mp taken
        exact .destruct isOpen stopped alive stops

end Lifecycle

/-- Whether a call starts a thread. -/
def LifecycleCall.startsThread (numThreads : Nat) : LifecycleCall → Bool
  | .startReceivingConnection created => 0 < created && 0 < numThreads
  | .createServerSocketAndStartReceiving bound threadCreated =>
      bound && threadCreated
  | _ => false

/-! ## The handles -/

/-- No thread has been started. -/
def Unstarted (handlers : List EventHandlerThread) : Prop :=
  ∀ handler ∈ handlers, handler.eventHandlerThread = none

/-- Every thread that has been started is joinable. -/
def AllJoinable (handlers : List EventHandlerThread) : Prop :=
  ∀ handler ∈ handlers, ∀ thread, handler.eventHandlerThread = some thread →
    thread.joinable = true

theorem unstarted_cons {handler : EventHandlerThread}
    {rest : List EventHandlerThread} :
    Unstarted (handler :: rest) ↔
      handler.eventHandlerThread = none ∧ Unstarted rest :=
  List.forall_mem_cons

theorem allJoinable_cons {handler : EventHandlerThread}
    {rest : List EventHandlerThread} :
    AllJoinable (handler :: rest) ↔
      (∀ thread, handler.eventHandlerThread = some thread →
        thread.joinable = true) ∧ AllJoinable rest :=
  List.forall_mem_cons

theorem unstarted_stop (handlers : List EventHandlerThread) :
    Unstarted (handlers.map .stopEventThread) ↔ Unstarted handlers := by
  simp [Unstarted, EventHandlerThread.stopEventThread]

theorem AllJoinable.stop {handlers : List EventHandlerThread}
    (joinable : AllJoinable handlers) :
    AllJoinable (handlers.map .stopEventThread) := by
  intro handler member
  obtain ⟨before, inside, rfl⟩ := List.mem_map.mp member
  exact joinable before inside

section Starting

variable (created : Nat) {handlers : List EventHandlerThread}

theorem startAllEventHandler_length (handlers : List EventHandlerThread) :
    (startAllEventHandler created handlers).1.length = handlers.length := by
  fun_induction startAllEventHandler created handlers with
  | case1 => rfl
  | case2 => rfl
  | case3 handler rest created started returned others
      inductionHypothesis =>
      exact congrArg (· + 1) inductionHypothesis
  | case4 => rfl

theorem AllJoinable.startAll (joinable : AllJoinable handlers) :
    AllJoinable (startAllEventHandler created handlers).1 := by
  -- a thread that has just been started is joinable
  have fresh : ∀ handler : EventHandlerThread, ∀ thread,
      handler.startEventReceiverThread.1.eventHandlerThread = some thread →
        thread.joinable = true := by
    intro handler thread started
    cases started
    rfl
  fun_induction startAllEventHandler created handlers with
  | case1 => exact joinable
  | case2 => exact joinable
  | case3 handler rest created started returned others
      inductionHypothesis =>
      rw [allJoinable_cons] at joinable ⊢
      exact ⟨fresh handler, inductionHypothesis joinable.2⟩
  | case4 handler rest created started stopped =>
      rw [allJoinable_cons] at joinable ⊢
      exact ⟨fresh handler, joinable.2⟩

/-- A handle that holds a thread still holds one. -/
theorem not_unstarted_startAll (some_started : ¬Unstarted handlers) :
    ¬Unstarted (startAllEventHandler created handlers).1 := by
  fun_induction startAllEventHandler created handlers with
  | case1 => exact some_started
  | case2 => exact some_started
  | case3 | case4 =>
      rw [unstarted_cons]
      rintro ⟨none_here, -⟩
      cases none_here

/-- From handles without threads the loop runs to its end or to the exception,
and it has started a thread if it could. -/
theorem startAll_of_unstarted (unstarted : Unstarted handlers) :
    (startAllEventHandler created handlers).2 ≠ .terminated ∧
      (Unstarted (startAllEventHandler created handlers).1 ↔
        created = 0 ∨ handlers = []) := by
  fun_induction startAllEventHandler created handlers with
  | case1 => simp [unstarted]
  | case2 => simp [unstarted]
  | case3 handler rest created started returned others
      inductionHypothesis =>
      rw [unstarted_cons] at unstarted
      refine ⟨(inductionHypothesis unstarted.2).1, ?_⟩
      simp [unstarted_cons, started,
        EventHandlerThread.startEventReceiverThread]
  | case4 handler rest created started stopped =>
      rw [unstarted_cons] at unstarted
      refine absurd ?_ stopped
      simp [started, EventHandlerThread.startEventReceiverThread,
        unstarted.1, destroyThread]

end Starting

/-- Destroying the handlers ends the process when one holds a thread. -/
theorem destroyAll_iff {handlers : List EventHandlerThread}
    (joinable : AllJoinable handlers) :
    destroyAll handlers ≠ .terminated ↔ Unstarted handlers := by
  induction handlers with
  | nil => simp [destroyAll, Unstarted]
  | cons handler rest inductionHypothesis =>
      rw [allJoinable_cons] at joinable
      rw [unstarted_cons]
      cases held : handler.eventHandlerThread with
      | none =>
          have passes : destroyAll (handler :: rest) = destroyAll rest := by
            simp [destroyAll, EventHandlerThread.destruct, held,
              destroyThread]
          rw [passes, inductionHypothesis joinable.2]
          simp
      | some thread =>
          have stops : destroyAll (handler :: rest) = .terminated := by
            simp [destroyAll, EventHandlerThread.destruct, held,
              destroyThread, joinable.1 thread held]
          simp [stops]

/-! ## The calls -/

namespace Lifecycle

/-- The process is running and no thread has been started. -/
structure Fresh (server : Lifecycle) : Prop where
  running : server.fate ≠ .terminated
  unstarted : Unstarted server.handlers

variable {server after : Lifecycle}

theorem endsWith_handlers (server : Lifecycle) (ending : Ending) :
    (server.endsWith ending).handlers = server.handlers := by
  cases ending <;> rfl

theorem endsWith_fate {ending : Ending}
    (running : server.fate ≠ .terminated) :
    (server.endsWith ending).fate ≠ .terminated ↔
      ending ≠ .terminated := by
  cases ending <;> simp [endsWith, running]

theorem stopPolling_spec {isOpen : Bool}
    (stopped : server.stopPolling isOpen = some after) :
    after.fate = server.fate ∧
      after.handlers = server.handlers.map .stopEventThread := by
  unfold stopPolling at stopped
  split at stopped
  · cases stopped
  · cases stopped
    refine ⟨rfl, ?_⟩
    simp [handlers]

theorem stopPolling_numThreads {isOpen : Bool}
    (stopped : server.stopPolling isOpen = some after) :
    after.socketEventHandlers.length = server.socketEventHandlers.length := by
  unfold stopPolling at stopped
  split at stopped
  · cases stopped
  · cases stopped
    exact List.length_map _

theorem unstarted_handlers :
    Unstarted server.handlers ↔
      Unstarted server.socketEventHandlers ∧
        server.socketEventHandler.eventHandlerThread = none := by
  simp [Unstarted, handlers, or_imp, forall_and]

theorem allJoinable_handlers :
    AllJoinable server.handlers ↔
      AllJoinable server.socketEventHandlers ∧
        AllJoinable [server.socketEventHandler] := by
  simp [AllJoinable, handlers, or_imp, forall_and]

/-- What holds between two calls, whichever they are. -/
structure Shape (numThreads : Nat) (server : Lifecycle) : Prop where
  numThreads : server.socketEventHandlers.length = numThreads
  joinable : AllJoinable server.handlers

variable {numThreads : Nat}

theorem Shape.endsWith (shape : server.Shape numThreads) (ending : Ending) :
    (server.endsWith ending).Shape numThreads := by
  cases ending <;> exact ⟨shape.numThreads, shape.joinable⟩

theorem Shape.startReceivingConnection (shape : server.Shape numThreads)
    (created : Nat) :
    (server.startReceivingConnection created).Shape numThreads := by
  have apart := allJoinable_handlers.mp shape.joinable
  apply Shape.endsWith
  refine ⟨?_, allJoinable_handlers.mpr ⟨?_, apart.2⟩⟩
  · exact (startAllEventHandler_length created _).trans shape.numThreads
  · exact apart.1.startAll created

theorem Shape.createServerSocketAndStartReceiving
    (shape : server.Shape numThreads) (bound threadCreated : Bool) :
    (server.createServerSocketAndStartReceiving bound threadCreated).Shape
      numThreads := by
  have apart := allJoinable_handlers.mp shape.joinable
  unfold Lifecycle.createServerSocketAndStartReceiving
  split
  · dsimp only
    split
    · apply Shape.endsWith
      refine ⟨shape.numThreads, allJoinable_handlers.mpr ⟨apart.1, ?_⟩⟩
      intro handler member thread started
      cases List.mem_singleton.mp member
      cases started
      rfl
    · exact ⟨shape.numThreads, shape.joinable⟩
  · exact shape

theorem Shape.stopPolling (shape : server.Shape numThreads) {isOpen : Bool}
    (stopped : server.stopPolling isOpen = some after) :
    after.Shape numThreads := by
  constructor
  · rw [stopPolling_numThreads stopped]
    exact shape.numThreads
  · rw [(stopPolling_spec stopped).2]
    exact shape.joinable.stop

theorem Shape.step (shape : server.Shape numThreads) {call : LifecycleCall}
    (taken : server.step call = some after) : after.Shape numThreads := by
  cases move_of_step taken with
  | startReceivingConnection created =>
      exact shape.startReceivingConnection created
  | createServerSocketAndStartReceiving bound threadCreated =>
      exact shape.createServerSocketAndStartReceiving bound threadCreated
  | stopPolling isOpen stopped alive stops => exact shape.stopPolling stops
  | destruct isOpen stopped alive stops =>
      have kept := shape.stopPolling stops
      apply Shape.endsWith
      exact ⟨kept.numThreads, kept.joinable⟩
  | terminated => exact shape

theorem shape_of_reachable
    (reachable : (lifecycle numThreads).Reachable server) :
    server.Shape numThreads := by
  refine TransitionSystem.Reachable.invariant ?_ ?_ reachable
  · intro state initially
    obtain ⟨serverSocketID, epollCreated, pollersCreated, length, rfl⟩ :=
      initially
    constructor
    · simpa [construct] using length
    · intro handler member thread started
      simp only [handlers, construct, List.mem_append, List.mem_map,
        List.mem_singleton] at member
      rcases member with ⟨created, -, rfl⟩ | rfl <;> cases started
  · intro before call after _ taken shape
    exact shape.step taken

/-! ## Threads are started or not, and are never joined -/

theorem fresh_endsWith_iff {ending : Ending}
    (running : server.fate ≠ .terminated) :
    (server.endsWith ending).Fresh ↔
      ending ≠ .terminated ∧ Unstarted server.handlers := by
  constructor
  · intro fresh
    have unstarted := fresh.unstarted
    rw [endsWith_handlers] at unstarted
    exact ⟨(endsWith_fate running).mp fresh.running, unstarted⟩
  · intro both
    refine ⟨(endsWith_fate running).mpr both.1, ?_⟩
    rw [endsWith_handlers]
    exact both.2

theorem Fresh.startReceivingConnection (fresh : server.Fresh)
    (created : Nat) :
    (server.startReceivingConnection created).Fresh ↔
      ((0 < created && 0 < server.socketEventHandlers.length) = false) := by
  have apart := unstarted_handlers.mp fresh.unstarted
  have started := startAll_of_unstarted created apart.1
  unfold Lifecycle.startReceivingConnection
  dsimp only
  rw [fresh_endsWith_iff, unstarted_handlers]
  · simp only [started.1, started.2, apart.2, ne_eq, not_false_eq_true,
      and_true, true_and, Bool.and_eq_false_iff, decide_eq_false_iff_not,
      ← List.length_eq_zero_iff]
    omega
  · exact fresh.running

theorem Fresh.createServerSocketAndStartReceiving (fresh : server.Fresh)
    (bound threadCreated : Bool) :
    (server.createServerSocketAndStartReceiving bound threadCreated).Fresh ↔
      (bound && threadCreated) = false := by
  have apart := unstarted_handlers.mp fresh.unstarted
  unfold Lifecycle.createServerSocketAndStartReceiving
  cases bound with
  | false => simp [fresh]
  | true =>
      cases threadCreated with
      | false =>
          have same : Lifecycle.Fresh { server with eventStore := true } :=
            ⟨fresh.running, fresh.unstarted⟩
          simpa using same
      | true =>
          simp only [if_true, Bool.and_self]
          rw [fresh_endsWith_iff, unstarted_handlers]
          · simp [EventHandlerThread.startEventReceiverThread]
          · exact fresh.running

theorem Fresh.stopPolling (fresh : server.Fresh) {isOpen : Bool}
    (stopped : server.stopPolling isOpen = some after) : after.Fresh := by
  obtain ⟨fate, handlers⟩ := stopPolling_spec stopped
  constructor
  · rw [fate]
    exact fresh.running
  · rw [handlers, unstarted_stop]
    exact fresh.unstarted

/-- The destructors of the members, after `stopPolling`. -/
theorem Shape.destroyed_iff (shape : server.Shape numThreads) {isOpen : Bool}
    {stopped : Lifecycle}
    (stops : server.stopPolling isOpen = some stopped) :
    destroyAll stopped.handlers ≠ .terminated ↔ Unstarted server.handlers := by
  rw [destroyAll_iff (shape.stopPolling stops).joinable,
    (stopPolling_spec stops).2, unstarted_stop]

theorem Fresh.destruct (fresh : server.Fresh)
    (shape : server.Shape numThreads) {isOpen : Bool} {stopped : Lifecycle}
    (stops : server.stopPolling isOpen = some stopped) :
    ({ stopped with fate := .destroyed }.endsWith
      (destroyAll stopped.handlers)).Fresh := by
  rw [fresh_endsWith_iff, shape.destroyed_iff stops]
  · exact ⟨fresh.unstarted, (fresh.stopPolling stops).unstarted⟩
  · simp

/-- No call repairs what an earlier one has started or ended. -/
theorem fresh_before {call : LifecycleCall}
    (taken : server.step call = some after) (fresh : after.Fresh) :
    server.Fresh := by
  have unstarted := fresh.unstarted
  cases move_of_step taken with
  | startReceivingConnection created alive =>
      refine ⟨by simp [alive], ?_⟩
      unfold Lifecycle.startReceivingConnection at unstarted
      rw [endsWith_handlers, unstarted_handlers] at unstarted
      refine unstarted_handlers.mpr ⟨?_, unstarted.2⟩
      apply Classical.byContradiction
      intro some_started
      exact not_unstarted_startAll created some_started unstarted.1
  | createServerSocketAndStartReceiving bound threadCreated alive =>
      refine ⟨by simp [alive], ?_⟩
      unfold Lifecycle.createServerSocketAndStartReceiving at unstarted
      split at unstarted
      · dsimp only at unstarted
        split at unstarted
        · rw [endsWith_handlers, unstarted_handlers] at unstarted
          cases unstarted.2
        · exact unstarted
      · exact unstarted
  | stopPolling isOpen stopped alive stops =>
      refine ⟨by simp [alive], ?_⟩
      rw [(stopPolling_spec stops).2, unstarted_stop] at unstarted
      exact unstarted
  | destruct isOpen stopped alive stops =>
      refine ⟨by simp [alive], ?_⟩
      rw [endsWith_handlers] at unstarted
      have before : Unstarted stopped.handlers := unstarted
      rw [(stopPolling_spec stops).2, unstarted_stop] at before
      exact before
  | terminated => exact fresh

/-- A fresh server stays so exactly through the calls that start no thread. -/
theorem fresh_step_iff (shape : server.Shape numThreads)
    (fresh : server.Fresh) {call : LifecycleCall}
    (taken : server.step call = some after) :
    after.Fresh ↔ call.startsThread numThreads = false := by
  cases move_of_step taken with
  | startReceivingConnection created =>
      rw [fresh.startReceivingConnection, shape.numThreads]
      rfl
  | createServerSocketAndStartReceiving bound threadCreated =>
      exact fresh.createServerSocketAndStartReceiving bound threadCreated
  | stopPolling isOpen stopped alive stops =>
      exact iff_of_true (fresh.stopPolling stops) rfl
  | destruct isOpen stopped alive stops =>
      exact iff_of_true (fresh.destruct shape stops) rfl
  | terminated call ended => exact absurd ended fresh.running

/-- The destructor survives exactly on a fresh server. -/
theorem destruct_running_iff (shape : server.Shape numThreads)
    {isOpen : Bool} (taken : server.step (.destruct isOpen) = some after) :
    after.fate ≠ .terminated ↔ server.Fresh := by
  cases move_of_step taken with
  | destruct isOpen stopped alive stops =>
      rw [endsWith_fate (by simp), shape.destroyed_iff stops]
      constructor
      · intro unstarted
        exact ⟨by simp [alive], unstarted⟩
      · exact Fresh.unstarted
  | terminated call ended =>
      refine iff_of_false (fun running => running ended) ?_
      intro fresh
      exact fresh.running ended

end Lifecycle

open Lifecycle in
/-- A sequence of calls that ends with the destructor neither overwrites nor
destroys a joinable thread exactly when none of the calls starts one. -/
theorem destroyed_iff_none_started {numThreads : Nat}
    {server last ended : Lifecycle} {calls : List LifecycleCall}
    {isOpen : Bool}
    (constructed : (lifecycle numThreads).initial server)
    (ran : (lifecycle numThreads).run server calls = some last)
    (destructed :
      (lifecycle numThreads).step last (.destruct isOpen) = some ended) :
    ended.fate ≠ .terminated ↔
      ∀ call ∈ calls, call.startsThread numThreads = false := by
  have reachable : (lifecycle numThreads).Reachable server :=
    .initial constructed
  have start : server.Fresh := by
    obtain ⟨serverSocketID, epollCreated, pollersCreated, -, rfl⟩ :=
      constructed
    refine ⟨by simp [construct], unstarted_handlers.mpr ⟨?_, rfl⟩⟩
    intro handler member
    obtain ⟨created, -, rfl⟩ := List.mem_map.mp member
    rfl
  have shape : last.Shape numThreads :=
    shape_of_reachable (TransitionSystem.reachable_of_run reachable ran)
  have freshLast : last.Fresh ↔
      ∀ call ∈ calls, call.startsThread numThreads = false := by
    rw [← TransitionSystem.along_iff_forall ran]
    apply TransitionSystem.last_iff_along _ _ reachable start ran
    · intro before call after reached fresh taken
      exact fresh_step_iff (shape_of_reachable reached) fresh taken
    · intro before call after _ stale taken fresh
      exact stale (fresh_before taken fresh)
  rw [← freshLast]
  exact destruct_running_iff shape destructed

/-- A server whose set-up failed is destroyed without harm. -/
theorem destroyed_iff_none_started_failed :
    ∃ last ended,
      (lifecycle 2).run (.construct (-1) true [true, true])
          [.createServerSocketAndStartReceiving false true,
            .stopPolling false] = some last ∧
        (lifecycle 2).step last (.destruct false) = some ended ∧
        ended.fate ≠ .terminated := by
  have constructed : (lifecycle 2).initial
      (.construct (-1) true [true, true]) :=
    ⟨-1, true, [true, true], rfl, rfl⟩
  have ran : (lifecycle 2).run (.construct (-1) true [true, true])
      [.createServerSocketAndStartReceiving false true,
        .stopPolling false] = some _ := rfl
  have destructed : (lifecycle 2).step
      { serverSocketID := -1
        eventStore := false
        socketEventHandler := .stopEventThread (.construct true)
        socketEventHandlers :=
          [.stopEventThread (.construct true),
            .stopEventThread (.construct true)]
        fate := .alive }
      (.destruct false) = some _ := rfl
  refine ⟨_, _, ran, destructed, ?_⟩
  apply (destroyed_iff_none_started constructed ran destructed).mpr
  decide

/-- One poller, started once; the destructor ends the process. -/
theorem terminated_after_start :
    ¬∀ numThreads server calls last isOpen ended,
      (lifecycle numThreads).initial server →
        (lifecycle numThreads).run server calls = some last →
        (lifecycle numThreads).step last (.destruct isOpen) = some ended →
        ended.fate ≠ .terminated := by
  intro always
  exact always 1 (.construct (-1) true [true])
    [.startReceivingConnection 1] _ false _ ⟨-1, true, [true], rfl, rfl⟩
    rfl rfl rfl

end EventPlus

/-
Module: EventPlus.Server.SetUp
Purpose: The pointers the set-up calls assign and the poll loops and the
  workers call through, for every order of the calls and of the events, and for
  whatever the members hold that no constructor initialises.
Trusted boundary: none
Main exports:
  SetUp.Pointer, SetUp.PollLoop, SetUp.SocketEvent, SetUp.Action, SetUp,
  setUp, SetUp.Safe, SetUp.Permitted, SetUp.safe_throughout_iff
-/
import Mathlib.Logic.Function.Basic
import EventPlus.Common.EventStore
import EventPlus.Library.TransitionSystem

namespace EventPlus

open Function (update)

namespace SetUp

/-- What a raw pointer member holds: null, what it happened to hold when it was
not initialised, or the address of an object it was assigned. -/
inductive Pointer where
  | null
  | indeterminate
  | assigned
deriving Repr, Inhabited, DecidableEq

/-- The argument of a set-up call. -/
def Pointer.ofArgument (given : Bool) : Pointer :=
  if given then .assigned else .null

/-- The members calls are made through. -/
inductive Member where
  | removeSocketEventHandler
  | eventDispatcher
  | eventReceiver
  | socketOperationHandler
deriving Repr, Inhabited, DecidableEq

/-- A `SocketEventHandler` and whether its thread runs `startPolling`. -/
structure PollLoop where
  continuePolling : Bool
  eventDispatcher : Pointer
  removeSocketEventHandler : Pointer
  running : Bool
deriving Repr, Inhabited, DecidableEq

/-- The call that one entry of `m_events` leads to. -/
inductive Dispatch where
  | nothing
  | removeSocket (pointer : Pointer)
  | handleIOEvent (pointer : Pointer)
deriving Repr, Inhabited, DecidableEq

/-- `handleEvent`, for a store that is not null. -/
def PollLoop.handleEvent (loop : PollLoop) : Dispatch :=
  if loop.continuePolling = false then .nothing
  else if loop.eventDispatcher ≠ .null then
    .handleIOEvent loop.eventDispatcher
  else .nothing

/-- The body of the `for` loop of `startPolling`. -/
def PollLoop.dispatch (loop : PollLoop) (hangUp : Bool) : Dispatch :=
  if hangUp then
    if loop.removeSocketEventHandler ≠ .null then
      .removeSocket loop.removeSocketEventHandler
    else .nothing
  else loop.handleEvent

/-- The fields of a client's `EventStorePointer` that are used here. -/
structure Store where
  socketOperationHandler : Pointer
  socketEventHandler : Option PollerId
  eventType : EventType
deriving Repr, Inhabited, DecidableEq

/-- How `handleIOEvent` of the server goes on: `accept` or `inet_ntop` fails,
or the new store goes to a poller whose `epoll_ctl` succeeds or not. -/
inductive Admission where
  | failed
  | accepted (poller : PollerId) (epollAdded : Bool)
deriving Repr, Inhabited, DecidableEq

/-- The set-up calls, the entries the poll loops find, and the tasks the
workers take.  `operations` is how often a callback uses its store. -/
inductive Action where
  | setSocketOperationHandler (given : Bool)
  | setEventReceiver (given : Bool)
  | startReceivingConnection
  | createServerSocketAndStartReceiving
  | createClientSocketAndStartReceiving (connected : Bool)
  | acceptorEvent (hangUp : Bool) (admission : Admission)
  | pollerEvent (poller : PollerId) (store : ConnectionId) (hangUp : Bool)
  | callback (operations : Nat)
  | clientEvent (hangUp : Bool)
deriving Repr, Inhabited, DecidableEq

end SetUp

open SetUp in
/-- A `TcpServerSocket` and a `TcpClientSocket`.  The stores are numbered in
the order they were made, and `calls` is history: the pointers called
through. -/
structure SetUp where
  socketOperationHandler : Pointer
  eventReceiver : Pointer
  acceptor : PollLoop
  poller : PollerId → PollLoop
  numThreads : Nat
  numStores : Nat
  store : ConnectionId → Store
  tasks : List ConnectionId
  client : PollLoop
  clientHandler : Pointer
  calls : List (Member × Pointer)

namespace SetUp

variable (state : SetUp)

/-- A virtual call through a pointer. -/
def callThrough (member : Member) (pointer : Pointer) : SetUp :=
  { state with calls := state.calls ++ [(member, pointer)] }

def setStore (name : ConnectionId) (store : Store) : SetUp :=
  { state with store := update state.store name store }

/-- `IOWorkerThreadHandler::handleIOEvent`. -/
def enqueueTask (name : ConnectionId) : SetUp :=
  { state with tasks := state.tasks ++ [name] }

/-! ## The set-up calls -/

/-- `startReceivingConnection`: the pollers get their dispatcher before their
threads start. -/
def startReceivingConnection : SetUp :=
  { state with
      poller := fun poller =>
        if poller < state.numThreads then
          { state.poller poller with
              eventDispatcher := .assigned
              running := true }
        else state.poller poller }

/-- `createServerSocketAndStartReceiving`, when it has its socket. -/
def createServerSocketAndStartReceiving : SetUp :=
  { state with acceptor := { state.acceptor with running := true } }

/-- `createClientSocketAndStartReceiving`.  The new store has a null handler,
and neither pointer of the loop is ever set. -/
def createClientSocketAndStartReceiving (connected : Bool) : SetUp :=
  if connected then
    { state with
        clientHandler := .null
        client := { state.client with running := true } }
  else state

/-! ## What the events lead to -/

/-- `TcpServerSocket::handleIOEvent`. -/
def handleIOEvent : Admission → SetUp
  | .failed => state
  | .accepted poller epollAdded =>
      let name := state.numStores
      let initialised :=
        ({ state with numStores := state.numStores + 1 }.setStore name
          { socketOperationHandler := state.socketOperationHandler
            socketEventHandler := if epollAdded then some poller else none
            eventType := .newConnection }).callThrough
          .socketOperationHandler state.socketOperationHandler
      initialised.enqueueTask name

/-- `TcpServerSocket::removeSocket`, for a client's store. -/
def removeSocket (name : ConnectionId) : SetUp :=
  let store := state.store name
  let closed :=
    state.setStore name { store with eventType := .closedConnection }
  if store.socketEventHandler ≠ none then
    (closed.callThrough .socketOperationHandler
      store.socketOperationHandler).enqueueTask name
  else closed.enqueueTask name

/-- The acceptor's loop takes an entry.  Its dispatcher is the server; no
object has been assigned to its other pointer. -/
def acceptorEvent (hangUp : Bool) (admission : Admission) : SetUp :=
  match state.acceptor.dispatch hangUp with
  | .nothing => state
  | .removeSocket pointer =>
      state.callThrough .removeSocketEventHandler pointer
  | .handleIOEvent pointer =>
      (state.callThrough .eventDispatcher pointer).handleIOEvent admission

/-- A poller's loop takes an entry.  Its dispatcher is the pool's handler and
its removal handler the server. -/
def pollerEvent (poller : PollerId) (name : ConnectionId) (hangUp : Bool) :
    SetUp :=
  match (state.poller poller).dispatch hangUp with
  | .nothing => state
  | .removeSocket pointer =>
      (state.callThrough .removeSocketEventHandler pointer).removeSocket name
  | .handleIOEvent pointer =>
      ((state.setStore name
          { state.store name with eventType := .incomingData }).callThrough
        .eventDispatcher pointer).enqueueTask name

/-- `handleCallBackEvent`, and in the callback the receiver's operations on the
store. -/
def handleCallBackEvent (name : ConnectionId) (operations : Nat) : SetUp :=
  let store := state.store name
  if store.eventType ≠ .blank ∧ state.eventReceiver ≠ .null then
    { state with
        calls :=
          state.calls ++ (.eventReceiver, state.eventReceiver) ::
            List.replicate operations
              (.socketOperationHandler, store.socketOperationHandler) }
  else state

/-- The client's loop takes an entry; `TcpClientSocket::handleIOEvent` reads
from its store. -/
def clientEvent (hangUp : Bool) : SetUp :=
  match state.client.dispatch hangUp with
  | .nothing => state
  | .removeSocket pointer =>
      state.callThrough .removeSocketEventHandler pointer
  | .handleIOEvent pointer =>
      (state.callThrough .eventDispatcher pointer).callThrough
        .socketOperationHandler state.clientHandler

/-- The step of an action, if it is enabled. -/
def step : Action → Option SetUp
  | .setSocketOperationHandler given =>
      some { state with socketOperationHandler := .ofArgument given }
  | .setEventReceiver given =>
      some { state with eventReceiver := .ofArgument given }
  | .startReceivingConnection => some state.startReceivingConnection
  | .createServerSocketAndStartReceiving =>
      some state.createServerSocketAndStartReceiving
  | .createClientSocketAndStartReceiving connected =>
      some (state.createClientSocketAndStartReceiving connected)
  | .acceptorEvent hangUp admission =>
      if state.acceptor.running ∧ state.acceptor.continuePolling then
        some (state.acceptorEvent hangUp admission)
      else none
  | .pollerEvent poller name hangUp =>
      if (state.poller poller).running ∧
          (state.poller poller).continuePolling ∧ name < state.numStores ∧
          (state.store name).socketEventHandler = some poller then
        some (state.pollerEvent poller name hangUp)
      else none
  | .callback operations =>
      match state.tasks with
      | [] => none
      | name :: rest =>
          some
            ({ state with tasks := rest }.handleCallBackEvent name operations)
  | .clientEvent hangUp =>
      if state.client.running ∧ state.client.continuePolling then
        some (state.clientEvent hangUp)
      else none

/-- After the constructors.  They assign the acceptor's dispatcher and the
pollers' removal handler, and no other pointer. -/
structure Constructed : Prop where
  socketOperationHandler : state.socketOperationHandler ≠ .assigned
  eventReceiver : state.eventReceiver ≠ .assigned
  acceptorDispatcher : state.acceptor.eventDispatcher = .assigned
  acceptorRemover : state.acceptor.removeSocketEventHandler ≠ .assigned
  pollerDispatcher : ∀ poller,
    (state.poller poller).eventDispatcher ≠ .assigned
  pollerRemover : ∀ poller,
    (state.poller poller).removeSocketEventHandler = .assigned
  clientDispatcher : state.client.eventDispatcher ≠ .assigned
  clientRemover : state.client.removeSocketEventHandler ≠ .assigned
  pollersIdle : ∀ poller, (state.poller poller).running = false
  numStores : state.numStores = 0
  tasks : state.tasks = []
  calls : state.calls = []

end SetUp

/-- The transition system of the set-up calls and the events after them. -/
def setUp : TransitionSystem SetUp SetUp.Action where
  initial := SetUp.Constructed
  step := SetUp.step

namespace SetUp

/-! ## What a step can do -/

/-- A set-up call, an entry of a running loop, or a task of the queue. -/
inductive Move (state : SetUp) : Action → SetUp → Prop where
  | setSocketOperationHandler (given : Bool) :
      Move state (.setSocketOperationHandler given)
        { state with socketOperationHandler := .ofArgument given }
  | setEventReceiver (given : Bool) :
      Move state (.setEventReceiver given)
        { state with eventReceiver := .ofArgument given }
  | startReceivingConnection :
      Move state .startReceivingConnection state.startReceivingConnection
  | createServerSocketAndStartReceiving :
      Move state .createServerSocketAndStartReceiving
        state.createServerSocketAndStartReceiving
  | createClientSocketAndStartReceiving (connected : Bool) :
      Move state (.createClientSocketAndStartReceiving connected)
        (state.createClientSocketAndStartReceiving connected)
  | acceptorEvent (hangUp : Bool) (admission : Admission)
      (polling : state.acceptor.continuePolling = true) :
      Move state (.acceptorEvent hangUp admission)
        (state.acceptorEvent hangUp admission)
  | pollerEvent (poller : PollerId) (name : ConnectionId) (hangUp : Bool)
      (running : (state.poller poller).running = true)
      (polling : (state.poller poller).continuePolling = true)
      (made : name < state.numStores) :
      Move state (.pollerEvent poller name hangUp)
        (state.pollerEvent poller name hangUp)
  | callback (operations : Nat) (name : ConnectionId)
      (rest : List ConnectionId) (queue : state.tasks = name :: rest) :
      Move state (.callback operations)
        ({ state with tasks := rest }.handleCallBackEvent name operations)
  | clientEvent (hangUp : Bool)
      (polling : state.client.continuePolling = true) :
      Move state (.clientEvent hangUp) (state.clientEvent hangUp)

theorem move_of_step {before after : SetUp} {action : Action}
    (taken : setUp.step before action = some after) :
    Move before action after := by
  change before.step action = some after at taken
  cases action with
  | setSocketOperationHandler given =>
      cases taken
      exact .setSocketOperationHandler given
  | setEventReceiver given =>
      cases taken
      exact .setEventReceiver given
  | startReceivingConnection =>
      cases taken
      exact .startReceivingConnection
  | createServerSocketAndStartReceiving =>
      cases taken
      exact .createServerSocketAndStartReceiving
  | createClientSocketAndStartReceiving connected =>
      cases taken
      exact .createClientSocketAndStartReceiving connected
  | acceptorEvent hangUp admission =>
      simp only [step] at taken
      split at taken
      · rename_i enabled
        cases taken
        exact .acceptorEvent _ _ enabled.2
      · cases taken
  | pollerEvent poller name hangUp =>
      simp only [step] at taken
      split at taken
      · rename_i enabled
        cases taken
        exact .pollerEvent _ _ _ enabled.1 enabled.2.1 enabled.2.2.1
      · cases taken
  | callback operations =>
      simp only [step] at taken
      split at taken
      · cases taken
      · rename_i queue
        cases taken
        exact .callback _ _ _ queue
  | clientEvent hangUp =>
      simp only [step] at taken
      split at taken
      · rename_i enabled
        cases taken
        exact .clientEvent _ enabled.2
      · cases taken

/-! ## Safety -/

/-- Every call was made through a pointer that had been assigned an object. -/
def Safe (state : SetUp) : Prop :=
  ∀ call ∈ state.calls, call.2 = .assigned

/-- The pointers that are assigned where they are needed, and those that never
are; every store's handler has been called through when it was made. -/
structure Wired (state : SetUp) : Prop where
  acceptorDispatcher : state.acceptor.eventDispatcher = .assigned
  acceptorRemover : state.acceptor.removeSocketEventHandler ≠ .assigned
  pollerDispatcher : ∀ poller, (state.poller poller).running = true →
    (state.poller poller).eventDispatcher = .assigned
  pollerRemover : ∀ poller,
    (state.poller poller).removeSocketEventHandler = .assigned
  clientDispatcher : state.client.eventDispatcher ≠ .assigned
  clientRemover : state.client.removeSocketEventHandler ≠ .assigned
  handler : ∀ name < state.numStores,
    (.socketOperationHandler, (state.store name).socketOperationHandler) ∈
      state.calls
  eventType : ∀ name < state.numStores,
    (state.store name).eventType ≠ .blank
  tasks : ∀ name ∈ state.tasks, name < state.numStores

variable {state before after : SetUp}

theorem Constructed.wired (constructed : state.Constructed) : Wired state where
  acceptorDispatcher := constructed.acceptorDispatcher
  acceptorRemover := constructed.acceptorRemover
  pollerDispatcher := by
    intro poller running
    cases running.symm.trans (constructed.pollersIdle poller)
  pollerRemover := constructed.pollerRemover
  clientDispatcher := constructed.clientDispatcher
  clientRemover := constructed.clientRemover
  handler := by
    intro name made
    rw [constructed.numStores] at made
    cases made
  eventType := by
    intro name made
    rw [constructed.numStores] at made
    cases made
  tasks := by
    intro name member
    rw [constructed.tasks] at member
    cases member

namespace Wired

theorem callThrough (wired : Wired state) (member : Member)
    (pointer : Pointer) : Wired (state.callThrough member pointer) :=
  { wired with
    handler := fun name made =>
      List.mem_append_left _ (wired.handler name made) }

theorem enqueueTask (wired : Wired state) {name : ConnectionId}
    (made : name < state.numStores) : Wired (state.enqueueTask name) :=
  { wired with
    tasks := by
      intro other member
      rcases List.mem_append.mp member with queued | added
      · exact wired.tasks other queued
      · rw [List.mem_singleton.mp added]
        exact made }

/-- An event marks its store. -/
theorem mark (wired : Wired state) (name : ConnectionId)
    {eventType : EventType} (kind : eventType ≠ .blank) :
    Wired
      (state.setStore name
        { state.store name with eventType := eventType }) where
  acceptorDispatcher := wired.acceptorDispatcher
  acceptorRemover := wired.acceptorRemover
  pollerDispatcher := wired.pollerDispatcher
  pollerRemover := wired.pollerRemover
  clientDispatcher := wired.clientDispatcher
  clientRemover := wired.clientRemover
  tasks := wired.tasks
  handler := by
    intro other made
    have called := wired.handler other made
    by_cases same : other = name
    · subst same
      simpa [setStore] using called
    · simpa [setStore, Function.update_of_ne same] using called
  eventType := by
    intro other made
    by_cases same : other = name
    · subst same
      simpa [setStore] using kind
    · simpa [setStore, Function.update_of_ne same] using
        wired.eventType other made

/-- A new store, whose handler has just been called through. -/
theorem insertStore (wired : Wired state) {store : Store}
    (kind : store.eventType ≠ .blank) :
    Wired
      (({ state with numStores := state.numStores + 1 }.setStore
          state.numStores store).callThrough
        .socketOperationHandler store.socketOperationHandler) where
  acceptorDispatcher := wired.acceptorDispatcher
  acceptorRemover := wired.acceptorRemover
  pollerDispatcher := wired.pollerDispatcher
  pollerRemover := wired.pollerRemover
  clientDispatcher := wired.clientDispatcher
  clientRemover := wired.clientRemover
  handler := by
    intro name made
    simp only [SetUp.callThrough, setStore, List.mem_append,
      List.mem_singleton] at made ⊢
    by_cases same : name = state.numStores
    · right
      rw [same, Function.update_self]
    · left
      rw [Function.update_of_ne same]
      exact wired.handler name (by omega)
  eventType := by
    intro name made
    simp only [SetUp.callThrough, setStore] at made ⊢
    by_cases same : name = state.numStores
    · rw [same, Function.update_self]
      exact kind
    · rw [Function.update_of_ne same]
      exact wired.eventType name (by omega)
  tasks := by
    intro name member
    exact Nat.lt_succ_of_lt (wired.tasks name member)

theorem handleIOEvent (wired : Wired state) (admission : Admission) :
    Wired (state.handleIOEvent admission) := by
  cases admission with
  | failed => exact wired
  | accepted poller epollAdded =>
      have kind : EventType.newConnection ≠ .blank := by decide
      refine (wired.insertStore ?_).enqueueTask ?_
      · exact kind
      · exact Nat.lt_succ_self _

theorem removeSocket (wired : Wired state) {name : ConnectionId}
    (made : name < state.numStores) : Wired (state.removeSocket name) := by
  have closed := wired.mark name (show EventType.closedConnection ≠ .blank by
    decide)
  unfold SetUp.removeSocket
  dsimp only
  split
  · exact (closed.callThrough _ _).enqueueTask made
  · exact closed.enqueueTask made

theorem handleCallBackEvent (wired : Wired state) (name : ConnectionId)
    (operations : Nat) :
    Wired (state.handleCallBackEvent name operations) := by
  unfold SetUp.handleCallBackEvent
  dsimp only
  split
  · exact
      { wired with
        handler := fun other made =>
          List.mem_append_left _ (wired.handler other made) }
  · exact wired

theorem acceptorEvent (wired : Wired state) (hangUp : Bool)
    (admission : Admission) :
    Wired (state.acceptorEvent hangUp admission) := by
  unfold SetUp.acceptorEvent
  split
  · exact wired
  · exact wired.callThrough _ _
  · exact (wired.callThrough _ _).handleIOEvent admission

theorem pollerEvent (wired : Wired state) (poller : PollerId)
    {name : ConnectionId} (made : name < state.numStores) (hangUp : Bool) :
    Wired (state.pollerEvent poller name hangUp) := by
  unfold SetUp.pollerEvent
  split
  · exact wired
  · exact (wired.callThrough _ _).removeSocket made
  · have marked := wired.mark name (show EventType.incomingData ≠ .blank by
      decide)
    exact (marked.callThrough _ _).enqueueTask made

theorem clientEvent (wired : Wired state) (hangUp : Bool) :
    Wired (state.clientEvent hangUp) := by
  unfold SetUp.clientEvent
  split
  · exact wired
  · exact wired.callThrough _ _
  · exact (wired.callThrough _ _).callThrough _ _

theorem startReceivingConnection (wired : Wired state) :
    Wired state.startReceivingConnection :=
  { wired with
    pollerDispatcher := by
      intro poller running
      simp only [SetUp.startReceivingConnection] at running ⊢
      split
      · rfl
      · rename_i outside
        rw [if_neg outside] at running
        exact wired.pollerDispatcher poller running
    pollerRemover := by
      intro poller
      simp only [SetUp.startReceivingConnection]
      split <;> exact wired.pollerRemover poller }

theorem createClientSocketAndStartReceiving (wired : Wired state)
    (connected : Bool) :
    Wired (state.createClientSocketAndStartReceiving connected) := by
  unfold SetUp.createClientSocketAndStartReceiving
  split
  · exact
      { wired with
        clientDispatcher := wired.clientDispatcher
        clientRemover := wired.clientRemover }
  · exact wired

/-- A worker takes the first task. -/
theorem dequeue (wired : Wired state) {name : ConnectionId}
    {rest : List ConnectionId} (queue : state.tasks = name :: rest) :
    Wired { state with tasks := rest } :=
  { wired with
    tasks := by
      intro other member
      apply wired.tasks other
      rw [queue]
      exact List.mem_cons_of_mem _ member }

theorem step {action : Action} (wired : Wired before)
    (taken : setUp.step before action = some after) : Wired after := by
  cases move_of_step taken with
  | setSocketOperationHandler given => exact { wired with }
  | setEventReceiver given => exact { wired with }
  | startReceivingConnection => exact wired.startReceivingConnection
  | createServerSocketAndStartReceiving =>
      exact
        { wired with
          acceptorDispatcher := wired.acceptorDispatcher
          acceptorRemover := wired.acceptorRemover }
  | createClientSocketAndStartReceiving connected =>
      exact wired.createClientSocketAndStartReceiving connected
  | acceptorEvent hangUp admission =>
      exact wired.acceptorEvent hangUp admission
  | pollerEvent poller name hangUp running polling made =>
      exact wired.pollerEvent poller made hangUp
  | callback operations name rest queue =>
      exact (wired.dequeue queue).handleCallBackEvent name operations
  | clientEvent hangUp => exact wired.clientEvent hangUp

end Wired

theorem safe_callThrough_iff {member : Member} {pointer : Pointer} :
    Safe (state.callThrough member pointer) ↔
      Safe state ∧ pointer = .assigned := by
  simp [Safe, callThrough, or_imp, forall_and]

/-- A store's handler was assigned, or the call that initialised the store was
not safe. -/
theorem Safe.handler (safe : Safe state) (wired : Wired state)
    {name : ConnectionId} (made : name < state.numStores) :
    (state.store name).socketOperationHandler = .assigned :=
  safe _ (wired.handler name made)

theorem Safe.removeSocket (safe : Safe state) (wired : Wired state)
    {name : ConnectionId} (made : name < state.numStores) :
    Safe (state.removeSocket name) := by
  unfold SetUp.removeSocket
  dsimp only
  split
  · have called : Safe (state.callThrough .socketOperationHandler
        (state.store name).socketOperationHandler) :=
      safe_callThrough_iff.mpr ⟨safe, safe.handler wired made⟩
    exact called
  · exact safe

theorem Safe.pollerEvent (safe : Safe state) (wired : Wired state)
    {poller : PollerId} (running : (state.poller poller).running = true)
    (polling : (state.poller poller).continuePolling = true)
    {name : ConnectionId} (made : name < state.numStores) (hangUp : Bool) :
    Safe (state.pollerEvent poller name hangUp) := by
  cases hangUp with
  | true =>
      have removes : state.pollerEvent poller name true =
          (state.callThrough .removeSocketEventHandler
            .assigned).removeSocket name := by
        simp [SetUp.pollerEvent, PollLoop.dispatch, wired.pollerRemover poller]
      rw [removes]
      apply Safe.removeSocket
      · exact safe_callThrough_iff.mpr ⟨safe, rfl⟩
      · exact wired.callThrough _ _
      · exact made
  | false =>
      have dispatches : (state.pollerEvent poller name false).calls =
          (state.callThrough .eventDispatcher .assigned).calls := by
        simp [SetUp.pollerEvent, PollLoop.dispatch, PollLoop.handleEvent,
          wired.pollerDispatcher poller running, polling, callThrough,
          SetUp.enqueueTask, setStore]
      unfold Safe
      rw [dispatches]
      exact safe_callThrough_iff.mpr ⟨safe, rfl⟩

end SetUp

end EventPlus

/-
Module: EventPlus.Handlers.SharedStore
Purpose: Calls of several threads on one TLS store.  Each call tests `m_SSL`
  before it takes `m_socketMutex` and uses it afterwards, so what it uses is
  what the last holder of the mutex left there.
Trusted boundary: OpenSSL, through the results of its calls
Main exports:
  SharedStore, SharedStore.step, sharedStore, SharedStore.Safe,
  SharedStore.LocksLive, SharedStore.safe_iff, SharedStore.ssl_used_after_free
-/
import Mathlib.Logic.Function.Basic
import EventPlus.Handlers.TLSReceiveData
import EventPlus.Library.TransitionSystem

namespace EventPlus

open Function (update)

namespace SharedStore

/-- A thread that calls the handler for the store. -/
abbrev ThreadId := Nat

/-- The handler's entry points that use `m_SSL`. -/
inductive Operation where
  | sendData (data : List UInt8)
  | receiveData
  | receivePartialData (dataSize : Int)
  | closeConnection
deriving Repr, Inhabited, DecidableEq

/-- The locals of a receive loop; `receiveData` has no `remainingSize`. -/
structure Reading where
  remainingSize : Option Int
  receivedData : List UInt8
deriving Repr, Inhabited, DecidableEq

/-- A thread's place in a call.  `pSSL` is the local copy of `m_SSL` in
`closeConnection`, and `unlock` carries what is returned, `none` for `void`,
and what has been appended to `data`. -/
inductive Point where
  | outside
  | test (operation : Operation)
  | lock (operation : Operation)
  | write (data : List UInt8)
  | read (reading : Reading)
  | copy
  | shutdown (pSSL : SSLPointer)
  | close (pSSL : SSLPointer)
  | free (pSSL : SSLPointer)
  | setNull
  | unlock (value : Option Int) (appended : List UInt8)
deriving Repr, Inhabited, DecidableEq

inductive SSLFunction where
  | SSL_read
  | SSL_write
  | SSL_shutdown
  | SSL_free
deriving Repr, Inhabited, DecidableEq

/-- One call into OpenSSL: the pointer passed, and whether the object had been
freed by then. -/
structure SSLCall where
  function : SSLFunction
  pointer : SSLPointer
  freed : Bool
deriving Repr, Inhabited, DecidableEq

/-- `buffer.size()`. -/
def Reading.bufferSize (reading : Reading) : Nat :=
  match reading.remainingSize with
  | none => EventPlus.bufferSize
  | some remaining => (min remaining 1000).toNat

/-- Where a call goes when it has the mutex. -/
def Operation.entry : Operation → Point
  | .sendData data => .write data
  | .receiveData => .read { remainingSize := none, receivedData := [] }
  | .receivePartialData dataSize =>
      if dataSize > 0 then
        .read { remainingSize := some dataSize, receivedData := [] }
      else .unlock (some 0) []
  | .closeConnection => .copy

/-- What a call returns when it finds `m_SSL` null. -/
def Operation.refused : Operation → Option Int
  | .closeConnection => none
  | _ => some (-1)

/-- Where the loop goes after `SSL_read`; `none` where `totalBytesRead`
overflows, which has no defined result. -/
def Reading.next (reading : Reading) : SSLReadResult → Option Point
  | .bytes data =>
      let received := reading.receivedData ++ data
      let remaining := reading.remainingSize.map fun remaining : Int =>
        remaining - data.length
      if intMax < received.length then none
      else if data.length < reading.bufferSize ∨
          remaining.any (· ≤ 0) then
        some (.unlock (some received.length) received)
      else some (.read { remainingSize := remaining, receivedData := received })
  | .failed .other => some (.unlock (some (-1)) [])
  | .failed _ =>
      some
        (.unlock (some reading.receivedData.length) reading.receivedData)

/-- A thread between `lock` and `unlock`. -/
def Point.critical : Point → Bool
  | .outside | .test _ | .lock _ => false
  | _ => true

/-- The pointer the next call into OpenSSL will be given. -/
def Point.nextPointer (ssl : SSLPointer) : Point → Option SSLPointer
  | .write _ | .read _ | .copy => some ssl
  | .shutdown pSSL | .close pSSL | .free pSSL => some pSSL
  | _ => none

end SharedStore

open SharedStore in
/-- An `EventStorePointer` with the threads that call the TLS handler for it.
The last five fields are history: whether its SSL object has been freed, the
calls into OpenSSL, how often the descriptor has been closed, and what the
calls returned and appended. -/
structure SharedStore where
  ssl : SSLPointer
  socketMutex : Option ThreadId
  point : ThreadId → Point
  freed : Bool
  sslCalls : List SSLCall
  closes : Nat
  returned : List (ThreadId × Option Int × List UInt8)

namespace SharedStore

/-- A store after a successful handshake. -/
def start : SharedStore where
  ssl := .object
  socketMutex := none
  point := fun _ => .outside
  freed := false
  sslCalls := []
  closes := 0
  returned := []

variable (store : SharedStore)

def setPoint (thread : ThreadId) (point : Point) : SharedStore :=
  { store with point := update store.point thread point }

/-- A call into OpenSSL. -/
def use (function : SSLFunction) (pointer : SSLPointer) : SharedStore :=
  { store with
      sslCalls :=
        store.sslCalls ++
          [{ function := function
             pointer := pointer
             freed := store.freed }]
      freed :=
        store.freed || decide (function = .SSL_free ∧ pointer = .object) }

def leaveCall (thread : ThreadId) (value : Option Int)
    (appended : List UInt8) : SharedStore :=
  { store with
      returned := store.returned ++ [(thread, value, appended)] }.setPoint
    thread .outside

/-- The next line of a thread, other than a read or a write. -/
def line (thread : ThreadId) : Option SharedStore :=
  match store.point thread with
  | .test operation =>
      if store.ssl = .null then
        some (store.leaveCall thread operation.refused [])
      else some (store.setPoint thread (.lock operation))
  | .lock operation =>
      if store.socketMutex = none then
        some
          ({ store with socketMutex := some thread }.setPoint thread
            operation.entry)
      else none
  | .copy => some (store.setPoint thread (.shutdown store.ssl))
  | .shutdown pSSL =>
      some ((store.use .SSL_shutdown pSSL).setPoint thread (.close pSSL))
  | .close pSSL =>
      some
        ({ store with closes := store.closes + 1 }.setPoint thread
          (.free pSSL))
  | .free pSSL => some ((store.use .SSL_free pSSL).setPoint thread .setNull)
  | .setNull =>
      some ({ store with ssl := .null }.setPoint thread (.unlock none []))
  | .unlock value appended =>
      some
        ({ store with socketMutex := none }.leaveCall thread value appended)
  | _ => none

/-- The actions of a run. -/
inductive Action where
  | call (thread : ThreadId) (operation : Operation)
  | line (thread : ThreadId)
  | write (thread : ThreadId) (result : Int)
  | read (thread : ThreadId) (result : SSLReadResult)
deriving Repr, Inhabited, DecidableEq

/-- A read that returns bytes returns some, and no more than fit. -/
def Reading.admits (reading : Reading) : SSLReadResult → Bool
  | .bytes data => data ≠ [] ∧ data.length ≤ reading.bufferSize
  | .failed _ => true

/-- The step of an action, if it is enabled. -/
def step : Action → Option SharedStore
  | .call thread operation =>
      match store.point thread with
      | .outside => some (store.setPoint thread (.test operation))
      | _ => none
  | .line thread => store.line thread
  | .write thread result =>
      match store.point thread with
      | .write _ =>
          some
            ((store.use .SSL_write store.ssl).setPoint thread
              (.unlock (some result) []))
      | _ => none
  | .read thread result =>
      match store.point thread with
      | .read reading =>
          if reading.admits result then
            (reading.next result).map fun point =>
              (store.use .SSL_read store.ssl).setPoint thread point
          else none
      | _ => none

/-! ## What a step can do -/

/-- One line of one thread. -/
inductive Move (store : SharedStore) : Action → SharedStore → Prop where
  | call (thread : ThreadId) (operation : Operation)
      (at_point : store.point thread = .outside) :
      Move store (.call thread operation)
        (store.setPoint thread (.test operation))
  | refuse (thread : ThreadId) (operation : Operation)
      (at_point : store.point thread = .test operation)
      (null : store.ssl = .null) :
      Move store (.line thread)
        (store.leaveCall thread operation.refused [])
  | pass (thread : ThreadId) (operation : Operation)
      (at_point : store.point thread = .test operation)
      (nonNull : store.ssl ≠ .null) :
      Move store (.line thread) (store.setPoint thread (.lock operation))
  | lock (thread : ThreadId) (operation : Operation)
      (at_point : store.point thread = .lock operation)
      (unheld : store.socketMutex = none) :
      Move store (.line thread)
        ({ store with socketMutex := some thread }.setPoint thread
          operation.entry)
  | write (thread : ThreadId) (data : List UInt8) (result : Int)
      (at_point : store.point thread = .write data) :
      Move store (.write thread result)
        ((store.use .SSL_write store.ssl).setPoint thread
          (.unlock (some result) []))
  | read (thread : ThreadId) (reading : Reading) (result : SSLReadResult)
      (point : Point)
      (at_point : store.point thread = .read reading)
      (next : reading.next result = some point) :
      Move store (.read thread result)
        ((store.use .SSL_read store.ssl).setPoint thread point)
  | copy (thread : ThreadId) (at_point : store.point thread = .copy) :
      Move store (.line thread)
        (store.setPoint thread (.shutdown store.ssl))
  | shutdown (thread : ThreadId) (pSSL : SSLPointer)
      (at_point : store.point thread = .shutdown pSSL) :
      Move store (.line thread)
        ((store.use .SSL_shutdown pSSL).setPoint thread (.close pSSL))
  | close (thread : ThreadId) (pSSL : SSLPointer)
      (at_point : store.point thread = .close pSSL) :
      Move store (.line thread)
        ({ store with closes := store.closes + 1 }.setPoint thread
          (.free pSSL))
  | free (thread : ThreadId) (pSSL : SSLPointer)
      (at_point : store.point thread = .free pSSL) :
      Move store (.line thread)
        ((store.use .SSL_free pSSL).setPoint thread .setNull)
  | setNull (thread : ThreadId)
      (at_point : store.point thread = .setNull) :
      Move store (.line thread)
        ({ store with ssl := .null }.setPoint thread (.unlock none []))
  | unlock (thread : ThreadId) (value : Option Int) (appended : List UInt8)
      (at_point : store.point thread = .unlock value appended) :
      Move store (.line thread)
        ({ store with socketMutex := none }.leaveCall thread value appended)

end SharedStore

/-- The transition system of one store and the threads that call the TLS
handler for it. -/
def sharedStore : TransitionSystem SharedStore SharedStore.Action where
  initial := fun store => store = SharedStore.start
  step := SharedStore.step

namespace SharedStore

variable {store before after : SharedStore}

theorem move_of_line {thread : ThreadId}
    (taken : before.line thread = some after) :
    Move before (.line thread) after := by
  unfold line at taken
  split at taken
  · split at taken
    · cases taken
      exact .refuse _ _ ‹_› ‹_›
    · cases taken
      exact .pass _ _ ‹_› ‹_›
  · split at taken
    · cases taken
      exact .lock _ _ ‹_› ‹_›
    · cases taken
  · cases taken
    exact .copy _ ‹_›
  · cases taken
    exact .shutdown _ _ ‹_›
  · cases taken
    exact .close _ _ ‹_›
  · cases taken
    exact .free _ _ ‹_›
  · cases taken
    exact .setNull _ ‹_›
  · cases taken
    exact .unlock _ _ _ ‹_›
  · cases taken

/-- Every step of the transition system is one line of one thread. -/
theorem move_of_step {action : Action}
    (taken : sharedStore.step before action = some after) :
    Move before action after := by
  change before.step action = some after at taken
  cases action with
  | call thread operation =>
      simp only [step] at taken
      split at taken
      · cases taken
        exact .call _ _ ‹_›
      · cases taken
  | line thread => exact move_of_line taken
  | write thread result =>
      simp only [step] at taken
      split at taken
      · cases taken
        exact .write _ _ _ ‹_›
      · cases taken
  | read thread result =>
      simp only [step] at taken
      split at taken
      · split at taken
        · obtain ⟨point, next, moved⟩ := Option.map_eq_some_iff.mp taken
          rw [← moved]
          exact .read _ _ _ _ ‹_› next
        · cases taken
      · cases taken

/-! ## The mutex -/

/-- A thread between `lock` and `unlock` holds the mutex. -/
def Locked (store : SharedStore) : Prop :=
  ∀ thread, (store.point thread).critical = true →
    store.socketMutex = some thread

namespace Locked

theorem critical_unique (locked : Locked store) {first second : ThreadId}
    (here : (store.point first).critical = true)
    (there : (store.point second).critical = true) : first = second :=
  Option.some.inj ((locked first here).symm.trans (locked second there))

/-- A thread that takes, has or releases the mutex. -/
theorem turn (locked : Locked store) {thread : ThreadId}
    (mine : store.socketMutex = none ∨ store.socketMutex = some thread)
    {base : SharedStore} (same : base.point = store.point) {point : Point}
    (holds : point.critical = true → base.socketMutex = some thread) :
    Locked (base.setPoint thread point) := by
  intro other critical
  by_cases here : other = thread
  · subst here
    simp only [setPoint, Function.update_self] at critical
    exact holds critical
  · simp only [setPoint, Function.update_of_ne here, same] at critical
    have holder := locked other critical
    rcases mine with unheld | held
    · cases unheld.symm.trans holder
    · exact absurd (Option.some.inj (holder.symm.trans held)) here

/-- A thread goes on outside the mutex. -/
theorem outside (locked : Locked store) {thread : ThreadId}
    {base : SharedStore} (points : base.point = store.point)
    (mutex : base.socketMutex = store.socketMutex) {point : Point}
    (away : point.critical = false) :
    Locked (base.setPoint thread point) := by
  intro other critical
  by_cases here : other = thread
  · subst here
    simp only [setPoint, Function.update_self] at critical
    cases away.symm.trans critical
  · simp only [setPoint, Function.update_of_ne here, points] at critical
    change base.socketMutex = some other
    rw [mutex]
    exact locked other critical

theorem holds (locked : Locked store) {thread : ThreadId} {point : Point}
    (at_point : store.point thread = point)
    (critical : point.critical = true) :
    store.socketMutex = some thread := by
  apply locked
  rw [at_point]
  exact critical

/-- The holder goes on, still holding. -/
theorem inside (locked : Locked store) {thread : ThreadId}
    {point next : Point} (at_point : store.point thread = point)
    (critical : point.critical = true)
    {base : SharedStore} (points : base.point = store.point)
    (mutex : base.socketMutex = store.socketMutex) :
    Locked (base.setPoint thread next) := by
  have mine := locked.holds at_point critical
  apply locked.turn (.inr mine) points
  intro _
  rw [mutex]
  exact mine

theorem step {action : Action} (locked : Locked before)
    (move : Move before action after) : Locked after := by
  cases move with
  | call thread operation at_point => exact locked.outside rfl rfl rfl
  | refuse thread operation at_point null =>
      have ended : Locked (before.setPoint thread .outside) :=
        locked.outside rfl rfl rfl
      exact ended
  | pass thread operation at_point nonNull =>
      exact locked.outside rfl rfl rfl
  | lock thread operation at_point unheld =>
      apply locked.turn (.inl unheld)
      · rfl
      · intro _
        rfl
  | unlock thread value appended at_point =>
      have mine := locked.holds at_point rfl
      have ended : Locked
          ({ before with socketMutex := none }.setPoint thread .outside) := by
        apply locked.turn (.inr mine)
        · rfl
        · intro critical
          cases critical
      exact ended
  | write thread data result at_point =>
      exact locked.inside at_point rfl rfl rfl
  | read thread reading result point at_point next =>
      exact locked.inside at_point rfl rfl rfl
  | copy thread at_point =>
      exact locked.inside at_point rfl rfl rfl
  | shutdown thread pSSL at_point =>
      exact locked.inside at_point rfl rfl rfl
  | close thread pSSL at_point =>
      exact locked.inside at_point rfl rfl rfl
  | free thread pSSL at_point =>
      exact locked.inside at_point rfl rfl rfl
  | setNull thread at_point =>
      exact locked.inside at_point rfl rfl rfl

end Locked

theorem locked_of_reachable (reachable : sharedStore.Reachable store) :
    Locked store := by
  refine TransitionSystem.Reachable.invariant ?_ ?_ reachable
  · intro state initially thread critical
    cases initially
    cases critical
  · intro before action after _ taken locked
    exact locked.step (move_of_step taken)

/-! ## Live objects, freed and closed once -/

/-- The number of calls of `SSL_free`. -/
def frees (store : SharedStore) : Nat :=
  store.sslCalls.countP fun call => call.function = .SSL_free

/-- Every call into OpenSSL was given an object that was not null and not
freed, the object was freed once at most, and so was the descriptor closed. -/
structure Safe (store : SharedStore) : Prop where
  calls_live : ∀ call ∈ store.sslCalls,
    call.pointer = .object ∧ call.freed = false
  freed_once : store.frees ≤ 1
  closed_once : store.closes ≤ 1

/-- Whether a call uses `m_SSL` once it has the mutex. -/
def Operation.usesSSL : Operation → Bool
  | .receivePartialData dataSize => dataSize > 0
  | _ => true

/-- A thread that takes the mutex for a call that uses `m_SSL` finds the object
still there. -/
def LocksLive (store : SharedStore) : Action → Prop
  | .line thread => ∀ operation, store.point thread = .lock operation →
      operation.usesSSL = true → store.ssl = .object
  | _ => True

instance (store : SharedStore) (action : Action) :
    Decidable (LocksLive store action) :=
  match action with
  | .line thread =>
      match at_point : store.point thread with
      | .lock operation =>
          decidable_of_iff (operation.usesSSL = true → store.ssl = .object)
            (by simp [LocksLive, at_point])
      | .outside | .test _ | .write _ | .read _ | .copy | .shutdown _
      | .close _ | .free _ | .setNull | .unlock _ _ =>
          .isTrue (by simp [LocksLive, at_point])
  | .call _ _ | .write _ _ | .read _ _ => .isTrue trivial

/-- All calls made were given the live object, and so will be the next one of
each thread that has the mutex. -/
structure Sound (store : SharedStore) : Prop where
  calls_live : ∀ call ∈ store.sslCalls,
    call.pointer = .object ∧ call.freed = false
  next_live : ∀ thread pointer,
    (store.point thread).nextPointer store.ssl = some pointer →
      pointer = .object

/-- A thread in `closeConnection` that has not cleared `m_SSL` yet. -/
def Point.closing : Point → Bool
  | .copy | .shutdown _ | .close _ | .free _ | .setNull => true
  | _ => false

/-- And has closed the descriptor. -/
def Point.hasClosed : Point → Bool
  | .free _ | .setNull => true
  | _ => false

/-- What has been closed and freed, as long as all calls are sound. -/
structure Accounts (store : SharedStore) : Prop where
  closing_live : ∀ thread, (store.point thread).closing = true →
    store.ssl = .object
  unclosed : store.ssl = .object →
    (∀ thread, (store.point thread).hasClosed = false) → store.closes = 0
  unfreed : store.ssl = .object →
    (∀ thread, store.point thread ≠ .setNull) →
      store.freed = false ∧ store.frees = 0
  closed_once : store.closes ≤ 1
  freed_once : store.frees ≤ 1

theorem frees_use (function : SSLFunction) (pointer : SSLPointer) :
    (store.use function pointer).frees =
      store.frees + if function = .SSL_free then 1 else 0 := by
  simp [frees, use, List.countP_append, List.countP_cons]

/-- The pointer of a thread that is about to call OpenSSL. -/
theorem critical_of_nextPointer {point : Point} {ssl pointer : SSLPointer}
    (next : point.nextPointer ssl = some pointer) :
    point.critical = true := by
  cases point <;> first | rfl | cases next

theorem critical_of_closing {point : Point} (closing : point.closing = true) :
    point.critical = true := by
  cases point <;> first | rfl | cases closing

theorem critical_of_hasClosed {point : Point}
    (closed : point.hasClosed = true) : point.critical = true := by
  cases point <;> first | rfl | cases closed

/-- With the mutex and the object, nothing has been freed. -/
theorem Accounts.freed_of_holder (accounts : Accounts store)
    (locked : Locked store) {thread : ThreadId} {point : Point}
    (at_point : store.point thread = point) (critical : point.critical = true)
    (not_last : point ≠ .setNull) (live : store.ssl = .object) :
    store.freed = false ∧ store.frees = 0 := by
  apply accounts.unfreed live
  intro other at_setNull
  have same : other = thread := by
    apply locked.critical_unique
    · rw [at_setNull]
      rfl
    · rw [at_point]
      exact critical
  rw [same, at_point] at at_setNull
  exact not_last at_setNull

/-- The object behind the next call of the holder has not been freed. -/
theorem Sound.next_unfreed (sound : Sound store) (accounts : Accounts store)
    (locked : Locked store) {thread : ThreadId} {point : Point}
    {pointer : SSLPointer} (at_point : store.point thread = point)
    (next : point.nextPointer store.ssl = some pointer) :
    pointer = .object ∧ store.freed = false := by
  have live : pointer = .object := by
    apply sound.next_live thread
    rw [at_point]
    exact next
  have object : store.ssl = .object := by
    cases point with
    | write data =>
        cases next
        exact live
    | read reading =>
        cases next
        exact live
    | copy =>
        cases next
        exact live
    | shutdown pSSL =>
        apply accounts.closing_live thread
        rw [at_point]
        rfl
    | close pSSL =>
        apply accounts.closing_live thread
        rw [at_point]
        rfl
    | free pSSL =>
        apply accounts.closing_live thread
        rw [at_point]
        rfl
    | _ => cases next
  constructor
  · exact live
  · apply (accounts.freed_of_holder locked at_point
      (critical_of_nextPointer next) _ object).1
    intro last
    rw [last] at next
    cases next

namespace Sound

/-- A thread moves; the calls made stay as they are. -/
theorem setPoint (sound : Sound store) {thread : ThreadId} {point : Point}
    {base : SharedStore} (points : base.point = store.point)
    (calls : base.sslCalls = store.sslCalls) (ssl : base.ssl = store.ssl)
    (live : ∀ pointer, point.nextPointer store.ssl = some pointer →
      pointer = .object) :
    Sound (base.setPoint thread point) where
  calls_live := by
    change ∀ call ∈ base.sslCalls, _
    rw [calls]
    exact sound.calls_live
  next_live := by
    intro other pointer next
    change Point.nextPointer base.ssl _ = _ at next
    rw [ssl] at next
    by_cases here : other = thread
    · subst here
      simp only [SharedStore.setPoint, Function.update_self] at next
      exact live pointer next
    · simp only [SharedStore.setPoint, Function.update_of_ne here, points]
        at next
      exact sound.next_live other pointer next

/-- The holder calls OpenSSL with a live object. -/
theorem use (sound : Sound store) {function : SSLFunction}
    {pointer : SSLPointer}
    (live : pointer = .object ∧ store.freed = false) :
    Sound (store.use function pointer) where
  calls_live := by
    intro call member
    rcases List.mem_append.mp member with earlier | latest
    · exact sound.calls_live call earlier
    · rw [List.mem_singleton.mp latest]
      exact live
  next_live := sound.next_live

/-- After a read the loop goes round or the call is over. -/
theorem reading_next {reading : Reading} {result : SSLReadResult}
    {point : Point} (next : reading.next result = some point) :
    (∃ more, point = .read more) ∨
      ∃ value appended, point = .unlock value appended := by
  unfold Reading.next at next
  split at next
  · dsimp only at next
    split at next
    · cases next
    · split at next
      · cases next
        exact .inr ⟨_, _, rfl⟩
      · cases next
        exact .inl ⟨_, rfl⟩
  · cases next
    exact .inr ⟨_, _, rfl⟩
  · cases next
    exact .inr ⟨_, _, rfl⟩

/-- The next pointer of a call that has just got the mutex. -/
theorem entry_nextPointer (operation : Operation) (ssl : SSLPointer) :
    operation.entry.nextPointer ssl =
      if operation.usesSSL = true then some ssl else none := by
  cases operation with
  | receivePartialData dataSize =>
      by_cases some_bytes : dataSize > 0
      · simp [Operation.entry, Operation.usesSSL, Point.nextPointer,
          some_bytes]
      · simp [Operation.entry, Operation.usesSSL, Point.nextPointer,
          some_bytes]
  | _ => rfl

theorem step {action : Action} (sound : Sound before)
    (accounts : Accounts before) (locked : Locked before)
    (move : Move before action after) (live : LocksLive before action) :
    Sound after := by
  cases move with
  | call thread operation at_point =>
      apply sound.setPoint rfl rfl rfl
      intro pointer next
      cases next
  | refuse thread operation at_point null =>
      have moved : Sound (before.setPoint thread .outside) := by
        apply sound.setPoint rfl rfl rfl
        intro pointer next
        cases next
      exact { moved with }
  | pass thread operation at_point nonNull =>
      apply sound.setPoint rfl rfl rfl
      intro pointer next
      cases next
  | lock thread operation at_point unheld =>
      have moved : Sound (before.setPoint thread operation.entry) := by
        apply sound.setPoint rfl rfl rfl
        intro pointer next
        rw [entry_nextPointer] at next
        split at next
        · rename_i uses
          cases next
          exact live operation at_point uses
        · cases next
      exact { moved with }
  | write thread data result at_point =>
      have object := sound.next_unfreed accounts locked at_point rfl
      apply (sound.use object).setPoint rfl rfl rfl
      intro pointer next
      cases next
  | read thread reading result point at_point next =>
      have object := sound.next_unfreed accounts locked at_point rfl
      apply (sound.use object).setPoint rfl rfl rfl
      intro pointer again
      rcases reading_next next with more | ended
      · obtain ⟨_, rfl⟩ := more
        cases again
        exact object.1
      · obtain ⟨_, _, rfl⟩ := ended
        cases again
  | copy thread at_point =>
      have object := sound.next_unfreed accounts locked at_point rfl
      apply sound.setPoint rfl rfl rfl
      intro pointer next
      cases next
      exact object.1
  | shutdown thread pSSL at_point =>
      have object := sound.next_unfreed accounts locked at_point rfl
      apply (sound.use object).setPoint rfl rfl rfl
      intro pointer next
      cases next
      exact object.1
  | close thread pSSL at_point =>
      have object := sound.next_unfreed accounts locked at_point rfl
      have moved : Sound (before.setPoint thread (.free pSSL)) := by
        apply sound.setPoint rfl rfl rfl
        intro pointer next
        cases next
        exact object.1
      exact { moved with }
  | free thread pSSL at_point =>
      have object := sound.next_unfreed accounts locked at_point rfl
      apply (sound.use object).setPoint rfl rfl rfl
      intro pointer next
      cases next
  | setNull thread at_point =>
      refine { sound with next_live := ?_ }
      intro other pointer next
      by_cases here : other = thread
      · subst here
        simp only [SharedStore.setPoint, Function.update_self] at next
        cases next
      · simp only [SharedStore.setPoint, Function.update_of_ne here] at next
        have same : other = thread := by
          apply locked.critical_unique (critical_of_nextPointer next)
          rw [at_point]
          rfl
        exact absurd same here
  | unlock thread value appended at_point =>
      have moved : Sound (before.setPoint thread .outside) := by
        apply sound.setPoint rfl rfl rfl
        intro pointer next
        cases next
      exact { moved with }

/-- A call that takes the mutex after `m_SSL` has been cleared goes wrong. -/
theorem locksLive {action : Action} (sound : Sound after)
    (move : Move before action after) : LocksLive before action := by
  cases action with
  | line thread =>
      intro operation at_lock uses
      have result : after =
          { before with socketMutex := some thread }.setPoint thread
            operation.entry := by
        cases move with
        | lock _ _ at_point _ =>
            cases at_lock.symm.trans at_point
            rfl
        | refuse _ _ at_point _ => cases at_lock.symm.trans at_point
        | pass _ _ at_point _ => cases at_lock.symm.trans at_point
        | copy _ at_point => cases at_lock.symm.trans at_point
        | shutdown _ _ at_point => cases at_lock.symm.trans at_point
        | close _ _ at_point => cases at_lock.symm.trans at_point
        | free _ _ at_point => cases at_lock.symm.trans at_point
        | setNull _ at_point => cases at_lock.symm.trans at_point
        | unlock _ _ _ at_point => cases at_lock.symm.trans at_point
      subst result
      apply sound.next_live thread
      simp only [SharedStore.setPoint, Function.update_self]
      rw [entry_nextPointer, if_pos uses]
  | _ => trivial

end Sound

/-- The thread an action is about. -/
def Action.thread : Action → ThreadId
  | .call thread _ | .line thread | .write thread _ | .read thread _ => thread

/-- While a thread has the mutex, the others change neither its place nor
`m_SSL`. -/
theorem Move.kept_of_other {action : Action} (locked : Locked before)
    (move : Move before action after) {holder : ThreadId}
    (critical : (before.point holder).critical = true)
    (other : action.thread ≠ holder) :
    after.point holder = before.point holder ∧ after.ssl = before.ssl := by
  have alone : ∀ {thread : ThreadId} {point : Point},
      thread ≠ holder → before.point thread = point →
      point.critical = false := by
    intro thread point elsewhere at_point
    apply Bool.eq_false_iff.mpr
    intro inside
    apply elsewhere
    apply locked.critical_unique _ critical
    rw [at_point]
    exact inside
  have away : ∀ (base : SharedStore) (thread : ThreadId) (point : Point),
      thread ≠ holder → base.point = before.point →
      (base.setPoint thread point).point holder = before.point holder := by
    intro base thread point elsewhere points
    simp only [setPoint, Function.update_of_ne (Ne.symm elsewhere), points]
  cases move with
  | call thread operation at_point =>
      exact ⟨away before thread (.test operation) other rfl, rfl⟩
  | refuse thread operation at_point null =>
      exact ⟨away before thread .outside other rfl, rfl⟩
  | pass thread operation at_point nonNull =>
      exact ⟨away before thread (.lock operation) other rfl, rfl⟩
  | lock thread operation at_point unheld =>
      cases unheld.symm.trans (locked holder critical)
  | write thread data result at_point => cases alone other at_point
  | read thread reading result point at_point next =>
      cases alone other at_point
  | copy thread at_point => cases alone other at_point
  | shutdown thread pSSL at_point => cases alone other at_point
  | close thread pSSL at_point => cases alone other at_point
  | free thread pSSL at_point => cases alone other at_point
  | setNull thread at_point => cases alone other at_point
  | unlock thread value appended at_point => cases alone other at_point

/-- The pointer a thread is about to pass is passed by its next line, or kept
for the line after. -/
theorem Move.passes {action : Action} (move : Move before action after)
    {pointer : SSLPointer}
    (next : (before.point action.thread).nextPointer before.ssl =
      some pointer) :
    (∃ call ∈ after.sslCalls, call.pointer = pointer) ∨
      (after.point action.thread).nextPointer after.ssl = some pointer := by
  have used : ∀ (function : SSLFunction) (thread : ThreadId) (point : Point),
      ∃ call ∈ ((before.use function pointer).setPoint thread point).sslCalls,
        call.pointer = pointer := by
    intro function thread point
    exact ⟨_, List.mem_append_right _ (List.mem_singleton.mpr rfl), rfl⟩
  cases move with
  | call thread operation at_point =>
      simp only [Action.thread, at_point] at next
      cases next
  | refuse thread operation at_point null =>
      simp only [Action.thread, at_point] at next
      cases next
  | pass thread operation at_point nonNull =>
      simp only [Action.thread, at_point] at next
      cases next
  | lock thread operation at_point unheld =>
      simp only [Action.thread, at_point] at next
      cases next
  | write thread data result at_point =>
      simp only [Action.thread, at_point] at next
      cases next
      exact .inl (used _ _ _)
  | read thread reading result point at_point again =>
      simp only [Action.thread, at_point] at next
      cases next
      exact .inl (used _ _ _)
  | copy thread at_point =>
      simp only [Action.thread, at_point] at next
      cases next
      right
      simp only [Action.thread, setPoint, Function.update_self]
      rfl
  | shutdown thread pSSL at_point =>
      simp only [Action.thread, at_point] at next
      cases next
      exact .inl (used _ _ _)
  | close thread pSSL at_point =>
      simp only [Action.thread, at_point] at next
      cases next
      right
      simp only [Action.thread, setPoint, Function.update_self]
      rfl
  | free thread pSSL at_point =>
      simp only [Action.thread, at_point] at next
      cases next
      exact .inl (used _ _ _)
  | setNull thread at_point =>
      simp only [Action.thread, at_point] at next
      cases next
  | unlock thread value appended at_point =>
      simp only [Action.thread, at_point] at next
      cases next

/-- Calls are not undone. -/
theorem Move.sslCalls_subset {action : Action}
    (move : Move before action after) : before.sslCalls ⊆ after.sslCalls := by
  cases move with
  | write | read | shutdown | free => exact List.subset_append_left _ _
  | _ => exact List.Subset.refl _

/-- What has gone wrong stays wrong. -/
theorem Sound.of_after {action : Action} (locked : Locked before)
    (move : Move before action after) (sound : Sound after) :
    Sound before where
  calls_live := by
    intro call member
    exact sound.calls_live call (move.sslCalls_subset member)
  next_live := by
    intro thread pointer next
    by_cases own : action.thread = thread
    · rw [← own] at next
      rcases move.passes next with passed | again
      · obtain ⟨call, member, same⟩ := passed
        rw [← same]
        exact (sound.calls_live call member).1
      · exact sound.next_live _ pointer again
    · have kept := move.kept_of_other locked (critical_of_nextPointer next)
        own
      apply sound.next_live thread
      rw [kept.1, kept.2]
      exact next

/-! ## What is closed and freed -/

namespace Accounts

/-- A thread moves, and neither closes nor frees. -/
theorem setPoint (accounts : Accounts store) {thread : ThreadId}
    {old point : Point} (at_point : store.point thread = old)
    (closing : point.closing = true → store.ssl = .object)
    (hasClosed : old.hasClosed = point.hasClosed)
    (setNull : old = .setNull → point = .setNull) :
    Accounts (store.setPoint thread point) :=
  { accounts with
    closing_live := by
      intro other at_close
      by_cases here : other = thread
      · subst here
        simp only [SharedStore.setPoint, Function.update_self] at at_close
        exact closing at_close
      · simp only [SharedStore.setPoint, Function.update_of_ne here]
          at at_close
        exact accounts.closing_live other at_close
    unclosed := by
      intro live unclosed
      apply accounts.unclosed live
      intro other
      have after := unclosed other
      by_cases here : other = thread
      · subst here
        simp only [SharedStore.setPoint, Function.update_self] at after
        rw [at_point, hasClosed]
        exact after
      · simp only [SharedStore.setPoint, Function.update_of_ne here] at after
        exact after
    unfreed := by
      intro live unfreed
      apply accounts.unfreed live
      intro other at_setNull
      apply unfreed other
      by_cases here : other = thread
      · subst here
        simp only [SharedStore.setPoint, Function.update_self]
        exact setNull (at_point.symm.trans at_setNull)
      · simp only [SharedStore.setPoint, Function.update_of_ne here]
        exact at_setNull }

/-- A thread that has not closed the descriptor moves to a point outside
`closeConnection`. -/
theorem moveOutside (accounts : Accounts store) {thread : ThreadId}
    {old point : Point} (at_point : store.point thread = old)
    (before : old.hasClosed = false) (after : point.closing = false) :
    Accounts (store.setPoint thread point) := by
  apply accounts.setPoint at_point
  · intro closing
    rw [after] at closing
    cases closing
  · rw [before]
    cases point with
    | free pSSL => cases after
    | setNull => cases after
    | _ => rfl
  · rintro rfl
    cases before

/-- A call into OpenSSL that frees nothing. -/
theorem use (accounts : Accounts store) {function : SSLFunction}
    (keeps : function ≠ .SSL_free) (pointer : SSLPointer) :
    Accounts (store.use function pointer) := by
  have frees : (store.use function pointer).frees = store.frees := by
    rw [frees_use, if_neg keeps, Nat.add_zero]
  have freed : (store.use function pointer).freed = store.freed := by
    simp [SharedStore.use, keeps]
  refine { accounts with unfreed := ?_, freed_once := ?_ }
  · rw [frees, freed]
    exact accounts.unfreed
  · rw [frees]
    exact accounts.freed_once

/-- `close(iSocketID)` is the only one so far. -/
theorem close (accounts : Accounts store) (locked : Locked store)
    {thread : ThreadId} {pSSL : SSLPointer}
    (at_point : store.point thread = .close pSSL) :
    Accounts
      ({ store with closes := store.closes + 1 }.setPoint thread
        (.free pSSL)) := by
  have live : store.ssl = .object := by
    apply accounts.closing_live thread
    rw [at_point]
    rfl
  have none_yet : store.closes = 0 := by
    apply accounts.unclosed live
    intro other
    apply Bool.eq_false_iff.mpr
    intro closed
    have same : other = thread := by
      apply locked.critical_unique (critical_of_hasClosed closed)
      rw [at_point]
      rfl
    rw [same, at_point] at closed
    cases closed
  have unfreed := accounts.freed_of_holder locked at_point rfl (by simp) live
  constructor
  · intro _ _
    exact live
  · intro _ unclosed
    have here := unclosed thread
    simp only [SharedStore.setPoint, Function.update_self] at here
    cases here
  · intro _ _
    exact unfreed
  · change store.closes + 1 ≤ 1
    exact Nat.le_of_eq (congrArg (· + 1) none_yet)
  · exact accounts.freed_once

/-- So is `SSL_free(pSSL)`. -/
theorem free (accounts : Accounts store) (locked : Locked store)
    {thread : ThreadId} {pSSL : SSLPointer}
    (at_point : store.point thread = .free pSSL) :
    Accounts ((store.use .SSL_free pSSL).setPoint thread .setNull) := by
  have live : store.ssl = .object := by
    apply accounts.closing_live thread
    rw [at_point]
    rfl
  have unfreed := accounts.freed_of_holder locked at_point rfl (by simp) live
  constructor
  · intro _ _
    exact live
  · intro _ unclosed
    have here := unclosed thread
    simp only [SharedStore.setPoint, Function.update_self] at here
    cases here
  · intro _ elsewhere
    have here := elsewhere thread
    simp only [SharedStore.setPoint, Function.update_self] at here
    exact absurd rfl here
  · exact accounts.closed_once
  · change (store.use .SSL_free pSSL).frees ≤ 1
    rw [frees_use, unfreed.2]
    simp

/-- With `m_SSL` null nobody else is in `closeConnection`. -/
theorem setNull (accounts : Accounts store) (locked : Locked store)
    {thread : ThreadId} (at_point : store.point thread = .setNull) :
    Accounts
      ({ store with ssl := .null }.setPoint thread (.unlock none [])) := by
  constructor
  · intro other closing
    by_cases here : other = thread
    · subst here
      simp only [SharedStore.setPoint, Function.update_self] at closing
      cases closing
    · simp only [SharedStore.setPoint, Function.update_of_ne here] at closing
      have same : other = thread := by
        apply locked.critical_unique (critical_of_closing closing)
        rw [at_point]
        rfl
      exact absurd same here
  · intro live
    cases live
  · intro live
    cases live
  · exact accounts.closed_once
  · exact accounts.freed_once

theorem step {action : Action} (accounts : Accounts before)
    (locked : Locked before) (soundAfter : Sound after)
    (move : Move before action after) : Accounts after := by
  cases move with
  | call thread operation at_point =>
      exact accounts.moveOutside at_point rfl rfl
  | refuse thread operation at_point null =>
      have moved : Accounts (before.setPoint thread .outside) :=
        accounts.moveOutside at_point rfl rfl
      exact { moved with }
  | pass thread operation at_point nonNull =>
      exact accounts.moveOutside at_point rfl rfl
  | lock thread operation at_point unheld =>
      have locksLive := soundAfter.locksLive
        (Move.lock thread operation at_point unheld)
      have moved : Accounts (before.setPoint thread operation.entry) := by
        apply accounts.setPoint at_point
        · intro closing
          cases operation with
          | closeConnection => exact locksLive .closeConnection at_point rfl
          | receivePartialData dataSize =>
              simp only [Operation.entry] at closing
              split at closing
              · cases closing
              · cases closing
          | _ => cases closing
        · cases operation with
          | receivePartialData dataSize =>
              simp only [Operation.entry]
              split
              · rfl
              · rfl
          | _ => rfl
        · intro last
          cases last
      exact { moved with }
  | write thread data result at_point =>
      exact (accounts.use (by simp) _).moveOutside at_point rfl rfl
  | read thread reading result point at_point next =>
      apply (accounts.use (by simp) _).moveOutside at_point rfl
      rcases Sound.reading_next next with more | ended
      · obtain ⟨_, rfl⟩ := more
        rfl
      · obtain ⟨_, _, rfl⟩ := ended
        rfl
  | copy thread at_point =>
      apply accounts.setPoint at_point
      · intro _
        apply accounts.closing_live thread
        rw [at_point]
        rfl
      · rfl
      · intro last
        cases last
  | shutdown thread pSSL at_point =>
      apply (accounts.use (by simp) _).setPoint at_point
      · intro _
        apply accounts.closing_live thread
        rw [at_point]
        rfl
      · rfl
      · intro last
        cases last
  | close thread pSSL at_point => exact accounts.close locked at_point
  | free thread pSSL at_point => exact accounts.free locked at_point
  | setNull thread at_point => exact accounts.setNull locked at_point
  | unlock thread value appended at_point =>
      have moved : Accounts (before.setPoint thread .outside) :=
        accounts.moveOutside at_point rfl rfl
      exact { moved with }

end Accounts

/-- As long as all calls are sound, the books are as stated. -/
theorem accounts_of_reachable (reachable : sharedStore.Reachable store) :
    Sound store → Accounts store := by
  refine TransitionSystem.Reachable.invariant ?_ ?_ reachable
  · intro state initially _
    cases initially
    constructor
    · intro thread closing
      cases closing
    · intro _ _
      rfl
    · intro _ _
      exact ⟨rfl, rfl⟩
    · exact Nat.zero_le 1
    · exact Nat.zero_le 1
  · intro before action after reached taken accounts soundAfter
    have locked := locked_of_reachable reached
    have move := move_of_step taken
    have sound := soundAfter.of_after locked move
    exact (accounts sound).step locked soundAfter move

theorem sound_start : Sound SharedStore.start where
  calls_live := by
    intro call member
    cases member
  next_live := by
    intro thread pointer next
    cases next

theorem Sound.safe (reachable : sharedStore.Reachable store)
    (sound : Sound store) : Safe store := by
  have accounts := accounts_of_reachable reachable sound
  constructor
  · exact sound.calls_live
  · exact accounts.freed_once
  · exact accounts.closed_once

/-- A run is sound at its end exactly when every thread that took the mutex
for a call that uses `m_SSL` found the object. -/
theorem sound_iff {actions : List Action} {last : SharedStore}
    (ran : sharedStore.run SharedStore.start actions = some last) :
    Sound last ↔ sharedStore.Along LocksLive SharedStore.start actions := by
  apply TransitionSystem.last_iff_along _ _ (.initial rfl) sound_start ran
  · intro before action after reached sound taken
    have locked := locked_of_reachable reached
    have accounts := accounts_of_reachable reached sound
    constructor
    · intro soundAfter
      exact soundAfter.locksLive (move_of_step taken)
    · intro live
      exact sound.step accounts locked (move_of_step taken) live
  · intro before action after reached unsound taken soundAfter
    exact unsound
      (soundAfter.of_after (locked_of_reachable reached)
        (move_of_step taken))

/-- If every call that takes the mutex and uses `m_SSL` finds the object still
there, all calls into OpenSSL are given a live object and the object and the
descriptor go once.  When no call is left inside the mutex, only then. -/
theorem safe_iff {actions : List Action} {last : SharedStore}
    (ran : sharedStore.run SharedStore.start actions = some last) :
    (sharedStore.Along LocksLive SharedStore.start actions → Safe last) ∧
      ((∀ thread, (last.point thread).critical = false) →
        (Safe last ↔
          sharedStore.Along LocksLive SharedStore.start actions)) := by
  have reachable := TransitionSystem.reachable_of_run (.initial rfl) ran
  have enough : sharedStore.Along LocksLive SharedStore.start actions →
      Safe last := by
    intro along
    exact ((sound_iff ran).mpr along).safe reachable
  constructor
  · exact enough
  · intro outside
    constructor
    · intro safe
      apply (sound_iff ran).mp
      constructor
      · exact safe.calls_live
      · intro thread pointer next
        have inside := critical_of_nextPointer next
        cases (outside thread).symm.trans inside
    · exact enough

/-- One thread sends and another one closes; a third one that comes later finds
`m_SSL` null. -/
theorem safe_iff_in_turn :
    ∃ (actions : List Action) (last : SharedStore),
      sharedStore.run SharedStore.start actions = some last ∧
        (last.closes = 1 ∧ last.sslCalls.length = 3 ∧ last.ssl = .null) ∧
        sharedStore.Along LocksLive SharedStore.start actions ∧
          Safe last := by
  have tested :
      (sharedStore.replay LocksLive SharedStore.start
        ([.call 0 (.sendData [1, 2]), .line 0, .line 0, .write 0 2,
          .line 0, .call 1 .closeConnection] ++
          List.replicate 8 (.line 1) ++
          [.call 2 .receiveData, .line 2])).any
        (fun store =>
          store.closes = 1 ∧ store.sslCalls.length = 3 ∧
            store.ssl = .null) = true := by
    decide
  obtain ⟨last, replayed, atEnd⟩ := Option.any_eq_true _ _ |>.mp tested
  obtain ⟨along, ran⟩ := TransitionSystem.along_of_replay replayed
  exact ⟨_, last, ran, of_decide_eq_true atEnd, along,
    (safe_iff ran).1 along⟩

/-- Two threads pass the test of `m_SSL` in `closeConnection` before either has
the mutex.  The second one shuts down and frees a null object and closes the
descriptor again. -/
theorem ssl_used_after_free :
    ∃ store, sharedStore.Reachable store ∧ store.closes = 2 ∧
      ¬Safe store := by
  obtain ⟨store, ran, twice⟩ :=
    TransitionSystem.exists_last_of_run
      (show (sharedStore.run SharedStore.start
          ([.call 0 .closeConnection, .line 0, .call 1 .closeConnection,
            .line 1] ++
            List.replicate 7 (.line 0) ++ List.replicate 7 (.line 1))).any
          (fun store => store.closes = 2) = true by decide)
  refine ⟨store, ?_, twice, ?_⟩
  · exact TransitionSystem.reachable_of_run (.initial rfl) ran
  · intro safe
    have once := safe.closed_once
    rw [twice] at once
    cases once with
    | step less => cases less

end SharedStore

end EventPlus

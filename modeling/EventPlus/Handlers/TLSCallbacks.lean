/-
Module: EventPlus.Handlers.TLSCallbacks
Purpose: A TLS connection over a whole run: records that arrive, data events
  whose callback calls `receiveData` once, and exactly when all that has arrived
  has been read.
Trusted boundary: OpenSSL, through the results of `SSL_read`
Main exports:
  TLSConnection, TLSEvent, tlsConnection, endsInside, receiveData_left,
  everything_read_iff
-/
import EventPlus.Handlers.TLSReceiveData
import EventPlus.Library.Batches
import EventPlus.Library.TransitionSystem

namespace EventPlus

/-! ## Records and callbacks -/

/-- The records that wait at one connection, and what its callbacks have
received so far. -/
structure TLSConnection where
  records : List Record
  received : List UInt8
deriving Repr, Inhabited, DecidableEq

/-- A record is complete, or a worker runs `dataEvent`, which calls
`receiveData`; with the error that call would end in. -/
inductive TLSEvent where
  | arrives (record : Record)
  | dataEvent (exhausted : SSLError)
deriving Repr, Inhabited, DecidableEq

/-- The connection fails no read. -/
def TLSEvent.harmless : TLSEvent → Bool
  | .arrives _ => true
  | .dataEvent exhausted => exhausted ≠ .other

def TLSEvent.arrival : TLSEvent → Option Record
  | .arrives record => some record
  | .dataEvent _ => none

/-- A record that arrives during a call is either seen by it, and might as well
have come before, or it is not, and might as well have come after. -/
def tlsConnection : TransitionSystem TLSConnection TLSEvent where
  initial := fun connection => connection = { records := [], received := [] }
  step := fun connection event =>
    match event with
    | .arrives record =>
        some { connection with records := connection.records ++ [record] }
    | .dataEvent exhausted =>
        (TLSServerSocketHandler.receiveData .object
            { records := connection.records, exhausted := exhausted }).map
          fun result =>
            { records := result.left
              received := connection.received ++ result.appended }

/-! ## One call -/

/-- A record that does not end where a buffer ends. -/
def endsInside (record : Record) : Bool :=
  ¬bufferSize ∣ record.length

/-- Records with bytes left. -/
def unread (records : List Record) : List Record :=
  records.filter (· ≠ [])

theorem unread_eq_nil_iff {records : List Record} :
    unread records = [] ↔ records.flatten = [] := by
  simp [unread]

/-- With nothing to read, nothing is left either way. -/
theorem unread_of_empty {records : List Record}
    (empty : ∀ record ∈ records, record = []) :
    unread records = unread (Batches.afterFirst endsInside records) := by
  have nothing : unread records = [] := by
    rw [unread_eq_nil_iff, List.flatten_eq_nil_iff]
    exact empty
  rw [nothing, Batches.afterFirst_eq_nil]
  · rfl
  · rw [List.countP_eq_zero]
    intro record member
    rw [empty record member]
    decide

/-- What a call is going to leave, before and after one of its reads. -/
theorem unread_readRecord {records rest : List Record} {bytes : List UInt8}
    (read : readRecord bufferSize records = some (bytes, rest)) :
    unread (Batches.afterFirst endsInside records) =
      if bytes.length < bufferSize then unread rest
      else unread (Batches.afterFirst endsInside rest) := by
  induction reads_of_readRecord read with
  | later _ inductionHypothesis => exact inductionHypothesis read
  | here byte tail others =>
      have first := bufferSize_dvd_drop (List.cons_ne_nil byte tail)
      by_cases short : ((byte :: tail).take bufferSize).length < bufferSize
      · have inside : endsInside (byte :: tail) = true :=
          decide_eq_true fun aligned => (first.mp aligned).1 short
        have whole : (byte :: tail).drop bufferSize = [] := by
          rw [List.length_take] at short
          exact List.drop_eq_nil_of_le (by omega)
        rw [if_pos short, Batches.afterFirst, if_pos inside, whole]
        rfl
      · have same : endsInside (byte :: tail) =
            endsInside ((byte :: tail).drop bufferSize) :=
          decide_eq_decide.mpr
            (not_congr (first.trans (and_iff_right short)))
        rw [if_neg short, Batches.afterFirst, Batches.afterFirst, same]

namespace TLSServerSocketHandler

/-- A call leaves the records behind the first that ends inside a buffer. -/
theorem receiveLoop_left {exhausted : SSLError} (harmless : exhausted ≠ .other)
    {records : List Record} {receivedData : List UInt8}
    {totalBytesRead : Nat} {result : Received}
    (returned :
      receiveLoop exhausted records receivedData totalBytesRead =
        some result) :
    0 ≤ result.value ∧
      unread result.left =
        unread (Batches.afterFirst endsInside records) := by
  fun_induction receiveLoop exhausted records receivedData totalBytesRead with
  | case1 => cases returned
  | case2 records receivedData totalBytesRead bytes rest read fits short =>
      cases returned
      rw [unread_readRecord read, if_pos short]
      exact ⟨Int.natCast_nonneg _, rfl⟩
  | case3 records receivedData totalBytesRead bytes rest read fits full
      inductionHypothesis =>
      rw [unread_readRecord read, if_neg full]
      exact inductionHypothesis returned
  | case7 => contradiction
  | case4 records receivedData totalBytesRead empty =>
      cases returned
      exact ⟨Int.natCast_nonneg _, unread_of_empty (readRecord_eq_none empty)⟩
  | case5 records receivedData totalBytesRead empty =>
      cases returned
      exact ⟨Int.natCast_nonneg _, unread_of_empty (readRecord_eq_none empty)⟩
  | case6 records receivedData totalBytesRead empty =>
      cases returned
      exact ⟨Int.natCast_nonneg _, unread_of_empty (readRecord_eq_none empty)⟩

end TLSServerSocketHandler

/-! ## A run -/

/-- All that has arrived, in order. -/
def arrived (events : List TLSEvent) : List Record :=
  events.filterMap TLSEvent.arrival

/-- The arrivals that end a call. -/
def shortArrivals (events : List TLSEvent) : Nat :=
  Batches.closings TLSEvent.arrival endsInside events

def callbacks (events : List TLSEvent) : Nat :=
  Batches.services TLSEvent.arrival events

theorem unread_append (first second : List Record) :
    unread (first ++ second) = unread first ++ unread second :=
  List.filter_append first second

/-- The records that are unread decide what a call leaves. -/
theorem unread_afterFirst (records : List Record) :
    unread (Batches.afterFirst endsInside records) =
      Batches.afterFirst endsInside (unread records) := by
  apply Batches.filter_afterFirst
  intro record inside
  rw [decide_eq_true_eq]
  rintro rfl
  revert inside
  decide

/-- One event. -/
theorem step_tlsConnection {before after : TLSConnection} {event : TLSEvent}
    (harmless : event.harmless = true)
    (taken : tlsConnection.step before event = some after) :
    after.received ++ after.records.flatten =
        before.received ++ before.records.flatten ++
          (arrived [event]).flatten ∧
      ∀ waiting, unread before.records = unread waiting →
        unread after.records =
          unread (Batches.step TLSEvent.arrival endsInside waiting event) := by
  cases event with
  | arrives record =>
      cases taken
      constructor
      · rw [List.flatten_append, List.append_assoc]
        rfl
      · intro waiting same
        change unread (_ ++ _) = unread (_ ++ _)
        rw [unread_append, unread_append, same]
  | dataEvent exhausted =>
      obtain ⟨result, returned, rfl⟩ := Option.map_eq_some_iff.mp taken
      obtain ⟨succeeded, left⟩ := TLSServerSocketHandler.receiveLoop_left
        (of_decide_eq_true harmless) returned
      constructor
      · have kept :=
          (TLSServerSocketHandler.receiveData_preserves returned succeeded).2
        change _ ++ _ ++ _ = _ ++ _ ++ []
        rw [List.append_nil, List.append_assoc, kept]
      · intro waiting same
        change unread result.left =
          unread (Batches.afterFirst endsInside waiting)
        rw [left, unread_afterFirst, same, ← unread_afterFirst]

/-- Nothing is lost or reordered, and the records that wait are those of the
queue. -/
theorem run_tlsConnection {first last : TLSConnection}
    {events : List TLSEvent}
    (harmless : ∀ event ∈ events, event.harmless = true)
    (ran : tlsConnection.run first events = some last)
    {waiting : List Record} (same : unread first.records = unread waiting) :
    last.received ++ last.records.flatten =
        first.received ++ first.records.flatten ++ (arrived events).flatten ∧
      unread last.records =
        unread (events.foldl (Batches.step TLSEvent.arrival endsInside)
          waiting) := by
  induction events generalizing first waiting with
  | nil =>
      cases ran
      exact ⟨(List.append_nil _).symm, same⟩
  | cons event rest inductionHypothesis =>
      obtain ⟨here, later⟩ := List.forall_mem_cons.mp harmless
      obtain ⟨next, taken, remaining⟩ := TransitionSystem.run_cons ran
      obtain ⟨kept, left⟩ := step_tlsConnection here taken
      obtain ⟨keeps, leaves⟩ :=
        inductionHypothesis later remaining (left waiting same)
      refine ⟨?_, leaves⟩
      rw [keeps, kept, List.append_assoc, ← List.flatten_append]
      congr 2
      exact (List.filterMap_append (l := [event])).symm

/-- What the callbacks of a TLS connection have received and what waits for the
next one are together all that has arrived, in order.  And everything has been
read exactly when, for each record with bytes, no recent part of the run up to
its arrival has brought as many records that end inside a buffer as callbacks
have run since that part began. -/
theorem everything_read_iff {events : List TLSEvent} {last : TLSConnection}
    (harmless : ∀ event ∈ events, event.harmless = true)
    (ran : tlsConnection.run { records := [], received := [] } events =
      some last) :
    last.received ++ last.records.flatten = (arrived events).flatten ∧
      (last.records.flatten = [] ↔
        ∀ past record later, events = past ++ .arrives record :: later →
          record ≠ [] → ∀ recent, recent <:+ past →
            shortArrivals recent < callbacks recent + callbacks later) := by
  obtain ⟨kept, left⟩ := run_tlsConnection harmless ran rfl
  refine ⟨kept, ?_⟩
  have served := Batches.served_iff TLSEvent.arrival endsInside events 0
    (· = [])
  rw [← unread_eq_nil_iff, left, unread_eq_nil_iff, List.flatten_eq_nil_iff]
  refine served.trans ?_
  constructor
  · intro all past record later split some_bytes recent suffix
    exact all past (.arrives record) later split record rfl some_bytes recent
      suffix
  · intro all past event later split record arrives some_bytes recent suffix
    cases event with
    | arrives record =>
        cases arrives
        exact all past record later split some_bytes recent suffix
    | dataEvent exhausted => cases arrives

/-- Two short records have arrived before the only callback; the counts tell
that it has left something. -/
theorem everything_read_iff_coalesced :
    ∃ last,
      tlsConnection.run { records := [], received := [] }
          [.arrives [1, 2], .arrives [3], .dataEvent .WANT_READ] =
        some last ∧ last.records.flatten ≠ [] := by
  have returned : TLSServerSocketHandler.receiveData .object
      { records := [[1, 2], [3]], exhausted := .WANT_READ } =
        some
          { value := 2
            appended := [1, 2]
            lastRead := some (.bytes [1, 2])
            left := [[], [3]] } := by
    simp [TLSServerSocketHandler.receiveData,
      TLSServerSocketHandler.receiveLoop, readRecord,
      TLSServerSocketHandler.finishReceive, bufferSize, intMax]
  have ran : tlsConnection.run { records := [], received := [] }
      [.arrives [1, 2], .arrives [3], .dataEvent .WANT_READ] =
        some { records := [[], [3]], received := [1, 2] } := by
    change (Option.map _ (TLSServerSocketHandler.receiveData .object
      { records := [[1, 2], [3]], exhausted := .WANT_READ })).bind _ = _
    rw [returned]
    rfl
  refine ⟨_, ran, ?_⟩
  intro all
  have fewer := (everything_read_iff (by decide) ran).2.mp all
    [.arrives [1, 2]] [3] [.dataEvent .WANT_READ] rfl (by decide)
    [.arrives [1, 2]] (List.suffix_refl _)
  revert fewer
  decide

end EventPlus

/-
Module: EventPlus.Handlers.TLSReceiveData
Purpose: The TLS handler's `receiveData` over the record layer: its loop, what
  it appends and what it leaves behind, and the record lengths for which it
  reads until the layer has nothing more to give.
Trusted boundary: OpenSSL, through the results of `SSL_read`
Main exports:
  Record, SSLError, TLSLayer, readRecord, Received, receiveLoop,
  TLSServerSocketHandler.receiveData, receiveData_isSome,
  receiveData_preserves, receiveData_drains_iff, receiveData_leaves_iff
-/
import EventPlus.Common.EventStore

namespace EventPlus

/-!
`SSL_read` hands out the bytes of one record per call, as many as fit into the
buffer; what is left of the record comes with the next call.  A record without
bytes is passed over.  Once no complete record is left, the call fails, and
`SSL_get_error` says why.

The records of a layer are the complete ones a call of `receiveData` finds, in
order: those that had arrived when it started, and those that arrive before it
has read all of them.
-/

/-- The bytes of one record that have not been read. -/
abbrev Record := List UInt8

/-- The results of `SSL_get_error` that the handler tells apart. -/
inductive SSLError where
  | WANT_READ
  | WANT_WRITE
  | ZERO_RETURN
  | other
deriving Repr, Inhabited, DecidableEq

inductive SSLReadResult where
  | bytes (data : List UInt8)
  | failed (error : SSLError)
deriving Repr, Inhabited, DecidableEq

/-- The TLS side of one connection: the records waiting, and the error a read
ends in when there are none. -/
structure TLSLayer where
  records : List Record
  exhausted : SSLError
deriving Repr, Inhabited, DecidableEq

/-- The bytes `SSL_read` delivers into a buffer of `size` bytes, and the records
it leaves; `none` where no bytes are left. -/
def readRecord (size : Nat) :
    List Record → Option (List UInt8 × List Record)
  | [] => none
  | [] :: rest => readRecord size rest
  | (byte :: bytes) :: rest =>
      some ((byte :: bytes).take size, (byte :: bytes).drop size :: rest)

theorem readRecord_eq_none {size : Nat} {records : List Record}
    (empty : readRecord size records = none) :
    ∀ record ∈ records, record = [] := by
  induction records with
  | nil => simp
  | cons record rest inductionHypothesis =>
      cases record with
      | nil => simpa using inductionHypothesis empty
      | cons byte bytes => cases empty

/-- A read passes over the records that have no bytes left and takes from the
next one. -/
inductive Reads (size : Nat) :
    List Record → List UInt8 → List Record → Prop where
  | later {others rest : List Record} {bytes : List UInt8}
      (reads : Reads size others bytes rest) :
      Reads size ([] :: others) bytes rest
  | here (byte : UInt8) (tail : List UInt8) (others : List Record) :
      Reads size ((byte :: tail) :: others) ((byte :: tail).take size)
        ((byte :: tail).drop size :: others)

theorem reads_of_readRecord {size : Nat} {records rest : List Record}
    {bytes : List UInt8}
    (read : readRecord size records = some (bytes, rest)) :
    Reads size records bytes rest := by
  induction records with
  | nil => cases read
  | cons record others inductionHypothesis =>
      cases record with
      | nil => exact .later (inductionHypothesis read)
      | cons byte tail =>
          cases read
          exact .here byte tail others

/-- A read takes bytes from the front, at most as many as fit. -/
theorem readRecord_eq_some {size : Nat} {records rest : List Record}
    {bytes : List UInt8}
    (read : readRecord size records = some (bytes, rest)) :
    records.flatten = bytes ++ rest.flatten ∧ bytes.length ≤ size := by
  induction reads_of_readRecord read with
  | later _ inductionHypothesis => exact inductionHypothesis read
  | here byte tail others =>
      constructor
      · rw [List.flatten_cons, List.flatten_cons, ← List.append_assoc,
          List.take_append_drop]
      · exact List.length_take_le _ _

theorem readRecord_ne_nil {size : Nat} {records rest : List Record}
    {bytes : List UInt8} (room : 0 < size)
    (read : readRecord size records = some (bytes, rest)) : bytes ≠ [] := by
  induction reads_of_readRecord read with
  | later _ inductionHypothesis => exact inductionHypothesis read
  | here byte tail others =>
      cases size with
      | zero => cases room
      | succ size => simp

/-- Every read leaves fewer bytes. -/
theorem readRecord_lt {size : Nat} {records rest : List Record}
    {bytes : List UInt8} (room : 0 < size)
    (read : readRecord size records = some (bytes, rest)) :
    rest.flatten.length < records.flatten.length := by
  have front := (readRecord_eq_some read).1
  have some_bytes : 0 < bytes.length :=
    List.length_pos_iff.mpr (readRecord_ne_nil room read)
  rw [front, List.length_append]
  omega

/-! ## The loop of `receiveData` -/

/-- `bufferSize`. -/
def bufferSize : Nat := 1000

/-- The largest value of `int totalBytesRead`. -/
def intMax : Nat := 2147483647

/-- What a call returns, the bytes it appends to `data`, the result of its last
`SSL_read`, and the records it leaves. -/
structure Received where
  value : Int
  appended : List UInt8
  lastRead : Option SSLReadResult
  left : List Record
deriving Repr, Inhabited, DecidableEq

namespace TLSServerSocketHandler

/-- The lines after the loop. -/
def finishReceive (receivedData : List UInt8) (totalBytesRead : Nat)
    (lastRead : SSLReadResult) (left : List Record) : Received where
  value := totalBytesRead
  appended := if totalBytesRead > 0 then receivedData else []
  lastRead := some lastRead
  left := left

/-- The `while (true)` loop.  Signed overflow of `totalBytesRead` has no defined
result, hence `none`. -/
def receiveLoop (exhausted : SSLError) (records : List Record)
    (receivedData : List UInt8) (totalBytesRead : Nat) : Option Received :=
  match _read : readRecord bufferSize records with
  | some (bytes, rest) =>
      if intMax < totalBytesRead + bytes.length then none
      else if bytes.length < bufferSize then
        some
          (finishReceive (receivedData ++ bytes)
            (totalBytesRead + bytes.length) (.bytes bytes) rest)
      else
        receiveLoop exhausted rest (receivedData ++ bytes)
          (totalBytesRead + bytes.length)
  | none =>
      match exhausted with
      | .WANT_READ | .WANT_WRITE | .ZERO_RETURN =>
          some
            (finishReceive receivedData totalBytesRead (.failed exhausted)
              records)
      | .other =>
          -- the bytes received so far are dropped
          some
            { value := -1
              appended := []
              lastRead := some (.failed exhausted)
              left := records }
termination_by records.flatten.length
decreasing_by exact readRecord_lt (by decide) _read

/-- `TLSServerSocketHandler::receiveData`. -/
def receiveData (ssl : SSLPointer) (layer : TLSLayer) : Option Received :=
  if ssl = .null then
    some
      { value := -1
        appended := []
        lastRead := none
        left := layer.records }
  else receiveLoop layer.exhausted layer.records [] 0

/-! ### What every call does -/

theorem receiveLoop_isSome (exhausted : SSLError) (records : List Record)
    (receivedData : List UInt8) (totalBytesRead : Nat)
    (small : totalBytesRead + records.flatten.length ≤ intMax) :
    (receiveLoop exhausted records receivedData totalBytesRead).isSome =
      true := by
  fun_induction receiveLoop exhausted records receivedData totalBytesRead with
  | case1 records receivedData totalBytesRead bytes rest read overflow =>
      rw [(readRecord_eq_some read).1, List.length_append] at small
      omega
  | case2 => rfl
  | case3 records receivedData totalBytesRead bytes rest read fits full
      inductionHypothesis =>
      apply inductionHypothesis
      rw [(readRecord_eq_some read).1, List.length_append] at small
      omega
  | case4 => rfl
  | case5 => rfl
  | case6 => rfl
  | case7 => rfl

/-- A call returns, as long as it has fewer than 2^31 bytes to read. -/
theorem receiveData_isSome (ssl : SSLPointer) (layer : TLSLayer)
    (small : layer.records.flatten.length ≤ intMax) :
    (receiveData ssl layer).isSome = true := by
  unfold receiveData
  split
  · rfl
  · apply receiveLoop_isSome
    omega

/-- Appending nothing is the same as appending the empty vector. -/
theorem finishReceive_appended (receivedData : List UInt8)
    (lastRead : SSLReadResult) (left : List Record) :
    (finishReceive receivedData receivedData.length lastRead left).appended =
      receivedData := by
  cases receivedData with
  | nil => rfl
  | cons byte bytes => rfl

theorem receiveLoop_preserves {exhausted : SSLError}
    {records : List Record} {receivedData : List UInt8}
    {totalBytesRead : Nat} {result : Received}
    (counted : totalBytesRead = receivedData.length)
    (returned :
      receiveLoop exhausted records receivedData totalBytesRead =
        some result) (succeeded : 0 ≤ result.value) :
    result.value = result.appended.length ∧
      result.appended ++ result.left.flatten =
        receivedData ++ records.flatten := by
  fun_induction receiveLoop exhausted records receivedData totalBytesRead with
  | case1 => cases returned
  | case2 records receivedData totalBytesRead bytes rest read fits short =>
      subst counted
      cases returned
      have counted : receivedData.length + bytes.length =
          (receivedData ++ bytes).length := by simp
      rw [counted, finishReceive_appended]
      refine ⟨rfl, ?_⟩
      rw [(readRecord_eq_some read).1, List.append_assoc]
      rfl
  | case3 records receivedData totalBytesRead bytes rest read fits full
      inductionHypothesis =>
      have more : totalBytesRead + bytes.length =
          (receivedData ++ bytes).length := by simp [counted]
      obtain ⟨value, kept⟩ := inductionHypothesis more returned
      refine ⟨value, ?_⟩
      rw [kept, (readRecord_eq_some read).1, List.append_assoc]
  | case7 =>
      cases returned
      cases succeeded
  | _ =>
      subst counted
      cases returned
      rw [finishReceive_appended]
      exact ⟨rfl, rfl⟩

/-- A call that does not fail appends the bytes it counts, and these and the
bytes left are those that were there. -/
theorem receiveData_preserves {ssl : SSLPointer} {layer : TLSLayer}
    {result : Received} (returned : receiveData ssl layer = some result)
    (succeeded : 0 ≤ result.value) :
    result.value = result.appended.length ∧
      result.appended ++ result.left.flatten = layer.records.flatten := by
  unfold receiveData at returned
  split at returned
  · cases returned
    cases succeeded
  · exact receiveLoop_preserves rfl returned succeeded

end TLSServerSocketHandler

/-! ## Reading until nothing is left

The loop takes a read that does not fill its buffer for the end of the data.
`SSL_read` stops at the end of a record, so that is where the loop stops, unless
the record's length is a multiple of the buffer size.
-/

/-- The call has left the layer with nothing to give, and has been told so by
its last read. -/
def Received.Drains (result : Received) : Prop :=
  0 ≤ result.value →
    (∃ error, result.lastRead = some (.failed error) ∧ error ≠ .other) ∧
      ∀ record ∈ result.left, record = []

/-- The call has left no byte unread. -/
def Received.LeavesNothing (result : Received) : Prop :=
  0 ≤ result.value → ∀ record ∈ result.left, record = []

/-- Every record ends where a buffer ends. -/
def Aligned (records : List Record) : Prop :=
  ∀ record ∈ records, bufferSize ∣ record.length

/-- Nothing follows a record that ends inside a buffer. -/
def AlignedButLast : List Record → Prop
  | [] => True
  | record :: rest =>
      (bufferSize ∣ record.length ∨ ∀ later ∈ rest, later = []) ∧
        AlignedButLast rest

theorem aligned_of_empty {records : List Record}
    (empty : ∀ record ∈ records, record = []) : Aligned records := by
  intro record member
  rw [empty record member]
  exact Nat.dvd_zero _

theorem alignedButLast_of_empty {records : List Record}
    (empty : ∀ record ∈ records, record = []) : AlignedButLast records := by
  induction records with
  | nil => trivial
  | cons record rest inductionHypothesis =>
      have later : ∀ later ∈ rest, later = [] := fun later member =>
        empty later (List.mem_cons_of_mem _ member)
      exact ⟨.inr later, inductionHypothesis later⟩

/-- A buffer's worth of bytes more or less does not change the alignment. -/
theorem bufferSize_dvd_drop {record : Record} (some_bytes : record ≠ []) :
    bufferSize ∣ record.length ↔
      ¬ (record.take bufferSize).length < bufferSize ∧
        bufferSize ∣ (record.drop bufferSize).length := by
  have nonempty := List.length_pos_iff.mpr some_bytes
  rw [List.length_take, List.length_drop]
  unfold bufferSize
  omega

/-- Alignment, read by read. -/
theorem aligned_readRecord {records rest : List Record} {bytes : List UInt8}
    (read : readRecord bufferSize records = some (bytes, rest)) :
    Aligned records ↔ ¬ bytes.length < bufferSize ∧ Aligned rest := by
  induction reads_of_readRecord read with
  | later _ inductionHypothesis =>
      simpa [Aligned] using inductionHypothesis read
  | here byte tail others =>
      have first := bufferSize_dvd_drop (List.cons_ne_nil byte tail)
      simp only [Aligned, List.forall_mem_cons, first, and_assoc]

theorem alignedButLast_readRecord {records rest : List Record}
    {bytes : List UInt8}
    (read : readRecord bufferSize records = some (bytes, rest)) :
    AlignedButLast records ↔
      (bytes.length < bufferSize → ∀ record ∈ rest, record = []) ∧
        AlignedButLast rest := by
  induction reads_of_readRecord read with
  | later _ inductionHypothesis =>
      simpa [AlignedButLast] using inductionHypothesis read
  | here byte tail others =>
      have first := bufferSize_dvd_drop (List.cons_ne_nil byte tail)
      have whole : ((byte :: tail).take bufferSize).length < bufferSize →
          (byte :: tail).drop bufferSize = [] := by
        intro short
        rw [List.length_take] at short
        exact List.drop_eq_nil_of_le (by omega)
      simp only [AlignedButLast, List.forall_mem_cons]
      constructor
      · rintro ⟨aligned | empty, later⟩
        · refine ⟨fun short => ?_, .inl (first.mp aligned).2, later⟩
          exact absurd short (first.mp aligned).1
        · exact ⟨fun short => ⟨whole short, empty⟩, .inr empty, later⟩
      · rintro ⟨stops, aligned | empty, later⟩
        · by_cases short :
              ((byte :: tail).take bufferSize).length < bufferSize
          · exact ⟨.inr (stops short).2, later⟩
          · exact ⟨.inl (first.mpr ⟨short, aligned⟩), later⟩
        · exact ⟨.inr empty, later⟩

namespace TLSServerSocketHandler

theorem receiveLoop_drains_iff {exhausted : SSLError}
    {records : List Record} {receivedData : List UInt8}
    {totalBytesRead : Nat} {result : Received}
    (returned :
      receiveLoop exhausted records receivedData totalBytesRead =
        some result) : result.Drains ↔ Aligned records := by
  fun_induction receiveLoop exhausted records receivedData totalBytesRead with
  | case1 => cases returned
  | case2 records receivedData totalBytesRead bytes rest read fits short =>
      cases returned
      rw [aligned_readRecord read]
      refine iff_of_false ?_ (fun aligned => aligned.1 short)
      intro drains
      obtain ⟨⟨error, last, -⟩, -⟩ := drains (Int.natCast_nonneg _)
      cases last
  | case3 records receivedData totalBytesRead bytes rest read fits full
      inductionHypothesis =>
      rw [inductionHypothesis returned, aligned_readRecord read]
      simp [full]
  | case7 records receivedData totalBytesRead empty =>
      cases returned
      refine iff_of_true ?_ (aligned_of_empty (readRecord_eq_none empty))
      intro failed
      cases failed
  | case4 records receivedData totalBytesRead empty =>
      cases returned
      refine iff_of_true ?_ (aligned_of_empty (readRecord_eq_none empty))
      intro _
      exact ⟨⟨_, rfl, by simp⟩, readRecord_eq_none empty⟩
  | case5 records receivedData totalBytesRead empty =>
      cases returned
      refine iff_of_true ?_ (aligned_of_empty (readRecord_eq_none empty))
      intro _
      exact ⟨⟨_, rfl, by simp⟩, readRecord_eq_none empty⟩
  | case6 records receivedData totalBytesRead empty =>
      cases returned
      refine iff_of_true ?_ (aligned_of_empty (readRecord_eq_none empty))
      intro _
      exact ⟨⟨_, rfl, by simp⟩, readRecord_eq_none empty⟩

theorem receiveLoop_leaves_iff {exhausted : SSLError}
    {records : List Record} {receivedData : List UInt8}
    {totalBytesRead : Nat} {result : Received}
    (returned :
      receiveLoop exhausted records receivedData totalBytesRead =
        some result) :
    result.LeavesNothing ↔ AlignedButLast records := by
  fun_induction receiveLoop exhausted records receivedData totalBytesRead with
  | case1 => cases returned
  | case2 records receivedData totalBytesRead bytes rest read fits short =>
      cases returned
      rw [alignedButLast_readRecord read]
      constructor
      · intro leaves
        have empty := leaves (Int.natCast_nonneg _)
        exact ⟨fun _ => empty, alignedButLast_of_empty empty⟩
      · intro stops _
        exact stops.1 short
  | case3 records receivedData totalBytesRead bytes rest read fits full
      inductionHypothesis =>
      rw [inductionHypothesis returned, alignedButLast_readRecord read]
      simp [full]
  | case7 records receivedData totalBytesRead empty =>
      cases returned
      refine iff_of_true ?_ ?_
      · intro failed
        cases failed
      · exact alignedButLast_of_empty (readRecord_eq_none empty)
  | case4 records receivedData totalBytesRead empty =>
      cases returned
      refine iff_of_true (fun _ => ?_) ?_
      · exact readRecord_eq_none empty
      · exact alignedButLast_of_empty (readRecord_eq_none empty)
  | case5 records receivedData totalBytesRead empty =>
      cases returned
      refine iff_of_true (fun _ => ?_) ?_
      · exact readRecord_eq_none empty
      · exact alignedButLast_of_empty (readRecord_eq_none empty)
  | case6 records receivedData totalBytesRead empty =>
      cases returned
      refine iff_of_true (fun _ => ?_) ?_
      · exact readRecord_eq_none empty
      · exact alignedButLast_of_empty (readRecord_eq_none empty)

/-- A call reads until the layer reports that nothing is left exactly when
every record ends where a buffer ends. -/
theorem receiveData_drains_iff {ssl : SSLPointer} {layer : TLSLayer}
    {result : Received} (returned : receiveData ssl layer = some result) :
    result.Drains ↔ ssl = .null ∨ Aligned layer.records := by
  unfold receiveData at returned
  split at returned
  · rename_i null
    cases returned
    refine iff_of_true ?_ (.inl null)
    intro failed
    cases failed
  · rename_i nonNull
    rw [receiveLoop_drains_iff returned]
    simp [nonNull]

/-- A record of a thousand bytes is read to the end. -/
theorem receiveData_drains_iff_full :
    ∃ result,
      receiveData .object
          { records := [List.replicate 1000 0], exhausted := .WANT_READ } =
        some result ∧ result.Drains := by
  have returns := receiveData_isSome .object
    { records := [List.replicate 1000 0], exhausted := .WANT_READ }
    (by
      rw [List.flatten_singleton, List.length_replicate]
      decide)
  obtain ⟨result, returned⟩ := Option.isSome_iff_exists.mp returns
  refine ⟨result, returned, (receiveData_drains_iff returned).mpr (.inr ?_)⟩
  intro record member
  rw [List.mem_singleton.mp member, List.length_replicate]
  exact Nat.dvd_refl _

/-- Two records of three and two bytes have arrived; the call returns with the
second one unread. -/
theorem receiveData_leaves_record :
    ¬ ∀ ssl layer result, receiveData ssl layer = some result →
      result.Drains := by
  intro always
  have returned : receiveData .object
      { records := [[1, 2, 3], [4, 5]], exhausted := .WANT_READ } =
        some
          { value := 3
            appended := [1, 2, 3]
            lastRead := some (.bytes [1, 2, 3])
            left := [[], [4, 5]] } := by
    simp [receiveData, receiveLoop, readRecord, finishReceive, bufferSize,
      intMax]
  have drained := (always _ _ _ returned (by decide)).2 [4, 5] (by simp)
  cases drained

/-- A call that does not fail leaves no byte unread exactly when nothing follows
the first record that ends inside a buffer. -/
theorem receiveData_leaves_iff {ssl : SSLPointer} {layer : TLSLayer}
    {result : Received} (live : ssl ≠ .null)
    (returned : receiveData ssl layer = some result) :
    result.LeavesNothing ↔ AlignedButLast layer.records := by
  unfold receiveData at returned
  rw [if_neg live] at returned
  exact receiveLoop_leaves_iff returned

end TLSServerSocketHandler

end EventPlus

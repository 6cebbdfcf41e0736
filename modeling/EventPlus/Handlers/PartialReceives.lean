/-
Module: EventPlus.Handlers.PartialReceives
Purpose: `receivePartialData` of both handlers on one stream, however it is cut
  into segments or records.
Trusted boundary: OpenSSL, through the results of `SSL_read`
Main exports:
  Reading.drain, Point.finish, receiveLoop_eq_drain, Delivers, EndsAligned,
  Agrees, receivePartialData_agree_iff
-/
import EventPlus.Handlers.ReceiveRuns
import EventPlus.Handlers.ReceiveSizes

namespace EventPlus

open SharedStore (Point Operation Reading)

/-! ## A receive call on the record layer -/

/-- A read that is followed by another one had room for bytes. -/
theorem bufferSize_pos_of_next {reading later : Reading} {bytes : List UInt8}
    (next : reading.next (.bytes bytes) = some (.read later)) :
    0 < reading.bufferSize := by
  apply Nat.pos_of_ne_zero
  intro none_left
  simp only [Reading.next] at next
  split at next
  · cases next
  · split at next
    · cases next
    · rename_i goes_on
      apply goes_on
      right
      unfold Reading.bufferSize at none_left
      split at none_left
      · cases none_left
      · rename_i remaining sized
        simp only [sized, Option.map_some, Option.any_some, decide_eq_true_eq]
        omega

/-- The loop from a read on: what `SSL_read` returns is taken off the records
that are there. -/
def SharedStore.Reading.drain (exhausted : SSLError) (records : List Record)
    (reading : Reading) : Option Point :=
  match _read : readRecord reading.bufferSize records with
  | some (bytes, rest) =>
      match _next : reading.next (.bytes bytes) with
      | some (.read later) => later.drain exhausted rest
      | ended => ended
  | none => reading.next (.failed exhausted)
termination_by records.flatten.length
decreasing_by exact readRecord_lt (bufferSize_pos_of_next _next) _read

/-- A call up to the point where it gives the lock back. -/
def SharedStore.Point.finish (layer : TLSLayer) : Point → Option Point
  | .read reading => reading.drain layer.exhausted layer.records
  | point => some point

section Drain

variable {exhausted : SSLError} {records rest : List Record}
  {reading later : Reading} {bytes : List UInt8} {last : Point}

theorem drain_none (reading : Reading)
    (read : readRecord reading.bufferSize records = none) :
    reading.drain exhausted records = reading.next (.failed exhausted) := by
  rw [Reading.drain]
  split
  · rename_i found
    cases read.symm.trans found
  · rfl

theorem drain_read (reading : Reading)
    (read : readRecord reading.bufferSize records = some (bytes, rest))
    (next : reading.next (.bytes bytes) = some (.read later)) :
    reading.drain exhausted records = later.drain exhausted rest := by
  rw [Reading.drain]
  split
  · rename_i found
    cases read.symm.trans found
    split
    · rename_i goes_on
      cases next.symm.trans goes_on
      rfl
    · rename_i stops
      exact absurd next (stops later)
  · rename_i found
    cases read.symm.trans found

theorem drain_ended (reading : Reading) {ended : Option Point}
    (read : readRecord reading.bufferSize records = some (bytes, rest))
    (next : reading.next (.bytes bytes) = ended)
    (ends : ∀ later, ended ≠ some (.read later)) :
    reading.drain exhausted records = ended := by
  subst next
  rw [Reading.drain]
  split
  · rename_i found
    cases read.symm.trans found
    split
    · rename_i goes_on
      exact absurd goes_on (ends _)
    · rfl
  · rename_i found
    cases read.symm.trans found

/-- The next read has room again. -/
theorem bufferSize_pos_of_next_later
    (next : reading.next (.bytes bytes) = some (.read later)) :
    0 < later.bufferSize := by
  simp only [Reading.next] at next
  split at next
  · cases next
  · split at next
    · cases next
    · rename_i goes_on
      cases next
      cases sized : reading.remainingSize with
      | none => exact Nat.succ_pos 999
      | some remaining =>
          have more : ¬ remaining - (bytes.length : Int) ≤ 0 := by
            intro none_left
            apply goes_on
            simp [sized, none_left]
          simp only [Reading.bufferSize, Option.map_some]
          omega

theorem admits_of_readRecord (room : 0 < reading.bufferSize)
    (read : readRecord reading.bufferSize records = some (bytes, rest)) :
    reading.admits (.bytes bytes) = true :=
  decide_eq_true ⟨readRecord_ne_nil room read, (readRecord_eq_some read).2⟩

/-- What the loop does on the records is a run of the call. -/
theorem run_of_drain (room : 0 < reading.bufferSize)
    (drained : reading.drain exhausted records = some last) :
    ∃ results, tlsCall.run (.read reading) results = some last := by
  fun_induction Reading.drain exhausted records reading with
  | case1 records reading bytes rest read later next inductionHypothesis =>
      obtain ⟨results, ran⟩ :=
        inductionHypothesis (bufferSize_pos_of_next_later next) drained
      refine ⟨.bytes bytes :: results, ?_⟩
      simp only [TransitionSystem.run, tlsCall,
        admits_of_readRecord room read, if_true, next]
      exact ran
  | case2 records reading bytes rest read ends =>
      refine ⟨[.bytes bytes], ?_⟩
      simp only [TransitionSystem.run, tlsCall,
        admits_of_readRecord room read, if_true, drained]
      rfl
  | case3 records reading empty =>
      refine ⟨[.failed exhausted], ?_⟩
      simp only [TransitionSystem.run, tlsCall, Reading.admits, if_true,
        drained]
      rfl

open TLSServerSocketHandler in
/-- `receiveData` counts in a variable of its own; the count is the length of
what has been received. -/
theorem receiveLoop_eq_drain {receivedData : List UInt8}
    {totalBytesRead : Nat} (counted : totalBytesRead = receivedData.length) :
    (receiveLoop exhausted records receivedData totalBytesRead).map
        (fun result => Point.unlock (some result.value) result.appended) =
      Reading.drain exhausted records
        { remainingSize := none, receivedData := receivedData } := by
  fun_induction receiveLoop exhausted records receivedData totalBytesRead with
  | case1 records receivedData totalBytesRead bytes rest read overflow =>
      subst counted
      have next := next_whole receivedData bytes
      rw [List.length_append, if_pos overflow] at next
      rw [drain_ended ⟨none, receivedData⟩ read next (by simp)]
      rfl
  | case2 records receivedData totalBytesRead bytes rest read fits short =>
      subst counted
      have next := next_whole receivedData bytes
      rw [List.length_append, if_neg fits, if_pos short] at next
      rw [drain_ended ⟨none, receivedData⟩ read next (by simp),
        ← List.length_append, Option.map_some, finishReceive_appended]
      rfl
  | case3 records receivedData totalBytesRead bytes rest read fits full
      inductionHypothesis =>
      subst counted
      have next := next_whole receivedData bytes
      rw [List.length_append, if_neg fits, if_neg full] at next
      rw [drain_read ⟨none, receivedData⟩ read next]
      exact inductionHypothesis List.length_append.symm
  | case7 records receivedData totalBytesRead empty other =>
      subst other
      rw [drain_none ⟨none, receivedData⟩ empty]
      rfl
  | case4 records receivedData totalBytesRead empty error =>
      subst counted error
      rw [drain_none ⟨none, receivedData⟩ empty, Option.map_some,
        finishReceive_appended]
      rfl
  | case5 records receivedData totalBytesRead empty error =>
      subst counted error
      rw [drain_none ⟨none, receivedData⟩ empty, Option.map_some,
        finishReceive_appended]
      rfl
  | case6 records receivedData totalBytesRead empty error =>
      subst counted error
      rw [drain_none ⟨none, receivedData⟩ empty, Option.map_some,
        finishReceive_appended]
      rfl

end Drain

/-! ## The same bytes, in segments and in records -/

/-- The results of the reads of a plain connection on which exactly `stream` is
available: any segments while bytes remain, and then nothing, or the end of the
stream. -/
inductive Delivers : List UInt8 → List SysResult → Prop where
  | pending (stream : List UInt8) : Delivers stream []
  | segment (data : List UInt8) (some_bytes : data ≠ [])
      {stream : List UInt8} {results : List SysResult}
      (later : Delivers stream results) :
      Delivers (data ++ stream) (.bytes data :: results)
  | interrupted {stream : List UInt8} {results : List SysResult}
      (later : Delivers stream results) :
      Delivers stream (.error .EINTR :: results)
  | drained : Delivers [] [.error .EAGAIN]
  | closed : Delivers [] [.bytes []]

/-- Every record that ends before the limit ends where a buffer ends. -/
def EndsAligned : Nat → List Record → Prop
  | _, [] => True
  | limit, record :: rest =>
      (record.length < limit → bufferSize ∣ record.length) ∧
        EndsAligned (limit - record.length) rest

open TCPServerSocketHandler in
theorem appended_of_full {dataSize : Nat} {buffer : List UInt8}
    {results : List SysResult} {value : Int} {appended : List UInt8}
    (full : buffer.length = dataSize)
    (ran : handlerCall.run (readLoop dataSize buffer) results =
      some (.returned value appended)) :
    appended = buffer ∧ value = buffer.length := by
  have finished : readLoop dataSize buffer =
      .returned buffer.length buffer :=
    if_neg (Nat.not_lt.mpr (Nat.le_of_eq full.symm))
  rw [finished] at ran
  obtain ⟨-, ended⟩ := run_returned ran
  cases ended
  exact ⟨rfl, rfl⟩

/-- The plain handler's loop takes what is asked for, or all there is. -/
theorem appended_of_delivers {dataSize : Nat} {buffer stream : List UInt8}
    {results : List SysResult} {value : Int} {appended : List UInt8}
    (more : buffer.length < dataSize) (delivers : Delivers stream results)
    (ran : handlerCall.run (.reading dataSize buffer) results =
      some (.returned value appended)) :
    appended = buffer ++ stream.take (dataSize - buffer.length) ∧
      value = appended.length := by
  induction delivers generalizing buffer with
  | pending stream => cases ran
  | segment data some_bytes later inductionHypothesis =>
      obtain ⟨after, taken, remaining⟩ := TransitionSystem.run_cons ran
      obtain ⟨syscall, next, admitted, rfl⟩ := handlerCall_step taken
      cases next
      have fits : data.length ≤ dataSize - buffer.length :=
        of_decide_eq_true admitted
      have resumed : (Call.reading dataSize buffer).resume (.bytes data) =
          TCPServerSocketHandler.readLoop dataSize (buffer ++ data) := by
        cases data with
        | nil => exact absurd rfl some_bytes
        | cons byte bytes => rfl
      rw [resumed] at remaining
      have grown : (buffer ++ data).length = buffer.length + data.length :=
        List.length_append
      rw [List.take_append, List.take_of_length_le fits, ← List.append_assoc,
        Nat.sub_sub, ← grown]
      by_cases goes_on : (buffer ++ data).length < dataSize
      · apply inductionHypothesis goes_on
        rw [TCPServerSocketHandler.readLoop, if_pos goes_on] at remaining
        exact remaining
      · have full : (buffer ++ data).length = dataSize := by omega
        obtain ⟨rfl, rfl⟩ := appended_of_full full remaining
        rw [full, Nat.sub_self, List.take_zero, List.append_nil]
        exact ⟨rfl, full ▸ rfl⟩
  | interrupted later inductionHypothesis =>
      obtain ⟨after, taken, remaining⟩ := TransitionSystem.run_cons ran
      cases taken
      exact inductionHypothesis more remaining
  | drained =>
      cases ran
      simp
  | closed =>
      cases ran
      simp

theorem endsAligned_zero (records : List Record) : EndsAligned 0 records := by
  induction records with
  | nil => trivial
  | cons record rest inductionHypothesis =>
      refine ⟨fun before => absurd before (Nat.not_lt_zero _), ?_⟩
      rw [Nat.zero_sub]
      exact inductionHypothesis

/-- A read that does not fill the buffer has come to the end of a record. -/
theorem endsAligned_short {limit size : Nat} {records rest : List Record}
    {bytes : List UInt8} (room : 0 < size) (small : size ≤ bufferSize)
    (read : readRecord size records = some (bytes, rest))
    (short : bytes.length < size) :
    EndsAligned limit records ↔ limit ≤ bytes.length := by
  induction reads_of_readRecord read with
  | later _ inductionHypothesis =>
      have later := inductionHypothesis read short
      simpa [EndsAligned] using later
  | here byte tail others =>
      rw [List.length_take, List.length_cons] at short ⊢
      unfold bufferSize at small
      constructor
      · rintro ⟨ends, -⟩
        rw [List.length_cons] at ends
        unfold bufferSize at ends
        omega
      · intro beyond
        refine ⟨?_, ?_⟩
        · intro before
          rw [List.length_cons] at before
          omega
        · rw [List.length_cons, show limit - (tail.length + 1) = 0 by omega]
          exact endsAligned_zero others

/-- Nothing in front of the limit can be cut by a read that reaches it. -/
theorem endsAligned_reached {limit size : Nat} {records rest : List Record}
    {bytes : List UInt8} (read : readRecord size records = some (bytes, rest))
    (reached : limit ≤ bytes.length) : EndsAligned limit records := by
  induction reads_of_readRecord read with
  | later _ inductionHypothesis =>
      have later := inductionHypothesis read reached
      simpa [EndsAligned] using later
  | here byte tail others =>
      rw [List.length_take, List.length_cons] at reached
      refine ⟨?_, ?_⟩
      · intro before
        rw [List.length_cons] at before
        omega
      · rw [List.length_cons, show limit - (tail.length + 1) = 0 by omega]
        exact endsAligned_zero others

/-- A whole buffer more or less does not change the alignment. -/
theorem endsAligned_full {limit : Nat} {records rest : List Record}
    {bytes : List UInt8}
    (read : readRecord bufferSize records = some (bytes, rest))
    (full : bytes.length = bufferSize) :
    EndsAligned limit records ↔ EndsAligned (limit - bufferSize) rest := by
  induction reads_of_readRecord read with
  | later _ inductionHypothesis =>
      have later := inductionHypothesis read full
      simpa [EndsAligned] using later
  | here byte tail others =>
      rw [List.length_take, List.length_cons] at full
      simp only [EndsAligned, List.length_drop, List.length_cons]
      unfold bufferSize at full ⊢
      have same : limit - 1000 - (tail.length + 1 - 1000) =
          limit - (tail.length + 1) := by omega
      rw [same]
      apply and_congr_left
      intro _
      constructor
      · intro ends before
        omega
      · intro ends before
        omega

/-! ## The TLS handler's loop -/

/-- The lines after the loop, for what has been received. -/
def publish (received : List UInt8) : Point :=
  .unlock (some received.length) received

theorem publish_inj {first second : List UInt8} :
    publish first = publish second ↔ first = second := by
  constructor
  · intro same
    exact (Point.unlock.inj same).2
  · intro same
    rw [same]

theorem bufferSize_partial (remaining : Nat) (receivedData : List UInt8) :
    Reading.bufferSize
        { remainingSize := some remaining, receivedData := receivedData } =
      min remaining bufferSize := by
  simp only [Reading.bufferSize, bufferSize]
  omega

/-- One turn of the loop, while the count is sure to fit. -/
theorem next_partial {remaining : Nat} {receivedData bytes : List UInt8}
    (counted : receivedData.length + remaining ≤ intMax)
    (fits : bytes.length ≤ remaining) :
    Reading.next
        { remainingSize := some remaining, receivedData := receivedData }
        (.bytes bytes) =
      if bytes.length < min remaining bufferSize ∨
          remaining ≤ bytes.length then
        some (publish (receivedData ++ bytes))
      else
        some
          (.read
            { remainingSize := some (remaining - bytes.length : Nat)
              receivedData := receivedData ++ bytes }) := by
  have within : ¬ intMax < (receivedData ++ bytes).length := by
    rw [List.length_append]
    omega
  have difference : (remaining : Int) - bytes.length =
      (remaining - bytes.length : Nat) := by omega
  have used_up : ((remaining - bytes.length : Nat) : Int) ≤ 0 ↔
      remaining ≤ bytes.length := by omega
  simp only [Reading.next, bufferSize_partial, Option.map_some, within,
    if_false, difference, Option.any_some, decide_eq_true_eq, used_up]
  rfl

theorem next_failed {exhausted : SSLError} (harmless : exhausted ≠ .other)
    (reading : Reading) :
    reading.next (.failed exhausted) =
      some (publish reading.receivedData) := by
  cases exhausted with
  | other => exact absurd rfl harmless
  | _ => rfl

/-- The TLS handler's loop takes what is asked for, or all there is, exactly
when no record ends too early inside a buffer. -/
theorem drain_partial_iff {exhausted : SSLError} (harmless : exhausted ≠ .other)
    {remaining : Nat} (more : 0 < remaining) {records : List Record}
    {receivedData : List UInt8}
    (counted : receivedData.length + remaining ≤ intMax) :
    Reading.drain exhausted records
        { remainingSize := some remaining, receivedData := receivedData } =
      some (publish (receivedData ++ records.flatten.take remaining)) ↔
      EndsAligned (min remaining records.flatten.length) records := by
  induction remaining using Nat.strongRecOn
    generalizing records receivedData with
  | ind remaining inductionHypothesis =>
      have size := bufferSize_partial remaining receivedData
      have room : 0 < min remaining bufferSize :=
        Nat.lt_min.mpr ⟨more, by decide⟩
      cases read : readRecord (min remaining bufferSize) records with
      | none =>
          have empty : records.flatten = [] :=
            List.flatten_eq_nil_iff.mpr (readRecord_eq_none read)
          rw [drain_none _ (size ▸ read), next_failed harmless, empty,
            List.take_nil, List.append_nil, List.length_nil, Nat.min_zero]
          exact iff_of_true rfl (endsAligned_zero records)
      | some found =>
          obtain ⟨bytes, rest⟩ := found
          obtain ⟨front, fits⟩ := readRecord_eq_some read
          have some_bytes := List.length_pos_iff.mpr
            (readRecord_ne_nil room read)
          have within : bytes.length ≤ remaining := by omega
          have next := next_partial counted within
          have total : records.flatten.length =
              bytes.length + rest.flatten.length := by
            rw [front, List.length_append]
          have taken : records.flatten.take remaining =
              bytes ++ rest.flatten.take (remaining - bytes.length) := by
            rw [front, List.take_append, List.take_of_length_le within]
          rw [taken, ← List.append_assoc]
          by_cases short : bytes.length < min remaining bufferSize
          · -- the loop stops, with all there is or with part of it
            rw [if_pos (.inl short)] at next
            rw [drain_ended _ (size ▸ read) next (by simp [publish]),
              endsAligned_short room (Nat.min_le_right _ _) read short,
              Option.some.injEq, publish_inj, List.self_eq_append_right,
              List.take_eq_nil_iff, ← List.length_eq_zero_iff]
            omega
          · have full : bytes.length = min remaining bufferSize := by omega
            by_cases reached : remaining ≤ bytes.length
            · rw [if_pos (.inr reached)] at next
              rw [drain_ended _ (size ▸ read) next (by simp [publish]),
                Nat.sub_eq_zero_of_le reached, List.take_zero,
                List.append_nil]
              refine iff_of_true rfl (endsAligned_reached read ?_)
              exact Nat.le_trans (Nat.min_le_left _ _) reached
            · have goes_on : ¬(bytes.length < min remaining bufferSize ∨
                  remaining ≤ bytes.length) := by
                intro stops
                exact stops.elim short reached
              have whole : min remaining bufferSize = bufferSize := by omega
              rw [if_neg goes_on] at next
              rw [drain_read _ (size ▸ read) next]
              rw [whole] at read full
              rw [endsAligned_full read full]
              have limit : min remaining records.flatten.length - bufferSize =
                  min (remaining - bytes.length) rest.flatten.length := by
                omega
              rw [limit]
              apply inductionHypothesis
              · omega
              · omega
              · rw [List.length_append]
                omega

/-! ## Both handlers -/

/-- What the code above `BaseSocketHandler::receivePartialData` relies on, for
a size and the bytes available: either handler returns the smaller of the two
counts and appends that many bytes. -/
structure Agrees (dataSize : Int) (layer : TLSLayer) : Prop where
  plainReturns :
    ReturnsNormally (TCPServerSocketHandler.receivePartialData dataSize)
  plain : ∀ results value appended,
    Delivers layer.records.flatten results →
    handlerCall.run (TCPServerSocketHandler.receivePartialData dataSize)
        results = some (.returned value appended) →
      value = min dataSize layer.records.flatten.length ∧
        appended = layer.records.flatten.take dataSize.toNat
  tls : ((Operation.receivePartialData dataSize).start .object).finish layer =
    some
      (.unlock (some (min dataSize layer.records.flatten.length))
        (layer.records.flatten.take dataSize.toNat))

section Agrees

variable {dataSize : Int} {layer : TLSLayer}

theorem receivePartialData_of_nonneg (nonnegative : 0 ≤ dataSize) :
    TCPServerSocketHandler.receivePartialData dataSize =
      TCPServerSocketHandler.readLoop dataSize.toNat [] :=
  if_neg (Int.not_lt.mpr nonnegative)

theorem length_take_toNat (nonnegative : 0 ≤ dataSize)
    (stream : List UInt8) :
    ((stream.take dataSize.toNat).length : Int) =
      min dataSize stream.length := by
  rw [List.length_take]
  omega

theorem plain_partial (nonnegative : 0 ≤ dataSize) {stream : List UInt8}
    {results : List SysResult} {value : Int} {appended : List UInt8}
    (delivers : Delivers stream results)
    (returned : handlerCall.run
      (TCPServerSocketHandler.receivePartialData dataSize) results =
        some (.returned value appended)) :
    value = min dataSize stream.length ∧
      appended = stream.take dataSize.toNat := by
  rw [receivePartialData_of_nonneg nonnegative] at returned
  rw [← length_take_toNat nonnegative]
  rcases Nat.eq_zero_or_pos dataSize.toNat with zero | more
  · have full : ([] : List UInt8).length = dataSize.toNat := zero.symm
    obtain ⟨rfl, rfl⟩ := appended_of_full full returned
    rw [zero]
    exact ⟨rfl, rfl⟩
  · have begun : TCPServerSocketHandler.readLoop dataSize.toNat [] =
        .reading dataSize.toNat [] := if_pos more
    rw [begun] at returned
    obtain ⟨rfl, rfl⟩ := appended_of_delivers more delivers returned
    exact ⟨rfl, rfl⟩

theorem tls_partial_iff (nonnegative : 0 ≤ dataSize)
    (representable : dataSize ≤ intMax)
    (harmless : layer.exhausted ≠ .other) :
    ((Operation.receivePartialData dataSize).start .object).finish layer =
        some
          (.unlock (some (min dataSize layer.records.flatten.length))
            (layer.records.flatten.take dataSize.toNat)) ↔
      EndsAligned (min dataSize.toNat layer.records.flatten.length)
        layer.records := by
  rw [← length_take_toNat nonnegative]
  obtain ⟨size, rfl⟩ := Int.eq_ofNat_of_zero_le nonnegative
  rw [Int.toNat_natCast]
  rcases Nat.eq_zero_or_pos size with rfl | more
  · rw [Nat.zero_min, List.take_zero]
    exact iff_of_true rfl (endsAligned_zero _)
  · have begun : (Operation.receivePartialData size).start .object =
        .read { remainingSize := some size, receivedData := [] } := by
      have positive : (size : Int) > 0 := by omega
      simp only [Operation.start, Operation.entry, positive, if_true,
        reduceCtorEq, if_false]
    rw [begun]
    apply drain_partial_iff harmless more
    rw [List.length_nil]
    omega

/-- The two implementations agree on a stream exactly when every record that
ends before the last byte asked for ends where a buffer of the TLS handler
ends. -/
theorem receivePartialData_agree_iff (nonnegative : 0 ≤ dataSize)
    (representable : dataSize ≤ intMax)
    (harmless : layer.exhausted ≠ .other) :
    Agrees dataSize layer ↔
      EndsAligned (min dataSize.toNat layer.records.flatten.length)
        layer.records := by
  rw [← tls_partial_iff nonnegative representable harmless]
  constructor
  · exact Agrees.tls
  · intro tls
    refine ⟨?_, ?_, tls⟩
    · rw [receivePartialData_of_nonneg nonnegative]
      exact returnsNormally_readLoop (Nat.zero_add _)
    · intro results value appended delivers returned
      exact plain_partial nonnegative delivers returned

end Agrees

/-- A header of four bytes at the front of a longer record. -/
theorem receivePartialData_agree_iff_header :
    Agrees 4
      { records := [[1, 2, 3, 4, 5], [6]], exhausted := .WANT_READ } := by
  apply (receivePartialData_agree_iff _ _ _).mpr
  · refine ⟨by decide, by decide, trivial⟩
  · decide
  · decide
  · decide

/-- Five bytes are available and asked for, in records of three and two; the
TLS handler returns the first record. -/
theorem receivePartialData_stops_at_record :
    ¬∀ dataSize layer, 0 ≤ dataSize → dataSize ≤ intMax →
      layer.exhausted ≠ .other → Agrees dataSize layer := by
  intro always
  have agrees := always 5
    { records := [[1, 2, 3], [4, 5]], exhausted := .WANT_READ } (by decide)
    (by decide) (by decide)
  have returned : ((Operation.receivePartialData 5).start .object).finish
      { records := [[1, 2, 3], [4, 5]], exhausted := .WANT_READ } =
        some (.unlock (some 3) [1, 2, 3]) :=
    drain_ended _ rfl rfl (by simp)
  cases returned.symm.trans agrees.tls

end EventPlus

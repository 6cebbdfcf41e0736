/-
Module: EventPlus.Handlers.ReceiveRuns
Purpose: The receive calls of both handlers, driven by the results of their
  reads: which bytes they append, and what `receiveData` counts.
Trusted boundary: OpenSSL, through the results of `SSL_read`
Main exports:
  tlsCall, Operation.start, tcpStaging, tlsStaging,
  receive_loses_nothing_iff, Complete, receiveData_counts_iff
-/
import EventPlus.Handlers.SendData
import EventPlus.Handlers.SharedStore
import EventPlus.Library.Staging

namespace EventPlus

open SharedStore (Point Operation Reading)

/-! ## Calls of the TLS handler -/

/-- A receive call behind the lock that goes on with every result its
`SSL_read` can have. -/
def tlsCall : TransitionSystem Point SSLReadResult where
  initial := fun _ => True
  step := fun point result =>
    match point with
    | .read reading =>
        if reading.admits result then reading.next result else none
    | _ => none

/-- A call on its own: the test of `m_SSL`, and the first line behind the
lock. -/
def SharedStore.Operation.start (ssl : SSLPointer) (operation : Operation) :
    Point :=
  if ssl = .null then .unlock operation.refused [] else operation.entry

/-- A read of a thread that shares the store is a step of its call. -/
theorem step_read_eq (store : SharedStore) (thread : SharedStore.ThreadId)
    (result : SSLReadResult) :
    store.step (.read thread result) =
      (tlsCall.step (store.point thread) result).map fun point =>
        (store.use .SSL_read store.ssl).setPoint thread point := by
  simp only [SharedStore.step, tlsCall]
  cases store.point thread with
  | read reading =>
      simp only
      split
      · rfl
      · rfl
  | _ => rfl

theorem tlsCall_step {before after : Point} {result : SSLReadResult}
    (taken : tlsCall.step before result = some after) :
    ∃ reading, before = .read reading ∧ reading.admits result = true ∧
      reading.next result = some after := by
  cases before with
  | read reading =>
      simp only [tlsCall] at taken
      split at taken
      · rename_i admitted
        exact ⟨reading, rfl, admitted, taken⟩
      · cases taken
  | _ => cases taken

/-! ## Bytes read and bytes appended

Both handlers stage what they read in a vector.  Every way out of the loop
appends it to `data`, except the one that returns `-1`.
-/

def SysResult.delivered : SysResult → List UInt8
  | .bytes data => data
  | _ => []

/-- A result that makes `receivePartialData` return `-1`. -/
def SysResult.failsRead : SysResult → Bool
  | .error errno => errno ≠ .EINTR ∧ errno ≠ .EAGAIN
  | _ => false

def SSLReadResult.delivered : SSLReadResult → List UInt8
  | .bytes data => data
  | .failed _ => []

/-- A result that makes the TLS handler's loops return `-1`. -/
def SSLReadResult.failsRead : SSLReadResult → Bool
  | .failed error => error = .other
  | .bytes _ => false

/-- `buffer` while the loop runs, and what has been appended afterwards. -/
def Call.staged : Call → List UInt8
  | .reading _ buffer => buffer
  | .returned _ appended => appended
  | _ => []

/-- `receivedData` while the loop runs, and what has been appended
afterwards. -/
def SharedStore.Point.staged : Point → List UInt8
  | .read reading => reading.receivedData
  | .unlock _ appended => appended
  | _ => []

open TCPServerSocketHandler in
theorem readLoop_staged (dataSize : Nat) (buffer : List UInt8) :
    (readLoop dataSize buffer).staged = buffer := by
  unfold readLoop
  split
  · rfl
  · rfl

open TCPServerSocketHandler in
theorem receivePartialData_staged (dataSize : Int) :
    (receivePartialData dataSize).staged = [] := by
  unfold receivePartialData
  split
  · rfl
  · exact readLoop_staged _ _

/-- What a result does to the staged bytes of a call. -/
theorem resume_staged {call : Call} {syscall : Syscall} {result : SysResult}
    (next : call.syscall = some syscall)
    (admitted : syscall.admits result = true)
    (intact : result.failsRead = false) :
    (call.resume result).staged = call.staged ++ result.delivered := by
  cases call with
  | sending data totalSent =>
      cases next
      cases result with
      | sent count =>
          simp only [Call.resume, TCPServerSocketHandler.sendLoop]
          split
          · rfl
          · split
            · rfl
            · rfl
      | error errno =>
          cases errno with
          | EINTR => rfl
          | _ => rfl
      | _ => cases admitted
  | sizing =>
      cases next
      cases result with
      | available amount => exact receivePartialData_staged _
      | error errno => exact receivePartialData_staged _
      | _ => cases admitted
  | reading dataSize buffer =>
      cases next
      cases result with
      | bytes data =>
          cases data with
          | nil => exact (List.append_nil buffer).symm
          | cons byte bytes => exact readLoop_staged _ _
      | error errno =>
          cases errno with
          | EINTR => exact (List.append_nil buffer).symm
          | EAGAIN => exact (List.append_nil buffer).symm
          | _ => cases intact
      | _ => cases admitted
  | querying =>
      cases next
      cases result with
      | available amount => rfl
      | error errno => rfl
      | _ => cases admitted
  | _ => cases next

/-- A failed read ends the call with nothing appended. -/
theorem resume_dropped {call : Call} {syscall : Syscall} {result : SysResult}
    (next : call.syscall = some syscall)
    (fails : result.failsRead = true) :
    (call.resume result).staged = [] ∧
      (call.resume result).syscall = none := by
  cases result with
  | error errno =>
      cases call with
      | sending data totalSent =>
          cases errno with
          | EINTR => cases fails
          | _ => exact ⟨rfl, rfl⟩
      | sizing => exact ⟨rfl, rfl⟩
      | reading dataSize buffer =>
          cases errno with
          | EINTR => cases fails
          | EAGAIN => cases fails
          | _ => exact ⟨rfl, rfl⟩
      | querying => exact ⟨rfl, rfl⟩
      | _ => cases next
  | _ => cases fails

/-- The plain handler's vector. -/
def tcpStaging : Staging handlerCall UInt8 where
  staged := Call.staged
  delivered := SysResult.delivered
  fails := SysResult.failsRead
  keeps := by
    intro before after result taken intact
    obtain ⟨syscall, next, admitted, rfl⟩ := handlerCall_step taken
    exact resume_staged next admitted intact
  drops := by
    intro before after result taken fails
    obtain ⟨syscall, next, -, rfl⟩ := handlerCall_step taken
    obtain ⟨empty, ended⟩ := resume_dropped next fails
    refine ⟨empty, ?_⟩
    intro later
    simp only [handlerCall, ended]

/-- The TLS handler's vector. -/
def tlsStaging : Staging tlsCall UInt8 where
  staged := Point.staged
  delivered := SSLReadResult.delivered
  fails := SSLReadResult.failsRead
  keeps := by
    intro before after result taken intact
    obtain ⟨reading, rfl, -, next⟩ := tlsCall_step taken
    cases result with
    | bytes data =>
        simp only [Reading.next] at next
        split at next
        · cases next
        · split at next
          · cases next
            rfl
          · cases next
            rfl
    | failed error =>
        cases error with
        | other => cases intact
        | _ =>
            cases next
            exact (List.append_nil _).symm
  drops := by
    intro before after result taken fails
    obtain ⟨reading, rfl, -, next⟩ := tlsCall_step taken
    cases result with
    | bytes data => cases fails
    | failed error =>
        cases error with
        | other =>
            cases next
            exact ⟨rfl, fun _ => rfl⟩
        | _ => cases fails

/-- Only a read delivers bytes. -/
theorem received_eq_delivered {syscall : Syscall} {result : SysResult}
    (admitted : syscall.admits result = true) :
    syscall.received result = result.delivered := by
  cases result with
  | bytes data =>
      cases syscall with
      | read count => rfl
      | _ => cases admitted
  | _ => cases syscall <;> rfl

/-- The bytes a call takes from the connection are those its reads deliver. -/
theorem consumed_of_run {call last : Call} {results : List SysResult}
    (ran : handlerCall.run call results = some last) :
    call.consumed results = results.flatMap SysResult.delivered := by
  induction results generalizing call with
  | nil => rfl
  | cons result rest inductionHypothesis =>
      obtain ⟨after, taken, remaining⟩ := TransitionSystem.run_cons ran
      obtain ⟨syscall, next, admitted, rfl⟩ := handlerCall_step taken
      rw [Call.consumed, next, List.flatMap_cons,
        inductionHypothesis remaining, Option.elim_some,
        received_eq_delivered admitted]

theorem start_staged (ssl : SSLPointer) (operation : Operation) :
    (operation.start ssl).staged = [] := by
  unfold Operation.start
  split
  · rfl
  · cases operation with
    | receivePartialData dataSize =>
        simp only [Operation.entry]
        split
        · rfl
        · rfl
    | _ => rfl

/-- A receive call appends exactly the bytes it takes from the stream, on every
way out, unless it fails after it has read some. -/
theorem receive_loses_nothing_iff {dataSize value : Int} {ssl : SSLPointer}
    {results : List SysResult} {reads : List SSLReadResult}
    {returned : Option Int} {appended : List UInt8} :
    (handlerCall.run (TCPServerSocketHandler.receivePartialData dataSize)
        results = some (.returned value appended) →
      (appended =
          (TCPServerSocketHandler.receivePartialData dataSize).consumed
            results ↔
        ¬Staging.CutOff SysResult.delivered SysResult.failsRead results)) ∧
    (tlsCall.run ((Operation.receivePartialData dataSize).start ssl) reads =
        some (.unlock returned appended) →
      (appended = reads.flatMap SSLReadResult.delivered ↔
        ¬Staging.CutOff SSLReadResult.delivered SSLReadResult.failsRead
          reads)) ∧
    (tlsCall.run (Operation.receiveData.start ssl) reads =
        some (.unlock returned appended) →
      (appended = reads.flatMap SSLReadResult.delivered ↔
        ¬Staging.CutOff SSLReadResult.delivered SSLReadResult.failsRead
          reads)) := by
  refine ⟨?_, ?_, ?_⟩
  · intro ran
    rw [consumed_of_run ran]
    exact tcpStaging.lossless_iff (receivePartialData_staged dataSize) ran
  · intro ran
    exact tlsStaging.lossless_iff (start_staged ssl _) ran
  · intro ran
    exact tlsStaging.lossless_iff (start_staged ssl _) ran

/-- A call of each kind; the plain one is interrupted between its two reads. -/
theorem receive_loses_nothing_iff_in_pieces :
    [1, 2, 3, 4, 5] =
        (TCPServerSocketHandler.receivePartialData 5).consumed
          [.bytes [1, 2], .error .EINTR, .bytes [3, 4, 5]] ∧
      [1, 2, 3] =
        [.bytes [1, 2, 3]].flatMap SSLReadResult.delivered ∧
      [] = [.failed .WANT_READ].flatMap SSLReadResult.delivered := by
  refine ⟨?_, ?_, ?_⟩
  · apply (@receive_loses_nothing_iff 5 5 .null _ [] none _).1 rfl |>.mpr
    rintro ⟨-, result, member, fails⟩
    revert result
    decide
  · apply (@receive_loses_nothing_iff 3 0 .object [] _ (some 3) _).2.1 rfl
      |>.mpr
    rintro ⟨-, result, member, fails⟩
    revert result
    decide
  · apply (@receive_loses_nothing_iff 0 0 .object [] _ (some 0) _).2.2 rfl
      |>.mpr
    rintro ⟨-, result, member, fails⟩
    revert result
    decide

/-- The connection is reset after two of five bytes have been read; the two are
gone. -/
theorem receive_loses_bytes :
    ¬∀ dataSize results value appended, 0 ≤ dataSize →
      handlerCall.run (TCPServerSocketHandler.receivePartialData dataSize)
          results = some (.returned value appended) →
        appended =
          (TCPServerSocketHandler.receivePartialData dataSize).consumed
            results := by
  intro always
  have kept := always 5 [.bytes [1, 2], .error .other] (-1) [] (by decide)
    rfl
  cases kept

/-! ## What `receiveData` counts

`int totalBytesRead` grows for as long as every read fills the buffer.
-/

/-- The reads of a call that meets no error: full buffers, and then a short
read, nothing to read, or the end of the stream. -/
inductive Complete : List SSLReadResult → Prop where
  | stop (error : SSLError) (harmless : error ≠ .other) :
      Complete [.failed error]
  | short (data : List UInt8) (some_bytes : data ≠ [])
      (room : data.length < bufferSize) : Complete [.bytes data]
  | full (data : List UInt8) (fills : data.length = bufferSize)
      {rest : List SSLReadResult} (later : Complete rest) :
      Complete (.bytes data :: rest)

/-- The state of the `while (true)` loop. -/
def reading (receivedData : List UInt8) : Point :=
  .read { remainingSize := none, receivedData := receivedData }

/-- The end of the loop, after a read that has delivered bytes. -/
theorem next_whole (receivedData data : List UInt8) :
    Reading.next { remainingSize := none, receivedData := receivedData }
        (.bytes data) =
      if intMax < (receivedData ++ data).length then none
      else if data.length < bufferSize then
        some
          (.unlock (some (receivedData ++ data).length)
            (receivedData ++ data))
      else some (reading (receivedData ++ data)) := by
  simp [Reading.next, Reading.bufferSize, reading]

theorem step_reading {receivedData data : List UInt8} (some_bytes : data ≠ [])
    (fits : data.length ≤ bufferSize) :
    tlsCall.step (reading receivedData) (.bytes data) =
      Reading.next { remainingSize := none, receivedData := receivedData }
        (.bytes data) :=
  if_pos (decide_eq_true ⟨some_bytes, fits⟩)

/-- A full buffer is followed by another read, while the count fits. -/
theorem reading_full {receivedData data : List UInt8}
    (fills : data.length = bufferSize) :
    tlsCall.step (reading receivedData) (.bytes data) =
      if intMax < (receivedData ++ data).length then none
      else some (reading (receivedData ++ data)) := by
  have some_bytes : data ≠ [] := by
    rintro rfl
    cases fills
  have not_short := Nat.not_lt.mpr (Nat.le_of_eq fills.symm)
  rw [step_reading some_bytes (Nat.le_of_eq fills), next_whole,
    if_neg not_short]

/-- A short read is the last one. -/
theorem reading_short {receivedData data : List UInt8} (some_bytes : data ≠ [])
    (room : data.length < bufferSize) :
    tlsCall.step (reading receivedData) (.bytes data) =
      if intMax < (receivedData ++ data).length then none
      else
        some
          (.unlock (some (receivedData ++ data).length)
            (receivedData ++ data)) := by
  rw [step_reading some_bytes (Nat.le_of_lt room), next_whole, if_pos room]

theorem reading_stop {receivedData : List UInt8} {error : SSLError}
    (harmless : error ≠ .other) :
    tlsCall.step (reading receivedData) (.failed error) =
      some (.unlock (some receivedData.length) receivedData) := by
  cases error with
  | other => exact absurd rfl harmless
  | _ => rfl

/-- The whole call.  It has a defined result while the bytes can be counted. -/
theorem run_complete {results : List SSLReadResult}
    (complete : Complete results) {receivedData received : List UInt8}
    (counted : receivedData.length ≤ intMax)
    (all : received =
      receivedData ++ results.flatMap SSLReadResult.delivered) :
    tlsCall.run (reading receivedData) results =
      if intMax < received.length then none
      else some (.unlock (some received.length) received) := by
  induction complete generalizing receivedData with
  | stop error harmless =>
      simp only [List.flatMap_cons, SSLReadResult.delivered, List.flatMap_nil,
        List.append_nil] at all
      subst all
      rw [if_neg (Nat.not_lt.mpr counted)]
      simp only [TransitionSystem.run, reading_stop harmless, Option.bind_some]
  | short data some_bytes room =>
      simp only [List.flatMap_cons, SSLReadResult.delivered, List.flatMap_nil,
        List.append_nil] at all
      subst all
      simp only [TransitionSystem.run, reading_short some_bytes room]
      split
      · rfl
      · rfl
  | full data fills later inductionHypothesis =>
      simp only [List.flatMap_cons, SSLReadResult.delivered,
        ← List.append_assoc] at all
      simp only [TransitionSystem.run, reading_full fills]
      by_cases overflow : intMax < (receivedData ++ data).length
      · have more : intMax < received.length := by
          rw [all, List.length_append]
          omega
        rw [if_pos overflow, if_pos more]
        rfl
      · rw [if_neg overflow]
        exact inductionHypothesis (Nat.not_lt.mp overflow) all

theorem run_receiveData {ssl : SSLPointer} (live : ssl ≠ .null)
    {results : List SSLReadResult} (complete : Complete results) :
    tlsCall.run (Operation.receiveData.start ssl) results =
      if intMax < (results.flatMap SSLReadResult.delivered).length then none
      else
        some
          (.unlock (some (results.flatMap SSLReadResult.delivered).length)
            (results.flatMap SSLReadResult.delivered)) := by
  have started : Operation.receiveData.start ssl = reading [] := if_neg live
  rw [started]
  apply run_complete complete
  · exact Nat.zero_le intMax
  · rfl

/-- `receiveData` returns the number of bytes it appends, and these are all it
has read, exactly when an `int` can hold their number. -/
theorem receiveData_counts_iff {ssl : SSLPointer} (live : ssl ≠ .null)
    {results : List SSLReadResult} (complete : Complete results) :
    (∃ value appended,
      tlsCall.run (Operation.receiveData.start ssl) results =
          some (.unlock (some value) appended) ∧
        value = appended.length ∧
        appended = results.flatMap SSLReadResult.delivered) ↔
      (results.flatMap SSLReadResult.delivered).length ≤ intMax := by
  rw [run_receiveData live complete]
  by_cases overflow :
      intMax < (results.flatMap SSLReadResult.delivered).length
  · rw [if_pos overflow]
    refine iff_of_false ?_ (Nat.not_le.mpr overflow)
    rintro ⟨value, appended, impossible, -⟩
    cases impossible
  · rw [if_neg overflow]
    exact iff_of_true ⟨_, _, rfl, rfl, rfl⟩ (Nat.not_lt.mp overflow)

/-- Two bytes and then nothing. -/
theorem receiveData_counts_iff_short :
    ∃ value appended,
      tlsCall.run (Operation.receiveData.start .object) [.bytes [1, 2]] =
          some (.unlock (some value) appended) ∧
        value = appended.length ∧
        appended = [.bytes [1, 2]].flatMap SSLReadResult.delivered :=
  (receiveData_counts_iff (by decide)
    (.short [1, 2] (by decide) (by decide))).mpr (by decide)

/-- A peer that fills `count` buffers and then waits. -/
def filling (count : Nat) (data : List UInt8) : List SSLReadResult :=
  List.replicate count (.bytes data) ++ [.failed .WANT_READ]

theorem complete_filling (count : Nat) {data : List UInt8}
    (fills : data.length = bufferSize) : Complete (filling count data) := by
  induction count with
  | zero => exact .stop _ (by decide)
  | succ count inductionHypothesis => exact .full data fills inductionHypothesis

theorem length_filling (count : Nat) (data : List UInt8) :
    ((filling count data).flatMap SSLReadResult.delivered).length =
      count * data.length := by
  simp [filling, List.flatMap_replicate, SSLReadResult.delivered]

/-- After 2147484 full buffers there are more than `2^31 - 1` bytes, and the
count has overflowed. -/
theorem receiveData_overflows :
    ¬∀ results, Complete results →
      ∃ value appended,
        tlsCall.run (Operation.receiveData.start .object) results =
            some (.unlock (some value) appended) ∧
          value = appended.length := by
  intro always
  have fills : (List.replicate bufferSize (0 : UInt8)).length = bufferSize :=
    List.length_replicate
  have complete := complete_filling 2147484 fills
  obtain ⟨value, appended, returned, -⟩ := always _ complete
  have ran := @run_receiveData .object (by decide) _ complete
  rw [returned, length_filling, fills, if_pos (by decide)] at ran
  cases ran

end EventPlus

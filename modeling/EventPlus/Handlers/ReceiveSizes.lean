/-
Module: EventPlus.Handlers.ReceiveSizes
Purpose: The integer conversions between `FIONREAD` and the buffer of the TCP
  handler's receive calls, and the sizes for which these calls return.
Trusted boundary: none
Main exports:
  Words.getAvailableDataInSocket, Words.receivePartialData, Words.receiveData,
  Words.handleIOTask, ReturnsNormally, receive_returns_iff
-/
import EventPlus.Handlers.SendData

namespace EventPlus

open TCPServerSocketHandler (readLoop)

/-! ## Conversions

`ssize_t` and `size_t` have 64 bits and `int` has 32.  `FIONREAD` stores an
`int`.
-/

namespace Words

/-- `std::vector<char>::max_size()`. -/
def maxSize : Nat := 9223372036854775807

/-- `getAvailableDataInSocket` with the result of `ioctl`, `none` for a failure.
The `int` that `ioctl` stores covers the low half of `bytesAvailable`, which
nothing has initialised. -/
def getAvailableDataInSocket (bytesAvailable : BitVec 64) :
    Option (BitVec 32) → BitVec 64
  | none => -1
  | some stored => bytesAvailable.extractLsb' 32 32 ++ stored

/-- `receivePartialData` up to its first `read`.  A size beyond `max_size` makes
the vector throw `std::length_error`. -/
def receivePartialData (dataSize : BitVec 32) : Call :=
  if maxSize < (dataSize.signExtend 64).toNat then .threw
  else readLoop dataSize.toInt.toNat []

/-- `receiveData` from the result of `ioctl` on.  `availableAmount` is a
`size_t`, and the parameter it is passed to an `int`. -/
def receiveData (bytesAvailable : BitVec 64) (ioctl : Option (BitVec 32)) :
    Call :=
  let availableAmount := getAvailableDataInSocket bytesAvailable ioctl
  receivePartialData (availableAmount.setWidth 32)

/-- The second receive call of `IOWorkerThreadHandler::handleIOTask`, which
asks for what follows a header of four bytes. -/
def handleIOTask (bytesAvailable : BitVec 64) (ioctl : Option (BitVec 32)) :
    Call :=
  let iDataAvailable :=
    (getAvailableDataInSocket bytesAvailable ioctl).setWidth 32
  receivePartialData (iDataAvailable - 4)

/-- The `int` is widened with its sign, so a negative size is enormous. -/
theorem maxSize_lt_iff (dataSize : BitVec 32) :
    maxSize < (dataSize.signExtend 64).toNat ↔ dataSize.toInt < 0 := by
  have same : (dataSize.signExtend 64).toInt = dataSize.toInt :=
    BitVec.toInt_signExtend_of_le (by decide)
  have signed := BitVec.toInt_eq_toNat_cond (dataSize.signExtend 64)
  have bound := (dataSize.signExtend 64).isLt
  unfold maxSize
  omega

theorem receivePartialData_eq (dataSize : BitVec 32) :
    receivePartialData dataSize =
      TCPServerSocketHandler.receivePartialData dataSize.toInt := by
  simp only [receivePartialData, TCPServerSocketHandler.receivePartialData,
    maxSize_lt_iff]

/-- The uninitialised half is cut off again. -/
theorem setWidth_available (bytesAvailable : BitVec 64)
    (ioctl : Option (BitVec 32)) :
    (getAvailableDataInSocket bytesAvailable ioctl).setWidth 32 =
      ioctl.getD (-1) := by
  cases ioctl with
  | none =>
      change (-1 : BitVec 64).setWidth 32 = -1
      decide
  | some stored => exact BitVec.setWidth_append_eq_right

theorem receiveData_eq (bytesAvailable : BitVec 64)
    (ioctl : Option (BitVec 32)) :
    receiveData bytesAvailable ioctl = receivePartialData (ioctl.getD (-1)) :=
  congrArg receivePartialData (setWidth_available bytesAvailable ioctl)

/-- A successful `ioctl` continues the call with the amount it stored. -/
theorem receiveData_some (bytesAvailable : BitVec 64) (stored : BitVec 32) :
    receiveData bytesAvailable (some stored) =
      Call.sizing.resume (.available stored.toInt) := by
  rw [receiveData_eq]
  exact receivePartialData_eq stored

/-- A failed one continues it with `-1`. -/
theorem receiveData_none (bytesAvailable : BitVec 64) (errno : Errno) :
    receiveData bytesAvailable none = Call.sizing.resume (.error errno) := by
  rw [receiveData_eq]
  exact receivePartialData_eq (-1)

end Words

/-! ## Calls that return -/

/-- The call returns, whatever its system calls report.  A result that leaves
the call where it is, an interrupt, only delays it. -/
inductive ReturnsNormally : Call → Prop where
  | returned (value : Int) (appended : List UInt8) :
      ReturnsNormally (.returned value appended)
  | resumes {call : Call} {syscall : Syscall}
      (next : call.syscall = some syscall)
      (ends : ∀ result, syscall.admits result = true →
        call.resume result ≠ call → ReturnsNormally (call.resume result)) :
      ReturnsNormally call

theorem not_returnsNormally_threw : ¬ReturnsNormally .threw := by
  intro returns
  cases returns with
  | resumes next ends => cases next

/-- The read loop ends, since every read that goes on has shortened what is
left. -/
theorem returnsNormally_readLoop {dataSize left : Nat} {buffer : List UInt8}
    (remaining : buffer.length + left = dataSize) :
    ReturnsNormally (readLoop dataSize buffer) := by
  induction left using Nat.strongRecOn generalizing buffer with
  | ind left inductionHypothesis =>
      unfold readLoop
      split
      · apply ReturnsNormally.resumes rfl
        intro result admitted goes_on
        cases result with
        | bytes data =>
            cases data with
            | nil => exact .returned _ _
            | cons byte bytes =>
                have fits : (byte :: bytes).length ≤
                    dataSize - buffer.length := of_decide_eq_true admitted
                rw [List.length_cons] at fits
                apply inductionHypothesis (left - (bytes.length + 1))
                · omega
                · rw [List.length_append, List.length_cons]
                  omega
        | error errno =>
            cases errno with
            | EINTR => exact absurd rfl goes_on
            | _ => exact .returned _ _
        | _ => cases admitted
      · exact .returned _ _

namespace Words

/-- What a call of `receivePartialData` is to do. -/
structure PartialReturns (dataSize : BitVec 32) : Prop where
  returns : ReturnsNormally (receivePartialData dataSize)
  nothing : dataSize.toInt ≤ 0 → receivePartialData dataSize = .returned 0 []

/-- What a call of `receiveData` is to do. -/
structure DataReturns (bytesAvailable : BitVec 64)
    (ioctl : Option (BitVec 32)) : Prop where
  returns : ReturnsNormally (receiveData bytesAvailable ioctl)
  failed : ioctl = none →
    receiveData bytesAvailable ioctl = .returned (-1) []
  nothing : ∀ stored, ioctl = some stored → stored.toInt ≤ 0 →
    receiveData bytesAvailable ioctl = .returned 0 []

theorem receivePartialData_threw {dataSize : BitVec 32}
    (negative : dataSize.toInt < 0) : receivePartialData dataSize = .threw :=
  if_pos ((maxSize_lt_iff dataSize).mpr negative)

theorem partialReturns_iff (dataSize : BitVec 32) :
    PartialReturns dataSize ↔ 0 ≤ dataSize.toInt := by
  constructor
  · intro returns
    apply Int.not_lt.mp
    intro negative
    apply not_returnsNormally_threw
    rw [← receivePartialData_threw negative]
    exact returns.returns
  · intro nonnegative
    have loops : receivePartialData dataSize =
        readLoop dataSize.toInt.toNat [] := by
      apply if_neg
      rw [maxSize_lt_iff]
      exact Int.not_lt.mpr nonnegative
    constructor
    · rw [loops]
      exact returnsNormally_readLoop (Nat.zero_add _)
    · intro small
      rw [loops, Int.toNat_of_nonpos small]
      rfl

theorem dataReturns_iff (bytesAvailable : BitVec 64)
    (ioctl : Option (BitVec 32)) :
    DataReturns bytesAvailable ioctl ↔
      ∃ stored, ioctl = some stored ∧ 0 ≤ stored.toInt := by
  cases ioctl with
  | none =>
      refine iff_of_false ?_ (by simp)
      intro returns
      have value := returns.failed rfl
      rw [receiveData_eq, Option.getD_none,
        receivePartialData_threw (by decide)] at value
      cases value
  | some stored =>
      simp only [Option.some.injEq, exists_eq_left',
        ← partialReturns_iff stored]
      have same : receiveData bytesAvailable (some stored) =
          receivePartialData stored := receiveData_eq _ _
      constructor
      · intro returns
        exact ⟨same ▸ returns.returns,
          fun small => same ▸ returns.nothing stored rfl small⟩
      · intro returns
        refine ⟨same.symm ▸ returns.returns, ?_, ?_⟩
        · intro impossible
          cases impossible
        · intro amount stores small
          cases stores
          exact same ▸ returns.nothing small

/-- The receive calls return, with what they are to return, exactly when the
size is not negative: the `dataSize` passed, or the amount that `FIONREAD`
stores, which a failure of `ioctl` replaces by `-1`. -/
theorem receive_returns_iff (dataSize : BitVec 32) (bytesAvailable : BitVec 64)
    (ioctl : Option (BitVec 32)) :
    (PartialReturns dataSize ↔ 0 ≤ dataSize.toInt) ∧
    (DataReturns bytesAvailable ioctl ↔
      ∃ stored, ioctl = some stored ∧ 0 ≤ stored.toInt) :=
  ⟨partialReturns_iff dataSize, dataReturns_iff bytesAvailable ioctl⟩

/-- Seven bytes with a header of four, and seven bytes at once. -/
theorem receive_returns_iff_seven :
    PartialReturns 3 ∧ DataReturns 0 (some 7) := by
  obtain ⟨one, other⟩ := receive_returns_iff 3 0 (some 7)
  constructor
  · exact one.mpr (by decide)
  · exact other.mpr ⟨7, rfl, by decide⟩

/-- A descriptor closed before the callback makes `ioctl` fail, and a size of
`-1` is what three available bytes leave after a header of four; neither call
returns. -/
theorem receive_throws :
    ¬((∀ dataSize, PartialReturns dataSize) ∧
      ∀ bytesAvailable ioctl, DataReturns bytesAvailable ioctl) ∧
    receivePartialData (-1) = .threw ∧ receiveData 0 none = .threw := by
  have one : receivePartialData (-1) = .threw :=
    receivePartialData_threw (by decide)
  have other : receiveData 0 none = .threw := by
    rw [receiveData_eq]
    exact receivePartialData_threw (by decide)
  refine ⟨?_, one, other⟩
  rintro ⟨always, -⟩
  apply not_returnsNormally_threw
  rw [← one]
  exact (always (-1)).returns

/-- `handleIOTask` meets the exception whenever the header is not complete. -/
theorem handleIOTask_threw_iff {bytesAvailable : BitVec 64}
    {ioctl : Option (BitVec 32)}
    (amount : ∀ stored, ioctl = some stored → 0 ≤ stored.toInt) :
    handleIOTask bytesAvailable ioctl = .threw ↔
      ∀ stored, ioctl = some stored → stored.toInt < 4 := by
  have threw : ∀ dataSize, receivePartialData dataSize = .threw ↔
      dataSize.toInt < 0 := by
    intro dataSize
    rw [← maxSize_lt_iff]
    unfold receivePartialData readLoop
    split
    · simp [*]
    · split
      · simp [*]
      · simp [*]
  unfold handleIOTask
  rw [setWidth_available, threw]
  cases ioctl with
  | none =>
      refine iff_of_true ?_ (by simp)
      decide
  | some stored =>
      have enough := amount stored rfl
      have bound := stored.toInt_lt
      simp only [Option.getD_some, Option.some.injEq, forall_eq']
      rw [BitVec.toInt_sub, show (4 : BitVec 32).toInt = 4 from rfl]
      rw [Int.bmod_eq_of_le (by omega) (by omega)]
      omega

end Words

end EventPlus

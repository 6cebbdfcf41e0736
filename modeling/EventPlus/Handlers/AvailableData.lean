/-
Module: EventPlus.Handlers.AvailableData
Purpose: The consumers of the TCP handler's `getAvailableDataInSocket`, and when
  they all see the number that `FIONREAD` stored.
Trusted boundary: none
Main exports:
  Words.iDataAvailable, Words.availabledata, Words.passedSize, Words.SeenAs,
  Words.available_seen_iff
-/
import Mathlib.Algebra.Group.Nat.Defs
import EventPlus.Handlers.ReceiveSizes

namespace EventPlus.Words

variable (bytesAvailable : BitVec 64) (ioctl : Option (BitVec 32))

/-- The local of `IOWorkerThreadHandler::handleIOTask`. -/
def iDataAvailable : BitVec 32 :=
  (getAvailableDataInSocket bytesAvailable ioctl).setWidth 32

/-- The local of `Ctest::dataEvent`. -/
def availabledata : BitVec 32 :=
  (getAvailableDataInSocket bytesAvailable ioctl).setWidth 32

/-- The argument that `receiveData` passes to `receivePartialData`.  On the way
through `size_t` the bits do not change. -/
def passedSize : BitVec 32 :=
  let availableAmount := getAvailableDataInSocket bytesAvailable ioctl
  availableAmount.setWidth 32

theorem receiveData_passes :
    receiveData bytesAvailable ioctl =
      receivePartialData (passedSize bytesAvailable ioctl) :=
  rfl

theorem handleIOTask_passes :
    handleIOTask bytesAvailable ioctl =
      receivePartialData (iDataAvailable bytesAvailable ioctl - 4) :=
  rfl

/-- Every consumer sees `amount`: one that keeps the `ssize_t`, those that
narrow it to `int`, and `receivePartialData` inside `receiveData`. -/
structure SeenAs (amount : Int) : Prop where
  result : (getAvailableDataInSocket bytesAvailable ioctl).toInt = amount
  handleIOTask : (iDataAvailable bytesAvailable ioctl).toInt = amount
  dataEvent : (availabledata bytesAvailable ioctl).toInt = amount
  receiveData : (passedSize bytesAvailable ioctl).toInt = amount

/-- The half that `ioctl` has not written weighs `2 ^ 32`. -/
theorem toNat_available (stored : BitVec 32) :
    (getAvailableDataInSocket bytesAvailable (some stored)).toNat =
      (bytesAvailable.extractLsb' 32 32).toNat * 2 ^ 32 + stored.toNat := by
  change (bytesAvailable.extractLsb' 32 32 ++ stored).toNat = _
  rw [BitVec.toNat_append, ← Nat.shiftLeft_add_eq_or_of_lt stored.isLt,
    Nat.shiftLeft_eq]

/-- What `FIONREAD` stores for an amount that an `int` can hold. -/
theorem toInt_stored {amount : Nat} (fits : amount < 2 ^ 31) :
    (BitVec.ofNat 32 amount).toInt = amount := by
  rw [BitVec.toInt_eq_toNat_cond, BitVec.toNat_ofNat]
  omega

variable {bytesAvailable} in
/-- The `ssize_t` is the amount exactly when the other half was zero. -/
theorem toInt_available_iff {amount : Nat} (fits : amount < 2 ^ 31) :
    (getAvailableDataInSocket bytesAvailable
        (some (BitVec.ofNat 32 amount))).toInt = amount ↔
      bytesAvailable.extractLsb' 32 32 = 0 := by
  have weight := toNat_available bytesAvailable (BitVec.ofNat 32 amount)
  have low : (BitVec.ofNat 32 amount).toNat = amount := by
    rw [BitVec.toNat_ofNat]
    omega
  have bound := (bytesAvailable.extractLsb' 32 32).isLt
  have signed := BitVec.toInt_eq_toNat_cond
    (getAvailableDataInSocket bytesAvailable (some (BitVec.ofNat 32 amount)))
  rw [weight, low] at signed
  rw [← BitVec.toNat_inj, show (0 : BitVec 32).toNat = 0 from rfl]
  constructor
  · intro same
    omega
  · intro zero
    omega

/-- The consumers of a successful `FIONREAD` see the same number exactly when
the half of `bytesAvailable` that `ioctl` does not write happens to be zero.
The ones that narrow the result see the amount in any case. -/
theorem available_seen_iff (bytesAvailable : BitVec 64) (amount : Nat)
    (fits : amount < 2 ^ 31) :
    SeenAs bytesAvailable (some (BitVec.ofNat 32 amount)) amount ↔
      bytesAvailable.extractLsb' 32 32 = 0 := by
  constructor
  · intro seen
    exact (toInt_available_iff fits).mp seen.result
  · intro zero
    have narrowed :
        ((getAvailableDataInSocket bytesAvailable
          (some (BitVec.ofNat 32 amount))).setWidth 32).toInt = amount := by
      rw [setWidth_available]
      exact toInt_stored fits
    exact
      { result := (toInt_available_iff fits).mpr zero
        handleIOTask := narrowed
        dataEvent := narrowed
        receiveData := narrowed }

/-- Eighteen bytes, with a one left over in the half that is written. -/
theorem available_seen_iff_eighteen : SeenAs 1 (some 18) 18 :=
  (available_seen_iff 1 18 (by decide)).mpr (by decide)

/-- Five bytes over stale stack contents: the `ssize_t` is `2 ^ 32` too large,
and every narrowed copy of it is five. -/
theorem available_seen_differently :
    ¬(∀ (bytesAvailable : BitVec 64) (amount : Nat), amount < 2 ^ 31 →
      SeenAs bytesAvailable (some (BitVec.ofNat 32 amount)) amount) ∧
    (getAvailableDataInSocket 0x100000000 (some 5)).toInt = 4294967301 ∧
    (iDataAvailable 0x100000000 (some 5)).toInt = 5 ∧
    (passedSize 0x100000000 (some 5)).toInt = 5 := by
  refine ⟨?_, by decide, by decide, by decide⟩
  intro always
  have same := (always 0x100000000 5 (by decide)).result
  revert same
  decide

end EventPlus.Words

/-!
# `HilBridge.Wire.Words` — numbers as bytes, the least significant first

A payload is a row of numbers of fixed widths. Reading takes bytes that are missing at the end for zeros and
leaves alone those that are too many, so zeros at the end of a payload need not be sent.

* `ofBytes_toBytes` — a number that fits its width is read as it was written;
* `readWords_writeWords` — and so is a row of them.
-/

namespace HilBridge.Wire

/-- The lowest `width` bytes of a number. -/
def toBytes : Nat → Nat → List UInt8
  | 0, _ => []
  | width + 1, n => UInt8.ofNat n :: toBytes width (n / 256)

/-- The number that some bytes write. -/
def ofBytes : List UInt8 → Nat
  | [] => 0
  | b :: rest => b.toNat + 256 * ofBytes rest

/-- Numbers of the given widths, one after the other. -/
def writeWords : List Nat → List Nat → List UInt8
  | width :: widths, n :: words => toBytes width n ++ writeWords widths words
  | _, _ => []

/-- The numbers of the given widths at the front of some bytes. -/
def readWords : List Nat → List UInt8 → List Nat
  | [], _ => []
  | width :: widths, bytes => ofBytes (bytes.take width) :: readWords widths (bytes.drop width)

/-! ## Writing and reading -/

@[simp]
theorem length_toBytes (width n : Nat) : (toBytes width n).length = width := by
  induction width generalizing n with
  | zero => rfl
  | succ width ih => simp [toBytes, ih]

theorem ofBytes_toBytes {width n : Nat} (h : n < Nat.pow 256 width) : ofBytes (toBytes width n) = n := by
  induction width generalizing n with
  | zero =>
    rw [Nat.pow_eq, Nat.pow_zero] at h
    simp only [toBytes, ofBytes]
    omega
  | succ width ih =>
    have hdiv : n / 256 < Nat.pow 256 width := by
      rw [Nat.pow_eq] at h ⊢
      rw [Nat.pow_succ] at h
      omega
    simp only [toBytes, ofBytes, ih hdiv, UInt8.toNat_ofNat']
    omega

/-- Whether there are as many numbers as widths and each fits its own. -/
def Fits : List Nat → List Nat → Prop
  | [], [] => True
  | width :: widths, n :: words => n < Nat.pow 256 width ∧ Fits widths words
  | _, _ => False

theorem readWords_writeWords {widths words : List Nat} (h : Fits widths words) (rest : List UInt8) :
    readWords widths (writeWords widths words ++ rest) = words := by
  induction widths generalizing words with
  | nil =>
    cases words with
    | nil => rfl
    | cons n words => exact h.elim
  | cons width widths ih =>
    cases words with
    | nil => exact h.elim
    | cons n words =>
      have htake : (toBytes width n ++ (writeWords widths words ++ rest)).take width
          = toBytes width n := by
        simp
      have hdrop : (toBytes width n ++ (writeWords widths words ++ rest)).drop width
          = writeWords widths words ++ rest := by
        simp
      simp only [writeWords, readWords, List.append_assoc, htake, hdrop, ofBytes_toBytes h.1, ih h.2]

end HilBridge.Wire

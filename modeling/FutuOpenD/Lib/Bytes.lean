import Mathlib.Data.List.TakeDrop
import Mathlib.Tactic.Ring

/-!
# Fixed-width fields of a byte string

`Field n` is a run of exactly `n` bytes, `fieldAt l off n` the one that starts at offset `off` of
`l`, and `toLE` / `ofLE` the little-endian reading of a field as a number.
-/

namespace Bytes

abbrev Field (n : Nat) := { l : List UInt8 // l.length = n }

@[simp] theorem length_field {n : Nat} (f : Field n) : f.1.length = n := f.2

def zeros (n : Nat) : Field n := ⟨List.replicate n 0, List.length_replicate⟩

/-- The `n` bytes of `l` from offset `off`, zeros beyond its end. -/
def fieldAt (l : List UInt8) (off n : Nat) : Field n :=
  ⟨(l.drop off).takeD n 0, List.takeD_length ..⟩

/-- The `w` low bytes of `n`, the lowest first. -/
def leBytes : Nat → Nat → List UInt8
  | 0, _ => []
  | w + 1, n => UInt8.ofNat n :: leBytes w (n / 256)

theorem length_leBytes (w n : Nat) : (leBytes w n).length = w := by
  induction w generalizing n with
  | zero => rfl
  | succ w ih => simp [leBytes, ih]

theorem leBytes_add (v w n : Nat) : leBytes (v + w) n = leBytes v n ++ leBytes w (n / 256 ^ v) := by
  induction v generalizing n with
  | zero => simp [leBytes]
  | succ v ih =>
    rw [Nat.succ_add, leBytes, ih, leBytes, List.cons_append, Nat.div_div_eq_div_mul, Nat.pow_succ,
      Nat.mul_comm]

/-- What does not fit is cut off. -/
theorem leBytes_mod (w n : Nat) : leBytes w (n % 256 ^ w) = leBytes w n := by
  induction w generalizing n with
  | zero => rfl
  | succ w ih =>
    have hlow : UInt8.ofNat (n % 256 ^ (w + 1)) = UInt8.ofNat n := by
      apply UInt8.toNat_inj.1
      rw [UInt8.toNat_ofNat', UInt8.toNat_ofNat', Nat.pow_succ, Nat.mul_comm, Nat.mod_mul_right_mod]
    have hhigh : n % 256 ^ (w + 1) / 256 = n / 256 % 256 ^ w := by
      rw [Nat.pow_succ, Nat.mul_comm, Nat.mod_mul_right_div_self]
    rw [leBytes, hlow, hhigh, ih, leBytes]

def toLE (w n : Nat) : Field w := ⟨leBytes w n, length_leBytes w n⟩

/-- The number that the bytes spell, the lowest byte first. -/
def ofLE : List UInt8 → Nat
  | [] => 0
  | b :: bs => b.toNat + 256 * ofLE bs

theorem ofLE_leBytes {w n : Nat} (h : n < 256 ^ w) : ofLE (leBytes w n) = n := by
  induction w generalizing n with
  | zero => simp only [pow_zero, Nat.lt_one_iff] at h; simp [leBytes, ofLE, h]
  | succ w ih =>
    have hlt : n / 256 < 256 ^ w := by rw [pow_succ] at h; omega
    have hb : (UInt8.ofNat n).toNat = n % 256 := UInt8.toNat_ofNat'
    rw [leBytes, ofLE, ih hlt, hb]
    omega

theorem ofLE_lt (l : List UInt8) : ofLE l < 256 ^ l.length := by
  induction l with
  | nil => simp [ofLE]
  | cons b bs ih =>
    have hb := b.toNat_lt
    rw [ofLE, List.length_cons, pow_succ]
    omega

theorem leBytes_ofLE (l : List UInt8) : leBytes l.length (ofLE l) = l := by
  induction l with
  | nil => rfl
  | cons b bs ih =>
    have hb := b.toNat_lt
    have hdiv : (b.toNat + 256 * ofLE bs) / 256 = ofLE bs := by omega
    have hmod : UInt8.ofNat (b.toNat + 256 * ofLE bs) = b := by
      apply UInt8.toNat_inj.1
      rw [UInt8.toNat_ofNat']
      omega
    rw [List.length_cons, leBytes, ofLE, hdiv, hmod, ih]

theorem toLE_ofLE {w : Nat} (f : Field w) : toLE w (ofLE f.1) = f := by
  obtain ⟨l, rfl⟩ := f
  exact Subtype.ext (leBytes_ofLE l)

section
variable {l m rest : List UInt8} {off n : Nat}

theorem fieldAt_val (h : off + n ≤ l.length) : (fieldAt l off n).1 = (l.drop off).take n := by
  refine List.takeD_eq_take _ ?_
  rw [List.length_drop]
  omega

theorem take_drop_append (h : off + n ≤ l.length) : ((l ++ m).drop off).take n = (l.drop off).take n := by
  rw [List.drop_append_of_le_length (by omega),
    List.take_append_of_le_length (by rw [List.length_drop]; omega)]

theorem fieldAt_append (h : off + n ≤ l.length) : fieldAt (l ++ m) off n = fieldAt l off n := by
  apply Subtype.ext
  rw [fieldAt_val h, fieldAt_val (by rw [List.length_append]; omega), take_drop_append h]

theorem fieldAt_eq {f : Field n} (h : l.drop off = f.1 ++ rest) : fieldAt l off n = f := by
  apply Subtype.ext
  show (l.drop off).takeD n 0 = f.1
  rw [h]
  exact List.takeD_left' f.2

end
end Bytes

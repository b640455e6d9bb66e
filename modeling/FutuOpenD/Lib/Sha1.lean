import FutuOpenD.Lib.Bytes
import FutuOpenD.Lib.Framing
import Mathlib.Data.List.GetD
import Mathlib.Tactic.IntervalCases

/-!
# The digest SHA-1 (FIPS 180)

The standard's own definition: the message is padded to whole blocks of 64 bytes (`pad`), each block
is spread out over eighty words (`schedule`), and eighty rounds mix them into five words of state
(`compress`). `hash_of_drains` is the rule by which an implementation that takes the message block by
block is compared with it.
-/

namespace Framing

/-- Cuts off the next `n` elements. -/
def blockCutter (β : Type*) (n : Nat) (hn : 0 < n) : StrictCutter β (List β) where
  cut l := if n ≤ l.length then some (l.take n, l.drop n) else none
  stable := by
    intro l o r m h
    obtain ⟨hle, h⟩ := Option.ite_none_right_eq_some.1 h
    cases h
    rw [if_pos (by rw [List.length_append]; omega), List.take_append_of_le_length hle,
      List.drop_append_of_le_length hle]
  shorter := by
    intro l o r h
    obtain ⟨hle, h⟩ := Option.ite_none_right_eq_some.1 h
    cases h
    rw [List.length_drop]
    omega

section
variable {β : Type*} {n : Nat} {hn : 0 < n} {l m r : List β} {os : List (List β)}

theorem blockCutter_drains_of_lt (h : l.length < n) : (blockCutter β n hn).Drains l [] l :=
  .stop (if_neg (Nat.not_le.2 h))

theorem blockCutter_drains_cons {b : List β} (hb : b.length = n) (h : (blockCutter β n hn).Drains l os r) :
    (blockCutter β n hn).Drains (b ++ l) (b :: os) r := by
  refine .next ?_ h
  show (if n ≤ (b ++ l).length then some ((b ++ l).take n, (b ++ l).drop n) else none) = _
  rw [if_pos (by rw [List.length_append]; omega), List.take_left' hb, List.drop_left' hb]

theorem blockCutter_rest_lt (h : (blockCutter β n hn).Drains l os r) : r.length < n := by
  by_contra hle
  have hrest : (if n ≤ r.length then some (r.take n, r.drop n) else none) = none := h.rest
  rw [if_pos (Nat.le_of_not_lt hle)] at hrest
  cases hrest

theorem blockCutter_length (h : (blockCutter β n hn).Drains l os r) : l.length = n * os.length + r.length := by
  induction h with
  | stop _ => simp
  | next h _ ih =>
    obtain ⟨hle, h⟩ := Option.ite_none_right_eq_some.1 h
    cases h
    rw [List.length_drop] at ih
    rw [List.length_cons, Nat.mul_succ]
    omega

theorem blockCutter_rest_length (h : (blockCutter β n hn).Drains l os r) : r.length = l.length % n := by
  rw [blockCutter_length h, Nat.mul_add_mod, Nat.mod_eq_of_lt (blockCutter_rest_lt h)]

end
end Framing

namespace Fips180
open Bytes Framing

/-- Rotation to the left by `n` bits. -/
def rotl (n : Nat) (x : UInt32) : UInt32 := ⟨x.toBitVec.rotateLeft n⟩

def ch (x y z : UInt32) : UInt32 := (x &&& y) ^^^ (~~~x &&& z)

def parity (x y z : UInt32) : UInt32 := x ^^^ y ^^^ z

def maj (x y z : UInt32) : UInt32 := (x &&& y) ^^^ (x &&& z) ^^^ (y &&& z)

/-- The function of round `t`. -/
def f (t : Nat) : UInt32 → UInt32 → UInt32 → UInt32 :=
  if t < 20 then ch else if t < 40 then parity else if t < 60 then maj else parity

/-- The constant of round `t`. -/
def k (t : Nat) : UInt32 :=
  if t < 20 then 0x5a827999 else if t < 40 then 0x6ed9eba1 else if t < 60 then 0x8f1bbcdc else 0xca62c1d6

/-- Five words: the working variables, or a hash value. -/
@[ext] structure Hash where
  a : UInt32
  b : UInt32
  c : UInt32
  d : UInt32
  e : UInt32
deriving DecidableEq

def Hash.init : Hash := ⟨0x67452301, 0xefcdab89, 0x98badcfe, 0x10325476, 0xc3d2e1f0⟩

def Hash.add (h v : Hash) : Hash := ⟨h.a + v.a, h.b + v.b, h.c + v.c, h.d + v.d, h.e + v.e⟩

/-- Round `t` with the word `w` of the schedule. -/
def round (t : Nat) (w : UInt32) (v : Hash) : Hash :=
  ⟨rotl 5 v.a + f t v.b v.c v.d + v.e + k t + w, v.a, rotl 30 v.b, v.c, v.d⟩

/-- The number that the bytes spell, the highest byte first. -/
def beWord (l : List UInt8) : UInt32 := UInt32.ofNat (ofLE l.reverse)

def beBytes (w n : Nat) : List UInt8 := (leBytes w n).reverse

/-- The sixteen words of a block. -/
def blockWords (block : List UInt8) : List UInt32 :=
  (List.range 16).map fun t => beWord (fieldAt block (4 * t) 4).1

/-- The words `ms` and `n` more. -/
def extend (ms : List UInt32) : Nat → List UInt32
  | 0 => ms
  | n + 1 =>
    let ws := extend ms n
    let back := fun i => ws.getD (ws.length - i) 0
    ws ++ [rotl 1 (back 3 ^^^ back 8 ^^^ back 14 ^^^ back 16)]

/-- The eighty words that a block is spread out over. -/
def schedule (block : List UInt8) : List UInt32 := extend (blockWords block) 64

def rounds (n : Nat) (block : List UInt8) (h : Hash) : Hash :=
  (List.range n).foldl (fun v t => round t ((schedule block).getD t 0) v) h

def compress (h : Hash) (block : List UInt8) : Hash := h.add (rounds 80 block h)

/-- The number of zero bytes behind the first byte of the padding of `n` bytes. -/
def padZeros (n : Nat) : Nat := (119 - n % 64) % 64

/-- The message, a one bit, zeros, and the length in bits. -/
def pad (message : List UInt8) : List UInt8 :=
  message ++ [0x80] ++ List.replicate (padZeros message.length) 0 ++ beBytes 8 (8 * message.length)

abbrev blocks : StrictCutter UInt8 (List UInt8) := blockCutter UInt8 64 (by decide)

def Hash.digest (h : Hash) : List UInt8 :=
  [h.a, h.b, h.c, h.d, h.e].flatMap fun w => beBytes 4 w.toNat

def hash (message : List UInt8) : List UInt8 :=
  ((blocks.parse (pad message)).1.foldl compress .init).digest

theorem length_beBytes (w n : Nat) : (beBytes w n).length = w := by
  rw [beBytes, List.length_reverse, length_leBytes]

theorem length_digest (h : Hash) : h.digest.length = 20 := by
  simp [Hash.digest, length_beBytes]

theorem hash_of_drains {message r : List UInt8} {os : List (List UInt8)} (h : blocks.Drains (pad message) os r) :
    hash message = (os.foldl compress .init).digest := by
  obtain ⟨ho, -⟩ := (blocks.parse_drains (pad message)).det h
  rw [hash, ho]

section
variable {ms : List UInt32} {n t : Nat} {block : List UInt8}

theorem length_extend (ms : List UInt32) (n : Nat) : (extend ms n).length = ms.length + n := by
  induction n with
  | zero => rfl
  | succ n ih =>
    rw [extend, List.length_append, ih, List.length_singleton]
    omega

/-- More words leave those that are there. -/
theorem extend_getD_of_le {n' : Nat} (h : t < ms.length + n) (hle : n ≤ n') :
    (extend ms n').getD t 0 = (extend ms n).getD t 0 := by
  induction hle with
  | refl => rfl
  | @step n' hle ih =>
    have hle' : n ≤ n' := hle
    rw [← ih, extend, List.getD_append]
    rw [length_extend]
    omega

theorem extend_getD_next :
    (extend ms (n + 1)).getD (ms.length + n) 0 =
      rotl 1 ((extend ms n).getD (ms.length + n - 3) 0 ^^^ (extend ms n).getD (ms.length + n - 8) 0 ^^^
        (extend ms n).getD (ms.length + n - 14) 0 ^^^ (extend ms n).getD (ms.length + n - 16) 0) := by
  rw [extend, List.getD_append_right _ _ _ _ (by rw [length_extend])]
  simp only [length_extend, Nat.sub_self, List.getD_cons_zero]

theorem schedule_of_lt (h : t < 16) : (schedule block).getD t 0 = beWord (fieldAt block (4 * t) 4).1 := by
  have hlen : (blockWords block).length = 16 := by simp [blockWords]
  rw [schedule, extend_getD_of_le (n := 0) (by omega) (Nat.zero_le _)]
  simp [extend, blockWords, h]

theorem schedule_of_ge (h : 16 ≤ t) (h' : t < 80) :
    (schedule block).getD t 0 = rotl 1 ((schedule block).getD (t - 3) 0 ^^^ (schedule block).getD (t - 8) 0 ^^^
      (schedule block).getD (t - 14) 0 ^^^ (schedule block).getD (t - 16) 0) := by
  have hlen : (blockWords block).length = 16 := by simp [blockWords]
  obtain ⟨n, rfl⟩ : ∃ n, t = (blockWords block).length + n := ⟨t - 16, by omega⟩
  have hback : ∀ i, 0 < i → i ≤ 16 → (schedule block).getD ((blockWords block).length + n - i) 0 =
      (extend (blockWords block) n).getD ((blockWords block).length + n - i) 0 := fun i hi hi' =>
    extend_getD_of_le (by omega) (by omega)
  rw [hback 3 (by omega) (by omega), hback 8 (by omega) (by omega), hback 14 (by omega) (by omega),
    hback 16 (by omega) (by omega), ← extend_getD_next]
  exact extend_getD_of_le (by omega) (by omega)

theorem rounds_succ (n : Nat) (block : List UInt8) (h : Hash) :
    rounds (n + 1) block h = round n ((schedule block).getD n 0) (rounds n block h) := by
  rw [rounds, List.range_succ, List.foldl_append]
  rfl

end

/-- A word in memory of a host that stores the lowest byte first. -/
theorem toBitVec_ofLE (b0 b1 b2 b3 : UInt8) :
    (UInt32.ofNat (ofLE [b0, b1, b2, b3])).toBitVec =
      b3.toBitVec ++ b2.toBitVec ++ b1.toBitVec ++ b0.toBitVec := by
  apply BitVec.eq_of_toNat_eq
  have hor : ∀ (a : Nat) (b : UInt8), a <<< 8 ||| b.toNat = a * 256 + b.toNat := fun a b => by
    rw [← Nat.shiftLeft_add_eq_or_of_lt b.toNat_lt, Nat.shiftLeft_eq]
  have h0 := b0.toNat_lt
  have h1 := b1.toNat_lt
  have h2 := b2.toNat_lt
  have h3 := b3.toNat_lt
  simp only [BitVec.toNat_append, UInt32.toNat_toBitVec, UInt32.toNat_ofNat', ofLE, UInt8.toNat_toBitVec, hor]
  omega

/-- Two rotations and two masks swap the bytes of a word. -/
theorem swap_bytes (b0 b1 b2 b3 : UInt8) :
    (rotl 24 (UInt32.ofNat (ofLE [b0, b1, b2, b3])) &&& 0xff00ff00) |||
        (rotl 8 (UInt32.ofNat (ofLE [b0, b1, b2, b3])) &&& 0x00ff00ff) = beWord [b0, b1, b2, b3] := by
  apply UInt32.toBitVec_inj.1
  show _ = (UInt32.ofNat (ofLE [b3, b2, b1, b0])).toBitVec
  rw [UInt32.toBitVec_or, UInt32.toBitVec_and, UInt32.toBitVec_and, rotl, rotl, toBitVec_ofLE, toBitVec_ofLE]
  apply BitVec.eq_of_getLsbD_eq
  intro i hi
  have hhigh : (UInt32.toBitVec 0xff00ff00).getLsbD i = decide (8 ≤ i % 16) := by
    revert i
    decide
  have hlow : (UInt32.toBitVec 0x00ff00ff).getLsbD i = decide (i % 16 < 8) := by
    revert i
    decide
  simp only [BitVec.getLsbD_or, BitVec.getLsbD_and, BitVec.getLsbD_rotateLeft, BitVec.getLsbD_append, hhigh, hlow]
  interval_cases i <;> simp

/-- `Ch` with one operation less. -/
theorem ch_eq (x y z : UInt32) : (x &&& (y ^^^ z)) ^^^ z = ch x y z := by
  apply UInt32.toBitVec_inj.1
  ext i hi
  simp only [ch, UInt32.toBitVec_xor, UInt32.toBitVec_and, UInt32.toBitVec_not, BitVec.getElem_xor,
    BitVec.getElem_and, BitVec.getElem_not]
  cases x.toBitVec[i] <;> cases y.toBitVec[i] <;> cases z.toBitVec[i] <;> rfl

theorem maj_eq (x y z : UInt32) : ((x ||| y) &&& z) ||| (x &&& y) = maj x y z := by
  apply UInt32.toBitVec_inj.1
  ext i hi
  simp only [maj, UInt32.toBitVec_xor, UInt32.toBitVec_and, UInt32.toBitVec_or, BitVec.getElem_xor,
    BitVec.getElem_and, BitVec.getElem_or]
  cases x.toBitVec[i] <;> cases y.toBitVec[i] <;> cases z.toBitVec[i] <;> rfl

end Fips180

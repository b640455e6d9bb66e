import FutuOpenD.Sha1

/-!
# `SHA1Transform` is the compression function

Two things move while the eighty macro calls run. The variables change their roles from one call to the
next (`Roles.next`), in place of the values that the standard moves. And the block is expanded in place:
before call `i` it holds the words of the schedule that the next calls look back to, and behind them the
words that no call has swapped yet (`Expanded`). `Sim` carries both from call to call.
-/

namespace FutuOpenD
open Bytes Fips180

namespace Sha1Work

@[simp] theorem get_setWord (s : Sha1Work) (i : Nat) (x : UInt32) (v : Sha1Var) :
    (s.setWord i x).get v = s.get v := by
  cases v <;> rfl

@[simp] theorem get_set_self (s : Sha1Work) (v : Sha1Var) (x : UInt32) : (s.set v x).get v = x := by
  cases v <;> rfl

theorem get_set_of_ne (s : Sha1Work) {v w : Sha1Var} (h : v ≠ w) (x : UInt32) :
    (s.set w x).get v = s.get v := by
  cases v <;> cases w <;> first | rfl | exact absurd rfl h

@[simp] theorem l_set (s : Sha1Work) (v : Sha1Var) (x : UInt32) : (s.set v x).l = s.l := by
  cases v <;> rfl

theorem word_eq (s : Sha1Work) (i : Nat) : s.word i = s.l.getD (i % 16) 0 := by
  rw [word, ← Nat.and_two_pow_sub_one_eq_mod i 4]

theorem l_setWord (s : Sha1Work) (i : Nat) (x : UInt32) : (s.setWord i x).l = s.l.set (i % 16) x := by
  rw [setWord, ← Nat.and_two_pow_sub_one_eq_mod i 4]

end Sha1Work

namespace Sha1

/-- The variables in the order in which a macro call takes them. -/
structure Roles where
  v : Sha1Var
  w : Sha1Var
  x : Sha1Var
  y : Sha1Var
  z : Sha1Var
  nodup : [v, w, x, y, z].Nodup

/-- The variable that a call gives a new value to comes first in the next call. -/
def Roles.next (r : Roles) : Roles :=
  ⟨r.z, r.v, r.w, r.x, r.y, (@List.perm_append_comm _ [r.v, r.w, r.x, r.y] [r.z]).nodup_iff.1 r.nodup⟩

def roles : Nat → Roles
  | 0 => ⟨.a, .b, .c, .d, .e, by decide⟩
  | i + 1 => (roles i).next

/-- The macro of call `i`. -/
def macroOf (i : Nat) : Sha1Var → Sha1Var → Sha1Var → Sha1Var → Sha1Var → Nat → Sha1Work → Sha1Work :=
  if i < 16 then r0 else if i < 20 then r1 else if i < 40 then r2 else if i < 60 then r3 else r4

def call (i : Nat) : Sha1Work → Sha1Work :=
  let r := roles i
  macroOf i r.v r.w r.x r.y r.z i

set_option maxRecDepth 4000 in
theorem rounds_eq : rounds = (List.range 80).map call := rfl

/-- The variables hold the working variables of the standard. -/
structure Holds (s : Sha1Work) (r : Roles) (h : Hash) : Prop where
  a : s.get r.v = h.a
  b : s.get r.w = h.b
  c : s.get r.x = h.c
  d : s.get r.y = h.d
  e : s.get r.z = h.e

/-- The words of the block before call `i`. -/
structure Expanded (block : List UInt8) (i : Nat) (l : List UInt32) : Prop where
  length : l.length = 16
  done : ∀ t, t < i → i ≤ t + 16 → l.getD (t % 16) 0 = (schedule block).getD t 0
  raw : ∀ t, i ≤ t → t < 16 → l.getD t 0 = u32At block (4 * t)

structure Sim (block : List UInt8) (h : Hash) (i : Nat) (s : Sha1Work) : Prop where
  vars : Holds s (roles i) (Fips180.rounds i block h)
  words : Expanded block i s.l

theorem rol_eq (x : UInt32) : rol x 1 = rotl 1 x ∧ rol x 5 = rotl 5 x ∧ rol x 8 = rotl 8 x ∧
    rol x 24 = rotl 24 x ∧ rol x 30 = rotl 30 x :=
  ⟨rfl, rfl, rfl, rfl, rfl⟩

section
variable {block : List UInt8} {l : List UInt32} {i : Nat} {s : Sha1Work} {h : Hash}

theorem Expanded.next (hl : Expanded block i l) {x : UInt32} (hx : x = (schedule block).getD i 0) :
    Expanded block (i + 1) (l.set (i % 16) x) := by
  have hset : ∀ t, t % 16 ≠ i % 16 → (l.set (i % 16) x).getD (t % 16) 0 = l.getD (t % 16) 0 := by
    intro t ht
    simp only [List.getD_eq_getElem?_getD, List.getElem?_set, if_neg ht.symm]
  refine ⟨by rw [List.length_set, hl.length], ?_, ?_⟩
  · intro t ht hle
    rcases Nat.lt_succ_iff_lt_or_eq.1 ht with hlt | rfl
    · rw [hset t (by omega), hl.done t hlt (by omega)]
    · rw [← hx, List.getD_eq_getElem?_getD, List.getElem?_set_self (by rw [hl.length]; omega)]
      rfl
  · intro t ht hlt
    have hmod : t % 16 = t := Nat.mod_eq_of_lt hlt
    have hne : t % 16 ≠ i % 16 := by omega
    have hraw := hset t hne
    rw [hmod] at hraw
    rw [hraw, hl.raw t (by omega) hlt]

theorem swap_u32At (off : Nat) :
    (rol (u32At block off) 24 &&& 0xFF00FF00) ||| (rol (u32At block off) 8 &&& 0x00FF00FF) =
      beWord (fieldAt block off 4).1 := by
  have hlen := (fieldAt block off 4).2
  rw [u32At]
  generalize (fieldAt block off 4).1 = bytes at hlen ⊢
  rcases bytes with _ | ⟨b0, _ | ⟨b1, _ | ⟨b2, _ | ⟨b3, _ | ⟨b4, bytes⟩⟩⟩⟩⟩
  · simp at hlen
  · simp at hlen
  · simp at hlen
  · simp at hlen
  · exact swap_bytes b0 b1 b2 b3
  · simp at hlen

theorem Expanded.blk0 (hl : Expanded block i s.l) (hi : i < 16) : Expanded block (i + 1) (blk0 i s).l := by
  rw [Sha1.blk0, Sha1Work.l_setWord]
  refine hl.next ?_
  rw [Sha1Work.word_eq, Nat.mod_eq_of_lt hi, hl.raw i (Nat.le_refl i) hi, swap_u32At, schedule_of_lt hi]

theorem Expanded.blk (hl : Expanded block i s.l) (hi : 16 ≤ i) (hi' : i < 80) :
    Expanded block (i + 1) (blk i s).l := by
  rw [Sha1.blk, Sha1Work.l_setWord]
  refine hl.next ?_
  have hback : ∀ n m, n + m = 16 → 0 < m → s.word (i + n) = (schedule block).getD (i - m) 0 := by
    intro n m hnm hm
    have hmod : (i + n) % 16 = (i - m) % 16 := by omega
    rw [Sha1Work.word_eq, hmod]
    exact hl.done (i - m) (by omega) (by omega)
  rw [hback 13 3 rfl (by omega), hback 8 8 rfl (by omega), hback 2 14 rfl (by omega),
    show s.word i = _ from hback 0 16 rfl (by omega), schedule_of_ge hi hi']
  rfl

/-- What `R0` to `R4` do with the variables. -/
theorem Holds.roundMacro {r : Roles} {g : UInt32 → UInt32 → UInt32 → UInt32}
    {expand : Nat → Sha1Work → Sha1Work} (hs : Holds s r h) (hg : g = f i)
    (hexp : ∀ v, (expand i s).get v = s.get v) :
    Holds (roundMacro g (k i) expand r.v r.w r.x r.y r.z i s) r.next (round i ((expand i s).word i) h) := by
  obtain ⟨v, w, x, y, z, hnd⟩ := r
  obtain ⟨ha, hb, hc, hd, he⟩ := hs
  simp only [List.nodup_cons, List.mem_cons, List.not_mem_nil, or_false, not_or] at hnd
  obtain ⟨⟨hvw, hvx, hvy, hvz⟩, ⟨hwx, hwy, hwz⟩, ⟨hxy, hxz⟩, hyz, -⟩ := hnd
  dsimp only at ha hb hc hd he
  refine ⟨?_, ?_, ?_, ?_, ?_⟩
  · -- the new value, with its summands in the other order
    show (((expand i s).set z _).set w _).get z = _
    rw [Sha1Work.get_set_of_ne _ (Ne.symm hwz), Sha1Work.get_set_self, hexp, hexp, hexp, hexp, hexp, ha, hb,
      hc, hd, he, hg, (rol_eq _).2.1, Fips180.round]
    ac_rfl
  · show (((expand i s).set z _).set w _).get v = _
    rw [Sha1Work.get_set_of_ne _ hvw, Sha1Work.get_set_of_ne _ hvz, hexp, ha]
    rfl
  · show (((expand i s).set z _).set w _).get w = _
    rw [Sha1Work.get_set_self, Sha1Work.get_set_of_ne _ hwz, hexp, hb]
    rfl
  · show (((expand i s).set z _).set w _).get x = _
    rw [Sha1Work.get_set_of_ne _ (Ne.symm hwx), Sha1Work.get_set_of_ne _ hxz, hexp, hc]
    rfl
  · show (((expand i s).set z _).set w _).get y = _
    rw [Sha1Work.get_set_of_ne _ (Ne.symm hwy), Sha1Work.get_set_of_ne _ hyz, hexp, hd]
    rfl

/-- A macro call keeps the simulation when its function and its constant are those of the round. -/
theorem Sim.roundMacro {g : UInt32 → UInt32 → UInt32 → UInt32} {c : UInt32}
    {expand : Nat → Sha1Work → Sha1Work} (hs : Sim block h i s) (hg : g = f i) (hc : c = k i)
    (hexp : ∀ v, (expand i s).get v = s.get v) (hw : Expanded block (i + 1) (expand i s).l) :
    Sim block h (i + 1) (roundMacro g c expand (roles i).v (roles i).w (roles i).x (roles i).y (roles i).z i s) := by
  refine ⟨?_, ?_⟩
  · have hword : (expand i s).word i = (schedule block).getD i 0 := by
      rw [Sha1Work.word_eq]
      exact hw.done i (Nat.lt_succ_self i) (by omega)
    have hnext := hs.vars.roundMacro hg hexp
    rw [hword, ← rounds_succ] at hnext
    rw [hc]
    exact hnext
  · rw [Sha1.roundMacro]
    simpa using hw

theorem f_of_lt (hi : i < 20) : (fun w x y => (w &&& (x ^^^ y)) ^^^ y) = f i := by
  funext w x y
  rw [f, if_pos hi, ch_eq]

theorem Sim.call (hs : Sim block h i s) (hi : i < 80) : Sim block h (i + 1) (call i s) := by
  have hblk : 16 ≤ i → Expanded block (i + 1) (blk i s).l := fun hge => hs.words.blk hge hi
  rw [Sha1.call, macroOf]
  split_ifs with h16 h20 h40 h60
  · exact hs.roundMacro (f_of_lt (by omega)) (by rw [k, if_pos (by omega)]) (by simp [blk0])
      (hs.words.blk0 h16)
  · exact hs.roundMacro (f_of_lt h20) (by rw [k, if_pos h20]) (by simp [blk]) (hblk (by omega))
  · exact hs.roundMacro (by rw [f, if_neg h20, if_pos h40]; rfl) (by rw [k, if_neg h20, if_pos h40])
      (by simp [blk]) (hblk (by omega))
  · refine hs.roundMacro ?_ (by rw [k, if_neg h20, if_neg h40, if_pos h60]) (by simp [blk]) (hblk (by omega))
    funext w x y
    rw [f, if_neg h20, if_neg h40, if_pos h60, maj_eq]
  · exact hs.roundMacro (by rw [f, if_neg h20, if_neg h40, if_neg h60]; rfl)
      (by rw [k, if_neg h20, if_neg h40, if_neg h60]) (by simp [blk]) (hblk (by omega))

theorem Sim.calls (hs : Sim block h 0 s) {n : Nat} (hn : n ≤ 80) :
    Sim block h n (((List.range n).map Sha1.call).foldl (fun s round => round s) s) := by
  induction n with
  | zero => exact hs
  | succ n ih =>
    rw [List.range_succ, List.map_append, List.foldl_append]
    exact (ih (by omega)).call (by omega)

end
end Sha1

/-- `state[5]` as a hash value of the standard. -/
def Sha1State.hash (s : Sha1State) : Hash := ⟨s.s0, s.s1, s.s2, s.s3, s.s4⟩

/-- Before the first call. -/
theorem Sha1.Sim.start (state : Sha1State) (buffer : Field 64) :
    Sim buffer.1 state.hash 0 ⟨state.s0, state.s1, state.s2, state.s3, state.s4, loadBlock buffer⟩ := by
  refine ⟨⟨rfl, rfl, rfl, rfl, rfl⟩, by simp [loadBlock], ?_, ?_⟩
  · intro t ht
    omega
  · intro t _ ht
    simp [loadBlock, ht]

theorem hash_sha1Transform (state : Sha1State) (buffer : Field 64) :
    (sha1Transform state buffer).hash = compress state.hash buffer.1 := by
  have hend := (Sha1.Sim.start state buffer).calls (Nat.le_refl 80)
  rw [← Sha1.rounds_eq] at hend
  obtain ⟨ha, hb, hc, hd, he⟩ := hend.vars
  rw [compress, Hash.add, ← ha, ← hb, ← hc, ← hd, ← he]
  rfl

end FutuOpenD

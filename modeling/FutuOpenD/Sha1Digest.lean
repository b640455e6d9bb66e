import FutuOpenD.Sha1Transform

/-!
# `SHA1` computes the digest of the standard

`Absorbed total os r c` says what a context stands for: `total` are the bytes it took in, `os` the whole
blocks of them, which are mixed into the state, and `r` the bytes behind, which wait in the buffer.
`sha1Update` keeps it (`Absorbed.update`) as long as the bytes that wait and those that come are fewer
than 2^32; with more the sum `j + len` wraps and the bytes are copied beyond the buffer.
-/

namespace FutuOpenD
open Bytes Framing Fips180

/-- A call of `SHA1Update` for each piece. -/
def sha1Updates (pieces : List (List UInt8)) (context : Sha1Ctx) : Option Sha1Ctx :=
  pieces.foldlM (fun context data => sha1Update context data (UInt32.ofNat data.length)) context

/-- Behind `n` bytes, no piece makes the sum `j + len` wrap. -/
def NoWrap : Nat → List (List UInt8) → Prop
  | _, [] => True
  | n, data :: pieces => n % 64 + data.length < 2 ^ 32 ∧ NoWrap (n + data.length) pieces

structure Absorbed (total : List UInt8) (os : List (List UInt8)) (r : List UInt8) (c : Sha1Ctx) : Prop where
  count : c.count0.toNat + 2 ^ 32 * c.count1.toNat = 8 * total.length % 2 ^ 64
  drains : blocks.Drains total os r
  state : c.state.hash = os.foldl compress .init
  buffer : c.buffer.1.take r.length = r

theorem absorbed_sha1Init (garbage : Field 64) : Absorbed [] [] [] (sha1Init garbage) :=
  ⟨rfl, blockCutter_drains_of_lt (by decide), rfl, rfl⟩

theorem memcpy_spec {buffer : Field 64} {r : List UInt8} (bytes : List UInt8) (hr : buffer.1.take r.length = r)
    (h : r.length + bytes.length ≤ 64) :
    ∃ b, memcpy buffer r.length bytes = some b ∧ b.1.take (r ++ bytes).length = r ++ bytes := by
  refine ⟨_, dif_pos h, ?_⟩
  dsimp only
  rw [store, hr, List.take_left]

section
variable {data : List UInt8} {len i : UInt32} {n j : Nat} {state : Sha1State}

/-- The loop takes the whole blocks of the data behind `i`. -/
theorem sha1UpdateLoop_spec (hlen : data.length = len.toNat) (hj : j + len.toNat < 2 ^ 32)
    (hmod : (i.toNat + j) % 64 = 0) (hi : i.toNat ≤ len.toNat) (hn : len.toNat < i.toNat + 64 * n) :
    ∃ i' state' os, sha1UpdateLoop data len n i state = some (i', state') ∧ i'.toNat ≤ len.toNat ∧
      blocks.Drains (data.drop i.toNat) os (data.drop i'.toNat) ∧
      state'.hash = os.foldl compress state.hash := by
  induction n generalizing i state with
  | zero => omega
  | succ n ih =>
    have h63 : (i + 63).toNat = i.toNat + 63 := by
      rw [UInt32.toNat_add]
      exact Nat.mod_eq_of_lt (by show i.toNat + 63 < 2 ^ 32; omega)
    rw [sha1UpdateLoop]
    by_cases hlt : i + 63 < len
    · have hlt' : i.toNat + 63 < len.toNat := by rwa [UInt32.lt_iff_toNat_lt, h63] at hlt
      have h64 : (i + 64).toNat = i.toNat + 64 := by
        rw [UInt32.toNat_add]
        exact Nat.mod_eq_of_lt (by show i.toNat + 64 < 2 ^ 32; omega)
      obtain ⟨i', state', os, hrun, hi', hd, hs⟩ :=
        @ih (i + 64) (sha1Transform state (fieldAt data i.toNat 64)) (by omega) (by omega) (by omega)
      refine ⟨i', state', (fieldAt data i.toNat 64).1 :: os, by rw [if_pos hlt, hrun], hi', ?_, ?_⟩
      · have hcut : data.drop i.toNat = (fieldAt data i.toNat 64).1 ++ data.drop (i.toNat + 64) := by
          rw [fieldAt_val (by omega), ← List.drop_drop, List.take_append_drop]
        rw [hcut]
        rw [h64] at hd
        exact blockCutter_drains_cons (fieldAt data i.toNat 64).2 hd
      · rw [hs, hash_sha1Transform, List.foldl_cons]
    · have hge : len.toNat ≤ i.toNat + 63 := by
        rw [UInt32.lt_iff_toNat_lt, h63] at hlt
        omega
      refine ⟨i, state, [], by rw [if_neg hlt], hi, blockCutter_drains_of_lt ?_, rfl⟩
      rw [List.length_drop]
      omega

end

section
variable {total r data : List UInt8} {os : List (List UInt8)} {c : Sha1Ctx} {len : UInt32}

theorem Absorbed.length_rest (h : Absorbed total os r c) : r.length = total.length % 64 :=
  blockCutter_rest_length h.drains

/-- `j` is the number of bytes in the buffer. -/
theorem Absorbed.toNat_j (h : Absorbed total os r c) : ((c.count0 >>> 3) &&& 63).toNat = r.length := by
  have hc := h.count
  rw [h.length_rest, UInt32.toNat_and, UInt32.toNat_shiftRight]
  show (c.count0.toNat >>> 3) &&& (2 ^ 6 - 1) = _
  rw [Nat.and_two_pow_sub_one_eq_mod, Nat.shiftRight_eq_div_pow]
  omega

/-- The 64-bit counter in two words. -/
theorem count_add {c0 c1 : UInt32} {n : Nat} (h : c0.toNat + 2 ^ 32 * c1.toNat = 8 * n % 2 ^ 64) (len : UInt32) :
    (c0 + (len <<< 3)).toNat +
        2 ^ 32 * ((if c0 + (len <<< 3) < c0 then c1 + 1 else c1) + (len >>> 29)).toNat =
      8 * (n + len.toNat) % 2 ^ 64 := by
  have hlen := len.toNat_lt
  have h0 := c0.toNat_lt
  have h1 := c1.toNat_lt
  have hshl : (len <<< 3).toNat = 8 * len.toNat % 2 ^ 32 := by
    rw [UInt32.toNat_shiftLeft]
    show len.toNat <<< 3 % 2 ^ 32 = _
    rw [Nat.shiftLeft_eq, Nat.mul_comm]
  have hshr : (len >>> 29).toNat = len.toNat / 2 ^ 29 := by
    rw [UInt32.toNat_shiftRight]
    exact Nat.shiftRight_eq_div_pow _ _
  split_ifs with hcarry
  · rw [UInt32.lt_iff_toNat_lt, UInt32.toNat_add, hshl] at hcarry
    rw [UInt32.toNat_add, UInt32.toNat_add, UInt32.toNat_add, hshl, hshr, UInt32.toNat_one]
    omega
  · rw [UInt32.lt_iff_toNat_lt, UInt32.toNat_add, hshl] at hcarry
    rw [UInt32.toNat_add, UInt32.toNat_add, hshl, hshr]
    omega

theorem Absorbed.update (h : Absorbed total os r c) (hlen : data.length = len.toNat)
    (hfit : r.length + len.toNat < 2 ^ 32) :
    ∃ c' os' r', sha1Update c data len = some c' ∧ Absorbed (total ++ data) os' r' c' := by
  have hj := h.toNat_j
  have hr : r.length < 64 := blockCutter_rest_lt h.drains
  have hcount := count_add h.count len
  rw [← hlen, ← List.length_append] at hcount
  have hsum : ((c.count0 >>> 3 &&& 63) + len).toNat = r.length + len.toNat := by
    rw [UInt32.toNat_add, hj, Nat.mod_eq_of_lt hfit]
  rw [sha1Update]
  dsimp only
  by_cases hgt : (c.count0 >>> 3 &&& 63) + len > 63
  · -- the buffer is filled up and mixed in, the whole blocks of the data follow
    have hgt' : 63 < r.length + len.toNat := by
      rw [gt_iff_lt, UInt32.lt_iff_toNat_lt, hsum] at hgt
      exact hgt
    have hi : ((64 : UInt32) - (c.count0 >>> 3 &&& 63)).toNat = 64 - r.length := by
      rw [UInt32.toNat_sub_of_le]
      · rw [hj]; rfl
      · rw [UInt32.le_iff_toNat_le, hj]
        exact Nat.le_of_lt hr
    have htake : (data.take (64 - r.length)).length = 64 - r.length := by
      rw [List.length_take]
      omega
    obtain ⟨b, hb, hbuf⟩ := memcpy_spec (data.take (64 - r.length)) h.buffer (by omega)
    have hbuf' : b.1 = r ++ data.take (64 - r.length) := by
      rw [← hbuf, List.take_of_length_le]
      rw [b.2, List.length_append]
      omega
    obtain ⟨i', state', os', hrun, hi', hd, hs⟩ :=
      @sha1UpdateLoop_spec data len ((64 : UInt32) - (c.count0 >>> 3 &&& 63)) (len.toNat / 64 + 1) r.length
        (sha1Transform c.state b) hlen hfit (by rw [hi]; omega) (by omega) (by omega)
    have hrest : (data.drop i'.toNat).take (len - i').toNat = data.drop i'.toNat := by
      refine List.take_of_length_le ?_
      rw [List.length_drop, UInt32.toNat_sub_of_le _ _ (UInt32.le_iff_toNat_le.2 hi')]
      omega
    obtain ⟨b', hb', hbuf''⟩ := memcpy_spec (data.drop i'.toNat)
      (show b.1.take ([] : List UInt8).length = [] from rfl) (by
        have hlt : (data.drop i'.toNat).length < 64 := blockCutter_rest_lt hd
        simp only [List.length_nil]
        omega)
    rw [if_pos hgt, hj, hi, hb]
    simp only [Option.bind_eq_bind, Option.bind_some, hrun, hrest]
    rw [show memcpy b 0 (data.drop i'.toNat) = some b' from hb']
    refine ⟨_, os ++ b.1 :: os', data.drop i'.toNat, rfl, hcount, ?_, ?_, hbuf''⟩
    · refine h.drains.append ?_
      have hsplit : r ++ data = b.1 ++ data.drop (64 - r.length) := by
        rw [hbuf', List.append_assoc, List.take_append_drop]
      rw [hsplit]
      rw [hi] at hd
      exact blockCutter_drains_cons b.2 hd
    · rw [hs, hash_sha1Transform, h.state, List.foldl_append, List.foldl_cons]
  · -- everything stays in the buffer
    have hle : r.length + len.toNat ≤ 63 := by
      rw [gt_iff_lt, UInt32.lt_iff_toNat_lt, hsum] at hgt
      exact Nat.le_of_not_lt hgt
    obtain ⟨b, hb, hbuf⟩ := memcpy_spec data h.buffer (by omega)
    rw [if_neg hgt, hj, ← hlen, List.take_length, hb]
    refine ⟨_, os, r ++ data, rfl, hcount, ?_, h.state, hbuf⟩
    have hd := h.drains.append (m := data) (blockCutter_drains_of_lt (by rw [List.length_append]; omega))
    rwa [List.append_nil] at hd

/-- Beyond that the sum `j + len` wraps and everything is copied into the buffer. -/
theorem Absorbed.update_overrun (h : Absorbed total os r c) (hlen : data.length = len.toNat)
    (hfit : 2 ^ 32 ≤ r.length + len.toNat) : sha1Update c data len = none := by
  have hj := h.toNat_j
  have hr : r.length < 64 := blockCutter_rest_lt h.drains
  have hlt := len.toNat_lt
  have hsum : ¬ (c.count0 >>> 3 &&& 63) + len > 63 := by
    rw [gt_iff_lt, UInt32.lt_iff_toNat_lt, UInt32.toNat_add, hj]
    show ¬ 63 < _
    omega
  rw [sha1Update]
  dsimp only
  rw [if_neg hsum, hj, ← hlen, List.take_length, memcpy, dif_neg (by omega)]
  rfl

end

/-- One byte always fits. -/
theorem Absorbed.update_short {total r : List UInt8} {os : List (List UInt8)} {c : Sha1Ctx}
    (h : Absorbed total os r c) (data : List UInt8) (len : UInt32) (hlen : data.length = len.toNat) (hle : data.length ≤ 64) :
    ∃ c' os' r', sha1Update c data len = some c' ∧ Absorbed (total ++ data) os' r' c' := by
  have hr : r.length < 64 := blockCutter_rest_lt h.drains
  exact h.update hlen (by omega)

theorem and_504 (x : Nat) : x &&& 504 = 8 * (x / 8 % 64) := by
  have hsmall : ∀ y < 512, y &&& 504 = 8 * (y / 8 % 64) := by decide +kernel
  have hmod : x &&& 504 = x % 512 &&& 504 := by
    rw [← Nat.and_two_pow_sub_one_eq_mod x 9, Nat.and_assoc]
    rfl
  rw [hmod, hsmall _ (Nat.mod_lt _ (by omega))]
  omega

/-- The loop adds zeros until there is room for the count and for nothing else. -/
theorem sha1PadLoop_spec {total r : List UInt8} {os : List (List UInt8)} {c : Sha1Ctx} {n z : Nat}
    (h : Absorbed total os r c) (hz : (total.length + z) % 64 = 56) (hlt : z < 64) (hn : z < n) :
    ∃ c' os' r', sha1PadLoop n c = some c' ∧ Absorbed (total ++ List.replicate z 0) os' r' c' := by
  have hcond : ∀ {total r : List UInt8} {os : List (List UInt8)} {c : Sha1Ctx}, Absorbed total os r c →
      (c.count0 &&& 504 ≠ 448 ↔ total.length % 64 ≠ 56) := by
    intro total r os c h
    have hc := h.count
    rw [ne_eq, ← UInt32.toNat_inj, UInt32.toNat_and]
    show ¬ c.count0.toNat &&& 504 = 448 ↔ _
    rw [and_504]
    omega
  induction n generalizing total os r c z with
  | zero => omega
  | succ n ih =>
    rw [sha1PadLoop]
    rcases Nat.eq_zero_or_pos z with rfl | hpos
    · rw [if_neg (by rw [hcond h]; omega)]
      exact ⟨c, os, r, rfl, by simpa using h⟩
    · obtain ⟨c', os', r', hc', h'⟩ := h.update_short [0] 1 rfl (by simp)
      obtain ⟨c'', os'', r'', hc'', h''⟩ := ih (z := z - 1) h'
        (by rw [List.length_append, List.length_singleton]; omega) (by omega) (by omega)
      refine ⟨c'', os'', r'', ?_, ?_⟩
      · rw [if_pos (by rw [hcond h]; omega), hc']
        exact hc''
      · have hzeros : List.replicate z (0 : UInt8) = [0] ++ List.replicate (z - 1) 0 := by
          rw [List.singleton_append, ← List.replicate_succ, Nat.sub_add_cancel hpos]
        rw [hzeros, ← List.append_assoc]
        exact h''

/-- A byte of a word. -/
theorem toUInt8_shift (x : UInt32) {m : Nat} (hm : m < 4) :
    ((x >>> UInt32.ofNat (m * 8)) &&& 255).toUInt8 = UInt8.ofNat (x.toNat / 256 ^ m) := by
  apply UInt8.toNat_inj.1
  have hsh : (UInt32.ofNat (m * 8)).toNat % 32 = m * 8 := by
    rw [UInt32.toNat_ofNat']
    omega
  rw [UInt32.toNat_toUInt8, UInt32.toNat_and, UInt32.toNat_shiftRight, hsh, UInt8.toNat_ofNat',
    Nat.shiftRight_eq_div_pow, Nat.mul_comm m 8, Nat.pow_mul]
  show (_ &&& (2 ^ 8 - 1)) % 2 ^ 8 = _
  rw [Nat.and_two_pow_sub_one_eq_mod, Nat.mod_mod]

theorem beBytes_word (x : UInt32) :
    (List.range 4).map (fun i => ((x >>> UInt32.ofNat ((3 - i) * 8)) &&& 255).toUInt8) = beBytes 4 x.toNat := by
  have hbyte := fun m hm => toUInt8_shift x (m := m) hm
  simp only [List.range_succ, List.range_zero, List.nil_append, List.cons_append, List.map_cons, List.map_nil,
    hbyte (3 - 0) (by omega), hbyte (3 - 1) (by omega), hbyte (3 - 2) (by omega), hbyte (3 - 3) (by omega),
    beBytes, leBytes, List.reverse_cons, List.reverse_nil, Nat.div_div_eq_div_mul]
  simp

theorem Absorbed.finalCount {total r : List UInt8} {os : List (List UInt8)} {c : Sha1Ctx}
    (h : Absorbed total os r c) : finalCount c = beBytes 8 (8 * total.length) := by
  have hsplit : beBytes 8 (c.count0.toNat + 2 ^ 32 * c.count1.toNat) =
      beBytes 4 c.count1.toNat ++ beBytes 4 c.count0.toNat := by
    have h0 := c.count0.toNat_lt
    have hhigh : (c.count0.toNat + 2 ^ 32 * c.count1.toNat) / 256 ^ 4 = c.count1.toNat := by omega
    have hlow : (c.count0.toNat + 2 ^ 32 * c.count1.toNat) % 256 ^ 4 = c.count0.toNat := by omega
    rw [beBytes, leBytes_add 4 4, ← leBytes_mod 4, hhigh, hlow, List.reverse_append]
    rfl
  calc FutuOpenD.finalCount c = beBytes 4 c.count1.toNat ++ beBytes 4 c.count0.toNat := by
        rw [← beBytes_word, ← beBytes_word]
        rfl
    _ = beBytes 8 (8 * total.length % 256 ^ 8) := by
        rw [← hsplit, h.count]
        rfl
    _ = beBytes 8 (8 * total.length) := by
        rw [beBytes, leBytes_mod]
        rfl

theorem sha1Digest_eq (state : Sha1State) : sha1Digest state = state.hash.digest := by
  have hword := fun x : UInt32 => beBytes_word x
  simp only [Hash.digest, List.flatMap_cons, List.flatMap_nil, ← hword]
  rfl

/-- `SHA1Final` pads as the standard says. -/
theorem Absorbed.final {total r : List UInt8} {os : List (List UInt8)} {c : Sha1Ctx}
    (h : Absorbed total os r c) : sha1Final c = some (Fips180.hash total) := by
  obtain ⟨c₁, os₁, r₁, hc₁, h₁⟩ := h.update_short [0x80] 1 rfl (by simp)
  obtain ⟨c₂, os₂, r₂, hc₂, h₂⟩ := sha1PadLoop_spec (n := 64) (z := padZeros total.length) h₁
    (by rw [List.length_append, List.length_singleton, padZeros]; omega) (by rw [padZeros]; omega)
    (by rw [padZeros]; omega)
  have hlen : (FutuOpenD.finalCount c).length = 8 := by simp [FutuOpenD.finalCount]
  obtain ⟨c₃, os₃, r₃, hc₃, h₃⟩ := h₂.update_short (FutuOpenD.finalCount c) 8 hlen (by omega)
  rw [sha1Final]
  simp only [Option.bind_eq_bind, hc₁, hc₂, hc₃, Option.bind_some]
  have hd := h₃.drains
  rw [h.finalCount] at hd
  rw [sha1Digest_eq, h₃.state, hash_of_drains hd]

section
variable {total r : List UInt8} {os pieces : List (List UInt8)} {c : Sha1Ctx}

theorem Absorbed.updates (h : Absorbed total os r c) (hlen : ∀ data ∈ pieces, data.length < 2 ^ 32)
    (hfit : NoWrap total.length pieces) :
    ∃ c' os' r', sha1Updates pieces c = some c' ∧ Absorbed (total ++ pieces.flatten) os' r' c' := by
  induction pieces generalizing total os r c with
  | nil => exact ⟨c, os, r, rfl, by simpa using h⟩
  | cons data pieces ih =>
    obtain ⟨hdata, hlen⟩ := List.forall_mem_cons.1 hlen
    obtain ⟨hwrap, hfit⟩ := hfit
    have hnat : data.length = (UInt32.ofNat data.length).toNat := (UInt32.toNat_ofNat_of_lt' hdata).symm
    obtain ⟨c', os', r', hc', h'⟩ := h.update hnat (by rw [h.length_rest, ← hnat]; exact hwrap)
    rw [← List.length_append] at hfit
    obtain ⟨c'', os'', r'', hc'', h''⟩ := ih h' hlen hfit
    refine ⟨c'', os'', r'', ?_, by rwa [List.flatten_cons, ← List.append_assoc]⟩
    rw [sha1Updates, List.foldlM_cons, hc']
    exact hc''

theorem Absorbed.updates_wrap (h : Absorbed total os r c) (hlen : ∀ data ∈ pieces, data.length < 2 ^ 32)
    (hfit : ¬ NoWrap total.length pieces) : sha1Updates pieces c = none := by
  induction pieces generalizing total os r c with
  | nil => exact absurd trivial hfit
  | cons data pieces ih =>
    obtain ⟨hdata, hlen⟩ := List.forall_mem_cons.1 hlen
    have hnat : data.length = (UInt32.ofNat data.length).toNat := (UInt32.toNat_ofNat_of_lt' hdata).symm
    rw [sha1Updates, List.foldlM_cons]
    by_cases hwrap : total.length % 64 + data.length < 2 ^ 32
    · obtain ⟨c', os', r', hc', h'⟩ := h.update hnat (by rw [h.length_rest, ← hnat]; exact hwrap)
      rw [hc']
      refine ih h' hlen fun hfit' => hfit ⟨hwrap, ?_⟩
      rwa [List.length_append] at hfit'
    · rw [h.update_overrun hnat (by rw [h.length_rest, ← hnat]; omega)]
      rfl

end

theorem noWrap_bytes (str : List UInt8) (n : Nat) : NoWrap n (str.map fun b => [b]) := by
  induction str generalizing n with
  | nil => trivial
  | cons b str ih => exact ⟨by rw [List.length_singleton]; omega, ih _⟩

theorem sha1Bytes_eq (str : List UInt8) (c : Sha1Ctx) :
    sha1Bytes str c = sha1Updates (str.map fun b => [b]) c := by
  induction str generalizing c with
  | nil => rfl
  | cons b str ih =>
    rw [sha1Bytes, List.map_cons, sha1Updates, List.foldlM_cons]
    exact congrArg _ (funext ih)

theorem sha1_of_take (garbage : Field 64) {str bytes : List UInt8} {len : Int32}
    (hbytes : str.take len.toInt.toNat = bytes) : sha1 garbage str len = some (Fips180.hash bytes) := by
  obtain ⟨c, os, r, hc, h⟩ := (absorbed_sha1Init garbage).updates
    (show ∀ b ∈ bytes.map fun b => [b], b.length < 2 ^ 32 by simp) (noWrap_bytes bytes 0)
  rw [sha1, hbytes, sha1Bytes_eq, hc, Option.bind_some, h.final, List.nil_append, ← List.flatMap_def,
    List.flatMap_singleton']

/-- `SHA1` is the digest of the standard, whatever the context on the stack held before. -/
theorem sha1_eq_hash (garbage : Field 64) (str : List UInt8) (len : Int32) :
    sha1 garbage str len = some (Fips180.hash (str.take len.toInt.toNat)) :=
  sha1_of_take garbage rfl

/-- The first test vector of `SHA1.cpp`. -/
example : sha1 (zeros 64) [0x61, 0x62, 0x63] 3 =
    some [0xA9, 0x99, 0x3E, 0x36, 0x47, 0x06, 0x81, 0x6A, 0xBA, 0x3E, 0x25, 0x71, 0x78, 0x50, 0xC2, 0x6C,
      0x9C, 0xD0, 0xD8, 0x9D] := by
  decide +kernel

/-- A message in pieces has the digest of the whole exactly when the length of each piece and what waits
in the buffer for it do not wrap; a piece that makes them wrap is copied beyond the buffer. -/
theorem sha1Updates_final (garbage : Field 64) (pieces : List (List UInt8))
    (hlen : ∀ data ∈ pieces, data.length < 2 ^ 32) :
    ((sha1Updates pieces (sha1Init garbage)).bind sha1Final = some (Fips180.hash pieces.flatten) ↔
        NoWrap 0 pieces) ∧
      ((sha1Updates pieces (sha1Init garbage)).bind sha1Final = none ↔ ¬ NoWrap 0 pieces) := by
  by_cases hfit : NoWrap 0 pieces
  · obtain ⟨c, os, r, hc, h⟩ := (absorbed_sha1Init garbage).updates hlen hfit
    rw [hc, Option.bind_some, h.final]
    simpa using hfit
  · rw [(absorbed_sha1Init garbage).updates_wrap hlen hfit]
    simpa using hfit

theorem sha1Updates_final_abc :
    (sha1Updates [[0x61], [], [0x62, 0x63]] (sha1Init (zeros 64))).bind sha1Final =
      some (Fips180.hash [0x61, 0x62, 0x63]) :=
  (sha1Updates_final (zeros 64) [[0x61], [], [0x62, 0x63]] (by simp)).1.2 (by simp [NoWrap])

end FutuOpenD

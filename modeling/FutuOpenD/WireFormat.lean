import FutuOpenD.Lib.Wire
import FutuOpenD.Serialize
import Mathlib.Tactic.IntervalCases

/-!
# The bytes of a request (`pb/*.proto`)

`Request.records` is what the `.proto` files say that a request looks like on the wire. `Renders` ties a
size and bytes that the code computes, each in its own way, to such records: they agree as long as the
message has fewer than 2^31 bytes, and beyond that the size is at least that large. It is kept by every
way in which the generated code puts a message together.
-/

namespace FutuOpenD
open Wire

namespace Bits

/-- A round halves the number of bits in question. -/
theorem scan_spec {p : UInt32 × Nat} {i : Nat} (hi : i ≤ 4) (hpos : 0 < p.1.toNat)
    (hlt : p.1.toNat < 2 ^ 2 ^ (i + 1)) :
    0 < (scan p i).1.toNat ∧ (scan p i).1.toNat < 2 ^ 2 ^ i ∧
      (scan p i).2 + Nat.log 2 (scan p i).1.toNat = p.2 + Nat.log 2 p.1.toNat := by
  have hshift : 1 <<< i = 2 ^ i := Nat.one_shiftLeft i
  have h16 : 2 ^ i ≤ 2 ^ 4 := Nat.pow_le_pow_right (by decide) hi
  have hx : (p.1 >>> UInt32.ofNat (1 <<< i)).toNat = p.1.toNat / 2 ^ 2 ^ i := by
    have hmod : (UInt32.ofNat (1 <<< i)).toNat % 32 = 2 ^ i := by
      rw [hshift, UInt32.toNat_ofNat']
      generalize 2 ^ i = s at h16
      omega
    rw [UInt32.toNat_shiftRight, hmod, Nat.shiftRight_eq_div_pow]
  have hsq : 2 ^ 2 ^ (i + 1) = 2 ^ 2 ^ i * 2 ^ 2 ^ i := by
    rw [← Nat.pow_add]
    congr 1
    omega
  have hne : p.1 >>> UInt32.ofNat (1 <<< i) ≠ 0 ↔ p.1.toNat / 2 ^ 2 ^ i ≠ 0 := by
    rw [ne_eq, ← UInt32.toNat_inj, hx, UInt32.toNat_zero]
  unfold scan
  dsimp only
  by_cases h : p.1.toNat / 2 ^ 2 ^ i = 0
  · rw [if_neg fun hx0 => hne.1 hx0 h]
    refine ⟨hpos, ?_, rfl⟩
    by_contra hge
    exact (Nat.div_pos (Nat.le_of_not_lt hge) (Nat.pow_pos (by decide))).ne' h
  · rw [if_pos (hne.2 h)]
    have hge : 2 ^ 2 ^ i ≤ p.1.toNat := by
      by_contra hlt
      exact h (Nat.div_eq_of_lt (Nat.lt_of_not_le hlt))
    have hlog : 2 ^ i ≤ Nat.log 2 p.1.toNat := Nat.le_log_of_pow_le (by decide) hge
    refine ⟨?_, ?_, ?_⟩
    · rw [hx]
      exact Nat.pos_of_ne_zero h
    · rw [hx]
      exact Nat.div_lt_of_lt_mul (by rwa [← hsq])
    · rw [hx, Nat.log_div_base_pow, hshift]
      omega

theorem log2FloorNonZero_eq {n : UInt32} (hn : 0 < n.toNat) : log2FloorNonZero n = Nat.log 2 n.toNat := by
  have hne : n ≠ 0 := by
    rintro rfl
    exact Nat.lt_irrefl 0 hn
  obtain ⟨h4, h4', e4⟩ := scan_spec (p := (n, 0)) (i := 4) (by omega) hn n.toNat_lt
  obtain ⟨h3, h3', e3⟩ := scan_spec (i := 3) (by omega) h4 h4'
  obtain ⟨h2, h2', e2⟩ := scan_spec (i := 2) (by omega) h3 h3'
  obtain ⟨h1, h1', e1⟩ := scan_spec (i := 1) (by omega) h2 h2'
  obtain ⟨h0, h0', e0⟩ := scan_spec (i := 0) (by omega) h1 h1'
  have hlast : Nat.log 2 (scan (scan (scan (scan (scan (n, 0) 4) 3) 2) 1) 0).1.toNat = 0 :=
    Nat.log_of_lt h0'
  dsimp only at e4
  rw [log2FloorNonZero, if_neg hne, Nat.cast_inj]
  show (scan (scan (scan (scan (scan (n, 0) 4) 3) 2) 1) 0).2 = _
  omega

theorem log2FloorNonZero64_eq {n : UInt64} (hn : 0 < n.toNat) : log2FloorNonZero64 n = Nat.log 2 n.toNat := by
  have hlt := n.toNat_lt
  have htop : (n >>> 32).toUInt32.toNat = n.toNat / 2 ^ 32 := by
    rw [UInt64.toNat_toUInt32, UInt64.toNat_shiftRight]
    show n.toNat >>> 32 % _ = _
    rw [Nat.shiftRight_eq_div_pow]
    omega
  have hzero : (n >>> 32).toUInt32 = 0 ↔ n.toNat / 2 ^ 32 = 0 := by
    rw [← UInt32.toNat_inj, htop, UInt32.toNat_zero]
  rw [log2FloorNonZero64]
  by_cases h : n.toNat / 2 ^ 32 = 0
  · rw [if_pos (hzero.2 h)]
    have hsmall : n.toUInt32.toNat = n.toNat := by
      rw [UInt64.toNat_toUInt32]
      omega
    rw [log2FloorNonZero_eq (by rwa [hsmall]), hsmall]
  · rw [if_neg fun h0 => h (hzero.1 h0)]
    have hlog : 32 ≤ Nat.log 2 n.toNat := Nat.le_log_of_pow_le (by decide) (by omega)
    rw [log2FloorNonZero_eq (by omega), htop, Nat.log_div_base_pow]
    omega

end Bits

theorem log_or_one (n : Nat) : Nat.log 2 (n ||| 1) = Nat.log 2 n := by
  have hdiv : (n ||| 1) / 2 = n / 2 := by
    rw [Nat.or_div_two]
    exact Nat.or_zero _
  have h := congrArg (Nat.log 2) hdiv
  rw [Nat.log_div_base, Nat.log_div_base] at h
  by_cases hn : n < 2
  · interval_cases n <;> rfl
  · have hle : n ≤ n ||| 1 := Nat.left_le_or
    have h1 : 0 < Nat.log 2 n := Nat.log_pos (by decide) (by omega)
    have h2 : 0 < Nat.log 2 (n ||| 1) := Nat.log_pos (by decide) (by omega)
    omega

namespace CodedOutputStream

theorem or_128_mod (n : Nat) : (n ||| 128) % 256 = n % 128 + 128 := by
  have hsmall : ∀ y < 256, y ||| 128 = y % 128 + 128 := by decide +kernel
  have hmod : (n ||| 128) % 2 ^ 8 = n % 2 ^ 8 ||| 128 := Nat.or_mod_two_pow
  calc (n ||| 128) % 256 = n % 2 ^ 8 ||| 128 := hmod
    _ = n % 2 ^ 8 % 128 + 128 := hsmall _ (Nat.mod_lt _ (by decide))
    _ = n % 128 + 128 := by omega

theorem writeVarint32ToArray_eq (value : UInt32) : writeVarint32ToArray value = varint value.toNat := by
  induction value using writeVarint32ToArray.induct with
  | case1 value h ih =>
    have hge : 128 ≤ value.toNat := UInt32.le_iff_toNat_le.1 h
    rw [writeVarint32ToArray, if_pos h, varint, if_neg (Nat.not_lt.2 hge), ih, toNat_shiftRight_seven]
    congr 1
    apply UInt8.toNat_inj.1
    rw [UInt32.toNat_toUInt8, UInt32.toNat_or, UInt8.toNat_ofNat']
    show (value.toNat ||| 128) % 256 = _ % 256
    rw [or_128_mod]
    omega
  | case2 value h =>
    have hlt : value.toNat < 128 := Nat.lt_of_not_le fun hge => h (UInt32.le_iff_toNat_le.2 hge)
    rw [writeVarint32ToArray, if_neg h, varint, if_pos hlt]
    rfl

theorem writeVarint64ToArray_eq (value : UInt64) : writeVarint64ToArray value = varint value.toNat := by
  induction value using writeVarint64ToArray.induct with
  | case1 value h ih =>
    have hge : 128 ≤ value.toNat := UInt64.le_iff_toNat_le.1 h
    rw [writeVarint64ToArray, if_pos h, varint, if_neg (Nat.not_lt.2 hge), ih, toNat_shiftRight_seven_64]
    congr 1
    apply UInt8.toNat_inj.1
    rw [UInt64.toNat_toUInt8, UInt64.toNat_or, UInt8.toNat_ofNat']
    show (value.toNat ||| 128) % 256 = _ % 256
    rw [or_128_mod]
    omega
  | case2 value h =>
    have hlt : value.toNat < 128 := Nat.lt_of_not_le fun hge => h (UInt64.le_iff_toNat_le.2 hge)
    rw [writeVarint64ToArray, if_neg h, varint, if_pos hlt]
    rfl

/-- The multiplication divides by seven. -/
theorem mul_nine_div {log : Nat} (h : log < 64) : (log * 9 + 73) / 64 = log / 7 + 1 := by omega

theorem varintSize32_eq (value : UInt32) : varintSize32 value = (varint value.toNat).length := by
  have hlt := value.toNat_lt
  have hor : (value ||| 0x1).toNat = value.toNat ||| 1 := UInt32.toNat_or value 1
  have hpos : 0 < (value ||| 0x1).toNat := by
    rw [hor]
    exact Nat.lt_of_lt_of_le Nat.one_pos Nat.right_le_or
  have hlog : Nat.log 2 value.toNat < 32 := Nat.log_lt_of_lt_pow' (by decide) hlt
  rw [varintSize32, Bits.log2FloorNonZero_eq hpos, hor, log_or_one, Int.toNat_natCast, length_varint]
  exact mul_nine_div (by omega)

theorem varintSize64_eq (value : UInt64) : varintSize64 value = (varint value.toNat).length := by
  have hlt := value.toNat_lt
  have hor : (value ||| 0x1).toNat = value.toNat ||| 1 := UInt64.toNat_or value 1
  have hpos : 0 < (value ||| 0x1).toNat := by
    rw [hor]
    exact Nat.lt_of_lt_of_le Nat.one_pos Nat.right_le_or
  have hlog : Nat.log 2 value.toNat < 64 := Nat.log_lt_of_lt_pow' (by decide) hlt
  rw [varintSize64, Bits.log2FloorNonZero64_eq hpos, hor, log_or_one, Int.toNat_natCast, length_varint]
  exact mul_nine_div hlog

/-- A negative number fills ten bytes. -/
theorem varintSize32SignExtended_eq (value : Int32) :
    varintSize32SignExtended value = (varint value.toInt64.toUInt64.toNat).length := by
  have h64 : value.toInt = _ := (Int32.toInt_toInt64 value).symm.trans
    (BitVec.toInt_eq_toNat_cond value.toInt64.toBitVec)
  have h32 : value.toInt = _ := BitVec.toInt_eq_toNat_cond value.toBitVec
  have hlt := value.toInt64.toUInt64.toNat_lt
  change value.toInt = if 2 * value.toInt64.toUInt64.toNat < 2 ^ 64 then (value.toInt64.toUInt64.toNat : Int)
    else (value.toInt64.toUInt64.toNat : Int) - 2 ^ 64 at h64
  change value.toInt = if 2 * value.toUInt32.toNat < 2 ^ 32 then (value.toUInt32.toNat : Int)
    else (value.toUInt32.toNat : Int) - 2 ^ 32 at h32
  rw [varintSize32SignExtended]
  split_ifs with hneg
  · have hneg' : value.toInt < 0 := Int32.lt_iff_toInt_lt.1 hneg
    have hge : 2 ^ 63 ≤ value.toInt64.toUInt64.toNat := by
      split_ifs at h64 <;> omega
    have hlog : Nat.log 2 value.toInt64.toUInt64.toNat = 63 :=
      (Nat.log_eq_iff (by omega)).2 ⟨hge, hlt⟩
    rw [length_varint, hlog]
  · have hpos : 0 ≤ value.toInt := by
      rw [Int32.lt_iff_toInt_lt] at hneg
      exact Int.not_lt.1 hneg
    have hsame : value.toInt64.toUInt64.toNat = value.toUInt32.toNat := by
      have h32lt := value.toUInt32.toNat_lt
      split_ifs at h64 h32 <;> omega
    rw [varintSize32_eq, hsame]

end CodedOutputStream

/-- An `int32` on the wire: a negative number is extended to 64 bits. -/
abbrev int32Payload (value : Int32) : Payload := .varint value.toInt64.toUInt64.toNat

abbrev boolPayload (value : Bool) : Payload := .varint (if value then 1 else 0)

/-- An optional field. -/
def optional (number : Nat) (value : Option Bool) : List Record :=
  (value.toList).map fun b => ⟨number, boolPayload b⟩

def Security.records (m : Security) : List Record := [⟨1, int32Payload m.market⟩, ⟨2, .len (utf8 m.code)⟩]

def InitConnect.C2S.records (m : InitConnect.C2S) : List Record :=
  [⟨1, int32Payload m.clientVer⟩, ⟨2, .len (utf8 m.clientID)⟩] ++ optional 3 m.recvNotify

def GetGlobalState.C2S.records (m : GetGlobalState.C2S) : List Record := [⟨1, .varint m.userID.toNat⟩]

def KeepAlive.C2S.records (m : KeepAlive.C2S) : List Record := [⟨1, .varint m.time.toUInt64.toNat⟩]

def Qot_Sub.C2S.records (m : Qot_Sub.C2S) : List Record :=
  m.securityList.map (fun s => ⟨1, .len (encode s.records)⟩) ++
    m.subTypeList.map (fun t => ⟨2, int32Payload t⟩) ++ [⟨3, boolPayload m.isSubOrUnSub⟩] ++
    optional 4 m.isRegOrUnRegPush ++ m.regPushRehabTypeList.map (fun t => ⟨5, int32Payload t⟩) ++
    optional 6 m.isFirstPush

def Qot_RegQotPush.C2S.records (m : Qot_RegQotPush.C2S) : List Record :=
  m.securityList.map (fun s => ⟨1, .len (encode s.records)⟩) ++
    m.subTypeList.map (fun t => ⟨2, int32Payload t⟩) ++ m.rehabTypeList.map (fun t => ⟨3, int32Payload t⟩) ++
    [⟨4, boolPayload m.isRegOrUnReg⟩] ++ optional 5 m.isFirstPush

def Request.c2sRecords : Request → List Record
  | .initConnect c2s => c2s.records
  | .getGlobalState c2s => c2s.records
  | .keepAlive c2s => c2s.records
  | .qotSub c2s => c2s.records
  | .qotRegQotPush c2s => c2s.records

def Request.records (r : Request) : List Record := [⟨1, .len (encode r.c2sRecords)⟩]

/-- Size and bytes that the code computes are those of the records, or there are too many. -/
structure Renders (size : Nat) (bytes : List UInt8) (rs : List Record) : Prop where
  size_eq : (encode rs).length < 2 ^ 31 → size = (encode rs).length
  bytes_eq : (encode rs).length < 2 ^ 31 → bytes = encode rs
  large : 2 ^ 31 ≤ (encode rs).length → 2 ^ 31 ≤ size

namespace Renders
open CodedOutputStream hiding writeTagToArray
open WireFormatLite

section
variable {size size' : Nat} {bytes bytes' : List UInt8} {rs rs' : List Record}

theorem of_eq (hs : size = (encode rs).length) (hb : bytes = encode rs) : Renders size bytes rs :=
  ⟨fun _ => hs, fun _ => hb, fun h => by rwa [hs]⟩

theorem nil : Renders 0 [] [] := of_eq rfl rfl

theorem append (h : Renders size bytes rs) (h' : Renders size' bytes' rs') :
    Renders (size + size') (bytes ++ bytes') (rs ++ rs') := by
  have hlen : (encode (rs ++ rs')).length = (encode rs).length + (encode rs').length := by
    rw [encode_append, List.length_append]
  refine ⟨fun hlt => ?_, fun hlt => ?_, fun hle => ?_⟩
  · rw [h.size_eq (by omega), h'.size_eq (by omega), hlen]
  · rw [h.bytes_eq (by omega), h'.bytes_eq (by omega), encode_append]
  · by_cases hr : (encode rs).length < 2 ^ 31
    · by_cases hr' : (encode rs').length < 2 ^ 31
      · rw [h.size_eq hr, h'.size_eq hr']
        omega
      · have hlarge := h'.large (Nat.le_of_not_lt hr')
        omega
    · have hlarge := h.large (Nat.le_of_not_lt hr)
      omega

theorem congr_size (h : Renders size bytes rs) (hs : size = size') : Renders size' bytes rs := hs ▸ h

end

/-- Field numbers up to fifteen have tags of one byte. -/
theorem writeTagToArray_eq {k : UInt32} (hk : k.toNat < 16) (t : WireType) :
    writeTagToArray k t = tag k.toNat t.toUInt32.toNat ∧ (tag k.toNat t.toUInt32.toNat).length = 1 := by
  have htag : (makeTag k t).toNat = 8 * k.toNat + t.toUInt32.toNat := by
    have hshl : (k <<< 3).toNat = k.toNat <<< 3 := by
      rw [UInt32.toNat_shiftLeft]
      show k.toNat <<< 3 % 2 ^ 32 = _
      rw [Nat.shiftLeft_eq]
      omega
    have ht : t.toUInt32.toNat < 2 ^ 3 := by cases t <;> decide
    rw [makeTag, UInt32.toNat_or, hshl, ← Nat.shiftLeft_add_eq_or_of_lt ht, Nat.shiftLeft_eq]
    omega
  have ht : t.toUInt32.toNat < 8 := by cases t <;> decide
  refine ⟨?_, ?_⟩
  · rw [writeTagToArray, CodedOutputStream.writeTagToArray, writeVarint32ToArray_eq, htag]
    rfl
  · rw [tag, varint, if_pos (by omega)]
    rfl

/-- A field whose payload is one varint. -/
theorem varintField {k : UInt32} (hk : k.toNat < 16) {size n : Nat} {bytes : List UInt8}
    (hs : size = (varint n).length) (hb : bytes = varint n) :
    Renders (1 + size) (writeTagToArray k .varint ++ bytes) [⟨k.toNat, .varint n⟩] := by
  obtain ⟨htag, hlen⟩ := writeTagToArray_eq hk .varint
  have henc : encode [⟨k.toNat, .varint n⟩] = tag k.toNat WireType.varint.toUInt32.toNat ++ varint n :=
    List.append_nil _
  refine of_eq ?_ ?_
  · rw [henc, List.length_append, hlen, hs]
  · rw [henc, htag, hb]

/-- A field whose payload is `content`, when `size` and `bytes` are right for it. -/
theorem lenField {k : UInt32} (hk : k.toNat < 16) {size : Nat} {bytes content : List UInt8}
    (hs : content.length < 2 ^ 31 → size = content.length) (hb : content.length < 2 ^ 31 → bytes = content)
    (hl : 2 ^ 31 ≤ content.length → 2 ^ 31 ≤ size) :
    Renders (1 + lengthDelimitedSize size)
      (writeTagToArray k .lengthDelimited ++ writeVarint32ToArray (UInt32.ofNat size) ++ bytes)
      [⟨k.toNat, .len content⟩] := by
  obtain ⟨htag, hlen⟩ := writeTagToArray_eq hk .lengthDelimited
  have henc : encode [⟨k.toNat, .len content⟩] =
      tag k.toNat WireType.lengthDelimited.toUInt32.toNat ++ (varint content.length ++ content) :=
    List.append_nil _
  have hlen' : (encode [⟨k.toNat, .len content⟩]).length =
      1 + ((varint content.length).length + content.length) := by
    rw [henc, List.length_append, hlen, List.length_append]
  have hnat : content.length < 2 ^ 31 → (UInt32.ofNat content.length).toNat = content.length := fun hlt => by
    rw [UInt32.toNat_ofNat']
    omega
  refine ⟨fun hlt => ?_, fun hlt => ?_, fun hle => ?_⟩
  · have hlt' : content.length < 2 ^ 31 := by omega
    rw [lengthDelimitedSize, varintSize32_eq, hs hlt', hnat hlt', hlen']
    omega
  · have hlt' : content.length < 2 ^ 31 := by omega
    rw [writeVarint32ToArray_eq, hs hlt', hnat hlt', hb hlt', htag, henc, List.append_assoc]
  · rw [lengthDelimitedSize, varintSize32_eq]
    by_cases hlt : content.length < 2 ^ 31
    · rw [hs hlt, hnat hlt]
      omega
    · have hlarge := hl (Nat.le_of_not_lt hlt)
      omega

theorem messageField {k : UInt32} (hk : k.toNat < 16) {size : Nat} {bytes : List UInt8} {rs : List Record}
    (h : Renders size bytes rs) :
    Renders (1 + messageSize size) (internalWriteMessageToArray k (toCachedSize size) bytes)
      [⟨k.toNat, .len (encode rs)⟩] :=
  lenField hk h.size_eq h.bytes_eq h.large

theorem stringField {k : UInt32} (hk : k.toNat < 16) (value : List UInt8) :
    Renders (1 + stringSize value) (writeStringToArray k value) [⟨k.toNat, .len value⟩] := by
  have h := @lenField k hk value.length value value (fun _ => rfl) (fun _ => rfl) id
  rwa [List.append_assoc] at h

theorem int32Field {k : UInt32} (hk : k.toNat < 16) (value : Int32) :
    Renders (1 + int32Size value) (writeInt32ToArray k value) [⟨k.toNat, int32Payload value⟩] :=
  varintField hk (varintSize32SignExtended_eq value) (writeVarint64ToArray_eq _)

theorem boolField {k : UInt32} (hk : k.toNat < 16) (value : Bool) :
    Renders (1 + 1) (writeBoolToArray k value) [⟨k.toNat, boolPayload value⟩] := by
  refine varintField hk ?_ ?_
  · cases value <;> simp [length_varint]
  · rw [writeVarint32ToArray_eq]
    cases value <;> rfl

theorem optionalField {k : UInt32} (hk : k.toNat < 16) (value : Option Bool) :
    Renders (if value.isSome then 1 + 1 else 0)
      (match value with
        | some value => writeBoolToArray k value
        | none => [])
      (optional k.toNat value) := by
  cases value with
  | none => exact nil
  | some value => exact boolField hk value

/-- A repeated field, from one element of it. -/
theorem repeated {α : Type*} (l : List α) {size : α → Nat} {bytes : α → List UInt8} {rec : α → Record}
    (h : ∀ x, Renders (1 + size x) (bytes x) [rec x]) :
    Renders (1 * l.length + (l.map size).sum) (l.flatMap bytes) (l.map rec) := by
  induction l with
  | nil => exact nil
  | cons x l ih =>
    refine ((h x).append ih).congr_size ?_
    rw [List.length_cons, List.map_cons, List.sum_cons]
    omega

theorem security (m : Security) : Renders m.byteSizeLong m.serializeToArray m.records :=
  ((int32Field (k := 1) (by decide) m.market).append (stringField (k := 2) (by decide) (utf8 m.code))).congr_size
    (Nat.add_comm _ _)

theorem securityList {k : UInt32} (hk : k.toNat < 16) (l : List Security) :
    Renders (Security.listByteSize l) (Security.serializeListToArray k l)
      (l.map fun s => ⟨k.toNat, .len (encode s.records)⟩) :=
  repeated l fun m => messageField hk (security m)

theorem int32List {k : UInt32} (hk : k.toNat < 16) (l : List Int32) :
    Renders (1 * l.length + int32ListSize l) (writeInt32ListToArray k l)
      (l.map fun t => ⟨k.toNat, int32Payload t⟩) :=
  repeated l fun t => int32Field hk t

/-- The code sums the sizes up in an order of its own. -/
theorem c2s (r : Request) : Renders r.c2s.1 r.c2s.2 r.c2sRecords := by
  cases r with
  | initConnect m =>
    refine (((int32Field (k := 1) (by decide) m.clientVer).append
      (stringField (k := 2) (by decide) (utf8 m.clientID))).append
      (optionalField (k := 3) (by decide) m.recvNotify)).congr_size ?_
    simp only [Request.c2s, InitConnect.C2S.byteSizeLong]
    omega
  | getGlobalState m => exact varintField (k := 1) (by decide) (varintSize64_eq _) (writeVarint64ToArray_eq _)
  | keepAlive m => exact varintField (k := 1) (by decide) (varintSize64_eq _) (writeVarint64ToArray_eq _)
  | qotSub m =>
    refine ((((((securityList (k := 1) (by decide) m.securityList).append
      (int32List (k := 2) (by decide) m.subTypeList)).append
      (boolField (k := 3) (by decide) m.isSubOrUnSub)).append
      (optionalField (k := 4) (by decide) m.isRegOrUnRegPush)).append
      (int32List (k := 5) (by decide) m.regPushRehabTypeList)).append
      (optionalField (k := 6) (by decide) m.isFirstPush)).congr_size ?_
    simp only [Request.c2s, Qot_Sub.C2S.byteSizeLong]
    omega
  | qotRegQotPush m =>
    refine (((((securityList (k := 1) (by decide) m.securityList).append
      (int32List (k := 2) (by decide) m.subTypeList)).append
      (int32List (k := 3) (by decide) m.rehabTypeList)).append
      (boolField (k := 4) (by decide) m.isRegOrUnReg)).append
      (optionalField (k := 5) (by decide) m.isFirstPush)).congr_size ?_
    simp only [Request.c2s, Qot_RegQotPush.C2S.byteSizeLong]
    omega

theorem request (r : Request) : Renders r.byteSizeLong r.serializeToArray r.records :=
  messageField (k := 1) (by decide) (c2s r)

end Renders

end FutuOpenD

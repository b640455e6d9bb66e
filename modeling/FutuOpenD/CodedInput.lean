import FutuOpenD.Lib.Fields
import FutuOpenD.Serialize

/-!
# Reading a protobuf message (`coded_stream.h`, `wire_format_lite_inl.h`)

The inline readers of `CodedInputStream`, and the loop that all generated parsers share. What is behind
the fast paths is in the library and not in its headers: `InputLib` has these functions as parameters,
and `InputLib.Lawful` says of them what the headers document, for input that is well formed.
`mergeLoop_encode` is the rule for a parser: if it reads each record so that what has been read up to
there is `ofRecords` of the records so far, it reads a message as `ofRecords` of all its records.
-/

namespace FutuOpenD
open Bytes Wire

/-- A `CodedInputStream` over an array. For each limit in force, `beyond` has what `PushLimit` returned
and the bytes behind it. -/
structure CodedInputStream where
  buffer : List UInt8
  beyond : List (Int32 × List UInt8)
  legitimateMessageEnd : Bool
  recursionBudget : Int

namespace CodedInputStream

def new (buffer : List UInt8) : CodedInputStream := ⟨buffer, [], false, 100⟩

def advance (amount : Nat) (s : CodedInputStream) : CodedInputStream := { s with buffer := s.buffer.drop amount }

/-- `*buffer_`, or 0 at the end of the buffer. -/
def firstByteOrZero (s : CodedInputStream) : UInt8 := s.buffer.headD 0

end CodedInputStream

/-- The functions that the headers declare and do not define. -/
structure InputLib where
  readVarint32Fallback : UInt32 → CodedInputStream → Int64 × CodedInputStream
  readVarint64Fallback : CodedInputStream → (UInt64 × Bool) × CodedInputStream
  readLittleEndian64Fallback : CodedInputStream → Option UInt64 × CodedInputStream
  readVarintSizeAsIntFallback : CodedInputStream → Int32 × CodedInputStream
  readTagFallback : UInt32 → CodedInputStream → UInt32 × CodedInputStream
  readBytes : CodedInputStream → Option (List UInt8) × CodedInputStream
  skipField : UInt32 → CodedInputStream → Bool × CodedInputStream
  incrementRecursionDepthAndPushLimit : Int32 → CodedInputStream → (Int32 × Int) × CodedInputStream
  decrementRecursionDepthAndPopLimit : Int32 → CodedInputStream → Bool × CodedInputStream

/-- Reads a field, or a whole message, into a message of type `μ`; `none` for `false`. -/
abbrev Reader (μ : Type) := μ → CodedInputStream → Option (μ × CodedInputStream)

section
variable (L : InputLib) (s : CodedInputStream)

def readVarint32 : Option (UInt32 × CodedInputStream) :=
  if s.buffer ≠ [] ∧ s.firstByteOrZero < 0x80 then some (s.firstByteOrZero.toUInt32, s.advance 1)
  else
    let r := L.readVarint32Fallback s.firstByteOrZero.toUInt32 s
    if 0 ≤ r.1 then some (r.1.toUInt64.toUInt32, r.2) else none

def readVarint64 : Option (UInt64 × CodedInputStream) :=
  if s.buffer ≠ [] ∧ s.firstByteOrZero < 0x80 then some (s.firstByteOrZero.toUInt64, s.advance 1)
  else
    let r := L.readVarint64Fallback s
    if r.1.2 then some (r.1.1, r.2) else none

def readVarintSizeAsInt : Option (Int32 × CodedInputStream) :=
  if s.buffer ≠ [] ∧ s.firstByteOrZero < 0x80 then some (s.firstByteOrZero.toUInt32.toInt32, s.advance 1)
  else
    let r := L.readVarintSizeAsIntFallback s
    if 0 ≤ r.1 then some r else none

/-- On a little-endian host. -/
def readLittleEndian64 : Option (UInt64 × CodedInputStream) :=
  if 8 ≤ s.buffer.length then some (UInt64.ofNat (ofLE (s.buffer.take 8)), s.advance 8)
  else
    let r := L.readLittleEndian64Fallback s
    r.1.map fun value => (value, r.2)

/-- The tag, and whether it is known to be from 1 to `cutoff`. -/
def readTagWithCutoffNoLastTag (cutoff : UInt32) : (UInt32 × Bool) × CodedInputStream :=
  let b0 := s.firstByteOrZero
  let b1 := (s.advance 1).firstByteOrZero
  if s.buffer ≠ [] ∧ 0 < b0.toInt8 then
    ((b0.toUInt32, cutoff ≥ 0x7f || b0.toUInt32 ≤ cutoff), s.advance 1)
  else if cutoff ≥ 0x80 ∧ 1 < s.buffer.length ∧ b0 &&& ~~~b1 ≥ 0x80 then
    let tag := 128 * b1.toUInt32 + (b0.toUInt32 - 0x80)
    ((tag, cutoff ≥ 0x3fff || tag ≤ cutoff), s.advance 2)
  else
    let r := L.readTagFallback b0.toUInt32 s
    ((r.1, r.1 - 1 < cutoff), r.2)

/-- `ReadPrimitive<int32, TYPE_INT32>`. -/
def readPrimitiveInt32 : Option (Int32 × CodedInputStream) := (readVarint32 L s).map fun p => (p.1.toInt32, p.2)

/-- `ReadPrimitive<int64, TYPE_INT64>`. -/
def readPrimitiveInt64 : Option (Int64 × CodedInputStream) := (readVarint64 L s).map fun p => (p.1.toInt64, p.2)

/-- `ReadPrimitive<uint64, TYPE_UINT64>`. -/
def readPrimitiveUInt64 : Option (UInt64 × CodedInputStream) := readVarint64 L s

/-- `ReadPrimitive<bool, TYPE_BOOL>`. -/
def readPrimitiveBool : Option (Bool × CodedInputStream) := (readVarint64 L s).map fun p => (p.1 ≠ 0, p.2)

/-- `ReadPrimitive<double, TYPE_DOUBLE>`. -/
def readPrimitiveDouble : Option (DoubleBits × CodedInputStream) := readLittleEndian64 L s

def readString : Option (List UInt8 × CodedInputStream) :=
  let r := L.readBytes s
  r.1.map fun value => (value, r.2)

end

section
variable {μ : Type} (L : InputLib)

def readMessage (mergePartialFromCodedStream : Reader μ) : Reader μ := fun value s => do
  let (length, s) ← readVarintSizeAsInt L s
  let (p, s) := L.incrementRecursionDepthAndPushLimit length s
  if p.2 < 0 then none else
    let (value, s) ← mergePartialFromCodedStream value s
    let (ok, s) := L.decrementRecursionDepthAndPopLimit p.1 s
    if ok then some (value, s) else none

def getTagFieldNumber (tag : UInt32) : Nat := (tag >>> 3).toNat

/-- The loop of `MergePartialFromCodedStream`, at most the given number of times. `field` is the switch:
what reads the field with this tag, or nothing for `goto handle_unusual`. -/
def mergeLoop (field : UInt32 → Option (Reader μ)) : Nat → Reader μ
  | 0, _, _ => none
  | n + 1, value, s =>
    let (p, s) := readTagWithCutoffNoLastTag L s 127
    match if p.2 then field p.1 else none with
    | some read => (read value s).bind fun r => mergeLoop field n r.1 r.2
    | none =>
      if p.1 = 0 then some (value, s)
      else
        let r := L.skipField p.1 s
        if r.1 then mergeLoop field n value r.2 else none

/-- Each time round takes a byte, and one more finds the end. -/
def mergePartial (field : UInt32 → Option (Reader μ)) : Reader μ := fun value s =>
  mergeLoop L field (s.buffer.length + 1) value s

end

/-- What the types of the API can hold. -/
def PayloadFits : Payload → Prop
  | .varint n => n < 2 ^ 64
  | .len bytes => bytes.length < 2 ^ 31
  | _ => True

/-- A record of a message. -/
structure ValidRecord (rec : Record) : Prop where
  pos : 0 < rec.number
  lt : rec.number < 2 ^ 29
  fits : PayloadFits rec.payload

structure InputLib.Lawful (L : InputLib) : Prop where
  /-- Reading a 32-bit value is reading a 64-bit one and casting it. -/
  readVarint32 : ∀ s n l, s.buffer = varint n ++ l → 128 ≤ n → n < 2 ^ 64 →
    L.readVarint32Fallback s.firstByteOrZero.toUInt32 s = (Int64.ofNat (n % 2 ^ 32), { s with buffer := l })
  readVarint64 : ∀ s n l, s.buffer = varint n ++ l → 128 ≤ n → n < 2 ^ 64 →
    L.readVarint64Fallback s = ((UInt64.ofNat n, true), { s with buffer := l })
  readVarintSizeAsInt : ∀ s n l, s.buffer = varint n ++ l → 128 ≤ n → n < 2 ^ 31 →
    L.readVarintSizeAsIntFallback s = (Int32.ofNat n, { s with buffer := l })
  readTag : ∀ s n l, s.buffer = varint n ++ l → 128 ≤ n → n < 2 ^ 32 →
    L.readTagFallback s.firstByteOrZero.toUInt32 s = (UInt32.ofNat n, { s with buffer := l })
  /-- A tag of 0, and the end is legitimate. -/
  readTag_end : ∀ s : CodedInputStream, s.buffer = [] →
    L.readTagFallback 0 s = (0, { s with legitimateMessageEnd := true })
  readBytes : ∀ s bytes l, s.buffer = varint bytes.length ++ bytes ++ l → bytes.length < 2 ^ 31 →
    L.readBytes s = (some bytes, { s with buffer := l })
  /-- Of a field with a number, which 0 is not. -/
  skipField : ∀ s tag payload l, s.buffer = Payload.encode payload ++ l → PayloadFits payload →
    8 ≤ tag.toNat → tag.toNat % 8 = payload.wireType → L.skipField tag s = (true, { s with buffer := l })
  pushLimit : ∀ s bytes l, s.buffer = bytes ++ l → bytes.length < 2 ^ 31 → ∃ limit flag,
    L.incrementRecursionDepthAndPushLimit (Int32.ofNat bytes.length) s =
      ((limit, s.recursionBudget - 1), ⟨bytes, (limit, l) :: s.beyond, flag, s.recursionBudget - 1⟩)
  /-- `ConsumedEntireMessage`, and the bytes behind the limit can be read again. -/
  popLimit : ∀ (s : CodedInputStream) limit l beyond, s.buffer = [] → s.beyond = (limit, l) :: beyond → ∃ flag,
    L.decrementRecursionDepthAndPopLimit limit s =
      (s.legitimateMessageEnd, ⟨l, beyond, flag, s.recursionBudget + 1⟩)

/-- From `s` to `s'` something is read, and `l` is left. -/
structure ReadTo (s : CodedInputStream) (l : List UInt8) (s' : CodedInputStream) : Prop where
  buffer : s'.buffer = l
  beyond : s'.beyond = s.beyond
  budget : s'.recursionBudget = s.recursionBudget

section
variable {L : InputLib} {s s' s'' : CodedInputStream} {n : Nat} {l l' : List UInt8}

theorem ReadTo.trans (h : ReadTo s l s') (h' : ReadTo s' l' s'') : ReadTo s l' s'' :=
  ⟨h'.buffer, h'.beyond.trans h.beyond, h'.budget.trans h.budget⟩

/-- A varint of one byte is the byte. -/
theorem varint_of_lt (h : n < 128) (hs : s.buffer = varint n ++ l) :
    s.buffer ≠ [] ∧ s.firstByteOrZero = UInt8.ofNat n ∧ ReadTo s l (s.advance 1) := by
  rw [varint, if_pos h, List.singleton_append] at hs
  refine ⟨?_, ?_, ?_, rfl, rfl⟩
  · rw [hs]
    exact List.cons_ne_nil _ _
  · rw [CodedInputStream.firstByteOrZero, hs, List.headD_cons]
  · rw [CodedInputStream.advance, hs]
    rfl

/-- A longer one starts with the high bit set. -/
theorem varint_of_ge (h : 128 ≤ n) (hs : s.buffer = varint n ++ l) : 128 ≤ s.firstByteOrZero.toNat := by
  rw [varint, if_neg (by omega), List.cons_append] at hs
  rw [CodedInputStream.firstByteOrZero, hs, List.headD_cons, UInt8.toNat_ofNat']
  omega

theorem firstByte_lt (h : n < 128) (hs : s.buffer = varint n ++ l) :
    s.buffer ≠ [] ∧ s.firstByteOrZero < 0x80 := by
  obtain ⟨hne, hb, -⟩ := varint_of_lt h hs
  refine ⟨hne, ?_⟩
  rw [hb, UInt8.lt_iff_toNat_lt, UInt8.toNat_ofNat_of_lt' (Nat.lt_trans h (by decide))]
  exact h

theorem firstByte_not_lt (h : 128 ≤ n) (hs : s.buffer = varint n ++ l) :
    ¬ (s.buffer ≠ [] ∧ s.firstByteOrZero < 0x80) := by
  rintro ⟨-, hlt⟩
  have hge := varint_of_ge h hs
  rw [UInt8.lt_iff_toNat_lt] at hlt
  exact absurd hlt (Nat.not_lt.2 hge)

theorem toUInt32_ofNat (h : n < 128) : (UInt8.ofNat n).toUInt32 = UInt32.ofNat n := by
  apply UInt32.toNat_inj.1
  rw [UInt8.toNat_toUInt32, UInt8.toNat_ofNat_of_lt' (Nat.lt_trans h (by decide)),
    UInt32.toNat_ofNat_of_lt' (Nat.lt_trans h (by decide))]

theorem readVarint32_spec (hL : L.Lawful) (hs : s.buffer = varint n ++ l) (hn : n < 2 ^ 64) :
    ∃ s', readVarint32 L s = some (UInt32.ofNat n, s') ∧ ReadTo s l s' := by
  rw [readVarint32]
  rcases Nat.lt_or_ge n 128 with h | h
  · obtain ⟨-, hb, hto⟩ := varint_of_lt h hs
    refine ⟨_, ?_, hto⟩
    rw [if_pos (firstByte_lt h hs), hb, toUInt32_ofNat h]
  · refine ⟨{ s with buffer := l }, ?_, rfl, rfl, rfl⟩
    have hlt : n % 2 ^ 32 < 2 ^ 63 := by omega
    have hint : (Int64.ofNat (n % 2 ^ 32)).toInt = n % 2 ^ 32 := Int64.toInt_ofNat_of_lt hlt
    have hpos : 0 ≤ Int64.ofNat (n % 2 ^ 32) := by
      rw [Int64.le_iff_toInt_le, hint]
      exact Int.natCast_nonneg _
    have hcast : (Int64.ofNat (n % 2 ^ 32)).toUInt64.toUInt32 = UInt32.ofNat n := by
      apply UInt32.toNat_inj.1
      rw [Int64.toUInt64_ofNat', UInt64.toNat_toUInt32, UInt64.toNat_ofNat', UInt32.toNat_ofNat']
      omega
    rw [if_neg (firstByte_not_lt h hs), hL.readVarint32 s n l hs h hn]
    dsimp only
    rw [if_pos hpos, hcast]

theorem readVarint64_spec (hL : L.Lawful) (hs : s.buffer = varint n ++ l) (hn : n < 2 ^ 64) :
    ∃ s', readVarint64 L s = some (UInt64.ofNat n, s') ∧ ReadTo s l s' := by
  rw [readVarint64]
  rcases Nat.lt_or_ge n 128 with h | h
  · obtain ⟨-, hb, hto⟩ := varint_of_lt h hs
    refine ⟨_, ?_, hto⟩
    have hcast : (UInt8.ofNat n).toUInt64 = UInt64.ofNat n := by
      apply UInt64.toNat_inj.1
      rw [UInt8.toNat_toUInt64, UInt8.toNat_ofNat_of_lt' (Nat.lt_trans h (by decide)), UInt64.toNat_ofNat_of_lt' hn]
    rw [if_pos (firstByte_lt h hs), hb, hcast]
  · refine ⟨{ s with buffer := l }, ?_, rfl, rfl, rfl⟩
    rw [if_neg (firstByte_not_lt h hs), hL.readVarint64 s n l hs h hn]
    rfl

theorem readVarintSizeAsInt_spec (hL : L.Lawful) (hs : s.buffer = varint n ++ l) (hn : n < 2 ^ 31) :
    ∃ s', readVarintSizeAsInt L s = some (Int32.ofNat n, s') ∧ ReadTo s l s' := by
  rw [readVarintSizeAsInt]
  rcases Nat.lt_or_ge n 128 with h | h
  · obtain ⟨-, hb, hto⟩ := varint_of_lt h hs
    refine ⟨_, ?_, hto⟩
    rw [if_pos (firstByte_lt h hs), hb, toUInt32_ofNat h]
    rfl
  · refine ⟨{ s with buffer := l }, ?_, rfl, rfl, rfl⟩
    have hpos : 0 ≤ Int32.ofNat n := by
      rw [Int32.le_iff_toInt_le, Int32.toInt_ofNat_of_lt hn]
      exact Int.natCast_nonneg n
    rw [if_neg (firstByte_not_lt h hs), hL.readVarintSizeAsInt s n l hs h hn]
    exact if_pos hpos

/-- The second component is whether the tag has one byte. -/
theorem readTag_spec (hL : L.Lawful) (hs : s.buffer = varint n ++ l) (hpos : 0 < n) (hn : n < 2 ^ 32) :
    ∃ s', readTagWithCutoffNoLastTag L s 127 = ((UInt32.ofNat n, decide (n < 128)), s') ∧ ReadTo s l s' := by
  rw [readTagWithCutoffNoLastTag]
  dsimp only
  rcases Nat.lt_or_ge n 128 with h | h
  · obtain ⟨hne, hb, hto⟩ := varint_of_lt h hs
    refine ⟨_, ?_, hto⟩
    have hint : 0 < (UInt8.ofNat n).toInt8 := by
      have hn : (Int8.ofNat n).toInt = n := Int8.toInt_ofNat_of_lt h
      show 0 < Int8.ofNat n
      rw [Int8.lt_iff_toInt_lt, hn]
      exact Int.natCast_pos.2 hpos
    rw [hb, if_pos ⟨hne, hint⟩, toUInt32_ofNat h, decide_eq_true h]
    rfl
  · refine ⟨{ s with buffer := l }, ?_, rfl, rfl, rfl⟩
    have hge := varint_of_ge h hs
    have hint : ¬ 0 < s.firstByteOrZero.toInt8 := by
      have hlt := s.firstByteOrZero.toNat_lt
      have hsize : Int8.size = 256 := rfl
      have hzero : Int8.toInt 0 = 0 := rfl
      rw [← UInt8.ofNat_toNat (x := s.firstByteOrZero), UInt8.toInt8_ofNat', Int8.lt_iff_toInt_lt, Int8.toInt_ofNat',
        Int.bmod_def, hsize, hzero]
      split_ifs
      · omega
      · omega
    have hcut : ¬ UInt32.ofNat n - 1 < 127 := by
      rw [UInt32.lt_iff_toNat_lt, UInt32.toNat_sub_of_le, UInt32.toNat_ofNat_of_lt' hn, UInt32.toNat_one]
      · show ¬ n - 1 < 127
        omega
      · rw [UInt32.le_iff_toNat_le, UInt32.toNat_ofNat_of_lt' hn, UInt32.toNat_one]
        exact hpos
    rw [if_neg (fun hc => hint hc.2), if_neg (fun hc => absurd hc.1 (by decide)), hL.readTag s n l hs h hn,
      decide_eq_false (Nat.not_lt.2 h)]
    dsimp only
    rw [decide_eq_false hcut]

theorem readTag_nil (hL : L.Lawful) (hs : s.buffer = []) :
    readTagWithCutoffNoLastTag L s 127 = ((0, false), { s with legitimateMessageEnd := true }) := by
  have hb : s.firstByteOrZero = 0 := by
    rw [CodedInputStream.firstByteOrZero, hs]
    rfl
  rw [readTagWithCutoffNoLastTag]
  dsimp only
  rw [if_neg (fun hc => hc.1 hs), if_neg (fun hc => absurd hc.1 (by decide)), hb,
    show UInt8.toUInt32 0 = 0 from rfl, hL.readTag_end s hs]
  rfl

/-- A value that is read goes into the message. -/
theorem ReadTo.map {α μ : Type} {o : Option (α × CodedInputStream)} {a : α} (f : α → μ)
    (h : ∃ s', o = some (a, s') ∧ ReadTo s l s') :
    ∃ s', (o.map fun p => (f p.1, p.2)) = some (f a, s') ∧ ReadTo s l s' := by
  obtain ⟨s', rfl, hto⟩ := h
  exact ⟨s', rfl, hto⟩

theorem readLittleEndian64_spec {bytes : Field 8} (hs : s.buffer = bytes.1 ++ l) :
    ∃ s', readLittleEndian64 L s = some (UInt64.ofNat (ofLE bytes.1), s') ∧ ReadTo s l s' := by
  have hle : 8 ≤ s.buffer.length := by
    rw [hs, List.length_append, bytes.2]
    omega
  refine ⟨s.advance 8, ?_, ?_, rfl, rfl⟩
  · rw [readLittleEndian64, if_pos hle, hs, List.take_left' bytes.2]
  · rw [CodedInputStream.advance, hs]
    exact List.drop_left' bytes.2

theorem readString_spec (hL : L.Lawful) {bytes : List UInt8} (hs : s.buffer = varint bytes.length ++ bytes ++ l)
    (hlen : bytes.length < 2 ^ 31) : ∃ s', readString L s = some (bytes, s') ∧ ReadTo s l s' := by
  refine ⟨{ s with buffer := l }, ?_, rfl, rfl, rfl⟩
  rw [readString, hL.readBytes s bytes l hs hlen]
  rfl

end

/-- The reader that a parser has for the record; a tag of more than one byte is above the cutoff. -/
def readerFor {μ : Type} (field : UInt32 → Option (Reader μ)) (rec : Record) : Option (Reader μ) :=
  if tagOf rec < 128 then field (UInt32.ofNat (tagOf rec)) else none

section
variable {rec : Record} {c : Nat}

theorem getTagFieldNumber_tagOf (h : tagOf rec < 128) :
    getTagFieldNumber (UInt32.ofNat (tagOf rec)) = rec.number := by
  have hw := rec.payload.wireType_lt
  rw [getTagFieldNumber, UInt32.toNat_shiftRight, UInt32.toNat_ofNat_of_lt' (Nat.lt_trans h (by decide))]
  show tagOf rec >>> 3 = rec.number
  rw [Nat.shiftRight_eq_div_pow, tagOf]
  omega

theorem toUInt8_tagOf (h : tagOf rec < 128) (hc : c < 128) :
    (UInt32.ofNat (tagOf rec)).toUInt8 = UInt8.ofNat c ↔ tagOf rec = c := by
  rw [← UInt8.toNat_inj, UInt32.toNat_toUInt8, UInt32.toNat_ofNat_of_lt' (Nat.lt_trans h (by decide)),
    UInt8.toNat_ofNat_of_lt' (Nat.lt_trans hc (by decide))]
  omega

end

/-- The parser with the switch `field` takes a message from what `ofRecords` makes of some records to what
it makes of one more, if this is `ok`. It needs `depth` of the recursion budget. -/
structure Reads {μ : Type} (L : InputLib) (field : UInt32 → Option (Reader μ)) (ofRecords : List Record → μ)
    (ok : Record → Prop) (depth : Int) : Prop where
  known : ∀ rec read, ValidRecord rec → ok rec → readerFor field rec = some read → ∀ rs s l,
    s.buffer = rec.payload.encode ++ l → depth ≤ s.recursionBudget →
      ∃ s', read (ofRecords rs) s = some (ofRecords (rs ++ [rec]), s') ∧ ReadTo s l s'
  unusual : ∀ rec, readerFor field rec = none → ∀ rs, ofRecords (rs ++ [rec]) = ofRecords rs

section
variable {μ : Type} {L : InputLib} {field : UInt32 → Option (Reader μ)} {ofRecords : List Record → μ}
variable {ok : Record → Prop} {depth : Int} {s : CodedInputStream} {rs : List Record}

theorem ValidRecord.of_small {k : Nat} {payload : Payload} (hpos : 0 < k) (hk : k < 16)
    (hfits : PayloadFits payload) : ValidRecord ⟨k, payload⟩ :=
  ⟨hpos, Nat.lt_trans hk (by decide), hfits⟩

theorem ValidRecord.tagOf_lt {rec : Record} (h : ValidRecord rec) : tagOf rec < 2 ^ 32 := by
  have hlt := h.lt
  have hw := rec.payload.wireType_lt
  rw [tagOf]
  omega

theorem ValidRecord.tagOf_pos {rec : Record} (h : ValidRecord rec) : 0 < tagOf rec := by
  have hpos := h.pos
  rw [tagOf]
  omega

/-- A message is read as its records say, after those that were read before. -/
theorem mergeLoop_encode (hL : L.Lawful) (h : Reads L field ofRecords ok depth)
    (hrs : ∀ rec ∈ rs, ValidRecord rec ∧ ok rec) {n : Nat} (hn : rs.length < n) (hs : s.buffer = encode rs)
    (hdepth : depth ≤ s.recursionBudget) (before : List Record) :
    ∃ s', mergeLoop L field n (ofRecords before) s = some (ofRecords (before ++ rs), s') ∧ ReadTo s [] s' ∧
      s'.legitimateMessageEnd = true := by
  induction rs generalizing n s before with
  | nil =>
    obtain ⟨n, rfl⟩ : ∃ k, n = k + 1 := ⟨n - 1, by rw [List.length_nil] at hn; omega⟩
    refine ⟨{ s with legitimateMessageEnd := true }, ?_, ⟨hs, rfl, rfl⟩, rfl⟩
    rw [mergeLoop, readTag_nil hL hs, List.append_nil]
    rfl
  | cons rec rs ih =>
    obtain ⟨n, rfl⟩ : ∃ k, n = k + 1 := ⟨n - 1, by rw [List.length_cons] at hn; omega⟩
    rw [List.length_cons, Nat.add_lt_add_iff_right] at hn
    obtain ⟨⟨hvalid, hok⟩, hrest⟩ := List.forall_mem_cons.1 hrs
    have hbuf : s.buffer = varint (tagOf rec) ++ (rec.payload.encode ++ encode rs) := by
      rw [hs, encode_cons, Record.encode, List.append_assoc]
      rfl
    obtain ⟨s₁, htag, hto₁⟩ := readTag_spec hL hbuf hvalid.tagOf_pos hvalid.tagOf_lt
    -- either way the payload is read, and the rest follows
    have hnext : ∀ s₂, ReadTo s₁ (encode rs) s₂ → ∃ s', mergeLoop L field n (ofRecords (before ++ [rec])) s₂ =
        some (ofRecords (before ++ rec :: rs), s') ∧ ReadTo s [] s' ∧ s'.legitimateMessageEnd = true := by
      intro s₂ hto₂
      have hto := hto₁.trans hto₂
      obtain ⟨s', hloop, hto', hend⟩ := ih hrest hn hto.buffer (by rw [hto.budget]; exact hdepth) (before ++ [rec])
      rw [List.append_assoc, List.singleton_append] at hloop
      exact ⟨s', hloop, hto.trans hto', hend⟩
    have hread : (if decide (tagOf rec < 128) = true then field (UInt32.ofNat (tagOf rec)) else none) =
        readerFor field rec := by
      simp only [decide_eq_true_eq, readerFor]
    rw [mergeLoop, htag]
    dsimp only
    rw [hread]
    cases hfield : readerFor field rec with
    | some read =>
      obtain ⟨s₂, hvalue, hto₂⟩ := h.known rec read hvalid hok hfield before s₁ _ hto₁.buffer
        (by rw [hto₁.budget]; exact hdepth)
      obtain ⟨s', hloop, h'⟩ := hnext s₂ hto₂
      refine ⟨s', ?_, h'⟩
      dsimp only
      rw [hvalue]
      exact hloop
    | none =>
      have hnumber : 8 ≤ (UInt32.ofNat (tagOf rec)).toNat := by
        have hpos := hvalid.pos
        rw [UInt32.toNat_ofNat_of_lt' hvalid.tagOf_lt, tagOf]
        omega
      have hne : UInt32.ofNat (tagOf rec) ≠ 0 := by
        intro h0
        rw [h0] at hnumber
        exact absurd hnumber (by decide)
      have hmod : (UInt32.ofNat (tagOf rec)).toNat % 8 = rec.payload.wireType := by
        have hw := rec.payload.wireType_lt
        rw [UInt32.toNat_ofNat_of_lt' hvalid.tagOf_lt, tagOf]
        omega
      obtain ⟨s', hloop, h'⟩ := hnext { s₁ with buffer := encode rs } ⟨rfl, rfl, rfl⟩
      refine ⟨s', ?_, h'⟩
      dsimp only
      rw [if_neg hne, hL.skipField s₁ _ rec.payload _ hto₁.buffer hvalid.fits hnumber hmod]
      rw [h.unusual rec hfield before] at hloop
      exact hloop

theorem length_le_encode (rs : List Record) : rs.length ≤ (encode rs).length := by
  induction rs with
  | nil => exact Nat.le_refl 0
  | cons rec rs ih =>
    have hpos : 0 < rec.encode.length := by
      rw [Record.encode, tag, List.length_append, length_varint]
      omega
    rw [encode_cons, List.length_append, List.length_cons]
    omega

theorem mergePartial_encode (hL : L.Lawful) (h : Reads L field ofRecords ok depth)
    (hrs : ∀ rec ∈ rs, ValidRecord rec ∧ ok rec) (hs : s.buffer = encode rs) (hdepth : depth ≤ s.recursionBudget)
    (before : List Record) :
    ∃ s', mergePartial L field (ofRecords before) s = some (ofRecords (before ++ rs), s') ∧ ReadTo s [] s' ∧
      s'.legitimateMessageEnd = true := by
  have hlen := length_le_encode rs
  refine mergeLoop_encode hL h hrs ?_ hs hdepth before
  rw [hs]
  omega

/-- An embedded message is read within its length. -/
theorem readMessage_encode (hL : L.Lawful) (h : Reads L field ofRecords ok depth)
    (hrs : ∀ rec ∈ rs, ValidRecord rec ∧ ok rec) {l : List UInt8}
    (hs : s.buffer = varint (encode rs).length ++ encode rs ++ l) (hlen : (encode rs).length < 2 ^ 31)
    (hpos : 0 ≤ depth) (hdepth : depth + 1 ≤ s.recursionBudget) (before : List Record) :
    ∃ s', readMessage L (mergePartial L field) (ofRecords before) s = some (ofRecords (before ++ rs), s') ∧
      ReadTo s l s' := by
  rw [List.append_assoc] at hs
  obtain ⟨s₁, hsize, hto₁⟩ := readVarintSizeAsInt_spec hL hs hlen
  obtain ⟨limit, flag, hpush⟩ := hL.pushLimit s₁ (encode rs) l hto₁.buffer hlen
  obtain ⟨s₂, hmerge, hto₂, hend⟩ := mergePartial_encode hL h hrs
    (s := ⟨encode rs, (limit, l) :: s₁.beyond, flag, s₁.recursionBudget - 1⟩) rfl
    (by rw [hto₁.budget]; dsimp only; omega) before
  obtain ⟨flag', hpop⟩ := hL.popLimit s₂ limit l s₁.beyond hto₂.buffer hto₂.beyond
  refine ⟨⟨l, s₁.beyond, flag', s₂.recursionBudget + 1⟩, ?_, rfl, hto₁.beyond, ?_⟩
  · have hbudget : ¬ s₁.recursionBudget - 1 < 0 := by
      rw [hto₁.budget]
      omega
    rw [readMessage, hsize]
    simp only [Option.bind_eq_bind, Option.bind_some, hpush, if_neg hbudget, hmerge, hpop, hend, if_pos]
  · rw [hto₂.budget]
    dsimp only
    rw [hto₁.budget]
    omega

end

/-- A library that does what is documented. -/
def InputLib.plain : InputLib where
  readVarint32Fallback := fun _ s =>
    match readVarint s.buffer with
    | some (n, l) => (Int64.ofNat (n % 2 ^ 32), { s with buffer := l })
    | none => (-1, s)
  readVarint64Fallback := fun s =>
    match readVarint s.buffer with
    | some (n, l) => ((UInt64.ofNat n, true), { s with buffer := l })
    | none => ((0, false), s)
  readLittleEndian64Fallback := fun s => (none, s)
  readVarintSizeAsIntFallback := fun s =>
    match readVarint s.buffer with
    | some (n, l) => if n < 2 ^ 31 then (Int32.ofNat n, { s with buffer := l }) else (-1, s)
    | none => (-1, s)
  readTagFallback := fun _ s =>
    match readVarint s.buffer with
    | some (n, l) => (UInt32.ofNat n, { s with buffer := l })
    | none => (0, { s with legitimateMessageEnd := s.buffer = [] })
  readBytes := fun s =>
    match readPayload 2 s.buffer with
    | some (.len bytes, l) => (some bytes, { s with buffer := l })
    | _ => (none, s)
  skipField := fun tag s =>
    match readPayload (tag.toNat % 8) s.buffer with
    | some (_, l) => (true, { s with buffer := l })
    | none => (false, s)
  incrementRecursionDepthAndPushLimit := fun limit s =>
    ((0, s.recursionBudget - 1), { s with
      buffer := s.buffer.take limit.toInt.toNat
      beyond := (0, s.buffer.drop limit.toInt.toNat) :: s.beyond
      recursionBudget := s.recursionBudget - 1 })
  decrementRecursionDepthAndPopLimit := fun _ s =>
    (s.legitimateMessageEnd,
      ⟨(s.beyond.headD (0, [])).2, s.beyond.tail, false, s.recursionBudget + 1⟩)

theorem InputLib.plain_lawful : InputLib.plain.Lawful where
  readVarint32 := by
    intro s n l hs _ _
    simp only [plain, hs, readVarint_varint]
  readVarint64 := by
    intro s n l hs _ _
    simp only [plain, hs, readVarint_varint]
  readVarintSizeAsInt := by
    intro s n l hs _ hn
    simp only [plain, hs, readVarint_varint, if_pos hn]
  readTag := by
    intro s n l hs _ _
    simp only [plain, hs, readVarint_varint]
  readTag_end := by
    intro s hs
    simp [plain, hs, readVarint]
  readBytes := by
    intro s bytes l hs _
    have h := readPayload_encode (.len bytes) l
    simp only [plain, hs]
    rw [show readPayload 2 (varint bytes.length ++ bytes ++ l) = some (.len bytes, l) from h]
  skipField := by
    intro s tag payload l hs _ _ htag
    simp only [plain, hs, htag, readPayload_encode]
  pushLimit := by
    intro s bytes l hs hlen
    refine ⟨0, s.legitimateMessageEnd, ?_⟩
    simp only [plain, hs, Int32.toInt_ofNat_of_lt hlen, Int.toNat_natCast, List.take_left, List.drop_left]
  popLimit := by
    intro s limit l beyond _ hbeyond
    exact ⟨false, by simp [plain, hbeyond]⟩

end FutuOpenD

import FutuOpenD.CodedInput
import FutuOpenD.RequestDecode

/-!
# The types of scalar fields (`wire_format_lite.h`, `wire_format_lite_inl.h`)

A `CodedType` is a type of fields together with its default and the functions of `WireFormatLite` that
read, write and measure a field of it, which agree with the format.
-/

namespace FutuOpenD
open Bytes Wire WireFormatLite

/-- A type of scalar fields and the code for it. -/
structure CodedType (α : Type) extends FieldType α where
  default : α
  read : InputLib → CodedInputStream → Option (α × CodedInputStream)
  writeToArray : UInt32 → α → List UInt8
  size : α → Nat
  reads : ∀ L : InputLib, L.Lawful → ∀ p x s l, PayloadFits p → value p = some x → s.buffer = p.encode ++ l →
    ∃ s', read L s = some (x, s') ∧ ReadTo s l s'
  renders : ∀ k : UInt32, k.toNat < 16 → ∀ x,
    Renders (1 + size x) (writeToArray k x) [⟨k.toNat, payload x⟩]
  fits : ∀ x, (∀ bytes, payload x = .len bytes → bytes.length < 2 ^ 31) → PayloadFits (payload x)

namespace Renders
open CodedOutputStream hiding writeTagToArray

theorem uInt64Field {k : UInt32} (hk : k.toNat < 16) (value : UInt64) :
    Renders (1 + uInt64Size value) (writeUInt64ToArray k value) [⟨k.toNat, .varint value.toNat⟩] :=
  varintField hk (varintSize64_eq _) (writeVarint64ToArray_eq _)

theorem doubleField {k : UInt32} (hk : k.toNat < 16) (value : DoubleBits) :
    Renders (1 + 8) (writeDoubleToArray k value) [⟨k.toNat, .i64 (toLE 8 value.toNat)⟩] := by
  obtain ⟨htag, hlen⟩ := writeTagToArray_eq hk .fixed64
  have henc : encode [⟨k.toNat, .i64 (toLE 8 value.toNat)⟩] =
      tag k.toNat WireType.fixed64.toUInt32.toNat ++ (toLE 8 value.toNat).1 := List.append_nil _
  refine of_eq ?_ ?_
  · rw [henc, List.length_append, hlen, (toLE 8 value.toNat).2]
  · rw [henc, writeDoubleToArray, htag, writeLittleEndian64ToArray]

end Renders

@[simp] theorem int64Of_toNat (x : Int64) : (UInt64.ofNat x.toUInt64.toNat).toInt64 = x :=
  congrArg UInt64.toInt64 x.toUInt64.ofNat_toNat

@[simp] theorem doubleOf_toLE (x : DoubleBits) : UInt64.ofNat (ofLE (toLE 8 x.toNat).1) = x := by
  rw [toLE, ofLE_leBytes x.toNat_lt, UInt64.ofNat_toNat]

@[simp] theorem boolOf_ofNat (x : Bool) : decide (UInt64.ofNat (if x then 1 else 0) ≠ 0) = x := by
  cases x <;> rfl

theorem toNat_bool_lt (x : Bool) : (if x then 1 else 0) < 2 ^ 64 := by cases x <;> decide

section
variable {α : Type} {L : InputLib} {p : Payload} {s : CodedInputStream} {l : List UInt8}

/-- What a varint of 64 bits is read as. -/
theorem readVarint64_map (hL : L.Lawful) (f : UInt64 → α) {x : α} (hp : PayloadFits p)
    (hx : p.varint?.map (fun n => f (UInt64.ofNat n)) = some x) (hs : s.buffer = p.encode ++ l) :
    ∃ s', ((readVarint64 L s).map fun r => (f r.1, r.2)) = some (x, s') ∧ ReadTo s l s' := by
  obtain ⟨n, hn, rfl⟩ := Option.map_eq_some_iff.1 hx
  obtain rfl := Payload.varint?_eq_some hn
  exact ReadTo.map f (readVarint64_spec hL hs hp)

theorem readPrimitiveInt32_spec (hL : L.Lawful) {x : Int32} (hp : PayloadFits p)
    (hx : p.varint?.map int32Of = some x) (hs : s.buffer = p.encode ++ l) :
    ∃ s', readPrimitiveInt32 L s = some (x, s') ∧ ReadTo s l s' := by
  obtain ⟨n, hn, rfl⟩ := Option.map_eq_some_iff.1 hx
  obtain rfl := Payload.varint?_eq_some hn
  exact ReadTo.map UInt32.toInt32 (readVarint32_spec hL hs hp)

theorem readPrimitiveUInt64_spec (hL : L.Lawful) {x : UInt64} (hp : PayloadFits p)
    (hx : p.varint?.map UInt64.ofNat = some x) (hs : s.buffer = p.encode ++ l) :
    ∃ s', readPrimitiveUInt64 L s = some (x, s') ∧ ReadTo s l s' := by
  obtain ⟨n, hn, rfl⟩ := Option.map_eq_some_iff.1 hx
  obtain rfl := Payload.varint?_eq_some hn
  exact readVarint64_spec hL hs hp

theorem readPrimitiveDouble_spec {x : DoubleBits} (hx : p.i64?.map (fun f => UInt64.ofNat (ofLE f.1)) = some x)
    (hs : s.buffer = p.encode ++ l) : ∃ s', readPrimitiveDouble L s = some (x, s') ∧ ReadTo s l s' := by
  obtain ⟨f, hf, rfl⟩ := Option.map_eq_some_iff.1 hx
  obtain rfl := Payload.i64?_eq_some hf
  exact readLittleEndian64_spec hs

theorem readString_of_len (hL : L.Lawful) {x : List UInt8} (hp : PayloadFits p) (hx : p.len? = some x)
    (hs : s.buffer = p.encode ++ l) : ∃ s', readString L s = some (x, s') ∧ ReadTo s l s' := by
  obtain rfl := Payload.len?_eq_some hx
  exact readString_spec hL hs hp

end

namespace CodedType

def int32 : CodedType Int32 where
  toFieldType := .ofVarint int32Of (fun x => x.toInt64.toUInt64.toNat) int32Of_toNat
  default := 0
  read := readPrimitiveInt32
  writeToArray := writeInt32ToArray
  size := int32Size
  reads := fun _ hL _ _ _ _ hp hx hs => readPrimitiveInt32_spec hL hp hx hs
  renders := fun _ hk x => Renders.int32Field hk x
  fits := fun x _ => x.toInt64.toUInt64.toNat_lt

def int64 : CodedType Int64 where
  toFieldType := .ofVarint (fun n => (UInt64.ofNat n).toInt64) (fun x => x.toUInt64.toNat) int64Of_toNat
  default := 0
  read := readPrimitiveInt64
  writeToArray := writeInt64ToArray
  size := int64Size
  reads := fun _ hL _ _ _ _ hp hx hs => readVarint64_map hL UInt64.toInt64 hp hx hs
  renders := fun _ hk x => Renders.uInt64Field hk x.toUInt64
  fits := fun x _ => x.toUInt64.toNat_lt

def uint64 : CodedType UInt64 where
  toFieldType := .ofVarint UInt64.ofNat UInt64.toNat fun x => x.ofNat_toNat
  default := 0
  read := readPrimitiveUInt64
  writeToArray := writeUInt64ToArray
  size := uInt64Size
  reads := fun _ hL _ _ _ _ hp hx hs => readPrimitiveUInt64_spec hL hp hx hs
  renders := fun _ hk x => Renders.uInt64Field hk x
  fits := fun x _ => x.toNat_lt

def bool : CodedType Bool where
  toFieldType := .ofVarint (fun n => decide (UInt64.ofNat n ≠ 0)) (fun x => if x then 1 else 0) boolOf_ofNat
  default := false
  read := readPrimitiveBool
  writeToArray := writeBoolToArray
  size := fun _ => 1
  reads := fun _ hL _ _ _ _ hp hx hs => readVarint64_map hL (fun v => decide (v ≠ 0)) hp hx hs
  renders := fun _ hk x => Renders.boolField hk x
  fits := fun x _ => toNat_bool_lt x

def double : CodedType DoubleBits where
  toFieldType := .ofI64 (fun f => UInt64.ofNat (ofLE f.1)) (fun x => toLE 8 x.toNat) doubleOf_toLE
  default := 0
  read := readPrimitiveDouble
  writeToArray := writeDoubleToArray
  size := fun _ => 8
  reads := fun _ _ _ _ _ _ _ hx hs => readPrimitiveDouble_spec hx hs
  renders := fun _ hk x => Renders.doubleField hk x
  fits := fun _ _ => trivial

/-- A `string`, as its bytes. -/
def string : CodedType (List UInt8) where
  toFieldType := .ofLen
  default := []
  read := readString
  writeToArray := writeStringToArray
  size := stringSize
  reads := fun _ hL _ _ _ _ hp hx hs => readString_of_len hL hp hx hs
  renders := fun _ hk x => Renders.stringField hk x
  fits := fun x h => h x rfl

@[simp] theorem wireType_int32 : int32.wireType = 0 := (rfl)
@[simp] theorem wireType_int64 : int64.wireType = 0 := (rfl)
@[simp] theorem wireType_uint64 : uint64.wireType = 0 := (rfl)
@[simp] theorem wireType_bool : bool.wireType = 0 := (rfl)
@[simp] theorem wireType_double : double.wireType = 1 := (rfl)
@[simp] theorem wireType_string : string.wireType = 2 := (rfl)

end CodedType
end FutuOpenD

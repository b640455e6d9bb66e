import FutuOpenD.Messages

/-!
# Serialisation (`pb/*.pb.cc`, `google/protobuf/*.h`)

The functions of the protobuf headers that write to an array, each as the bytes that it writes, and
those that compute sizes; and on top of them the generated `InternalSerializeWithCachedSizesToArray` and
`ByteSizeLong` of the messages that the client sends. What a `size_t` counts lies in memory, so it is
a number. The client sets every required field and no message has unknown fields.
-/

namespace FutuOpenD

/-- A `double`, as `EncodeDouble` gives it. -/
abbrev DoubleBits := UInt64

namespace Bits

/-- One round of the loop in `Log2FloorNonZero_Portable`, on `value` and `log`. -/
def scan (p : UInt32 × Nat) (i : Nat) : UInt32 × Nat :=
  let shift := 1 <<< i
  let x := p.1 >>> UInt32.ofNat shift
  if x ≠ 0 then (x, p.2 + shift) else p

def log2FloorNonZero (n : UInt32) : Int :=
  if n = 0 then -1 else (([4, 3, 2, 1, 0].foldl scan (n, 0)).2 : Nat)

def log2FloorNonZero64 (n : UInt64) : Int :=
  let topbits := (n >>> 32).toUInt32
  if topbits = 0 then log2FloorNonZero n.toUInt32 else 32 + log2FloorNonZero topbits

end Bits

namespace CodedOutputStream

theorem toNat_shiftRight_seven (value : UInt32) : (value >>> 7).toNat = value.toNat / 128 := by
  rw [UInt32.toNat_shiftRight]
  exact Nat.shiftRight_eq_div_pow _ _

theorem toNat_shiftRight_seven_64 (value : UInt64) : (value >>> 7).toNat = value.toNat / 128 := by
  rw [UInt64.toNat_shiftRight]
  exact Nat.shiftRight_eq_div_pow _ _

def writeVarint32ToArray (value : UInt32) : List UInt8 :=
  if value ≥ 0x80 then (value ||| 0x80).toUInt8 :: writeVarint32ToArray (value >>> 7) else [value.toUInt8]
termination_by value.toNat
decreasing_by
  rename_i h
  have hle : 128 ≤ value.toNat := UInt32.le_iff_toNat_le.1 h
  rw [toNat_shiftRight_seven]
  omega

def writeVarint64ToArray (value : UInt64) : List UInt8 :=
  if value ≥ 0x80 then (value ||| 0x80).toUInt8 :: writeVarint64ToArray (value >>> 7) else [value.toUInt8]
termination_by value.toNat
decreasing_by
  rename_i h
  have hle : 128 ≤ value.toNat := UInt64.le_iff_toNat_le.1 h
  rw [toNat_shiftRight_seven_64]
  omega

def writeVarint32SignExtendedToArray (value : Int32) : List UInt8 :=
  writeVarint64ToArray value.toInt64.toUInt64

def writeTagToArray (value : UInt32) : List UInt8 := writeVarint32ToArray value

/-- On a little-endian host. -/
def writeLittleEndian64ToArray (value : UInt64) : List UInt8 := (Bytes.toLE 8 value.toNat).1

/-- The size of `str` as a varint, then `str`. -/
def writeStringWithSizeToArray (str : List UInt8) : List UInt8 :=
  writeVarint32ToArray (UInt32.ofNat str.length) ++ str

def varintSize32 (value : UInt32) : Nat := ((Bits.log2FloorNonZero (value ||| 0x1)).toNat * 9 + 73) / 64

def varintSize64 (value : UInt64) : Nat := ((Bits.log2FloorNonZero64 (value ||| 0x1)).toNat * 9 + 73) / 64

def varintSize32SignExtended (value : Int32) : Nat :=
  if value < 0 then 10 else varintSize32 value.toUInt32

end CodedOutputStream

/-- `int` as `ByteSizeLong` caches its result. -/
def toCachedSize (size : Nat) : Int32 := Int32.ofNat size

namespace WireFormatLite
open CodedOutputStream

inductive WireType
  | varint | fixed64 | lengthDelimited

def WireType.toUInt32 : WireType → UInt32
  | .varint => 0
  | .fixed64 => 1
  | .lengthDelimited => 2

def makeTag (fieldNumber : UInt32) (type : WireType) : UInt32 := (fieldNumber <<< 3) ||| type.toUInt32

def writeTagToArray (fieldNumber : UInt32) (type : WireType) : List UInt8 :=
  CodedOutputStream.writeTagToArray (makeTag fieldNumber type)

def writeInt32ToArray (fieldNumber : UInt32) (value : Int32) : List UInt8 :=
  writeTagToArray fieldNumber .varint ++ writeVarint32SignExtendedToArray value

def writeInt64ToArray (fieldNumber : UInt32) (value : Int64) : List UInt8 :=
  writeTagToArray fieldNumber .varint ++ writeVarint64ToArray value.toUInt64

def writeUInt64ToArray (fieldNumber : UInt32) (value : UInt64) : List UInt8 :=
  writeTagToArray fieldNumber .varint ++ writeVarint64ToArray value

def writeBoolToArray (fieldNumber : UInt32) (value : Bool) : List UInt8 :=
  writeTagToArray fieldNumber .varint ++ writeVarint32ToArray (if value then 1 else 0)

def writeDoubleToArray (fieldNumber : UInt32) (value : DoubleBits) : List UInt8 :=
  writeTagToArray fieldNumber .fixed64 ++ writeLittleEndian64ToArray value

/-- `WriteInt32ToArray` for a repeated field. -/
def writeInt32ListToArray (fieldNumber : UInt32) (value : List Int32) : List UInt8 :=
  value.flatMap (writeInt32ToArray fieldNumber)

def writeStringToArray (fieldNumber : UInt32) (value : List UInt8) : List UInt8 :=
  writeTagToArray fieldNumber .lengthDelimited ++ writeStringWithSizeToArray value

/-- For a message of the given cached size that serialises to `bytes`. -/
def internalWriteMessageToArray (fieldNumber : UInt32) (cachedSize : Int32) (bytes : List UInt8) : List UInt8 :=
  writeTagToArray fieldNumber .lengthDelimited ++ writeVarint32ToArray cachedSize.toUInt32 ++ bytes

def int32Size (value : Int32) : Nat := varintSize32SignExtended value

def int64Size (value : Int64) : Nat := varintSize64 value.toUInt64

def uInt64Size (value : UInt64) : Nat := varintSize64 value

/-- `Int32Size` for a repeated field. -/
def int32ListSize (value : List Int32) : Nat := (value.map int32Size).sum

def lengthDelimitedSize (length : Nat) : Nat := length + varintSize32 (UInt32.ofNat length)

def stringSize (value : List UInt8) : Nat := lengthDelimitedSize value.length

def messageSize (byteSizeLong : Nat) : Nat := lengthDelimitedSize byteSizeLong

end WireFormatLite

/-- The bytes of a `std::string` that holds text. -/
def utf8 (s : String) : List UInt8 := s.toUTF8.data.toList

open WireFormatLite

namespace Security

def serializeToArray (m : Security) : List UInt8 :=
  writeInt32ToArray 1 m.market ++ writeStringToArray 2 (utf8 m.code)

def byteSizeLong (m : Security) : Nat := 1 + stringSize (utf8 m.code) + (1 + int32Size m.market)

/-- The loop over a `securityList` in `InternalSerializeWithCachedSizesToArray`. -/
def serializeListToArray (fieldNumber : UInt32) (securityList : List Security) : List UInt8 :=
  securityList.flatMap fun m =>
    internalWriteMessageToArray fieldNumber (toCachedSize m.byteSizeLong) m.serializeToArray

/-- The loop over a `securityList` in `ByteSizeLong`. -/
def listByteSize (securityList : List Security) : Nat :=
  1 * securityList.length + (securityList.map fun m => messageSize m.byteSizeLong).sum

end Security

namespace InitConnect.C2S

def serializeToArray (m : C2S) : List UInt8 :=
  writeInt32ToArray 1 m.clientVer ++ writeStringToArray 2 (utf8 m.clientID) ++
    (match m.recvNotify with
      | some recvNotify => writeBoolToArray 3 recvNotify
      | none => [])

def byteSizeLong (m : C2S) : Nat :=
  1 + stringSize (utf8 m.clientID) + (1 + int32Size m.clientVer) + (if m.recvNotify.isSome then 1 + 1 else 0)

end InitConnect.C2S

namespace GetGlobalState.C2S

def serializeToArray (m : C2S) : List UInt8 := writeUInt64ToArray 1 m.userID

def byteSizeLong (m : C2S) : Nat := 1 + uInt64Size m.userID

end GetGlobalState.C2S

namespace KeepAlive.C2S

def serializeToArray (m : C2S) : List UInt8 := writeInt64ToArray 1 m.time

def byteSizeLong (m : C2S) : Nat := 1 + int64Size m.time

end KeepAlive.C2S

namespace Qot_Sub.C2S

def serializeToArray (m : C2S) : List UInt8 :=
  Security.serializeListToArray 1 m.securityList ++ writeInt32ListToArray 2 m.subTypeList ++
    writeBoolToArray 3 m.isSubOrUnSub ++
    (match m.isRegOrUnRegPush with
      | some isRegOrUnRegPush => writeBoolToArray 4 isRegOrUnRegPush
      | none => []) ++
    writeInt32ListToArray 5 m.regPushRehabTypeList ++
    (match m.isFirstPush with
      | some isFirstPush => writeBoolToArray 6 isFirstPush
      | none => [])

def byteSizeLong (m : C2S) : Nat :=
  (1 + 1) + Security.listByteSize m.securityList +
    (1 * m.subTypeList.length + int32ListSize m.subTypeList) +
    (1 * m.regPushRehabTypeList.length + int32ListSize m.regPushRehabTypeList) +
    (if m.isRegOrUnRegPush.isSome then 1 + 1 else 0) + (if m.isFirstPush.isSome then 1 + 1 else 0)

end Qot_Sub.C2S

namespace Qot_RegQotPush.C2S

def serializeToArray (m : C2S) : List UInt8 :=
  Security.serializeListToArray 1 m.securityList ++ writeInt32ListToArray 2 m.subTypeList ++
    writeInt32ListToArray 3 m.rehabTypeList ++ writeBoolToArray 4 m.isRegOrUnReg ++
    (match m.isFirstPush with
      | some isFirstPush => writeBoolToArray 5 isFirstPush
      | none => [])

def byteSizeLong (m : C2S) : Nat :=
  (1 + 1) + Security.listByteSize m.securityList +
    (1 * m.subTypeList.length + int32ListSize m.subTypeList) +
    (1 * m.rehabTypeList.length + int32ListSize m.rehabTypeList) + (if m.isFirstPush.isSome then 1 + 1 else 0)

end Qot_RegQotPush.C2S

namespace Request

/-- Size and bytes of the `C2S` of a request. -/
def c2s : Request → Nat × List UInt8
  | .initConnect c2s => (c2s.byteSizeLong, c2s.serializeToArray)
  | .getGlobalState c2s => (c2s.byteSizeLong, c2s.serializeToArray)
  | .keepAlive c2s => (c2s.byteSizeLong, c2s.serializeToArray)
  | .qotSub c2s => (c2s.byteSizeLong, c2s.serializeToArray)
  | .qotRegQotPush c2s => (c2s.byteSizeLong, c2s.serializeToArray)

def serializeToArray (r : Request) : List UInt8 :=
  internalWriteMessageToArray 1 (toCachedSize r.c2s.1) r.c2s.2

def byteSizeLong (r : Request) : Nat := 1 + messageSize r.c2s.1

/-- `ByteSize()` and `SerializeToString()`, which gives up on more bytes than an `int` counts. -/
def pbMessage (r : Request) : PbMessage where
  byteSize := Int32.ofNat r.byteSizeLong
  serializeToString := if r.byteSizeLong < 2 ^ 31 then some r.serializeToArray else none

end Request
end FutuOpenD

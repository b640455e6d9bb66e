import FutuOpenD.Lib.Bytes

/-!
# The packet header (`Common.h`, `Common.cpp`)

`APIProtoHeader` is packed to 44 bytes and is copied to and from the stream as it lies in memory, so
its layout on a little-endian host is part of the protocol: `toBytes` and `ofBytes`.
-/

namespace FutuOpenD
open Bytes

/-- `APIProtoHeader`, with the fields in the order of the struct. -/
structure APIProtoHeader where
  szHeaderFlag : Field 2
  nProtoID : UInt32
  nProtoFmtType : UInt8
  nProtoVer : UInt8
  nSerialNo : UInt32
  nBodyLen : UInt32
  arrBodySHA1 : Field 20
  arrReserved : Field 8
deriving DecidableEq

/-- The start flag, `FT`. -/
def headerFlag : Field 2 := ⟨[0x46, 0x54], rfl⟩

def sizeofHeader : Nat := 44

def apiProtoIDInitConnect : UInt32 := 1001
def apiProtoIDGlobalState : UInt32 := 1002
def apiProtoIDKeepAlive : UInt32 := 1004
def apiProtoIDQotSub : UInt32 := 3001
def apiProtoIDQotRegQotPush : UInt32 := 3002
def apiProtoIDQotUpdateTicker : UInt32 := 3011
def apiProtoIDQotUpdateOrderBook : UInt32 := 3013
def apiProtoIDQotUpdateBroker : UInt32 := 3015

def u32At (l : List UInt8) (off : Nat) : UInt32 := UInt32.ofNat (ofLE (fieldAt l off 4).1)
def u8At (l : List UInt8) (off : Nat) : UInt8 := UInt8.ofNat (ofLE (fieldAt l off 1).1)

theorem u32At_eq {l rest : List UInt8} {off : Nat} {x : UInt32}
    (h : l.drop off = (toLE 4 x.toNat).1 ++ rest) : u32At l off = x := by
  have hx : x.toNat < 256 ^ 4 := x.toNat_lt
  rw [u32At, fieldAt_eq h]
  simp only [toLE, ofLE_leBytes hx, UInt32.ofNat_toNat]

theorem u8At_eq {l rest : List UInt8} {off : Nat} {x : UInt8}
    (h : l.drop off = (toLE 1 x.toNat).1 ++ rest) : u8At l off = x := by
  have hx : x.toNat < 256 ^ 1 := x.toNat_lt
  rw [u8At, fieldAt_eq h]
  simp only [toLE, ofLE_leBytes hx, UInt8.ofNat_toNat]

theorem toLE_u32At (l : List UInt8) (off : Nat) : toLE 4 (u32At l off).toNat = fieldAt l off 4 := by
  have h := ofLE_lt (fieldAt l off 4).1
  rw [(fieldAt l off 4).2] at h
  rw [u32At, UInt32.toNat_ofNat_of_lt' (by simpa [UInt32.size] using h), toLE_ofLE]

theorem toLE_u8At (l : List UInt8) (off : Nat) : toLE 1 (u8At l off).toNat = fieldAt l off 1 := by
  have h := ofLE_lt (fieldAt l off 1).1
  rw [(fieldAt l off 1).2] at h
  rw [u8At, UInt8.toNat_ofNat_of_lt' (by simpa [UInt8.size] using h), toLE_ofLE]

namespace APIProtoHeader

/-- `APIProtoHeader::Init`: all zero except for the start flag. -/
def init : APIProtoHeader where
  szHeaderFlag := headerFlag
  nProtoID := 0
  nProtoFmtType := 0
  nProtoVer := 0
  nSerialNo := 0
  nBodyLen := 0
  arrBodySHA1 := zeros 20
  arrReserved := zeros 8

/-- The 44 bytes of the struct in memory. -/
def toBytes (h : APIProtoHeader) : List UInt8 :=
  h.szHeaderFlag.1 ++ ((toLE 4 h.nProtoID.toNat).1 ++ ((toLE 1 h.nProtoFmtType.toNat).1 ++
    ((toLE 1 h.nProtoVer.toNat).1 ++ ((toLE 4 h.nSerialNo.toNat).1 ++ ((toLE 4 h.nBodyLen.toNat).1 ++
      (h.arrBodySHA1.1 ++ h.arrReserved.1))))))

/-- `*(APIProtoHeader*)pData`: the struct that the first 44 bytes spell. -/
def ofBytes (l : List UInt8) : APIProtoHeader where
  szHeaderFlag := fieldAt l 0 2
  nProtoID := u32At l 2
  nProtoFmtType := u8At l 6
  nProtoVer := u8At l 7
  nSerialNo := u32At l 8
  nBodyLen := u32At l 12
  arrBodySHA1 := fieldAt l 16 20
  arrReserved := fieldAt l 36 8

theorem length_toBytes (h : APIProtoHeader) : h.toBytes.length = sizeofHeader := by
  simp only [toBytes, List.length_append, length_field, sizeofHeader]

theorem ofBytes_append {l : List UInt8} (h : sizeofHeader ≤ l.length) (m : List UInt8) :
    ofBytes (l ++ m) = ofBytes l := by
  have hf : ∀ off n, off + n ≤ sizeofHeader → fieldAt (l ++ m) off n = fieldAt l off n :=
    fun off n hn => fieldAt_append (Nat.le_trans hn h)
  simp (disch := decide) only [ofBytes, u32At, u8At, hf]

theorem ofBytes_toBytes_append (h : APIProtoHeader) (m : List UInt8) : ofBytes (h.toBytes ++ m) = h := by
  have step : ∀ {l rest : List UInt8} {off n : Nat} {f : Field n}, l.drop off = f.1 ++ rest →
      l.drop (off + n) = rest := by
    intro l rest off n f hl
    rw [← List.drop_drop, hl, List.drop_left' f.2]
  -- each field starts where the one before it ends
  have h0 : (h.toBytes ++ m).drop 0 = h.szHeaderFlag.1 ++ ((toLE 4 h.nProtoID.toNat).1 ++
      ((toLE 1 h.nProtoFmtType.toNat).1 ++ ((toLE 1 h.nProtoVer.toNat).1 ++
        ((toLE 4 h.nSerialNo.toNat).1 ++ ((toLE 4 h.nBodyLen.toNat).1 ++
          (h.arrBodySHA1.1 ++ (h.arrReserved.1 ++ m))))))) := by
    simp only [toBytes, List.drop_zero, List.append_assoc]
  have h2 := step h0
  have h6 := step h2
  have h7 := step h6
  have h8 := step h7
  have h12 := step h8
  have h16 := step h12
  have h36 := step h16
  simp only [ofBytes, fieldAt_eq h0, u32At_eq h2, u8At_eq h6, u8At_eq h7, u32At_eq h8, u32At_eq h12,
    fieldAt_eq h16, fieldAt_eq h36]

theorem toBytes_ofBytes {l : List UInt8} (h : sizeofHeader ≤ l.length) :
    (ofBytes l).toBytes = l.take sizeofHeader := by
  have hf : ∀ off n, off + n ≤ sizeofHeader → (fieldAt l off n).1 = (l.drop off).take n :=
    fun off n hn => fieldAt_val (Nat.le_trans hn h)
  simp (disch := decide) only [toBytes, ofBytes, toLE_u32At, toLE_u8At, hf]
  rw [show sizeofHeader = 2 + (4 + (1 + (1 + (4 + (4 + (20 + 8)))))) from rfl]
  rw [List.take_add, List.take_add, List.take_add, List.take_add, List.take_add, List.take_add,
    List.take_add]
  simp only [List.drop_drop, List.drop_zero, Nat.reduceAdd]

end APIProtoHeader
end FutuOpenD

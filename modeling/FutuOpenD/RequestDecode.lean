import FutuOpenD.Common
import FutuOpenD.WireFormat

/-!
# What a server reads in a request (`pb/*.proto`)

The reading that the `.proto` files give to the records of a message: of a field that is not repeated
the last record counts, the records of a repeated field are its elements, and the parts of an embedded
message are put together. `decodeAs_records` says that what the client serialises reads as what it
meant.
-/

namespace FutuOpenD
open Wire

def int32Of (n : Nat) : Int32 := (UInt32.ofNat n).toInt32

def boolOf (n : Nat) : Bool := decide (n ≠ 0)

def stringOf (bytes : List UInt8) : Option String := String.fromUTF8? ⟨bytes.toArray⟩

/-- The records of the embedded message in field `k`. -/
def embedded (k : Nat) (rs : List Record) : Option (List Record) :=
  if lens k rs = [] then none else decode (lens k rs).flatten

def Security.ofRecords (rs : List Record) : Option Security := do
  let market ← (varints 1 rs).getLast?
  let code ← (lens 2 rs).getLast?
  let code ← stringOf code
  some ⟨int32Of market, code⟩

def securitiesOf (k : Nat) (rs : List Record) : Option (List Security) :=
  (lens k rs).mapM fun bytes => (decode bytes).bind Security.ofRecords

def InitConnect.C2S.ofRecords (rs : List Record) : Option InitConnect.C2S := do
  let clientVer ← (varints 1 rs).getLast?
  let clientID ← (lens 2 rs).getLast?
  let clientID ← stringOf clientID
  some ⟨int32Of clientVer, clientID, (varints 3 rs).getLast?.map boolOf⟩

def GetGlobalState.C2S.ofRecords (rs : List Record) : Option GetGlobalState.C2S := do
  let userID ← (varints 1 rs).getLast?
  some ⟨UInt64.ofNat userID⟩

def KeepAlive.C2S.ofRecords (rs : List Record) : Option KeepAlive.C2S := do
  let time ← (varints 1 rs).getLast?
  some ⟨(UInt64.ofNat time).toInt64⟩

def Qot_Sub.C2S.ofRecords (rs : List Record) : Option Qot_Sub.C2S := do
  let securityList ← securitiesOf 1 rs
  let isSubOrUnSub ← (varints 3 rs).getLast?
  some ⟨securityList, (varints 2 rs).map int32Of, boolOf isSubOrUnSub, (varints 4 rs).getLast?.map boolOf,
    (varints 5 rs).map int32Of, (varints 6 rs).getLast?.map boolOf⟩

def Qot_RegQotPush.C2S.ofRecords (rs : List Record) : Option Qot_RegQotPush.C2S := do
  let securityList ← securitiesOf 1 rs
  let isRegOrUnReg ← (varints 4 rs).getLast?
  some ⟨securityList, (varints 2 rs).map int32Of, (varints 3 rs).map int32Of, boolOf isRegOrUnReg,
    (varints 5 rs).getLast?.map boolOf⟩

namespace Request

/-- The protocol ID under which `NetCenter` sends the request. -/
def protoID : Request → UInt32
  | .initConnect _ => apiProtoIDInitConnect
  | .getGlobalState _ => apiProtoIDGlobalState
  | .keepAlive _ => apiProtoIDKeepAlive
  | .qotSub _ => apiProtoIDQotSub
  | .qotRegQotPush _ => apiProtoIDQotRegQotPush

/-- The request in a body that arrives under a protocol ID. -/
def decodeAs (nProtoID : UInt32) (body : List UInt8) : Option Request := do
  let rs ← decode body
  let c2s ← embedded 1 rs
  if nProtoID = apiProtoIDInitConnect then (InitConnect.C2S.ofRecords c2s).map .initConnect
  else if nProtoID = apiProtoIDGlobalState then (GetGlobalState.C2S.ofRecords c2s).map .getGlobalState
  else if nProtoID = apiProtoIDKeepAlive then (KeepAlive.C2S.ofRecords c2s).map .keepAlive
  else if nProtoID = apiProtoIDQotSub then (Qot_Sub.C2S.ofRecords c2s).map .qotSub
  else if nProtoID = apiProtoIDQotRegQotPush then (Qot_RegQotPush.C2S.ofRecords c2s).map .qotRegQotPush
  else none

end Request

@[simp] theorem int32Of_toNat (value : Int32) : int32Of value.toInt64.toUInt64.toNat = value := by
  rw [int32Of, UInt32.ofNat_uInt64ToNat]
  apply Int32.toBitVec_inj.1
  show (value.toBitVec.signExtend 64).setWidth 32 = value.toBitVec
  ext i hi
  simp [BitVec.getLsbD_signExtend, hi]
  omega

@[simp] theorem boolOf_toNat (value : Bool) : boolOf (if value then 1 else 0) = value := by cases value <;> rfl

@[simp] theorem stringOf_utf8 (s : String) : stringOf (utf8 s) = some s := by
  have hbytes : (⟨(utf8 s).toArray⟩ : ByteArray) = s.toUTF8 := by simp [utf8]
  rw [stringOf, hbytes, String.fromUTF8?, dif_pos]
  rfl

section
variable {k : Nat}

@[simp] theorem varints_optional {j : Nat} (value : Option Bool) :
    varints k (optional j value) = if j = k then value.toList.map (fun b => if b then 1 else 0) else [] :=
  varints_map_varint

@[simp] theorem lens_optional {j : Nat} (value : Option Bool) : lens k (optional j value) = [] := lens_map_varint

@[simp] theorem int32Of_comp : (int32Of ∘ fun t : Int32 => t.toInt64.toUInt64.toNat) = id :=
  funext int32Of_toNat

@[simp] theorem boolOf_comp : (boolOf ∘ fun b : Bool => if b = true then 1 else 0) = id := funext boolOf_toNat

@[simp] theorem getLast?_toList {α : Type*} (value : Option α) : value.toList.getLast? = value := by
  cases value <;> rfl

theorem Security.ofRecords_records (m : Security) : ofRecords m.records = some m := by
  simp [ofRecords, records]

theorem securitiesOf_eq {rs : List Record} {l : List Security}
    (h : lens k rs = l.map fun s => encode s.records) : securitiesOf k rs = some l := by
  rw [securitiesOf, h]
  clear h
  induction l with
  | nil => rfl
  | cons s l ih =>
    rw [List.map_cons, List.mapM_cons, decode_encode, Option.bind_some, Security.ofRecords_records, ih]
    rfl

end

theorem InitConnect.C2S.ofRecords_records (m : InitConnect.C2S) : ofRecords m.records = some m := by
  simp [ofRecords, records]

theorem GetGlobalState.C2S.ofRecords_records (m : GetGlobalState.C2S) : ofRecords m.records = some m := by
  simp [ofRecords, records]

theorem KeepAlive.C2S.ofRecords_records (m : KeepAlive.C2S) : ofRecords m.records = some m := by
  show some (⟨(UInt64.ofNat m.time.toUInt64.toNat).toInt64⟩ : C2S) = some m
  rw [UInt64.ofNat_toNat]
  rfl

theorem Qot_Sub.C2S.ofRecords_records (m : Qot_Sub.C2S) : ofRecords m.records = some m := by
  have hlist : securitiesOf 1 m.records = some m.securityList := securitiesOf_eq (by simp [records])
  rw [ofRecords, hlist]
  simp [records]

theorem Qot_RegQotPush.C2S.ofRecords_records (m : Qot_RegQotPush.C2S) : ofRecords m.records = some m := by
  have hlist : securitiesOf 1 m.records = some m.securityList := securitiesOf_eq (by simp [records])
  rw [ofRecords, hlist]
  simp [records]

namespace Request

theorem decodeAs_records (r : Request) : decodeAs r.protoID (encode r.records) = some r := by
  have hc2s : embedded 1 r.records = some r.c2sRecords := by
    rw [embedded, records, lens_cons_len, if_pos rfl, if_neg (List.cons_ne_nil _ _), lens_nil]
    simp [decode_encode]
  rw [decodeAs, decode_encode]
  simp only [Option.bind_eq_bind, Option.bind_some, hc2s]
  cases r with
  | initConnect m => exact congrArg (Option.map initConnect) m.ofRecords_records
  | getGlobalState m => exact congrArg (Option.map getGlobalState) m.ofRecords_records
  | keepAlive m => exact congrArg (Option.map keepAlive) m.ofRecords_records
  | qotSub m => exact congrArg (Option.map qotSub) m.ofRecords_records
  | qotRegQotPush m => exact congrArg (Option.map qotRegQotPush) m.ofRecords_records

theorem byteSizeLong_lt_iff (r : Request) : r.byteSizeLong < 2 ^ 31 ↔ (encode r.records).length < 2 ^ 31 := by
  obtain ⟨hs, -, hl⟩ := Renders.request r
  constructor
  · intro h
    by_contra hle
    exact absurd (hl (Nat.le_of_not_lt hle)) (Nat.not_le.2 h)
  · intro h
    rwa [hs h]

theorem serializeToString_eq (r : Request) :
    r.pbMessage.serializeToString =
      if (encode r.records).length < 2 ^ 31 then some (encode r.records) else none := by
  by_cases h : (encode r.records).length < 2 ^ 31
  · rw [if_pos h, pbMessage, (Renders.request r).bytes_eq h]
    exact if_pos (r.byteSizeLong_lt_iff.2 h)
  · rw [if_neg h]
    exact if_neg fun hlt => h (r.byteSizeLong_lt_iff.1 hlt)

theorem exact_of_lt {r : Request} (h : (encode r.records).length < 2 ^ 31) : r.pbMessage.Exact := by
  have hstr := r.serializeToString_eq
  rw [if_pos h] at hstr
  refine ⟨by rw [hstr]; rfl, ?_⟩
  rw [PbMessage.bytes, hstr, Option.getD_some, pbMessage, (Renders.request r).size_eq h]
  exact (Int32.toInt_ofNat_of_lt h).symm

/-- `ByteSize` is the length of what `SerializeToString` gives exactly as long as the request has fewer
than 2^31 bytes; otherwise nothing is serialised. -/
theorem pbMessage_exact_iff (r : Request) :
    (r.pbMessage.Exact ↔ (encode r.records).length < 2 ^ 31) ∧
      (r.pbMessage.serializeToString = none ↔ 2 ^ 31 ≤ (encode r.records).length) := by
  have hstr := r.serializeToString_eq
  by_cases h : (encode r.records).length < 2 ^ 31
  · rw [if_pos h] at hstr
    exact ⟨iff_of_true (exact_of_lt h) h, iff_of_false (by rw [hstr]; simp) (Nat.not_le.2 h)⟩
  · rw [if_neg h] at hstr
    exact ⟨iff_of_false (fun hex => by simp [PbMessage.Exact, hstr] at hex) h,
      iff_of_true hstr (Nat.le_of_not_lt h)⟩

/-- What `SerializeToString` gives reads, under the protocol ID of the request, as that request. -/
theorem decodeAs_serializeToString (r : Request) :
    r.pbMessage.serializeToString.bind (decodeAs r.protoID) =
      if (encode r.records).length < 2 ^ 31 then some r else none := by
  rw [serializeToString_eq]
  split_ifs
  · exact r.decodeAs_records
  · rfl

end Request
end FutuOpenD

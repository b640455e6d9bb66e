import FutuOpenD.QuoteHandler
import FutuOpenD.Replies
import FutuOpenD.RequestDecode
import FutuOpenD.Sha1

/-!
# What the program brings along

`Outside` leaves the digest, the serialisers and the parsers open. `Outside.real` and `Outside.parsing` are
those of the program, and `Outside.program` has nothing but them, on a transport that takes everything. The
requests that the client makes (`ClientRequest`) are short, so the serialisers do not refuse them.
-/

namespace FutuOpenD
open Bytes Wire

namespace ResponseFields
variable {σ : Type} [Generated σ]

/-- The accessors of the generated class, with the defaults of the `.proto` file. -/
def getRetType (rsp : ResponseFields σ) : Int32 := rsp.retType.getD (-400)

def getRetMsg (rsp : ResponseFields σ) : List UInt8 := rsp.retMsg.getD []

def getS2C (rsp : ResponseFields σ) : σ := rsp.s2c.getD Generated.empty

end ResponseFields

namespace InitConnect

def S2CFields.toS2C (m : S2CFields) : S2C := ⟨m.loginUserID.getD 0, m.keepAliveInterval.getD 0⟩

/-- The response as `Client.onRspInitConnect` reads it; `text` makes a `String` of the bytes of a string. -/
def ResponseFields.toResponse (text : List UInt8 → String) (rsp : ResponseFields) : Response :=
  ⟨rsp.getRetType, text rsp.getRetMsg, rsp.s2c.map S2CFields.toS2C⟩

end InitConnect

def Reply.toResponse (text : List UInt8 → String) (r : Reply) : Response :=
  r.on fun _ _ rsp => ⟨rsp.getRetType, text rsp.getRetMsg⟩

/-- The surroundings `W`, with the parser of the program. -/
def Outside.parsing (L : InputLib) (text : List UInt8 → String) (W : Outside) : Outside :=
  { W with
    parseInitConnect := fun pData nLen =>
      (Generated.parseFromArray L pData nLen).map (InitConnect.ResponseFields.toResponse text)
    parseResponse := fun nProtoID pData nLen => (Reply.parseAs L nProtoID pData nLen).map (Reply.toResponse text) }

/-- The surroundings `W`, with the digest and the serialisation of the program. -/
def Outside.real (W : Outside) (garbage : Field 64) : Outside :=
  { W with sha1 := bodySha1 garbage, pb := Request.pbMessage }

/-- The characters of an ASCII string. -/
def asciiText (bytes : List UInt8) : String := String.ofList (bytes.map fun b => Char.ofNat b.toNat)

def Outside.program : Outside := (Outside.plain.real (zeros 64)).parsing .plain asciiText

/-- The header with which the server sends the reply. -/
def Reply.header (r : Reply) : APIProtoHeader :=
  { APIProtoHeader.init with
    nProtoID := r.protoID
    nBodyLen := UInt32.ofNat (encode r.records).length
    arrBodySHA1 := bodySha1 (zeros 64) (encode r.records) }

/-- A response to `InitConnect`, in its frame. -/
def initConnectRsp (k : Int32) : List UInt8 := (Reply.successOf k).header.toBytes ++ encode (Reply.successOf k).records

/-! ### The requests of the client -/

/-- The requests that the client makes. -/
inductive ClientRequest : Request → Prop
  | initConnect : ClientRequest (.initConnect ⟨100, "demo", some true⟩)
  | getGlobalState (nUserID : UInt64) : ClientRequest (.getGlobalState ⟨nUserID⟩)
  | subscribe : ClientRequest
      (.qotSub (NetCenter.subscribeC2S Client.stocks Client.subTypes true true Client.rehabTypes true))
  | regPush : ClientRequest
      (.qotRegQotPush (NetCenter.regPushC2S Client.stocks Client.subTypes Client.rehabTypes true true))
  | keepAlive (now : Int64) : ClientRequest (.keepAlive ⟨now⟩)

section
variable {k : Nat}

theorem length_encode_int32 (hk : k < 16) (value : Int32) :
    (Record.encode ⟨k, int32Payload value⟩).length ≤ 11 :=
  length_encode_varint hk value.toInt64.toUInt64.toNat_lt

theorem length_encode_bool (hk : k < 16) (value : Bool) : (Record.encode ⟨k, boolPayload value⟩).length ≤ 11 :=
  length_encode_varint hk (by cases value <;> decide)

end

/-- The security list of the client is one stock. -/
theorem length_encode_stocks :
    (Record.encode ⟨1, .len (encode (Security.records ⟨QotMarket.hkSecurity.toInt32, "00700"⟩))⟩).length ≤ 20 := by
  have hmarket := length_encode_int32 (k := 1) (by decide) QotMarket.hkSecurity.toInt32
  have hcode : (Record.encode ⟨2, .len (utf8 "00700")⟩).length = 7 := length_encode_len (by decide) (by decide)
  have hsec : (encode (Security.records ⟨QotMarket.hkSecurity.toInt32, "00700"⟩)).length ≤ 18 := by
    rw [Security.records, length_encode_cons, length_encode_cons, encode_nil, List.length_nil]
    dsimp only
    omega
  rw [length_encode_len (by decide) (by omega)]
  omega

/-- The requests of the client are short. -/
theorem ClientRequest.length_le {r : Request} (h : ClientRequest r) : (encode r.records).length ≤ 128 := by
  have hc2s : (encode r.c2sRecords).length ≤ 120 := by
    have hstocks := length_encode_stocks
    have hint := fun k hk v => length_encode_int32 (k := k) hk v
    have hbool := fun k hk v => length_encode_bool (k := k) hk v
    cases h with
    | initConnect =>
      have hid : (Record.encode ⟨2, .len (utf8 "demo")⟩).length = 6 := length_encode_len (by decide) (by decide)
      have hver := hint 1 (by decide) 100
      have hnotify := hbool 3 (by decide) true
      show (encode [⟨1, int32Payload 100⟩, ⟨2, .len (utf8 "demo")⟩, ⟨3, boolPayload true⟩]).length ≤ 120
      simp only [length_encode_cons, encode_nil, List.length_nil]
      omega
    | getGlobalState u =>
      have huser := length_encode_varint (k := 1) (by decide) u.toNat_lt
      show (encode [⟨1, .varint u.toNat⟩]).length ≤ 120
      rw [length_encode_cons, encode_nil, List.length_nil]
      omega
    | subscribe =>
      have hbook := hint 2 (by decide) SubType.orderBook.toInt32
      have hbroker := hint 2 (by decide) SubType.broker.toInt32
      have hsub := hbool 3 (by decide) true
      have hreg := hbool 4 (by decide) true
      have hfirst := hbool 6 (by decide) true
      show (encode [_, ⟨2, int32Payload SubType.orderBook.toInt32⟩, ⟨2, int32Payload SubType.broker.toInt32⟩,
        ⟨3, boolPayload true⟩, ⟨4, boolPayload true⟩, ⟨6, boolPayload true⟩]).length ≤ 120
      simp only [length_encode_cons, encode_nil, List.length_nil]
      omega
    | regPush =>
      have hbook := hint 2 (by decide) SubType.orderBook.toInt32
      have hbroker := hint 2 (by decide) SubType.broker.toInt32
      have hrehab := hint 3 (by decide) RehabType.none.toInt32
      have hreg := hbool 4 (by decide) true
      have hfirst := hbool 5 (by decide) true
      show (encode [_, ⟨2, int32Payload SubType.orderBook.toInt32⟩, ⟨2, int32Payload SubType.broker.toInt32⟩,
        ⟨3, int32Payload RehabType.none.toInt32⟩, ⟨4, boolPayload true⟩, ⟨5, boolPayload true⟩]).length ≤ 120
      simp only [length_encode_cons, encode_nil, List.length_nil]
      omega
    | keepAlive now =>
      have htime := length_encode_varint (k := 1) (by decide) now.toUInt64.toNat_lt
      show (encode [⟨1, .varint now.toUInt64.toNat⟩]).length ≤ 120
      rw [length_encode_cons, encode_nil, List.length_nil]
      omega
  rw [Request.records, length_encode_cons, length_encode_len (by decide) (by omega), encode_nil, List.length_nil]
  omega

theorem real_serializes {W : Outside} {garbage : Field 64} (r : Request) (h : ClientRequest r) :
    ((W.real garbage).pb r).serializeToString.isSome := by
  have hlen := h.length_le
  exact (Request.exact_of_lt (by omega)).1

theorem program_serializes (r : Request) (h : ClientRequest r) : (Outside.program.pb r).serializeToString.isSome :=
  show ((Outside.plain.real (zeros 64)).pb r).serializeToString.isSome from real_serializes r h

end FutuOpenD

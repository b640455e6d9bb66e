import FutuOpenD.Responses

/-!
# The replies of the server (`QuoteHandler.cpp`, `pb/*.pb.cc`)

A `Reply` is a response or an update, of the class that goes with its protocol ID. Whatever bytes encode
it, with its fields in any order, repeated, or next to unknown ones, are parsed as it, or are refused if a
required field is missing (`parseAs_of_encodes`); and the generated serialiser encodes it
(`parseAs_serializeToString`).
-/

namespace FutuOpenD
open Wire Generated

inductive Reply
  | initConnect (rsp : InitConnect.ResponseFields)
  | globalState (rsp : GetGlobalState.ResponseFields)
  | qotSub (rsp : Qot_Sub.ResponseFields)
  | qotRegQotPush (rsp : Qot_RegQotPush.ResponseFields)
  | qotUpdateTicker (rsp : Qot_UpdateTicker.ResponseFields)
  | qotUpdateBroker (rsp : Qot_UpdateBroker.ResponseFields)
  | qotUpdateOrderBook (rsp : Qot_UpdateOrderBook.ResponseFields)

namespace Reply

/-- The protocol ID of the handler that parses it. -/
def protoID : Reply → UInt32
  | .initConnect _ => apiProtoIDInitConnect
  | .globalState _ => apiProtoIDGlobalState
  | .qotSub _ => apiProtoIDQotSub
  | .qotRegQotPush _ => apiProtoIDQotRegQotPush
  | .qotUpdateTicker _ => apiProtoIDQotUpdateTicker
  | .qotUpdateBroker _ => apiProtoIDQotUpdateBroker
  | .qotUpdateOrderBook _ => apiProtoIDQotUpdateOrderBook

/-- Something that all responses have. -/
def on {α : Type*} (f : ∀ (σ : Type) [Generated σ], ResponseFields σ → α) : Reply → α
  | .initConnect rsp => f _ rsp
  | .globalState rsp => f _ rsp
  | .qotSub rsp => f _ rsp
  | .qotRegQotPush rsp => f _ rsp
  | .qotUpdateTicker rsp => f _ rsp
  | .qotUpdateBroker rsp => f _ rsp
  | .qotUpdateOrderBook rsp => f _ rsp

def isInitialized (r : Reply) : Bool := r.on fun _ _ rsp => Generated.isInitialized rsp

def serializeToString (r : Reply) : Option (List UInt8) := r.on fun _ _ rsp => Generated.serializeToString rsp

def records (r : Reply) : List Record := r.on fun _ _ rsp => Generated.records rsp

/-- `ParseFromArray` for the response that goes with a protocol ID. -/
def parseAs (L : InputLib) (nProtoID : UInt32) (pData : List UInt8) (nLen : Int32) : Option Reply :=
  if nProtoID = apiProtoIDInitConnect then (parseFromArray L pData nLen).map initConnect
  else if nProtoID = apiProtoIDGlobalState then (parseFromArray L pData nLen).map globalState
  else if nProtoID = apiProtoIDQotSub then (parseFromArray L pData nLen).map qotSub
  else if nProtoID = apiProtoIDQotUpdateTicker then (parseFromArray L pData nLen).map qotUpdateTicker
  else if nProtoID = apiProtoIDQotRegQotPush then (parseFromArray L pData nLen).map qotRegQotPush
  else if nProtoID = apiProtoIDQotUpdateBroker then (parseFromArray L pData nLen).map qotUpdateBroker
  else if nProtoID = apiProtoIDQotUpdateOrderBook then (parseFromArray L pData nLen).map qotUpdateOrderBook
  else none

def Encodes (r : Reply) (body : List UInt8) : Prop := r.on fun _ _ rsp => Generated.Encodes rsp body

section
variable {L : InputLib} {σ : Type} [Generated σ] {body : List UInt8}

theorem parse_map (hL : L.Lawful) (hdepth : depth (ResponseFields σ) ≤ 100) (f : ResponseFields σ → Reply)
    {rsp : ResponseFields σ} (hbody : Generated.Encodes rsp body) (hlen : body.length < 2 ^ 31) :
    (parseFromArray L body (Int32.ofNat body.length)).map f =
      if Generated.isInitialized rsp then some (f rsp) else none := by
  rw [parseFromArray_of_encodes hL hdepth hbody hlen]
  split_ifs <;> rfl

/-- Every encoding of a reply is parsed as it, or refused if a required field is missing. -/
theorem parseAs_of_encodes (hL : L.Lawful) {r : Reply} (hbody : r.Encodes body) (hlen : body.length < 2 ^ 31) :
    parseAs L r.protoID body (Int32.ofNat body.length) = if r.isInitialized then some r else none := by
  cases r <;> exact parse_map hL (by decide) _ hbody hlen

end

/-- The records of a broker, in an order of their own. -/
def brokerRecords (id : Nat) : List Record := [⟨3, .varint 1⟩, ⟨2, .len []⟩, ⟨1, .varint id⟩]

/-- A part of the `s2c` of an update, with an entry of the ask list and a part of the security. -/
def partOf (id : Nat) (security : Record) : List Record :=
  [⟨2, .len (encode (brokerRecords id))⟩, ⟨1, .len (encode [security])⟩]

/-- An `s2c` in two parts, a field that is unknown, one of the wrong kind, and the return type twice. -/
def shuffled : List Record :=
  [⟨4, .len (encode (partOf 7 ⟨2, .len []⟩))⟩, ⟨9, .len [1, 2]⟩, ⟨1, .varint 3⟩, ⟨2, .varint 5⟩,
    ⟨4, .len (encode (partOf 8 ⟨1, .varint 1⟩))⟩, ⟨1, .varint 0⟩]

def shuffledUpdate : Qot_UpdateBroker.ResponseFields where
  retType := some 0
  s2c := some ⟨some ⟨some 1, some []⟩, [⟨some 7, some [], some 1⟩, ⟨some 8, some [], some 1⟩], []⟩

theorem ofRecords_shuffled : ofRecords shuffled = shuffledUpdate := by
  have hparts : parts (lens 4 shuffled) = partOf 7 ⟨2, .len []⟩ ++ partOf 8 ⟨1, .varint 1⟩ := by
    simp [shuffled, parts, decode_encode]
  have hs2c : messageOf Qot_UpdateBroker.S2CFields (lens 4 shuffled) =
      some (ofRecords (partOf 7 ⟨2, .len []⟩ ++ partOf 8 ⟨1, .varint 1⟩)) := by
    rw [messageOf, if_neg (by simp [shuffled]), hparts]
  have hsecurity : messageOf Qot_Common.SecurityFields [encode [⟨2, .len []⟩], encode [⟨1, .varint 1⟩]] =
      some ⟨some 1, some []⟩ := by
    rw [messageOf, if_neg (by simp), parts]
    simp only [List.flatMap_cons, decode_encode]
    rfl
  have hbrokers : messagesOf Qot_Common.BrokerFields [encode (brokerRecords 7), encode (brokerRecords 8)] =
      [⟨some 7, some [], some 1⟩, ⟨some 8, some [], some 1⟩] := by
    simp only [messagesOf, List.map_cons, parts_encode]
    rfl
  rw [ResponseFields.ofRecords_response, hs2c, ofRecords_askBid]
  have hlens1 : lens 1 (partOf 7 ⟨2, .len []⟩ ++ partOf 8 ⟨1, .varint 1⟩) =
      [encode [⟨2, .len []⟩], encode [⟨1, .varint 1⟩]] := rfl
  have hlens2 : lens 2 (partOf 7 ⟨2, .len []⟩ ++ partOf 8 ⟨1, .varint 1⟩) =
      [encode (brokerRecords 7), encode (brokerRecords 8)] := rfl
  rw [hlens1, hlens2, hsecurity, hbrokers]
  rfl

theorem sound_partOf {id : Nat} (hid : id < 128) {security : Record} (hvalid : ValidRecord security)
    (hbroker : (encode (brokerRecords id)).length < 2 ^ 31) (hlen : (encode [security]).length < 2 ^ 31) :
    ∀ rec ∈ partOf id security, ValidRecord rec ∧ WellFormed Qot_UpdateBroker.S2CFields rec := by
  have hbrokers : ∀ rec ∈ brokerRecords id, ValidRecord rec ∧ WellFormed Qot_Common.BrokerFields rec := by
    simp only [brokerRecords, List.forall_mem_cons]
    refine ⟨⟨.of_small (by decide) (by decide) ?_, ?_⟩, ⟨.of_small (by decide) (by decide) ?_, ?_⟩,
      ⟨.of_small (by decide) (by decide) (Nat.lt_trans hid (by decide)), ?_⟩, by simp⟩ <;>
      simp [PayloadFits, WellFormed, fields, Qot_Common.BrokerFields.fields, Member.required, MemberType.scalar]
  have hsecurity : ∀ rec ∈ [security], ValidRecord rec ∧ WellFormed Qot_Common.SecurityFields rec := by
    simpa [WellFormed, fields, Qot_Common.SecurityFields.fields, Member.required, MemberType.scalar] using hvalid
  simp only [partOf, List.forall_mem_cons, wellFormed_askBid]
  exact ⟨⟨.of_small (by decide) (by decide) hbroker, .of_ne (by simp), .of_encode hbrokers, .of_ne (by simp)⟩,
    ⟨.of_small (by decide) (by decide) hlen, .of_encode hsecurity, .of_ne (by simp), .of_ne (by simp)⟩, by simp⟩

theorem encodes_shuffled : (qotUpdateBroker shuffledUpdate).Encodes (encode shuffled) := by
  have hvarint : ∀ k n, (0 < k ∧ k < 4) ∧ n < 128 →
      ValidRecord ⟨k, .varint n⟩ ∧ WellFormed Qot_UpdateBroker.ResponseFields ⟨k, .varint n⟩ := by
    rintro k n ⟨⟨hpos, hk⟩, hn⟩
    have hfits : n < 2 ^ 64 := Nat.lt_trans hn (by decide)
    exact ⟨.of_small hpos (by omega) hfits, ResponseFields.wellFormed_response.2 (.of_ne (Nat.ne_of_lt hk))⟩
  have hs2c : ∀ rs, (encode rs).length < 2 ^ 31 →
      (∀ rec ∈ rs, ValidRecord rec ∧ WellFormed Qot_UpdateBroker.S2CFields rec) →
      ValidRecord ⟨4, .len (encode rs)⟩ ∧ WellFormed Qot_UpdateBroker.ResponseFields ⟨4, .len (encode rs)⟩ :=
    fun rs hlen hrs =>
      ⟨.of_small (by decide) (by decide) hlen, ResponseFields.wellFormed_response.2 (.of_encode hrs)⟩
  refine ⟨shuffled, rfl, ?_, ofRecords_shuffled⟩
  simp only [shuffled, List.forall_mem_cons]
  refine ⟨hs2c _ ?_ (sound_partOf (by decide) (.of_small (by decide) (by decide) ?_) ?_ ?_),
    ⟨.of_small (by decide) (by decide) ?_, ResponseFields.wellFormed_response.2 (.of_ne (by decide))⟩,
    hvarint 1 3 (by simp), hvarint 2 5 (by simp),
    hs2c _ ?_ (sound_partOf (by decide) (.of_small (by decide) (by decide) ?_) ?_ ?_),
    hvarint 1 0 (by simp), by simp⟩ <;>
    simp [PayloadFits, partOf, brokerRecords, encode, Record.encode, Payload.encode, tag, varint, Payload.wireType]

theorem parseAs_shuffled :
    parseAs .plain apiProtoIDQotUpdateBroker (encode shuffled) (Int32.ofNat (encode shuffled).length) =
      some (qotUpdateBroker shuffledUpdate) := by
  have h := parseAs_of_encodes InputLib.plain_lawful encodes_shuffled
    (by simp [shuffled, partOf, brokerRecords, encode, Record.encode, Payload.encode, tag, varint, Payload.wireType])
  rw [if_pos (by rfl)] at h
  exact h

section
variable {L : InputLib}

theorem serializeToString_eq (r : Reply) :
    r.serializeToString = if (encode r.records).length < 2 ^ 31 then some (encode r.records) else none := by
  cases r <;> exact Generated.serializeToString_eq _

theorem encodes_records {r : Reply} (hlen : (encode r.records).length < 2 ^ 31) : r.Encodes (encode r.records) := by
  cases r <;> exact Generated.encodes_records hlen

/-- What the generated serialiser writes, if it is not too long, is read back as the reply, if no required
field is missing. -/
theorem parseAs_serializeToString (hL : L.Lawful) (r : Reply) :
    (r.serializeToString.bind fun body => parseAs L r.protoID body (Int32.ofNat body.length)) =
      if (encode r.records).length < 2 ^ 31 ∧ r.isInitialized then some r else none := by
  rw [serializeToString_eq]
  by_cases h : (encode r.records).length < 2 ^ 31
  · rw [if_pos h, Option.bind_some, parseAs_of_encodes hL (encodes_records h) h]
    simp only [h, true_and]
  · rw [if_neg h, if_neg fun hc => h hc.1]
    rfl

end

/-- A success for user 7 with the interval `k`. -/
def successOf (k : Int32) : Reply :=
  .initConnect ⟨some 0, none, none, some ⟨some 100, some 7, some 9, some [1, 2], some k⟩⟩

def success : Reply := successOf 10

theorem length_encode_success : (encode success.records).length = 16 := by
  have hrecords : success.records = [⟨1, .varint 0⟩, ⟨4, .len (encode [⟨1, .varint 100⟩, ⟨2, .varint 7⟩, ⟨3, .varint 9⟩,
    ⟨4, .len [1, 2]⟩, ⟨5, .varint 10⟩])⟩] := rfl
  rw [hrecords]
  simp [encode, Record.encode, Payload.encode, tag, varint, Payload.wireType]

theorem parseAs_serializeToString_success :
    (success.serializeToString.bind fun body => parseAs .plain success.protoID body (Int32.ofNat body.length)) =
      some success := by
  have h := parseAs_serializeToString InputLib.plain_lawful success
  rw [length_encode_success, if_pos (by decide)] at h
  exact h

end Reply
end FutuOpenD

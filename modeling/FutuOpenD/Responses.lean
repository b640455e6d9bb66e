import FutuOpenD.MemberTypes

/-!
# The responses and updates of the server (`pb/*.pb.cc`)

What `protoc` generates for the messages that the client parses, as the list of their fields. A member is
`none` where its bit in `_has_bits_` is not set. All responses have the same fields but for the type of
`s2c`, and two of the updates differ in the type of their lists only.
-/

namespace FutuOpenD
open Wire WireFormatLite CodedType

namespace Qot_Common

/-- `Qot_Common::Security`. -/
structure SecurityFields where
  market : Option Int32 := none
  code : Option (List UInt8) := none
deriving DecidableEq

def SecurityFields.fields : List (Member SecurityFields) :=
  [.required 1 8 int32 market fun m v => { m with market := v },
    .required 2 18 string code fun m v => { m with code := v }]

theorem SecurityFields.lawful : Fields {} fields where
  ok := by
    simp only [fields, List.forall_mem_cons, Member.required, Member.ok_iff]
    simp
  nodup := by decide
  get_set_of_ne := by
    simp only [fields, List.forall_mem_cons, Member.required]
    simp
  ext := by
    rintro ⟨⟩ ⟨⟩ h
    simpa [fields, Member.required] using h

instance : Generated SecurityFields := .ofRequired {} SecurityFields.fields SecurityFields.lawful

/-- `Qot_Common::Broker`. -/
structure BrokerFields where
  id : Option Int64 := none
  name : Option (List UInt8) := none
  pos : Option Int32 := none
deriving DecidableEq

def BrokerFields.fields : List (Member BrokerFields) :=
  [.required 1 8 int64 id fun m v => { m with id := v },
    .required 2 18 string name fun m v => { m with name := v },
    .required 3 24 int32 pos fun m v => { m with pos := v }]

theorem BrokerFields.lawful : Fields {} fields where
  ok := by
    simp only [fields, List.forall_mem_cons, Member.required, Member.ok_iff]
    simp
  nodup := by decide
  get_set_of_ne := by
    simp only [fields, List.forall_mem_cons, Member.required]
    simp
  ext := by
    rintro ⟨⟩ ⟨⟩ h
    simpa [fields, Member.required] using h

instance : Generated BrokerFields := .ofRequired {} BrokerFields.fields BrokerFields.lawful

/-- `Qot_Common::Ticker`. -/
structure TickerFields where
  time : Option (List UInt8) := none
  sequence : Option Int64 := none
  dir : Option Int32 := none
  price : Option DoubleBits := none
  volume : Option Int64 := none
  turnover : Option DoubleBits := none
  recvTime : Option DoubleBits := none
  type : Option Int32 := none
  typeSign : Option Int32 := none
deriving DecidableEq

def TickerFields.fields : List (Member TickerFields) :=
  [.required 1 10 string time fun m v => { m with time := v },
    .required 2 16 int64 sequence fun m v => { m with sequence := v },
    .required 3 24 int32 dir fun m v => { m with dir := v },
    .required 4 33 double price fun m v => { m with price := v },
    .required 5 40 int64 volume fun m v => { m with volume := v },
    .required 6 49 double turnover fun m v => { m with turnover := v },
    .optional 7 57 double recvTime fun m v => { m with recvTime := v },
    .optional 8 64 int32 type fun m v => { m with type := v },
    .optional 9 72 int32 typeSign fun m v => { m with typeSign := v }]

theorem TickerFields.lawful : Fields {} fields where
  ok := by
    simp only [fields, List.forall_mem_cons, Member.required, Member.optional, Member.ok_iff]
    simp
  nodup := by decide
  get_set_of_ne := by
    simp only [fields, List.forall_mem_cons, Member.required, Member.optional]
    simp
  ext := by
    rintro ⟨⟩ ⟨⟩ h
    simpa [fields, Member.required, Member.optional] using h

instance : Generated TickerFields := .ofRequired {} TickerFields.fields TickerFields.lawful

/-- `Qot_Common::OrderBook`. -/
structure OrderBookFields where
  price : Option DoubleBits := none
  volume : Option Int64 := none
  orederCount : Option Int32 := none
deriving DecidableEq

def OrderBookFields.fields : List (Member OrderBookFields) :=
  [.required 1 9 double price fun m v => { m with price := v },
    .required 2 16 int64 volume fun m v => { m with volume := v },
    .required 3 24 int32 orederCount fun m v => { m with orederCount := v }]

theorem OrderBookFields.lawful : Fields {} fields where
  ok := by
    simp only [fields, List.forall_mem_cons, Member.required, Member.ok_iff]
    simp
  nodup := by decide
  get_set_of_ne := by
    simp only [fields, List.forall_mem_cons, Member.required]
    simp
  ext := by
    rintro ⟨⟩ ⟨⟩ h
    simpa [fields, Member.required] using h

instance : Generated OrderBookFields := .ofRequired {} OrderBookFields.fields OrderBookFields.lawful

end Qot_Common

namespace InitConnect

/-- `InitConnect::S2C`. -/
structure S2CFields where
  serverVer : Option Int32 := none
  loginUserID : Option UInt64 := none
  connID : Option UInt64 := none
  connAESKey : Option (List UInt8) := none
  keepAliveInterval : Option Int32 := none
deriving DecidableEq

def S2CFields.fields : List (Member S2CFields) :=
  [.required 1 8 int32 serverVer fun m v => { m with serverVer := v },
    .required 2 16 uint64 loginUserID fun m v => { m with loginUserID := v },
    .required 3 24 uint64 connID fun m v => { m with connID := v },
    .required 4 34 string connAESKey fun m v => { m with connAESKey := v },
    .required 5 40 int32 keepAliveInterval fun m v => { m with keepAliveInterval := v }]

theorem S2CFields.lawful : Fields {} fields where
  ok := by
    simp only [fields, List.forall_mem_cons, Member.required, Member.ok_iff]
    simp
  nodup := by decide
  get_set_of_ne := by
    simp only [fields, List.forall_mem_cons, Member.required]
    simp
  ext := by
    rintro ⟨⟩ ⟨⟩ h
    simpa [fields, Member.required] using h

instance : Generated S2CFields := .ofRequired {} S2CFields.fields S2CFields.lawful

end InitConnect

namespace GetGlobalState

/-- `GetGlobalState::S2C`. -/
structure S2CFields where
  marketHK : Option Int32 := none
  marketUS : Option Int32 := none
  marketSH : Option Int32 := none
  marketSZ : Option Int32 := none
  marketHKFuture : Option Int32 := none
  qotLogined : Option Bool := none
  trdLogined : Option Bool := none
  serverVer : Option Int32 := none
  serverBuildNo : Option Int32 := none
  time : Option Int64 := none
  localTime : Option DoubleBits := none
deriving DecidableEq

def S2CFields.fields : List (Member S2CFields) :=
  [.required 1 8 int32 marketHK fun m v => { m with marketHK := v },
    .required 2 16 int32 marketUS fun m v => { m with marketUS := v },
    .required 3 24 int32 marketSH fun m v => { m with marketSH := v },
    .required 4 32 int32 marketSZ fun m v => { m with marketSZ := v },
    .required 5 40 int32 marketHKFuture fun m v => { m with marketHKFuture := v },
    .required 6 48 bool qotLogined fun m v => { m with qotLogined := v },
    .required 7 56 bool trdLogined fun m v => { m with trdLogined := v },
    .required 8 64 int32 serverVer fun m v => { m with serverVer := v },
    .required 9 72 int32 serverBuildNo fun m v => { m with serverBuildNo := v },
    .required 10 80 int64 time fun m v => { m with time := v },
    .optional 11 89 double localTime fun m v => { m with localTime := v }]

theorem S2CFields.lawful : Fields {} fields where
  ok := by
    simp only [fields, List.forall_mem_cons, Member.required, Member.optional, Member.ok_iff]
    simp
  nodup := by decide
  get_set_of_ne := by
    simp only [fields, List.forall_mem_cons, Member.required, Member.optional]
    simp
  ext := by
    rintro ⟨⟩ ⟨⟩ h
    simpa [fields, Member.required, Member.optional] using h

instance : Generated S2CFields := .ofRequired {} S2CFields.fields S2CFields.lawful

end GetGlobalState

/-- `Qot_Sub::S2C` and `Qot_RegQotPush::S2C`, which have no fields. -/
structure EmptyS2CFields where
deriving DecidableEq

theorem EmptyS2CFields.lawful : Fields (⟨⟩ : EmptyS2CFields) [] where
  ok := by simp
  nodup := List.nodup_nil
  get_set_of_ne := by simp
  ext := fun _ _ _ => rfl

instance : Generated EmptyS2CFields := .ofFields ⟨⟩ [] EmptyS2CFields.lawful

/-- The `S2C` of an update, with a list of asks and one of bids. -/
structure AskBidFields (σ : Type) where
  security : Option Qot_Common.SecurityFields := none
  askList : List σ := []
  bidList : List σ := []
deriving DecidableEq

section
variable {σ : Type} [Generated σ]

def AskBidFields.fields : List (Member (AskBidFields σ)) :=
  [.message Qot_Common.SecurityFields 1 10 true security fun m v => { m with security := v },
    .repeatedMessage σ 2 18 askList fun m v => { m with askList := v },
    .repeatedMessage σ 3 26 bidList fun m v => { m with bidList := v }]

theorem AskBidFields.lawful : Fields ({} : AskBidFields σ) fields where
  ok := by
    simp only [fields, List.forall_mem_cons, Member.message, Member.repeatedMessage, Member.ok_iff]
    simp
  nodup := by simp [fields, Member.message, Member.repeatedMessage]
  get_set_of_ne := by
    simp only [fields, List.forall_mem_cons, Member.message, Member.repeatedMessage]
    simp
  ext := by
    rintro ⟨⟩ ⟨⟩ h
    simpa [fields, Member.message, Member.repeatedMessage] using h

instance : Generated (AskBidFields σ) := .ofFields {} AskBidFields.fields AskBidFields.lawful

/-- What the `.proto` file says of an `AskBidFields`. -/
theorem ofRecords_askBid (rs : List Record) : (Generated.ofRecords rs : AskBidFields σ) =
    ⟨messageOf _ (lens 1 rs), messagesOf σ (lens 2 rs), messagesOf σ (lens 3 rs)⟩ := rfl

theorem wellFormed_askBid {rec : Record} : Generated.WellFormed (AskBidFields σ) rec ↔
    Embeds Qot_Common.SecurityFields 1 rec ∧ Embeds σ 2 rec ∧ Embeds σ 3 rec := by
  simp [Generated.WellFormed, Generated.fields, AskBidFields.fields, Member.message, Member.repeatedMessage,
    MemberType.message, MemberType.repeatedMessage]

end

abbrev Qot_UpdateBroker.S2CFields := AskBidFields Qot_Common.BrokerFields

abbrev Qot_UpdateOrderBook.S2CFields := AskBidFields Qot_Common.OrderBookFields

namespace Qot_UpdateTicker

/-- `Qot_UpdateTicker::S2C`. -/
structure S2CFields where
  security : Option Qot_Common.SecurityFields := none
  tickerList : List Qot_Common.TickerFields := []
deriving DecidableEq

def S2CFields.fields : List (Member S2CFields) :=
  [.message Qot_Common.SecurityFields 1 10 true security fun m v => { m with security := v },
    .repeatedMessage Qot_Common.TickerFields 2 18 tickerList fun m v => { m with tickerList := v }]

theorem S2CFields.lawful : Fields {} fields where
  ok := by
    simp only [fields, List.forall_mem_cons, Member.message, Member.repeatedMessage, Member.ok_iff]
    simp
  nodup := by decide
  get_set_of_ne := by
    simp only [fields, List.forall_mem_cons, Member.message, Member.repeatedMessage]
    simp
  ext := by
    rintro ⟨⟩ ⟨⟩ h
    simpa [fields, Member.message, Member.repeatedMessage] using h

instance : Generated S2CFields := .ofFields {} S2CFields.fields S2CFields.lawful

end Qot_UpdateTicker

/-- A `Response`, with an `s2c` of type `σ`. -/
structure ResponseFields (σ : Type) where
  retType : Option Int32 := none
  retMsg : Option (List UInt8) := none
  errCode : Option Int32 := none
  s2c : Option σ := none
deriving DecidableEq

namespace ResponseFields
variable {σ : Type} [Generated σ]

def fields : List (Member (ResponseFields σ)) :=
  [.required 1 8 int32 retType fun m v => { m with retType := v },
    .optional 2 18 string retMsg fun m v => { m with retMsg := v },
    .optional 3 24 int32 errCode fun m v => { m with errCode := v },
    .message σ 4 34 false s2c fun m v => { m with s2c := v }]

/-- The optional fields are asked for only if one of their bits is set. -/
def byteSizeLong (m : ResponseFields σ) : Nat :=
  addIfHas m.retType (1 + int32Size ·) +
    if m.retMsg.isSome || m.s2c.isSome || m.errCode.isSome then
      addIfHas m.retMsg (1 + stringSize ·) + (addIfHas m.s2c fun s2c => 1 + messageSize (Generated.byteSizeLong s2c)) +
        addIfHas m.errCode (1 + int32Size ·)
    else 0

theorem lawful : Fields ({} : ResponseFields σ) fields where
  ok := by
    simp only [fields, List.forall_mem_cons, Member.required, Member.optional, Member.message, Member.ok_iff]
    simp
  nodup := by simp [fields, Member.required, Member.optional, Member.message]
  get_set_of_ne := by
    simp only [fields, List.forall_mem_cons, Member.required, Member.optional, Member.message]
    simp
  ext := by
    rintro ⟨⟩ ⟨⟩ h
    simpa [fields, Member.required, Member.optional, Member.message] using h

theorem byteSizeLong_eq (m : ResponseFields σ) : m.byteSizeLong = sizeOfFields fields m := by
  have hsum : sizeOfFields fields m = addIfHas m.retType (1 + int32Size ·) + (addIfHas m.retMsg (1 + stringSize ·) +
      (addIfHas m.errCode (1 + int32Size ·) +
        addIfHas m.s2c fun s2c => 1 + messageSize (Generated.byteSizeLong s2c))) := rfl
  rw [hsum, byteSizeLong]
  split_ifs with h
  · omega
  · simp only [Bool.or_eq_true, not_or, Bool.not_eq_true, Option.isSome_eq_false_iff, Option.isNone_iff_eq_none] at h
    obtain ⟨⟨hmsg, hs2c⟩, herr⟩ := h
    rw [hmsg, hs2c, herr]
    rfl

instance : Generated (ResponseFields σ) := ⟨{}, fields, byteSizeLong, lawful, byteSizeLong_eq⟩

/-- What the `.proto` file says of a `Response`. -/
theorem ofRecords_response (rs : List Record) : (Generated.ofRecords rs : ResponseFields σ) =
    ⟨int32.last 1 rs, string.last 2 rs, int32.last 3 rs, messageOf σ (lens 4 rs)⟩ := rfl

theorem wellFormed_response {rec : Record} : Generated.WellFormed (ResponseFields σ) rec ↔ Embeds σ 4 rec := by
  simp [Generated.WellFormed, Generated.fields, fields, Member.required, Member.optional, Member.message, MemberType.scalar,
    MemberType.message]

end ResponseFields

abbrev InitConnect.ResponseFields := FutuOpenD.ResponseFields InitConnect.S2CFields
abbrev GetGlobalState.ResponseFields := FutuOpenD.ResponseFields GetGlobalState.S2CFields
abbrev Qot_Sub.ResponseFields := FutuOpenD.ResponseFields EmptyS2CFields
abbrev Qot_RegQotPush.ResponseFields := FutuOpenD.ResponseFields EmptyS2CFields
abbrev Qot_UpdateTicker.ResponseFields := FutuOpenD.ResponseFields Qot_UpdateTicker.S2CFields
abbrev Qot_UpdateBroker.ResponseFields := FutuOpenD.ResponseFields Qot_UpdateBroker.S2CFields
abbrev Qot_UpdateOrderBook.ResponseFields := FutuOpenD.ResponseFields Qot_UpdateOrderBook.S2CFields

end FutuOpenD

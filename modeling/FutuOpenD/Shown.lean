import FutuOpenD.Surroundings

/-!
# What the console is to show

Which lines are to appear for a reply (`Reply.Shows`) and for a frame (`FrameShows`), told from the fields of the
reply and from nothing of the handlers that print them.
-/

namespace FutuOpenD
open Bytes Wire

/-- A line on `cout` or `cerr`, with the values that are given to the stream. How the stream writes them is left
out; of a price it writes six digits. -/
inductive Line
  | title (text : String)
  | parseError (nProtoID : UInt32)
  | ret (retType : Int32) (retMsg : List UInt8)
  | retServerVer (retType : Int32) (retMsg : List UInt8) (serverVer : Int32)
  | ticker (code time : List UInt8) (price : DoubleBits)
  | broker (id : Int64)
  | price (price : DoubleBits)
  | shaCheckFail
  | netError (nUvErr : Int)
  | disconnected
deriving DecidableEq

/-- A line about the connection. -/
def Line.isReport : Line → Bool
  | .netError _ => true
  | .disconnected => true
  | _ => false

namespace Qot_Common

def TickerFields.Shows (code : List UInt8) (data : TickerFields) (line : Line) : Prop :=
  ∃ time price, data.time = some time ∧ data.price = some price ∧ line = .ticker code time price

def BrokerFields.Shows (data : BrokerFields) (line : Line) : Prop := ∃ id, data.id = some id ∧ line = .broker id

def OrderBookFields.Shows (data : OrderBookFields) (line : Line) : Prop :=
  ∃ price, data.price = some price ∧ line = .price price

end Qot_Common

namespace ResponseFields
variable {σ : Type}

/-- The result that the response holds; a message that is left out is empty. -/
structure Reports (rsp : ResponseFields σ) (retType : Int32) (retMsg : List UInt8) : Prop where
  retType : rsp.retType = some retType
  retMsg : rsp.retMsg = some retMsg ∨ rsp.retMsg = none ∧ retMsg = []

/-- The result is shown. -/
def ShowsResult (rsp : ResponseFields σ) (lines : List Line) : Prop :=
  ∃ retType retMsg, rsp.Reports retType retMsg ∧ lines = [.ret retType retMsg]

/-- The result is shown and, if that is a success, what was pushed. -/
inductive ShowsPushed (pushed : σ → List Line → Prop) (rsp : ResponseFields σ) : List Line → Prop
  | failure {retType : Int32} {retMsg : List UInt8} (hret : rsp.Reports retType retMsg) (hne : retType ≠ 0) :
      ShowsPushed pushed rsp [.ret retType retMsg]
  | nothing {retMsg : List UInt8} (hret : rsp.Reports 0 retMsg) (hs2c : rsp.s2c = none) :
      ShowsPushed pushed rsp [.ret 0 retMsg]
  | entries {retMsg : List UInt8} {s2c : σ} {lines : List Line} (hret : rsp.Reports 0 retMsg)
      (hs2c : rsp.s2c = some s2c) (hlines : pushed s2c lines) : ShowsPushed pushed rsp (.ret 0 retMsg :: lines)

end ResponseFields

/-- The version of the server is 0 if the response has no `s2c`. -/
def GetGlobalState.Shows (rsp : GetGlobalState.ResponseFields) (lines : List Line) : Prop :=
  ∃ retType retMsg serverVer, rsp.Reports retType retMsg ∧
    (rsp.s2c = none ∧ serverVer = 0 ∨ ∃ s2c, rsp.s2c = some s2c ∧ s2c.serverVer = some serverVer) ∧
    lines = [.retServerVer retType retMsg serverVer]

/-- A line for each ticker, with the code of the security that all are about. -/
def Qot_UpdateTicker.Pushes (s2c : Qot_UpdateTicker.S2CFields) (lines : List Line) : Prop :=
  ∃ security code, s2c.security = some security ∧ security.code = some code ∧
    List.Forall₂ (Qot_Common.TickerFields.Shows code) s2c.tickerList lines

namespace Reply

/-- The title that its handler prints. -/
def title : Reply → String
  | .initConnect _ => "OnRsp_InitConnect: "
  | .globalState _ => "OnRsp_GetGlobalState: "
  | .qotSub _ => "OnRsp_Qot_Sub: "
  | .qotRegQotPush _ => "OnRsp_Qot_RegQotPush:"
  | .qotUpdateTicker _ => "OnRsp_Qot_UpdateTicker:"
  | .qotUpdateBroker _ => "OnRsp_Qot_UpdateBroker:"
  | .qotUpdateOrderBook _ => "OnRsp_Qot_UpdateOrderBook:"

/-- The lines for a reply that lacks no required field. Of brokers and of the order book the asks are shown. -/
def Shows : Reply → List Line → Prop
  | .initConnect rsp => rsp.ShowsResult
  | .globalState rsp => GetGlobalState.Shows rsp
  | .qotSub rsp => rsp.ShowsResult
  | .qotRegQotPush rsp => rsp.ShowsResult
  | .qotUpdateTicker rsp => rsp.ShowsPushed Qot_UpdateTicker.Pushes
  | .qotUpdateBroker rsp => rsp.ShowsPushed fun s2c => List.Forall₂ Qot_Common.BrokerFields.Shows s2c.askList
  | .qotUpdateOrderBook rsp => rsp.ShowsPushed fun s2c => List.Forall₂ Qot_Common.OrderBookFields.Shows s2c.askList

end Reply

def handledProtoIDs : List UInt32 :=
  [apiProtoIDInitConnect, apiProtoIDGlobalState, apiProtoIDKeepAlive, apiProtoIDQotSub, apiProtoIDQotRegQotPush,
    apiProtoIDQotUpdateTicker, apiProtoIDQotUpdateBroker, apiProtoIDQotUpdateOrderBook]

/-- The lines for a frame with the given header and body: a failed check, the title of a heartbeat, nothing for a
protocol that is not handled, and for a reply its title with an error or its lines. -/
inductive FrameShows (L : InputLib) (W : Outside) : APIProtoHeader × List UInt8 → List Line → Prop
  | shaCheckFail {header : APIProtoHeader} {pBody : List UInt8} (hsha : W.sha1 pBody ≠ header.arrBodySHA1) :
      FrameShows L W (header, pBody) [.shaCheckFail]
  | keepAlive {header : APIProtoHeader} {pBody : List UInt8} (hsha : W.sha1 pBody = header.arrBodySHA1)
      (hid : header.nProtoID = apiProtoIDKeepAlive) : FrameShows L W (header, pBody) [.title "OnRsp_KeepAlive: "]
  | unknown {header : APIProtoHeader} {pBody : List UInt8} (hsha : W.sha1 pBody = header.arrBodySHA1)
      (hid : header.nProtoID ∉ handledProtoIDs) : FrameShows L W (header, pBody) []
  | refused {header : APIProtoHeader} {pBody : List UInt8} {r : Reply} (hsha : W.sha1 pBody = header.arrBodySHA1)
      (hid : header.nProtoID = r.protoID)
      (hparse : Reply.parseAs L header.nProtoID pBody header.nBodyLen.toInt32 = none) :
      FrameShows L W (header, pBody) [.title r.title, .parseError header.nProtoID]
  | reply {header : APIProtoHeader} {pBody : List UInt8} {r : Reply} {lines : List Line}
      (hsha : W.sha1 pBody = header.arrBodySHA1)
      (hparse : Reply.parseAs L header.nProtoID pBody header.nBodyLen.toInt32 = some r) (hlines : r.Shows lines) :
      FrameShows L W (header, pBody) (.title r.title :: lines)

/-! ### Required fields -/

open Generated (isInitialized fields)

section
variable {σ : Type} [Generated σ]

theorem isInitialized_response {rsp : ResponseFields σ} : isInitialized rsp = true ↔
    rsp.retType.isSome = true ∧ ∀ s2c, rsp.s2c = some s2c → isInitialized s2c = true := by
  rw [isInitialized]
  simp [fields, ResponseFields.fields, Member.required, Member.optional, Member.message, MemberType.scalar,
    MemberType.message, Option.all_eq_true]

theorem isInitialized_askBid {s2c : AskBidFields σ} : isInitialized s2c = true ↔
    (s2c.security.isSome = true ∧ ∀ security, s2c.security = some security → isInitialized security = true) ∧
      (∀ data ∈ s2c.askList, isInitialized data = true) ∧ ∀ data ∈ s2c.bidList, isInitialized data = true := by
  rw [isInitialized]
  simp [fields, AskBidFields.fields, Member.message, Member.repeatedMessage, MemberType.message,
    MemberType.repeatedMessage, Option.all_eq_true]

theorem isInitialized_updateTicker {s2c : Qot_UpdateTicker.S2CFields} : isInitialized s2c = true ↔
    (s2c.security.isSome = true ∧ ∀ security, s2c.security = some security → isInitialized security = true) ∧
      ∀ data ∈ s2c.tickerList, isInitialized data = true := by
  rw [isInitialized]
  simp [fields, Qot_UpdateTicker.S2CFields.fields, Member.message, Member.repeatedMessage, MemberType.message,
    MemberType.repeatedMessage, Option.all_eq_true]

end

/-- A required field is there. -/
theorem required_eq_some {μ α : Type} [Generated μ] {m : μ} {i number tag : Nat} {t : CodedType α} {get : μ → Option α}
    {set : μ → Option α → μ} (hfield : (fields : List (Member μ))[i]? = some (.required number tag t get set))
    (h : isInitialized m = true) (d : α) : get m = some ((get m).getD d) := by
  have hhas := (Bool.and_eq_true_iff.1 (List.all_eq_true.1 h _ (List.mem_of_getElem? hfield))).1
  obtain ⟨value, hvalue⟩ := Option.isSome_iff_exists.1 (show (get m).isSome = true from hhas)
  rw [hvalue, Option.getD_some]

end FutuOpenD

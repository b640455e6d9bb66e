import FutuOpenD.Common
import FutuOpenD.Messages
import FutuOpenD.OnRecv
import FutuOpenD.TcpConnect

/-!
# Requests and the keep-alive timer (`class NetCenter`, `NetCenter.cpp`)

`Outside` is what the client meets but does not contain: libuv, the protobuf library, and the digest.
`NetCenter.trace` lists what the client does, in order, so that properties of whole runs can be stated
about it. `send` frames a message and hands it to the connection, unless it throws (`SendThrows`); the
`req` functions build the messages.
-/

namespace FutuOpenD
open Bytes Runs

/-- The codes of the platform, the digest, the result of each call of `uv_write` by its number,
serialisation of the client's requests, and `ParseFromArray` for the response to `InitConnect` and for
the response that goes with any other protocol ID. -/
structure Outside where
  errno : UvErrno
  sha1 : List UInt8 → Field 20
  uvWrite : Nat → Int
  pb : Request → PbMessage
  parseInitConnect : List UInt8 → Int32 → Option InitConnect.Response
  parseResponse : UInt32 → List UInt8 → Int32 → Option Response

/-- The simplest surroundings: a digest that is always zero, a transport that takes everything,
requests without bytes, and responses that report success whatever their bytes. -/
def Outside.plain : Outside where
  errno := .linux
  sha1 := fun _ => zeros 20
  uvWrite := fun _ => 0
  pb := fun _ => ⟨0, some []⟩
  parseInitConnect := fun _ _ => some ⟨0, "", some ⟨7, 10⟩⟩
  parseResponse := fun _ _ _ => some ⟨0, ""⟩

/-- What can be seen of the client from outside. -/
inductive Obs
  /-- `HandlePacket` is called. -/
  | frame (header : APIProtoHeader) (pBody : List UInt8)
  | shaCheckFail
  | parseError (nProtoID : UInt32)
  | ret (retType : Int32) (retMsg : String)
  /-- `Send` hands a packet to the connection. -/
  | packet (header : APIProtoHeader) (packetData : List UInt8)
  /-- `uv_timer_init`, on a timer that is active or not. -/
  | timerInit (active : Bool)
  | timerStart (timeout repeatTime : UInt64)
  | netError (nUvErr : Int)
  | disconnected
deriving DecidableEq

def Obs.toPacket : Obs → Option (APIProtoHeader × List UInt8)
  | .packet header packetData => some (header, packetData)
  | _ => none

/-- `uv_timer_t`, as far as its user knows it. -/
structure UvTimer where
  active : Bool
  timeout : UInt64
  repeatTime : UInt64
deriving DecidableEq

structure NetCenter where
  keepAliveTimer : UvTimer
  quoteConn : TcpConnect
  nNextPacketNo : UInt32
  trace : List Obs

namespace NetCenter

/-- As constructed, and after `Init`. -/
def new : NetCenter := ⟨⟨false, 0, 0⟩, TcpConnect.new, 1, []⟩

def observe (o : Obs) (n : NetCenter) : NetCenter := { n with trace := n.trace ++ [o] }

/-- The header that `Send` writes before the body `bodyData`. -/
def packetHeader (W : Outside) (nProtoID : UInt32) (nSize : Int32) (bodyData : List UInt8) (nSerialNo : UInt32) :
    APIProtoHeader :=
  { APIProtoHeader.init with
    nProtoID := nProtoID
    nProtoFmtType := 0
    nProtoVer := 0
    nSerialNo := nSerialNo
    nBodyLen := nSize.toUInt32
    arrBodySHA1 := W.sha1 (bodyData.take nSize.toInt.toNat) }

/-- The bytes that a pointer to `data` and the length `(int)data.size()` denote, if it is not negative. -/
def withIntSize (data : List UInt8) : List UInt8 := data.take (Int32.ofNat data.length).toInt.toNat

/-- Where `Send` throws `std::length_error`: `bodyData` is resized to a negative `ByteSize`, or the store is
to take a packet of which `(int)packetData.size()` is negative. -/
def SendThrows (pbObj : PbMessage) : Prop :=
  pbObj.byteSize < 0 ∨
    pbObj.serializeToString.isSome ∧ Int32.ofNat (sizeofHeader + pbObj.bytes.length) < 0

instance (pbObj : PbMessage) : Decidable (SendThrows pbObj) := inferInstanceAs (Decidable (_ ∨ _))

/-- `NetCenter::Send`, where it does not throw. -/
def send (W : Outside) (nProtoID : UInt32) (pbObj : PbMessage) (n : NetCenter) : UInt32 × NetCenter :=
  let nSize := pbObj.byteSize
  match pbObj.serializeToString with
  | none => (0, n)
  | some bodyData =>
    let header := packetHeader W nProtoID nSize bodyData n.nNextPacketNo
    let packetData := withIntSize (header.toBytes ++ bodyData)
    let n := { n with nNextPacketNo := n.nNextPacketNo + 1 }.observe (.packet header packetData)
    let r := n.quoteConn.send (W.uvWrite n.quoteConn.uv.calls.length) packetData
    (if r.1 then header.nSerialNo else 0, { n with quoteConn := r.2 })

/-- `NetCenter::Send`; nobody catches what it throws. -/
def trySend (W : Outside) (nProtoID : UInt32) (pbObj : PbMessage) (n : NetCenter) : Outcome (UInt32 × NetCenter) :=
  if SendThrows pbObj then .crashed else .running (n.send W nProtoID pbObj)

def reqGetGlobalState (W : Outside) (nUserID : UInt64) : NetCenter → UInt32 × NetCenter :=
  send W apiProtoIDGlobalState (W.pb (.getGlobalState ⟨nUserID⟩))

def reqInitConnect (W : Outside) (nClientVer : Int32) (szClientID : String) (bRecvNotify : Bool) :
    NetCenter → UInt32 × NetCenter :=
  send W apiProtoIDInitConnect (W.pb (.initConnect ⟨nClientVer, szClientID, some bRecvNotify⟩))

/-- The message that `Req_Subscribe` builds; `rehabTypes` is not read. -/
def subscribeC2S (stocks : List Security) (subTypes : List SubType) (isSub bRegPush : Bool)
    (_rehabTypes : List RehabType) (bFirstPush : Bool) : Qot_Sub.C2S where
  securityList := stocks
  subTypeList := subTypes.map SubType.toInt32
  isSubOrUnSub := isSub
  isRegOrUnRegPush := some bRegPush
  regPushRehabTypeList := []
  isFirstPush := some bFirstPush

def reqSubscribe (W : Outside) (stocks : List Security) (subTypes : List SubType) (isSub bRegPush : Bool)
    (rehabTypes : List RehabType) (bFirstPush : Bool) : NetCenter → UInt32 × NetCenter :=
  send W apiProtoIDQotSub
    (W.pb (.qotSub (subscribeC2S stocks subTypes isSub bRegPush rehabTypes bFirstPush)))

/-- `now` is what `time(NULL)` returns. -/
def reqKeepAlive (W : Outside) (now : Int64) : NetCenter → UInt32 × NetCenter :=
  send W apiProtoIDKeepAlive (W.pb (.keepAlive ⟨now⟩))

def regPushC2S (stocks : List Security) (subTypes : List SubType) (rehabTypes : List RehabType)
    (isRegPush bFirstPush : Bool) : Qot_RegQotPush.C2S where
  securityList := stocks
  subTypeList := subTypes.map SubType.toInt32
  rehabTypeList := rehabTypes.map RehabType.toInt32
  isRegOrUnReg := isRegPush
  isFirstPush := some bFirstPush

def reqRegPush (W : Outside) (stocks : List Security) (subTypes : List SubType) (rehabTypes : List RehabType)
    (isRegPush bFirstPush : Bool) : NetCenter → UInt32 × NetCenter :=
  send W apiProtoIDQotRegQotPush
    (W.pb (.qotRegQotPush (regPushC2S stocks subTypes rehabTypes isRegPush bFirstPush)))

/-- `uv_timer_init(m_pLoop, &m_keepAliveTimer)`, which libuv documents for a timer that is not active. Where the
note says that it is, libuv promises nothing of the timer from there on. -/
def uvTimerInit (n : NetCenter) : NetCenter :=
  { n with keepAliveTimer := ⟨false, 0, 0⟩ }.observe (.timerInit n.keepAliveTimer.active)

/-- `uv_timer_start(&m_keepAliveTimer, OnKeepAliveTimer, timeout, repeat)`, on a timer initialised as libuv
demands. -/
def uvTimerStart (timeout repeatTime : UInt64) (n : NetCenter) : NetCenter :=
  { n with keepAliveTimer := ⟨true, timeout, repeatTime⟩ }.observe (.timerStart timeout repeatTime)

/-- The product is an `int`, and becomes a `uint64_t` as an argument. -/
def startKeepAliveTimer (nInterval : Int32) (n : NetCenter) : NetCenter :=
  n.uvTimerInit.uvTimerStart (nInterval * 1000).toInt64.toUInt64 (nInterval * 1000).toInt64.toUInt64

def onKeepAliveTimer (W : Outside) (now : Int64) (n : NetCenter) : NetCenter := (n.reqKeepAlive W now).2

def onConnect (W : Outside) (n : NetCenter) : NetCenter := (n.reqInitConnect W 100 "demo" true).2

def onError (nUvErr : Int) (n : NetCenter) : NetCenter := n.observe (.netError nUvErr)

def onDisconnect (n : NetCenter) : NetCenter := n.observe .disconnected

def handleCall (W : Outside) (n : NetCenter) : TcpHandlerCall → NetCenter
  | .onConnect => n.onConnect W
  | .onError nUvErr => n.onError nUvErr
  | .onDisconnect => n.onDisconnect

/-- libuv runs a timer that is due, if it was initialised as libuv demands: one without a repeat time is stopped
before the call. -/
def runTimer (W : Outside) (now : Int64) (n : NetCenter) : NetCenter :=
  let t := n.keepAliveTimer
  { n with keepAliveTimer := { t with active := decide (t.repeatTime ≠ 0) } }.onKeepAliveTimer W now

/-- libuv completes the outstanding write and calls `AfterWrite`. -/
def afterWrite (W : Outside) (status : Int) (n : NetCenter) : NetCenter :=
  let r := n.quoteConn.complete.afterWrite status (W.uvWrite n.quoteConn.uv.calls.length)
  let n := { n with quoteConn := r.1 }
  match r.2 with
  | none => n
  | some call => n.handleCall W call

/-- The packets that `Send` handed over so far, each with its header. -/
def packets (n : NetCenter) : List (APIProtoHeader × List UInt8) := n.trace.filterMap Obs.toPacket

theorem withIntSize_of_lt {data : List UInt8} (h : data.length < 2 ^ 31) : withIntSize data = data := by
  rw [withIntSize, Int32.toInt_ofNat_of_lt h, Int.toNat_natCast, List.take_length]

section
variable {W : Outside} {nProtoID nSerialNo : UInt32} {pbObj : PbMessage} {n : NetCenter}

def packetOf (W : Outside) (nProtoID : UInt32) (pbObj : PbMessage) (nSerialNo : UInt32) :
    APIProtoHeader × List UInt8 :=
  let header := packetHeader W nProtoID pbObj.byteSize pbObj.bytes nSerialNo
  (header, withIntSize (header.toBytes ++ pbObj.bytes))

def sendObs (W : Outside) (nProtoID : UInt32) (pbObj : PbMessage) (nSerialNo : UInt32) : List Obs :=
  if pbObj.serializeToString.isSome then
    [.packet (packetOf W nProtoID pbObj nSerialNo).1 (packetOf W nProtoID pbObj nSerialNo).2]
  else []

theorem send_spec :
    (send W nProtoID pbObj n).2.keepAliveTimer = n.keepAliveTimer ∧
      (send W nProtoID pbObj n).2.nNextPacketNo =
        n.nNextPacketNo + (if pbObj.serializeToString.isSome then 1 else 0) ∧
      (send W nProtoID pbObj n).2.trace = n.trace ++ sendObs W nProtoID pbObj n.nNextPacketNo := by
  unfold send sendObs packetOf PbMessage.bytes
  cases pbObj.serializeToString with
  | none => exact ⟨rfl, (UInt32.add_zero _).symm, (List.append_nil _).symm⟩
  | some bodyData => exact ⟨rfl, rfl, rfl⟩

@[simp] theorem send_keepAliveTimer : (send W nProtoID pbObj n).2.keepAliveTimer = n.keepAliveTimer :=
  send_spec.1

@[simp] theorem send_trace :
    (send W nProtoID pbObj n).2.trace = n.trace ++ sendObs W nProtoID pbObj n.nNextPacketNo :=
  send_spec.2.2

theorem send_nNextPacketNo (h : pbObj.serializeToString.isSome) :
    (send W nProtoID pbObj n).2.nNextPacketNo = n.nNextPacketNo + 1 := by
  rw [send_spec.2.1, if_pos h]

theorem sendObs_of_isSome (h : pbObj.serializeToString.isSome) :
    sendObs W nProtoID pbObj nSerialNo =
      [.packet (packetOf W nProtoID pbObj nSerialNo).1 (packetOf W nProtoID pbObj nSerialNo).2] := if_pos h

theorem mem_sendObs {o : Obs} (h : o ∈ sendObs W nProtoID pbObj nSerialNo) :
    ∃ header packetData, o = .packet header packetData ∧ header.nProtoID = nProtoID := by
  unfold sendObs at h
  split at h
  · exact ⟨_, _, List.mem_singleton.1 h, rfl⟩
  · cases h

theorem packets_send (h : pbObj.serializeToString.isSome) :
    (send W nProtoID pbObj n).2.packets = n.packets ++ [packetOf W nProtoID pbObj n.nNextPacketNo] := by
  unfold packets
  rw [send_trace, sendObs_of_isSome h, List.filterMap_append]
  rfl

theorem send_quoteConn (h : pbObj.serializeToString.isSome) :
    (send W nProtoID pbObj n).2.quoteConn = (n.quoteConn.send (W.uvWrite n.quoteConn.uv.calls.length)
      (packetOf W nProtoID pbObj n.nNextPacketNo).2).2 := by
  obtain ⟨bodyData, hbody⟩ := Option.isSome_iff_exists.1 h
  have hbytes : pbObj.bytes = bodyData := by rw [PbMessage.bytes, hbody]; rfl
  rw [send, hbody, packetOf, hbytes]
  rfl

theorem startKeepAliveTimer_trace (nInterval : Int32) :
    (n.startKeepAliveTimer nInterval).trace = n.trace ++
      [.timerInit n.keepAliveTimer.active,
        .timerStart (nInterval * 1000).toInt64.toUInt64 (nInterval * 1000).toInt64.toUInt64] :=
  List.append_assoc ..

theorem send_three {W : Outside} {id₁ id₂ id₃ : UInt32} {m₁ m₂ m₃ : PbMessage} (n₁ n₂ n₃ n₄ : NetCenter)
    (h₁ : (send W id₁ m₁ n₁).2 = n₂) (h₂ : (send W id₂ m₂ n₂).2 = n₃) (h₃ : (send W id₃ m₃ n₃).2 = n₄) :
    n₄.keepAliveTimer = n₁.keepAliveTimer ∧
      n₄.trace = n₁.trace ++ (sendObs W id₁ m₁ n₁.nNextPacketNo ++
        (sendObs W id₂ m₂ n₂.nNextPacketNo ++ sendObs W id₃ m₃ n₃.nNextPacketNo)) ∧
      (m₁.serializeToString.isSome → m₂.serializeToString.isSome →
        n₂.nNextPacketNo = n₁.nNextPacketNo + 1 ∧ n₃.nNextPacketNo = n₁.nNextPacketNo + 2) := by
  subst h₃
  refine ⟨?_, ?_, fun hm₁ hm₂ => ?_⟩
  · rw [send_keepAliveTimer, ← h₂, send_keepAliveTimer, ← h₁, send_keepAliveTimer]
  · rw [send_trace, ← h₂, send_trace, ← h₁, send_trace, List.append_assoc, List.append_assoc]
  · have hn₂ : n₂.nNextPacketNo = n₁.nNextPacketNo + 1 := by rw [← h₁, send_nNextPacketNo hm₁]
    refine ⟨hn₂, ?_⟩
    rw [← h₂, send_nNextPacketNo hm₂, hn₂, UInt32.add_assoc]
    rfl

end
end NetCenter

/-- A call of `TcpConnect::Send` that comes from the client. -/
def IsSend (W : Outside) (e : TcpConnect.WriteEvent) : Prop := ∃ pData k, e = .send pData (W.uvWrite k)

end FutuOpenD

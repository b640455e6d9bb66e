import FutuOpenD.NetCenter

/-!
# Dispatch and the response handlers (`NetCenter::HandlePacket`, `QuoteHandler.cpp`)

`handlePacket` hands a frame to one of the eight methods of an `IProtoHandler`, by its protocol ID.
`quoteHandler` is the handler that `main` installs. Only its `OnRsp_InitConnect` does anything but
print: after a successful response it starts the keep-alive timer and sends three requests.
-/

namespace FutuOpenD

/-- `class IProtoHandler`, for a client with state `σ`. -/
structure IProtoHandler (σ : Type*) where
  onRspInitConnect : APIProtoHeader → List UInt8 → Int32 → σ → σ
  onRspKeepAlive : APIProtoHeader → List UInt8 → Int32 → σ → σ
  onRspGetGlobalState : APIProtoHeader → List UInt8 → Int32 → σ → σ
  onRspQotSub : APIProtoHeader → List UInt8 → Int32 → σ → σ
  onRspQotRegQotPush : APIProtoHeader → List UInt8 → Int32 → σ → σ
  onRspQotUpdateTicker : APIProtoHeader → List UInt8 → Int32 → σ → σ
  onRspQotUpdateBroker : APIProtoHeader → List UInt8 → Int32 → σ → σ
  onRspQotUpdateOrderBook : APIProtoHeader → List UInt8 → Int32 → σ → σ

/-- `NetCenter::HandlePacket`. -/
def handlePacket {σ : Type*} (P : IProtoHandler σ) (header : APIProtoHeader) (pData : List UInt8) (nLen : Int32)
    (s : σ) : σ :=
  if header.nProtoID = apiProtoIDInitConnect then P.onRspInitConnect header pData nLen s
  else if header.nProtoID = apiProtoIDGlobalState then P.onRspGetGlobalState header pData nLen s
  else if header.nProtoID = apiProtoIDQotSub then P.onRspQotSub header pData nLen s
  else if header.nProtoID = apiProtoIDQotUpdateTicker then P.onRspQotUpdateTicker header pData nLen s
  else if header.nProtoID = apiProtoIDQotRegQotPush then P.onRspQotRegQotPush header pData nLen s
  else if header.nProtoID = apiProtoIDKeepAlive then P.onRspKeepAlive header pData nLen s
  else if header.nProtoID = apiProtoIDQotUpdateBroker then P.onRspQotUpdateBroker header pData nLen s
  else if header.nProtoID = apiProtoIDQotUpdateOrderBook then P.onRspQotUpdateOrderBook header pData nLen s
  else s

/-- The members of `class QuoteHandler`. -/
structure QuoteHandler where
  nKeepAliveInterval : Int32 := 5
  nUserID : UInt64 := 0
deriving DecidableEq

/-- `NetCenter::Default()` and the handler that `main` installs in it. -/
structure Client where
  net : NetCenter
  quote : QuoteHandler

namespace Client

def observe (o : Obs) (c : Client) : Client := { c with net := c.net.observe o }

/-- The one stock, `00700` in Hong Kong. -/
def stocks : List Security := [⟨QotMarket.hkSecurity.toInt32, "00700"⟩]

def subTypes : List SubType := [.orderBook, .broker]

def rehabTypes : List RehabType := [.none]

/-- What `OnRsp_InitConnect` does after a successful response. -/
def startSession (W : Outside) (s2c : InitConnect.S2C) (c : Client) : Client :=
  let quote : QuoteHandler := ⟨s2c.keepAliveInterval, s2c.loginUserID⟩
  let n := c.net.startKeepAliveTimer (quote.nKeepAliveInterval * 4 / 5)
  let n := (n.reqGetGlobalState W quote.nUserID).2
  let n := (n.reqSubscribe W stocks subTypes true true rehabTypes true).2
  let n := (n.reqRegPush W stocks subTypes rehabTypes true true).2
  ⟨n, quote⟩

def onRspInitConnect (W : Outside) (header : APIProtoHeader) (pData : List UInt8) (nLen : Int32) (c : Client) :
    Client :=
  match W.parseInitConnect pData nLen with
  | none => c.observe (.parseError header.nProtoID)
  | some rsp =>
    let c := c.observe (.ret rsp.retType rsp.retMsg)
    if rsp.retType ≠ 0 then c else c.startSession W rsp.getS2C

def onRspKeepAlive (_header : APIProtoHeader) (_pData : List UInt8) (_nLen : Int32) (c : Client) : Client := c

/-- A handler that parses the response that goes with the protocol ID, and prints it. The lines for
the entries of a pushed list are left out. -/
def onRspPrint (W : Outside) (nProtoID : UInt32) (header : APIProtoHeader) (pData : List UInt8) (nLen : Int32)
    (c : Client) : Client :=
  match W.parseResponse nProtoID pData nLen with
  | none => c.observe (.parseError header.nProtoID)
  | some rsp => c.observe (.ret rsp.retType rsp.retMsg)

def onRspGetGlobalState (W : Outside) := onRspPrint W apiProtoIDGlobalState
def onRspQotSub (W : Outside) := onRspPrint W apiProtoIDQotSub
def onRspQotRegQotPush (W : Outside) := onRspPrint W apiProtoIDQotRegQotPush
def onRspQotUpdateTicker (W : Outside) := onRspPrint W apiProtoIDQotUpdateTicker
def onRspQotUpdateBroker (W : Outside) := onRspPrint W apiProtoIDQotUpdateBroker
def onRspQotUpdateOrderBook (W : Outside) := onRspPrint W apiProtoIDQotUpdateOrderBook

/-- The timeout and the repeat time, in milliseconds, that the interval `k` comes to. -/
def beatPeriod (k : Int32) : UInt64 := (k * 4 / 5 * 1000).toInt64.toUInt64

/-- The three requests that follow leave the timer as it was started. -/
theorem startSession_keepAliveTimer (W : Outside) (s2c : InitConnect.S2C) (c : Client) :
    (c.startSession W s2c).net.keepAliveTimer =
      ⟨true, beatPeriod s2c.keepAliveInterval, beatPeriod s2c.keepAliveInterval⟩ := by
  obtain ⟨htimer, -, -⟩ := NetCenter.send_three
    (c.net.startKeepAliveTimer (s2c.keepAliveInterval * 4 / 5)) _ _ (c.startSession W s2c).net rfl rfl rfl
  rw [htimer]
  rfl

theorem onRspInitConnect_of_success {W : Outside} {header : APIProtoHeader} {pData : List UInt8} {nLen : Int32}
    {rsp : InitConnect.Response} (hrsp : W.parseInitConnect pData nLen = some rsp) (hret : rsp.retType = 0)
    (c : Client) :
    c.onRspInitConnect W header pData nLen =
      (c.observe (.ret rsp.retType rsp.retMsg)).startSession W rsp.getS2C := by
  rw [onRspInitConnect, hrsp]
  exact if_neg (not_not.2 hret)

end Client

def quoteHandler (W : Outside) : IProtoHandler Client where
  onRspInitConnect := Client.onRspInitConnect W
  onRspKeepAlive := Client.onRspKeepAlive
  onRspGetGlobalState := Client.onRspGetGlobalState W
  onRspQotSub := Client.onRspQotSub W
  onRspQotRegQotPush := Client.onRspQotRegQotPush W
  onRspQotUpdateTicker := Client.onRspQotUpdateTicker W
  onRspQotUpdateBroker := Client.onRspQotUpdateBroker W
  onRspQotUpdateOrderBook := Client.onRspQotUpdateOrderBook W

end FutuOpenD

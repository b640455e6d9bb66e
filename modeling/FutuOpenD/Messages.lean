import FutuOpenD.Lib.Bytes

/-!
# The protobuf messages (`pb/*.proto`)

The messages that the client builds, with all their fields, and of the responses the fields that the
handlers read. An optional field that was never set is `none`.
-/

namespace FutuOpenD

inductive QotMarket
  | unknown | hkSecurity | hkFuture | usSecurity | usOption | cnshSecurity | cnszSecurity
deriving DecidableEq

def QotMarket.toInt32 : QotMarket → Int32
  | .unknown => 0
  | .hkSecurity => 1
  | .hkFuture => 2
  | .usSecurity => 11
  | .usOption => 12
  | .cnshSecurity => 21
  | .cnszSecurity => 22

inductive SubType
  | none | basic | orderBook | ticker | rt | klDay | kl5Min | kl15Min | kl30Min | kl60Min | kl1Min
  | klWeek | klMonth | broker | klQurater | klYear | kl3Min
deriving DecidableEq

def SubType.toInt32 : SubType → Int32
  | .none => 0
  | .basic => 1
  | .orderBook => 2
  | .ticker => 4
  | .rt => 5
  | .klDay => 6
  | .kl5Min => 7
  | .kl15Min => 8
  | .kl30Min => 9
  | .kl60Min => 10
  | .kl1Min => 11
  | .klWeek => 12
  | .klMonth => 13
  | .broker => 14
  | .klQurater => 15
  | .klYear => 16
  | .kl3Min => 17

inductive RehabType
  | none | forward | backward
deriving DecidableEq

def RehabType.toInt32 : RehabType → Int32
  | .none => 0
  | .forward => 1
  | .backward => 2

structure Security where
  market : Int32
  code : String
deriving DecidableEq

namespace InitConnect

structure C2S where
  clientVer : Int32
  clientID : String
  recvNotify : Option Bool
deriving DecidableEq

structure S2C where
  loginUserID : UInt64
  keepAliveInterval : Int32
deriving DecidableEq

structure Response where
  retType : Int32
  retMsg : String
  s2c : Option S2C
deriving DecidableEq

/-- `rsp.s2c()`: the default message if there is none. -/
def Response.getS2C (rsp : Response) : S2C := rsp.s2c.getD ⟨0, 0⟩

end InitConnect

structure GetGlobalState.C2S where
  userID : UInt64
deriving DecidableEq

structure KeepAlive.C2S where
  time : Int64
deriving DecidableEq

structure Qot_Sub.C2S where
  securityList : List Security
  subTypeList : List Int32
  isSubOrUnSub : Bool
  isRegOrUnRegPush : Option Bool
  regPushRehabTypeList : List Int32
  isFirstPush : Option Bool
deriving DecidableEq

structure Qot_RegQotPush.C2S where
  securityList : List Security
  subTypeList : List Int32
  rehabTypeList : List Int32
  isRegOrUnReg : Bool
  isFirstPush : Option Bool
deriving DecidableEq

/-- The requests of the client, each with the `C2S` it carries. -/
inductive Request
  | initConnect (c2s : InitConnect.C2S)
  | getGlobalState (c2s : GetGlobalState.C2S)
  | keepAlive (c2s : KeepAlive.C2S)
  | qotSub (c2s : Qot_Sub.C2S)
  | qotRegQotPush (c2s : Qot_RegQotPush.C2S)
deriving DecidableEq

/-- What the other handlers read of a response. -/
structure Response where
  retType : Int32
  retMsg : String
deriving DecidableEq

/-- A `google::protobuf::Message` as `NetCenter::Send` sees it: the results of `ByteSize` and of
`SerializeToString`. -/
structure PbMessage where
  byteSize : Int32
  serializeToString : Option (List UInt8)

namespace PbMessage

def bytes (m : PbMessage) : List UInt8 := m.serializeToString.getD []

/-- Serialisation succeeds and gives exactly `ByteSize` bytes. -/
def Exact (m : PbMessage) : Prop :=
  m.serializeToString.isSome ∧ (m.bytes.length : Int) = m.byteSize.toInt

instance (m : PbMessage) : Decidable m.Exact := inferInstanceAs (Decidable (_ ∧ _))

end PbMessage
end FutuOpenD

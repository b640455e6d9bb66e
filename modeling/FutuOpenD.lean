import FutuOpenD.Lib.Runs
import FutuOpenD.Lib.Framing
import FutuOpenD.Common
import FutuOpenD.Buffer
import FutuOpenD.WriteOwner
import FutuOpenD.WriteWedge
import FutuOpenD.WriteFifo
import FutuOpenD.ReadInv
import FutuOpenD.Reassembly
import FutuOpenD.RoundTrip
import FutuOpenD.Bootstrap
import FutuOpenD.LengthWrap
import FutuOpenD.Dispatch
import FutuOpenD.WriteRefuse
import FutuOpenD.SerialNo
import FutuOpenD.Registration
import FutuOpenD.KeepAlive
import FutuOpenD.Callbacks
import FutuOpenD.Sha1Digest
import FutuOpenD.Lib.Wire
import FutuOpenD.Conversation
import FutuOpenD.Heartbeat
import FutuOpenD.ServerSession
import FutuOpenD.Program
import FutuOpenD.Reports
import FutuOpenD.BufferQueue

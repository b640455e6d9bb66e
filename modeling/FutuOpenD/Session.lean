import FutuOpenD.QuoteHandler
import FutuOpenD.ReadInv

/-!
# A session of the client

The client as `main` wires it: the receive path of the connection with `NetCenter` and `QuoteHandler`
behind it. A run starts where the connect has succeeded and goes on with reads, completed writes and
firings of the keep-alive timer; these interleave freely, but not with the passes of a running
`OnRecv`, since libuv calls back on one thread.
-/

namespace FutuOpenD
open Bytes Runs Framing

def Client.recvHandler (W : Outside) : RecvHandler Client where
  sha1 := W.sha1
  errno := W.errno
  handlePacket := fun header pBody nLen c =>
    handlePacket (quoteHandler W) header pBody nLen (c.observe (.frame header pBody))
  shaCheckFail := fun _ c => c.observe .shaCheckFail
  onError := fun nUvErr c => { c with net := c.net.onError nUvErr }
  onDisconnect := fun c => { c with net := c.net.onDisconnect }

abbrev Session := ReadSide Client

inductive SessionEvent
  | recv (e : ReadEvent)
  | afterWrite (status : Int)
  | keepAliveTimer (now : Int64)

/-- A write completes if one is outstanding, and the timer fires if it is active. -/
def sessionStep (W : Outside) (s : Session) : SessionEvent → Option Session
  | .recv e => readStep (Client.recvHandler W) s e
  | .afterWrite status =>
    if s.inRecv = false ∧ s.handler.net.quoteConn.uv.inFlight.isSome then
      some { s with handler := { s.handler with net := s.handler.net.afterWrite W status } }
    else none
  | .keepAliveTimer now =>
    if s.inRecv = false ∧ s.handler.net.keepAliveTimer.active then
      some { s with handler := { s.handler with net := s.handler.net.runTimer W now } }
    else none

def sessionMachine (W : Outside) : Machine Session SessionEvent := ⟨sessionStep W⟩

/-- `AfterConnect` after a successful connect and a successful `uv_read_start`. -/
def Session.start (W : Outside) (mem : Field readStoreLen) : Session :=
  .new mem ⟨NetCenter.new.handleCall W (TcpConnect.afterConnect 0 0), {}⟩

end FutuOpenD

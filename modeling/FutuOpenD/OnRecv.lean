import FutuOpenD.Lib.Runs
import FutuOpenD.Common
import FutuOpenD.Buffer

/-!
# The receive path (`TcpConnect::OnAllocBuf`, `TcpConnect::AfterRead`, `NetCenter::OnRecv`)

`onRecvStep` is one pass of the `for(;;)` loop of `NetCenter::OnRecv` and `onRecv` the loop. The read
store is private to the connection and no handler gets hold of it, so what the handlers can change is
a state `σ` of its own; `RecvHandler` says how they change it. `readMachine` is the receive path at
the grain of libuv's callbacks and of single passes of the loop, `receive` a whole `AfterRead`.
-/

namespace FutuOpenD
open Bytes Runs

/-- `10 * 1024 * 1024`, the length of `TcpConnect::m_readStore`. -/
def readStoreLen : Nat := 10485760

def uvEOF : Int := -4095

/-- `UV_ECONNRESET`, a negative code that depends on the platform. -/
structure UvErrno where
  uvECONNRESET : Int
  neg : uvECONNRESET < 0
  ne_eof : uvECONNRESET ≠ uvEOF

def UvErrno.linux : UvErrno := ⟨-104, by decide, by decide⟩

/-- `(i32_t)sizeof(header) + header.nBodyLen`, an `unsigned` sum. -/
def APIProtoHeader.frameLen (h : APIProtoHeader) : UInt32 := 44 + h.nBodyLen

/-- What the receive path calls: the digest, `HandlePacket`, the report of a failed digest, and
`ITcpHandler::OnError` and `OnDisconnect`, on a platform with the code `errno`. -/
structure RecvHandler (σ : Type*) where
  sha1 : List UInt8 → Field 20
  errno : UvErrno
  handlePacket : APIProtoHeader → List UInt8 → Int32 → σ → σ
  shaCheckFail : APIProtoHeader → σ → σ
  onError : Int → σ → σ
  onDisconnect : σ → σ

/-- Keeps what `HandlePacket` is given, and nothing of a failed read, whatever its code. -/
def recorder (sha1 : List UInt8 → Field 20) : RecvHandler (List (APIProtoHeader × List UInt8)) where
  sha1 := sha1
  errno := .linux
  handlePacket := fun header pBody _ s => s ++ [(header, pBody)]
  shaCheckFail := fun _ s => s
  onError := fun _ s => s
  onDisconnect := fun s => s

section
variable {σ : Type*}

/-- One pass of the loop of `NetCenter::OnRecv`; `none` where it returns. `pBody` are the bytes that
the pointer and the `int` length passed to `SHA1` and `HandlePacket` denote. -/
def onRecvStep (H : RecvHandler σ) (b : Buffer) (s : σ) : Option (Buffer × σ) :=
  let nLen := b.getDataLen
  if nLen < sizeofHeader then none
  else
    let header := APIProtoHeader.ofBytes b.pBuf
    if UInt32.ofInt nLen < header.frameLen then none
    else
      let nBodyLen := header.nBodyLen.toInt32
      let pBody := (b.pBuf.drop sizeofHeader).take nBodyLen.toInt.toNat
      if H.sha1 pBody ≠ header.arrBodySHA1 then
        some (b.removeFront header.frameLen.toInt32.toInt, H.shaCheckFail header s)
      else
        some (b.removeFront header.frameLen.toInt32.toInt, H.handlePacket header pBody nBodyLen s)

/-- At most the given number of passes; `none` if the loop has not returned by then. -/
def onRecvLoop (H : RecvHandler σ) : Nat → Buffer → σ → Option (Buffer × σ)
  | 0, _, _ => none
  | n + 1, b, s =>
    match onRecvStep H b s with
    | none => some (b, s)
    | some (b', s') => onRecvLoop H n b' s'

/-- `NetCenter::OnRecv`; `none` if it does not return (`onRecv_eq_some_iff`). -/
def onRecv (H : RecvHandler σ) (b : Buffer) (s : σ) : Option (Buffer × σ) :=
  onRecvLoop H (b.nDataLen.toNat + 1) b s

/-- A read of `bytes` up to the return of `AfterRead`. -/
def receive (H : RecvHandler σ) (bytes : List UInt8) (b : Buffer) (s : σ) : Option (Buffer × σ) :=
  let b := b.fill bytes
  onRecv H (b.setDataLen (bytes.length + b.getDataLen)) s

def receiveAll (H : RecvHandler σ) : List (List UInt8) → Buffer → σ → Option (Buffer × σ)
  | [], b, s => some (b, s)
  | m :: ms, b, s => (receive H m b s).bind fun p => receiveAll H ms p.1 p.2

/-- libuv's promise for successive reads: none is longer than the room `OnAllocBuf` offered. -/
def Fits (H : RecvHandler σ) : List (List UInt8) → Buffer → σ → Prop
  | [], _, _ => True
  | m :: ms, b, s =>
    (m.length : Int) ≤ b.getRemainLen ∧ ∀ b' s', receive H m b s = some (b', s') → Fits H ms b' s'

/-- The read store, what the handlers can change, and whether `OnRecv` is on the stack. -/
structure ReadSide (σ : Type*) where
  readStore : Buffer
  handler : σ
  inRecv : Bool

/-- `uv_buf_t` as filled in by `OnAllocBuf`: an offset into the block and a length. -/
structure UvReadBuf where
  base : Int
  len : Int
deriving DecidableEq

def onAllocBuf (r : ReadSide σ) : UvReadBuf := ⟨r.readStore.nDataLen, r.readStore.getRemainLen⟩

/-- `TcpConnect::AfterRead` up to the call of `OnRecv`, or to its end after an error. -/
def afterRead (H : RecvHandler σ) (nread : Int) (r : ReadSide σ) : ReadSide σ :=
  if nread < 0 then
    if nread = uvEOF then { r with handler := H.onDisconnect r.handler }
    else if nread = H.errno.uvECONNRESET then { r with handler := H.onDisconnect r.handler }
    else { r with handler := H.onError nread r.handler }
  else
    { r with readStore := r.readStore.setDataLen (nread + r.readStore.getDataLen), inRecv := true }

/-- A read of some bytes, a failed read, or one pass of the loop of `OnRecv`. -/
inductive ReadEvent
  | read (bytes : List UInt8)
  | readError (nread : Int)
  | pass

/-- libuv asks for a buffer and calls back only while no callback runs, and reads no more than the
buffer holds. -/
def readStep (H : RecvHandler σ) (r : ReadSide σ) : ReadEvent → Option (ReadSide σ)
  | .read bytes =>
    if r.inRecv = false ∧ (bytes.length : Int) ≤ (onAllocBuf r).len then
      some (afterRead H bytes.length { r with readStore := r.readStore.fill bytes })
    else none
  | .readError nread => if r.inRecv = false ∧ nread < 0 then some (afterRead H nread r) else none
  | .pass =>
    if r.inRecv then
      match onRecvStep H r.readStore r.handler with
      | none => some { r with inRecv := false }
      | some (b, s) => some { r with readStore := b, handler := s }
    else none

def readMachine (H : RecvHandler σ) : Machine (ReadSide σ) ReadEvent := ⟨readStep H⟩

/-- A connection that has just been made; `mem` is what malloc returned. -/
def ReadSide.new (mem : Field readStoreLen) (s : σ) : ReadSide σ := ⟨Buffer.new mem, s, false⟩

end

end FutuOpenD

import FutuOpenD.Lib.Runs
import Mathlib.Tactic.Ring

/-!
# The write side of a connection (`class TcpConnect`, `TcpConnect.cpp`)

`send` and `afterWrite` with the members they use: the two stores, the index of the store whose
bytes are being written (`-1` when idle) and the one `uv_buf_t`. The result of `uv_write` is an
argument of both. `UvWrites` is libuv's side: the write on `m_write` that it has accepted and not
completed, and all calls of `uv_write` so far. The read side shares no member with this one and is in
`OnRecv.lean`.
-/

namespace FutuOpenD
open Runs

/-- A `std::vector<char>`. `gen` counts the insertions and clears; what `data()` returned under an
earlier count may dangle. -/
structure CharVector where
  bytes : List UInt8
  gen : Nat
deriving DecidableEq

namespace CharVector

def insertEnd (pData : List UInt8) (v : CharVector) : CharVector := ⟨v.bytes ++ pData, v.gen + 1⟩

def clear (v : CharVector) : CharVector := ⟨[], v.gen + 1⟩

def size (v : CharVector) : Nat := v.bytes.length

@[simp] theorem bytes_insertEnd (v : CharVector) (pData : List UInt8) :
    (v.insertEnd pData).bytes = v.bytes ++ pData := rfl
@[simp] theorem bytes_clear (v : CharVector) : v.clear.bytes = [] := rfl

end CharVector

/-- `uv_buf_t`. The base pointer is `data()` of store `store` under the count `gen`. -/
structure UvBuf where
  store : Int
  gen : Nat
  len : UInt32
deriving DecidableEq

structure WriteStores where
  store0 : CharVector
  store1 : CharVector

namespace WriteStores

/-- `m_writeStores[i]`; the source indexes with 0 and 1 only. -/
def get (w : WriteStores) (i : Int) : CharVector :=
  if i = 0 then w.store0 else if i = 1 then w.store1 else ⟨[], 0⟩

def modify (w : WriteStores) (i : Int) (f : CharVector → CharVector) : WriteStores :=
  if i = 0 then { w with store0 := f w.store0 } else if i = 1 then { w with store1 := f w.store1 } else w

variable (w : WriteStores) (f : CharVector → CharVector)

@[simp] theorem get_zero : w.get 0 = w.store0 := rfl
@[simp] theorem get_one : w.get 1 = w.store1 := rfl
@[simp] theorem modify_zero : w.modify 0 f = ⟨f w.store0, w.store1⟩ := rfl
@[simp] theorem modify_one : w.modify 1 f = ⟨w.store0, f w.store1⟩ := rfl

end WriteStores

/-- One call of `uv_write` on `m_write`: the bytes of the buffer it was given, what it returned, and
whether an earlier write on `m_write` was still outstanding. -/
structure UvWriteCall where
  bytes : List UInt8
  ret : Int
  overlaps : Bool
deriving DecidableEq

/-- What libuv knows of `m_write`. -/
structure UvWrites where
  inFlight : Option UvBuf
  calls : List UvWriteCall

structure TcpConnect where
  writeBuf : UvBuf
  writeStores : WriteStores
  nCurUsingWriteStoreIdx : Int
  uv : UvWrites

/-- A call of `ITcpHandler` other than `OnRecv`. -/
inductive TcpHandlerCall
  | onConnect
  | onError (nUvErr : Int)
  | onDisconnect
deriving DecidableEq

def otherStoreIdx (i : Int) : Int := if i = 0 then 1 else 0

@[simp] theorem otherStoreIdx_zero : otherStoreIdx 0 = 1 := rfl
@[simp] theorem otherStoreIdx_one : otherStoreIdx 1 = 0 := rfl

namespace TcpConnect

def new : TcpConnect := ⟨⟨0, 0, 0⟩, ⟨⟨[], 0⟩, ⟨[], 0⟩⟩, -1, ⟨none, []⟩⟩

/-- `uv_buf_init(m_writeStores[i].data(), (int)m_writeStores[i].size())`; the length goes through
`int` and `unsigned int`. -/
def uvBufInit (i : Int) (c : TcpConnect) : UvBuf :=
  ⟨i, (c.writeStores.get i).gen, UInt32.ofNat (c.writeStores.get i).size⟩

def bytesOf (c : TcpConnect) (b : UvBuf) : List UInt8 :=
  (c.writeStores.get b.store).bytes.take b.len.toNat

/-- `uv_write(&m_write, .., &m_writeBuf, 1, AfterWrite)` returning `nRet`. -/
def uvWrite (nRet : Int) (c : TcpConnect) : TcpConnect :=
  { c with uv := {
      inFlight := if nRet = 0 then some c.writeBuf else c.uv.inFlight
      calls := c.uv.calls ++ [⟨c.bytesOf c.writeBuf, nRet, c.uv.inFlight.isSome⟩] } }

/-- `TcpConnect::Send` for the bytes `pData`; `uvRet` is what `uv_write` returns if it is called. -/
def send (uvRet : Int) (pData : List UInt8) (c : TcpConnect) : Bool × TcpConnect :=
  if c.nCurUsingWriteStoreIdx < 0 then
    let c := { c with writeStores := c.writeStores.modify 0 (·.insertEnd pData) }
    let c := { c with writeBuf := c.uvBufInit 0, nCurUsingWriteStoreIdx := 0 }
    let c := c.uvWrite uvRet
    if uvRet ≠ 0 then (false, c) else (true, c)
  else
    let nWriteStoreIdx := otherStoreIdx c.nCurUsingWriteStoreIdx
    (true, { c with writeStores := c.writeStores.modify nWriteStoreIdx (·.insertEnd pData) })

/-- `TcpConnect::AfterWrite`; `uvRet` is what the follow-up `uv_write` returns if it is called. -/
def afterWrite (status uvRet : Int) (c : TcpConnect) : TcpConnect × Option TcpHandlerCall :=
  let nOtherWriteStoreIdx := otherStoreIdx c.nCurUsingWriteStoreIdx
  let c := { c with
    writeStores := c.writeStores.modify c.nCurUsingWriteStoreIdx CharVector.clear
    nCurUsingWriteStoreIdx := -1 }
  let r : Int × TcpConnect :=
    if status = 0 ∧ (c.writeStores.get nOtherWriteStoreIdx).size > 0 then
      let c := { c with nCurUsingWriteStoreIdx := nOtherWriteStoreIdx }
      let c := { c with writeBuf := c.uvBufInit nOtherWriteStoreIdx }
      (if uvRet ≠ 0 then uvRet else status, c.uvWrite uvRet)
    else (status, c)
  (r.2, if r.1 ≠ 0 then some (.onError r.1) else none)

/-- `TcpConnect::AfterConnect`; `uvReadStart` is what `uv_read_start` returns if it is called. -/
def afterConnect (nStatus uvReadStart : Int) : TcpHandlerCall :=
  if nStatus ≠ 0 then .onError nStatus
  else if uvReadStart ≠ 0 then .onError nStatus
  else .onConnect

/-- libuv completes the outstanding write, which it then forgets. -/
def complete (c : TcpConnect) : TcpConnect := { c with uv := { c.uv with inFlight := none } }

theorem afterWrite_call {status uvRet : Int} {c : TcpConnect} {call : TcpHandlerCall}
    (h : (c.afterWrite status uvRet).2 = some call) : ∃ nErr, call = .onError nErr := by
  unfold afterWrite at h
  obtain ⟨-, h⟩ := Option.ite_none_right_eq_some.1 h
  exact ⟨_, (Option.some.inj h).symm⟩

inductive WriteEvent
  | send (pData : List UInt8) (uvRet : Int)
  | afterWrite (status uvRet : Int)
deriving DecidableEq

/-- `AfterWrite` is called once for each write that `uv_write` accepted, and never otherwise. -/
def writeStep (c : TcpConnect) : WriteEvent → Option TcpConnect
  | .send pData uvRet => some (c.send uvRet pData).2
  | .afterWrite status uvRet =>
    if c.uv.inFlight.isSome then some (c.complete.afterWrite status uvRet).1 else none

def writeMachine : Machine TcpConnect WriteEvent := ⟨writeStep⟩

def sentPackets (es : List WriteEvent) : List (List UInt8) :=
  es.filterMap fun
    | .send pData _ => some pData
    | .afterWrite _ _ => none

/-- The bytes of all calls of `uv_write`, accepted or not. -/
def submittedBytes (c : TcpConnect) : List UInt8 := c.uv.calls.flatMap UvWriteCall.bytes

/-- The bytes of the calls of `uv_write` that returned 0. -/
def acceptedBytes (c : TcpConnect) : List UInt8 :=
  (c.uv.calls.filter (·.ret = 0)).flatMap UvWriteCall.bytes

end TcpConnect
end FutuOpenD

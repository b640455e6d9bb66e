import FutuOpenD.Lib.Bytes

/-!
# The read buffer (`class Buffer`, `TcpConnect.h` / `TcpConnect.cpp`)

A malloc'ed block `pBuf` of `nBufLen` bytes, of which the first `nDataLen` are data. `Buffer.data` is
what the buffer stands for, a byte queue; `Buffer.WF` is the representation invariant under which
`setDataLen` after a read appends to the queue and `removeFront` takes bytes off its front.
-/

namespace FutuOpenD
open Bytes

/-- `memmove(mem + dst, mem + src, n)`. -/
def memmove (mem : List UInt8) (dst src n : Nat) : List UInt8 :=
  mem.take dst ++ (mem.drop src).take n ++ mem.drop (dst + n)

def store (mem : List UInt8) (off : Nat) (bytes : List UInt8) : List UInt8 :=
  mem.take off ++ bytes ++ mem.drop (off + bytes.length)

/-- A call of a `Buffer` method that carries an `assert`, with what the assert compares. -/
inductive BufferCall
  | setDataLen (nLen nBufLen : Int)
  | removeFront (nLen nDataLen : Int)
deriving DecidableEq

def BufferCall.Asserts : BufferCall → Prop
  | .setDataLen nLen nBufLen => nLen ≤ nBufLen
  | .removeFront nLen nDataLen => nLen ≤ nDataLen

def BufferCall.removes : BufferCall → Int
  | .setDataLen _ _ => 0
  | .removeFront nLen _ => nLen

/-- `class Buffer`. `calls` is no member: it lists the calls made so far that carry an assert, which
the Release build compiles out. -/
structure Buffer where
  nDataLen : Int
  nBufLen : Int
  pBuf : List UInt8
  calls : List BufferCall

namespace Buffer

/-- The constructor; `mem` is the block that malloc returned, with whatever bytes are in it. -/
def new {nBufLen : Nat} (mem : Field nBufLen) : Buffer := ⟨0, nBufLen, mem.1, []⟩

def getDataLen (b : Buffer) : Int := b.nDataLen

def getRemainLen (b : Buffer) : Int := b.nBufLen - b.nDataLen

def setDataLen (nLen : Int) (b : Buffer) : Buffer :=
  { b with nDataLen := nLen, calls := b.calls ++ [.setDataLen nLen b.nBufLen] }

def removeFront (nLen : Int) (b : Buffer) : Buffer :=
  let nRemainDataLen := b.nDataLen - nLen
  { b with
    pBuf := if nRemainDataLen > 0 then memmove b.pBuf 0 nLen.toNat nRemainDataLen.toNat else b.pBuf
    nDataLen := nRemainDataLen
    calls := b.calls ++ [.removeFront nLen b.nDataLen] }

/-- libuv stores what it read from the socket at `GetWriteStart()`. -/
def fill (bytes : List UInt8) (b : Buffer) : Buffer :=
  { b with pBuf := store b.pBuf b.nDataLen.toNat bytes }

/-- The bytes received and not yet removed. -/
def data (b : Buffer) : List UInt8 := b.pBuf.take b.nDataLen.toNat

/-- All bytes taken off the front so far. -/
def removed (b : Buffer) : Int := (b.calls.map BufferCall.removes).sum

@[simp] theorem removed_fill (b : Buffer) (bytes : List UInt8) : (b.fill bytes).removed = b.removed := rfl

@[simp] theorem removed_setDataLen (b : Buffer) (n : Int) : (b.setDataLen n).removed = b.removed := by
  simp [removed, setDataLen, BufferCall.removes]

@[simp] theorem removed_removeFront (b : Buffer) (n : Int) : (b.removeFront n).removed = b.removed + n := by
  simp [removed, removeFront, BufferCall.removes]

structure WF (b : Buffer) : Prop where
  nonneg : 0 ≤ b.nDataLen
  le : b.nDataLen ≤ b.nBufLen
  size : (b.pBuf.length : Int) = b.nBufLen

theorem new_wf {n : Nat} (mem : Field n) : (new mem).WF :=
  ⟨Int.le_refl 0, Int.natCast_nonneg n, congrArg Int.ofNat mem.2⟩

@[simp] theorem new_data {n : Nat} (mem : Field n) : (new mem).data = [] := rfl

namespace WF
variable {b : Buffer} {bytes : List UInt8} {n : Int}

theorem length_data (h : b.WF) : (b.data.length : Int) = b.nDataLen := by
  have h1 := h.nonneg
  have h2 := h.le
  have h3 := h.size
  rw [data, List.length_take]
  omega

theorem remain_nonneg (h : b.WF) : 0 ≤ b.getRemainLen := by
  have := h.le
  unfold getRemainLen
  omega

theorem data_append_drop (h : b.WF) : b.data ++ b.pBuf.drop b.data.length = b.pBuf := by
  have h1 := h.nonneg
  have hl : b.data.length = b.nDataLen.toNat := by have := h.length_data; omega
  rw [hl]
  exact List.take_append_drop _ _

theorem fill (h : b.WF) (hfit : (bytes.length : Int) ≤ b.getRemainLen) : (b.fill bytes).WF := by
  have h1 := h.nonneg
  have h3 := h.size
  unfold getRemainLen at hfit
  refine ⟨h1, h.le, ?_⟩
  show ((store b.pBuf b.nDataLen.toNat bytes).length : Int) = b.nBufLen
  simp only [store, List.length_append, List.length_take, List.length_drop]
  omega

theorem data_fill (h : b.WF) : (b.fill bytes).data = b.data := by
  have h1 := h.nonneg
  have h2 := h.le
  have h3 := h.size
  show (store b.pBuf b.nDataLen.toNat bytes).take b.nDataLen.toNat = b.pBuf.take b.nDataLen.toNat
  rw [store, List.append_assoc, List.take_append_of_le_length (by rw [List.length_take]; omega),
    List.take_take, Nat.min_self]

theorem setDataLen (h : b.WF) (h0 : 0 ≤ n) (hn : n ≤ b.nBufLen) : (b.setDataLen n).WF :=
  ⟨h0, hn, h.size⟩

theorem data_read (h : b.WF) :
    ((b.fill bytes).setDataLen (bytes.length + b.nDataLen)).data = b.data ++ bytes := by
  have h1 := h.nonneg
  have h2 := h.le
  have h3 := h.size
  show (store b.pBuf b.nDataLen.toNat bytes).take (bytes.length + b.nDataLen).toNat = b.data ++ bytes
  have hl : (b.data ++ bytes).length = (bytes.length + b.nDataLen).toNat := by
    have := h.length_data
    rw [List.length_append]
    omega
  rw [← hl]
  exact List.take_left

theorem removeFront (h : b.WF) (h0 : 0 ≤ n) (hn : n ≤ b.nDataLen) : (b.removeFront n).WF := by
  have h2 := h.le
  have h3 := h.size
  refine ⟨?_, ?_, ?_⟩
  · show 0 ≤ b.nDataLen - n
    omega
  · show b.nDataLen - n ≤ b.nBufLen
    omega
  · show ((if b.nDataLen - n > 0 then memmove b.pBuf 0 n.toNat (b.nDataLen - n).toNat
      else b.pBuf).length : Int) = b.nBufLen
    split
    · simp only [memmove, List.length_append, List.length_take, List.length_drop]
      omega
    · exact h3

theorem data_removeFront (h : b.WF) (h0 : 0 ≤ n) (hn : n ≤ b.nDataLen) :
    (b.removeFront n).data = b.data.drop n.toNat := by
  have h2 := h.le
  have h3 := h.size
  show (if b.nDataLen - n > 0 then memmove b.pBuf 0 n.toNat (b.nDataLen - n).toNat
      else b.pBuf).take (b.nDataLen - n).toNat = (b.pBuf.take b.nDataLen.toNat).drop n.toNat
  have hr : b.nDataLen.toNat - n.toNat = (b.nDataLen - n).toNat := by omega
  rw [List.drop_take, hr]
  split
  · rw [memmove, List.take_zero, List.nil_append,
      List.take_append_of_le_length (by rw [List.length_take, List.length_drop]; omega),
      List.take_take, Nat.min_self]
  · rw [show (b.nDataLen - n).toNat = 0 by omega, List.take_zero, List.take_zero]

end WF
end Buffer
end FutuOpenD

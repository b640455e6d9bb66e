import FutuOpenD.Lib.Sha1
import FutuOpenD.Buffer
import FutuOpenD.Common

/-!
# The digest (`SHA1.cpp`)

`sha1Transform` mixes one block into the state. The five variables stay where they are and their names
rotate from one macro call to the next, and the sixteen words of the block are expanded in place.
`sha1Update` collects bytes into blocks, `sha1Final` pads and reads out the digest, and `sha1` feeds a
string byte by byte. A result `none` stands for a `memcpy` beyond the buffer or a loop that does not
end.
-/

namespace FutuOpenD
open Bytes

/-- The working variables of `SHA1Transform`. -/
inductive Sha1Var
  | a | b | c | d | e
deriving DecidableEq

/-- The variables and `block->l`, the sixteen words of the block. -/
structure Sha1Work where
  a : UInt32
  b : UInt32
  c : UInt32
  d : UInt32
  e : UInt32
  l : List UInt32

namespace Sha1Work

def get (s : Sha1Work) : Sha1Var → UInt32
  | .a => s.a
  | .b => s.b
  | .c => s.c
  | .d => s.d
  | .e => s.e

def set (s : Sha1Work) (v : Sha1Var) (value : UInt32) : Sha1Work :=
  match v with
  | .a => { s with a := value }
  | .b => { s with b := value }
  | .c => { s with c := value }
  | .d => { s with d := value }
  | .e => { s with e := value }

/-- `block->l[i&15]`. -/
def word (s : Sha1Work) (i : Nat) : UInt32 := s.l.getD (i &&& 15) 0

def setWord (s : Sha1Work) (i : Nat) (value : UInt32) : Sha1Work := { s with l := s.l.set (i &&& 15) value }

end Sha1Work

namespace Sha1

def rol (value bits : UInt32) : UInt32 := (value <<< bits) ||| (value >>> (32 - bits))

/-- On a host that stores the lowest byte first. -/
def blk0 (i : Nat) (s : Sha1Work) : Sha1Work :=
  s.setWord i ((rol (s.word i) 24 &&& 0xFF00FF00) ||| (rol (s.word i) 8 &&& 0x00FF00FF))

def blk (i : Nat) (s : Sha1Work) : Sha1Work :=
  s.setWord i (rol (s.word (i + 13) ^^^ s.word (i + 8) ^^^ s.word (i + 2) ^^^ s.word i) 1)

/-- What `R0` to `R4` have in common. -/
def roundMacro (f : UInt32 → UInt32 → UInt32 → UInt32) (k : UInt32) (expand : Nat → Sha1Work → Sha1Work)
    (v w x y z : Sha1Var) (i : Nat) (s : Sha1Work) : Sha1Work :=
  let s := expand i s
  let s := s.set z (s.get z + (f (s.get w) (s.get x) (s.get y) + s.word i + k + rol (s.get v) 5))
  s.set w (rol (s.get w) 30)

def r0 := roundMacro (fun w x y => (w &&& (x ^^^ y)) ^^^ y) 0x5A827999 blk0
def r1 := roundMacro (fun w x y => (w &&& (x ^^^ y)) ^^^ y) 0x5A827999 blk
def r2 := roundMacro (fun w x y => w ^^^ x ^^^ y) 0x6ED9EBA1 blk
def r3 := roundMacro (fun w x y => ((w ||| x) &&& y) ||| (w &&& x)) 0x8F1BBCDC blk
def r4 := roundMacro (fun w x y => w ^^^ x ^^^ y) 0xCA62C1D6 blk

/-- The macro calls of `SHA1Transform`. -/
def rounds : List (Sha1Work → Sha1Work) :=
  [
    r0 .a .b .c .d .e 0, r0 .e .a .b .c .d 1, r0 .d .e .a .b .c 2, r0 .c .d .e .a .b 3,
    r0 .b .c .d .e .a 4, r0 .a .b .c .d .e 5, r0 .e .a .b .c .d 6, r0 .d .e .a .b .c 7,
    r0 .c .d .e .a .b 8, r0 .b .c .d .e .a 9, r0 .a .b .c .d .e 10, r0 .e .a .b .c .d 11,
    r0 .d .e .a .b .c 12, r0 .c .d .e .a .b 13, r0 .b .c .d .e .a 14, r0 .a .b .c .d .e 15,
    r1 .e .a .b .c .d 16, r1 .d .e .a .b .c 17, r1 .c .d .e .a .b 18, r1 .b .c .d .e .a 19,
    r2 .a .b .c .d .e 20, r2 .e .a .b .c .d 21, r2 .d .e .a .b .c 22, r2 .c .d .e .a .b 23,
    r2 .b .c .d .e .a 24, r2 .a .b .c .d .e 25, r2 .e .a .b .c .d 26, r2 .d .e .a .b .c 27,
    r2 .c .d .e .a .b 28, r2 .b .c .d .e .a 29, r2 .a .b .c .d .e 30, r2 .e .a .b .c .d 31,
    r2 .d .e .a .b .c 32, r2 .c .d .e .a .b 33, r2 .b .c .d .e .a 34, r2 .a .b .c .d .e 35,
    r2 .e .a .b .c .d 36, r2 .d .e .a .b .c 37, r2 .c .d .e .a .b 38, r2 .b .c .d .e .a 39,
    r3 .a .b .c .d .e 40, r3 .e .a .b .c .d 41, r3 .d .e .a .b .c 42, r3 .c .d .e .a .b 43,
    r3 .b .c .d .e .a 44, r3 .a .b .c .d .e 45, r3 .e .a .b .c .d 46, r3 .d .e .a .b .c 47,
    r3 .c .d .e .a .b 48, r3 .b .c .d .e .a 49, r3 .a .b .c .d .e 50, r3 .e .a .b .c .d 51,
    r3 .d .e .a .b .c 52, r3 .c .d .e .a .b 53, r3 .b .c .d .e .a 54, r3 .a .b .c .d .e 55,
    r3 .e .a .b .c .d 56, r3 .d .e .a .b .c 57, r3 .c .d .e .a .b 58, r3 .b .c .d .e .a 59,
    r4 .a .b .c .d .e 60, r4 .e .a .b .c .d 61, r4 .d .e .a .b .c 62, r4 .c .d .e .a .b 63,
    r4 .b .c .d .e .a 64, r4 .a .b .c .d .e 65, r4 .e .a .b .c .d 66, r4 .d .e .a .b .c 67,
    r4 .c .d .e .a .b 68, r4 .b .c .d .e .a 69, r4 .a .b .c .d .e 70, r4 .e .a .b .c .d 71,
    r4 .d .e .a .b .c 72, r4 .c .d .e .a .b 73, r4 .b .c .d .e .a 74, r4 .a .b .c .d .e 75,
    r4 .e .a .b .c .d 76, r4 .d .e .a .b .c 77, r4 .c .d .e .a .b 78, r4 .b .c .d .e .a 79]
/-- The words of the block as the host reads them from memory. -/
def loadBlock (buffer : Field 64) : List UInt32 := (List.range 16).map fun i => u32At buffer.1 (4 * i)

end Sha1

/-- `state[5]`. -/
structure Sha1State where
  s0 : UInt32
  s1 : UInt32
  s2 : UInt32
  s3 : UInt32
  s4 : UInt32
deriving DecidableEq

/-- `state[i]`, for `i` from 0 to 4. -/
def Sha1State.get (s : Sha1State) : Nat → UInt32
  | 0 => s.s0
  | 1 => s.s1
  | 2 => s.s2
  | 3 => s.s3
  | _ => s.s4

def sha1Transform (state : Sha1State) (buffer : Field 64) : Sha1State :=
  let block : Sha1Work := ⟨state.s0, state.s1, state.s2, state.s3, state.s4, Sha1.loadBlock buffer⟩
  let s := Sha1.rounds.foldl (fun s round => round s) block
  ⟨state.s0 + s.a, state.s1 + s.b, state.s2 + s.c, state.s3 + s.d, state.s4 + s.e⟩

/-- `SHA1_CTX`. -/
structure Sha1Ctx where
  state : Sha1State
  count0 : UInt32
  count1 : UInt32
  buffer : Field 64

/-- `SHA1Init`; the buffer keeps whatever bytes are in it. -/
def sha1Init (buffer : Field 64) : Sha1Ctx :=
  ⟨⟨0x67452301, 0xEFCDAB89, 0x98BADCFE, 0x10325476, 0xC3D2E1F0⟩, 0, 0, buffer⟩

theorem length_store {buffer : Field 64} {j : Nat} {bytes : List UInt8} (h : j + bytes.length ≤ 64) :
    (store buffer.1 j bytes).length = 64 := by
  rw [store, List.length_append, List.length_append, List.length_take, List.length_drop, buffer.2]
  omega

/-- `memcpy(&buffer[j], bytes, n)` for the `n` bytes `bytes`. -/
def memcpy (buffer : Field 64) (j : Nat) (bytes : List UInt8) : Option (Field 64) :=
  if h : j + bytes.length ≤ 64 then some ⟨store buffer.1 j bytes, length_store h⟩ else none

/-- `for (; i + 63 < len; i += 64)`, at most the given number of times. -/
def sha1UpdateLoop (data : List UInt8) (len : UInt32) : Nat → UInt32 → Sha1State → Option (UInt32 × Sha1State)
  | 0, _, _ => none
  | n + 1, i, state =>
    if i + 63 < len then
      sha1UpdateLoop data len n (i + 64) (sha1Transform state (fieldAt data i.toNat 64))
    else some (i, state)

def sha1Update (context : Sha1Ctx) (data : List UInt8) (len : UInt32) : Option Sha1Ctx :=
  let j := context.count0
  let count0 := context.count0 + (len <<< 3)
  let count1 := if count0 < j then context.count1 + 1 else context.count1
  let count1 := count1 + (len >>> 29)
  let j := (j >>> 3) &&& 63
  if j + len > 63 then do
    let i := 64 - j
    let buffer ← memcpy context.buffer j.toNat (data.take i.toNat)
    let p ← sha1UpdateLoop data len (len.toNat / 64 + 1) i (sha1Transform context.state buffer)
    let buffer ← memcpy buffer 0 ((data.drop p.1.toNat).take (len - p.1).toNat)
    some ⟨p.2, count0, count1, buffer⟩
  else do
    let buffer ← memcpy context.buffer j.toNat (data.take len.toNat)
    some ⟨context.state, count0, count1, buffer⟩

/-- `while ((context->count[0] & 504) != 448)`, at most the given number of times. -/
def sha1PadLoop : Nat → Sha1Ctx → Option Sha1Ctx
  | 0, _ => none
  | n + 1, context =>
    if context.count0 &&& 504 ≠ 448 then (sha1Update context [0] 1).bind (sha1PadLoop n) else some context

/-- The bytes of `count[1]` and `count[0]`, the highest first. -/
def finalCount (context : Sha1Ctx) : List UInt8 :=
  (List.range 8).map fun i =>
    (((if i ≥ 4 then context.count0 else context.count1) >>> UInt32.ofNat ((3 - (i &&& 3)) * 8)) &&& 255).toUInt8

def sha1Digest (state : Sha1State) : List UInt8 :=
  (List.range 20).map fun i =>
    ((state.get (i >>> 2) >>> UInt32.ofNat ((3 - (i &&& 3)) * 8)) &&& 255).toUInt8

def sha1Final (context : Sha1Ctx) : Option (List UInt8) := do
  let finalcount := finalCount context
  let context ← sha1Update context [0x80] 1
  let context ← sha1PadLoop 64 context
  let context ← sha1Update context finalcount 8
  some (sha1Digest context.state)

/-- `for (ii=0; ii<len; ii+=1)` over the bytes of `str`. -/
def sha1Bytes : List UInt8 → Sha1Ctx → Option Sha1Ctx
  | [], context => some context
  | b :: str, context => (sha1Update context [b] 1).bind (sha1Bytes str)

/-- `SHA1`; `garbage` are the bytes that the context on the stack holds. -/
def sha1 (garbage : Field 64) (str : List UInt8) (len : Int32) : Option (List UInt8) :=
  (sha1Bytes (str.take len.toInt.toNat) (sha1Init garbage)).bind sha1Final

/-- `SHA1` on a body, as it is compared with `arrBodySHA1`. -/
def bodySha1 (garbage : Field 64) (body : List UInt8) : Field 20 :=
  fieldAt ((sha1 garbage body (Int32.ofNat body.length)).getD []) 0 20

end FutuOpenD

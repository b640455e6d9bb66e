import FutuOpenD.Buffer
import FutuOpenD.Lib.BoundedQueue

/-!
# `class Buffer` as a bounded queue

The class with all its methods, `Resize` among them. A buffer refines a `BoundedQueue` of bytes, step by
step, as long as `Resize` never goes below the data, and no longer (`buffer_is_queue_iff`): its assert only
asks for a positive length.
-/

namespace FutuOpenD
open Bytes Runs Queues

/-- `realloc` gives a block of `nNewLen` bytes, the old ones and then some of `mem`. -/
def Buffer.realloc (nNewLen : Int) (mem : List UInt8) (b : Buffer) : Buffer :=
  { b with pBuf := (b.pBuf ++ mem).take nNewLen.toNat, nBufLen := nNewLen }

/-- `Buffer::Resize`; `fresh` is what the block that `realloc` returned may hold after the old bytes. -/
def Buffer.resize (nNewLen : Int) (fresh : Option (List UInt8)) (b : Buffer) : Bool × Buffer :=
  if nNewLen = b.nBufLen then (true, b)
  else
    match fresh with
    | none => (false, b)
    | some mem => (true, b.realloc nNewLen mem)

/-- A use of the buffer: a read into it as in `AfterRead`, or a call of a method. -/
inductive BufferEvent
  | read (bytes : List UInt8)
  | removeFront (nLen : Int)
  | resize (nNewLen : Int) (fresh : Option (List UInt8))

def BufferEvent.bytesRead : BufferEvent → List UInt8
  | .read bytes => bytes
  | _ => []

/-- The asserts hold, nothing negative is removed, and a block that `realloc` returns is long enough. -/
def bufferStep (b : Buffer) : BufferEvent → Option Buffer
  | .read bytes =>
    if (bytes.length : Int) ≤ b.getRemainLen then
      some ((b.fill bytes).setDataLen (bytes.length + b.getDataLen))
    else none
  | .removeFront nLen => if 0 ≤ nLen ∧ nLen ≤ b.getDataLen then some (b.removeFront nLen) else none
  | .resize nNewLen fresh =>
    if 0 < nNewLen ∧ fresh.all fun mem => nNewLen ≤ b.nBufLen + mem.length then some (b.resize nNewLen fresh).2
    else none

def bufferMachine : Machine Buffer BufferEvent := ⟨bufferStep⟩

/-- What the event is to the queue; a `Resize` that fails is nothing. -/
def queueEvents (b : Buffer) : BufferEvent → List (QueueEvent UInt8)
  | .read bytes => [.push bytes]
  | .removeFront nLen => [.pop nLen.toNat]
  | .resize nNewLen fresh => if (b.resize nNewLen fresh).1 then [.resize nNewLen.toNat] else []

/-- No successful `Resize` goes below the data. -/
def KeepsData (b : Buffer) : BufferEvent → Prop
  | .resize nNewLen fresh => (b.resize nNewLen fresh).1 = true → b.getDataLen ≤ nNewLen
  | _ => True

instance (b : Buffer) (e : BufferEvent) : Decidable (KeepsData b e) :=
  match e with
  | .read _ => inferInstanceAs (Decidable True)
  | .removeFront _ => inferInstanceAs (Decidable True)
  | .resize nNewLen fresh => inferInstanceAs (Decidable ((b.resize nNewLen fresh).1 = true → b.getDataLen ≤ nNewLen))

/-- The buffer stands for the queue. -/
structure Represents (b : Buffer) (q : BoundedQueue UInt8) : Prop where
  wf : b.WF
  items : q.items = b.data
  cap : (q.cap : Int) = b.nBufLen

section
variable {b b' : Buffer} {q : BoundedQueue UInt8} {e : BufferEvent} {es : List BufferEvent}

theorem Represents.new {n : Nat} (mem : Field n) : Represents (Buffer.new mem) (.empty n) :=
  ⟨Buffer.new_wf mem, rfl, rfl⟩

theorem Buffer.resize_cases (nNewLen : Int) (fresh : Option (List UInt8)) (b : Buffer) :
    (nNewLen = b.nBufLen ∧ b.resize nNewLen fresh = (true, b)) ∨ b.resize nNewLen fresh = (false, b) ∨
      ∃ mem, fresh = some mem ∧ b.resize nNewLen fresh = (true, b.realloc nNewLen mem) := by
  unfold Buffer.resize
  split_ifs with hlen
  · exact .inl ⟨hlen, rfl⟩
  · cases fresh with
    | none => exact .inr (.inl rfl)
    | some mem => exact .inr (.inr ⟨mem, rfl, rfl⟩)

namespace Buffer.WF

theorem realloc {nNewLen : Int} {mem : List UInt8} (h : b.WF) (hmem : nNewLen ≤ b.nBufLen + mem.length)
    (hkeep : b.nDataLen ≤ nNewLen) : (b.realloc nNewLen mem).WF := by
  have hnonneg := h.nonneg
  have hsize := h.size
  refine ⟨hnonneg, hkeep, ?_⟩
  show (((b.pBuf ++ mem).take nNewLen.toNat).length : Int) = nNewLen
  rw [List.length_take, List.length_append]
  omega

theorem data_realloc {nNewLen : Int} (mem : List UInt8) (h : b.WF) (hkeep : b.nDataLen ≤ nNewLen) :
    (b.realloc nNewLen mem).data = b.data := by
  have hle := h.le
  have hsize := h.size
  show ((b.pBuf ++ mem).take nNewLen.toNat).take b.nDataLen.toNat = b.pBuf.take b.nDataLen.toNat
  rw [List.take_take, Nat.min_eq_left (by omega), List.take_append_of_le_length (by omega)]

end Buffer.WF

/-- What an event that can happen does to the queue that the buffer stands for. -/
theorem Represents.step (h : Represents b q) (hs : bufferStep b e = some b') :
    (KeepsData b e → ∃ q', (BoundedQueue.machine UInt8).run q (queueEvents b e) = some q' ∧ Represents b' q') ∧
      (¬ KeepsData b e → (BoundedQueue.machine UInt8).run q (queueEvents b e) = none) := by
  have hwf := h.wf
  have hnonneg := hwf.nonneg
  have hlen : (q.items.length : Int) = b.nDataLen := by rw [h.items, hwf.length_data]
  have hcap := h.cap
  cases e with
  | read bytes =>
    obtain ⟨hfit, hb⟩ := Option.ite_none_right_eq_some.1 hs
    cases hb
    refine ⟨fun _ => ?_, fun hnot => absurd trivial hnot⟩
    unfold Buffer.getRemainLen at hfit
    have hpush : (q.items ++ bytes).length ≤ q.cap := by
      rw [List.length_append]
      omega
    refine ⟨⟨q.cap, q.items ++ bytes, hpush⟩, Machine.run_singleton.trans (dif_pos hpush), ?_, ?_, hcap⟩
    · exact (hwf.fill hfit).setDataLen (show 0 ≤ bytes.length + b.nDataLen by omega)
        (show bytes.length + b.nDataLen ≤ b.nBufLen by omega)
    · rw [Buffer.getDataLen, hwf.data_read, ← h.items]
  | removeFront nLen =>
    obtain ⟨⟨hpos, hle⟩, hb⟩ := Option.ite_none_right_eq_some.1 hs
    cases hb
    refine ⟨fun _ => ?_, fun hnot => absurd trivial hnot⟩
    unfold Buffer.getDataLen at hle
    have hpop : nLen.toNat ≤ q.items.length := by omega
    refine ⟨⟨q.cap, q.items.drop nLen.toNat, q.fits_drop _⟩, Machine.run_singleton.trans (if_pos hpop),
      hwf.removeFront hpos hle, ?_, hcap⟩
    rw [hwf.data_removeFront hpos hle, ← h.items]
  | resize nNewLen fresh =>
    obtain ⟨⟨hpos, hmem⟩, hb⟩ := Option.ite_none_right_eq_some.1 hs
    cases hb
    simp only [KeepsData, queueEvents, Buffer.getDataLen]
    rcases b.resize_cases nNewLen fresh with ⟨hlen, hr⟩ | hr | ⟨mem, rfl, hr⟩
    · -- the same length: data that fit still do
      have hle := hwf.le
      have hfit : q.items.length ≤ nNewLen.toNat := by omega
      rw [hr, if_pos rfl]
      refine ⟨fun _ => ?_, fun hnot => absurd (fun _ => by omega) hnot⟩
      refine ⟨⟨nNewLen.toNat, q.items, hfit⟩, Machine.run_singleton.trans (dif_pos hfit), hwf, h.items, ?_⟩
      show (nNewLen.toNat : Int) = b.nBufLen
      omega
    · rw [hr]
      exact ⟨fun _ => ⟨q, rfl, h⟩, fun hnot => absurd (fun hc => by cases hc) hnot⟩
    · rw [hr, if_pos rfl]
      have hroom : nNewLen ≤ b.nBufLen + mem.length := by simpa using hmem
      constructor
      · intro hkeep
        have hle := hkeep rfl
        have hfit : q.items.length ≤ nNewLen.toNat := by omega
        refine ⟨⟨nNewLen.toNat, q.items, hfit⟩, Machine.run_singleton.trans (dif_pos hfit),
          hwf.realloc hroom hle, ?_, ?_⟩
        · rw [hwf.data_realloc mem hle]
          exact h.items
        · show (nNewLen.toNat : Int) = nNewLen
          omega
      · intro hnot
        refine Machine.run_singleton.trans (dif_neg fun hfit => hnot fun _ => ?_)
        omega

/-- The buffer is the queue as long as the data are kept, and the queue has no run otherwise. -/
theorem Represents.run (h : Represents b q) (hr : bufferMachine.run b es = some b') :
    (bufferMachine.AllSteps KeepsData b es →
        ∃ q', (BoundedQueue.machine UInt8).run q (bufferMachine.outputs queueEvents b es) = some q' ∧ Represents b' q') ∧
      (¬ bufferMachine.AllSteps KeepsData b es →
        (BoundedQueue.machine UInt8).run q (bufferMachine.outputs queueEvents b es) = none) := by
  induction es generalizing b q with
  | nil =>
    cases hr
    exact ⟨fun _ => ⟨q, rfl, h⟩, fun hnot => absurd trivial hnot⟩
  | cons e es ih =>
    obtain ⟨b₁, h₁, h₂⟩ := Machine.run_cons.1 hr
    obtain ⟨hkeep, hlose⟩ := h.step h₁
    rw [Machine.outputs_cons h₁, Machine.allSteps_cons h₁]
    by_cases hk : KeepsData b e
    · obtain ⟨q₁, hq₁, h'⟩ := hkeep hk
      obtain ⟨hrest, hnone⟩ := ih h' h₂
      constructor
      · rintro ⟨-, hes⟩
        obtain ⟨q', hq', hR⟩ := hrest hes
        exact ⟨q', Machine.run_append.2 ⟨q₁, hq₁, hq'⟩, hR⟩
      · intro hnot
        refine Option.eq_none_iff_forall_ne_some.2 fun q' hq' => ?_
        obtain ⟨q₂, hq₂, hrun⟩ := Machine.run_append.1 hq'
        rw [hq₁] at hq₂
        cases hq₂
        rw [hnone fun hes => hnot ⟨hk, hes⟩] at hrun
        cases hrun
    · refine ⟨fun hes => absurd hes.1 hk, fun _ => Option.eq_none_iff_forall_ne_some.2 fun q' hq' => ?_⟩
      obtain ⟨q₂, hq₂, -⟩ := Machine.run_append.1 hq'
      rw [hlose hk] at hq₂
      cases hq₂

theorem pushed_queueEvents (b : Buffer) (es : List BufferEvent) (hr : bufferMachine.run b es = some b') :
    (bufferMachine.outputs queueEvents b es).flatMap QueueEvent.pushed = es.flatMap BufferEvent.bytesRead := by
  have hstep : ∀ b e, (queueEvents b e).flatMap QueueEvent.pushed = e.bytesRead := by
    intro b e
    cases e with
    | read bytes => exact List.append_nil bytes
    | removeFront nLen => rfl
    | resize nNewLen fresh =>
      simp only [queueEvents]
      split_ifs
      · rfl
      · rfl
  induction es generalizing b with
  | nil => rfl
  | cons e es ih =>
    obtain ⟨b₁, h₁, h₂⟩ := Machine.run_cons.1 hr
    rw [Machine.outputs_cons h₁, List.flatMap_append, hstep, ih b₁ h₂, List.flatMap_cons]

/-- A buffer is a bounded queue of bytes if and only if every `Resize` that succeeds leaves room for the
data; then the data are the last of the bytes read. -/
theorem buffer_is_queue_iff {n : Nat} {mem : Field n} (hr : bufferMachine.run (.new mem) es = some b) :
    ((∃ q, (BoundedQueue.machine UInt8).run (.empty n) (bufferMachine.outputs queueEvents (.new mem) es) = some q ∧
        q.items = b.data ∧ (q.cap : Int) = b.nBufLen) ↔ bufferMachine.AllSteps KeepsData (.new mem) es) ∧
      (bufferMachine.AllSteps KeepsData (.new mem) es → b.WF ∧ b.data <:+ es.flatMap BufferEvent.bytesRead) := by
  obtain ⟨hkeep, hlose⟩ := (Represents.new mem).run hr
  refine ⟨⟨?_, fun hes => ?_⟩, fun hes => ?_⟩
  · rintro ⟨q, hq, -⟩
    by_contra hnot
    rw [hlose hnot] at hq
    cases hq
  · obtain ⟨q, hq, h⟩ := hkeep hes
    exact ⟨q, hq, h.items, h.cap⟩
  · obtain ⟨q, hq, h⟩ := hkeep hes
    have hbytes := BoundedQueue.run_conserves hq
    rw [pushed_queueEvents _ es hr, h.items] at hbytes
    exact ⟨h.wf, _, hbytes.symm⟩

/-- Two bytes are not enough for three. -/
theorem buffer_is_queue_iff_shrunk :
    ∃ b, bufferMachine.run (.new (zeros 4)) [.read [1, 2, 3], .resize 2 (some [])] = some b ∧
      ¬ ∃ q, (BoundedQueue.machine UInt8).run (.empty 4) [.push [1, 2, 3], .resize 2] = some q ∧
        q.items = b.data ∧ (q.cap : Int) = b.nBufLen := by
  obtain ⟨b, hr⟩ : ∃ b, bufferMachine.run (.new (zeros 4)) [.read [1, 2, 3], .resize 2 (some [])] = some b := ⟨_, rfl⟩
  have hlost : ¬ bufferMachine.AllSteps KeepsData (.new (zeros 4)) [.read [1, 2, 3], .resize 2 (some [])] := by decide
  obtain ⟨hiff, -⟩ := buffer_is_queue_iff hr
  exact ⟨b, hr, fun hq => hlost (hiff.1 hq)⟩

end
end FutuOpenD

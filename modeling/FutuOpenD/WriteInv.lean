import FutuOpenD.TcpConnect

/-!
# What one step does to the write side, and who owns the bytes in flight

`WriteCase` lists the four things that a `Send` or a completion can do (`writeStep_cases`): start a
write with store 0, queue behind the write in progress, follow up with the other store, or go idle.
Everything about runs of the write side is proved by cases on it. `WriteInv` is the invariant of all
runs, refusals and failed completions included: there is a write in flight only while the index is 0
or 1, and `m_writeBuf` then points to the store of that index, as it was when the write started.
-/

namespace FutuOpenD
open Runs
namespace TcpConnect
variable {c c' : TcpConnect} {e : WriteEvent} {es : List WriteEvent}

def insert (i : Int) (pData : List UInt8) (c : TcpConnect) : TcpConnect :=
  { c with writeStores := c.writeStores.modify i (·.insertEnd pData) }

def submit (i uvRet : Int) (c : TcpConnect) : TcpConnect :=
  uvWrite uvRet { c with writeBuf := c.uvBufInit i, nCurUsingWriteStoreIdx := i }

/-- The first part of `AfterWrite`: the store in use is cleared and given up. -/
def release (c : TcpConnect) : TcpConnect :=
  { c with
    writeStores := c.writeStores.modify c.nCurUsingWriteStoreIdx CharVector.clear
    nCurUsingWriteStoreIdx := -1 }

/-- The store that queues what is sent while a write is in progress. -/
def otherStore (c : TcpConnect) : CharVector :=
  c.writeStores.get (otherStoreIdx c.nCurUsingWriteStoreIdx)

/-- What a step does, from a state in which the index is -1, 0 or 1. -/
inductive WriteCase (c : TcpConnect) : WriteEvent → TcpConnect → Prop
  | start (pData : List UInt8) (uvRet : Int) (hidx : c.nCurUsingWriteStoreIdx = -1) :
      WriteCase c (.send pData uvRet) ((c.insert 0 pData).submit 0 uvRet)
  | queue (pData : List UInt8) (uvRet : Int)
      (hidx : c.nCurUsingWriteStoreIdx = 0 ∨ c.nCurUsingWriteStoreIdx = 1) :
      WriteCase c (.send pData uvRet) (c.insert (otherStoreIdx c.nCurUsingWriteStoreIdx) pData)
  | followUp (uvRet : Int) (hfl : c.uv.inFlight.isSome) (hother : c.otherStore.bytes ≠ []) :
      WriteCase c (.afterWrite 0 uvRet)
        (c.complete.release.submit (otherStoreIdx c.nCurUsingWriteStoreIdx) uvRet)
  | idle (status uvRet : Int) (hfl : c.uv.inFlight.isSome)
      (hother : status ≠ 0 ∨ c.otherStore.bytes = []) :
      WriteCase c (.afterWrite status uvRet) c.complete.release

section submit
variable (i uvRet : Int) (c : TcpConnect)

@[simp] theorem submit_idx : (c.submit i uvRet).nCurUsingWriteStoreIdx = i := rfl
@[simp] theorem submit_writeStores : (c.submit i uvRet).writeStores = c.writeStores := rfl
@[simp] theorem submit_writeBuf : (c.submit i uvRet).writeBuf = c.uvBufInit i := rfl
@[simp] theorem submit_uvBufInit (j : Int) : (c.submit i uvRet).uvBufInit j = c.uvBufInit j := rfl
@[simp] theorem submit_inFlight : (c.submit i uvRet).uv.inFlight =
    if uvRet = 0 then some (c.uvBufInit i) else c.uv.inFlight := rfl
@[simp] theorem submit_calls : (c.submit i uvRet).uv.calls =
    c.uv.calls ++ [⟨c.bytesOf (c.uvBufInit i), uvRet, c.uv.inFlight.isSome⟩] := rfl

end submit

@[simp] theorem insert_idx (i : Int) (pData : List UInt8) :
    (c.insert i pData).nCurUsingWriteStoreIdx = c.nCurUsingWriteStoreIdx := rfl
@[simp] theorem insert_uv (i : Int) (pData : List UInt8) : (c.insert i pData).uv = c.uv := rfl
@[simp] theorem insert_writeBuf (i : Int) (pData : List UInt8) :
    (c.insert i pData).writeBuf = c.writeBuf := rfl
@[simp] theorem insert_writeStores (i : Int) (pData : List UInt8) :
    (c.insert i pData).writeStores = c.writeStores.modify i (·.insertEnd pData) := rfl

@[simp] theorem release_idx : c.release.nCurUsingWriteStoreIdx = -1 := rfl
@[simp] theorem release_uv : c.release.uv = c.uv := rfl
@[simp] theorem release_writeStores :
    c.release.writeStores = c.writeStores.modify c.nCurUsingWriteStoreIdx CharVector.clear := rfl

@[simp] theorem complete_idx : c.complete.nCurUsingWriteStoreIdx = c.nCurUsingWriteStoreIdx := rfl
@[simp] theorem complete_writeStores : c.complete.writeStores = c.writeStores := rfl
@[simp] theorem complete_inFlight : c.complete.uv.inFlight = none := rfl
@[simp] theorem complete_calls : c.complete.uv.calls = c.uv.calls := rfl

theorem bytesOf_uvBufInit {i : Int} (h : (c.writeStores.get i).size < 2 ^ 32) :
    c.bytesOf (c.uvBufInit i) = (c.writeStores.get i).bytes := by
  show (c.writeStores.get i).bytes.take (UInt32.ofNat (c.writeStores.get i).size).toNat = _
  rw [UInt32.toNat_ofNat_of_lt' h]
  exact List.take_length

structure WriteInv (c : TcpConnect) : Prop where
  idx : c.nCurUsingWriteStoreIdx = -1 ∨ c.nCurUsingWriteStoreIdx = 0 ∨ c.nCurUsingWriteStoreIdx = 1
  quiet : c.nCurUsingWriteStoreIdx = -1 → c.uv.inFlight = none
  alone : ∀ call ∈ c.uv.calls, call.overlaps = false
  buf : c.uv.inFlight.isSome →
    c.uv.inFlight = some c.writeBuf ∧ c.writeBuf = c.uvBufInit c.nCurUsingWriteStoreIdx

theorem WriteInv.new : WriteInv new := by
  refine ⟨.inl rfl, fun _ => rfl, fun call hc => ?_, fun h => ?_⟩
  · cases hc
  · cases h

theorem WriteInv.busy (h : c.WriteInv) (hfl : c.uv.inFlight.isSome) :
    c.nCurUsingWriteStoreIdx = 0 ∨ c.nCurUsingWriteStoreIdx = 1 := by
  rcases h.idx with hi | hi
  · rw [h.quiet hi] at hfl; cases hfl
  · exact hi

theorem send_start (hidx : c.nCurUsingWriteStoreIdx = -1) (uvRet : Int) (pData : List UInt8) :
    c.send uvRet pData = (decide (uvRet = 0), (c.insert 0 pData).submit 0 uvRet) := by
  have hlt : c.nCurUsingWriteStoreIdx < 0 := by omega
  unfold send
  simp only [hlt, ↓reduceIte]
  by_cases hr : uvRet = 0
  · simp only [hr, ne_eq, not_true_eq_false, ↓reduceIte, decide_true]; rfl
  · simp only [hr, ne_eq, not_false_eq_true, ↓reduceIte, decide_false]; rfl

theorem send_queue (hidx : c.nCurUsingWriteStoreIdx = 0 ∨ c.nCurUsingWriteStoreIdx = 1) (uvRet : Int)
    (pData : List UInt8) :
    c.send uvRet pData = (true, c.insert (otherStoreIdx c.nCurUsingWriteStoreIdx) pData) := by
  have hlt : ¬ c.nCurUsingWriteStoreIdx < 0 := by omega
  unfold send
  simp only [hlt, ↓reduceIte]
  rfl

theorem get_release_otherStoreIdx
    (hidx : c.nCurUsingWriteStoreIdx = 0 ∨ c.nCurUsingWriteStoreIdx = 1) :
    c.release.writeStores.get (otherStoreIdx c.nCurUsingWriteStoreIdx) = c.otherStore := by
  unfold otherStore
  rcases hidx with hi | hi <;> simp [hi]

theorem afterWrite_followUp (hidx : c.nCurUsingWriteStoreIdx = 0 ∨ c.nCurUsingWriteStoreIdx = 1)
    (hother : c.otherStore.bytes ≠ []) (uvRet : Int) :
    (c.afterWrite 0 uvRet).1 = c.release.submit (otherStoreIdx c.nCurUsingWriteStoreIdx) uvRet := by
  have hpos : (c.release.writeStores.get (otherStoreIdx c.nCurUsingWriteStoreIdx)).size > 0 := by
    rw [get_release_otherStoreIdx hidx]
    exact List.length_pos_iff.2 hother
  unfold afterWrite
  change (ite (0 = 0 ∧ (c.release.writeStores.get _).size > 0) _ _ : Int × TcpConnect).2 = _
  simp only [hpos, and_self, ↓reduceIte]
  rfl

theorem afterWrite_idle (hidx : c.nCurUsingWriteStoreIdx = 0 ∨ c.nCurUsingWriteStoreIdx = 1)
    {status : Int} (hother : status ≠ 0 ∨ c.otherStore.bytes = []) (uvRet : Int) :
    (c.afterWrite status uvRet).1 = c.release := by
  have hno : ¬ (status = 0 ∧
      (c.release.writeStores.get (otherStoreIdx c.nCurUsingWriteStoreIdx)).size > 0) := by
    rw [get_release_otherStoreIdx hidx, CharVector.size]
    rintro ⟨h0, hpos⟩
    rcases hother with h | h
    · exact h h0
    · rw [h] at hpos; cases hpos
  unfold afterWrite
  change (ite (status = 0 ∧ (c.release.writeStores.get _).size > 0) _ _ : Int × TcpConnect).2 = _
  simp only [hno, ↓reduceIte]
  rfl

theorem step_start (hidx : c.nCurUsingWriteStoreIdx = -1) (pData : List UInt8) (uvRet : Int) :
    writeMachine.step c (.send pData uvRet) = some ((c.insert 0 pData).submit 0 uvRet) := by
  show some (c.send uvRet pData).2 = _
  rw [send_start hidx]

theorem step_queue (hidx : c.nCurUsingWriteStoreIdx = 0 ∨ c.nCurUsingWriteStoreIdx = 1)
    (pData : List UInt8) (uvRet : Int) :
    writeMachine.step c (.send pData uvRet) =
      some (c.insert (otherStoreIdx c.nCurUsingWriteStoreIdx) pData) := by
  show some (c.send uvRet pData).2 = _
  rw [send_queue hidx]

theorem step_afterWrite (hfl : c.uv.inFlight.isSome) (status uvRet : Int) :
    writeMachine.step c (.afterWrite status uvRet) = some (c.complete.afterWrite status uvRet).1 := by
  show (if c.uv.inFlight.isSome then some (c.complete.afterWrite status uvRet).1 else none) = _
  simp only [hfl, ↓reduceIte]

theorem step_followUp (hfl : c.uv.inFlight.isSome)
    (hidx : c.nCurUsingWriteStoreIdx = 0 ∨ c.nCurUsingWriteStoreIdx = 1)
    (hother : c.otherStore.bytes ≠ []) (uvRet : Int) :
    writeMachine.step c (.afterWrite 0 uvRet) =
      some (c.complete.release.submit (otherStoreIdx c.nCurUsingWriteStoreIdx) uvRet) := by
  rw [step_afterWrite hfl, afterWrite_followUp (c := c.complete) hidx hother]
  rfl

theorem step_idle (hfl : c.uv.inFlight.isSome)
    (hidx : c.nCurUsingWriteStoreIdx = 0 ∨ c.nCurUsingWriteStoreIdx = 1)
    {status : Int} (hother : status ≠ 0 ∨ c.otherStore.bytes = []) (uvRet : Int) :
    writeMachine.step c (.afterWrite status uvRet) = some c.complete.release := by
  rw [step_afterWrite hfl, afterWrite_idle (c := c.complete) hidx hother]

theorem writeStep_cases (h : c.WriteInv) (hs : writeMachine.step c e = some c') : WriteCase c e c' := by
  cases e with
  | send pData uvRet =>
    rcases h.idx with hi | hi
    · rw [step_start hi] at hs; cases hs; exact .start pData uvRet hi
    · rw [step_queue hi] at hs; cases hs; exact .queue pData uvRet hi
  | afterWrite status uvRet =>
    by_cases hfl : c.uv.inFlight.isSome
    · have hi := h.busy hfl
      by_cases hother : status ≠ 0 ∨ c.otherStore.bytes = []
      · rw [step_idle hfl hi hother] at hs
        cases hs
        exact .idle status uvRet hfl hother
      · obtain ⟨h0, hne⟩ := not_or.1 hother
        obtain rfl := not_not.1 h0
        rw [step_followUp hfl hi hne] at hs
        cases hs
        exact .followUp uvRet hfl hne
    · change (if c.uv.inFlight.isSome then some (c.complete.afterWrite status uvRet).1 else none) = _ at hs
      simp only [hfl, Bool.false_eq_true, ↓reduceIte] at hs
      cases hs

theorem WriteInv.submit {i : Int} (hi : i = 0 ∨ i = 1) (hfl : c.uv.inFlight = none)
    (halone : ∀ call ∈ c.uv.calls, call.overlaps = false) (uvRet : Int) :
    (c.submit i uvRet).WriteInv := by
  refine ⟨.inr hi, fun h => ?_, fun call hc => ?_, fun h => ?_⟩
  · rw [submit_idx] at h; omega
  · rw [submit_calls, List.mem_append, List.mem_singleton] at hc
    rcases hc with hc | rfl
    · exact halone call hc
    · rw [hfl]; rfl
  · rw [submit_inFlight, hfl] at h ⊢
    split at h
    · next hr => simp [hr]
    · cases h

theorem WriteInv.step (h : c.WriteInv) (hs : writeMachine.step c e = some c') : c'.WriteInv := by
  cases writeStep_cases h hs with
  | start pData uvRet hidx => exact WriteInv.submit (c := c.insert 0 pData) (.inl rfl) (h.quiet hidx) h.alone uvRet
  | queue pData uvRet hidx =>
    -- the insertion goes to the store that is not in flight
    refine ⟨h.idx, h.quiet, h.alone, fun hfl => ?_⟩
    obtain ⟨h1, h2⟩ := h.buf hfl
    refine ⟨h1, h2.trans ?_⟩
    unfold uvBufInit
    rcases hidx with hi | hi <;> simp [hi]
  | followUp uvRet hfl hother =>
    refine WriteInv.submit (c := c.complete.release) ?_ rfl h.alone uvRet
    rcases h.busy hfl with hi | hi <;> simp [hi]
  | idle status uvRet hfl hother =>
    refine ⟨.inl rfl, fun _ => rfl, h.alone, fun h => ?_⟩
    cases h

theorem WriteInv.run (hr : writeMachine.run TcpConnect.new es = some c) : c.WriteInv :=
  Machine.run_inv (fun _ _ _ h hs => h.step hs) WriteInv.new hr

end TcpConnect
end FutuOpenD

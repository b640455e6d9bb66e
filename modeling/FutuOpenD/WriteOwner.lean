import FutuOpenD.WriteInv

/-!
# One write in flight, and its bytes frozen

`WriteOwner` is what libuv relies on while a write is outstanding: the index names the store in flight,
`m_writeBuf` is the buffer libuv was given and still points to that store, and a `Send` leaves store,
index and buffer alone. It holds in every reachable state. That the buffer denotes the *whole* store
depends on its size: `(int)size()` keeps 32 bits, so `WholeBuf` holds all along a run exactly when no
accepted submission reaches 4 GiB.
-/

namespace FutuOpenD
open Runs
namespace TcpConnect
variable {c c' : TcpConnect} {e : WriteEvent} {es : List WriteEvent}

def curStore (c : TcpConnect) : CharVector := c.writeStores.get c.nCurUsingWriteStoreIdx

structure WriteOwner (c : TcpConnect) : Prop where
  /-- `uv_write` was never called while a write was outstanding. -/
  alone : ∀ call ∈ c.uv.calls, call.overlaps = false
  idx : c.uv.inFlight.isSome → c.nCurUsingWriteStoreIdx = 0 ∨ c.nCurUsingWriteStoreIdx = 1
  /-- What libuv holds is `m_writeBuf`, which points to the store in use as it is now. -/
  buf : c.uv.inFlight.isSome → c.uv.inFlight = some c.writeBuf ∧
    c.writeBuf.store = c.nCurUsingWriteStoreIdx ∧ c.writeBuf.gen = c.curStore.gen
  /-- A `Send` inserts into the other store and leaves everything libuv looks at. -/
  frozen : c.uv.inFlight.isSome → ∀ pData uvRet,
    (c.send uvRet pData).2.uv = c.uv ∧ (c.send uvRet pData).2.writeBuf = c.writeBuf ∧
    (c.send uvRet pData).2.nCurUsingWriteStoreIdx = c.nCurUsingWriteStoreIdx ∧
    (c.send uvRet pData).2.curStore = c.curStore

/-- The buffer in flight denotes all bytes of the store in use. -/
def WholeBuf (c : TcpConnect) : Prop :=
  c.uv.inFlight.isSome → c.writeBuf.len.toNat = c.curStore.size ∧ c.bytesOf c.writeBuf = c.curStore.bytes

/-- A store that the step hands to an accepting `uv_write` has fewer than 2^32 bytes. -/
def SubmissionFits (c : TcpConnect) : WriteEvent → Prop
  | .send pData uvRet => c.nCurUsingWriteStoreIdx < 0 → uvRet = 0 →
      c.writeStores.store0.size + pData.length < 2 ^ 32
  | .afterWrite status uvRet => status = 0 → uvRet = 0 → c.otherStore.size < 2 ^ 32

instance : DecidablePred (SubmissionFits c)
  | .send pData uvRet => inferInstanceAs (Decidable (c.nCurUsingWriteStoreIdx < 0 → uvRet = 0 →
      c.writeStores.store0.size + pData.length < 2 ^ 32))
  | .afterWrite status uvRet =>
    inferInstanceAs (Decidable (status = 0 → uvRet = 0 → c.otherStore.size < 2 ^ 32))

theorem WriteInv.owner (h : c.WriteInv) : c.WriteOwner := by
  refine ⟨h.alone, h.busy, fun hfl => ?_, fun hfl pData uvRet => ?_⟩
  · obtain ⟨h1, h2⟩ := h.buf hfl
    exact ⟨h1, by rw [h2]; rfl, by rw [h2]; rfl⟩
  · have hi := h.busy hfl
    rw [send_queue hi]
    refine ⟨rfl, rfl, rfl, ?_⟩
    unfold curStore
    rcases hi with hi | hi <;> simp [hi]

theorem wholeBuf_submit {i : Int} (hfl : c.uv.inFlight = none) (uvRet : Int) :
    WholeBuf (c.submit i uvRet) ↔ (uvRet = 0 → (c.writeStores.get i).size < 2 ^ 32) := by
  have hlen : (c.submit i uvRet).writeBuf.len.toNat = (c.writeStores.get i).size % 2 ^ 32 :=
    UInt32.toNat_ofNat'
  constructor
  · intro h hr
    obtain ⟨h1, -⟩ := h (by simp [hr])
    rw [hlen] at h1
    have hcur : (c.submit i uvRet).curStore = c.writeStores.get i := rfl
    rw [hcur] at h1
    omega
  · intro h hsome
    have hr : uvRet = 0 := by
      rw [submit_inFlight, hfl] at hsome
      split at hsome
      · assumption
      · cases hsome
    refine ⟨?_, ?_⟩
    · rw [hlen]
      exact Nat.mod_eq_of_lt (h hr)
    · exact bytesOf_uvBufInit (h hr)

theorem wholeBuf_step (h : c.WriteInv) (hw : WholeBuf c) (hs : writeMachine.step c e = some c') :
    WholeBuf c' ↔ SubmissionFits c e := by
  cases writeStep_cases h hs with
  | start pData uvRet hidx =>
    rw [wholeBuf_submit (c := c.insert 0 pData) (h.quiet hidx)]
    simp [SubmissionFits, hidx, CharVector.size]
  | queue pData uvRet hidx =>
    refine iff_of_true (fun hfl => ?_) (fun hlt => ?_)
    · obtain ⟨h1, h2⟩ := hw hfl
      have hb : c.writeBuf.store = c.nCurUsingWriteStoreIdx := (h.owner.buf hfl).2.1
      have hcur : (c.insert (otherStoreIdx c.nCurUsingWriteStoreIdx) pData).curStore = c.curStore := by
        unfold curStore
        rcases hidx with hi | hi <;> simp [hi]
      rw [hcur]
      refine ⟨h1, ?_⟩
      rw [← h2]
      unfold bytesOf
      rw [insert_writeBuf, hb, insert_writeStores]
      rcases hidx with hi | hi <;> simp [hi]
    · omega
  | followUp uvRet hfl hother =>
    have hget : c.complete.release.writeStores.get (otherStoreIdx c.nCurUsingWriteStoreIdx) =
        c.otherStore := get_release_otherStoreIdx (c := c.complete) (h.busy hfl)
    rw [wholeBuf_submit (c := c.complete.release) rfl, hget]
    simp [SubmissionFits]
  | idle status uvRet hfl hother =>
    refine iff_of_true (fun h => by cases h) (fun hst _ => ?_)
    rcases hother with h0 | h0
    · exact absurd hst h0
    · simp [CharVector.size, h0]

/-- At most one write is in flight and its bytes stay frozen, in every state of every run. The buffer
in flight denotes the whole of its store all along a run exactly when every accepted submission of
the run has fewer than 2^32 bytes. -/
theorem write_owner_iff_submissionsFit (es : List WriteEvent) :
    writeMachine.AllStates WriteOwner new es ∧
    (writeMachine.AllStates (fun c => WriteOwner c ∧ WholeBuf c) new es ↔
      writeMachine.AllSteps SubmissionFits new es) := by
  have hnew : WriteInv new ∧ WholeBuf new := ⟨.new, fun h => by cases h⟩
  constructor
  · exact Machine.allStates_of_inv (I := WriteInv) (fun c h => h.owner) (fun c e c' h hs => h.step hs) hnew.1
  · refine Machine.allStates_iff_allSteps (I := fun c => WriteInv c ∧ WholeBuf c)
      (fun c h => ⟨h.1.owner, h.2⟩) (fun c e c' h hc hs => ?_) (fun c e c' h hc hs hP => ?_) hnew
    · exact ⟨h.1.step hs, (wholeBuf_step h.1 h.2 hs).2 hc⟩
    · exact hc ((wholeBuf_step h.1 h.2 hs).1 hP.2)

theorem followUp_of_queued (p q : List UInt8) (hq : q ≠ []) :
    ∃ c, writeMachine.run new [.send p 0, .send q 0, .send q 0, .send q 0, .afterWrite 0 0] = some c ∧
      c.uv.inFlight.isSome ∧ c.writeBuf.len = UInt32.ofNat (3 * q.length) ∧
      c.curStore.size = 3 * q.length := by
  have hpos : 0 < q.length := List.length_pos_iff.2 hq
  have hlen : (q ++ q ++ q).length = 3 * q.length := by simp only [List.length_append]; omega
  refine ⟨submit 1 0 (complete (insert 1 q (insert 1 q (insert 1 q (submit 0 0 (insert 0 p new)))))).release,
    ?_, rfl, ?_, ?_⟩
  · rw [Machine.run_cons]
    refine ⟨_, step_start rfl p 0, Machine.run_cons.2 ⟨_, step_queue (.inl rfl) q 0, ?_⟩⟩
    refine Machine.run_cons.2 ⟨_, step_queue (.inl rfl) q 0, Machine.run_cons.2 ⟨_, step_queue (.inl rfl) q 0, ?_⟩⟩
    rw [Machine.run_singleton]
    refine step_followUp rfl (.inl rfl) (fun h => ?_) 0
    rw [show q ++ q ++ q = [] from h, List.length_nil] at hlen
    omega
  · exact congrArg UInt32.ofNat hlen
  · exact hlen

/-- Three packets of 2^31 - 1 bytes queued behind a write: the follow-up buffer is 4 GiB short. -/
theorem followUp_buffer_truncated :
    ¬ writeMachine.AllStates (fun c => WriteOwner c ∧ WholeBuf c) new
      [.send [0] 0, .send (List.replicate (2 ^ 31 - 1) 0) 0, .send (List.replicate (2 ^ 31 - 1) 0) 0,
        .send (List.replicate (2 ^ 31 - 1) 0) 0, .afterWrite 0 0] := by
  obtain ⟨c, hr, hfl, hlen, hsize⟩ := followUp_of_queued [0] (List.replicate (2 ^ 31 - 1) 0)
    (by rw [Ne, List.replicate_eq_nil_iff]; decide)
  intro h
  have hw := ((h.last hr).2 hfl).1
  rw [hlen, hsize, List.length_replicate, UInt32.toNat_ofNat'] at hw
  revert hw
  decide

end TcpConnect
end FutuOpenD

import FutuOpenD.WriteInv
import Mathlib.Data.List.Sublists

/-!
# Order of the bytes on the wire

`Fifo sent c` describes the stores against the packets sent so far: they split as `old ++ new`, what
`uv_write` accepted is a subsequence of `old`, and what is queued is exactly `new`. When uv_write and
the writes never fail nothing of `old` is missing (`write_path_fifo`). With failures the order still
holds as long as no packet starts a write over data that a failed completion left in store 1: then
store 0 overtakes store 1 (`OrderSafe`, `accepted_sublist_of_orderSafe`, `overtaken_packet`).
-/

namespace FutuOpenD
open Runs
namespace TcpConnect
variable {c c' t : TcpConnect} {e : WriteEvent} {es : List WriteEvent} {sent : List (List UInt8)}

def waitingBytes (c : TcpConnect) : List UInt8 :=
  if c.nCurUsingWriteStoreIdx < 0 then c.writeStores.store0.bytes ++ c.writeStores.store1.bytes
  else c.otherStore.bytes

theorem sentPackets_append (es fs : List WriteEvent) :
    sentPackets (es ++ fs) = sentPackets es ++ sentPackets fs :=
  List.filterMap_append

theorem acceptedBytes_submit (i uvRet : Int) (c : TcpConnect) :
    (c.submit i uvRet).acceptedBytes =
      c.acceptedBytes ++ if uvRet = 0 then c.bytesOf (c.uvBufInit i) else [] := by
  unfold acceptedBytes
  rw [submit_calls, List.filter_append, List.flatMap_append]
  by_cases hr : uvRet = 0 <;> simp [hr]

theorem submittedBytes_submit (i uvRet : Int) (c : TcpConnect) :
    (c.submit i uvRet).submittedBytes = c.submittedBytes ++ c.bytesOf (c.uvBufInit i) := by
  simp [submittedBytes]

/-- Where the packets `sent` are. The queue is described only while it can still be submitted. -/
structure Fifo (sent : List (List UInt8)) (c : TcpConnect) (old new : List (List UInt8)) : Prop where
  split : sent = old ++ new
  accepted : ∃ l : List (List UInt8), l.Sublist old ∧ c.acceptedBytes = l.flatten
  queued : c.uv.inFlight.isSome → c.otherStore.bytes = new.flatten
  left : c.nCurUsingWriteStoreIdx = -1 → c.waitingBytes = new.flatten ∧
    (c.writeStores.store0.bytes = [] ∨ c.writeStores.store1.bytes = [])

/-- An accepted submission has fewer than 2^32 bytes, and no data starts a write while store 1 still
holds bytes. -/
def OrderSafe (c : TcpConnect) : WriteEvent → Prop
  | .send pData uvRet => c.nCurUsingWriteStoreIdx < 0 → uvRet = 0 →
      c.writeStores.store0.size + pData.length < 2 ^ 32 ∧
      (c.writeStores.store1.bytes = [] ∨ pData = [])
  | .afterWrite status uvRet => status = 0 → uvRet = 0 → c.otherStore.size < 2 ^ 32

instance : DecidablePred (OrderSafe c)
  | .send pData uvRet => inferInstanceAs (Decidable (c.nCurUsingWriteStoreIdx < 0 → uvRet = 0 →
      c.writeStores.store0.size + pData.length < 2 ^ 32 ∧
      (c.writeStores.store1.bytes = [] ∨ pData = [])))
  | .afterWrite status uvRet =>
    inferInstanceAs (Decidable (status = 0 → uvRet = 0 → c.otherStore.size < 2 ^ 32))

theorem Fifo.new : Fifo [] new [] [] :=
  ⟨rfl, ⟨[], .slnil, rfl⟩, fun _ => rfl, fun _ => ⟨rfl, .inl rfl⟩⟩

theorem Fifo.accepted_sublist {old new : List (List UInt8)} (h : Fifo sent c old new) :
    ∃ l : List (List UInt8), l.Sublist sent ∧ c.acceptedBytes = l.flatten := by
  obtain ⟨l, hl, he⟩ := h.accepted
  exact ⟨l, h.split ▸ hl.trans (List.sublist_append_left old new), he⟩

/-- Handing over the whole queue: all of `new` becomes `old`. -/
theorem Fifo.submit {old new : List (List UInt8)} {i : Int} (hsplit : sent = old ++ new)
    (hi : i = 0 ∨ i = 1) (hacc : ∃ l : List (List UInt8), l.Sublist old ∧ c.acceptedBytes = l.flatten)
    (hsub : (c.writeStores.get i).bytes = new.flatten)
    (hother : (c.writeStores.get (otherStoreIdx i)).bytes = [])
    (hsize : (c.writeStores.get i).size < 2 ^ 32) : Fifo sent (c.submit i 0) sent [] := by
  obtain ⟨l, hl, he⟩ := hacc
  refine ⟨(List.append_nil _).symm, ⟨l ++ new, hsplit ▸ hl.append (.refl new), ?_⟩, fun _ => hother,
    fun hidx => ?_⟩
  · rw [acceptedBytes_submit, if_pos rfl, bytesOf_uvBufInit hsize, hsub, he, List.flatten_append]
  · rw [submit_idx] at hidx
    omega

/-- A refused submission: nothing is in flight and nothing will be submitted again. -/
theorem Fifo.refuse {i uvRet : Int} (hi : i = 0 ∨ i = 1) (hr : uvRet ≠ 0)
    (hacc : ∃ l : List (List UInt8), l.Sublist sent ∧ c.acceptedBytes = l.flatten)
    (hfl : c.uv.inFlight = none) : Fifo sent (c.submit i uvRet) sent [] := by
  refine ⟨(List.append_nil _).symm, ?_, fun hsome => ?_, fun hidx => ?_⟩
  · rwa [acceptedBytes_submit, if_neg hr, List.append_nil]
  · rw [submit_inFlight, if_neg hr, hfl] at hsome
    cases hsome
  · rw [submit_idx] at hidx
    omega

theorem Fifo.step {old new : List (List UInt8)} (hw : c.WriteInv) (h : Fifo sent c old new)
    (hc : OrderSafe c e) (hs : writeMachine.step c e = some c') :
    ∃ old' new', Fifo (sent ++ sentPackets [e]) c' old' new' := by
  have hnew : ∀ pData : List UInt8, sent ++ [pData] = old ++ (new ++ [pData]) := fun pData => by
    rw [h.split, List.append_assoc]
  cases writeStep_cases hw hs with
  | start pData uvRet hidx =>
    obtain ⟨hleft, hempty⟩ := h.left hidx
    have hneg : c.nCurUsingWriteStoreIdx < 0 := by omega
    rw [waitingBytes, if_pos hneg] at hleft
    by_cases hr : uvRet = 0
    · subst hr
      obtain ⟨hsize, hsafe⟩ := hc hneg rfl
      have hsize' : ((c.insert 0 pData).writeStores.get 0).size < 2 ^ 32 := by
        simpa [CharVector.size] using hsize
      by_cases h1 : c.writeStores.store1.bytes = []
      · refine ⟨_, _, Fifo.submit (c := c.insert 0 pData) (hnew pData) (.inl rfl) h.accepted ?_ ?_ hsize'⟩
        · rw [h1, List.append_nil] at hleft
          simp [hleft]
        · simpa using h1
      · -- an empty packet starts a write over the data left in store 1, which stays queued
        obtain rfl := hsafe.resolve_left h1
        have h0 := hempty.resolve_right h1
        obtain ⟨l, hl, he⟩ := h.accepted
        refine ⟨old, new ++ [[]], hnew [], ⟨l, hl, ?_⟩, fun _ => ?_, fun hidx => by cases hidx⟩
        · rw [acceptedBytes_submit, if_pos rfl, bytesOf_uvBufInit hsize']
          show c.acceptedBytes ++ (c.writeStores.store0.bytes ++ []) = l.flatten
          rw [h0, he]
          exact List.append_nil _
        · show c.writeStores.store1.bytes = _
          rw [h0, List.nil_append] at hleft
          simp [hleft]
    · obtain ⟨l, hl, he⟩ := h.accepted_sublist
      exact ⟨_, _, Fifo.refuse (c := c.insert 0 pData) (.inl rfl) hr
        ⟨l, hl.trans (List.sublist_append_left _ _), he⟩ (hw.quiet hidx)⟩
  | queue pData uvRet hidx =>
    refine ⟨old, new ++ [pData], hnew pData, h.accepted, fun hfl => ?_, fun hidx' => ?_⟩
    · have hq := h.queued hfl
      unfold otherStore at hq ⊢
      rcases hidx with hi | hi <;> simp_all
    · rw [insert_idx] at hidx'
      omega
  | followUp uvRet hfl hother =>
    have hi := hw.busy hfl
    have hi' : otherStoreIdx c.nCurUsingWriteStoreIdx = 0 ∨ otherStoreIdx c.nCurUsingWriteStoreIdx = 1 := by
      rcases hi with hi | hi <;> simp [hi]
    have hget : c.complete.release.writeStores.get (otherStoreIdx c.nCurUsingWriteStoreIdx) =
        c.otherStore := get_release_otherStoreIdx (c := c.complete) hi
    show ∃ old' new', Fifo (sent ++ []) _ old' new'
    rw [List.append_nil]
    by_cases hr : uvRet = 0
    · subst hr
      refine ⟨_, _, Fifo.submit (c := c.complete.release) h.split hi' h.accepted ?_ ?_ ?_⟩
      · rw [hget]; exact h.queued hfl
      · rcases hi with hi | hi <;> simp [hi]
      · rw [hget]; exact hc rfl rfl
    · exact ⟨_, _, Fifo.refuse (c := c.complete.release) hi' hr h.accepted_sublist rfl⟩
  | idle status uvRet hfl hother =>
    show ∃ old' new', Fifo (sent ++ []) _ old' new'
    rw [List.append_nil]
    refine ⟨old, new, h.split, h.accepted, fun hfl' => (by cases hfl'), fun _ => ?_⟩
    have hq := h.queued hfl
    unfold otherStore at hq
    rcases hw.busy hfl with hi | hi <;> simp_all [waitingBytes]

/-- In a run whose steps are all safe, the bytes that `uv_write` accepted are those of some of the
packets sent, each whole, in the order of the `Send` calls. -/
theorem accepted_sublist_of_orderSafe (hsafe : writeMachine.AllSteps OrderSafe new es)
    (hr : writeMachine.run new es = some t) :
    ∃ l : List (List UInt8), l.Sublist (sentPackets es) ∧ t.acceptedBytes = l.flatten := by
  obtain ⟨-, old, new, h⟩ := Machine.run_hist (l := [])
    (J := fun l c => WriteInv c ∧ ∃ old new, Fifo (sentPackets l) c old new)
    (fun l c e c' h hc hs => ⟨h.1.step hs, by
      obtain ⟨old, new, hf⟩ := h.2
      rw [sentPackets_append]
      exact hf.step h.1 hc hs⟩)
    ⟨.new, _, _, .new⟩ hsafe hr
  exact h.accepted_sublist

theorem accepted_sublist_after_failure :
    ∃ t, writeMachine.run new [.send [1] 0, .afterWrite (-32) 0, .send [2] 0, .send [3] 0,
        .afterWrite 0 (-32)] = some t ∧
      ∃ l : List (List UInt8), l.Sublist [[1], [2], [3]] ∧ t.acceptedBytes = l.flatten := by
  have hsafe : writeMachine.AllSteps OrderSafe new [.send [1] 0, .afterWrite (-32) 0, .send [2] 0,
      .send [3] 0, .afterWrite 0 (-32)] := by decide
  exact ⟨_, rfl, accepted_sublist_of_orderSafe hsafe rfl⟩

/-- The write of packet 1 fails while 2 is queued in store 1; packet 3 then starts a write with store 0
and overtakes 2. -/
theorem overtaken_packet :
    ∃ t, writeMachine.run new [.send [1] 0, .send [2] 0, .afterWrite (-32) 0, .send [3] 0,
        .afterWrite 0 0] = some t ∧ t.acceptedBytes = [1, 3, 2] ∧
      ¬ ∃ l : List (List UInt8), l.Sublist [[1], [2], [3]] ∧ t.acceptedBytes = l.flatten := by
  refine ⟨_, rfl, rfl, ?_⟩
  have hno : ∀ l ∈ List.sublists [[1], [2], [3]], [1, 3, 2] ≠ (l.flatten : List UInt8) := by decide
  rintro ⟨l, hl, he⟩
  exact hno l (List.mem_sublists.2 hl) he

/-! ### No failures -/

def WriteEvent.Succeeds : WriteEvent → Prop
  | .send _ uvRet => uvRet = 0
  | .afterWrite status uvRet => status = 0 ∧ uvRet = 0

instance : DecidablePred WriteEvent.Succeeds
  | .send _ uvRet => inferInstanceAs (Decidable (uvRet = 0))
  | .afterWrite status uvRet => inferInstanceAs (Decidable (status = 0 ∧ uvRet = 0))

def StoresSmall (c : TcpConnect) : Prop :=
  c.writeStores.store0.size < 2 ^ 31 ∧ c.writeStores.store1.size < 2 ^ 31

instance : Decidable (StoresSmall c) := inferInstanceAs (Decidable (_ ∧ _))

/-- Every byte sent has been submitted or waits, in order, and a busy connection has a write in
flight. -/
structure Lossless (sent : List (List UInt8)) (c : TcpConnect) : Prop where
  bytes : c.submittedBytes ++ c.waitingBytes = sent.flatten
  accepted : c.acceptedBytes = c.submittedBytes
  idle : c.nCurUsingWriteStoreIdx = -1 →
    c.writeStores.store0.bytes = [] ∧ c.writeStores.store1.bytes = []
  busy : c.nCurUsingWriteStoreIdx ≠ -1 → c.uv.inFlight.isSome

theorem Lossless.new : Lossless [] new :=
  ⟨rfl, rfl, fun _ => ⟨rfl, rfl⟩, fun h => absurd rfl h⟩

theorem Lossless.submit {i : Int} (hi : i = 0 ∨ i = 1)
    (hbytes : c.submittedBytes ++ (c.writeStores.get i).bytes = sent.flatten)
    (hacc : c.acceptedBytes = c.submittedBytes)
    (hother : (c.writeStores.get (otherStoreIdx i)).bytes = [])
    (hsize : (c.writeStores.get i).size < 2 ^ 32) : Lossless sent (c.submit i 0) := by
  have hb := bytesOf_uvBufInit hsize
  refine ⟨?_, ?_, fun hidx => ?_, fun _ => rfl⟩
  · have hneg : ¬ (c.submit i 0).nCurUsingWriteStoreIdx < 0 := by rw [submit_idx]; omega
    rw [submittedBytes_submit, hb, waitingBytes, if_neg hneg]
    show _ ++ (c.writeStores.get (otherStoreIdx i)).bytes = _
    rw [hother, List.append_nil, hbytes]
  · rw [submittedBytes_submit, acceptedBytes_submit, if_pos rfl, hacc]
  · rw [submit_idx] at hidx
    omega

theorem Lossless.step (hw : c.WriteInv) (h : Lossless sent c) (hc : e.Succeeds)
    (hsmall : StoresSmall c') (hs : writeMachine.step c e = some c') :
    Lossless (sent ++ sentPackets [e]) c' := by
  cases writeStep_cases hw hs with
  | start pData uvRet hidx =>
    obtain rfl : uvRet = 0 := hc
    obtain ⟨h0, h1⟩ := h.idle hidx
    have hb := h.bytes
    rw [waitingBytes, if_pos (by omega), h0, h1, List.append_nil, List.append_nil] at hb
    refine Lossless.submit (c := c.insert 0 pData) (.inl rfl) ?_ h.accepted (by simpa using h1)
      (Nat.lt_trans hsmall.1 (by decide))
    show c.submittedBytes ++ (c.writeStores.store0.bytes ++ pData) = (sent ++ [pData]).flatten
    rw [h0, hb]
    simp
  | queue pData uvRet hidx =>
    refine ⟨?_, h.accepted, fun hidx' => ?_, h.busy⟩
    · have hb := h.bytes
      show c.submittedBytes ++ waitingBytes _ = (sent ++ [pData]).flatten
      unfold waitingBytes otherStore at hb ⊢
      rw [List.flatten_append, ← hb]
      rcases hidx with hi | hi <;> simp [hi]
    · rw [insert_idx] at hidx'
      omega
  | followUp uvRet hfl hother =>
    obtain rfl : uvRet = 0 := hc.2
    have hi := hw.busy hfl
    have hget : c.complete.release.writeStores.get (otherStoreIdx c.nCurUsingWriteStoreIdx) =
        c.otherStore := get_release_otherStoreIdx (c := c.complete) hi
    have hneg : ¬ c.nCurUsingWriteStoreIdx < 0 := by omega
    have hb := h.bytes
    rw [waitingBytes, if_neg hneg, ← hget] at hb
    show Lossless (sent ++ []) _
    rw [List.append_nil]
    refine Lossless.submit (c := c.complete.release) ?_ hb h.accepted ?_ ?_
    · rcases hi with hi | hi <;> simp [hi]
    · rcases hi with hi | hi <;> simp [hi]
    · obtain ⟨h0, h1⟩ := hsmall
      rcases hi with hi | hi <;> simp [hi] at h0 h1 ⊢ <;> omega
  | idle status uvRet hfl hother =>
    have hempty : c.otherStore.bytes = [] := hother.resolve_left (not_not.2 hc.1)
    have hi := hw.busy hfl
    have hneg : ¬ c.nCurUsingWriteStoreIdx < 0 := by omega
    have hb := h.bytes
    rw [waitingBytes, if_neg hneg, hempty, List.append_nil] at hb
    have hidle : c.complete.release.writeStores.store0.bytes = [] ∧
        c.complete.release.writeStores.store1.bytes = [] := by
      unfold otherStore at hempty
      rcases hi with hi | hi <;> simpa [hi] using hempty
    show Lossless (sent ++ []) _
    rw [List.append_nil]
    refine ⟨?_, h.accepted, fun _ => hidle, fun hne => absurd rfl hne⟩
    rw [waitingBytes, if_pos (by rw [release_idx]; decide), hidle.1, hidle.2]
    exact (List.append_nil _).trans hb

theorem Lossless.submitted (h : Lossless sent c) (hidx : c.nCurUsingWriteStoreIdx = -1) :
    c.submittedBytes = sent.flatten := by
  obtain ⟨h0, h1⟩ := h.idle hidx
  have hb := h.bytes
  rwa [waitingBytes, if_pos (by omega), h0, h1, List.append_nil, List.append_nil] at hb

theorem StoresSmall.of_stores (h : StoresSmall c)
    (h0 : c'.writeStores.store0.bytes = [] ∨ c'.writeStores.store0 = c.writeStores.store0)
    (h1 : c'.writeStores.store1.bytes = [] ∨ c'.writeStores.store1 = c.writeStores.store1) :
    StoresSmall c' := by
  refine ⟨?_, ?_⟩
  · rcases h0 with h0 | h0
    · simp [CharVector.size, h0]
    · rw [h0]; exact h.1
  · rcases h1 with h1 | h1
    · simp [CharVector.size, h1]
    · rw [h1]; exact h.2

theorem Lossless.last_completion (hw : c.WriteInv) (h : Lossless sent c) (hsmall : StoresSmall c)
    (hidx : c.nCurUsingWriteStoreIdx ≠ -1) (hempty : c.otherStore.bytes = []) :
    ∃ t, writeMachine.run c [.afterWrite 0 0] = some t ∧ Lossless sent t ∧
      t.nCurUsingWriteStoreIdx = -1 := by
  have hfl := h.busy hidx
  have hi := hw.busy hfl
  have hs : writeMachine.step c (.afterWrite 0 0) = some c.complete.release :=
    step_idle hfl hi (.inr hempty) 0
  have hsmall' : StoresSmall c.complete.release := by
    refine hsmall.of_stores ?_ ?_ <;> rcases hi with hi | hi <;> simp [hi]
  have hl := h.step (e := .afterWrite 0 0) hw ⟨rfl, rfl⟩ hsmall' hs
  rw [show sentPackets [.afterWrite 0 0] = [] from rfl, List.append_nil] at hl
  exact ⟨_, Machine.run_singleton.trans hs, hl, rfl⟩

/-- Two completions at most, and the connection is idle with everything submitted. -/
theorem Lossless.drain (hw : c.WriteInv) (h : Lossless sent c) (hsmall : StoresSmall c) :
    ∃ k ≤ 2, ∃ t, writeMachine.run c (List.replicate k (.afterWrite 0 0)) = some t ∧
      Lossless sent t ∧ t.nCurUsingWriteStoreIdx = -1 := by
  by_cases hidx : c.nCurUsingWriteStoreIdx = -1
  · exact ⟨0, by omega, c, rfl, h, hidx⟩
  by_cases hempty : c.otherStore.bytes = []
  · obtain ⟨t, hr, ht⟩ := h.last_completion hw hsmall hidx hempty
    exact ⟨1, by omega, t, hr, ht⟩
  -- the first completion submits what is queued, and nothing is queued behind it
  have hfl := h.busy hidx
  have hi := hw.busy hfl
  have hs := step_followUp hfl hi hempty 0
  have hsmall' : StoresSmall (c.complete.release.submit (otherStoreIdx c.nCurUsingWriteStoreIdx) 0) := by
    refine hsmall.of_stores ?_ ?_ <;> rcases hi with hi | hi <;> simp [hi]
  have hl := h.step (e := .afterWrite 0 0) hw ⟨rfl, rfl⟩ hsmall' hs
  rw [show sentPackets [.afterWrite 0 0] = [] from rfl, List.append_nil] at hl
  obtain ⟨t, hr, ht⟩ := hl.last_completion (hw.step hs) hsmall'
    (by rcases hi with hi | hi <;> simp [hi]) (by unfold otherStore; rcases hi with hi | hi <;> simp [hi])
  exact ⟨2, Nat.le_refl 2, t, Machine.run_cons.2 ⟨_, hs, hr⟩, ht⟩

/-- With a transport that never fails, what was handed to `uv_write` followed by what waits is what
was sent, at every point of every run, and two completions submit the rest. -/
theorem write_path_fifo (hok : ∀ e ∈ es, e.Succeeds) (hsmall : writeMachine.AllStates StoresSmall new es)
    (hr : writeMachine.run new es = some c) :
    c.submittedBytes ++ c.waitingBytes = (sentPackets es).flatten ∧
      c.acceptedBytes = c.submittedBytes ∧
      ∃ k ≤ 2, ∃ t, writeMachine.run c (List.replicate k (.afterWrite 0 0)) = some t ∧
        t.nCurUsingWriteStoreIdx = -1 ∧ t.writeStores.store0.bytes = [] ∧
        t.writeStores.store1.bytes = [] ∧ t.submittedBytes = (sentPackets es).flatten := by
  have hsteps := (Machine.AllSteps.of_forall (M := writeMachine)
    (C := fun _ e => WriteEvent.Succeeds e) (fun _ e he => hok e he) new).and hsmall.allSteps
  obtain ⟨hw, h⟩ := Machine.run_hist (l := [])
    (J := fun l c => WriteInv c ∧ Lossless (sentPackets l) c)
    (fun l c e c' h hc hs => ⟨h.1.step hs, by
      rw [sentPackets_append]
      exact h.2.step h.1 hc.1 (hc.2 c' hs) hs⟩)
    ⟨.new, .new⟩ hsteps hr
  obtain ⟨k, hk, t, ht, hl, hidx⟩ := h.drain hw (hsmall.last hr)
  exact ⟨h.bytes, h.accepted, k, hk, t, ht, hidx, (hl.idle hidx).1, (hl.idle hidx).2, hl.submitted hidx⟩

theorem write_path_fifo_three_sends :
    ∃ c, writeMachine.run new [.send [1] 0, .send [2, 3] 0, .afterWrite 0 0, .send [4] 0] = some c ∧
      c.submittedBytes ++ c.waitingBytes = [1, 2, 3, 4] := by
  have hok : ∀ e ∈ [WriteEvent.send [1] 0, .send [2, 3] 0, .afterWrite 0 0, .send [4] 0],
      e.Succeeds := by decide
  exact ⟨_, rfl, (write_path_fifo hok (by decide) rfl).1⟩

end TcpConnect
end FutuOpenD

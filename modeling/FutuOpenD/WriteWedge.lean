import FutuOpenD.WriteInv

/-!
# When the write path wedges

The index doubles as the flag that a write is in flight. `NeverWedged` says that with no write
outstanding the connection is idle and nothing is queued. Three steps break it, each at once: a first
submission that `uv_write` refuses (the index stays 0), a follow-up that it refuses (the index stays
at the other store), and a failed completion with data queued (which nobody submits any more).
`StepsOn` excludes these three, and nothing else: `neverWedged_iff_stepsOn`.
-/

namespace FutuOpenD
open Runs
namespace TcpConnect
variable {c c' : TcpConnect} {e : WriteEvent} {es : List WriteEvent}

/-- With no write outstanding, the connection is idle and both stores are empty. -/
def Settled (c : TcpConnect) : Prop := c.uv.inFlight = none →
  c.nCurUsingWriteStoreIdx = -1 ∧ c.writeStores.store0.bytes = [] ∧ c.writeStores.store1.bytes = []

/-- No data waits behind a write that will not complete. -/
structure NeverWedged (c : TcpConnect) : Prop where
  idle : Settled c
  /-- The next `Send` calls `uv_write`, with its own packet. -/
  starts : c.uv.inFlight = none → ∀ pData uvRet, pData.length < 2 ^ 32 →
    (c.send uvRet pData).2.uv.calls = c.uv.calls ++ [⟨pData, uvRet, false⟩]
  /-- What waits in a store waits for a write that will complete. -/
  waits : c.writeStores.store0.bytes ≠ [] ∨ c.writeStores.store1.bytes ≠ [] → c.uv.inFlight.isSome

/-- `uv_write` accepts a first submission; a completion finds nothing queued, or succeeds and has its
follow-up accepted. -/
def StepsOn (c : TcpConnect) : WriteEvent → Prop
  | .send _ uvRet => c.nCurUsingWriteStoreIdx < 0 → uvRet = 0
  | .afterWrite status uvRet => c.otherStore.bytes ≠ [] → status = 0 ∧ uvRet = 0

instance : DecidablePred (StepsOn c)
  | .send _ uvRet => inferInstanceAs (Decidable (c.nCurUsingWriteStoreIdx < 0 → uvRet = 0))
  | .afterWrite status uvRet =>
    inferInstanceAs (Decidable (c.otherStore.bytes ≠ [] → status = 0 ∧ uvRet = 0))

theorem Settled.neverWedged (h : Settled c) : c.NeverWedged := by
  refine ⟨h, fun hfl pData uvRet hlt => ?_, fun hne => ?_⟩
  · obtain ⟨hi, h0, -⟩ := h hfl
    have hb : ((c.insert 0 pData).writeStores.get 0).bytes = pData := by simp [h0]
    have hsize : ((c.insert 0 pData).writeStores.get 0).size < 2 ^ 32 := by
      rw [CharVector.size, hb]
      exact hlt
    rw [send_start hi, submit_calls, bytesOf_uvBufInit hsize, hb, insert_uv, hfl]
    rfl
  · by_contra hfl
    obtain ⟨-, h0, h1⟩ := h (Option.not_isSome_iff_eq_none.1 hfl)
    rcases hne with hne | hne
    · exact hne h0
    · exact hne h1

theorem settled_step (h : c.WriteInv) (hs : Settled c) (hstep : writeMachine.step c e = some c') :
    Settled c' ↔ StepsOn c e := by
  cases writeStep_cases h hstep with
  | start pData uvRet hidx =>
    have hfl := h.quiet hidx
    constructor
    · intro hset _
      by_contra hr
      have hi := (hset (by rw [submit_inFlight, insert_uv, hfl]; simp [hr])).1
      rw [submit_idx] at hi
      cases hi
    · intro hok hnone
      rw [submit_inFlight] at hnone
      simp [hok (by omega)] at hnone
  | queue pData uvRet hidx =>
    refine iff_of_true (fun hfl => ?_) (fun hlt => ?_)
    · have hi := (hs hfl).1
      omega
    · omega
  | followUp uvRet hfl hother =>
    constructor
    · intro hset _
      refine ⟨rfl, ?_⟩
      by_contra hr
      have hi := (hset (by rw [submit_inFlight]; simp [hr])).1
      rw [submit_idx] at hi
      rcases h.busy hfl with h' | h' <;> simp [h'] at hi
    · intro hok hnone
      rw [submit_inFlight] at hnone
      simp [(hok hother).2] at hnone
  | idle status uvRet hfl hother =>
    constructor
    · intro hset hne
      obtain ⟨-, h0, h1⟩ := hset rfl
      exfalso
      apply hne
      unfold otherStore
      rcases h.busy hfl with h' | h'
      · rw [release_writeStores, complete_writeStores, complete_idx, h'] at h1
        simpa [h'] using h1
      · rw [release_writeStores, complete_writeStores, complete_idx, h'] at h0
        simpa [h'] using h0
    · intro hok _
      have hempty : c.otherStore.bytes = [] := by
        rcases hother with h0 | h0
        · by_contra hne
          exact h0 (hok hne).1
        · exact h0
      refine ⟨rfl, ?_⟩
      unfold otherStore at hempty
      rcases h.busy hfl with h' | h' <;> simpa [h'] using hempty

/-- The write path does not wedge along a run exactly when no step of it is one of the three. -/
theorem neverWedged_iff_stepsOn (es : List WriteEvent) :
    writeMachine.AllStates NeverWedged new es ↔ writeMachine.AllSteps StepsOn new es := by
  refine Machine.allStates_iff_allSteps (I := fun c => WriteInv c ∧ Settled c) ?_ ?_ ?_ ⟨.new, ?_⟩
  · rintro c ⟨-, hsettled⟩
    exact hsettled.neverWedged
  · rintro c e c' ⟨hw, hsettled⟩ hc hs
    exact ⟨hw.step hs, (settled_step hw hsettled hs).2 hc⟩
  · rintro c e c' ⟨hw, hsettled⟩ hc hs hP
    exact hc ((settled_step hw hsettled hs).1 hP.idle)
  · intro _
    exact ⟨rfl, rfl, rfl⟩

/-- One refused first submission: the index stays 0 with no write outstanding, and the next packet is
queued behind nothing, while `Send` returns true. -/
theorem refused_send_wedges :
    ¬ writeMachine.AllStates NeverWedged new [.send [1] (-1), .send [2] 0] := by
  intro h
  have hw := (h.last (t := (new.send (-1) [1]).2.insert 1 [2]) rfl).idle rfl
  exact absurd hw.1 (by decide)

end TcpConnect
end FutuOpenD

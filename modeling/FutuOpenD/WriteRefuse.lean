import FutuOpenD.WriteFifo

/-!
# What a refused `Send` leaves behind

`Send` puts its data into store 0 and sets the index before `uv_write` refuses, and takes neither
back. So no refusal leaves the connection as it was, and since the index says that a write is in
flight while none is, nothing is submitted ever after: a `Stuck` connection queues what it is given
and goes on being stuck. `refused_send_leaves_trace` says so for every reachable state and packet.
-/

namespace FutuOpenD
open Runs
namespace TcpConnect
variable {c c' t : TcpConnect} {e : WriteEvent} {es : List WriteEvent} {pData : List UInt8} {uvRet : Int}

def SameStores (c c' : TcpConnect) : Prop :=
  c'.writeStores.store0.bytes = c.writeStores.store0.bytes ∧
    c'.writeStores.store1.bytes = c.writeStores.store1.bytes ∧
    c'.nCurUsingWriteStoreIdx = c.nCurUsingWriteStoreIdx

/-- Whatever happens next, `uv_write` accepts the same bytes. -/
def SameLater (c c' : TcpConnect) : Prop :=
  ∀ es t t', writeMachine.run c es = some t → writeMachine.run c' es = some t' →
    t'.acceptedBytes = t.acceptedBytes

/-- The index names a store and no write is in flight. -/
structure Stuck (c : TcpConnect) : Prop where
  idx : c.nCurUsingWriteStoreIdx = 0
  quiet : c.uv.inFlight = none

theorem Stuck.step (h : Stuck c) (hs : writeMachine.step c e = some c') :
    Stuck c' ∧ c'.uv = c.uv := by
  cases e with
  | send pData uvRet =>
    rw [step_queue (.inl h.idx)] at hs
    cases hs
    exact ⟨⟨h.idx, h.quiet⟩, rfl⟩
  | afterWrite status uvRet =>
    obtain ⟨hfl, -⟩ := Option.ite_none_right_eq_some.1 hs
    rw [h.quiet] at hfl
    cases hfl

theorem Stuck.run (h : Stuck c) (hr : writeMachine.run c es = some t) : t.acceptedBytes = c.acceptedBytes := by
  have hi : Stuck t ∧ t.uv = c.uv :=
    Machine.run_inv (I := fun t => Stuck t ∧ t.uv = c.uv)
      (fun s e s' hs hstep => ⟨(hs.1.step hstep).1, (hs.1.step hstep).2.trans hs.2⟩) ⟨h, rfl⟩ hr
  unfold acceptedBytes
  rw [hi.2]

theorem send_eq_false (h : c.WriteInv) (hret : (c.send uvRet pData).1 = false) :
    c.nCurUsingWriteStoreIdx = -1 ∧ uvRet ≠ 0 ∧
      (c.send uvRet pData).2 = (c.insert 0 pData).submit 0 uvRet := by
  rcases h.idx with hi | hi
  · rw [send_start hi] at hret ⊢
    exact ⟨hi, of_decide_eq_false hret, rfl⟩
  · rw [send_queue hi] at hret
    cases hret

theorem stuck_of_refused (h : c.WriteInv) (hret : (c.send uvRet pData).1 = false) :
    Stuck (c.send uvRet pData).2 ∧ (c.send uvRet pData).2.acceptedBytes = c.acceptedBytes := by
  obtain ⟨hi, hr, hsend⟩ := send_eq_false h hret
  rw [hsend]
  refine ⟨⟨rfl, ?_⟩, ?_⟩
  · rw [submit_inFlight, if_neg hr]
    exact h.quiet hi
  · rw [acceptedBytes_submit, if_neg hr]
    exact List.append_nil _

/-- An idle connection can submit something. -/
theorem exists_accepted (hi : c.nCurUsingWriteStoreIdx = -1) :
    ∃ q t, writeMachine.run c [.send q 0] = some t ∧ t.acceptedBytes ≠ c.acceptedBytes := by
  -- one byte, or two where one would give a store of a multiple of 2^32 bytes
  obtain ⟨q, hq⟩ : ∃ q : List UInt8, (c.writeStores.store0.bytes.length + q.length) % 2 ^ 32 ≠ 0 := by
    by_cases h1 : (c.writeStores.store0.bytes.length + 1) % 2 ^ 32 = 0
    · exact ⟨[0, 0], by simp only [List.length_cons, List.length_nil]; omega⟩
    · exact ⟨[0], h1⟩
  refine ⟨q, _, Machine.run_singleton.trans (step_start hi q 0), fun he => ?_⟩
  rw [acceptedBytes_submit, if_pos rfl] at he
  have hnil : (c.insert 0 q).bytesOf ((c.insert 0 q).uvBufInit 0) = [] := List.append_right_eq_self.1 he
  have hlen := congrArg List.length hnil
  change ((c.writeStores.store0.bytes ++ q).take (UInt32.ofNat _).toNat).length = 0 at hlen
  rw [List.length_take, UInt32.toNat_ofNat'] at hlen
  change min ((c.writeStores.store0.bytes ++ q).length % 2 ^ 32) _ = 0 at hlen
  rw [List.length_append] at hlen
  omega

/-- In no reachable state does a refusal leave the stores and the index as they were or the bytes
accepted later on as they would be without the call: nothing is accepted ever after. -/
theorem refused_send_leaves_trace (hr : writeMachine.run new es = some c)
    (hret : (c.send uvRet pData).1 = false) :
    ¬ SameStores c (c.send uvRet pData).2 ∧ ¬ SameLater c (c.send uvRet pData).2 ∧
      ∀ fs t, writeMachine.run (c.send uvRet pData).2 fs = some t → t.acceptedBytes = c.acceptedBytes := by
  have hw := WriteInv.run hr
  obtain ⟨hi, -, -⟩ := send_eq_false hw hret
  obtain ⟨hstuck, hacc⟩ := stuck_of_refused hw hret
  have hlater : ∀ fs t, writeMachine.run (c.send uvRet pData).2 fs = some t →
      t.acceptedBytes = c.acceptedBytes := by
    intro fs t ht
    rw [hstuck.run ht, hacc]
  refine ⟨?_, ?_, hlater⟩
  · rintro ⟨-, -, hidx⟩
    rw [hstuck.idx, hi] at hidx
    cases hidx
  · intro hsame
    obtain ⟨q, t, ht, hne⟩ := exists_accepted hi
    have hs := step_queue (.inl hstuck.idx) q 0
    have ht' := Machine.run_singleton.trans hs
    exact hne ((hsame _ _ _ ht ht').symm.trans (hlater _ _ ht'))

theorem refused_send_leaves_trace_first :
    (new.send (-1) [1]).1 = false ∧ ¬ SameStores new (new.send (-1) [1]).2 := by
  have hrun : writeMachine.run new [] = some new := rfl
  have hret : (new.send (-1) [1]).1 = false := rfl
  exact ⟨hret, (refused_send_leaves_trace hrun hret).1⟩

/-- The refused packet stays in store 0, and a packet sent after it is never submitted. -/
theorem refused_send_keeps_packet :
    (new.send (-1) [1]).1 = false ∧ (new.send (-1) [1]).2.writeStores.store0.bytes = [1] ∧
      ¬ SameStores new (new.send (-1) [1]).2 ∧ ¬ SameLater new (new.send (-1) [1]).2 := by
  refine ⟨rfl, rfl, ?_, ?_⟩
  · rintro ⟨h, -⟩
    cases h
  · intro hsame
    have h := hsame [.send [2] 0] _ _ rfl rfl
    revert h
    decide

end TcpConnect
end FutuOpenD

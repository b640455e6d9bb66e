import FutuOpenD.SessionInv
import Mathlib.Data.List.Nodup

/-!
# Serial numbers as handles of requests

`Send` returns the serial number of the packet, and 0 for a packet that was not accepted. The counter
is a 32-bit number that starts at 1 and goes on with every packet built, so it is the number of
packets built and one more, modulo `2^32` (`Numbered`). Serial numbers of up to `2^32 - 1` consecutive
packets are distinct. A message that is too long for `Send` ends the program. Of the others, the packet
numbered 0 is the one exception to the meaning of the result: if it is accepted `Send` returns 0 all the
same (`send_results_iff`).
-/

namespace FutuOpenD
open Runs

namespace NetCenter

inductive NetEvent
  | send (nProtoID : UInt32) (pbObj : PbMessage)
  | afterWrite (status : Int)

/-- Requests at any time, and completions of the writes that `uv_write` accepted. -/
def netStep (W : Outside) (n : NetCenter) : NetEvent → Option (Outcome NetCenter)
  | .send nProtoID pbObj => some ((n.trySend W nProtoID pbObj).map Prod.snd)
  | .afterWrite status =>
    if n.quoteConn.uv.inFlight.isSome then some (.running (n.afterWrite W status)) else none

def netMachine (W : Outside) : Machine (Outcome NetCenter) NetEvent := .crashing (netStep W)

/-- The message serialises and `TcpConnect::Send` takes its packet. -/
def Accepted (W : Outside) (n : NetCenter) (nProtoID : UInt32) (pbObj : PbMessage) : Prop :=
  pbObj.serializeToString.isSome ∧
    (n.quoteConn.send (W.uvWrite n.quoteConn.uv.calls.length)
      (packetOf W nProtoID pbObj n.nNextPacketNo).2).1 = true

/-- `Send` returns, and its result is 0 exactly for a packet that is not accepted, and otherwise the serial
number in the header of the packet built. -/
def ReturnsHandle (W : Outside) (n : NetCenter) : NetEvent → Prop
  | .send nProtoID pbObj => ∃ nPacketNo n', n.trySend W nProtoID pbObj = .running (nPacketNo, n') ∧
      (nPacketNo = 0 ↔ ¬ Accepted W n nProtoID pbObj) ∧
      (Accepted W n nProtoID pbObj → ∃ p, n'.packets = n.packets ++ [p] ∧ nPacketNo = p.1.nSerialNo)
  | .afterWrite _ => True

/-- `Send` does not throw, and while the counter is at 0, a message does not serialise or `uv_write` refuses its
packet. -/
def FailsAtZero (W : Outside) (n : NetCenter) : NetEvent → Prop
  | .send _ pbObj => ¬ SendThrows pbObj ∧ (n.nNextPacketNo = 0 → pbObj.serializeToString.isSome →
      n.quoteConn.nCurUsingWriteStoreIdx < 0 ∧ W.uvWrite n.quoteConn.uv.calls.length ≠ 0)
  | .afterWrite _ => True

section
variable {W : Outside} {n : NetCenter} {o o' : Outcome NetCenter} {e : NetEvent} {es : List NetEvent} {nProtoID : UInt32}
variable {pbObj : PbMessage}

theorem send_of_isSome {bodyData : List UInt8} (h : pbObj.serializeToString = some bodyData) :
    (n.send W nProtoID pbObj).1 =
      if (n.quoteConn.send (W.uvWrite n.quoteConn.uv.calls.length)
        (packetOf W nProtoID pbObj n.nNextPacketNo).2).1 then n.nNextPacketNo else 0 := by
  have hbytes : pbObj.bytes = bodyData := by
    rw [PbMessage.bytes, h]
    rfl
  unfold send packetOf
  rw [h, hbytes]
  rfl

theorem send_of_accepted (h : Accepted W n nProtoID pbObj) :
    (n.send W nProtoID pbObj).1 = n.nNextPacketNo := by
  obtain ⟨bodyData, hbody⟩ := Option.isSome_iff_exists.1 h.1
  rw [send_of_isSome hbody, if_pos h.2]

theorem send_of_not_accepted (h : ¬ Accepted W n nProtoID pbObj) : (n.send W nProtoID pbObj).1 = 0 := by
  cases hbody : pbObj.serializeToString with
  | none => rw [send, hbody]
  | some bodyData =>
    rw [send_of_isSome hbody, if_neg fun hret => h ⟨by rw [hbody]; rfl, hret⟩]

theorem accepted_iff :
    Accepted W n nProtoID pbObj ↔ pbObj.serializeToString.isSome ∧
      ¬ (n.quoteConn.nCurUsingWriteStoreIdx < 0 ∧ W.uvWrite n.quoteConn.uv.calls.length ≠ 0) := by
  unfold Accepted TcpConnect.send
  by_cases hi : n.quoteConn.nCurUsingWriteStoreIdx < 0
  · by_cases hr : W.uvWrite n.quoteConn.uv.calls.length = 0
    · simp [hi, hr]
    · simp [hi, hr]
  · simp [hi]

theorem trySend_eq (h : ¬ SendThrows pbObj) : n.trySend W nProtoID pbObj = .running (n.send W nProtoID pbObj) :=
  if_neg h

theorem netStep_send (h : ¬ SendThrows pbObj) :
    netStep W n (.send nProtoID pbObj) = some (.running (n.send W nProtoID pbObj).2) := by
  rw [netStep, trySend_eq h]
  rfl

theorem returnsHandle_iff : ReturnsHandle W n e ↔ FailsAtZero W n e := by
  cases e with
  | afterWrite status => exact Iff.rfl
  | send nProtoID pbObj =>
    constructor
    · rintro ⟨nPacketNo, n', hsend, hzero, -⟩
      have hthrows : ¬ SendThrows pbObj := by
        intro hthrows
        rw [trySend, if_pos hthrows] at hsend
        cases hsend
      rw [trySend_eq hthrows] at hsend
      refine ⟨hthrows, fun h0 hsome => ?_⟩
      by_contra hno
      have hacc : Accepted W n nProtoID pbObj := accepted_iff.2 ⟨hsome, hno⟩
      have hres := congrArg Prod.fst (Outcome.running.inj hsend)
      rw [send_of_accepted hacc, h0] at hres
      exact hzero.1 hres.symm hacc
    · rintro ⟨hthrows, hfails⟩
      refine ⟨(n.send W nProtoID pbObj).1, (n.send W nProtoID pbObj).2, trySend_eq hthrows, ?_,
        fun hacc => ⟨_, packets_send hacc.1, send_of_accepted hacc⟩⟩
      by_cases hacc : Accepted W n nProtoID pbObj
      · obtain ⟨hsome, hno⟩ := accepted_iff.1 hacc
        rw [send_of_accepted hacc]
        exact iff_of_false (fun h0 => hno (hfails h0 hsome)) (not_not.2 hacc)
      · exact iff_of_true (send_of_not_accepted hacc) hacc

/-- The counter and the serial numbers of the packets built so far. -/
structure Numbered (n : NetCenter) : Prop where
  counter : n.nNextPacketNo.toNat = (n.packets.length + 1) % 2 ^ 32
  serial : ∀ (i : Nat) p, n.packets[i]? = some p → p.1.nSerialNo.toNat = (i + 1) % 2 ^ 32

theorem Numbered.new : Numbered new :=
  ⟨rfl, fun i p h => by cases h⟩

theorem Numbered.step (h : Numbered n) (hs : netStep W n e = some o) : o.Holds Numbered := by
  cases e with
  | send nProtoID pbObj =>
    cases hs
    unfold trySend
    split_ifs
    · trivial
    show Numbered (n.send W nProtoID pbObj).2
    by_cases hsome : pbObj.serializeToString.isSome
    · have hpackets : (n.send W nProtoID pbObj).2.packets = n.packets ++ [packetOf W nProtoID pbObj n.nNextPacketNo] :=
        packets_send hsome
      have hcounter := h.counter
      refine ⟨?_, fun i p hp => ?_⟩
      · rw [send_nNextPacketNo hsome, hpackets, UInt32.toNat_add, List.length_append, List.length_singleton,
          hcounter]
        show ((n.packets.length + 1) % 2 ^ 32 + 1) % 2 ^ 32 = _
        omega
      · rw [hpackets] at hp
        rcases Nat.lt_or_ge i n.packets.length with hi | hi
        · rw [List.getElem?_append_left hi] at hp
          exact h.serial i p hp
        · obtain ⟨hlt, hp⟩ := List.getElem?_eq_some_iff.1 hp
          have hlen : i = n.packets.length := by
            rw [List.length_append, List.length_singleton] at hlt
            omega
          subst hlen
          rw [List.getElem_append_right (Nat.le_refl _)] at hp
          simp only [Nat.sub_self, List.getElem_singleton] at hp
          rw [← hp]
          exact hcounter
    · have hnone : pbObj.serializeToString = none := Option.not_isSome_iff_eq_none.1 hsome
      have hsend : (n.send W nProtoID pbObj).2 = n := by
        rw [send, hnone]
      rwa [hsend]
  | afterWrite status =>
    obtain ⟨-, hs⟩ := Option.ite_none_right_eq_some.1 hs
    cases hs
    have hnotes := afterWrite_notes (W := W) status n
    show Numbered (n.afterWrite W status)
    refine ⟨?_, ?_⟩
    · rw [hnotes.packetNo, hnotes.packets]
      exact h.counter
    · rw [hnotes.packets]
      exact h.serial

theorem Numbered.holds_step (ho : o.Holds Numbered) (hs : (netMachine W).step o e = some o') :
    o'.Holds Numbered :=
  Machine.crashing_inv (fun _ _ _ h hs => h.step hs) ho hs

/-- Up to `2^32 - 1` consecutive packets have distinct serial numbers. -/
theorem Numbered.nodup (h : Numbered n) {pre win post : List (APIProtoHeader × List UInt8)}
    (hsplit : n.packets = pre ++ win ++ post) (hlen : win.length ≤ 2 ^ 32 - 1) :
    (win.map fun p => p.1.nSerialNo).Nodup := by
  have hserial : ∀ (i : Nat) p, win[i]? = some p → p.1.nSerialNo.toNat = (pre.length + i + 1) % 2 ^ 32 := by
    intro i p hp
    obtain ⟨hi, -⟩ := List.getElem?_eq_some_iff.1 hp
    refine h.serial (pre.length + i) p ?_
    rw [hsplit, List.append_assoc, List.getElem?_append_right (Nat.le_add_right _ _), Nat.add_sub_cancel_left,
      List.getElem?_append_left hi]
    exact hp
  rw [List.nodup_iff_getElem?_ne_getElem?]
  intro i j hij hj heq
  rw [List.length_map] at hj
  have hi : i < win.length := Nat.lt_trans hij hj
  rw [List.getElem?_map, List.getElem?_map, List.getElem?_eq_getElem hi, List.getElem?_eq_getElem hj] at heq
  have hsame : win[i].1.nSerialNo = win[j].1.nSerialNo := Option.some.inj heq
  have h1 := hserial i _ (List.getElem?_eq_getElem hi)
  have h2 := hserial j _ (List.getElem?_eq_getElem hj)
  rw [hsame] at h1
  omega

/-- In every run the counter is the number of packets built and one more, and `2^32 - 1` consecutive
packets have distinct numbers. Every call returns, and with a result that means what it should, exactly if no
message makes `Send` throw and every call made while the counter is at 0 fails. -/
theorem send_results_iff (W : Outside) (es : List NetEvent) :
    (netMachine W).AllStates (Outcome.Holds fun n => n.nNextPacketNo.toNat = (n.packets.length + 1) % 2 ^ 32 ∧
        ∀ pre win post, n.packets = pre ++ win ++ post → win.length ≤ 2 ^ 32 - 1 →
          (win.map fun p => p.1.nSerialNo).Nodup) (.running new) es ∧
      ((netMachine W).AllSteps (fun o e => o.Holds (ReturnsHandle W · e)) (.running new) es ↔
        (netMachine W).AllSteps (fun o e => o.Holds (FailsAtZero W · e)) (.running new) es) := by
  constructor
  · exact Machine.allStates_of_inv (I := Outcome.Holds Numbered)
      (fun o ho => ho.imp fun n h => ⟨h.counter, fun pre win post hsplit hlen => h.nodup hsplit hlen⟩)
      (fun o e o' ho hs => Numbered.holds_step ho hs) Numbered.new
  · have heq : ReturnsHandle W = FailsAtZero W := by
      funext n e
      exact propext returnsHandle_iff
    rw [heq]

/-- A heartbeat of the client. -/
def beat : PbMessage := Request.pbMessage (.keepAlive ⟨1600000000⟩)

theorem isSome_beat : beat.serializeToString.isSome = true := by decide +kernel

theorem not_sendThrows_beat : ¬ SendThrows beat := by decide +kernel

theorem run_sends (k : Nat) (n : NetCenter) :
    ∃ n', (netMachine .program).run (.running n) (List.replicate k (.send apiProtoIDKeepAlive beat)) =
        some (.running n') ∧
      n'.packets.length = n.packets.length + k := by
  induction k generalizing n with
  | zero => exact ⟨n, rfl, rfl⟩
  | succ k ih =>
    obtain ⟨n', hr, hlen⟩ := ih (n.send .program apiProtoIDKeepAlive beat).2
    refine ⟨n', Machine.run_cons.2 ⟨_, netStep_send not_sendThrows_beat, hr⟩, ?_⟩
    rw [hlen, packets_send isSome_beat, List.length_append, List.length_singleton]
    omega

/-- The packet after the first `2^32 - 1` is accepted and `Send` returns 0. -/
theorem accepted_packet_returns_zero :
    (∃ n, (netMachine .program).run (.running new)
        (List.replicate 4294967295 (.send apiProtoIDKeepAlive beat)) = some (.running n) ∧
      Accepted .program n apiProtoIDKeepAlive beat ∧
      ∃ n', n.trySend .program apiProtoIDKeepAlive beat = .running (0, n')) ∧
    ¬ (netMachine .program).AllSteps (fun o e => o.Holds (ReturnsHandle .program · e)) (.running new)
        (List.replicate 4294967295 (.send apiProtoIDKeepAlive beat) ++ [.send apiProtoIDKeepAlive beat]) := by
  obtain ⟨n, hr, hlen⟩ := run_sends 4294967295 new
  have hstart : (Outcome.running new).Holds Numbered := Numbered.new
  have hnum : (Outcome.running n).Holds Numbered :=
    Machine.run_inv (fun o e o' ho hs => Numbered.holds_step ho hs) hstart hr
  have hzero : n.nNextPacketNo = 0 := by
    rw [← UInt32.toNat_inj, Numbered.counter hnum, hlen]
    rfl
  have hacc : Accepted .program n apiProtoIDKeepAlive beat := accepted_iff.2 ⟨isSome_beat, fun hno => hno.2 rfl⟩
  have hres : (n.send .program apiProtoIDKeepAlive beat).1 = 0 := by
    rw [send_of_accepted hacc, hzero]
  have hsend : n.trySend .program apiProtoIDKeepAlive beat =
      .running (0, (n.send .program apiProtoIDKeepAlive beat).2) := by
    rw [trySend_eq not_sendThrows_beat, ← hres]
  refine ⟨⟨n, hr, hacc, _, hsend⟩, fun hall => ?_⟩
  obtain ⟨nPacketNo, n', hsend', hmeans, -⟩ : ReturnsHandle .program n (.send apiProtoIDKeepAlive beat) :=
    hall.last hr (netStep_send not_sendThrows_beat)
  rw [hsend] at hsend'
  have hzero' := congrArg Prod.fst (Outcome.running.inj hsend')
  exact hmeans.1 hzero'.symm hacc

end
end NetCenter
end FutuOpenD

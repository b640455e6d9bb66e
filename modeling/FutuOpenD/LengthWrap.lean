import FutuOpenD.Reassembly
import FutuOpenD.ReadInv

/-!
# Lengths whose sum with 44 wraps

A header with `nBodyLen` from `2^32 - 44` on passes the length check, since the 32-bit sum is less
than 44. `Wraps` is such a header at the front of the bytes. Up to the first one every pass cuts what
the reference parser cuts, so everything about the passes of one call of `OnRecv` comes down to what
the reference parser leaves of the buffer (`allPasses_iff`): the loop progresses by 44 bytes or more
in each pass (`onRecv_progress_iff`), and each body handed out lies in the data received
(`bodies_in_data_iff`), exactly if what is left does not start with such a header.
-/

namespace FutuOpenD
open Bytes Runs Framing

/-- The header at the front declares a length whose 32-bit sum with 44 wraps. -/
def Wraps (l : List UInt8) : Prop :=
  44 ≤ l.length ∧ 2 ^ 32 - 44 ≤ (APIProtoHeader.ofBytes l).nBodyLen.toNat

instance (l : List UInt8) : Decidable (Wraps l) := inferInstanceAs (Decidable (_ ∧ _))

section
variable {l r : List UInt8} {f : APIProtoHeader × List UInt8} {os : List (APIProtoHeader × List UInt8)}

theorem codeCut_eq_refCut_of_not_wraps (hlen : l.length ≤ readStoreLen) (h : ¬ Wraps l) :
    codeCut l = refCut l := by
  by_cases hfit : 44 ≤ l.length → (APIProtoHeader.ofBytes l).nBodyLen.toNat ≤ 10485716
  · exact codeCut_eq_refCut hfit
  -- the frame does not wrap and is longer than the store, so both wait
  obtain ⟨h44, hbig⟩ := Classical.not_imp.1 hfit
  have hlt : (APIProtoHeader.ofBytes l).nBodyLen.toNat < 2 ^ 32 - 44 := by
    by_contra hge
    exact h ⟨h44, Nat.le_of_not_lt hge⟩
  unfold readStoreLen at hlen
  have hcode : codeCut l = none := by
    rw [codeCut_eq_none, toNat_frameLen, Nat.mod_eq_of_lt (by omega)]
    right
    omega
  rw [hcode]
  unfold refCut
  rw [if_neg (Nat.not_lt.2 h44)]
  dsimp only
  rw [if_pos]
  rw [List.length_drop]
  omega

theorem not_wraps_of_refCut (hlen : l.length ≤ readStoreLen) (h : refCut l = some (f, r)) : ¬ Wraps l := by
  rintro ⟨h44, hwrap⟩
  obtain ⟨g, rfl, rfl⟩ := refCut_eq_some h
  rw [Frame.toBytes, List.append_assoc, APIProtoHeader.ofBytes_toBytes_append] at hwrap
  have hg := g.len
  rw [Frame.toBytes, List.length_append, List.length_append] at hlen
  unfold readStoreLen at hlen
  omega

theorem codeCut_of_wraps (h : Wraps l) :
    ∃ f, codeCut l = some (f, l.drop f.1.frameLen.toNat) ∧ f.1 = APIProtoHeader.ofBytes l ∧
      f.1.frameLen.toNat < 44 := by
  obtain ⟨h44, hwrap⟩ := h
  have hlt := (APIProtoHeader.ofBytes l).nBodyLen.toNat_lt
  have hframe : (APIProtoHeader.ofBytes l).frameLen.toNat < 44 := by
    rw [toNat_frameLen]
    omega
  have hle : (APIProtoHeader.ofBytes l).frameLen.toNat ≤ l.length := by omega
  refine ⟨(APIProtoHeader.ofBytes l, (l.drop sizeofHeader).take (APIProtoHeader.ofBytes l).bodyLen), ?_,
    rfl, hframe⟩
  exact codeCut_eq_some.2 ⟨h44, rfl, hle, rfl, rfl⟩

theorem reaches_of_refDrains (hd : refParser.Drains l os r) (hlen : l.length ≤ readStoreLen) :
    codeCutter.Reaches l r := by
  induction hd with
  | stop _ => exact .refl
  | next h _ ih =>
    have hc : codeCut _ = some _ :=
      (codeCut_eq_refCut_of_not_wraps hlen (not_wraps_of_refCut hlen h)).trans h
    exact .next hc (ih ((Nat.le_of_lt (refCut_shorter h)).trans hlen))

/-- What the reference parser leaves of `l`. -/
def refRest (l : List UInt8) : List UInt8 := (refParser.parse l).2

theorem refRest_of_refCut (h : refCut l = some (f, r)) : refRest l = refRest r := by
  have hd : refParser.Drains l (f :: (refParser.parse r).1) (refParser.parse r).2 :=
    .next h (refParser.parse_drains r)
  exact ((refParser.parse_drains l).det hd).2

theorem refRest_of_refCut_none (h : refCut l = none) : refRest l = l :=
  ((refParser.parse_drains l).det (.stop h)).2

theorem reaches_refRest (hlen : l.length ≤ readStoreLen) : codeCutter.Reaches l (refRest l) :=
  reaches_of_refDrains (refParser.parse_drains l) hlen

theorem not_wraps_of_refRest (hlen : l.length ≤ readStoreLen) (h : ¬ Wraps (refRest l)) : ¬ Wraps l := by
  cases hc : refCut l with
  | none => rwa [refRest_of_refCut_none hc] at h
  | some p => exact not_wraps_of_refCut hlen hc

end

/-! ### The passes of one call -/

section
variable {σ : Type*} {H : RecvHandler σ} {b b' : Buffer} {s s' : σ} {P : Buffer → σ → Buffer → σ → Prop}
variable {r : List UInt8}

/-- Every pass of the call of `OnRecv` on `b` that does not return is in `P`. -/
def AllPasses (H : RecvHandler σ) (P : Buffer → σ → Buffer → σ → Prop) (b : Buffer) (s : σ) : Prop :=
  ∀ k, (readMachine H).AllSteps
    (fun r _ => ∀ b' s', onRecvStep H r.readStore r.handler = some (b', s') →
      P r.readStore r.handler b' s')
    ⟨b, s, true⟩ (List.replicate k .pass)

theorem step_pass (hs : onRecvStep H b s = some (b', s')) :
    (readMachine H).step ⟨b, s, true⟩ .pass = some ⟨b', s', true⟩ := by
  simp only [readMachine, readStep, if_true, hs]

theorem run_reaches (h : IsReadStore b) (hr : codeCutter.Reaches b.data r) :
    ∃ k b' s', (readMachine H).run ⟨b, s, true⟩ (List.replicate k .pass) = some ⟨b', s', true⟩ ∧
      IsReadStore b' ∧ b'.data = r := by
  generalize hl : b.data = l at hr
  induction hr generalizing b s with
  | refl => exact ⟨0, b, s, rfl, h, hl⟩
  | @next l r r' f hc _ ih =>
    subst hl
    have hc' : codeCut b.data = some (f, r) := hc
    obtain ⟨hok, hdata⟩ := h.pass hc'
    obtain ⟨k, b', s', hrun, hb'⟩ := ih (s := handleFrame H s f) hok hdata
    refine ⟨k + 1, b', s', Machine.run_cons.2 ⟨_, step_pass ?_, hrun⟩, hb'⟩
    rw [onRecvStep_eq h, hc']
    rfl

/-- A `P` that holds of a pass exactly if the header it looks at does not wrap holds of all passes
exactly if no header wraps at the place where the reference parser stops. -/
theorem allPasses_iff
    (hP : ∀ b s b' s', IsReadStore b → onRecvStep H b s = some (b', s') →
      (P b s b' s' ↔ ¬ Wraps b.data))
    (h : IsReadStore b) : AllPasses H P b s ↔ ¬ Wraps (refRest b.data) := by
  constructor
  · intro hall hwrap
    obtain ⟨k, b₁, s₁, hrun, h₁, hdata⟩ := run_reaches (H := H) (s := s) h (reaches_refRest h.length_data_le)
    rw [← hdata] at hwrap
    obtain ⟨f, hc, -, -⟩ := codeCut_of_wraps hwrap
    have hs : onRecvStep H b₁ s₁ = some (b₁.removeFront f.1.frameLen.toInt32.toInt, handleFrame H s₁ f) := by
      rw [onRecvStep_eq h₁, hc]
      rfl
    have hk := hall (k + 1)
    rw [List.replicate_succ'] at hk
    exact (hP _ _ _ _ h₁ hs).1 (hk.last hrun (step_pass hs) _ _ hs) hwrap
  · intro hno k
    refine Machine.allSteps_of_inv
      (I := fun r => IsReadStore r.readStore ∧ ¬ Wraps (refRest r.readStore.data)) ?_ ?_ ⟨h, hno⟩
    · rintro r e - ⟨hr, hrest⟩ b' s' hs
      exact (hP _ _ _ _ hr hs).2 (not_wraps_of_refRest hr.length_data_le hrest)
    · rintro r e he r' ⟨hr, hrest⟩ hs
      obtain rfl := List.eq_of_mem_replicate he
      have hs : readStep H r .pass = some r' := hs
      refine ⟨readStep_isReadStore hr hs, ?_⟩
      have hnot := not_wraps_of_refRest hr.length_data_le hrest
      cases readStep_cases hr hs with
      | wait hrecv hc => exact hrest
      | frame f rest hrecv hc =>
        show ¬ Wraps (refRest (r.readStore.removeFront f.1.frameLen.toInt32.toInt).data)
        rw [(hr.pass hc).2]
        rw [codeCut_eq_refCut_of_not_wraps hr.length_data_le hnot] at hc
        rwa [← refRest_of_refCut hc]

/-! ### Progress -/

/-- The loop on `b` returns, and each pass before takes a header or more off the front. -/
structure Progresses (H : RecvHandler σ) (b : Buffer) (s : σ) : Prop where
  returns : ∃ n p, onRecvLoop H n b s = some p
  removes : AllPasses H
    (fun b _ b' _ => ∃ n, sizeofHeader ≤ n ∧ n ≤ b.data.length ∧ b'.data = b.data.drop n) b s

theorem removes_iff (h : IsReadStore b) (hs : onRecvStep H b s = some (b', s')) :
    (∃ n, sizeofHeader ≤ n ∧ n ≤ b.data.length ∧ b'.data = b.data.drop n) ↔ ¬ Wraps b.data := by
  obtain ⟨f, hc, -, -, -⟩ := onRecvStep_eq_some h hs
  obtain ⟨h44, hf, hlen, -, hr⟩ := codeCut_eq_some.1 hc
  unfold sizeofHeader at h44 ⊢
  constructor
  · rintro ⟨n, hn, hle, hdata⟩ hwrap
    obtain ⟨g, hg, -, hlt⟩ := codeCut_of_wraps hwrap
    obtain ⟨rfl, -⟩ := Prod.mk.inj (Option.some.inj (hg.symm.trans hc))
    have hl := congrArg List.length hdata
    rw [hr, List.length_drop, List.length_drop] at hl
    omega
  · intro hnot
    refine ⟨f.1.frameLen.toNat, ?_, hlen, hr⟩
    have hlt : f.1.nBodyLen.toNat < 2 ^ 32 - 44 := by
      by_contra hge
      exact hnot ⟨h44, by rw [← hf]; omega⟩
    rw [toNat_frameLen, Nat.mod_eq_of_lt (by omega)]
    omega

/-- `OnRecv` returns, taking a header or more off the store in each pass, exactly if what is left of
the buffer after its complete frames does not start with a header whose length wraps. -/
theorem onRecv_progress_iff (h : IsReadStore b) : Progresses H b s ↔ ¬ Wraps (refRest b.data) := by
  have hiff := allPasses_iff (H := H) (s := s) (fun b s b' s' hb hs => removes_iff hb hs) h
  constructor
  · intro hp
    exact hiff.1 hp.removes
  · intro hno
    refine ⟨?_, hiff.2 hno⟩
    have hlen : (refRest b.data).length ≤ readStoreLen :=
      ((reaches_refRest h.length_data_le).suffix codeCut_suffix).length_le.trans h.length_data_le
    have hwait : codeCut (refRest b.data) = none :=
      (codeCut_eq_refCut_of_not_wraps hlen hno).trans (refParser.parse_drains b.data).rest
    obtain ⟨os, hd⟩ := (reaches_refRest h.length_data_le).drains hwait
    obtain ⟨b', hr, -, -⟩ := onRecv_of_drains (H := H) (s := s) h hd
    exact ⟨_, _, hr⟩

/-- The length that wraps to 0 is the only one on which the loop stands still. -/
theorem codeCut_eq_self_iff :
    (∃ f, codeCut r = some (f, r)) ↔
      44 ≤ r.length ∧ (APIProtoHeader.ofBytes r).nBodyLen.toNat = 2 ^ 32 - 44 := by
  have hlt := (APIProtoHeader.ofBytes r).nBodyLen.toNat_lt
  constructor
  · rintro ⟨f, hc⟩
    obtain ⟨h44, hf, hlen, -, hr⟩ := codeCut_eq_some.1 hc
    have hl := congrArg List.length hr
    rw [List.length_drop, toNat_frameLen, hf] at hl
    rw [toNat_frameLen, hf] at hlen
    unfold sizeofHeader at h44
    exact ⟨h44, by omega⟩
  · rintro ⟨h44, hn⟩
    obtain ⟨f, hc, hf, -⟩ := codeCut_of_wraps ⟨h44, hn.ge⟩
    have hzero : f.1.frameLen.toNat = 0 := by
      rw [toNat_frameLen, hf, hn]
      rfl
    rw [hzero, List.drop_zero] at hc
    exact ⟨f, hc⟩

/-- `OnRecv` returns exactly if no header that the loop looks at declares `2^32 - 44` bytes. -/
theorem onRecv_returns_iff (h : IsReadStore b) :
    (∃ n p, onRecvLoop H n b s = some p) ↔
      ∀ r, codeCutter.Reaches b.data r → 44 ≤ r.length →
        (APIProtoHeader.ofBytes r).nBodyLen.toNat ≠ 2 ^ 32 - 44 := by
  have hdrains : (∃ n p, onRecvLoop H n b s = some p) ↔ ∃ os r, codeCutter.Drains b.data os r := by
    constructor
    · rintro ⟨n, ⟨b', s'⟩, hr⟩
      obtain ⟨os, hd, -, -⟩ := drains_of_onRecvLoop h hr
      exact ⟨os, _, hd⟩
    · rintro ⟨os, r, hd⟩
      obtain ⟨b', hr, -, -⟩ := onRecv_of_drains (H := H) (s := s) h hd
      exact ⟨_, _, hr⟩
  rw [hdrains, Cutter.exists_drains_iff codeCut_suffix]
  constructor
  · intro hall r hr h44 hn
    obtain ⟨f, hc⟩ := codeCut_eq_self_iff.2 ⟨h44, hn⟩
    exact hall r f hr hc
  · intro hall r f hr hc
    obtain ⟨h44, hn⟩ := codeCut_eq_self_iff.1 ⟨f, hc⟩
    exact hall r hr h44 hn

def holding (l : List UInt8) : Buffer :=
  ((Buffer.new (zeros readStoreLen)).fill l).setDataLen
    (l.length + (Buffer.new (zeros readStoreLen)).nDataLen)

theorem holding_isReadStore {l : List UInt8} (hlen : l.length ≤ readStoreLen) : IsReadStore (holding l) :=
  (IsReadStore.new _).read (Int.ofNat_le.2 hlen)

@[simp] theorem holding_data (l : List UInt8) : (holding l).data = l :=
  (Buffer.new_wf _).data_read

theorem onRecv_progress_two_frames : Progresses (recorder (bodySha1 (zeros 64))) (holding twoFrames) [] := by
  refine (onRecv_progress_iff (holding_isReadStore (by decide +kernel))).2 ?_
  rw [holding_data]
  decide +kernel

/-- A header of a frame of 0 bytes. -/
def emptyFrameHeader : APIProtoHeader := { APIProtoHeader.init with nBodyLen := 4294967252 }

/-- The loop never returns, and hands out the same header in each pass. -/
theorem emptyFrame_loops :
    IsReadStore (holding emptyFrameHeader.toBytes) ∧
      (∀ n, onRecvLoop (recorder fun _ => zeros 20) n (holding emptyFrameHeader.toBytes) [] = none) ∧
      ¬ Progresses (recorder fun _ => zeros 20) (holding emptyFrameHeader.toBytes) [] := by
  have hstore : IsReadStore (holding emptyFrameHeader.toBytes) := holding_isReadStore (by decide)
  have hcut : ∃ f, codeCut emptyFrameHeader.toBytes = some (f, emptyFrameHeader.toBytes) :=
    codeCut_eq_self_iff.2 (by decide)
  have hnone : ∀ n, onRecvLoop (recorder fun _ => zeros 20) n (holding emptyFrameHeader.toBytes) [] = none := by
    intro n
    cases hr : onRecvLoop (recorder fun _ => zeros 20) n (holding emptyFrameHeader.toBytes) [] with
    | none => rfl
    | some p =>
      obtain ⟨f, hf⟩ := hcut
      obtain ⟨os, hd, -, -⟩ := drains_of_onRecvLoop hstore hr
      rw [holding_data] at hd
      exact absurd hf hd.not_stuck
  refine ⟨hstore, hnone, fun hp => ?_⟩
  obtain ⟨n, p, hr⟩ := hp.returns
  rw [hnone n] at hr
  cases hr

/-! ### Bodies -/

/-- The arguments of `HandlePacket`; those of `SHA1` are `pBody`, an offset into the block, and
`nLen`. -/
structure HandlePacketArgs where
  header : APIProtoHeader
  pBody : Nat
  nLen : Int32

/-- What a pass from `b` that does not return calls `SHA1` with, and `HandlePacket` if the digest
matches. -/
def handlePacketArgs (b : Buffer) : HandlePacketArgs :=
  let header := APIProtoHeader.ofBytes b.pBuf
  ⟨header, sizeofHeader, header.nBodyLen.toInt32⟩

/-- The bytes that a pointer into the block and an `int` length denote. -/
def Buffer.slice (b : Buffer) (off : Nat) (nLen : Int32) : List UInt8 :=
  (b.pBuf.drop off).take nLen.toInt.toNat

/-- A pass from `b` to `b'` handed out a body that lies inside the data, and removed it with its
header. -/
structure BodyInData (H : RecvHandler σ) (b : Buffer) (s : σ) (b' : Buffer) (s' : σ) : Prop where
  called : s' = let a := handlePacketArgs b
    if H.sha1 (b.slice a.pBody a.nLen) ≠ a.header.arrBodySHA1 then H.shaCheckFail a.header s
    else H.handlePacket a.header (b.slice a.pBody a.nLen) a.nLen s
  complete : (44 + (handlePacketArgs b).header.nBodyLen.toNat : Int) ≤ b.getDataLen
  len : (handlePacketArgs b).nLen.toInt = (handlePacketArgs b).header.nBodyLen.toNat
  nonneg : 0 ≤ (handlePacketArgs b).nLen.toInt
  inside : ((handlePacketArgs b).pBody : Int) + (handlePacketArgs b).nLen.toInt ≤ b.getDataLen
  removed : b'.removed = b.removed + (44 + (handlePacketArgs b).header.nBodyLen.toNat)
  next : b'.data = b.data.drop (44 + (handlePacketArgs b).header.nBodyLen.toNat)

theorem onRecvStep_called (hs : onRecvStep H b s = some (b', s')) :
    s' = let a := handlePacketArgs b
      if H.sha1 (b.slice a.pBody a.nLen) ≠ a.header.arrBodySHA1 then H.shaCheckFail a.header s
      else H.handlePacket a.header (b.slice a.pBody a.nLen) a.nLen s := by
  unfold onRecvStep at hs
  dsimp only at hs
  split_ifs at hs with h44 hlen hsha
  · cases hs
    exact (if_pos hsha).symm
  · cases hs
    exact (if_neg hsha).symm

theorem bodyInData_iff (h : IsReadStore b) (hs : onRecvStep H b s = some (b', s')) :
    BodyInData H b s b' s' ↔ ¬ Wraps b.data := by
  obtain ⟨f, hc, hb', -, -⟩ := onRecvStep_eq_some h hs
  obtain ⟨h44, hf, hlen, -, hr⟩ := codeCut_eq_some.1 hc
  obtain ⟨hint, -⟩ := h.frameLen_le hc
  have hdata := h.length_data
  have hcap := h.length_data_le
  have hheader : (handlePacketArgs b).header = APIProtoHeader.ofBytes b.data := by
    show APIProtoHeader.ofBytes b.pBuf = _
    rw [← APIProtoHeader.ofBytes_append h44 (b.pBuf.drop b.data.length), h.data_append_drop]
  unfold sizeofHeader at h44
  unfold readStoreLen at hcap
  constructor
  · rintro hin ⟨-, hwrap⟩
    have hcomplete := hin.complete
    rw [hheader] at hcomplete
    unfold Buffer.getDataLen at hcomplete
    omega
  · intro hnot
    have hlt : f.1.nBodyLen.toNat < 2 ^ 32 - 44 := by
      by_contra hge
      exact hnot ⟨h44, by rw [← hf]; omega⟩
    have hframe : f.1.frameLen.toNat = 44 + f.1.nBodyLen.toNat := by
      rw [toNat_frameLen, Nat.mod_eq_of_lt (by omega)]
    have hnLen : (handlePacketArgs b).nLen.toInt = f.1.nBodyLen.toNat := by
      show (handlePacketArgs b).header.nBodyLen.toInt32.toInt = _
      rw [hheader, ← hf, toInt_toInt32, if_pos (by omega)]
    have hle : (44 + f.1.nBodyLen.toNat : Int) ≤ b.getDataLen := by
      unfold Buffer.getDataLen
      omega
    refine ⟨onRecvStep_called hs, ?_, ?_, ?_, ?_, ?_, ?_⟩
    · rwa [hheader, ← hf]
    · rw [hnLen, hheader, hf]
    · rw [hnLen]
      exact Int.natCast_nonneg _
    · rw [hnLen]
      exact hle
    · rw [hb', Buffer.removed_removeFront, hint, hheader, ← hf, hframe]
      rfl
    · rw [hr, hheader, ← hf, hframe]

/-- Every body handed to `SHA1` and `HandlePacket` lies inside the data received, and is removed with
its header, exactly if what is left of the buffer after its complete frames does not start with a
header whose length wraps. -/
theorem bodies_in_data_iff (h : IsReadStore b) :
    AllPasses H (BodyInData H) b s ↔ ¬ Wraps (refRest b.data) :=
  allPasses_iff (fun _ _ _ _ hb hs => bodyInData_iff hb hs) h

theorem bodies_in_data_two_frames :
    AllPasses (recorder (bodySha1 (zeros 64))) (BodyInData (recorder (bodySha1 (zeros 64)))) (holding twoFrames) [] := by
  refine (bodies_in_data_iff (holding_isReadStore (by decide +kernel))).2 ?_
  rw [holding_data]
  decide +kernel

/-- A header that declares `2^32 - 1` bytes. -/
def negativeLenHeader : APIProtoHeader := { APIProtoHeader.init with nBodyLen := 4294967295 }

def lenRecorder : RecvHandler (List Int32) where
  sha1 := fun _ => zeros 20
  errno := .linux
  handlePacket := fun _ _ nLen s => s ++ [nLen]
  shaCheckFail := fun _ s => s
  onError := fun _ s => s
  onDisconnect := fun s => s

/-- A body of length -1 is handed out, and 43 of the 44 bytes are removed. -/
theorem negative_length_dispatched :
    (∃ b', onRecvStep lenRecorder (holding negativeLenHeader.toBytes) [] = some (b', [-1]) ∧
        b'.data = [0]) ∧
      ¬ AllPasses lenRecorder (BodyInData lenRecorder) (holding negativeLenHeader.toBytes) [] := by
  have hstore : IsReadStore (holding negativeLenHeader.toBytes) := holding_isReadStore (by decide)
  have hc : codeCut (holding negativeLenHeader.toBytes).data = some ((negativeLenHeader, []), [0]) := by
    rw [holding_data]
    rfl
  have hs : onRecvStep lenRecorder (holding negativeLenHeader.toBytes) [] =
      some ((holding negativeLenHeader.toBytes).removeFront 43, [-1]) := by
    rw [onRecvStep_eq hstore, hc]
    rfl
  refine ⟨⟨_, hs, (hstore.pass hc).2⟩, fun hall => ?_⟩
  have hp : BodyInData lenRecorder (holding negativeLenHeader.toBytes) [] _ _ :=
    (hall 1 _ (step_pass hs)).1 _ _ hs
  refine (bodyInData_iff hstore hs).1 hp ?_
  rw [holding_data]
  decide

end
end FutuOpenD

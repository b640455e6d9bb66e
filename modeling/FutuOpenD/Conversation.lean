import FutuOpenD.RoundTrip
import FutuOpenD.SessionWrites
import FutuOpenD.Sha1Digest

/-!
# What a session puts on the wire

The layers together, with the digest and the serialisation of the program (`Outside.real`).
While the transport succeeds and the write stores stay small, the bytes that `uv_write` has accepted are whole
packets (`accepted_whole`), so a server that cuts them into frames reads the first requests of the session, each
once and in order, with consecutive serial numbers and with the digest of FIPS 180.
-/

namespace FutuOpenD
open Bytes Runs Framing Fips180 Wire TcpConnect

namespace TcpConnect
variable {c c' : TcpConnect} {ws : List WriteEvent} {e : WriteEvent} {sent : List (List UInt8)}

theorem orderSafe_of_succeeds (h : Lossless sent c) (he : e.Succeeds) (hsmall : StoresSmall c)
    (hsmall' : StoresSmall c') (hw : c.WriteInv) (hs : writeMachine.step c e = some c') : OrderSafe c e := by
  cases e with
  | send pData uvRet =>
    intro hidx hret
    have hneg : c.nCurUsingWriteStoreIdx = -1 := by
      rcases hw.idx with hi | hi <;> omega
    rw [step_start hneg] at hs
    cases hs
    have hsize : (c.writeStores.store0.bytes ++ pData).length < 2 ^ 31 := hsmall'.1
    rw [List.length_append] at hsize
    refine ⟨?_, .inl (h.idle hneg).2⟩
    show c.writeStores.store0.bytes.length + pData.length < 2 ^ 32
    omega
  | afterWrite status uvRet =>
    intro _ _
    obtain ⟨h0, h1⟩ := hsmall
    unfold otherStore WriteStores.get
    split_ifs
    · omega
    · omega
    · exact Nat.pow_pos (by decide)

/-- What has been accepted are the first packets; when nothing is being written they are all. -/
theorem accepted_whole (hok : ∀ e ∈ ws, e.Succeeds) (hsmall : writeMachine.AllStates StoresSmall new ws)
    (hr : writeMachine.run new ws = some c) :
    ∃ old new : List (List UInt8), sentPackets ws = old ++ new ∧ c.acceptedBytes = old.flatten ∧
      (c.nCurUsingWriteStoreIdx = -1 → new.flatten = []) := by
  have hsteps := (Machine.AllSteps.of_forall (M := writeMachine)
    (C := fun _ e => WriteEvent.Succeeds e) (fun _ e he => hok e he) new).and hsmall.allSteps
  obtain ⟨hw, hl, -, old, rest, hf⟩ := Machine.run_hist (l := [])
    (J := fun l c => WriteInv c ∧ Lossless (sentPackets l) c ∧ StoresSmall c ∧
      ∃ old new, Fifo (sentPackets l) c old new)
    (fun l c e c' h hc hs => by
      obtain ⟨hw, hl, hsm, old, rest, hf⟩ := h
      have hsm' := hc.2 c' hs
      rw [sentPackets_append]
      exact ⟨hw.step hs, hl.step hw hc.1 hsm' hs, hsm',
        hf.step hw (orderSafe_of_succeeds hl hc.1 hsm hsm' hw hs) hs⟩)
    ⟨.new, .new, hsmall.head, [], [], .new⟩ hsteps hr
  have hwait : c.waitingBytes = rest.flatten := by
    by_cases hidx : c.nCurUsingWriteStoreIdx = -1
    · exact (hf.left hidx).1
    · have hge : ¬ c.nCurUsingWriteStoreIdx < 0 := by
        rcases hw.idx with hi | hi <;> omega
      rw [waitingBytes, if_neg hge]
      exact hf.queued (hl.busy hidx)
  refine ⟨old, rest, hf.split, ?_, fun hidx => ?_⟩
  · have hbytes := hl.bytes
    rw [← hl.accepted, hwait, hf.split, List.flatten_append] at hbytes
    exact List.append_cancel_right hbytes
  · obtain ⟨h0, h1⟩ := hl.idle hidx
    rw [← hwait, waitingBytes, if_pos (by omega), h0, h1]
    rfl

end TcpConnect

/-- The digest of the standard, as a field of the header. -/
def fipsDigest (body : List UInt8) : Field 20 := ⟨Fips180.hash body, length_digest _⟩

theorem bodySha1_eq (garbage : Field 64) {body : List UInt8} (h : body.length < 2 ^ 31) :
    bodySha1 garbage body = fipsDigest body := by
  rw [bodySha1, sha1_of_take garbage (NetCenter.withIntSize_of_lt h), Option.getD_some]
  exact fieldAt_eq (f := fipsDigest body) (List.append_nil _).symm

theorem ClientRequest.sendable {r : Request} (h : ClientRequest r) : NetCenter.Sendable r.pbMessage := by
  have hlen := h.length_le
  have hlt : (encode r.records).length < 2 ^ 31 := by omega
  refine ⟨Request.exact_of_lt hlt, ?_⟩
  rw [PbMessage.bytes, r.serializeToString_eq, if_pos hlt, Option.getD_some]
  omega

/-- No request of the client makes `Send` throw. -/
theorem ClientRequest.not_sendThrows {r : Request} (h : ClientRequest r) : ¬ NetCenter.SendThrows r.pbMessage :=
  h.sendable.not_sendThrows

theorem ClientRequest.bytes_eq {r : Request} (h : ClientRequest r) : r.pbMessage.bytes = encode r.records := by
  have hlen := h.length_le
  rw [PbMessage.bytes, r.serializeToString_eq, if_pos (by omega), Option.getD_some]

/-- The frame `f` is packet number `k`, and its body is the request `r`. -/
structure Carries (f : APIProtoHeader × List UInt8) (k : Nat) (r : Request) : Prop where
  flag : f.1.szHeaderFlag = headerFlag
  serial : f.1.nSerialNo.toNat = k % 2 ^ 32
  digest : f.1.arrBodySHA1 = fipsDigest f.2
  body : Request.decodeAs f.1.nProtoID f.2 = some r

section
variable {W : Outside} {garbage : Field 64}

theorem ClientRequest.carries {r : Request} (h : ClientRequest r) (k : UInt32) :
    Carries ((h.sendable.frame (W.real garbage) r.protoID k).header, r.pbMessage.bytes) k.toNat r := by
  have hheader : (h.sendable.frame (W.real garbage) r.protoID k).header =
      ⟨headerFlag, r.protoID, 0, 0, k, UInt32.ofNat r.pbMessage.bytes.length,
        (W.real garbage).sha1 r.pbMessage.bytes, zeros 8⟩ := h.sendable.packetHeader_eq
  have hlen := h.length_le
  rw [hheader]
  refine ⟨rfl, (Nat.mod_eq_of_lt k.toNat_lt).symm, bodySha1_eq garbage ?_, ?_⟩
  · rw [h.bytes_eq]
    omega
  · rw [h.bytes_eq]
    exact r.decodeAs_records

/-- The packets of requests of the client are frames that carry them. -/
theorem numbered_frames (W : Outside) (garbage : Field 64) {rs : List Request} (hrs : ∀ r ∈ rs, ClientRequest r) (k : UInt32) :
    ∃ fs : List Frame, (numbered (W.real garbage) k rs).map Prod.snd = fs.map Frame.toBytes ∧
      fs.length = rs.length ∧ ∀ (i : Nat) r, rs[i]? = some r →
        ∃ f, (fs.map fun f => (f.header, f.body))[i]? = some f ∧ Carries f (k.toNat + i) r := by
  induction rs generalizing k with
  | nil => exact ⟨[], rfl, rfl, fun i r h => by cases h⟩
  | cons r rs ih =>
    obtain ⟨hr, hrs⟩ := List.forall_mem_cons.1 hrs
    obtain ⟨fs, hbytes, hlen, hfs⟩ := ih hrs (k + 1)
    refine ⟨hr.sendable.frame (W.real garbage) r.protoID k :: fs, ?_, by simp [hlen], fun i r' hi => ?_⟩
    · have hpacket := @NetCenter.Sendable.packetOf_eq (W.real garbage) (r.protoID, r.pbMessage) k hr.sendable
      rw [numbered, List.map_cons, hbytes, List.map_cons]
      exact congrArg (· :: fs.map Frame.toBytes) (congrArg Prod.snd hpacket)
    · cases i with
      | zero =>
        cases hi
        exact ⟨_, rfl, hr.carries k⟩
      | succ i =>
        obtain ⟨f, hf, hc⟩ := hfs i r' hi
        refine ⟨f, hf, hc.flag, ?_, hc.digest, hc.body⟩
        have hserial := hc.serial
        rw [UInt32.toNat_add, UInt32.toNat_one] at hserial
        omega

theorem clientRequest_of_emits {s : Session} {e : SessionEvent} {r : Request} (h : r ∈ emits W s e) :
    ClientRequest r := by
  have hstarted : ∀ e, r ∈ ((startedBy W s e).map startRequests).getD [] → ClientRequest r := by
    intro e h
    cases hs : startedBy W s e with
    | none => simp [hs] at h
    | some s2c =>
      simp only [hs, Option.map_some, Option.getD_some, startRequests, List.mem_cons, List.not_mem_nil,
        or_false] at h
      rcases h with rfl | rfl | rfl
      · exact .getGlobalState _
      · exact .subscribe
      · exact .regPush
  cases e with
  | recv e => exact hstarted (.recv e) h
  | afterWrite status => exact hstarted (.afterWrite status) h
  | keepAliveTimer now =>
    rw [List.mem_singleton.1 h]
    exact .keepAlive now

theorem clientRequest_of_allRequests {start : Session} {es : List SessionEvent} {r : Request}
    (h : r ∈ allRequests W start es) : ClientRequest r := by
  rcases List.mem_cons.1 h with rfl | h
  · exact .initConnect
  · obtain ⟨s, e, hr⟩ := Machine.mem_outputs h
    exact clientRequest_of_emits hr

variable {mem : Field readStoreLen} {es : List SessionEvent} {s : Session}

/-- While the transport succeeds and neither write store comes to 2 ^ 31 bytes, a server that cuts what `uv_write`
has accepted into frames gets whole frames only, and they carry the first requests of the session, numbered
from 1; when nothing is being written, all of them. -/
theorem session_on_the_wire (hr : (sessionMachine (W.real garbage)).run (.start (W.real garbage) mem) es = some s)
    (huv : ∀ k, W.uvWrite k = 0) (hst : ∀ status, .afterWrite status ∈ es → status = 0)
    (hsmall : (sessionMachine (W.real garbage)).AllStates (fun s => StoresSmall s.handler.net.quoteConn)
      (.start (W.real garbage) mem) es) :
    ∃ rs rest frames, allRequests (W.real garbage) (.start (W.real garbage) mem) es = rs ++ rest ∧
      refParse fipsDigest s.handler.net.quoteConn.acceptedBytes = (frames, []) ∧
      frames.length = rs.length ∧
      (∀ (i : Nat) r, rs[i]? = some r → ∃ f, frames[i]? = some f ∧ Carries f (i + 1) r) ∧
      (s.handler.net.quoteConn.nCurUsingWriteStoreIdx = -1 → rest = []) := by
  obtain ⟨ws, h⟩ := refines_run real_serializes hr
  have hok : ∀ e ∈ ws, e.Succeeds := by
    intro e he
    cases e with
    | send pData uvRet =>
      obtain ⟨k, rfl⟩ := h.results _ he
      exact huv k
    | afterWrite status uvRet =>
      obtain ⟨k, rfl⟩ := h.results _ he
      refine ⟨?_, huv k⟩
      have hmem : status ∈ ws.filterMap WriteEvent.toStatus := List.mem_filterMap.2 ⟨_, he, rfl⟩
      rw [h.statuses] at hmem
      obtain ⟨e, he, hstatus⟩ := List.mem_filterMap.1 hmem
      cases e with
      | afterWrite status' =>
        cases hstatus
        exact hst _ he
      | _ => cases hstatus
  obtain ⟨old, new, hsplit, hacc, hidle⟩ := accepted_whole hok (h.small hsmall) h.conn
  have hrs : ∀ r ∈ (allRequests (W.real garbage) (.start (W.real garbage) mem) es).take old.length,
      ClientRequest r := fun r hr => clientRequest_of_allRequests (List.mem_of_mem_take hr)
  obtain ⟨fs, hbytes, hlen, hfs⟩ := numbered_frames W garbage hrs 1
  have hold : old = fs.map Frame.toBytes := by
    rw [← hbytes, ← numbered_take, List.map_take, ← h.sent, hsplit, List.take_left]
  have hparse : refParse fipsDigest s.handler.net.quoteConn.acceptedBytes =
      (fs.map fun f => (f.header, f.body), []) := by
    have hflat : s.handler.net.quoteConn.acceptedBytes = fs.flatMap Frame.toBytes ++ [] := by
      rw [hacc, hold, List.append_nil]
      rfl
    rw [hflat, refParse_flatMap (by decide), List.filter_eq_self.2]
    intro p hp
    obtain ⟨i, hi⟩ := List.mem_iff_getElem?.1 hp
    obtain ⟨hlt, -⟩ := List.getElem?_eq_some_iff.1 hi
    rw [List.length_map, hlen] at hlt
    obtain ⟨f, hf, hc⟩ := hfs i _ (List.getElem?_eq_getElem hlt)
    rw [hi] at hf
    cases hf
    exact decide_eq_true hc.digest.symm
  refine ⟨_, _, _, (List.take_append_drop old.length _).symm, hparse, by rw [List.length_map, hlen],
    fun i r hi => ?_, fun hidx => ?_⟩
  · obtain ⟨f, hf, hc⟩ := hfs i r hi
    rw [Nat.add_comm] at hc
    exact ⟨f, hf, hc⟩
  · -- no packet is empty, so none waits
    have hnew : new = [] := by
      refine List.eq_nil_iff_forall_not_mem.2 fun p hp => ?_
      have hp' : p ∈ sentPackets ws := by
        rw [hsplit]
        exact List.mem_append_right old hp
      obtain ⟨gs, hgs, -, -⟩ := numbered_frames W garbage
        (fun r hr => clientRequest_of_allRequests hr) 1
      rw [h.sent, hgs] at hp'
      obtain ⟨g, -, rfl⟩ := List.mem_map.1 hp'
      have hlen := congrArg List.length (List.flatten_eq_nil_iff.1 (hidle hidx) _ hp)
      rw [Frame.toBytes, List.length_append, g.header.length_toBytes, sizeofHeader] at hlen
      simp at hlen
    have hlen := congrArg List.length hsplit
    rw [hnew, List.append_nil, h.sent, List.length_map, length_numbered] at hlen
    rw [List.drop_eq_nil_iff, hlen]

/-- The first write takes one packet and the second the four that have come up meanwhile, and then the server has
all of them. -/
theorem session_on_the_wire_one_response :
    ∃ s frames, (sessionMachine .program).run (.start .program (zeros readStoreLen)) (oneResponse ++ [.afterWrite 0]) =
        some s ∧
      refParse fipsDigest s.handler.net.quoteConn.acceptedBytes = (frames, []) ∧ frames.length = 5 ∧
      ∃ f, frames[4]? = some f ∧ Carries f 5 (.keepAlive ⟨8⟩) := by
  obtain ⟨s, hr, hidx⟩ : ∃ s, (sessionMachine .program).run (.start .program (zeros readStoreLen))
      (oneResponse ++ [.afterWrite 0]) = some s ∧ s.handler.net.quoteConn.nCurUsingWriteStoreIdx = -1 :=
    Option.map_eq_some_iff.1 (by decide +kernel)
  have hsmall : (sessionMachine .program).AllStates (fun s => StoresSmall s.handler.net.quoteConn)
      (.start .program (zeros readStoreLen)) (oneResponse ++ [.afterWrite 0]) := by decide +kernel
  have hrequests : allRequests .program (.start .program (zeros readStoreLen)) (oneResponse ++ [.afterWrite 0]) =
      .initConnect ⟨100, "demo", some true⟩ :: startRequests ⟨7, 10⟩ ++ [.keepAlive ⟨8⟩] := by decide +kernel
  have hprogram : Outside.program = (Outside.plain.parsing .plain asciiText).real (zeros 64) := rfl
  rw [hprogram] at hr hsmall hrequests
  obtain ⟨rs, rest, frames, hsplit, hparse, hlen, hcarries, hidle⟩ :=
    session_on_the_wire hr (fun _ => rfl) (by simp [oneResponse]) hsmall
  rw [hrequests, hidle hidx, List.append_nil] at hsplit
  refine ⟨s, frames, hr, hparse, by rw [hlen, ← hsplit]; rfl, ?_⟩
  exact hcarries 4 _ (by rw [← hsplit]; rfl)

end
end FutuOpenD

import FutuOpenD.LengthWrap

/-!
# Which frames reach `HandlePacket`

The digest is all that `OnRecv` checks of a frame: the start flag and `nProtoFmtType` are copied into
the header and looked at by nobody. `Dispatched` describes the calls of `HandlePacket` along a run:
they are the frames taken off the stream whose digest is right, in order (`dispatched_iff_digest`),
so a frame of another format is handed out like any other (`foreign_frame_dispatched`).
-/

namespace FutuOpenD
open Bytes Runs Framing

/-- The frame with this header and body stands somewhere in the stream. -/
def FrameIn (stream : List UInt8) (f : APIProtoHeader × List UInt8) : Prop :=
  f.2.length = f.1.nBodyLen.toNat ∧ ∃ pre post, stream = pre ++ (f.1.toBytes ++ f.2) ++ post

/-- The start flag, the body format and the digest that the protocol documents. -/
def Documented (sha1 : List UInt8 → Field 20) (f : APIProtoHeader × List UInt8) : Prop :=
  f.1.szHeaderFlag = headerFlag ∧ f.1.nProtoFmtType = 0 ∧ sha1 f.2 = f.1.arrBodySHA1

section
variable {sha1 : List UInt8 → Field 20} {received m : List UInt8} {e : ReadEvent} {es : List ReadEvent}
variable {f : APIProtoHeader × List UInt8} {os : List (APIProtoHeader × List UInt8)}
variable {r r' : ReadSide (List (APIProtoHeader × List UInt8))} {mem : Field readStoreLen}

theorem FrameIn.append (h : FrameIn received f) (m : List UInt8) : FrameIn (received ++ m) f := by
  obtain ⟨hlen, pre, post, rfl⟩ := h
  exact ⟨hlen, pre, post ++ m, List.append_assoc ..⟩

theorem frameIn_of_refCut {gone l rest : List UInt8} (h : refCut l = some (f, rest)) :
    FrameIn (gone ++ l) f := by
  obtain ⟨g, rfl, rfl⟩ := refCut_eq_some h
  exact ⟨g.len, gone, rest, (List.append_assoc ..).symm⟩

/-- What was taken off the stream `received` and what of it was handed out. -/
structure Dispatched (sha1 : List UInt8 → Field 20) (received : List UInt8)
    (r : ReadSide (List (APIProtoHeader × List UInt8))) (os : List (APIProtoHeader × List UInt8)) : Prop where
  store : IsReadStore r.readStore
  taken : codeCutter.Takes received os r.readStore.data
  log : r.handler = os.filter fun f => sha1 f.2 = f.1.arrBodySHA1
  whole : ∀ f ∈ os, f.1.nBodyLen.toNat < 2 ^ 32 - 44 → FrameIn received f

theorem handleFrame_recorder (s : List (APIProtoHeader × List UInt8)) :
    handleFrame (recorder sha1) s f = s ++ [f].filter fun f => sha1 f.2 = f.1.arrBodySHA1 :=
  recorder_foldl [f] s

namespace Dispatched

theorem new (mem : Field readStoreLen) : Dispatched sha1 [] (ReadSide.new mem []) [] :=
  ⟨.new mem, .refl, rfl, by simp⟩

theorem step (h : Dispatched sha1 received r os) (hs : readStep (recorder sha1) r e = some r') :
    ∃ os', Dispatched sha1 (received ++ receivedBytes [e]) r' os' := by
  cases readStep_cases h.store hs with
  | read bytes hidle hfit =>
    show ∃ os', Dispatched sha1 (received ++ (bytes ++ [])) _ os'
    rw [List.append_nil]
    refine ⟨os, h.store.read hfit, ?_, h.log, fun f hf hlen => (h.whole f hf hlen).append bytes⟩
    rw [h.store.data_read]
    exact h.taken.append bytes
  | readError nread hidle s hcall =>
    have hs : s = r.handler := by
      rcases hcall with rfl | rfl
      · rfl
      · rfl
    subst hs
    exact ⟨os, h.store, by simpa [receivedBytes] using h.taken, h.log, by simpa [receivedBytes] using h.whole⟩
  | wait hrecv hc =>
    exact ⟨os, h.store, by simpa [receivedBytes] using h.taken, h.log, by simpa [receivedBytes] using h.whole⟩
  | frame f rest hrecv hc =>
    obtain ⟨hok, hdata⟩ := h.store.pass hc
    show ∃ os', Dispatched sha1 (received ++ []) _ os'
    rw [List.append_nil]
    refine ⟨os ++ [f], hok, ?_, ?_, ?_⟩
    · show codeCutter.Takes received (os ++ [f]) (r.readStore.removeFront f.1.frameLen.toInt32.toInt).data
      rw [hdata]
      exact h.taken.trans (.next hc .refl)
    · show handleFrame (recorder sha1) r.handler f = _
      rw [handleFrame_recorder, h.log, List.filter_append]
    · intro g hg hlen
      rcases List.mem_append.1 hg with hg | hg
      · exact h.whole g hg hlen
      · obtain rfl := List.mem_singleton.1 hg
        obtain ⟨-, hheader, -, -, -⟩ := codeCut_eq_some.1 hc
        have hnot : ¬ Wraps r.readStore.data := by
          rintro ⟨-, hwrap⟩
          rw [← hheader] at hwrap
          omega
        rw [codeCut_eq_refCut_of_not_wraps h.store.length_data_le hnot] at hc
        obtain ⟨gone, hgone⟩ := h.taken.suffix codeCut_suffix
        rw [← hgone]
        exact frameIn_of_refCut hc

theorem run (hr : (readMachine (recorder sha1)).run (.new mem []) es = some r) :
    ∃ os, Dispatched sha1 (receivedBytes es) r os :=
  Machine.run_events (J := fun l r => ∃ os, Dispatched sha1 (receivedBytes l) r os)
    (fun l r e r' h hs => by
      obtain ⟨os, h⟩ := h
      rw [receivedBytes, List.flatMap_append]
      exact h.step hs)
    ⟨[], .new mem⟩ hr

end Dispatched

/-- The frames taken off the stream, one after the other from its start, are handed to `HandlePacket`
if and only if their digest is right. A frame whose length does not wrap stands in the stream with the
whole of the body it declares. -/
theorem dispatched_iff_digest (hr : (readMachine (recorder sha1)).run (.new mem []) es = some r) :
    ∃ os, codeCutter.Takes (receivedBytes es) os r.readStore.data ∧
      r.handler = os.filter (fun f => sha1 f.2 = f.1.arrBodySHA1) ∧
      ∀ f ∈ os, f.1.nBodyLen.toNat < 2 ^ 32 - 44 → FrameIn (receivedBytes es) f := by
  obtain ⟨os, h⟩ := Dispatched.run hr
  exact ⟨os, h.taken, h.log, h.whole⟩

/-- A header with another start flag and the JSON format; the digest is that of no body. -/
def foreignHeader : APIProtoHeader :=
  { APIProtoHeader.init with
    szHeaderFlag := zeros 2
    nProtoID := apiProtoIDInitConnect
    nProtoFmtType := 1
    arrBodySHA1 := bodySha1 (zeros 64) [] }

theorem foreign_frame_dispatched :
    ∃ r, (readMachine (recorder (bodySha1 (zeros 64)))).run (.new (zeros readStoreLen) [])
        [.read foreignHeader.toBytes, .pass] = some r ∧
      r.handler = [(foreignHeader, [])] ∧ ¬ ∀ f ∈ r.handler, Documented (bodySha1 (zeros 64)) f := by
  obtain ⟨r, hr, hlog⟩ : ∃ r, (readMachine (recorder (bodySha1 (zeros 64)))).run (.new (zeros readStoreLen) [])
      [.read foreignHeader.toBytes, .pass] = some r ∧ r.handler = [(foreignHeader, [])] :=
    Option.map_eq_some_iff.1 (by decide +kernel)
  refine ⟨r, hr, hlog, fun h => ?_⟩
  rw [hlog] at h
  have hflag := (h (foreignHeader, []) (List.mem_singleton.2 rfl)).1
  exact absurd hflag (by decide +kernel)

/-- The frame, and the same with another digest. -/
def foreignStream : List UInt8 := foreignHeader.toBytes ++ { foreignHeader with arrBodySHA1 := zeros 20 }.toBytes

/-- The digest is right, and that is all it takes; where it is not, nothing is handed out. -/
theorem dispatched_iff_digest_foreign :
    ∃ r, (readMachine (recorder (bodySha1 (zeros 64)))).run (.new (zeros readStoreLen) [])
        [.read foreignStream, .pass, .pass] = some r ∧
      r.handler = [(foreignHeader, [])] ∧
      ∃ os, codeCutter.Takes foreignStream os r.readStore.data ∧
        r.handler = os.filter (fun f => bodySha1 (zeros 64) f.2 = f.1.arrBodySHA1) ∧
        ∀ f ∈ os, f.1.nBodyLen.toNat < 2 ^ 32 - 44 → FrameIn foreignStream f := by
  obtain ⟨r, hr, hlog⟩ : ∃ r, (readMachine (recorder (bodySha1 (zeros 64)))).run (.new (zeros readStoreLen) [])
      [.read foreignStream, .pass, .pass] = some r ∧ r.handler = [(foreignHeader, [])] :=
    Option.map_eq_some_iff.1 (by decide +kernel)
  have hreceived : receivedBytes [.read foreignStream, .pass, .pass] = foreignStream := List.append_nil _
  have h := dispatched_iff_digest hr
  rw [hreceived] at h
  exact ⟨r, hr, hlog, h⟩

end
end FutuOpenD

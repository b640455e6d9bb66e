import FutuOpenD.FrameCut
import FutuOpenD.Sha1

/-!
# The read store over whole runs

`ReadInv` ties the read store to the history: it is in range, each call so far met its assert, and the
data are the bytes received less those removed, which the loop cut off as frames. One lemma for each
event of `readMachine` says that it is kept. Two results follow. `read_store_invariant` is the
integrity of the store, for every value of the length field. `free_space_iff_no_oversized` is about
the room left when `AfterRead` returns: the store is never resized, and a frame that declares more
than fits is waited for, so the store can fill up.
-/

namespace FutuOpenD
open Bytes Runs Framing

def receivedBytes (es : List ReadEvent) : List UInt8 :=
  es.flatMap fun
    | .read bytes => bytes
    | .readError _ => []
    | .pass => []

section
variable {σ : Type*} {H : RecvHandler σ} {r r' : ReadSide σ} {received bytes : List UInt8} {e : ReadEvent}

/-- What `readStep` does: a read appends, a failed read leaves the store alone, and a pass returns or
takes a frame off the front. -/
inductive ReadCase (H : RecvHandler σ) (r : ReadSide σ) : ReadEvent → ReadSide σ → Prop
  | read (bytes : List UInt8) (hidle : r.inRecv = false)
      (hfit : (bytes.length : Int) ≤ r.readStore.getRemainLen) :
      ReadCase H r (.read bytes) { r with
        readStore := (r.readStore.fill bytes).setDataLen (bytes.length + r.readStore.nDataLen)
        inRecv := true }
  | readError (nread : Int) (hidle : r.inRecv = false) (s : σ)
      (hs : s = H.onDisconnect r.handler ∨ s = H.onError nread r.handler) :
      ReadCase H r (.readError nread) { r with handler := s }
  | wait (hrecv : r.inRecv = true) (hc : codeCut r.readStore.data = none) :
      ReadCase H r .pass { r with inRecv := false }
  | frame (f : APIProtoHeader × List UInt8) (rest : List UInt8) (hrecv : r.inRecv = true)
      (hc : codeCut r.readStore.data = some (f, rest)) :
      ReadCase H r .pass { r with
        readStore := r.readStore.removeFront f.1.frameLen.toInt32.toInt
        handler := handleFrame H r.handler f }

theorem afterRead_of_neg {nread : Int} (hn : nread < 0) :
    ∃ s, afterRead H nread r = { r with handler := s } ∧
      (s = H.onDisconnect r.handler ∨ s = H.onError nread r.handler) := by
  unfold afterRead
  rw [if_pos hn]
  split_ifs
  · exact ⟨_, rfl, .inl rfl⟩
  · exact ⟨_, rfl, .inl rfl⟩
  · exact ⟨_, rfl, .inr rfl⟩

theorem readStep_cases (h : IsReadStore r.readStore) (hs : readStep H r e = some r') :
    ReadCase H r e r' := by
  cases e with
  | read bytes =>
    obtain ⟨⟨hidle, hfit⟩, hr⟩ := Option.ite_none_right_eq_some.1 hs
    cases hr
    unfold afterRead
    rw [if_neg (by omega)]
    exact .read bytes hidle hfit
  | readError nread =>
    obtain ⟨⟨hidle, hneg⟩, hr⟩ := Option.ite_none_right_eq_some.1 hs
    cases hr
    obtain ⟨s, hs, hcall⟩ := afterRead_of_neg (H := H) (r := r) hneg
    rw [hs]
    exact .readError nread hidle s hcall
  | pass =>
    obtain ⟨hrecv, hr⟩ := Option.ite_none_right_eq_some.1 hs
    rw [onRecvStep_eq h] at hr
    cases hc : codeCut r.readStore.data with
    | none =>
      rw [hc] at hr
      cases hr
      exact .wait hrecv hc
    | some p =>
      rw [hc] at hr
      cases hr
      exact .frame p.1 p.2 hrecv hc

theorem readStep_isReadStore (h : IsReadStore r.readStore) (hs : readStep H r e = some r') :
    IsReadStore r'.readStore := by
  cases readStep_cases h hs with
  | read bytes hidle hfit => exact h.read hfit
  | readError nread hidle s hcall => exact h
  | wait hrecv hc => exact h
  | frame f rest hrecv hc => exact (h.pass hc).1

structure ReadInv (received : List UInt8) (r : ReadSide σ) : Prop where
  store : IsReadStore r.readStore
  asserts : ∀ c ∈ r.readStore.calls, c.Asserts ∧ 0 ≤ c.removes
  split : ∃ gone, received = gone ++ r.readStore.data ∧ (gone.length : Int) = r.readStore.removed
  cuts : codeCutter.Reaches received r.readStore.data
  waits : r.inRecv = false → codeCut r.readStore.data = none

namespace ReadInv

theorem new (mem : Field readStoreLen) (s : σ) : ReadInv [] (ReadSide.new mem s) :=
  ⟨.new mem, by rintro c ⟨⟩, ⟨[], rfl, rfl⟩, .refl, fun _ => rfl⟩

theorem step (h : ReadInv received r) (hs : readStep H r e = some r') :
    ReadInv (received ++ receivedBytes [e]) r' := by
  cases readStep_cases h.store hs with
  | read bytes hidle hfit =>
    obtain ⟨gone, hsplit, hgone⟩ := h.split
    show ReadInv (received ++ (bytes ++ [])) _
    rw [List.append_nil]
    refine ⟨h.store.read hfit, List.forall_mem_append.2 ⟨h.asserts, ?_⟩, ⟨gone, ?_, ?_⟩, ?_, ?_⟩
    · rw [List.forall_mem_singleton]
      refine ⟨?_, Int.le_refl 0⟩
      unfold Buffer.getRemainLen at hfit
      show (bytes.length : Int) + r.readStore.nDataLen ≤ r.readStore.nBufLen
      omega
    · rw [h.store.data_read, hsplit, List.append_assoc]
    · simpa using hgone
    · rw [h.store.data_read]
      exact h.cuts.append bytes
    · rintro ⟨⟩
  | readError nread hidle s hcall =>
    show ReadInv (received ++ []) _
    rw [List.append_nil]
    exact ⟨h.store, h.asserts, h.split, h.cuts, h.waits⟩
  | wait hrecv hc =>
    show ReadInv (received ++ []) _
    rw [List.append_nil]
    exact ⟨h.store, h.asserts, h.split, h.cuts, fun _ => hc⟩
  | frame f rest hrecv hc =>
    show ReadInv (received ++ []) _
    rw [List.append_nil]
    obtain ⟨hok, hdata⟩ := h.store.pass hc
    obtain ⟨hn, hle⟩ := h.store.frameLen_le hc
    obtain ⟨gone, hsplit, hgone⟩ := h.split
    obtain ⟨taken, htaken⟩ := codeCut_suffix hc
    refine ⟨hok, List.forall_mem_append.2 ⟨h.asserts, ?_⟩, ⟨gone ++ taken, ?_, ?_⟩, ?_, ?_⟩
    · rw [List.forall_mem_singleton]
      refine ⟨?_, ?_⟩
      · show f.1.frameLen.toInt32.toInt ≤ r.readStore.nDataLen
        rw [hn]
        exact hle
      · show 0 ≤ f.1.frameLen.toInt32.toInt
        rw [hn]
        exact Int.natCast_nonneg _
    · show received = gone ++ taken ++ (r.readStore.removeFront f.1.frameLen.toInt32.toInt).data
      rw [hdata, List.append_assoc, htaken, hsplit]
    · show _ = (r.readStore.removeFront f.1.frameLen.toInt32.toInt).removed
      obtain ⟨-, -, hlen, -, rfl⟩ := codeCut_eq_some.1 hc
      have hl := congrArg List.length htaken
      rw [List.length_append, List.length_drop] at hl
      rw [Buffer.removed_removeFront, hn, List.length_append]
      omega
    · show codeCutter.Reaches received (r.readStore.removeFront f.1.frameLen.toInt32.toInt).data
      rw [hdata]
      exact h.cuts.trans (.next hc .refl)
    · show r.inRecv = false → _
      rw [hrecv]
      rintro ⟨⟩

theorem run {es : List ReadEvent} {mem : Field readStoreLen} {s : σ}
    (hr : (readMachine H).run (.new mem s) es = some r) : ReadInv (receivedBytes es) r :=
  Machine.run_events (J := fun l r => ReadInv (receivedBytes l) r)
    (fun l r e r' h hs => by
      rw [receivedBytes, List.flatMap_append]
      exact h.step hs)
    (.new mem s) hr

end ReadInv

variable {es : List ReadEvent} {mem : Field readStoreLen} {s : σ}

/-- Integrity of the read store in every state that can be reached, for every value of the length
field: the lengths are in range, each assert held and nothing negative was removed, libuv is offered
exactly the free part, and the data are the bytes received less those removed. -/
theorem read_store_invariant (hr : (readMachine H).run (.new mem s) es = some r) :
    (0 ≤ r.readStore.nDataLen ∧ r.readStore.nDataLen ≤ r.readStore.nBufLen ∧
      r.readStore.nBufLen = 10485760 ∧ r.readStore.pBuf.length = 10485760) ∧
    (∀ c ∈ r.readStore.calls, c.Asserts ∧ 0 ≤ c.removes) ∧
    ((onAllocBuf r).base = r.readStore.nDataLen ∧
      (onAllocBuf r).base + (onAllocBuf r).len = r.readStore.nBufLen) ∧
    (∀ bytes r', readStep H r (.read bytes) = some r' →
      r'.readStore.pBuf.take r.readStore.nDataLen.toNat = r.readStore.data) ∧
    0 ≤ r.readStore.removed ∧ r.readStore.removed + r.readStore.nDataLen = (receivedBytes es).length ∧
      r.readStore.data = (receivedBytes es).drop r.readStore.removed.toNat := by
  have h := ReadInv.run hr
  have hsize := h.store.size
  rw [h.store.cap] at hsize
  obtain ⟨gone, hsplit, hgone⟩ := h.split
  refine ⟨⟨h.store.nonneg, h.store.le, h.store.cap, Int.ofNat.inj hsize⟩, h.asserts, ⟨rfl, ?_⟩, ?_, ?_, ?_, ?_⟩
  · show r.readStore.nDataLen + (r.readStore.nBufLen - r.readStore.nDataLen) = r.readStore.nBufLen
    omega
  · intro bytes r' hs
    cases readStep_cases h.store hs with
    | read bytes hidle hfit => exact h.store.data_fill
  · omega
  · rw [hsplit, List.length_append, ← h.store.length_data, ← hgone]
    omega
  · rw [← hgone, hsplit, Int.toNat_natCast, List.drop_left]

/-- A response to `KeepAlive`, of which nobody reads the body. -/
def keepAliveRsp (digest : Field 20) : List UInt8 :=
  { APIProtoHeader.init with nProtoID := apiProtoIDKeepAlive, nBodyLen := 3, arrBodySHA1 := digest }.toBytes ++
    [1, 2, 3]

/-- Two frames, the second with a wrong digest, and the start of a third. -/
def twoFrames : List UInt8 := keepAliveRsp (bodySha1 (zeros 64) [1, 2, 3]) ++ keepAliveRsp (zeros 20) ++ [70, 84]

theorem read_store_invariant_two_frames :
    ∃ r, (readMachine (recorder (bodySha1 (zeros 64)))).run (.new (zeros readStoreLen) [])
        [.read twoFrames, .pass, .pass, .pass, .readError uvEOF] = some r ∧
      (r.handler.length = 1 ∧ r.readStore.removed = 94) ∧ r.readStore.nDataLen = 2 ∧ r.readStore.data = [70, 84] ∧
      ∀ c ∈ r.readStore.calls, c.Asserts ∧ 0 ≤ c.removes := by
  obtain ⟨r, hr, h⟩ : ∃ r, (readMachine (recorder (bodySha1 (zeros 64)))).run (.new (zeros readStoreLen) [])
      [.read twoFrames, .pass, .pass, .pass, .readError uvEOF] = some r ∧
        (r.handler.length, r.readStore.removed) = (1, 94) := Option.map_eq_some_iff.1 (by decide +kernel)
  obtain ⟨hlog, hremoved⟩ := Prod.mk.inj h
  have hreceived : receivedBytes [.read twoFrames, .pass, .pass, .pass, .readError uvEOF] = twoFrames :=
    List.append_nil _
  obtain ⟨-, hcalls, -, -, -, hlen, hdata⟩ := read_store_invariant hr
  rw [hreceived, hremoved] at hlen hdata
  have htotal : twoFrames.length = 96 := by decide +kernel
  refine ⟨r, hr, ⟨hlog, hremoved⟩, by omega, ?_, hcalls⟩
  rw [hdata]
  decide +kernel

/-! ### Free space -/

/-- A frame that the store cannot hold, by a length that does not wrap. -/
def APIProtoHeader.Oversized (h : APIProtoHeader) : Prop :=
  10485716 < h.nBodyLen.toNat ∧ h.nBodyLen.toNat < 2 ^ 32 - 44

theorem oversized_iff {h : APIProtoHeader} : h.Oversized ↔ readStoreLen < h.frameLen.toNat := by
  have := h.nBodyLen.toNat_lt
  rw [toNat_frameLen]
  unfold APIProtoHeader.Oversized readStoreLen
  omega

/-- Bytes that fill the store and that the loop waits with. -/
theorem codeCut_full {l : List UInt8} (hl : l.length = readStoreLen) :
    codeCut l = none ↔ (APIProtoHeader.ofBytes l).Oversized := by
  rw [codeCut_eq_none, oversized_iff, hl]
  constructor
  · rintro (h | h)
    · simp [sizeofHeader, readStoreLen] at h
    · exact h
  · intro h
    exact .inr h

theorem run_read_wait {b : Buffer} (h : IsReadStore b) (hfit : (bytes.length : Int) ≤ b.getRemainLen)
    (hc : codeCut (b.data ++ bytes) = none) :
    ∃ r, (readMachine H).run ⟨b, s, false⟩ [.read bytes, .pass] = some r ∧ r.inRecv = false ∧
      r.readStore.getRemainLen = b.getRemainLen - bytes.length := by
  have hwait : onRecvStep H ((b.fill bytes).setDataLen (bytes.length + b.nDataLen)) s = none :=
    (onRecvStep_eq_none (h.read hfit)).2 (h.data_read ▸ hc)
  have hread : readStep H ⟨b, s, false⟩ (.read bytes) =
      some ⟨(b.fill bytes).setDataLen (bytes.length + b.nDataLen), s, true⟩ := if_pos ⟨rfl, hfit⟩
  have hpass : readStep H ⟨(b.fill bytes).setDataLen (bytes.length + b.nDataLen), s, true⟩ .pass =
      some ⟨(b.fill bytes).setDataLen (bytes.length + b.nDataLen), s, false⟩ := by
    simp only [readStep, if_true, hwait]
  refine ⟨_, Machine.run_cons.2 ⟨_, hread, Machine.run_singleton.trans hpass⟩, rfl, ?_⟩
  show b.nBufLen - (bytes.length + b.nDataLen) = b.nBufLen - b.nDataLen - bytes.length
  omega

theorem readStep_full {bytes : List UInt8} (hfull : r.readStore.getRemainLen = 0) (hne : bytes ≠ []) :
    readStep H r (.read bytes) = none := by
  refine if_neg fun h => hne ?_
  have hle : (bytes.length : Int) ≤ r.readStore.getRemainLen := h.2
  rw [hfull] at hle
  exact List.eq_nil_of_length_eq_zero (by omega)

/-- When `AfterRead` has returned there is room for the next read, unless the bytes received end in
10485760 bytes that start, at a place the loop looks at, with the header of an oversized frame. -/
theorem free_space_iff_no_oversized (hr : (readMachine H).run (.new mem s) es = some r)
    (hdone : r.inRecv = false) :
    (0 < r.readStore.getRemainLen ∧ (onAllocBuf r).len ≠ 0) ↔
      ¬ ∃ l, codeCutter.Reaches (receivedBytes es) l ∧ l.length = readStoreLen ∧
        (APIProtoHeader.ofBytes l).Oversized := by
  have h := ReadInv.run hr
  have hwait := h.waits hdone
  have hremain := h.store.remain_nonneg
  have hlen := h.store.length_data
  have hcap := h.store.cap
  show (0 < r.readStore.getRemainLen ∧ r.readStore.getRemainLen ≠ 0) ↔ _
  constructor
  · rintro ⟨hpos, -⟩ ⟨l, hreach, hl, hover⟩
    obtain rfl := hreach.eq_of_waits h.cuts ((codeCut_full hl).2 hover) hwait
    unfold Buffer.getRemainLen at hpos
    omega
  · intro hno
    have hne : r.readStore.getRemainLen ≠ 0 := by
      intro hz
      have hl : r.readStore.data.length = readStoreLen := by
        unfold Buffer.getRemainLen at hz
        omega
      exact hno ⟨_, h.cuts, hl, (codeCut_full hl).1 hwait⟩
    exact ⟨by omega, hne⟩

theorem free_space_after_two_frames :
    ∃ r, (readMachine (recorder (bodySha1 (zeros 64)))).run (.new (zeros readStoreLen) [])
        [.read twoFrames, .pass, .pass, .pass] = some r ∧
      r.readStore.removed = 94 ∧ 0 < r.readStore.getRemainLen ∧ (onAllocBuf r).len ≠ 0 := by
  obtain ⟨r, hr, h⟩ : ∃ r, (readMachine (recorder (bodySha1 (zeros 64)))).run (.new (zeros readStoreLen) [])
      [.read twoFrames, .pass, .pass, .pass] = some r ∧ (r.inRecv, r.readStore.removed) = (false, 94) :=
    Option.map_eq_some_iff.1 (by decide +kernel)
  obtain ⟨hdone, hremoved⟩ := Prod.mk.inj h
  have hreceived : receivedBytes [.read twoFrames, .pass, .pass, .pass] = twoFrames := List.append_nil _
  refine ⟨r, hr, hremoved, (free_space_iff_no_oversized hr hdone).2 ?_⟩
  rintro ⟨l, hreach, hl, -⟩
  rw [hreceived] at hreach
  have hle := (hreach.suffix codeCut_suffix).length_le
  rw [hl] at hle
  exact absurd hle (by decide +kernel)

/-- A frame of one byte more than the store holds. -/
def oversizedHeader : APIProtoHeader := { APIProtoHeader.init with nBodyLen := 10485717 }

/-- All of the frame but its last byte. -/
def oversizedStart : List UInt8 := oversizedHeader.toBytes ++ List.replicate 10485716 0

theorem length_oversizedStart : oversizedStart.length = readStoreLen := by
  rw [oversizedStart, List.length_append, APIProtoHeader.length_toBytes, List.length_replicate]
  rfl

theorem codeCut_oversizedStart : codeCut oversizedStart = none := by
  rw [codeCut_full length_oversizedStart, oversizedStart, APIProtoHeader.ofBytes_toBytes_append]
  exact ⟨by decide, by decide⟩

/-- The store is full of a frame that the loop waits for, libuv is offered a buffer of length zero and
no byte is ever read again. -/
theorem oversized_frame_stalls :
    ∃ r, (readMachine (recorder fun _ => zeros 20)).run (.new (zeros readStoreLen) [])
        [.read oversizedStart, .pass] = some r ∧
      r.inRecv = false ∧ r.readStore.getRemainLen = 0 ∧ (onAllocBuf r).len = 0 ∧
      ∀ bytes, bytes ≠ [] → readStep (recorder fun _ => zeros 20) r (.read bytes) = none := by
  have hnew := IsReadStore.new (zeros readStoreLen)
  have hlen : (oversizedStart.length : Int) = 10485760 := congrArg Int.ofNat length_oversizedStart
  have hroom : (Buffer.new (zeros readStoreLen)).getRemainLen = 10485760 := rfl
  obtain ⟨r, hr, hdone, hremain⟩ := run_read_wait (H := recorder fun _ => zeros 20)
    (s := []) hnew (hlen.trans hroom.symm).le codeCut_oversizedStart
  have hfull : r.readStore.getRemainLen = 0 := by omega
  exact ⟨r, hr, hdone, hfull, hfull, fun bytes hne => readStep_full hfull hne⟩

end
end FutuOpenD

import FutuOpenD.Conversation
import FutuOpenD.Console

/-!
# A session with a server

A server sends frames that hold replies, each encoded in any way that is well formed, frames of a protocol
that the client does not handle, and frames whose digest is wrong. The program reads each of them, prints what it
holds, and starts a session with each response to `InitConnect` that reports success, however the frames
are cut into reads and whatever happens in between (`session_with_server`).
-/

namespace FutuOpenD
open Bytes Runs Framing Fips180 Wire

namespace Reply

/-- What is printed for it. -/
def prints (r : Reply) : List Line :=
  .title r.title :: if r.isInitialized then r.lines else [.parseError r.protoID]

/-- The `S2C` with which it starts a session. -/
def starts : Reply → Option InitConnect.S2C
  | .initConnect rsp =>
    if Generated.isInitialized rsp = true ∧ rsp.getRetType = 0 then
      some ((rsp.s2c.map InitConnect.S2CFields.toS2C).getD ⟨0, 0⟩)
    else none
  | _ => none

end Reply

/-- What a frame is for the client. -/
inductive Served
  | reply (r : Reply)
  | keepAlive
  | unknown
  | corrupt

def Served.prints : Served → List Line
  | .reply r => r.prints
  | .keepAlive => [.title "OnRsp_KeepAlive: "]
  | .unknown => []
  | .corrupt => [.shaCheckFail]

/-- What is to be shown for it. -/
inductive Served.Shows : Served → List Line → Prop
  | reply {r : Reply} {lines : List Line} (hinit : r.isInitialized = true) (hlines : r.Shows lines) :
      Shows (.reply r) (.title r.title :: lines)
  | refused {r : Reply} (hinit : r.isInitialized = false) : Shows (.reply r) [.title r.title, .parseError r.protoID]
  | keepAlive : Shows .keepAlive [.title "OnRsp_KeepAlive: "]
  | unknown : Shows .unknown []
  | corrupt : Shows .corrupt [.shaCheckFail]

def Served.starts : Served → Option InitConnect.S2C
  | .reply r => r.starts
  | _ => none

/-- The sessions that the frames of a server start. -/
def sessionsOf (ms : List Served) : List InitConnect.S2C := ms.filterMap Served.starts

/-- What else the header says does not matter. -/
inductive Serves : Frame → Served → Prop
  | reply {f : Frame} {r : Reply} (hid : f.header.nProtoID = r.protoID)
      (hdigest : f.header.arrBodySHA1 = fipsDigest f.body) (hbody : r.Encodes f.body) : Serves f (.reply r)
  | keepAlive {f : Frame} (hid : f.header.nProtoID = apiProtoIDKeepAlive)
      (hdigest : f.header.arrBodySHA1 = fipsDigest f.body) : Serves f .keepAlive
  | unknown {f : Frame} (hid : f.header.nProtoID ∉ handledProtoIDs)
      (hdigest : f.header.arrBodySHA1 = fipsDigest f.body) : Serves f .unknown
  | corrupt {f : Frame} (hdigest : f.header.arrBodySHA1 ≠ fipsDigest f.body) : Serves f .corrupt

/-- The beginning of a frame that fits the read store. -/
def Unfinished (rest : List UInt8) : Prop :=
  ∃ f : Frame, f.Fits ∧ rest <+: f.toBytes ∧ rest.length < f.toBytes.length

theorem Unfinished.waits {rest : List UInt8} (h : Unfinished rest) : codeCut rest = none := by
  obtain ⟨f, hfits, ⟨m, hm⟩, hlt⟩ := h
  cases hc : codeCut rest with
  | none => rfl
  | some p =>
    -- what was cut would be the frame itself, and nothing be left of it
    have hcut := codeCut_stable (f := p.1) (r := p.2) m hc
    have hwhole := codeCut_toBytes hfits []
    rw [List.append_nil, ← hm, hcut] at hwhole
    have hnil : m = [] := (List.append_eq_nil_iff.1 (Prod.mk.inj (Option.some.inj hwhole)).2).2
    rw [← hm, hnil, List.append_nil] at hlt
    exact absurd hlt (Nat.lt_irrefl _)

section
variable {L : InputLib} {text : List UInt8 → String} {W : Outside} {garbage : Field 64}
variable {f : Frame} {m : Served} {σ : Type} [Generated σ] {body : List UInt8} {header : APIProtoHeader}

theorem toInt32_nBodyLen (f : Frame) : f.header.nBodyLen.toInt32 = Int32.ofNat f.body.length := by
  rw [f.len, ← UInt32.toInt32_ofNat', UInt32.ofNat_toNat]

theorem Frame.Fits.length_lt (hfits : f.Fits) : f.body.length < 2 ^ 31 := by
  have hlen := f.len
  have hle : f.header.nBodyLen.toNat ≤ 10485716 := hfits
  omega

theorem printRsp_of_encodes {title : String} {lines : ResponseFields σ → List Line} {nProtoID : UInt32} (hL : L.Lawful)
    (hdepth : Generated.depth (ResponseFields σ) ≤ 100) {rsp : ResponseFields σ} (hbody : Generated.Encodes rsp body)
    (hlen : body.length < 2 ^ 31) (hid : header.nProtoID = nProtoID) :
    printRsp L title lines header body (Int32.ofNat body.length) [] =
      .title title :: if Generated.isInitialized rsp then lines rsp else [.parseError nProtoID] := by
  unfold printRsp
  rw [Generated.parseFromArray_of_encodes hL hdepth hbody hlen, ← hid]
  split_ifs <;> rfl

theorem Reply.printer_of_encodes (hL : L.Lawful) {r : Reply} (hbody : r.Encodes body) (hlen : body.length < 2 ^ 31)
    (hid : header.nProtoID = r.protoID) :
    handlePacket (printer L) header body (Int32.ofNat body.length) [] = r.prints := by
  rw [handlePacket, hid]
  cases r <;> exact printRsp_of_encodes hL (by decide) hbody hlen hid

theorem real_sha1 (hlen : body.length < 2 ^ 31) : ((W.real garbage).parsing L text).sha1 body = fipsDigest body :=
  bodySha1_eq garbage hlen

theorem Served.shows_prints (m : Served) : m.Shows m.prints := by
  cases m with
  | reply r =>
    show Served.Shows (.reply r) r.prints
    unfold Reply.prints
    split_ifs with hinit
    · exact .reply hinit (Reply.shows_lines hinit)
    · exact .refused (Bool.not_eq_true _ ▸ hinit)
  | keepAlive => exact .keepAlive
  | unknown => exact .unknown
  | corrupt => exact .corrupt

/-- The program prints what the server meant. -/
theorem Serves.frameLines (hL : L.Lawful) (h : Serves f m) (hfits : f.Fits) :
    frameLines L ((W.real garbage).parsing L text) (f.header, f.body) = m.prints := by
  unfold FutuOpenD.frameLines
  rw [real_sha1 hfits.length_lt]
  cases h with
  | reply hid hdigest hbody =>
    rw [if_pos hdigest.symm, toInt32_nBodyLen]
    exact Reply.printer_of_encodes hL hbody hfits.length_lt hid
  | keepAlive hid hdigest =>
    rw [if_pos hdigest.symm, handlePacket, hid]
    rfl
  | unknown hid hdigest =>
    simp only [handledProtoIDs, List.mem_cons, List.not_mem_nil, not_or, or_false] at hid
    rw [if_pos hdigest.symm]
    simp only [handlePacket, hid, if_false]
    rfl
  | corrupt hdigest => exact if_neg hdigest.symm

theorem startsSession_of_id (h : f.header.nProtoID ≠ apiProtoIDInitConnect) :
    startsSession W (f.header, f.body) = none := if_neg fun hf => h hf.2

open InitConnect in
/-- Of the replies, a response to `InitConnect` that reports success starts a session. -/
theorem startsSession_of_reply (hL : L.Lawful) {r : Reply} (hid : f.header.nProtoID = r.protoID)
    (hdigest : f.header.arrBodySHA1 = fipsDigest f.body) (hbody : r.Encodes f.body) (hfits : f.Fits) :
    startsSession ((W.real garbage).parsing L text) (f.header, f.body) = r.starts := by
  cases r with
  | initConnect rsp =>
    have hsha : ((W.real garbage).parsing L text).sha1 f.body = f.header.arrBodySHA1 := by
      rw [real_sha1 hfits.length_lt, hdigest]
    have hparse : ((W.real garbage).parsing L text).parseInitConnect f.body f.header.nBodyLen.toInt32 =
        if Generated.isInitialized rsp then some (rsp.toResponse text) else none := by
      show (Generated.parseFromArray L f.body _).map (ResponseFields.toResponse text) = _
      rw [toInt32_nBodyLen, Generated.parseFromArray_of_encodes hL (by decide) hbody hfits.length_lt]
      split_ifs <;> rfl
    refine Option.ext fun s2c => startsSession_eq_some.trans ?_
    rw [hparse, Reply.starts, Option.ite_none_right_eq_some]
    constructor
    · rintro ⟨-, -, rsp', hrsp, hret, hs2c⟩
      obtain ⟨hinit, hrsp⟩ := Option.ite_none_right_eq_some.1 hrsp
      cases hrsp
      exact ⟨⟨hinit, hret⟩, congrArg some hs2c⟩
    · rintro ⟨⟨hinit, hret⟩, hs2c⟩
      exact ⟨hsha, hid, _, if_pos hinit, hret, Option.some.inj hs2c⟩
  | _ =>
    refine startsSession_of_id ?_
    rw [hid, Reply.protoID]
    decide

theorem Serves.startsSession (hL : L.Lawful) (h : Serves f m) (hfits : f.Fits) :
    startsSession ((W.real garbage).parsing L text) (f.header, f.body) = m.starts := by
  cases h with
  | reply hid hdigest hbody => exact startsSession_of_reply hL hid hdigest hbody hfits
  | keepAlive hid hdigest => exact startsSession_of_id (by rw [hid]; decide)
  | unknown hid hdigest => exact startsSession_of_id fun h => hid (by rw [h]; decide)
  | corrupt hdigest =>
    refine startsSession_of_ne ?_
    rw [real_sha1 hfits.length_lt]
    exact hdigest.symm

theorem served_by (text : List UInt8 → String) (W : Outside) (garbage : Field 64) (hL : L.Lawful) {fs : List Frame}
    {ms : List Served} (h : List.Forall₂ Serves fs ms) (hfits : ∀ f ∈ fs, f.Fits) :
    (fs.map fun f => (f.header, f.body)).filterMap (startsSession ((W.real garbage).parsing L text)) =
        sessionsOf ms ∧
      (fs.map fun f => (f.header, f.body)).flatMap (frameLines L ((W.real garbage).parsing L text)) =
        ms.flatMap Served.prints := by
  induction h with
  | nil => exact ⟨rfl, rfl⟩
  | @cons f m fs ms hf _ ih =>
    obtain ⟨hstarts, hprints⟩ := ih fun g hg => hfits g (by simp [hg])
    have hfit : f.Fits := hfits f (by simp)
    constructor
    · rw [List.map_cons, List.filterMap_cons, hf.startsSession hL hfit, hstarts]
      rfl
    · rw [List.map_cons, List.flatMap_cons, hf.frameLines hL hfit, hprints]
      rfl

variable {mem : Field readStoreLen} {es : List SessionEvent} {s : Session}

/-- The client does with the frames of a server what their replies say. Whenever `OnRecv` has returned, the read
store holds the unfinished frame, the handler has the interval and the user of the last session, the
timer, unless it was initialised again while active, is set to it, apart from failures of the connection the
console shows each frame in turn, and apart from heartbeats the client has sent the three requests for each
session. -/
theorem session_with_server (hL : L.Lawful)
    (hr : (sessionMachine ((W.real garbage).parsing L text)).run (.start ((W.real garbage).parsing L text) mem) es =
      some s)
    (hdone : s.inRecv = false) {fs : List Frame} {ms : List Served} (hserves : List.Forall₂ Serves fs ms)
    (hfits : ∀ f ∈ fs, f.Fits) {rest : List UInt8} (hrest : Unfinished rest)
    (hreceived : receivedInSession es = fs.flatMap Frame.toBytes ++ rest) :
    s.readStore.data = rest ∧
      s.handler.quote = ((sessionsOf ms).getLast?.map QuoteHandler.ofS2C).getD {} ∧
      (Obs.timerInit true ∉ s.handler.net.trace → s.handler.net.keepAliveTimer.PacedBy (sessionsOf ms)) ∧
      (∃ blocks, List.Forall₂ Served.Shows ms blocks ∧
        (s.handler.net.console L).filter (fun line => !line.isReport) = blocks.flatten) ∧
      ∃ rs, s.handler.net.packets = numbered ((W.real garbage).parsing L text) 1 rs ∧
        rs.filter (fun r => !r.isKeepAlive) = .initConnect ⟨100, "demo", some true⟩ ::
          (sessionsOf ms).flatMap startRequests := by
  obtain ⟨taken, h⟩ := Follows.run hr
  have hdrains : codeCutter.Drains (receivedInSession es) (fs.map fun f => (f.header, f.body)) rest := by
    rw [hreceived]
    exact Cutter.Drains.flatMap (fun f hf m => codeCut_toBytes (hfits f hf) m) hrest.waits
  obtain ⟨rfl, hdata⟩ := (h.taken.drains (h.waits hdone)).det hdrains
  obtain ⟨hstarts, hprints⟩ := served_by text W garbage hL hserves hfits
  have hser : ∀ r, ClientRequest r → (((W.real garbage).parsing L text).pb r).serializeToString.isSome :=
    fun r hr => show ((W.real garbage).pb r).serializeToString.isSome from real_serializes r hr
  obtain ⟨ws, href⟩ := refines_run hser hr
  have hquote := h.quote
  have htimer := h.timer
  have hrequests := h.requests
  rw [QuoteHandler.after, hstarts] at hquote
  rw [hstarts] at htimer
  rw [flatMap_answers, hstarts] at hrequests
  have hshown : ∃ blocks, List.Forall₂ Served.Shows ms blocks ∧
      (s.handler.net.console L).filter (fun line => !line.isReport) = blocks.flatten := by
    refine ⟨ms.map Served.prints, forall₂_map fun m _ => Served.shows_prints m, ?_⟩
    rw [h.console, hprints, List.flatMap_def]
  refine ⟨hdata, hquote, fun _ => htimer, hshown, _, href.packets, ?_⟩
  rw [allRequests, List.filter_cons_of_pos (by rfl), hrequests]

/-- The reads of a session are those of its receive path. -/
theorem run_recv (es : List ReadEvent) (s : Session) :
    (sessionMachine W).run s (es.map .recv) = (readMachine (Client.recvHandler W)).run s es := by
  induction es generalizing s with
  | nil => rfl
  | cons e es ih =>
    rw [List.map_cons, Machine.run, Machine.run]
    exact congrArg _ (funext ih)

/-- A stream that is not too long can come in one read, which the loop then works through. -/
theorem exists_session (mem : Field readStoreLen) {stream rest : List UInt8} {os : List (APIProtoHeader × List UInt8)}
    (hd : codeCutter.Drains stream os rest) (hlen : stream.length ≤ readStoreLen) :
    ∃ es s, (sessionMachine W).run (.start W mem) es = some s ∧ s.inRecv = false ∧ receivedInSession es = stream := by
  have hroom : (stream.length : Int) ≤ (Buffer.new mem).getRemainLen := Int.ofNat_le.2 hlen
  have hdata : codeCutter.Drains ((Buffer.new mem).data ++ stream) os rest := by
    rw [Buffer.new_data, List.nil_append]
    exact hd
  obtain ⟨b, hreceive, -, -⟩ := receive_of_drains (H := Client.recvHandler W) (s := (Session.start W mem).handler)
    (IsReadStore.new mem) hroom hdata
  obtain ⟨k, hrun⟩ := run_receive hroom hreceive
  refine ⟨_, _, (run_recv _ _).trans hrun, rfl, ?_⟩
  rw [List.map_cons, receivedInSession, List.flatMap_cons, List.map_replicate]
  have hpasses : (List.replicate k (SessionEvent.recv .pass)).flatMap SessionEvent.receivedBytes = [] := by
    refine List.flatMap_eq_nil_iff.2 fun e he => ?_
    rw [List.eq_of_mem_replicate he]
    rfl
  rw [hpasses, List.append_nil]
  exact List.append_nil stream

/-- A success, an update of the order book, a copy of it with a wrong digest, and the beginning of a frame. -/
def serverStream : List UInt8 := initConnectRsp 10 ++ bookStream ++ (initConnectRsp 10).take 50

/-- The stream comes in two reads, with a completed write and a heartbeat in between. -/
def serverReads : List SessionEvent :=
  [.recv (.read (serverStream.take 70)), .recv .pass, .recv .pass, .afterWrite 0, .keepAliveTimer 1600000000,
    .recv (.read (serverStream.drop 70)), .recv .pass, .recv .pass, .recv .pass]

theorem session_with_server_book :
    ∃ s, (sessionMachine .program).run (.start .program (zeros readStoreLen)) serverReads = some s ∧
      s.readStore.data = (initConnectRsp 10).take 50 ∧ s.handler.quote = ⟨10, 7⟩ ∧
      s.handler.net.keepAliveTimer.PacedBy [⟨7, 10⟩] ∧
      (s.handler.net.console .plain).filter (fun line => !line.isReport) = [.title "OnRsp_InitConnect: ", .ret 0 [],
        .title "OnRsp_Qot_UpdateOrderBook:", .ret 0 [], .price 4673025355964208906, .shaCheckFail] ∧
      ∃ blocks, List.Forall₂ Served.Shows [.reply .success, .reply bookUpdate, .corrupt] blocks ∧
        (s.handler.net.console .plain).filter (fun line => !line.isReport) = blocks.flatten := by
  obtain ⟨s, hr, hresult⟩ : ∃ s, (sessionMachine .program).run (.start .program (zeros readStoreLen)) serverReads =
      some s ∧ (s.inRecv, decide (Obs.timerInit true ∈ s.handler.net.trace),
        (s.handler.net.console .plain).filter fun line => !line.isReport) = (false, false,
          [.title "OnRsp_InitConnect: ", .ret 0 [], .title "OnRsp_Qot_UpdateOrderBook:", .ret 0 [],
            .price 4673025355964208906, .shaCheckFail]) := Option.map_eq_some_iff.1 (by decide +kernel)
  simp only [Prod.mk.injEq, decide_eq_false_iff_not] at hresult
  obtain ⟨hdone, hinit, hlines⟩ := hresult
  have hbook : (encode bookUpdate.records).length < 2 ^ 31 := by
    rw [length_bookUpdate]
    decide
  have hsuccess : (encode Reply.success.records).length < 2 ^ 31 := by
    rw [Reply.length_encode_success]
    decide
  let f : Frame := ⟨Reply.success.header, encode Reply.success.records, by decide +kernel⟩
  have hf : f.Fits := show f.header.nBodyLen.toNat ≤ 10485716 by decide +kernel
  have hserves : List.Forall₂ Serves [f, bookFrame (bodySha1 (zeros 64) (encode bookUpdate.records)),
      bookFrame (zeros 20)] [.reply .success, .reply bookUpdate, .corrupt] := by
    refine .cons (.reply rfl (bodySha1_eq _ hsuccess) (Reply.encodes_records hsuccess))
      (.cons (.reply rfl (bodySha1_eq _ hbook) (Reply.encodes_records hbook)) (.cons (.corrupt ?_) .nil))
    show zeros 20 ≠ fipsDigest (encode bookUpdate.records)
    decide +kernel
  have hrest : Unfinished ((initConnectRsp 10).take 50) := ⟨f, hf, List.take_prefix .., by decide +kernel⟩
  obtain ⟨hdata, hquote, htimer, hshown, -⟩ := session_with_server InputLib.plain_lawful hr hdone hserves
    (by simpa [fits_bookFrame] using hf) hrest (by decide +kernel)
  exact ⟨s, hr, hdata, hquote, htimer hinit, hlines, hshown⟩

end
end FutuOpenD

import FutuOpenD.Reassembly
import FutuOpenD.SessionWrites

/-!
# A session as a reader of what the server sends

`Follows` ties a session to the bytes it has received: the frames handed to `HandlePacket`, the requests
that are not heartbeats, the members of `QuoteHandler` and the period of the timer are all given by the
frames that were taken off the stream. When `OnRecv` has returned and the headers fit, these are the frames of the
reference parse of all bytes received, whatever else happened in between (`session_reads_reference`).
-/

namespace FutuOpenD
open Bytes Runs Framing

def SessionEvent.receivedBytes : SessionEvent → List UInt8
  | .recv e => FutuOpenD.receivedBytes [e]
  | _ => []

/-- What has come from the server. -/
def receivedInSession (es : List SessionEvent) : List UInt8 := es.flatMap SessionEvent.receivedBytes

def Obs.toFrame : Obs → Option (APIProtoHeader × List UInt8)
  | .frame header pBody => some (header, pBody)
  | _ => none

/-- The calls of `HandlePacket`. -/
def NetCenter.frames (n : NetCenter) : List (APIProtoHeader × List UInt8) := n.trace.filterMap Obs.toFrame

/-- Notes of what became of a frame. -/
def Obs.isRead : Obs → Bool
  | .frame _ _ => true
  | .shaCheckFail => true
  | .parseError _ => true
  | .ret _ _ => true
  | _ => false

/-- Notes of what the handlers parsed. -/
def Obs.isNote : Obs → Bool
  | .parseError _ => true
  | .ret _ _ => true
  | _ => false

def NetCenter.reads (n : NetCenter) : List Obs := n.trace.filter Obs.isRead

def readNote (nProtoID : UInt32) : Option Response → Obs
  | none => .parseError nProtoID
  | some rsp => .ret rsp.retType rsp.retMsg

/-- A handler that only notes what it parses with `parse`. -/
def noteRsp (parse : List UInt8 → Int32 → Option Response) (header : APIProtoHeader) (pData : List UInt8) (nLen : Int32)
    (out : List Obs) : List Obs :=
  out ++ [readNote header.nProtoID (parse pData nLen)]

/-- What the response to `InitConnect` has in common with the others. -/
def Outside.parseInitConnectRet (W : Outside) (pData : List UInt8) (nLen : Int32) : Option Response :=
  (W.parseInitConnect pData nLen).map fun rsp => ⟨rsp.retType, rsp.retMsg⟩

/-- What the handlers of `QuoteHandler` note. -/
def noting (W : Outside) : IProtoHandler (List Obs) where
  onRspInitConnect := noteRsp W.parseInitConnectRet
  onRspKeepAlive := fun _ _ _ out => out
  onRspGetGlobalState := noteRsp (W.parseResponse apiProtoIDGlobalState)
  onRspQotSub := noteRsp (W.parseResponse apiProtoIDQotSub)
  onRspQotRegQotPush := noteRsp (W.parseResponse apiProtoIDQotRegQotPush)
  onRspQotUpdateTicker := noteRsp (W.parseResponse apiProtoIDQotUpdateTicker)
  onRspQotUpdateBroker := noteRsp (W.parseResponse apiProtoIDQotUpdateBroker)
  onRspQotUpdateOrderBook := noteRsp (W.parseResponse apiProtoIDQotUpdateOrderBook)

/-- What is noted of a frame that is taken off the stream. -/
def frameReads (W : Outside) (f : APIProtoHeader × List UInt8) : List Obs :=
  if W.sha1 f.2 = f.1.arrBodySHA1 then .frame f.1 f.2 :: handlePacket (noting W) f.1 f.2 f.1.nBodyLen.toInt32 []
  else [.shaCheckFail]

def Request.isKeepAlive : Request → Bool
  | .keepAlive _ => true
  | _ => false

/-- The requests that a frame leads to. -/
def answers (W : Outside) (f : APIProtoHeader × List UInt8) : List Request :=
  ((startsSession W f).map startRequests).getD []

/-- What `OnRsp_InitConnect` keeps of a response. -/
def QuoteHandler.ofS2C (s2c : InitConnect.S2C) : QuoteHandler := ⟨s2c.keepAliveInterval, s2c.loginUserID⟩

/-- The members after the frames `fs`: those of the last response that starts a session. -/
def QuoteHandler.after (W : Outside) (fs : List (APIProtoHeader × List UInt8)) : QuoteHandler :=
  ((fs.filterMap (startsSession W)).getLast?.map QuoteHandler.ofS2C).getD {}

/-- The timer after responses with which sessions start: off before the first of them, and then set to
the interval of the last, active unless that comes to a period of 0. -/
def UvTimer.PacedBy (t : UvTimer) (starts : List InitConnect.S2C) : Prop :=
  match starts.getLast? with
  | none => t = ⟨false, 0, 0⟩
  | some s2c => t.timeout = Client.beatPeriod s2c.keepAliveInterval ∧
      t.repeatTime = Client.beatPeriod s2c.keepAliveInterval ∧ (t.repeatTime ≠ 0 → t.active = true)

section
variable {W : Outside} {f : APIProtoHeader × List UInt8} {fs : List (APIProtoHeader × List UInt8)}
variable {s s' start : Session} {e : SessionEvent} {es : List SessionEvent} {c c' : Client} {n : NetCenter}

theorem receivedInSession_snoc (es : List SessionEvent) (e : SessionEvent) :
    receivedInSession (es ++ [e]) = receivedInSession es ++ e.receivedBytes := by
  rw [receivedInSession, List.flatMap_append, List.flatMap_singleton]
  rfl

/-- The digest is part of what starts a session. -/
theorem startsSession_of_ne (h : W.sha1 f.2 ≠ f.1.arrBodySHA1) : startsSession W f = none :=
  if_neg fun hf => h hf.1

theorem flatMap_answers (fs : List (APIProtoHeader × List UInt8)) :
    fs.flatMap (answers W) = (fs.filterMap (startsSession W)).flatMap startRequests := by
  induction fs with
  | nil => rfl
  | cons f fs ih =>
    rw [List.flatMap_cons, ih, answers]
    cases h : startsSession W f with
    | none => rw [List.filterMap_cons_none h]; rfl
    | some s2c => rw [List.filterMap_cons_some h, List.flatMap_cons]; rfl

namespace QuoteHandler

theorem after_snoc (fs : List (APIProtoHeader × List UInt8)) (f : APIProtoHeader × List UInt8) :
    after W (fs ++ [f]) = ((startsSession W f).map ofS2C).getD (after W fs) := by
  cases h : startsSession W f with
  | none => simp [after, h]
  | some s2c => simp [after, h]

end QuoteHandler

namespace UvTimer
variable {t : UvTimer} {starts : List InitConnect.S2C}

theorem pacedBy_snoc (starts : List InitConnect.S2C) (s2c : InitConnect.S2C) :
    PacedBy ⟨true, Client.beatPeriod s2c.keepAliveInterval, Client.beatPeriod s2c.keepAliveInterval⟩
      (starts ++ [s2c]) := by
  rw [PacedBy, List.getLast?_concat]
  exact ⟨rfl, rfl, fun _ => rfl⟩

/-- Firing does not change what the timer is set to. -/
theorem PacedBy.fire (h : t.PacedBy starts) (hactive : t.active = true) :
    PacedBy { t with active := decide (t.repeatTime ≠ 0) } starts := by
  unfold PacedBy at h ⊢
  cases hlast : starts.getLast? with
  | none =>
    rw [hlast] at h
    dsimp only at h
    rw [h] at hactive
    cases hactive
  | some s2c =>
    rw [hlast] at h
    obtain ⟨htimeout, hrepeat, -⟩ := h
    exact ⟨htimeout, hrepeat, fun hne => decide_eq_true hne⟩

end UvTimer

/-- Neither is anything noted of a frame nor a member of the handler changed. -/
structure SameReads (c c' : Client) : Prop where
  reads : c'.net.reads = c.net.reads
  quote : c'.quote = c.quote

namespace NetCenter
variable {n' : NetCenter} {l : List Obs}

theorem frames_eq (n : NetCenter) : n.frames = n.reads.filterMap Obs.toFrame := by
  rw [frames, reads, List.filterMap_filter]
  refine List.filterMap_congr fun o _ => ?_
  cases o <;> rfl

theorem reads_of_trace (htrace : n'.trace = n.trace ++ l) (hl : ∀ o ∈ l, o.isRead = false) : n'.reads = n.reads := by
  have hnil : l.filter Obs.isRead = [] := List.filter_eq_nil_iff.2 fun o ho => by rw [hl o ho]; exact Bool.false_ne_true
  rw [reads, htrace, List.filter_append, hnil]
  exact List.append_nil _

theorem reads_observe (n : NetCenter) (o : Obs) : (n.observe o).reads = n.reads ++ [o].filter Obs.isRead :=
  List.filter_append ..

theorem reads_send (nProtoID : UInt32) (pbObj : PbMessage) (n : NetCenter) :
    (send W nProtoID pbObj n).2.reads = n.reads := by
  refine reads_of_trace send_trace fun o ho => ?_
  obtain ⟨header, packetData, rfl, -⟩ := mem_sendObs ho
  rfl

theorem reads_afterWrite (status : Int) (n : NetCenter) : (n.afterWrite W status).reads = n.reads := by
  unfold afterWrite
  dsimp only
  split
  · rfl
  · next call hcall =>
    obtain ⟨nErr, rfl⟩ := TcpConnect.afterWrite_call hcall
    exact (reads_observe _ (.netError nErr)).trans (List.append_nil _)

end NetCenter

theorem SameReads.observe {o : Obs} (c : Client) (ho : o.isRead = false) : SameReads c (c.observe o) :=
  ⟨NetCenter.reads_of_trace rfl (by simpa using ho), rfl⟩

theorem reads_startSession (s2c : InitConnect.S2C) (c : Client) :
    (c.startSession W s2c).net.reads = c.net.reads := by
  show (NetCenter.send W _ _ (NetCenter.send W _ _ (NetCenter.send W _ _
    (c.net.startKeepAliveTimer _)).2).2).2.reads = _
  rw [NetCenter.reads_send, NetCenter.reads_send, NetCenter.reads_send]
  exact NetCenter.reads_of_trace (NetCenter.startKeepAliveTimer_trace _) (by simp [Obs.isRead])

section
variable (header : APIProtoHeader) (pData : List UInt8) (nLen : Int32) (c : Client)

theorem onRspPrint_reads (nProtoID : UInt32) : (c.onRspPrint W nProtoID header pData nLen).net.reads =
    c.net.reads ++ noteRsp (W.parseResponse nProtoID) header pData nLen [] := by
  unfold Client.onRspPrint noteRsp
  cases W.parseResponse nProtoID pData nLen with
  | none => exact NetCenter.reads_observe ..
  | some rsp => exact NetCenter.reads_observe ..

theorem onRspInitConnect_reads : (c.onRspInitConnect W header pData nLen).net.reads =
    c.net.reads ++ (noting W).onRspInitConnect header pData nLen [] := by
  unfold Client.onRspInitConnect noting noteRsp Outside.parseInitConnectRet
  dsimp only
  cases W.parseInitConnect pData nLen with
  | none => exact NetCenter.reads_observe ..
  | some rsp =>
    have hret : (c.observe (.ret rsp.retType rsp.retMsg)).net.reads = c.net.reads ++ [.ret rsp.retType rsp.retMsg] :=
      NetCenter.reads_observe ..
    dsimp only
    split_ifs
    · exact hret
    · exact (reads_startSession ..).trans hret

/-- The handlers that `main` installs note what `noting` says. -/
theorem handlePacket_reads : (handlePacket (quoteHandler W) header pData nLen c).net.reads =
    c.net.reads ++ handlePacket (noting W) header pData nLen [] := by
  unfold handlePacket
  split_ifs
  · exact onRspInitConnect_reads ..
  · exact onRspPrint_reads ..
  · exact onRspPrint_reads ..
  · exact onRspPrint_reads ..
  · exact onRspPrint_reads ..
  · exact (List.append_nil _).symm
  · exact onRspPrint_reads ..
  · exact onRspPrint_reads ..
  · exact (List.append_nil _).symm

theorem onRspPrint_quote (nProtoID : UInt32) : (c.onRspPrint W nProtoID header pData nLen).quote = c.quote := by
  unfold Client.onRspPrint
  split <;> rfl

theorem handlePacket_quote (hid : header.nProtoID ≠ apiProtoIDInitConnect) :
    (handlePacket (quoteHandler W) header pData nLen c).quote = c.quote := by
  unfold handlePacket
  rw [if_neg hid]
  split_ifs
  · exact onRspPrint_quote ..
  · exact onRspPrint_quote ..
  · exact onRspPrint_quote ..
  · exact onRspPrint_quote ..
  · rfl
  · exact onRspPrint_quote ..
  · exact onRspPrint_quote ..
  · rfl

end

theorem handleFrame_reads (f : APIProtoHeader × List UInt8) (c : Client) :
    (handleFrame (Client.recvHandler W) c f).net.reads = c.net.reads ++ frameReads W f := by
  unfold frameReads
  split_ifs with hsha
  · have hframe : (c.observe (.frame f.1 f.2)).net.reads = c.net.reads ++ [.frame f.1 f.2] :=
      NetCenter.reads_observe ..
    rw [handleFrame_of_eq hsha, ← List.singleton_append, ← List.append_assoc, ← hframe]
    exact handlePacket_reads ..
  · rw [handleFrame_of_ne hsha]
    exact NetCenter.reads_observe ..

/-- The handler keeps something of a frame if it starts a session. -/
theorem handleFrame_quote (f : APIProtoHeader × List UInt8) (c : Client) :
    (handleFrame (Client.recvHandler W) c f).quote = ((startsSession W f).map QuoteHandler.ofS2C).getD c.quote := by
  cases hf : startsSession W f with
  | some s2c =>
    obtain ⟨msg, hmsg⟩ := handleFrame_starts hf c
    rw [hmsg]
    rfl
  | none =>
    by_cases hsha : W.sha1 f.2 = f.1.arrBodySHA1
    · rw [handleFrame_of_eq hsha]
      by_cases hid : f.1.nProtoID = apiProtoIDInitConnect
      · show (handlePacket (quoteHandler W) f.1 f.2 f.1.nBodyLen.toInt32 (c.observe (.frame f.1 f.2))).quote = c.quote
        rw [handlePacket, if_pos hid]
        show (Client.onRspInitConnect W f.1 f.2 f.1.nBodyLen.toInt32 (c.observe (.frame f.1 f.2))).quote = c.quote
        unfold Client.onRspInitConnect
        split
        · rfl
        · next rsp hrsp =>
          have hret : rsp.retType ≠ 0 := fun hret => by
            have hs := startsSession_eq_some.2 ⟨hsha, hid, rsp, hrsp, hret, rfl⟩
            rw [hf] at hs
            cases hs
          dsimp only
          rw [if_pos hret]
          rfl
      · exact handlePacket_quote _ _ _ (c.observe (.frame f.1 f.2)) hid
    · rw [handleFrame_of_ne hsha]
      rfl

theorem isNote_noteRsp {o : Obs} {parse : List UInt8 → Int32 → Option Response} {header : APIProtoHeader}
    {pData : List UInt8} {nLen : Int32} (ho : o ∈ noteRsp parse header pData nLen []) : o.isNote = true := by
  rw [List.mem_singleton.1 ho]
  cases parse pData nLen <;> rfl

theorem isNote_noting {o : Obs} {header : APIProtoHeader} {pData : List UInt8} {nLen : Int32}
    (ho : o ∈ handlePacket (noting W) header pData nLen []) : o.isNote = true := by
  unfold handlePacket at ho
  split_ifs at ho
  · exact isNote_noteRsp ho
  · exact isNote_noteRsp ho
  · exact isNote_noteRsp ho
  · exact isNote_noteRsp ho
  · exact isNote_noteRsp ho
  · cases ho
  · exact isNote_noteRsp ho
  · exact isNote_noteRsp ho
  · cases ho

/-- The frames with the right digest are handed out. -/
theorem toFrame_frameReads (f : APIProtoHeader × List UInt8) :
    (frameReads W f).filterMap Obs.toFrame = [f].filter fun p => W.sha1 p.2 = p.1.arrBodySHA1 := by
  unfold frameReads
  split_ifs with hsha
  · have hnotes : (handlePacket (noting W) f.1 f.2 f.1.nBodyLen.toInt32 []).filterMap Obs.toFrame = [] := by
      refine List.filterMap_eq_nil_iff.2 fun o ho => ?_
      have hnote := isNote_noting ho
      cases o <;> first | rfl | cases hnote
    have hfilter : [f].filter (fun p => W.sha1 p.2 = p.1.arrBodySHA1) = [f] :=
      List.filter_cons_of_pos (decide_eq_true hsha)
    rw [hfilter]
    exact congrArg (f :: ·) hnotes
  · have hfilter : [f].filter (fun p => W.sha1 p.2 = p.1.arrBodySHA1) = [] :=
      List.filter_cons_of_neg (by rw [decide_eq_true_eq]; exact hsha)
    rw [hfilter]
    rfl

theorem toFrame_flatMap (fs : List (APIProtoHeader × List UInt8)) :
    (fs.flatMap (frameReads W)).filterMap Obs.toFrame = fs.filter fun p => W.sha1 p.2 = p.1.arrBodySHA1 := by
  induction fs with
  | nil => rfl
  | cons f fs ih =>
    rw [List.flatMap_cons, List.filterMap_append, toFrame_frameReads, ih, ← List.filter_append, List.singleton_append]

/-- The session after the events `es`, which took the frames `fs` off the stream. -/
structure Follows (W : Outside) (start : Session) (es : List SessionEvent) (s : Session)
    (fs : List (APIProtoHeader × List UInt8)) : Prop where
  store : IsReadStore s.readStore
  taken : codeCutter.Takes (receivedInSession es) fs s.readStore.data
  waits : s.inRecv = false → codeCut s.readStore.data = none
  reads : s.handler.net.reads = fs.flatMap (frameReads W)
  quote : s.handler.quote = .after W fs
  timer : s.handler.net.keepAliveTimer.PacedBy (fs.filterMap (startsSession W))
  requests : ((sessionMachine W).outputs (emits W) start es).filter (fun r => !r.isKeepAlive) = fs.flatMap (answers W)

namespace Follows

theorem frames (h : Follows W start es s fs) :
    s.handler.net.frames = fs.filter fun p => W.sha1 p.2 = p.1.arrBodySHA1 := by
  rw [NetCenter.frames_eq, h.reads, toFrame_flatMap]

/-- A step that takes no frame. -/
theorem keep (h : Follows W start es s fs) (hr : (sessionMachine W).run start es = some s)
    (hs : (sessionMachine W).step s e = some s') (hstore : IsReadStore s'.readStore)
    (hdata : s'.readStore.data = s.readStore.data ++ e.receivedBytes)
    (hwaits : s'.inRecv = false → codeCut s'.readStore.data = none) (hsame : SameReads s.handler s'.handler)
    (htimer : s'.handler.net.keepAliveTimer.PacedBy (fs.filterMap (startsSession W)))
    (hemits : (emits W s e).filter (fun r => !r.isKeepAlive) = []) : Follows W start (es ++ [e]) s' fs := by
  refine ⟨hstore, ?_, hwaits, hsame.reads.trans h.reads, hsame.quote.trans h.quote, htimer, ?_⟩
  · rw [receivedInSession_snoc, hdata]
    exact h.taken.append _
  · rw [Machine.outputs_snoc hr hs, List.filter_append, h.requests, hemits, List.append_nil]

theorem step (h : Follows W start es s fs) (hr : (sessionMachine W).run start es = some s)
    (hs : (sessionMachine W).step s e = some s') : ∃ fs', Follows W start (es ++ [e]) s' fs' := by
  have hstep : sessionStep W s e = some s' := hs
  cases e with
  | recv e =>
    cases readStep_cases h.store hstep with
    | read bytes hidle hfit =>
      refine ⟨fs, h.keep hr hs (h.store.read hfit) ?_ nofun ⟨rfl, rfl⟩ h.timer rfl⟩
      rw [h.store.data_read]
      exact congrArg _ (List.append_nil bytes).symm
    | readError nread hidle c hcall =>
      rcases hcall with rfl | rfl
      · exact ⟨fs, h.keep hr hs h.store (List.append_nil _).symm h.waits
          (.observe (o := .disconnected) s.handler rfl) h.timer rfl⟩
      · exact ⟨fs, h.keep hr hs h.store (List.append_nil _).symm h.waits
          (.observe (o := .netError nread) s.handler rfl) h.timer rfl⟩
    | wait hrecv hc =>
      refine ⟨fs, h.keep hr hs h.store (List.append_nil _).symm (fun _ => hc) ⟨rfl, rfl⟩ h.timer ?_⟩
      rw [emits_pass, startedBy, hrecv, hc]
      rfl
    | frame f rest hrecv hc =>
      obtain ⟨hok, hdata⟩ := h.store.pass hc
      refine ⟨fs ++ [f], hok, ?_, ?_, ?_, ?_, ?_, ?_⟩
      · show codeCutter.Takes (receivedInSession (es ++ [.recv .pass])) (fs ++ [f])
          (s.readStore.removeFront f.1.frameLen.toInt32.toInt).data
        rw [hdata, receivedInSession_snoc]
        exact (h.taken.append []).trans (by rw [List.append_nil]; exact .next hc .refl)
      · intro hidle
        rw [hrecv] at hidle
        cases hidle
      · rw [List.flatMap_append, List.flatMap_singleton, ← h.reads]
        exact handleFrame_reads f s.handler
      · rw [QuoteHandler.after_snoc, ← h.quote]
        exact handleFrame_quote f s.handler
      · show (handleFrame (Client.recvHandler W) s.handler f).net.keepAliveTimer.PacedBy _
        rw [List.filterMap_append]
        cases hf : startsSession W f with
        | none =>
          rw [(handleFrame_notes hf s.handler).timer, List.filterMap_cons_none hf, List.filterMap_nil, List.append_nil]
          exact h.timer
        | some s2c =>
          obtain ⟨msg, hmsg⟩ := handleFrame_starts hf s.handler
          rw [hmsg, Client.startSession_keepAliveTimer, List.filterMap_cons_some hf, List.filterMap_nil]
          exact UvTimer.pacedBy_snoc _ s2c
      · rw [Machine.outputs_snoc hr hs, List.filter_append, h.requests, List.flatMap_append, List.flatMap_singleton,
          emits_pass, startedBy_pass hrecv hc, answers]
        cases startsSession W f with
        | none => rfl
        | some s2c => rfl
  | afterWrite status =>
    obtain ⟨-, hr'⟩ := Option.ite_none_right_eq_some.1 hstep
    cases hr'
    have htimer := (afterWrite_notes (W := W) status s.handler.net).timer
    refine ⟨fs, h.keep hr hs h.store (List.append_nil _).symm h.waits ⟨NetCenter.reads_afterWrite status _, rfl⟩ ?_ rfl⟩
    dsimp only
    rw [htimer]
    exact h.timer
  | keepAliveTimer now =>
    obtain ⟨⟨-, hactive⟩, hr'⟩ := Option.ite_none_right_eq_some.1 hstep
    cases hr'
    refine ⟨fs, h.keep hr hs h.store (List.append_nil _).symm h.waits ⟨NetCenter.reads_send _ _ _, rfl⟩ ?_ rfl⟩
    have htimer : (s.handler.net.runTimer W now).keepAliveTimer =
        { s.handler.net.keepAliveTimer with active := decide (s.handler.net.keepAliveTimer.repeatTime ≠ 0) } :=
      NetCenter.send_keepAliveTimer
    dsimp only
    rw [htimer]
    exact h.timer.fire hactive

end Follows

variable {mem : Field readStoreLen}

theorem Follows.run (hr : (sessionMachine W).run (.start W mem) es = some s) :
    ∃ fs, Follows W (.start W mem) es s fs := by
  obtain ⟨-, h⟩ := Machine.run_events
    (J := fun l s => (sessionMachine W).run (.start W mem) l = some s ∧ ∃ fs, Follows W (.start W mem) l s fs)
    (fun l s e s' h hs => by
      obtain ⟨hr, fs, h⟩ := h
      exact ⟨Machine.run_append.2 ⟨s, hr, Machine.run_singleton.trans hs⟩, h.step hr hs⟩)
    ⟨rfl, [], IsReadStore.new mem, .refl, fun _ => rfl, NetCenter.reads_send _ _ _, rfl,
      NetCenter.send_keepAliveTimer, rfl⟩ hr
  exact h

/-- As long as the headers fit, the loop cuts the stream like the reference parser. -/
theorem drains_refParser {stream : List UInt8} (h : HeadersFit stream) :
    codeCutter.Drains stream (refParser.parse stream).1 (refParser.parse stream).2 :=
  Cutter.Drains.congr (c := refParser.toCutter) (fun l hl => codeCut_eq_refCut (h l hl)) (refParser.parse_drains stream)

end
end FutuOpenD

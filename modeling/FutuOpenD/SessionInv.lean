import FutuOpenD.Session
import FutuOpenD.Surroundings

/-!
# What one step of a session can do

`startsSession` says which frames start a session: the response to `InitConnect` with the right
digest that parses and reports success. Everything else that happens, the timer apart, only adds
notes to the trace that are neither packets nor timer calls (`OnlyNotes`). `sessionStep_cases` says
so for a step, and the invariants of whole runs are derived from it.
-/

namespace FutuOpenD
open Bytes Runs Framing

/-- Neither a packet nor a call that concerns the timer. -/
def Obs.Quiet : Obs → Prop
  | .packet _ _ => False
  | .timerInit _ => False
  | .timerStart _ _ => False
  | _ => True

/-- The `S2C` of a frame that is a successful response to `InitConnect` with the right digest. -/
def startsSession (W : Outside) (f : APIProtoHeader × List UInt8) : Option InitConnect.S2C :=
  if W.sha1 f.2 = f.1.arrBodySHA1 ∧ f.1.nProtoID = apiProtoIDInitConnect then
    match W.parseInitConnect f.2 f.1.nBodyLen.toInt32 with
    | none => none
    | some rsp => if rsp.retType = 0 then some rsp.getS2C else none
  else none

/-- From `n` to `n'` the timer and the serial number stay and the trace grows by quiet notes. -/
structure OnlyNotes (n n' : NetCenter) : Prop where
  timer : n'.keepAliveTimer = n.keepAliveTimer
  packetNo : n'.nNextPacketNo = n.nNextPacketNo
  trace : ∃ l, n'.trace = n.trace ++ l ∧ ∀ o ∈ l, o.Quiet

namespace OnlyNotes
variable {n n' n'' : NetCenter} {o : Obs}

theorem of_eq (htimer : n'.keepAliveTimer = n.keepAliveTimer) (hno : n'.nNextPacketNo = n.nNextPacketNo)
    (htrace : n'.trace = n.trace) : OnlyNotes n n' :=
  ⟨htimer, hno, [], by rw [htrace, List.append_nil], by simp⟩

theorem observe (n : NetCenter) (ho : o.Quiet) : OnlyNotes n (n.observe o) :=
  ⟨rfl, rfl, [o], rfl, by simpa using ho⟩

theorem trans (h : OnlyNotes n n') (h' : OnlyNotes n' n'') : OnlyNotes n n'' := by
  obtain ⟨l, hl, hq⟩ := h.trace
  obtain ⟨l', hl', hq'⟩ := h'.trace
  refine ⟨h'.timer.trans h.timer, h'.packetNo.trans h.packetNo, l ++ l', ?_, ?_⟩
  · rw [hl', hl, List.append_assoc]
  · exact List.forall_mem_append.2 ⟨hq, hq'⟩

theorem packets (h : OnlyNotes n n') : n'.packets = n.packets := by
  obtain ⟨l, hl, hq⟩ := h.trace
  unfold NetCenter.packets
  rw [hl, List.filterMap_append]
  refine (congrArg _ (List.filterMap_eq_nil_iff.2 fun o ho => ?_)).trans (List.append_nil _)
  have := hq o ho
  cases o with
  | packet header packetData => exact absurd this id
  | _ => rfl

theorem onRspPrint (W : Outside) (nProtoID : UInt32) (header : APIProtoHeader) (pData : List UInt8)
    (nLen : Int32) (c : Client) : OnlyNotes c.net (c.onRspPrint W nProtoID header pData nLen).net := by
  unfold Client.onRspPrint
  split <;> exact observe _ trivial

theorem handlePacket {W : Outside} {header : APIProtoHeader} (hid : header.nProtoID ≠ apiProtoIDInitConnect)
    (pData : List UInt8) (nLen : Int32) (c : Client) :
    OnlyNotes c.net (handlePacket (quoteHandler W) header pData nLen c).net := by
  unfold FutuOpenD.handlePacket
  rw [if_neg hid]
  split_ifs
  · exact onRspPrint ..
  · exact onRspPrint ..
  · exact onRspPrint ..
  · exact onRspPrint ..
  · exact of_eq rfl rfl rfl
  · exact onRspPrint ..
  · exact onRspPrint ..
  · exact of_eq rfl rfl rfl

end OnlyNotes

section
variable {W : Outside} {f : APIProtoHeader × List UInt8} {s2c : InitConnect.S2C}

theorem startsSession_eq_some :
    startsSession W f = some s2c ↔ W.sha1 f.2 = f.1.arrBodySHA1 ∧ f.1.nProtoID = apiProtoIDInitConnect ∧
      ∃ rsp, W.parseInitConnect f.2 f.1.nBodyLen.toInt32 = some rsp ∧ rsp.retType = 0 ∧ rsp.getS2C = s2c := by
  unfold startsSession
  constructor
  · intro h
    split at h
    · next hf =>
      split at h
      · cases h
      · next rsp hrsp =>
        split at h
        · next hret => exact ⟨hf.1, hf.2, rsp, hrsp, hret, Option.some.inj h⟩
        · cases h
    · cases h
  · rintro ⟨hsha, hid, rsp, hrsp, hret, rfl⟩
    rw [if_pos ⟨hsha, hid⟩, hrsp]
    exact if_pos hret

theorem handleFrame_starts (h : startsSession W f = some s2c) (c : Client) :
    ∃ msg, handleFrame (Client.recvHandler W) c f =
      ((c.observe (.frame f.1 f.2)).observe (.ret 0 msg)).startSession W s2c := by
  obtain ⟨hsha, hid, rsp, hrsp, hret, rfl⟩ := startsSession_eq_some.1 h
  refine ⟨rsp.retMsg, ?_⟩
  rw [handleFrame_of_eq hsha]
  show handlePacket (quoteHandler W) f.1 f.2 f.1.nBodyLen.toInt32 (c.observe (.frame f.1 f.2)) = _
  rw [handlePacket, if_pos hid]
  rw [← hret]
  exact Client.onRspInitConnect_of_success hrsp hret _

theorem OnlyNotes.frame_ret (f : APIProtoHeader × List UInt8) (msg : String) (c : Client) :
    OnlyNotes c.net ((c.observe (.frame f.1 f.2)).observe (.ret 0 msg)).net :=
  (OnlyNotes.observe (o := .frame f.1 f.2) c.net trivial).trans (OnlyNotes.observe _ trivial)

theorem handleFrame_notes (h : startsSession W f = none) (c : Client) :
    OnlyNotes c.net (handleFrame (Client.recvHandler W) c f).net := by
  by_cases hsha : W.sha1 f.2 = f.1.arrBodySHA1
  · rw [handleFrame_of_eq hsha]
    have hframe : OnlyNotes c.net (c.observe (.frame f.1 f.2)).net := OnlyNotes.observe _ trivial
    refine hframe.trans ?_
    show OnlyNotes _ (handlePacket (quoteHandler W) f.1 f.2 f.1.nBodyLen.toInt32 _).net
    by_cases hid : f.1.nProtoID = apiProtoIDInitConnect
    · rw [handlePacket, if_pos hid]
      show OnlyNotes _ (Client.onRspInitConnect W f.1 f.2 f.1.nBodyLen.toInt32 _).net
      unfold Client.onRspInitConnect
      split
      · exact OnlyNotes.observe _ trivial
      · next rsp hrsp =>
        have hret : rsp.retType ≠ 0 := fun hret => by
          have hs := startsSession_eq_some.2 ⟨hsha, hid, rsp, hrsp, hret, rfl⟩
          rw [h] at hs
          cases hs
        dsimp only
        rw [if_pos hret]
        exact OnlyNotes.observe _ trivial
    · exact OnlyNotes.handlePacket hid _ _ _
  · rw [handleFrame_of_ne hsha]
    exact OnlyNotes.observe _ trivial

/-- The timer calls and the three requests that start a session, `k₂` and `k₃` being the serial
numbers after the first and the second. -/
theorem startSession_spec (W : Outside) (s2c : InitConnect.S2C) (c : Client) :
    ∃ (k₂ k₃ : UInt32) (r₁ r₂ r₃ : Request), (ClientRequest r₁ ∧ ClientRequest r₂ ∧ ClientRequest r₃) ∧
      (c.startSession W s2c).net.trace = c.net.trace ++
        ([.timerInit c.net.keepAliveTimer.active,
            .timerStart (Client.beatPeriod s2c.keepAliveInterval) (Client.beatPeriod s2c.keepAliveInterval)] ++
          (NetCenter.sendObs W apiProtoIDGlobalState (W.pb r₁) c.net.nNextPacketNo ++
            (NetCenter.sendObs W apiProtoIDQotSub (W.pb r₂) k₂ ++
              NetCenter.sendObs W apiProtoIDQotRegQotPush (W.pb r₃) k₃))) ∧
      ((W.pb r₁).serializeToString.isSome → (W.pb r₂).serializeToString.isSome →
        k₂ = c.net.nNextPacketNo + 1 ∧ k₃ = c.net.nNextPacketNo + 2) := by
  obtain ⟨-, htrace, hno⟩ := NetCenter.send_three
    (c.net.startKeepAliveTimer (s2c.keepAliveInterval * 4 / 5)) _ _ (c.startSession W s2c).net rfl rfl rfl
  refine ⟨_, _, .getGlobalState ⟨s2c.loginUserID⟩,
    .qotSub (NetCenter.subscribeC2S Client.stocks Client.subTypes true true Client.rehabTypes true),
    .qotRegQotPush (NetCenter.regPushC2S Client.stocks Client.subTypes Client.rehabTypes true true),
    ⟨.getGlobalState _, .subscribe, .regPush⟩, ?_, hno⟩
  rw [htrace, NetCenter.startKeepAliveTimer_trace, List.append_assoc]
  rfl

theorem afterWrite_notes (status : Int) (n : NetCenter) : OnlyNotes n (n.afterWrite W status) := by
  unfold NetCenter.afterWrite
  dsimp only
  split
  · exact .of_eq rfl rfl rfl
  · next call hcall =>
    obtain ⟨nErr, rfl⟩ := TcpConnect.afterWrite_call hcall
    let r := n.quoteConn.complete.afterWrite status (W.uvWrite n.quoteConn.uv.calls.length)
    have hconn : OnlyNotes n { n with quoteConn := r.1 } := .of_eq rfl rfl rfl
    exact hconn.trans (.observe (o := .netError nErr) _ trivial)

/-- Whether the event is a pass that takes a frame off the store that starts a session. -/
def startsAt (W : Outside) (s : Session) : SessionEvent → Bool
  | .recv .pass => s.inRecv && (codeCut s.readStore.data).any fun p => (startsSession W p.1).isSome
  | _ => false

/-- What a step does: it starts a session, it sends the keep-alive packet, or it only leaves notes. -/
inductive SessionCase (W : Outside) (s : Session) : SessionEvent → Session → Prop
  | quiet {e : SessionEvent} {s' : Session} (hnot : startsAt W s e = false)
      (h : OnlyNotes s.handler.net s'.handler.net) : SessionCase W s e s'
  | start (f : APIProtoHeader × List UInt8) (rest : List UInt8) (s2c : InitConnect.S2C) (msg : String)
      (hat : startsAt W s (.recv .pass) = true) (hc : codeCut s.readStore.data = some (f, rest))
      (hf : startsSession W f = some s2c) :
      SessionCase W s (.recv .pass) { s with
        readStore := s.readStore.removeFront f.1.frameLen.toInt32.toInt
        handler := ((s.handler.observe (.frame f.1 f.2)).observe (.ret 0 msg)).startSession W s2c }
  | timer (now : Int64) (hactive : s.handler.net.keepAliveTimer.active = true) :
      SessionCase W s (.keepAliveTimer now)
        { s with handler := { s.handler with net := s.handler.net.runTimer W now } }

variable {s s' : Session} {e : SessionEvent}

theorem startsAt_pass {rest : List UInt8} (hrecv : s.inRecv = true)
    (hc : codeCut s.readStore.data = some (f, rest)) :
    startsAt W s (.recv .pass) = (startsSession W f).isSome := by
  rw [startsAt, hrecv, hc]
  rfl

theorem sessionStep_cases (h : IsReadStore s.readStore) (hs : sessionStep W s e = some s') :
    SessionCase W s e s' := by
  cases e with
  | recv e =>
    cases readStep_cases h hs with
    | read bytes hidle hfit => exact .quiet rfl (.of_eq rfl rfl rfl)
    | readError nread hidle c hcall =>
      refine .quiet rfl ?_
      rcases hcall with rfl | rfl <;> exact OnlyNotes.observe _ trivial
    | wait hrecv hc =>
      refine .quiet ?_ (.of_eq rfl rfl rfl)
      rw [startsAt, hrecv, hc]
      rfl
    | frame f rest hrecv hc =>
      have hat := startsAt_pass (W := W) hrecv hc
      cases hf : startsSession W f with
      | none => exact .quiet (by rw [hat, hf]; rfl) (handleFrame_notes hf _)
      | some s2c =>
        obtain ⟨msg, hmsg⟩ := handleFrame_starts hf s.handler
        rw [hmsg]
        exact .start f rest s2c msg (by rw [hat, hf]; rfl) hc hf
  | afterWrite status =>
    obtain ⟨-, hr⟩ := Option.ite_none_right_eq_some.1 hs
    cases hr
    exact .quiet rfl (afterWrite_notes status _)
  | keepAliveTimer now =>
    obtain ⟨⟨-, hactive⟩, hr⟩ := Option.ite_none_right_eq_some.1 hs
    cases hr
    exact .timer now hactive

theorem sessionStep_trace (h : IsReadStore s.readStore) (hs : sessionStep W s e = some s') :
    s.handler.net.trace <+: s'.handler.net.trace := by
  cases sessionStep_cases h hs with
  | quiet hnot hnotes =>
    obtain ⟨l, hl, -⟩ := hnotes.trace
    exact ⟨l, hl.symm⟩
  | start f rest s2c msg hat hc hf =>
    obtain ⟨k₂, k₃, r₁, r₂, r₃, -, htrace, -⟩ :=
      startSession_spec W s2c ((s.handler.observe (.frame f.1 f.2)).observe (.ret 0 msg))
    obtain ⟨l, hl, -⟩ := (OnlyNotes.frame_ret f msg s.handler).trace
    rw [hl, List.append_assoc] at htrace
    exact ⟨_, htrace.symm⟩
  | timer now hactive =>
    have htrace : (s.handler.net.runTimer W now).trace = s.handler.net.trace ++ _ := NetCenter.send_trace
    exact ⟨_, htrace.symm⟩

theorem sessionStep_isReadStore (h : IsReadStore s.readStore) (hs : sessionStep W s e = some s') :
    IsReadStore s'.readStore := by
  cases e with
  | recv e => exact readStep_isReadStore h hs
  | afterWrite status =>
    obtain ⟨-, hr⟩ := Option.ite_none_right_eq_some.1 hs
    cases hr
    exact h
  | keepAliveTimer now =>
    obtain ⟨-, hr⟩ := Option.ite_none_right_eq_some.1 hs
    cases hr
    exact h

end

/-- The response to `InitConnect` comes, the timer fires, and the first write completes. -/
def oneResponse : List SessionEvent :=
  [.recv (.read (initConnectRsp 10)), .recv .pass, .recv .pass, .keepAliveTimer 8, .afterWrite 0]

theorem exists_run_oneResponse :
    ∃ s, (sessionMachine .program).run (.start .program (zeros readStoreLen)) oneResponse = some s :=
  Option.isSome_iff_exists.1 (by decide +kernel)

end FutuOpenD

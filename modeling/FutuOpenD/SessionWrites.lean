import FutuOpenD.RequestDecode
import FutuOpenD.SessionInv
import FutuOpenD.WriteFifo

/-!
# A session as requests on a connection

`emits` lists the requests that an event of a session gives rise to. Every session is a run of the write
side of its connection (`Refines`): the packets built so far are the requests emitted so far, with
consecutive serial numbers, and the connection has taken exactly these packets and the completions of
its writes.
-/

namespace FutuOpenD
open Runs TcpConnect

/-- The requests of `OnRsp_InitConnect` after a successful response. -/
def startRequests (s2c : InitConnect.S2C) : List Request :=
  [.getGlobalState ⟨s2c.loginUserID⟩,
    .qotSub (NetCenter.subscribeC2S Client.stocks Client.subTypes true true Client.rehabTypes true),
    .qotRegQotPush (NetCenter.regPushC2S Client.stocks Client.subTypes Client.rehabTypes true true)]

/-- The `S2C` of the response with which the event starts a session, if it does. -/
def startedBy (W : Outside) (s : Session) : SessionEvent → Option InitConnect.S2C
  | .recv .pass => if s.inRecv then (codeCut s.readStore.data).bind fun p => startsSession W p.1 else none
  | _ => none

/-- The requests that the client makes when the event happens. -/
def emits (W : Outside) (s : Session) (e : SessionEvent) : List Request :=
  match e with
  | .keepAliveTimer now => [.keepAlive ⟨now⟩]
  | e => ((startedBy W s e).map startRequests).getD []

/-- The packets for the requests, the first with serial number `k`. -/
def numbered (W : Outside) : UInt32 → List Request → List (APIProtoHeader × List UInt8)
  | _, [] => []
  | k, r :: rs => NetCenter.packetOf W r.protoID (W.pb r) k :: numbered W (k + 1) rs

theorem numbered_append (W : Outside) (k : UInt32) (rs rs' : List Request) :
    numbered W k (rs ++ rs') = numbered W k rs ++ numbered W (k + UInt32.ofNat rs.length) rs' := by
  induction rs generalizing k with
  | nil => exact congrArg (numbered W · rs') (UInt32.add_zero k).symm
  | cons r rs ih =>
    have hlen : k + 1 + UInt32.ofNat rs.length = k + UInt32.ofNat (rs.length + 1) := by
      rw [UInt32.ofNat_add, UInt32.add_assoc, UInt32.add_comm (UInt32.ofNat rs.length)]
      rfl
    rw [List.cons_append, numbered, ih, hlen]
    rfl

theorem length_numbered (W : Outside) (k : UInt32) (rs : List Request) : (numbered W k rs).length = rs.length := by
  induction rs generalizing k with
  | nil => rfl
  | cons r rs ih => rw [numbered, List.length_cons, List.length_cons, ih]

theorem numbered_take (W : Outside) (k : UInt32) (rs : List Request) (n : Nat) :
    (numbered W k rs).take n = numbered W k (rs.take n) := by
  induction rs generalizing k n with
  | nil => simp [numbered]
  | cons r rs ih =>
    cases n with
    | zero => rfl
    | succ n => rw [numbered, List.take_succ_cons, List.take_succ_cons, numbered, ih]

/-- From `n` to `n'` the requests `rs` are made and nothing else happens to the connection. -/
structure Requested (W : Outside) (n n' : NetCenter) (rs : List Request) : Prop where
  packets : n'.packets = n.packets ++ numbered W n.nNextPacketNo rs
  packetNo : n'.nNextPacketNo = n.nNextPacketNo + UInt32.ofNat rs.length
  conn : ∃ ws, writeMachine.run n.quoteConn ws = some n'.quoteConn ∧ (∀ e ∈ ws, IsSend W e) ∧
    sentPackets ws = (numbered W n.nNextPacketNo rs).map Prod.snd

namespace Requested
variable {W : Outside} {n n' n'' : NetCenter} {r : Request} {rs rs' : List Request}

theorem of_eq (hpackets : n'.packets = n.packets) (hno : n'.nNextPacketNo = n.nNextPacketNo)
    (hconn : n'.quoteConn = n.quoteConn) : Requested W n n' [] := by
  refine ⟨by rw [hpackets]; exact (List.append_nil _).symm, ?_, [], ?_, by simp, rfl⟩
  · rw [hno]
    exact (UInt32.add_zero _).symm
  · rw [hconn]
    rfl

theorem of_notes (h : OnlyNotes n n') (hconn : n'.quoteConn = n.quoteConn) : Requested W n n' [] :=
  of_eq h.packets h.packetNo hconn

theorem trans (h : Requested W n n' rs) (h' : Requested W n' n'' rs') : Requested W n n'' (rs ++ rs') := by
  obtain ⟨ws, hrun, hsend, hsent⟩ := h.conn
  obtain ⟨ws', hrun', hsend', hsent'⟩ := h'.conn
  have hnum := numbered_append W n.nNextPacketNo rs rs'
  rw [← h.packetNo] at hnum
  refine ⟨?_, ?_, ws ++ ws', Machine.run_append.2 ⟨_, hrun, hrun'⟩, List.forall_mem_append.2 ⟨hsend, hsend'⟩, ?_⟩
  · rw [h'.packets, h.packets, hnum, List.append_assoc]
  · rw [h'.packetNo, h.packetNo, List.length_append, UInt32.ofNat_add, UInt32.add_assoc]
  · rw [sentPackets_append, hsent, hsent', hnum, List.map_append]

theorem send (h : (W.pb r).serializeToString.isSome) (n : NetCenter) :
    Requested W n (n.send W r.protoID (W.pb r)).2 [r] := by
  refine ⟨NetCenter.packets_send h, NetCenter.send_nNextPacketNo h,
    [.send (NetCenter.packetOf W r.protoID (W.pb r) n.nNextPacketNo).2
      (W.uvWrite n.quoteConn.uv.calls.length)], ?_, ?_, rfl⟩
  · rw [Machine.run_singleton, NetCenter.send_quoteConn h]
    rfl
  · intro e he
    rw [List.mem_singleton.1 he]
    exact ⟨_, _, rfl⟩

/-- Starting the timer is no request. -/
theorem startKeepAliveTimer (nInterval : Int32) (n : NetCenter) :
    Requested W n (n.startKeepAliveTimer nInterval) [] := by
  refine ⟨?_, (UInt32.add_zero _).symm, [], rfl, by simp, rfl⟩
  rw [NetCenter.packets, NetCenter.startKeepAliveTimer_trace, List.filterMap_append]
  rfl

theorem startSession (hser : ∀ r, ClientRequest r → (W.pb r).serializeToString.isSome) (s2c : InitConnect.S2C)
    (c : Client) : Requested W c.net (c.startSession W s2c).net (startRequests s2c) :=
  (((startKeepAliveTimer (W := W) (s2c.keepAliveInterval * 4 / 5) c.net).trans
    (send (hser _ (.getGlobalState s2c.loginUserID)) _)).trans (send (hser _ .subscribe) _)).trans
    (send (hser _ .regPush) _)

end Requested

section
variable {W : Outside} {f : APIProtoHeader × List UInt8} {s s' : Session} {e : SessionEvent}

theorem handlePacket_quoteConn {header : APIProtoHeader} (hid : header.nProtoID ≠ apiProtoIDInitConnect)
    (pData : List UInt8) (nLen : Int32) (c : Client) :
    (handlePacket (quoteHandler W) header pData nLen c).net.quoteConn = c.net.quoteConn := by
  have hprint : ∀ nProtoID, (c.onRspPrint W nProtoID header pData nLen).net.quoteConn = c.net.quoteConn := by
    intro nProtoID
    unfold Client.onRspPrint
    split <;> rfl
  unfold handlePacket
  rw [if_neg hid]
  split_ifs
  · exact hprint _
  · exact hprint _
  · exact hprint _
  · exact hprint _
  · rfl
  · exact hprint _
  · exact hprint _
  · rfl

theorem handleFrame_quoteConn (h : startsSession W f = none) (c : Client) :
    (handleFrame (Client.recvHandler W) c f).net.quoteConn = c.net.quoteConn := by
  by_cases hsha : W.sha1 f.2 = f.1.arrBodySHA1
  · rw [handleFrame_of_eq hsha]
    show (handlePacket (quoteHandler W) f.1 f.2 f.1.nBodyLen.toInt32 (c.observe (.frame f.1 f.2))).net.quoteConn = _
    by_cases hid : f.1.nProtoID = apiProtoIDInitConnect
    · rw [handlePacket, if_pos hid]
      show (Client.onRspInitConnect W f.1 f.2 f.1.nBodyLen.toInt32 _).net.quoteConn = _
      unfold Client.onRspInitConnect
      split
      · rfl
      · next rsp hrsp =>
        have hret : rsp.retType ≠ 0 := fun hret => by
          have hs := startsSession_eq_some.2 ⟨hsha, hid, rsp, hrsp, hret, rfl⟩
          rw [h] at hs
          cases hs
        dsimp only
        rw [if_pos hret]
        rfl
    · exact handlePacket_quoteConn hid _ _ _
  · rw [handleFrame_of_ne hsha]
    rfl

/-- The status of a completed write. -/
def SessionEvent.toStatus : SessionEvent → Option Int
  | .afterWrite status => some status
  | _ => none

/-- What an event is to the connection: requests, or the completion of a write. -/
inductive ConnCase (W : Outside) (s : Session) : SessionEvent → Session → Prop
  | requests {e : SessionEvent} {s' : Session} (he : e.toStatus = none)
      (h : Requested W s.handler.net s'.handler.net (emits W s e)) : ConnCase W s e s'
  | completion (status : Int) (hfl : s.handler.net.quoteConn.uv.inFlight.isSome) :
      ConnCase W s (.afterWrite status)
        { s with handler := { s.handler with net := s.handler.net.afterWrite W status } }

theorem emits_pass : emits W s (.recv .pass) = ((startedBy W s (.recv .pass)).map startRequests).getD [] := rfl

theorem startedBy_pass {rest : List UInt8} (hrecv : s.inRecv = true) (hc : codeCut s.readStore.data = some (f, rest)) :
    startedBy W s (.recv .pass) = startsSession W f := by
  rw [startedBy, hrecv, hc]
  rfl

theorem sessionStep_conn (hser : ∀ r, ClientRequest r → (W.pb r).serializeToString.isSome)
    (h : IsReadStore s.readStore) (hs : sessionStep W s e = some s') : ConnCase W s e s' := by
  cases e with
  | recv e =>
    cases readStep_cases h hs with
    | read bytes hidle hfit => exact .requests rfl (.of_notes (.of_eq rfl rfl rfl) rfl)
    | readError nread hidle c hcall =>
      refine .requests rfl (.of_notes ?_ ?_)
      · rcases hcall with rfl | rfl <;> exact OnlyNotes.observe _ trivial
      · rcases hcall with rfl | rfl <;> rfl
    | wait hrecv hc =>
      refine .requests rfl ?_
      have hnone : startedBy W s (.recv .pass) = none := by
        rw [startedBy, hrecv, hc]
        rfl
      rw [emits_pass, hnone]
      exact .of_notes (.of_eq rfl rfl rfl) rfl
    | frame f rest hrecv hc =>
      refine .requests rfl ?_
      rw [emits_pass, startedBy_pass hrecv hc]
      cases hf : startsSession W f with
      | none => exact .of_notes (handleFrame_notes hf _) (handleFrame_quoteConn hf _)
      | some s2c =>
        obtain ⟨msg, hmsg⟩ := handleFrame_starts hf s.handler
        dsimp only
        rw [hmsg]
        exact (Requested.of_notes (OnlyNotes.frame_ret f msg s.handler) rfl).trans
          (.startSession hser s2c _)
  | afterWrite status =>
    obtain ⟨⟨-, hfl⟩, hr⟩ := Option.ite_none_right_eq_some.1 hs
    cases hr
    exact .completion status hfl
  | keepAliveTimer now =>
    obtain ⟨⟨-, hactive⟩, hr⟩ := Option.ite_none_right_eq_some.1 hs
    cases hr
    let t := s.handler.net.keepAliveTimer
    have hstop : Requested W s.handler.net
        { s.handler.net with keepAliveTimer := { t with active := decide (t.repeatTime ≠ 0) } } [] :=
      .of_eq rfl rfl rfl
    exact .requests rfl (hstop.trans (.send (hser _ (.keepAlive now)) _))

/-- Every result of `uv_write` in the event is one that the surroundings give. -/
def ResultsFrom (W : Outside) : WriteEvent → Prop
  | .send _ uvRet => ∃ k, uvRet = W.uvWrite k
  | .afterWrite _ uvRet => ∃ k, uvRet = W.uvWrite k

end

namespace TcpConnect

def WriteEvent.toStatus : WriteEvent → Option Int
  | .send _ _ => none
  | .afterWrite status _ => some status

section
variable {c c' : TcpConnect} {ws : List WriteEvent} {W : Outside}

theorem StoresSmall.of_modify {w w' : WriteStores} {i : Int} {pData : List UInt8}
    (hw' : w' = w.modify i (·.insertEnd pData)) (h : w'.store0.size < 2 ^ 31 ∧ w'.store1.size < 2 ^ 31) :
    w.store0.size < 2 ^ 31 ∧ w.store1.size < 2 ^ 31 := by
  subst hw'
  unfold WriteStores.modify at h
  split_ifs at h
  · simp only [CharVector.size, CharVector.bytes_insertEnd, List.length_append] at h ⊢
    omega
  · simp only [CharVector.size, CharVector.bytes_insertEnd, List.length_append] at h ⊢
    omega
  · exact h

theorem StoresSmall.of_send {pData : List UInt8} {uvRet : Int} (hs : writeStep c (.send pData uvRet) = some c')
    (h : StoresSmall c') : StoresSmall c := by
  cases hs
  unfold send at h
  dsimp only at h
  split_ifs at h
  · exact StoresSmall.of_modify (i := 0) rfl h
  · exact StoresSmall.of_modify (i := 0) rfl h
  · exact StoresSmall.of_modify rfl h

/-- Sends only add to the stores, so that before the last of them the stores are small if they are
afterwards. -/
theorem allStates_of_sends (hsend : ∀ e ∈ ws, IsSend W e) (hr : writeMachine.run c ws = some c')
    (h : StoresSmall c') : StoresSmall c ∧ writeMachine.AllStates StoresSmall c ws := by
  induction ws generalizing c with
  | nil =>
    cases hr
    exact ⟨h, h⟩
  | cons e ws ih =>
    obtain ⟨⟨pData, k, rfl⟩, hrest⟩ := List.forall_mem_cons.1 hsend
    obtain ⟨c₁, hs, hr⟩ := Machine.run_cons.1 hr
    obtain ⟨hsmall, hall⟩ := ih hrest hr
    have hc := hsmall.of_send hs
    refine ⟨hc, hc, fun c₂ hs₂ => ?_⟩
    rw [hs] at hs₂
    cases hs₂
    exact hall

end
end TcpConnect

/-- The session `s`, reached by `es`, as a run of its connection. -/
structure Refines (W : Outside) (start : Session) (es : List SessionEvent) (s : Session) (rs : List Request)
    (ws : List WriteEvent) : Prop where
  packets : s.handler.net.packets = numbered W 1 rs
  packetNo : s.handler.net.nNextPacketNo = 1 + UInt32.ofNat rs.length
  conn : writeMachine.run TcpConnect.new ws = some s.handler.net.quoteConn
  sent : sentPackets ws = (numbered W 1 rs).map Prod.snd
  results : ∀ e ∈ ws, ResultsFrom W e
  statuses : ws.filterMap WriteEvent.toStatus = es.filterMap SessionEvent.toStatus
  small : (sessionMachine W).AllStates (fun s => StoresSmall s.handler.net.quoteConn) start es →
    writeMachine.AllStates StoresSmall TcpConnect.new ws

namespace Refines
variable {W : Outside} {start s s' : Session} {es : List SessionEvent} {e : SessionEvent}
variable {rs rs' : List Request} {ws : List WriteEvent}

theorem IsSend.status_none {ws : List WriteEvent} (h : ∀ e ∈ ws, IsSend W e) :
    ws.filterMap WriteEvent.toStatus = [] := by
  refine List.filterMap_eq_nil_iff.2 fun e he => ?_
  obtain ⟨pData, k, rfl⟩ := h e he
  rfl

theorem requests (h : Refines W start es s rs ws) (hr : (sessionMachine W).run start es = some s)
    (hs : (sessionMachine W).step s e = some s') (he : e.toStatus = none)
    (hreq : Requested W s.handler.net s'.handler.net rs') :
    ∃ ws', Refines W start (es ++ [e]) s' (rs ++ rs') ws' := by
  obtain ⟨wr, hrun, hsend, hsent⟩ := hreq.conn
  have hnum := numbered_append W 1 rs rs'
  rw [← h.packetNo] at hnum
  refine ⟨ws ++ wr, ?_, ?_, Machine.run_append.2 ⟨_, h.conn, hrun⟩, ?_, ?_, ?_, fun hall => ?_⟩
  · rw [hreq.packets, h.packets, hnum]
  · rw [hreq.packetNo, h.packetNo, List.length_append, UInt32.ofNat_add, UInt32.add_assoc]
  · rw [sentPackets_append, h.sent, hsent, hnum, List.map_append]
  · refine List.forall_mem_append.2 ⟨h.results, fun e he => ?_⟩
    obtain ⟨pData, k, rfl⟩ := hsend e he
    exact ⟨k, rfl⟩
  · rw [List.filterMap_append, IsSend.status_none hsend, h.statuses, List.append_nil, List.filterMap_append,
      List.filterMap_cons_none he, List.filterMap_nil, List.append_nil]
  · have hrun' : (sessionMachine W).run start (es ++ [e]) = some s' :=
      Machine.run_append.2 ⟨s, hr, Machine.run_singleton.trans hs⟩
    exact (h.small hall.init).append h.conn (allStates_of_sends hsend hrun (hall.last hrun')).2

theorem completion (h : Refines W start es s rs ws) {status : Int}
    (hr : (sessionMachine W).run start es = some s)
    (hs : (sessionMachine W).step s (.afterWrite status) = some s')
    (hfl : s.handler.net.quoteConn.uv.inFlight.isSome)
    (hs' : s'.handler.net = s.handler.net.afterWrite W status) :
    ∃ ws', Refines W start (es ++ [.afterWrite status]) s' rs ws' := by
  have hnotes := afterWrite_notes (W := W) status s.handler.net
  have hstep : writeMachine.step s.handler.net.quoteConn
      (.afterWrite status (W.uvWrite s.handler.net.quoteConn.uv.calls.length)) = some s'.handler.net.quoteConn := by
    rw [step_afterWrite hfl, hs', NetCenter.afterWrite]
    split
    · rfl
    · next call hcall =>
      obtain ⟨nErr, rfl⟩ := TcpConnect.afterWrite_call hcall
      rfl
  refine ⟨ws ++ [.afterWrite status (W.uvWrite s.handler.net.quoteConn.uv.calls.length)], ?_, ?_,
    Machine.run_append.2 ⟨_, h.conn, Machine.run_singleton.trans hstep⟩, ?_, ?_, ?_, fun hall => ?_⟩
  · rw [hs', hnotes.packets, h.packets]
  · rw [hs', hnotes.packetNo, h.packetNo]
  · rw [sentPackets_append, h.sent]
    exact List.append_nil _
  · exact List.forall_mem_append.2 ⟨h.results, by simp [ResultsFrom]⟩
  · rw [List.filterMap_append, List.filterMap_append, h.statuses]
    rfl
  · have hrun' : (sessionMachine W).run start (es ++ [.afterWrite status]) = some s' :=
      Machine.run_append.2 ⟨s, hr, Machine.run_singleton.trans hs⟩
    refine (h.small hall.init).append h.conn ⟨hall.init.last hr, fun c hc => ?_⟩
    rw [hstep] at hc
    cases hc
    exact hall.last hrun'

end Refines

/-- All requests of a run: the one that `OnConnect` makes and those that the events give rise to. -/
def allRequests (W : Outside) (start : Session) (es : List SessionEvent) : List Request :=
  .initConnect ⟨100, "demo", some true⟩ :: (sessionMachine W).outputs (emits W) start es

theorem refines_start {W : Outside} (hser : ∀ r, ClientRequest r → (W.pb r).serializeToString.isSome)
    (mem : Bytes.Field readStoreLen) :
    ∃ ws, Refines W (.start W mem) [] (.start W mem) [.initConnect ⟨100, "demo", some true⟩] ws := by
  have hreq : Requested W NetCenter.new (Session.start W mem).handler.net [.initConnect ⟨100, "demo", some true⟩] :=
    .send (hser _ .initConnect) NetCenter.new
  obtain ⟨ws, hrun, hsend, hsent⟩ := hreq.conn
  refine ⟨ws, hreq.packets, hreq.packetNo, hrun, hsent, fun e he => ?_, Refines.IsSend.status_none hsend,
    fun hall => (allStates_of_sends hsend hrun hall).2⟩
  obtain ⟨pData, k, rfl⟩ := hsend e he
  exact ⟨k, rfl⟩

theorem refines_run {W : Outside} (hser : ∀ r, ClientRequest r → (W.pb r).serializeToString.isSome)
    {mem : Bytes.Field readStoreLen} {es : List SessionEvent} {s : Session}
    (hr : (sessionMachine W).run (.start W mem) es = some s) :
    ∃ ws, Refines W (.start W mem) es s (allRequests W (.start W mem) es) ws := by
  obtain ⟨-, -, h⟩ := Machine.run_events
    (J := fun l s => (sessionMachine W).run (.start W mem) l = some s ∧ IsReadStore s.readStore ∧
      ∃ ws, Refines W (.start W mem) l s (allRequests W (.start W mem) l) ws)
    (fun l s e s' h hs => by
      obtain ⟨hr, hstore, ws, h⟩ := h
      have hall : allRequests W (.start W mem) (l ++ [e]) = allRequests W (.start W mem) l ++ emits W s e := by
        rw [allRequests, Machine.outputs_snoc hr hs]
        rfl
      refine ⟨Machine.run_append.2 ⟨s, hr, Machine.run_singleton.trans hs⟩, sessionStep_isReadStore hstore hs, ?_⟩
      rw [hall]
      cases sessionStep_conn hser hstore hs with
      | requests he hreq => exact h.requests hr hs he hreq
      | completion status hfl =>
        obtain ⟨ws', h'⟩ := h.completion hr hs hfl rfl
        exact ⟨ws', by rwa [show emits W s (.afterWrite status) = [] from rfl, List.append_nil]⟩)
    ⟨rfl, IsReadStore.new mem, refines_start hser mem⟩ hr
  exact h

/-- A session is a run of the write side of its connection. `Send` is given the packets of the requests
so far, numbered from 1, and the completions are those of the session. -/
theorem session_refines_connection {W : Outside} (hser : ∀ r, ClientRequest r → (W.pb r).serializeToString.isSome)
    {mem : Bytes.Field readStoreLen} {es : List SessionEvent} {s : Session}
    (hr : (sessionMachine W).run (.start W mem) es = some s) :
    ∃ ws, writeMachine.run TcpConnect.new ws = some s.handler.net.quoteConn ∧
      sentPackets ws = s.handler.net.packets.map Prod.snd ∧
      s.handler.net.packets = numbered W 1 (allRequests W (.start W mem) es) ∧
      ws.filterMap WriteEvent.toStatus = es.filterMap SessionEvent.toStatus ∧
      ∀ e ∈ ws, ResultsFrom W e := by
  obtain ⟨ws, h⟩ := refines_run hser hr
  exact ⟨ws, h.conn, by rw [h.sent, h.packets], h.packets, h.statuses, h.results⟩

theorem session_refines_connection_one_response :
    ∃ s ws, (sessionMachine .program).run (.start .program (Bytes.zeros readStoreLen)) oneResponse = some s ∧
      writeMachine.run TcpConnect.new ws = some s.handler.net.quoteConn ∧
      sentPackets ws = s.handler.net.packets.map Prod.snd ∧ ws.filterMap WriteEvent.toStatus = [0] := by
  obtain ⟨s, hr⟩ := exists_run_oneResponse
  obtain ⟨ws, hrun, hsent, -, hstatus, -⟩ := session_refines_connection program_serializes hr
  exact ⟨s, ws, hr, hrun, hsent, hstatus⟩

end FutuOpenD

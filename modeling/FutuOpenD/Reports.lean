import FutuOpenD.SessionInv

/-!
# What the client does about a failure

Nothing: `NetCenter::OnError` and `NetCenter::OnDisconnect` print a line. `withoutReports` forgets these
notes, and no step depends on them, so a session that is told of failed reads and of the end of the
connection goes on as one that is not (`reads_fail_silently`): the timer is not stopped, the connection is
neither closed nor made again, and what waits to be written still waits.
-/

namespace FutuOpenD
open Bytes Runs Framing

def Obs.isReport : Obs → Bool
  | .netError _ => true
  | .disconnected => true
  | _ => false

def SessionEvent.isReadError : SessionEvent → Bool
  | .recv (.readError _) => true
  | _ => false

def NetCenter.withoutReports (n : NetCenter) : NetCenter := { n with trace := n.trace.filter fun o => !o.isReport }

def Client.withoutReports (c : Client) : Client := { c with net := c.net.withoutReports }

def Session.withoutReports (s : Session) : Session := { s with handler := s.handler.withoutReports }

section
variable {W : Outside} {o : Obs} {n : NetCenter} {c : Client} {s t : Session}

namespace NetCenter

theorem withoutReports_observe (ho : o.isReport = false) (n : NetCenter) :
    n.withoutReports.observe o = (n.observe o).withoutReports := by
  simp [withoutReports, observe, List.filter_append, ho]

theorem withoutReports_report (ho : o.isReport = true) (n : NetCenter) :
    (n.observe o).withoutReports = n.withoutReports := by
  simp [withoutReports, observe, List.filter_append, ho]

theorem withoutReports_idem (n : NetCenter) : n.withoutReports.withoutReports = n.withoutReports := by
  simp [withoutReports]

theorem send_withoutReports (nProtoID : UInt32) (pbObj : PbMessage) (n : NetCenter) :
    (send W nProtoID pbObj n.withoutReports).2 = (send W nProtoID pbObj n).2.withoutReports := by
  unfold send
  cases pbObj.serializeToString with
  | none => rfl
  | some bodyData => simp [withoutReports, observe, List.filter_append, Obs.isReport]

theorem startKeepAliveTimer_withoutReports (nInterval : Int32) (n : NetCenter) :
    n.withoutReports.startKeepAliveTimer nInterval = (n.startKeepAliveTimer nInterval).withoutReports := by
  simp [withoutReports, startKeepAliveTimer, uvTimerInit, uvTimerStart, observe, List.filter_append, Obs.isReport]

theorem runTimer_withoutReports (now : Int64) (n : NetCenter) :
    n.withoutReports.runTimer W now = (n.runTimer W now).withoutReports :=
  send_withoutReports _ _ { n with keepAliveTimer := { n.keepAliveTimer with
    active := decide (n.keepAliveTimer.repeatTime ≠ 0) } }

/-- A failed write is reported, which leaves no trace either. -/
theorem afterWrite_withoutReports (status : Int) (n : NetCenter) :
    (n.withoutReports.afterWrite W status).withoutReports = (n.afterWrite W status).withoutReports := by
  have hconn : n.withoutReports.quoteConn = n.quoteConn := rfl
  unfold afterWrite
  rw [hconn]
  dsimp only
  cases hcall : (n.quoteConn.complete.afterWrite status (W.uvWrite n.quoteConn.uv.calls.length)).2 with
  | none => exact withoutReports_idem { n with quoteConn := _ }
  | some call =>
    obtain ⟨nErr, rfl⟩ := TcpConnect.afterWrite_call hcall
    dsimp only
    rw [handleCall, handleCall, onError, onError, withoutReports_report rfl, withoutReports_report rfl]
    exact withoutReports_idem { n with quoteConn := _ }

end NetCenter

theorem observe_withoutReports (ho : o.isReport = false) (c : Client) :
    c.withoutReports.observe o = (c.observe o).withoutReports := by
  rw [Client.observe, Client.observe, Client.withoutReports, Client.withoutReports, NetCenter.withoutReports_observe ho]

theorem startSession_withoutReports (s2c : InitConnect.S2C) (c : Client) :
    c.withoutReports.startSession W s2c = (c.startSession W s2c).withoutReports := by
  unfold Client.startSession NetCenter.reqGetGlobalState NetCenter.reqSubscribe NetCenter.reqRegPush
    Client.withoutReports
  dsimp only
  rw [NetCenter.startKeepAliveTimer_withoutReports, NetCenter.send_withoutReports, NetCenter.send_withoutReports,
    NetCenter.send_withoutReports]

theorem onRspPrint_withoutReports (nProtoID : UInt32) (header : APIProtoHeader) (pData : List UInt8) (nLen : Int32)
    (c : Client) :
    c.withoutReports.onRspPrint W nProtoID header pData nLen =
      (c.onRspPrint W nProtoID header pData nLen).withoutReports := by
  unfold Client.onRspPrint
  split
  · exact observe_withoutReports rfl c
  · exact observe_withoutReports rfl c

theorem onRspInitConnect_withoutReports (header : APIProtoHeader) (pData : List UInt8) (nLen : Int32) (c : Client) :
    c.withoutReports.onRspInitConnect W header pData nLen =
      (c.onRspInitConnect W header pData nLen).withoutReports := by
  unfold Client.onRspInitConnect
  split
  · exact observe_withoutReports rfl c
  · next rsp hrsp =>
    dsimp only
    rw [observe_withoutReports rfl]
    split_ifs
    · rfl
    · exact startSession_withoutReports _ _

theorem handlePacket_withoutReports (header : APIProtoHeader) (pData : List UInt8) (nLen : Int32) (c : Client) :
    handlePacket (quoteHandler W) header pData nLen c.withoutReports =
      (handlePacket (quoteHandler W) header pData nLen c).withoutReports := by
  unfold handlePacket
  split_ifs
  · exact onRspInitConnect_withoutReports ..
  · exact onRspPrint_withoutReports ..
  · exact onRspPrint_withoutReports ..
  · exact onRspPrint_withoutReports ..
  · exact onRspPrint_withoutReports ..
  · rfl
  · exact onRspPrint_withoutReports ..
  · exact onRspPrint_withoutReports ..
  · rfl

theorem recvHandler_withoutReports (header : APIProtoHeader) (pBody : List UInt8) (nLen : Int32) (c : Client) :
    (Client.recvHandler W).handlePacket header pBody nLen c.withoutReports =
      ((Client.recvHandler W).handlePacket header pBody nLen c).withoutReports := by
  have hframe := observe_withoutReports (o := .frame header pBody) rfl c
  exact (congrArg _ hframe).trans (handlePacket_withoutReports ..)

theorem onRecvStep_withoutReports (b : Buffer) (c : Client) :
    onRecvStep (Client.recvHandler W) b c.withoutReports =
      (onRecvStep (Client.recvHandler W) b c).map fun p => (p.1, p.2.withoutReports) := by
  unfold onRecvStep
  dsimp only
  split_ifs
  · rfl
  · rfl
  · exact congrArg (fun c => some (_, c)) (observe_withoutReports (o := .shaCheckFail) rfl c)
  · exact congrArg (fun c => some (_, c)) (recvHandler_withoutReports ..)

theorem withoutReports_idem (s : Session) : Session.withoutReports (Session.withoutReports s) = Session.withoutReports s := by
  unfold Session.withoutReports Client.withoutReports
  rw [NetCenter.withoutReports_idem]

theorem withoutReports_setNet (s : Session) {n n' : NetCenter} (h : n.withoutReports = n'.withoutReports) :
    Session.withoutReports { s with handler := { s.handler with net := n } } =
      Session.withoutReports { s with handler := { s.handler with net := n' } } := by
  unfold Session.withoutReports Client.withoutReports
  rw [h]

/-- A failed read is only reported. -/
theorem afterRead_withoutReports {nread : Int} (hneg : nread < 0) (s : Session) :
    Session.withoutReports (afterRead (Client.recvHandler W) nread s) = s.withoutReports := by
  unfold afterRead
  rw [if_pos hneg]
  split_ifs
  · exact withoutReports_setNet s (NetCenter.withoutReports_report (o := .disconnected) rfl _)
  · exact withoutReports_setNet s (NetCenter.withoutReports_report (o := .disconnected) rfl _)
  · exact withoutReports_setNet s (NetCenter.withoutReports_report (o := .netError nread) rfl _)

theorem map_ite_congr {p : Prop} [Decidable p] (h : p → Session.withoutReports s = Session.withoutReports t) :
    (if p then some s else none).map Session.withoutReports =
      (if p then some t else none).map Session.withoutReports := by
  split_ifs with hp
  · exact congrArg some (h hp)
  · rfl

theorem readStep_pass_withoutReports (s : Session) :
    readStep (Client.recvHandler W) s.withoutReports .pass =
      (readStep (Client.recvHandler W) s .pass).map Session.withoutReports := by
  obtain ⟨b, c, inRecv⟩ := s
  cases inRecv with
  | false => rfl
  | true =>
    simp only [readStep, Session.withoutReports, if_true]
    rw [onRecvStep_withoutReports]
    cases onRecvStep (Client.recvHandler W) b c with
    | none => rfl
    | some p => rfl

/-- Whether a step can be taken, and where it leads, does not depend on the reports. -/
theorem sessionStep_withoutReports (s : Session) (e : SessionEvent) :
    (sessionStep W s.withoutReports e).map Session.withoutReports =
      (sessionStep W s e).map Session.withoutReports := by
  cases e with
  | recv e =>
    cases e with
    | read bytes =>
      have hpos : ¬ (bytes.length : Int) < 0 := by omega
      refine map_ite_congr fun _ => ?_
      rw [afterRead, afterRead, if_neg hpos, if_neg hpos]
      exact withoutReports_idem { s with readStore := _, inRecv := true }
    | readError nread =>
      refine map_ite_congr fun h => ?_
      rw [afterRead_withoutReports h.2, afterRead_withoutReports h.2, withoutReports_idem]
    | pass =>
      show (readStep _ s.withoutReports .pass).map _ = (readStep _ s .pass).map _
      rw [readStep_pass_withoutReports, Option.map_map]
      exact congrArg (Option.map · _) (funext withoutReports_idem)
  | afterWrite status =>
    exact map_ite_congr fun _ => withoutReports_setNet s (NetCenter.afterWrite_withoutReports status _)
  | keepAliveTimer now =>
    refine map_ite_congr fun _ => withoutReports_setNet s ?_
    show (s.handler.net.withoutReports.runTimer W now).withoutReports = _
    rw [NetCenter.runTimer_withoutReports, NetCenter.withoutReports_idem]

variable {mem : Field readStoreLen} {es : List SessionEvent}

/-- Without the failed reads the session goes the same way. -/
theorem reads_fail_silently (hr : (sessionMachine W).run (.start W mem) es = some s) :
    ∃ s', (sessionMachine W).run (.start W mem) (es.filter fun e => !e.isReadError) = some s' ∧
      s'.withoutReports = s.withoutReports := by
  refine Machine.run_filter (R := fun s t => t.withoutReports = s.withoutReports) (fun s t e s' h he hs => ?_)
    (fun s t e s' h _ hs => ?_) rfl hr
  · cases e with
    | recv e =>
      cases e with
      | readError nread =>
        obtain ⟨⟨-, hneg⟩, hs'⟩ := Option.ite_none_right_eq_some.1 hs
        cases hs'
        rw [h, afterRead_withoutReports hneg]
      | _ => cases he
    | _ => cases he
  · have hmap : ((sessionMachine W).step t e).map Session.withoutReports = some (Session.withoutReports s') := by
      show (sessionStep W t e).map Session.withoutReports = _
      rw [← sessionStep_withoutReports, h, sessionStep_withoutReports]
      exact congrArg (Option.map Session.withoutReports) hs
    exact Option.map_eq_some_iff.1 hmap

/-- The server closes the connection, and the timer goes on. -/
theorem reads_fail_silently_after_eof :
    ∃ s s', (sessionMachine .program).run (.start .program (zeros readStoreLen))
        (oneResponse ++ [.recv (.readError uvEOF), .keepAliveTimer 16]) = some s ∧
      (sessionMachine .program).run (.start .program (zeros readStoreLen)) (oneResponse ++ [.keepAliveTimer 16]) =
        some s' ∧
      s'.withoutReports = s.withoutReports := by
  obtain ⟨s, hr⟩ : ∃ s, (sessionMachine .program).run (.start .program (zeros readStoreLen))
      (oneResponse ++ [.recv (.readError uvEOF), .keepAliveTimer 16]) = some s :=
    Option.isSome_iff_exists.1 (by decide +kernel)
  obtain ⟨s', hr', h⟩ := reads_fail_silently hr
  exact ⟨s, s', hr, hr', h⟩

end
end FutuOpenD

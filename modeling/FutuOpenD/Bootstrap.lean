import FutuOpenD.StartUp

/-!
# How often a session is bootstrapped

`OnRsp_InitConnect` keeps no note of an earlier response, so each frame that starts a session
initialises the timer again, active or not. `bootstraps_once_iff` makes this exact: the timer is
initialised and started once at most, never while active, and each of the three requests is sent once
at most, if and only if at most one such frame is taken off the store. The number of calls of
`uv_timer_init` is the number of these frames (`Bootstrapped.run`), and `Bootstrapped` ties everything
else to it.
-/

namespace FutuOpenD
open Bytes Runs Framing

def Obs.isTimerInit : Obs → Bool
  | .timerInit _ => true
  | _ => false

def Obs.isTimerStart : Obs → Bool
  | .timerStart _ _ => true
  | _ => false

def Obs.isPacket (id : UInt32) : Obs → Bool
  | .packet header _ => header.nProtoID = id
  | _ => false

def bootstrapProtoIDs : List UInt32 := [apiProtoIDGlobalState, apiProtoIDQotSub, apiProtoIDQotRegQotPush]

/-- The timer is initialised once at most, never while active, and started once at most, and no
request is sent twice. -/
structure BootstrapsOnce (l : List Obs) : Prop where
  init : l.countP Obs.isTimerInit ≤ 1
  start : l.countP Obs.isTimerStart ≤ 1
  idle : Obs.timerInit true ∉ l
  request : ∀ id ∈ bootstrapProtoIDs, l.countP (Obs.isPacket id) ≤ 1

/-- Everything that starts a session against the number of calls of `uv_timer_init`. -/
structure Bootstrapped (n : NetCenter) : Prop where
  start : n.trace.countP Obs.isTimerStart = n.trace.countP Obs.isTimerInit
  request : ∀ id ∈ bootstrapProtoIDs, n.trace.countP (Obs.isPacket id) ≤ n.trace.countP Obs.isTimerInit
  active : n.keepAliveTimer.active = true → 1 ≤ n.trace.countP Obs.isTimerInit
  reinit : Obs.timerInit true ∈ n.trace → 2 ≤ n.trace.countP Obs.isTimerInit

section
variable {W : Outside} {n n' : NetCenter} {l : List Obs} {s s' : Session} {e : SessionEvent}

theorem countP_quiet {p : Obs → Bool} (hp : ∀ o, o.Quiet → p o = false) (hl : ∀ o ∈ l, o.Quiet) :
    l.countP p = 0 :=
  List.countP_eq_zero.2 fun o ho => by rw [hp o (hl o ho)]; exact Bool.false_ne_true

theorem Obs.Quiet.isTimerInit {o : Obs} (h : o.Quiet) : o.isTimerInit = false := by
  cases o <;> first | rfl | exact absurd h id

theorem Obs.Quiet.isTimerStart {o : Obs} (h : o.Quiet) : o.isTimerStart = false := by
  cases o <;> first | rfl | exact absurd h id

theorem Obs.Quiet.isPacket {o : Obs} (h : o.Quiet) (id : UInt32) : o.isPacket id = false := by
  cases o <;> first | rfl | exact absurd h (fun h => h)

section
variable {i j k : UInt32} {m : PbMessage}

theorem countP_sendObs {p : Obs → Bool} (hp : ∀ header packetData, p (.packet header packetData) = false) :
    (NetCenter.sendObs W i m k).countP p = 0 := by
  refine List.countP_eq_zero.2 fun o ho => ?_
  obtain ⟨header, packetData, rfl, -⟩ := NetCenter.mem_sendObs ho
  rw [hp]
  exact Bool.false_ne_true

theorem countP_isPacket_sendObs_of_ne (h : i ≠ j) :
    (NetCenter.sendObs W i m k).countP (Obs.isPacket j) = 0 := by
  refine List.countP_eq_zero.2 fun o ho => ?_
  obtain ⟨header, packetData, rfl, hid⟩ := NetCenter.mem_sendObs ho
  simpa [Obs.isPacket, hid] using h

theorem countP_isPacket_sendObs_le :
    (NetCenter.sendObs W i m k).countP (Obs.isPacket j) ≤ if i = j then 1 else 0 := by
  by_cases h : i = j
  · rw [if_pos h]
    refine Nat.le_trans List.countP_le_length ?_
    unfold NetCenter.sendObs
    split <;> simp
  · rw [countP_isPacket_sendObs_of_ne h]
    exact Nat.zero_le _

@[simp] theorem countP_isTimerInit_sendObs : (NetCenter.sendObs W i m k).countP Obs.isTimerInit = 0 :=
  countP_sendObs fun _ _ => rfl

@[simp] theorem countP_isTimerStart_sendObs : (NetCenter.sendObs W i m k).countP Obs.isTimerStart = 0 :=
  countP_sendObs fun _ _ => rfl

@[simp] theorem timerInit_not_mem_sendObs {active : Bool} :
    Obs.timerInit active ∉ NetCenter.sendObs W i m k := by
  intro hmem
  obtain ⟨_, _, he, -⟩ := NetCenter.mem_sendObs hmem
  cases he

end

namespace Bootstrapped

theorem append (h : Bootstrapped n) (htrace : n'.trace = n.trace ++ l)
    (hstart : l.countP Obs.isTimerStart = l.countP Obs.isTimerInit)
    (hrequest : ∀ id ∈ bootstrapProtoIDs, l.countP (Obs.isPacket id) ≤ l.countP Obs.isTimerInit)
    (hactive : n'.keepAliveTimer.active = true →
      n.keepAliveTimer.active = true ∨ 1 ≤ l.countP Obs.isTimerInit)
    (hreinit : Obs.timerInit true ∈ l → n.keepAliveTimer.active = true ∧ 1 ≤ l.countP Obs.isTimerInit) :
    Bootstrapped n' := by
  refine ⟨?_, fun id hid => ?_, fun ha => ?_, fun hmem => ?_⟩
  · rw [htrace, List.countP_append, List.countP_append, h.start, hstart]
  · have h1 := h.request id hid
    have h2 := hrequest id hid
    rw [htrace, List.countP_append, List.countP_append]
    omega
  · rw [htrace, List.countP_append]
    rcases hactive ha with ha | ha
    · have := h.active ha
      omega
    · omega
  · rw [htrace] at hmem ⊢
    rw [List.countP_append]
    rcases List.mem_append.1 hmem with hmem | hmem
    · have := h.reinit hmem
      omega
    · obtain ⟨ha, hl⟩ := hreinit hmem
      have := h.active ha
      omega

theorem quiet (h : Bootstrapped n) (hnotes : OnlyNotes n n') :
    Bootstrapped n' ∧ n'.trace.countP Obs.isTimerInit = n.trace.countP Obs.isTimerInit := by
  obtain ⟨l, hl, hq⟩ := hnotes.trace
  have hinit : l.countP Obs.isTimerInit = 0 := countP_quiet (fun o ho => ho.isTimerInit) hq
  refine ⟨h.append hl ?_ (fun id _ => ?_) (fun ha => .inl (hnotes.timer ▸ ha)) (fun hmem => ?_), ?_⟩
  · rw [hinit, countP_quiet (fun o ho => ho.isTimerStart) hq]
  · rw [hinit, countP_quiet (fun o ho => ho.isPacket id) hq]
  · exact absurd (hq _ hmem) id
  · rw [hl, List.countP_append, hinit]
    rfl

theorem timer (h : Bootstrapped n) (ha : n.keepAliveTimer.active = true) (now : Int64) :
    Bootstrapped (n.runTimer W now) ∧
      (n.runTimer W now).trace.countP Obs.isTimerInit = n.trace.countP Obs.isTimerInit := by
  have hl : (n.runTimer W now).trace =
      n.trace ++ NetCenter.sendObs W apiProtoIDKeepAlive (W.pb (.keepAlive ⟨now⟩)) n.nNextPacketNo :=
    NetCenter.send_trace
  refine ⟨h.append hl (by simp) (fun id hid => ?_) (fun _ => .inl ha) (fun hmem => ?_), by simp [hl]⟩
  · have hne : apiProtoIDKeepAlive ≠ id := by
      rintro rfl
      exact absurd hid (by decide)
    simp [countP_isPacket_sendObs_of_ne hne]
  · exact absurd hmem timerInit_not_mem_sendObs

theorem startSession (s2c : InitConnect.S2C) (c : Client) (h : Bootstrapped c.net) :
    Bootstrapped (c.startSession W s2c).net ∧
      (c.startSession W s2c).net.trace.countP Obs.isTimerInit = c.net.trace.countP Obs.isTimerInit + 1 := by
  obtain ⟨k₂, k₃, r₁, r₂, r₃, -, htrace, -⟩ := startSession_spec W s2c c
  set t := Client.beatPeriod s2c.keepAliveInterval
  set l := [.timerInit c.net.keepAliveTimer.active, .timerStart t t] ++
    (NetCenter.sendObs W apiProtoIDGlobalState (W.pb r₁) c.net.nNextPacketNo ++
      (NetCenter.sendObs W apiProtoIDQotSub (W.pb r₂) k₂ ++
        NetCenter.sendObs W apiProtoIDQotRegQotPush (W.pb r₃) k₃)) with hl
  have hinit : l.countP Obs.isTimerInit = 1 := by simp [hl, List.countP_cons, Obs.isTimerInit]
  have hstart : l.countP Obs.isTimerStart = 1 := by simp [hl, List.countP_cons, Obs.isTimerStart]
  have hrequest : ∀ id ∈ bootstrapProtoIDs, l.countP (Obs.isPacket id) ≤ 1 := by
    -- each protocol has one of the three requests
    have hone : ∀ id ∈ bootstrapProtoIDs, (if apiProtoIDGlobalState = id then 1 else 0) +
        ((if apiProtoIDQotSub = id then 1 else 0) +
          if apiProtoIDQotRegQotPush = id then 1 else 0) ≤ 1 := by
      simp [bootstrapProtoIDs, apiProtoIDGlobalState, apiProtoIDQotSub, apiProtoIDQotRegQotPush]
    intro id hid
    have htimer : [Obs.timerInit c.net.keepAliveTimer.active, .timerStart t t].countP
        (Obs.isPacket id) = 0 := rfl
    rw [hl, List.countP_append, List.countP_append, List.countP_append, htimer, Nat.zero_add]
    exact (Nat.add_le_add countP_isPacket_sendObs_le
      (Nat.add_le_add countP_isPacket_sendObs_le countP_isPacket_sendObs_le)).trans (hone id hid)
  refine ⟨h.append htrace (by rw [hstart, hinit]) (by rw [hinit]; exact hrequest) (fun _ => .inr hinit.ge)
    fun hmem => ⟨?_, hinit.ge⟩, ?_⟩
  · simpa [hl] using hmem
  · rw [htrace, List.countP_append, hinit]

theorem step (hstore : IsReadStore s.readStore) (h : Bootstrapped s.handler.net)
    (hs : sessionStep W s e = some s') :
    Bootstrapped s'.handler.net ∧ s'.handler.net.trace.countP Obs.isTimerInit =
      s.handler.net.trace.countP Obs.isTimerInit + if startsAt W s e then 1 else 0 := by
  cases sessionStep_cases hstore hs with
  | quiet hnot hnotes =>
    rw [hnot]
    exact h.quiet hnotes
  | start f rest s2c msg hat hc hf =>
    rw [hat]
    obtain ⟨hb, hcount⟩ := h.quiet (OnlyNotes.frame_ret f msg s.handler)
    obtain ⟨hb', hcount'⟩ := startSession (W := W) s2c _ hb
    exact ⟨hb', by rw [hcount', hcount]; rfl⟩
  | timer now hactive => exact h.timer hactive now

theorem new (W : Outside) (mem : Field readStoreLen) :
    Bootstrapped (Session.start W mem).handler.net ∧
      (Session.start W mem).handler.net.trace.countP Obs.isTimerInit = 0 := by
  obtain ⟨r, -, htrace, htimer⟩ := start_trace (W := W) mem
  have hinit : (Session.start W mem).handler.net.trace.countP Obs.isTimerInit = 0 := by
    rw [htrace, countP_isTimerInit_sendObs]
  refine ⟨⟨?_, fun id hid => ?_, fun ha => ?_, fun hmem => ?_⟩, hinit⟩
  · simp [htrace]
  · have hne : apiProtoIDInitConnect ≠ id := by
      rintro rfl
      exact absurd hid (by decide)
    rw [hinit, htrace, countP_isPacket_sendObs_of_ne hne]
  · rw [htimer] at ha
    cases ha
  · rw [htrace] at hmem
    exact absurd hmem timerInit_not_mem_sendObs

theorem run {es : List SessionEvent} {mem : Field readStoreLen}
    (hr : (sessionMachine W).run (.start W mem) es = some s) :
    Bootstrapped s.handler.net ∧ s.handler.net.trace.countP Obs.isTimerInit =
      (sessionMachine W).countSteps (startsAt W) (.start W mem) es := by
  have hstep : ∀ (s : Session) e s', (IsReadStore s.readStore ∧ Bootstrapped s.handler.net) →
      (sessionMachine W).step s e = some s' →
      (IsReadStore s'.readStore ∧ Bootstrapped s'.handler.net) ∧
        s'.handler.net.trace.countP Obs.isTimerInit =
          s.handler.net.trace.countP Obs.isTimerInit + if startsAt W s e then 1 else 0 := by
    rintro s e s' ⟨hstore, h⟩ hs
    obtain ⟨hb, hcount⟩ := step hstore h hs
    exact ⟨⟨sessionStep_isReadStore hstore hs, hb⟩, hcount⟩
  obtain ⟨hb, hzero⟩ := new W mem
  refine ⟨(Machine.run_inv (fun s e s' h hs => (hstep s e s' h hs).1) ⟨.new mem, hb⟩ hr).2, ?_⟩
  rw [Machine.run_count (f := fun s : Session => s.handler.net.trace.countP Obs.isTimerInit) hstep
    ⟨.new mem, hb⟩ hr, hzero, Nat.zero_add]

theorem bootstrapsOnce_iff (h : Bootstrapped n) :
    BootstrapsOnce n.trace ↔ n.trace.countP Obs.isTimerInit ≤ 1 := by
  constructor
  · intro hb
    exact hb.init
  · intro hinit
    refine ⟨hinit, h.start ▸ hinit, fun hmem => ?_, fun id hid => ?_⟩
    · have := h.reinit hmem
      omega
    · exact Nat.le_trans (h.request id hid) hinit

end Bootstrapped

variable {es : List SessionEvent} {mem : Field readStoreLen}

/-- A run bootstraps its session once at most exactly if at most one of its steps takes a frame off
the store that starts a session. -/
theorem bootstraps_once_iff (hr : (sessionMachine W).run (.start W mem) es = some s) :
    BootstrapsOnce s.handler.net.trace ↔
      (sessionMachine W).countSteps (startsAt W) (.start W mem) es ≤ 1 := by
  obtain ⟨hb, hcount⟩ := Bootstrapped.run hr
  rw [hb.bootstrapsOnce_iff, hcount]

theorem bootstraps_once_one_response :
    ∃ s, (sessionMachine .program).run (.start .program (zeros readStoreLen)) oneResponse = some s ∧
      BootstrapsOnce s.handler.net.trace := by
  obtain ⟨s, hr⟩ := exists_run_oneResponse
  exact ⟨s, hr, (bootstraps_once_iff hr).2 (by decide +kernel)⟩

/-- The response comes twice: the timer is initialised while it is active and everything is sent again. -/
theorem replayed_response_bootstraps_twice :
    ∃ s, (sessionMachine .program).run (.start .program (zeros readStoreLen))
        [.recv (.read (initConnectRsp 10 ++ initConnectRsp 10)), .recv .pass, .recv .pass] = some s ∧
      Obs.timerInit true ∈ s.handler.net.trace ∧
      s.handler.net.packets.map (fun p => p.1.nProtoID) = [1001, 1002, 3001, 3002, 1002, 3001, 3002] ∧
      ¬ BootstrapsOnce s.handler.net.trace := by
  obtain ⟨s, hr, h⟩ : ∃ s, (sessionMachine .program).run (.start .program (zeros readStoreLen))
      [.recv (.read (initConnectRsp 10 ++ initConnectRsp 10)), .recv .pass, .recv .pass] = some s ∧
        (decide (Obs.timerInit true ∈ s.handler.net.trace), s.handler.net.packets.map fun p => p.1.nProtoID) =
          (true, [1001, 1002, 3001, 3002, 1002, 3001, 3002]) := Option.map_eq_some_iff.1 (by decide +kernel)
  obtain ⟨hinit, hpackets⟩ := Prod.mk.inj h
  have hinit := of_decide_eq_true hinit
  exact ⟨s, hr, hinit, hpackets, fun h => h.idle hinit⟩

end
end FutuOpenD

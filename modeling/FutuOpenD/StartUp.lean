import FutuOpenD.SessionInv

/-!
# The order in which a session starts up

`InitConnect` is the first packet, and the packets that need its response wait for it: before the
first frame that starts a session the trace holds none of them (`StartUpInv.guard`). A packet of the
timer could break this, so the invariant also says that the timer is active only after such a frame.
-/

namespace FutuOpenD
open Bytes Runs Framing

def Obs.StartsSession (W : Outside) : Obs → Bool
  | .frame header pBody => (startsSession W (header, pBody)).isSome
  | _ => false

/-- The protocols that the client may use after the response to `InitConnect` only. -/
def sessionProtoIDs : List UInt32 :=
  [apiProtoIDGlobalState, apiProtoIDQotSub, apiProtoIDQotRegQotPush, apiProtoIDKeepAlive]

def beforeSession (W : Outside) (l : List Obs) : List Obs := l.takeWhile fun o => !o.StartsSession W

def Obs.IsPacketOf (ids : List UInt32) (o : Obs) : Prop :=
  ∃ header packetData, o = .packet header packetData ∧ header.nProtoID ∈ ids

theorem Obs.Quiet.not_isPacketOf {o : Obs} (ho : o.Quiet) (ids : List UInt32) : ¬ o.IsPacketOf ids := by
  rintro ⟨header, packetData, rfl, -⟩
  exact ho

section
variable {W : Outside} {l l' : List Obs} {o : Obs}

theorem beforeSession_append_of_started (h : ∃ o ∈ l, o.StartsSession W = true) :
    beforeSession W (l ++ l') = beforeSession W l := by
  obtain ⟨o, ho, hs⟩ := h
  unfold beforeSession
  rw [List.takeWhile_append, if_neg]
  intro hlen
  have hall := (List.takeWhile_prefix (fun o : Obs => !o.StartsSession W)).eq_of_length hlen
  rw [← hall] at ho
  have hnot := List.all_eq_true.1 List.all_takeWhile o ho
  rw [hs] at hnot
  cases hnot

theorem mem_beforeSession_append (h : o ∈ beforeSession W (l ++ l')) :
    o ∈ beforeSession W l ∨ o ∈ beforeSession W l' := by
  induction l with
  | nil => exact .inr h
  | cons a l ih =>
    unfold beforeSession at h ih ⊢
    rw [List.cons_append, List.takeWhile_cons] at h
    rw [List.takeWhile_cons]
    split at h
    · next ha =>
      rw [if_pos ha]
      rcases List.mem_cons.1 h with rfl | h
      · exact .inl (List.mem_cons_self ..)
      · exact (ih h).imp_left (List.mem_cons_of_mem a)
    · cases h

/-- More of the trace leaves the guard alone if a session has started or if what is added keeps it. -/
theorem guard_append {ids : List UInt32} (h : ∀ o ∈ beforeSession W l, ¬ o.IsPacketOf ids)
    (h' : (∃ o ∈ l, o.StartsSession W = true) ∨ ∀ o ∈ beforeSession W l', ¬ o.IsPacketOf ids) :
    ∀ o ∈ beforeSession W (l ++ l'), ¬ o.IsPacketOf ids := by
  intro o ho
  rcases h' with h' | h'
  · rw [beforeSession_append_of_started h'] at ho
    exact h o ho
  · rcases mem_beforeSession_append ho with ho | ho
    · exact h o ho
    · exact h' o ho

end

structure StartUpInv (W : Outside) (s : Session) : Prop where
  store : IsReadStore s.readStore
  first : ∃ header packetData l, s.handler.net.trace = .packet header packetData :: l ∧
    header.nProtoID = apiProtoIDInitConnect
  timer : s.handler.net.keepAliveTimer.active = true → ∃ o ∈ s.handler.net.trace, o.StartsSession W = true
  guard : ∀ o ∈ beforeSession W s.handler.net.trace, ¬ o.IsPacketOf sessionProtoIDs

section
variable {W : Outside} {s s' : Session} {e : SessionEvent} {n n' : NetCenter}

theorem start_trace (mem : Field readStoreLen) :
    ∃ r, ClientRequest r ∧ (Session.start W mem).handler.net.trace = NetCenter.sendObs W apiProtoIDInitConnect (W.pb r) 1 ∧
      (Session.start W mem).handler.net.keepAliveTimer = ⟨false, 0, 0⟩ :=
  ⟨_, .initConnect, NetCenter.send_trace, NetCenter.send_keepAliveTimer⟩

theorem sendObs_not_isPacketOf {id k : UInt32} {m : PbMessage} {ids : List UInt32} (hid : id ∉ ids) :
    ∀ o ∈ NetCenter.sendObs W id m k, ¬ o.IsPacketOf ids := by
  rintro o ho ⟨header, packetData, rfl, hmem⟩
  obtain ⟨header', packetData', he, rfl⟩ := NetCenter.mem_sendObs ho
  cases he
  exact hid hmem

theorem mem_of_mem_beforeSession {l : List Obs} {o : Obs} (h : o ∈ beforeSession W l) : o ∈ l :=
  (List.takeWhile_prefix _).subset h

namespace StartUpInv

theorem start (hser : ∀ r, ClientRequest r → (W.pb r).serializeToString.isSome) (mem : Field readStoreLen) :
    StartUpInv W (.start W mem) := by
  obtain ⟨r, hr, htrace, htimer⟩ := start_trace (W := W) mem
  refine ⟨.new mem, ?_, fun hactive => ?_, fun o ho => ?_⟩
  · rw [htrace, NetCenter.sendObs_of_isSome (hser r hr)]
    exact ⟨_, _, [], rfl, rfl⟩
  · rw [htimer] at hactive
    cases hactive
  · rw [htrace] at ho
    exact sendObs_not_isPacketOf (by decide) o (mem_of_mem_beforeSession ho)

theorem step (h : StartUpInv W s) (hs : sessionStep W s e = some s') : StartUpInv W s' := by
  have hstore := sessionStep_isReadStore h.store hs
  obtain ⟨header, packetData, l₀, hfirst, hid⟩ := h.first
  cases sessionStep_cases h.store hs with
  | quiet hnot hnotes =>
    obtain ⟨l, hl, hq⟩ := hnotes.trace
    refine ⟨hstore, ⟨header, packetData, l₀ ++ l, by rw [hl, hfirst]; rfl, hid⟩, fun hactive => ?_, ?_⟩
    · rw [hnotes.timer] at hactive
      obtain ⟨o, ho, hstart⟩ := h.timer hactive
      exact ⟨o, by rw [hl]; exact List.mem_append_left l ho, hstart⟩
    · rw [hl]
      exact guard_append h.guard (.inr fun o ho => (hq o (mem_of_mem_beforeSession ho)).not_isPacketOf _)
  | start f rest s2c msg hat hc hf =>
    obtain ⟨k₂, k₃, r₁, r₂, r₃, -, htrace, -⟩ :=
      startSession_spec W s2c ((s.handler.observe (.frame f.1 f.2)).observe (.ret 0 msg))
    have hstart : Obs.StartsSession W (.frame f.1 f.2) = true := by
      show (startsSession W f).isSome = true
      rw [hf]
      rfl
    have hobs : ((s.handler.observe (.frame f.1 f.2)).observe (.ret 0 msg)).net.trace =
        s.handler.net.trace ++ [.frame f.1 f.2, .ret 0 msg] := List.append_assoc ..
    rw [hobs, List.append_assoc] at htrace
    refine ⟨hstore, ⟨header, packetData, l₀ ++ _, by rw [htrace, hfirst]; rfl, hid⟩, fun _ => ?_, ?_⟩
    · exact ⟨.frame f.1 f.2, by rw [htrace]; simp, hstart⟩
    · rw [htrace]
      refine guard_append h.guard (.inr fun o ho => ?_)
      -- nothing of what is added comes before the frame
      rw [beforeSession, List.cons_append, List.takeWhile_cons_of_neg (by rw [hstart]; decide)] at ho
      cases ho
  | timer now hactive =>
    have hstarted := h.timer hactive
    have htrace : (s.handler.net.runTimer W now).trace = s.handler.net.trace ++ _ := NetCenter.send_trace
    refine ⟨hstore, ⟨header, packetData, l₀ ++ _, by rw [htrace, hfirst]; rfl, hid⟩, fun _ => ?_, ?_⟩
    · obtain ⟨o, ho, hstart⟩ := hstarted
      exact ⟨o, by rw [htrace]; exact List.mem_append_left _ ho, hstart⟩
    · rw [htrace]
      exact guard_append h.guard (.inl hstarted)

end StartUpInv

def SessionRequests (nSerialNo : UInt32) (l : List (APIProtoHeader × List UInt8)) : Prop :=
  l.map (fun p => (p.1.nProtoID, p.1.nSerialNo)) =
    [(apiProtoIDGlobalState, nSerialNo), (apiProtoIDQotSub, nSerialNo + 1),
      (apiProtoIDQotRegQotPush, nSerialNo + 2)]

theorem startSession_packets (hser : ∀ r, ClientRequest r → (W.pb r).serializeToString.isSome) (s2c : InitConnect.S2C) (c : Client) :
    ∃ l, (c.startSession W s2c).net.packets = c.net.packets ++ l ∧ SessionRequests c.net.nNextPacketNo l := by
  obtain ⟨k₂, k₃, r₁, r₂, r₃, ⟨hr₁, hr₂, hr₃⟩, htrace, hno⟩ := startSession_spec W s2c c
  obtain ⟨rfl, rfl⟩ := hno (hser r₁ hr₁) (hser r₂ hr₂)
  rw [NetCenter.sendObs_of_isSome (hser r₁ hr₁), NetCenter.sendObs_of_isSome (hser r₂ hr₂),
    NetCenter.sendObs_of_isSome (hser r₃ hr₃)] at htrace
  refine ⟨[NetCenter.packetOf W apiProtoIDGlobalState (W.pb r₁) c.net.nNextPacketNo,
    NetCenter.packetOf W apiProtoIDQotSub (W.pb r₂) (c.net.nNextPacketNo + 1),
    NetCenter.packetOf W apiProtoIDQotRegQotPush (W.pb r₃) (c.net.nNextPacketNo + 2)], ?_, rfl⟩
  unfold NetCenter.packets
  rw [htrace, List.filterMap_append]
  rfl

variable {es : List SessionEvent} {mem : Field readStoreLen}

/-- In every run the first packet is `InitConnect`, the packets of a session come after a frame that
starts one, and a frame that OnRecv takes off the store adds the three requests of a session, with the
next serial numbers, if it starts one, and otherwise only notes that are neither packets nor calls for the
timer. -/
theorem session_start_order (hser : ∀ r, ClientRequest r → (W.pb r).serializeToString.isSome)
    (hr : (sessionMachine W).run (.start W mem) es = some s) :
    (∃ header packetData l, s.handler.net.packets = (header, packetData) :: l ∧
      header.nProtoID = apiProtoIDInitConnect) ∧
    (∀ o ∈ beforeSession W s.handler.net.trace, ¬ o.IsPacketOf sessionProtoIDs) ∧
    ∀ f rest s', codeCut s.readStore.data = some (f, rest) →
      sessionStep W s (.recv .pass) = some s' →
      (∀ s2c, startsSession W f = some s2c → ∃ l, s'.handler.net.packets = s.handler.net.packets ++ l ∧
        SessionRequests s.handler.net.nNextPacketNo l) ∧
      (startsSession W f = none → s'.handler.net.packets = s.handler.net.packets ∧
        s'.handler.net.keepAliveTimer = s.handler.net.keepAliveTimer ∧
        ∃ l, s'.handler.net.trace = s.handler.net.trace ++ l ∧ ∀ o ∈ l, o.Quiet) := by
  have h : StartUpInv W s := Machine.run_inv (fun _ _ _ h hs => h.step hs) (.start hser mem) hr
  refine ⟨?_, h.guard, fun f rest s' hc hs => ?_⟩
  · obtain ⟨header, packetData, l, htrace, hid⟩ := h.first
    refine ⟨header, packetData, l.filterMap Obs.toPacket, ?_, hid⟩
    unfold NetCenter.packets
    rw [htrace]
    rfl
  · obtain ⟨hrecv, -⟩ := Option.ite_none_right_eq_some.1 hs
    have hat := startsAt_pass (W := W) hrecv hc
    cases sessionStep_cases h.store hs with
    | quiet hnot hnotes =>
      constructor
      · intro s2c hf
        rw [hnot, hf] at hat
        cases hat
      · intro _
        exact ⟨hnotes.packets, hnotes.timer, hnotes.trace⟩
    | start f' rest' s2c' msg hat' hc' hf' =>
      rw [hc] at hc'
      cases hc'
      constructor
      · intro s2c hf
        obtain rfl : s2c' = s2c := Option.some.inj (hf'.symm.trans hf)
        obtain ⟨l, hl, hreq⟩ := startSession_packets hser s2c'
          ((s.handler.observe (.frame f.1 f.2)).observe (.ret 0 msg))
        exact ⟨l, by rw [hl, (OnlyNotes.frame_ret f msg s.handler).packets], hreq⟩
      · intro hf
        rw [hf] at hf'
        cases hf'

/-- The response comes, and later the ones to heartbeats. -/
theorem session_start_order_one_response :
    ∃ s₀ s₁ s₂ s₃, (sessionMachine .program).run (.start .program (zeros readStoreLen)) (oneResponse.take 1) = some s₀ ∧
      sessionStep .program s₀ (.recv .pass) = some s₁ ∧
      (sessionMachine .program).run (.start .program (zeros readStoreLen))
        (oneResponse ++ [.recv (.read twoFrames)]) = some s₂ ∧
      sessionStep .program s₂ (.recv .pass) = some s₃ ∧
      (∃ header packetData l, s₂.handler.net.packets = (header, packetData) :: l ∧
        header.nProtoID = apiProtoIDInitConnect) ∧
      (∀ o ∈ beforeSession .program s₂.handler.net.trace, ¬ o.IsPacketOf sessionProtoIDs) ∧
      (∃ l, s₁.handler.net.packets = s₀.handler.net.packets ++ l ∧
        SessionRequests s₀.handler.net.nNextPacketNo l) ∧
      ∃ l, s₃.handler.net.trace = s₂.handler.net.trace ++ l ∧ ∀ o ∈ l, o.Quiet := by
  let start := Session.start .program (zeros readStoreLen)
  -- the frame at the front of the store, and whether it starts a session
  let front := fun s : Session => (codeCut s.readStore.data).map fun p => startsSession .program p.1
  obtain ⟨s₀, hr₀, h₀⟩ : ∃ s, (sessionMachine .program).run start (oneResponse.take 1) = some s ∧
      (front s, (sessionStep .program s (.recv .pass)).isSome) = (some (some ⟨7, 10⟩), true) :=
    Option.map_eq_some_iff.1 (by decide +kernel)
  obtain ⟨s₂, hr₂, h₂⟩ : ∃ s, (sessionMachine .program).run start (oneResponse ++ [.recv (.read twoFrames)]) = some s ∧
      (front s, (sessionStep .program s (.recv .pass)).isSome) = (some none, true) :=
    Option.map_eq_some_iff.1 (by decide +kernel)
  obtain ⟨hfront₀, hs₀⟩ := Prod.mk.inj h₀
  obtain ⟨hfront₂, hs₂⟩ := Prod.mk.inj h₂
  obtain ⟨s₁, hs₀⟩ := Option.isSome_iff_exists.1 hs₀
  obtain ⟨s₃, hs₂⟩ := Option.isSome_iff_exists.1 hs₂
  obtain ⟨⟨f₀, rest₀⟩, hc₀, hf₀⟩ := Option.map_eq_some_iff.1 hfront₀
  obtain ⟨⟨f₂, rest₂⟩, hc₂, hf₂⟩ := Option.map_eq_some_iff.1 hfront₂
  obtain ⟨-, -, hstep₀⟩ := session_start_order program_serializes hr₀
  obtain ⟨hfirst, hguard, hstep₂⟩ := session_start_order program_serializes hr₂
  exact ⟨s₀, s₁, s₂, s₃, hr₀, hs₀, hr₂, hs₂, hfirst, hguard, (hstep₀ _ _ _ hc₀ hs₀).1 _ hf₀,
    ((hstep₂ _ _ _ hc₂ hs₂).2 hf₂).2.2⟩

end
end FutuOpenD

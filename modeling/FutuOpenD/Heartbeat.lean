import FutuOpenD.Bootstrap
import FutuOpenD.KeepAlive
import FutuOpenD.SessionWrites

/-!
# The heartbeat over a whole session

`Beat` is the keep-alive timer as the server gets to see it: off, due once, or beating with a period
that is not 0. As long as the timer is not initialised while it is active, for which libuv promises nothing,
a session is a run of it (`session_heartbeat`): a response that starts a session sets it, and a firing leaves
a period in force. `packet_census` counts the packets of every protocol.
-/

namespace FutuOpenD
open Bytes Runs Framing

/-- A session starts with the interval `k`, or the timer fires. -/
inductive BeatEvent
  | start (k : Int32)
  | fire
deriving DecidableEq

inductive Beat
  | off
  /-- A period of 0: due at once, and then never again. -/
  | once
  | every (period : { p : UInt64 // p ≠ 0 })
deriving DecidableEq

namespace Beat

def ofPeriod (p : UInt64) : Beat := if h : p = 0 then once else every ⟨p, h⟩

/-- Only what is off can be started. -/
def step : Beat → BeatEvent → Option Beat
  | off, .start k => some (ofPeriod (Client.beatPeriod k))
  | once, .fire => some off
  | every period, .fire => some (every period)
  | _, _ => none

def machine : Machine Beat BeatEvent := ⟨step⟩

/-- The timer of libuv that does this. -/
def timer : Beat → UvTimer
  | off => ⟨false, 0, 0⟩
  | once => ⟨true, 0, 0⟩
  | every period => ⟨true, period, period⟩

theorem timer_ofPeriod (p : UInt64) : (ofPeriod p).timer = ⟨true, p, p⟩ := by
  unfold ofPeriod
  split_ifs with h
  · rw [h]
    rfl
  · rfl

/-- A timer that is active fires, and what is left of it. -/
theorem step_fire {b : Beat} (h : b.timer.active = true) :
    ∃ b', b.step .fire = some b' ∧
      b'.timer = { b.timer with active := decide (b.timer.repeatTime ≠ 0) } := by
  cases b with
  | off => cases h
  | once => exact ⟨off, rfl, rfl⟩
  | every period =>
    refine ⟨every period, rfl, ?_⟩
    show (⟨true, period, period⟩ : UvTimer) = ⟨decide (period.1 ≠ 0), period, period⟩
    rw [decide_eq_true period.2]

theorem eq_off {b : Beat} (h : b.timer.active = false) : b = off := by
  cases b with
  | off => rfl
  | once => cases h
  | every period => cases h

/-- A heartbeat whose period is not 0 is started once and only fires after that. -/
theorem run_split {l : List BeatEvent} {b : Beat} (hr : machine.run off l = some b)
    (hpos : ∀ k, .start k ∈ l → Client.beatPeriod k ≠ 0) :
    (l = [] ∧ b = off) ∨ ∃ k n h, l = .start k :: List.replicate n .fire ∧ b = every ⟨Client.beatPeriod k, h⟩ := by
  refine Machine.run_events (J := fun l b => (∀ k, .start k ∈ l → Client.beatPeriod k ≠ 0) → (l = [] ∧ b = off) ∨
    ∃ k n h, l = .start k :: List.replicate n .fire ∧ b = every ⟨Client.beatPeriod k, h⟩)
    (fun l b e b' ih hs hpos => ?_) (fun _ => .inl ⟨rfl, rfl⟩) hr hpos
  rcases ih fun k hk => hpos k (List.mem_append_left _ hk) with ⟨rfl, rfl⟩ | ⟨k, n, h, rfl, rfl⟩
  · cases e with
    | fire => cases hs
    | start k =>
      have h : Client.beatPeriod k ≠ 0 := hpos k (by simp)
      have hevery : ofPeriod (Client.beatPeriod k) = every ⟨Client.beatPeriod k, h⟩ := dif_neg h
      obtain rfl := Option.some.inj hs
      exact .inr ⟨k, 0, h, rfl, hevery⟩
  · cases e with
    | start k' => cases hs
    | fire =>
      obtain rfl := Option.some.inj hs
      refine .inr ⟨k, n + 1, h, ?_, rfl⟩
      rw [List.replicate_succ', List.cons_append]

end Beat

def SessionEvent.isTimer : SessionEvent → Bool
  | .keepAliveTimer _ => true
  | _ => false

/-- What the event means to the heartbeat. -/
def beats (W : Outside) (s : Session) (e : SessionEvent) : List BeatEvent :=
  match e with
  | .keepAliveTimer _ => [.fire]
  | e => ((startedBy W s e).map fun s2c => .start s2c.keepAliveInterval).toList

section
variable {W : Outside} {s s' : Session} {e : SessionEvent} {es : List SessionEvent} {mem : Field readStoreLen}

theorem startsAt_eq (W : Outside) (s : Session) (e : SessionEvent) :
    startsAt W s e = (startedBy W s e).isSome := by
  cases e with
  | recv e =>
    cases e with
    | pass =>
      unfold startsAt startedBy
      cases s.inRecv with
      | false => rfl
      | true =>
        cases codeCut s.readStore.data with
        | none => rfl
        | some p => rfl
    | _ => rfl
  | _ => rfl

theorem beats_of_not (he : e.isTimer = false) (hnot : startsAt W s e = false) : beats W s e = [] := by
  rw [startsAt_eq, Option.isSome_eq_false_iff, Option.isNone_iff_eq_none] at hnot
  cases e with
  | keepAliveTimer now => cases he
  | recv e => exact (congrArg (fun o => (Option.map _ o).toList) hnot)
  | afterWrite status => rfl

theorem step_timer {now : Int64} (hs : sessionStep W s (.keepAliveTimer now) = some s') :
    s.handler.net.keepAliveTimer.active = true ∧
      s' = { s with handler := { s.handler with net := s.handler.net.runTimer W now } } := by
  obtain ⟨⟨-, hactive⟩, hr⟩ := Option.ite_none_right_eq_some.1 hs
  cases hr
  exact ⟨hactive, rfl⟩

/-- The heartbeat `b` after the events `es`, against the client. -/
structure Beating (W : Outside) (start : Session) (es : List SessionEvent) (s : Session) (b : Beat) : Prop where
  run : Beat.machine.run .off ((sessionMachine W).outputs (beats W) start es) = some b
  timer : s.handler.net.keepAliveTimer = b.timer

namespace Beating
variable {start : Session} {b : Beat}

theorem step (h : Beating W start es s b) (hstore : IsReadStore s.readStore)
    (hr : (sessionMachine W).run start es = some s) (hs : (sessionMachine W).step s e = some s')
    (hinit : Obs.timerInit true ∉ s'.handler.net.trace) : ∃ b', Beating W start (es ++ [e]) s' b' := by
  -- what the step adds to the heartbeat, and what becomes of the timer
  have hstep : ∃ b', Beat.machine.run b (beats W s e) = some b' ∧ s'.handler.net.keepAliveTimer = b'.timer := by
    cases he : e.isTimer with
    | true =>
      cases e with
      | keepAliveTimer now =>
        obtain ⟨hactive, rfl⟩ := step_timer hs
        rw [h.timer] at hactive
        obtain ⟨b', hb, htimer⟩ := Beat.step_fire hactive
        refine ⟨b', Machine.run_singleton.trans hb, ?_⟩
        rw [htimer, ← h.timer]
        exact NetCenter.send_keepAliveTimer
      | _ => cases he
    | false =>
      cases sessionStep_cases hstore hs with
      | quiet hnot hnotes =>
        rw [beats_of_not he hnot]
        exact ⟨b, rfl, by rw [hnotes.timer, h.timer]⟩
      | start f rest s2c msg hat hc hf =>
        obtain ⟨hrecv, -⟩ := Bool.and_eq_true_iff.1 hat
        have hbeats : beats W s (.recv .pass) = [.start s2c.keepAliveInterval] := by
          have hstarted := (startedBy_pass (W := W) hrecv hc).trans hf
          exact congrArg (fun o => (Option.map _ o).toList) hstarted
        -- the timer is initialised, so it was off
        obtain rfl : b = .off := by
          obtain ⟨k₂, k₃, r₁, r₂, r₃, -, htrace, -⟩ :=
            startSession_spec W s2c ((s.handler.observe (.frame f.1 f.2)).observe (.ret 0 msg))
          have hmem : Obs.timerInit s.handler.net.keepAliveTimer.active ∈
              (((s.handler.observe (.frame f.1 f.2)).observe (.ret 0 msg)).startSession W s2c).net.trace := by
            rw [htrace]
            exact List.mem_append_right _ (List.mem_append_left _ (List.mem_cons_self ..))
          refine Beat.eq_off (Bool.eq_false_iff.2 fun hactive => hinit ?_)
          rwa [h.timer, hactive] at hmem
        rw [hbeats]
        refine ⟨_, Machine.run_singleton.trans rfl, ?_⟩
        rw [Client.startSession_keepAliveTimer, Beat.timer_ofPeriod]
      | timer now hactive => cases he
  obtain ⟨b', hrun, htimer⟩ := hstep
  refine ⟨b', ?_, htimer⟩
  rw [Machine.outputs_snoc hr hs]
  exact Machine.run_append.2 ⟨b, h.run, hrun⟩

end Beating

theorem beating_run (hr : (sessionMachine W).run (.start W mem) es = some s)
    (hinit : Obs.timerInit true ∉ s.handler.net.trace) : ∃ b, Beating W (.start W mem) es s b := by
  obtain ⟨-, -, h⟩ := Machine.run_events
    (J := fun l s => (sessionMachine W).run (.start W mem) l = some s ∧ IsReadStore s.readStore ∧
      (Obs.timerInit true ∉ s.handler.net.trace → ∃ b, Beating W (.start W mem) l s b))
    (fun l s e s' h hs => by
      obtain ⟨hr, hstore, h⟩ := h
      refine ⟨Machine.run_append.2 ⟨s, hr, Machine.run_singleton.trans hs⟩, sessionStep_isReadStore hstore hs,
        fun hinit => ?_⟩
      obtain ⟨b, hb⟩ := h fun hmem => hinit ((sessionStep_trace hstore hs).subset hmem)
      exact hb.step hstore hr hs hinit)
    ⟨rfl, IsReadStore.new mem, fun _ => ⟨.off, rfl, NetCenter.send_keepAliveTimer⟩⟩ hr
  exact h hinit

/-- A session in which the timer is never initialised while it is active sets the timer and lets it fire as a
heartbeat does. -/
theorem session_heartbeat (hr : (sessionMachine W).run (.start W mem) es = some s)
    (hinit : Obs.timerInit true ∉ s.handler.net.trace) :
    ∃ b, Beat.machine.run .off ((sessionMachine W).outputs (beats W) (.start W mem) es) = some b ∧
      s.handler.net.keepAliveTimer = b.timer := by
  obtain ⟨b, h⟩ := beating_run hr hinit
  exact ⟨b, h.run, h.timer⟩

/-- An interval of one second, and the one firing that it leads to. -/
theorem session_heartbeat_one_second :
    ∃ s, (sessionMachine .program).run (.start .program (zeros readStoreLen))
        [.recv (.read (initConnectRsp 1)), .recv .pass, .recv .pass, .keepAliveTimer 0] = some s ∧
      s.handler.net.keepAliveTimer = Beat.off.timer := by
  obtain ⟨s, hr, hinit⟩ : ∃ s, (sessionMachine .program).run (.start .program (zeros readStoreLen))
      [.recv (.read (initConnectRsp 1)), .recv .pass, .recv .pass, .keepAliveTimer 0] = some s ∧
        decide (Obs.timerInit true ∈ s.handler.net.trace) = false :=
    Option.map_eq_some_iff.1 (by decide +kernel)
  have hout : (sessionMachine .program).outputs (beats .program) (.start .program (zeros readStoreLen))
      [.recv (.read (initConnectRsp 1)), .recv .pass, .recv .pass, .keepAliveTimer 0] = [.start 1, .fire] := by
    decide +kernel
  obtain ⟨b, hrun, htimer⟩ := session_heartbeat hr (of_decide_eq_false hinit)
  have hoff : Beat.machine.run .off [.start 1, .fire] = some .off := by decide
  rw [hout] at hrun
  obtain rfl := Option.some.inj (hrun.symm.trans hoff)
  exact ⟨s, hr, htimer⟩

/-- While the timer is not initialised when active and a session starts with an interval from 2 to 2684354 only,
one response at most starts a session, and from then on the heartbeat goes on, fast enough for the interval. -/
theorem heartbeat_goes_on (hr : (sessionMachine W).run (.start W mem) es = some s)
    (hinit : Obs.timerInit true ∉ s.handler.net.trace)
    (hk : ∀ k, .start k ∈ (sessionMachine W).outputs (beats W) (.start W mem) es →
      2 ≤ k.toInt ∧ k.toInt ≤ 2684354) :
    ((sessionMachine W).outputs (beats W) (.start W mem) es = [] ∧
        s.handler.net.keepAliveTimer.active = false) ∨
      ∃ k n, (sessionMachine W).outputs (beats W) (.start W mem) es = .start k :: List.replicate n .fire ∧
        s.handler.net.keepAliveTimer.active = true ∧ KeepsAlive k s.handler.net.keepAliveTimer := by
  have halive : ∀ k, 2 ≤ k.toInt ∧ k.toInt ≤ 2684354 →
      KeepsAlive k ⟨true, Client.beatPeriod k, Client.beatPeriod k⟩ := fun k hk =>
    (keepsAlive_beatPeriod_iff (by omega)).2 hk
  obtain ⟨b, h⟩ := beating_run hr hinit
  rw [h.timer]
  have hpos : ∀ k, .start k ∈ (sessionMachine W).outputs (beats W) (.start W mem) es → Client.beatPeriod k ≠ 0 := by
    intro k hmem h0
    have hrepeat := (halive k (hk k hmem)).repeat_pos
    rw [h0] at hrepeat
    exact absurd hrepeat (by decide)
  rcases Beat.run_split h.run hpos with ⟨hout, rfl⟩ | ⟨k, n, hne, hout, rfl⟩
  · exact .inl ⟨hout, rfl⟩
  · exact .inr ⟨k, n, hout, rfl, halive k (hk k (by rw [hout]; simp))⟩

/-- A response with an interval of ten seconds, and two firings. -/
theorem heartbeat_goes_on_ten :
    ∃ s, (sessionMachine .program).run (.start .program (zeros readStoreLen)) (oneResponse ++ [.keepAliveTimer 16]) =
        some s ∧
      s.handler.net.keepAliveTimer.active = true ∧ KeepsAlive 10 s.handler.net.keepAliveTimer := by
  obtain ⟨s, hr, hinit⟩ : ∃ s, (sessionMachine .program).run (.start .program (zeros readStoreLen))
      (oneResponse ++ [.keepAliveTimer 16]) = some s ∧ decide (Obs.timerInit true ∈ s.handler.net.trace) = false :=
    Option.map_eq_some_iff.1 (by decide +kernel)
  have hout : (sessionMachine .program).outputs (beats .program) (.start .program (zeros readStoreLen))
      (oneResponse ++ [.keepAliveTimer 16]) = [.start 10, .fire, .fire] := by decide +kernel
  have hten : ∀ k, BeatEvent.start k ∈ [.start 10, .fire, .fire] → k = 10 := by simp
  rcases heartbeat_goes_on hr (of_decide_eq_false hinit) (fun k hk => by rw [hten k (hout ▸ hk)]; decide) with
    ⟨hnil, -⟩ | ⟨k, n, hsplit, h⟩
  · rw [hout] at hnil
    cases hnil
  · rw [hout] at hsplit
    obtain rfl := hten k (by rw [hsplit]; simp)
    exact ⟨s, hr, h⟩

/-- How many packets of the protocol `Send` has handed over. -/
def NetCenter.packetsOf (nProtoID : UInt32) (n : NetCenter) : Nat :=
  n.packets.countP fun p => p.1.nProtoID = nProtoID

theorem countP_numbered (W : Outside) (k nProtoID : UInt32) (rs : List Request) :
    (numbered W k rs).countP (fun p => p.1.nProtoID = nProtoID) = rs.countP fun r => r.protoID = nProtoID := by
  induction rs generalizing k with
  | nil => rfl
  | cons r rs ih =>
    rw [numbered, List.countP_cons, List.countP_cons, ih]
    rfl

/-- The three requests are of three protocols. -/
theorem countP_startRequests (nProtoID : UInt32) (s2c : InitConnect.S2C) :
    (startRequests s2c).countP (fun r => r.protoID = nProtoID) = if nProtoID ∈ bootstrapProtoIDs then 1 else 0 := by
  simp only [startRequests, List.countP_cons, List.countP_nil, Request.protoID, bootstrapProtoIDs, List.mem_cons,
    List.not_mem_nil, or_false]
  by_cases h₁ : nProtoID = apiProtoIDGlobalState
  · subst h₁
    rfl
  · by_cases h₂ : nProtoID = apiProtoIDQotSub
    · subst h₂
      rfl
    · by_cases h₃ : nProtoID = apiProtoIDQotRegQotPush
      · subst h₃
        rfl
      · simp [h₁, h₂, h₃, Ne.symm h₁, Ne.symm h₂, Ne.symm h₃]

/-- Whether the event leads to a packet of the protocol, the first one apart. -/
def sendsAt (W : Outside) (nProtoID : UInt32) (s : Session) (e : SessionEvent) : Bool :=
  (startsAt W s e && nProtoID ∈ bootstrapProtoIDs) || (e.isTimer && apiProtoIDKeepAlive = nProtoID)

theorem countP_emits (W : Outside) (nProtoID : UInt32) (s : Session) (e : SessionEvent) :
    (emits W s e).countP (fun r => r.protoID = nProtoID) = if sendsAt W nProtoID s e then 1 else 0 := by
  cases he : e.isTimer with
  | true =>
    cases e with
    | keepAliveTimer now =>
      simp only [emits, List.countP_cons, List.countP_nil, decide_eq_true_eq, sendsAt, startsAt, SessionEvent.isTimer,
        Bool.false_and, Bool.false_or, Bool.true_and, Nat.zero_add]
      rfl
    | _ => cases he
  | false =>
    have hemits : emits W s e = ((startedBy W s e).map startRequests).getD [] := by
      cases e with
      | keepAliveTimer now => cases he
      | _ => rfl
    rw [hemits, sendsAt, startsAt_eq, he]
    cases startedBy W s e with
    | none => rfl
    | some s2c => simp [countP_startRequests]

theorem packetsOf_run (hser : ∀ r, ClientRequest r → (W.pb r).serializeToString.isSome)
    (hr : (sessionMachine W).run (.start W mem) es = some s) (nProtoID : UInt32) :
    s.handler.net.packetsOf nProtoID = (if apiProtoIDInitConnect = nProtoID then 1 else 0) +
      (sessionMachine W).countSteps (sendsAt W nProtoID) (.start W mem) es := by
  obtain ⟨ws, h⟩ := refines_run hser hr
  rw [NetCenter.packetsOf, h.packets, countP_numbered, allRequests, List.countP_cons,
    Machine.countP_outputs (countP_emits W nProtoID), Nat.add_comm]
  simp only [decide_eq_true_eq]
  rfl

/-- One packet `InitConnect`, one of each of the three requests for each response that starts a
session, one `KeepAlive` for each firing of the timer, and no other. -/
theorem packet_census (hser : ∀ r, ClientRequest r → (W.pb r).serializeToString.isSome)
    (hr : (sessionMachine W).run (.start W mem) es = some s) :
    s.handler.net.packetsOf apiProtoIDInitConnect = 1 ∧
      (∀ nProtoID ∈ bootstrapProtoIDs, s.handler.net.packetsOf nProtoID =
        (sessionMachine W).countSteps (startsAt W) (.start W mem) es) ∧
      s.handler.net.packetsOf apiProtoIDKeepAlive = es.countP SessionEvent.isTimer ∧
      ∀ nProtoID, nProtoID ∉ apiProtoIDInitConnect :: sessionProtoIDs →
        s.handler.net.packetsOf nProtoID = 0 := by
  have hnone : ∀ nProtoID, sendsAt W nProtoID = (fun _ _ => false) →
      (sessionMachine W).countSteps (sendsAt W nProtoID) (.start W mem) es = 0 := by
    intro nProtoID hp
    rw [hp, Machine.countSteps_event (p := fun _ => false) hr]
    simp
  refine ⟨?_, fun nProtoID hid => ?_, ?_, fun nProtoID hid => ?_⟩
  · rw [packetsOf_run hser hr, if_pos rfl, hnone]
    funext s e
    have hboot : apiProtoIDInitConnect ∉ bootstrapProtoIDs := by decide
    have hbeat : apiProtoIDKeepAlive ≠ apiProtoIDInitConnect := by decide
    simp [sendsAt, hboot, hbeat]
  · have hsends : sendsAt W nProtoID = startsAt W := by
      have hbeat : apiProtoIDKeepAlive ≠ nProtoID := by
        rintro rfl
        exact absurd hid (by decide)
      funext s e
      simp [sendsAt, hid, hbeat]
    have hinit : apiProtoIDInitConnect ≠ nProtoID := by
      rintro rfl
      exact absurd hid (by decide)
    rw [packetsOf_run hser hr, if_neg hinit, hsends, Nat.zero_add]
  · have hsends : sendsAt W apiProtoIDKeepAlive = fun _ e => e.isTimer := by
      have hboot : apiProtoIDKeepAlive ∉ bootstrapProtoIDs := by decide
      funext s e
      simp [sendsAt, hboot]
    rw [packetsOf_run hser hr, if_neg (by decide), hsends, Machine.countSteps_event hr, Nat.zero_add]
  · obtain ⟨hinit, hid⟩ := not_or.1 (fun h => hid (List.mem_cons.2 h))
    have hboot : nProtoID ∉ bootstrapProtoIDs := fun h => hid (List.mem_append_left [apiProtoIDKeepAlive] h)
    have hbeat : apiProtoIDKeepAlive ≠ nProtoID := by
      rintro rfl
      exact absurd hid (by decide)
    rw [packetsOf_run hser hr, if_neg (Ne.symm hinit), hnone]
    funext s e
    simp [sendsAt, hboot, hbeat]

theorem packet_census_one_response :
    ∃ s, (sessionMachine .program).run (.start .program (zeros readStoreLen)) oneResponse = some s ∧
      s.handler.net.packetsOf apiProtoIDInitConnect = 1 ∧ s.handler.net.packetsOf apiProtoIDQotSub = 1 ∧
      s.handler.net.packetsOf apiProtoIDKeepAlive = 1 ∧ s.handler.net.packetsOf apiProtoIDQotUpdateTicker = 0 := by
  obtain ⟨s, hr⟩ := exists_run_oneResponse
  obtain ⟨hinit, hboot, hbeat, hother⟩ := packet_census program_serializes hr
  have hone : (sessionMachine .program).countSteps (startsAt .program) (.start .program (zeros readStoreLen)) oneResponse =
      1 := by decide +kernel
  refine ⟨s, hr, hinit, ?_, hbeat, hother _ (by decide)⟩
  rw [hboot apiProtoIDQotSub (by decide), hone]

end
end FutuOpenD

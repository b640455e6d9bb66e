import FutuOpenD.SessionWrites

/-!
# The program from `main` on (`main.cpp`, `TcpConnect::Init`, `TcpConnect::Connect`)

`main` sets the client up and starts to connect, without looking at what fails, and leaves the rest to
`uv_run`. It crashes in `main` without a loop, and in `AfterConnect` if `TcpConnect::Init` failed and the connect
was started nevertheless. Otherwise it is silent, or the connection cannot be made and nothing ever happens
again, or the run is a session, and every session can happen (`program_runs`).
-/

namespace FutuOpenD
open Bytes Runs

/-- What libuv returns to `main`. -/
structure UvSetup where
  /-- `uv_default_loop` returns a loop. -/
  defaultLoop : Bool
  tcpInit : Int
  ip4Addr : Int
  tcpConnect : Int

/-- The client, and where its connection stands. -/
structure Program where
  session : Session
  /-- The `data` of the handle and of the requests are set, and so is `m_pHandler`. -/
  attached : Bool
  /-- `AfterConnect` is still to come. -/
  connecting : Bool
  /-- `uv_read_start` has succeeded. -/
  reading : Bool

namespace Program

/-- `NetCenter::Default()`, after the loop and the connection are set. -/
def new (mem : Field readStoreLen) : Program := ⟨.new mem ⟨NetCenter.new, {}⟩, false, false, false⟩

/-- `TcpConnect::Init`. -/
def tcpInit (uvTcpInit : Int) (p : Program) : Bool × Program :=
  if uvTcpInit ≠ 0 then (false, p) else (true, { p with attached := true })

/-- `TcpConnect::Connect`. -/
def tcpConnect (uvIp4Addr uvTcpConnect : Int) (p : Program) : Bool × Program :=
  if uvIp4Addr ≠ 0 then (false, p)
  else if uvTcpConnect ≠ 0 then (false, p)
  else (true, { p with connecting := true })

/-- `NetCenter::Init`, which does not look at the result of `TcpConnect::Init`. -/
def init (r : UvSetup) (mem : Field readStoreLen) : Bool × Option Program :=
  if r.defaultLoop then (true, some (tcpInit r.tcpInit (new mem)).2) else (false, none)

/-- `main` up to `uv_run`. Without a loop `NetCenter::Connect` calls a connection that is not there. -/
def main (r : UvSetup) (mem : Field readStoreLen) : Outcome Program :=
  match (init r mem).2 with
  | none => .crashed
  | some p => .running (tcpConnect r.ip4Addr r.tcpConnect p).2

end Program

inductive ProgramEvent
  | afterConnect (nStatus uvReadStart : Int)
  | session (e : SessionEvent)

def SessionEvent.isRead : SessionEvent → Bool
  | .recv _ => true
  | _ => false

/-- A callback of `uv_run`. There is one `AfterConnect`, which goes through the `data` of its request, and there
are reads only after a successful `uv_read_start`. -/
def programStep (W : Outside) (p : Program) : ProgramEvent → Option (Outcome Program)
  | .afterConnect nStatus uvReadStart =>
    if p.connecting then
      if p.attached then
        some (.running { p with
          connecting := false
          reading := decide (nStatus = 0 ∧ uvReadStart = 0)
          session := { p.session with handler := { p.session.handler with
            net := p.session.handler.net.handleCall W (TcpConnect.afterConnect nStatus uvReadStart) } } })
      else some .crashed
    else none
  | .session e =>
    if e.isRead → p.reading then (sessionStep W p.session e).map fun s => .running { p with session := s } else none

def programMachine (W : Outside) : Machine (Outcome Program) ProgramEvent := .crashing (programStep W)

/-- `main` starts to connect. -/
def UvSetup.Connects (r : UvSetup) : Prop := r.defaultLoop = true ∧ r.ip4Addr = 0 ∧ r.tcpConnect = 0

/-- What a run of the program is, and what it comes to. -/
inductive ProgramRun (W : Outside) (r : UvSetup) (mem : Field readStoreLen) :
    List ProgramEvent → Outcome Program → Prop
  | noLoop (hloop : r.defaultLoop = false) : ProgramRun W r mem [] .crashed
  /-- Nothing has happened since `main`. -/
  | silent (hloop : r.defaultLoop = true) : ProgramRun W r mem [] (.running ⟨.new mem ⟨NetCenter.new, {}⟩,
      decide (r.tcpInit = 0), decide (r.ip4Addr = 0 ∧ r.tcpConnect = 0), false⟩)
  | notAttached (nStatus uvReadStart : Int) (hconn : r.Connects) (hinit : r.tcpInit ≠ 0) :
      ProgramRun W r mem [.afterConnect nStatus uvReadStart] .crashed
  /-- The connection failed, which is reported and the end. -/
  | failed (nStatus uvReadStart : Int) (hconn : r.Connects) (hinit : r.tcpInit = 0)
      (hne : ¬ (nStatus = 0 ∧ uvReadStart = 0)) : ProgramRun W r mem [.afterConnect nStatus uvReadStart]
        (.running ⟨.new mem ⟨NetCenter.new.observe (.netError nStatus), {}⟩, true, false, false⟩)
  | session (ss : List SessionEvent) {s : Session} (hconn : r.Connects) (hinit : r.tcpInit = 0)
      (hrun : (sessionMachine W).run (.start W mem) ss = some s) :
      ProgramRun W r mem (.afterConnect 0 0 :: ss.map .session) (.running ⟨s, true, false, true⟩)

section
variable {W : Outside} {p : Program} {r : UvSetup} {mem : Field readStoreLen} {es : List ProgramEvent}
variable {o o' : Outcome Program} {e : ProgramEvent}

namespace Program
variable {session : Session} {attached : Bool}

theorem tcpInit_new (uvTcpInit : Int) :
    (tcpInit uvTcpInit (new mem)).2 = ⟨.new mem ⟨NetCenter.new, {}⟩, decide (uvTcpInit = 0), false, false⟩ := by
  unfold tcpInit
  split_ifs with hinit
  · rw [decide_eq_false hinit]
    rfl
  · rw [decide_eq_true (not_not.1 hinit)]
    rfl

theorem tcpConnect_new (uvIp4Addr uvTcpConnect : Int) :
    (tcpConnect uvIp4Addr uvTcpConnect ⟨session, attached, false, false⟩).2 =
      ⟨session, attached, decide (uvIp4Addr = 0 ∧ uvTcpConnect = 0), false⟩ := by
  unfold tcpConnect
  split_ifs with hip hconnect
  · rw [decide_eq_false fun h => hip h.1]
  · rw [decide_eq_false fun h => hconnect h.2]
  · rw [decide_eq_true ⟨not_not.1 hip, not_not.1 hconnect⟩]

end Program

/-- `main` does nothing but start to connect. -/
theorem main_of_loop (hloop : r.defaultLoop = true) : Program.main r mem = .running ⟨.new mem ⟨NetCenter.new, {}⟩,
    decide (r.tcpInit = 0), decide (r.ip4Addr = 0 ∧ r.tcpConnect = 0), false⟩ := by
  unfold Program.main Program.init
  rw [if_pos hloop]
  show Outcome.running (Program.tcpConnect _ _ (Program.tcpInit _ _).2).2 = _
  rw [Program.tcpInit_new, Program.tcpConnect_new]

theorem main_of_no_loop (hloop : r.defaultLoop = false) : Program.main r mem = .crashed := by
  unfold Program.main Program.init
  rw [if_neg (by simp [hloop])]

/-- Without reads, a timer and an outstanding write nothing can happen. -/
theorem programStep_session_idle {n : NetCenter} (hread : p.reading = false) (hp : p.session = .new mem ⟨n, {}⟩)
    (htimer : n.keepAliveTimer.active = false) (hfl : n.quoteConn.uv.inFlight = none) (e : SessionEvent) :
    programStep W p (.session e) = none := by
  cases e with
  | recv e => exact if_neg fun h => by simp [hread, SessionEvent.isRead] at h
  | afterWrite status =>
    rw [programStep, if_pos nofun, hp]
    refine congrArg (Option.map _) (if_neg fun h => ?_)
    have hsome : n.quoteConn.uv.inFlight.isSome = true := h.2
    rw [hfl] at hsome
    cases hsome
  | keepAliveTimer now =>
    rw [programStep, if_pos nofun, hp]
    refine congrArg (Option.map _) (if_neg fun h => ?_)
    have hactive : n.keepAliveTimer.active = true := h.2
    rw [htimer] at hactive
    cases hactive

theorem afterConnect_of_ne {nStatus uvReadStart : Int} (hne : ¬ (nStatus = 0 ∧ uvReadStart = 0)) :
    TcpConnect.afterConnect nStatus uvReadStart = .onError nStatus := by
  unfold TcpConnect.afterConnect
  split_ifs with hstatus hret
  · rfl
  · rfl
  · exact absurd ⟨not_not.1 hstatus, not_not.1 hret⟩ hne

theorem programStep_afterConnect {nStatus uvReadStart : Int} (hconn : p.connecting = false) :
    programStep W p (.afterConnect nStatus uvReadStart) = none :=
  if_neg fun h => by simp [hconn] at h

/-- The only step after `main` is `AfterConnect`, if it was started. -/
theorem ProgramRun.step_silent (hloop : r.defaultLoop = true)
    (hs : programStep W ⟨.new mem ⟨NetCenter.new, {}⟩, decide (r.tcpInit = 0),
      decide (r.ip4Addr = 0 ∧ r.tcpConnect = 0), false⟩ e = some o') : ProgramRun W r mem [e] o' := by
  cases e with
  | session e =>
    rw [programStep_session_idle rfl rfl rfl rfl] at hs
    cases hs
  | afterConnect nStatus uvReadStart =>
    obtain ⟨hconnecting, hs⟩ := Option.ite_none_right_eq_some.1 hs
    have hconn : r.Connects := ⟨hloop, of_decide_eq_true hconnecting⟩
    by_cases hinit : r.tcpInit = 0
    · rw [if_pos (decide_eq_true hinit)] at hs
      cases hs
      simp only [decide_eq_true hinit]
      by_cases hzero : nStatus = 0 ∧ uvReadStart = 0
      · obtain ⟨rfl, rfl⟩ := hzero
        exact .session [] hconn hinit rfl
      · rw [afterConnect_of_ne hzero, decide_eq_false hzero]
        exact .failed nStatus uvReadStart hconn hinit hzero
    · rw [if_neg (by simpa using hinit)] at hs
      cases hs
      exact .notAttached nStatus uvReadStart hconn hinit

theorem ProgramRun.step (h : ProgramRun W r mem es o) (hs : (programMachine W).step o e = some o') :
    ProgramRun W r mem (es ++ [e]) o' := by
  cases h with
  | noLoop hloop => cases hs
  | silent hloop => exact step_silent hloop hs
  | notAttached nStatus uvReadStart hconn hinit => cases hs
  | failed nStatus uvReadStart hconn hinit hne =>
    have hstep : programStep W _ e = some o' := hs
    cases e with
    | session e =>
      rw [programStep_session_idle rfl rfl rfl rfl] at hstep
      cases hstep
    | afterConnect nStatus uvReadStart =>
      rw [programStep_afterConnect rfl] at hstep
      cases hstep
  | @session ss s hconn hinit hrun =>
    have hstep : programStep W _ e = some o' := hs
    cases e with
    | session e =>
      obtain ⟨-, hmap⟩ := Option.ite_none_right_eq_some.1 hstep
      obtain ⟨s', hs', rfl⟩ := Option.map_eq_some_iff.1 hmap
      have hrun' : (sessionMachine W).run (.start W mem) (ss ++ [e]) = some s' :=
        Machine.run_append.2 ⟨s, hrun, Machine.run_singleton.trans hs'⟩
      have h : ProgramRun W r mem (.afterConnect 0 0 :: (ss ++ [e]).map .session) (.running ⟨s', true, false, true⟩) :=
        .session (ss ++ [e]) hconn hinit hrun'
      rwa [List.map_append] at h
    | afterConnect nStatus uvReadStart =>
      rw [programStep_afterConnect rfl] at hstep
      cases hstep

theorem run_session_events (ss : List SessionEvent) (hread : p.reading = true) :
    (programMachine W).run (.running p) (ss.map .session) =
      ((sessionMachine W).run p.session ss).map fun s => .running { p with session := s } := by
  induction ss generalizing p with
  | nil => rfl
  | cons e ss ih =>
    have hstep : (programMachine W).step (.running p) (.session e) =
        ((sessionMachine W).step p.session e).map fun s => .running { p with session := s } := if_pos fun _ => hread
    rw [List.map_cons, Machine.run, Machine.run, hstep]
    cases (sessionMachine W).step p.session e with
    | none => rfl
    | some s => exact ih (p := { p with session := s }) hread

/-- Each of them can happen. -/
theorem ProgramRun.run (h : ProgramRun W r mem es o) : (programMachine W).run (Program.main r mem) es = some o := by
  have hready : r.Connects → Program.main r mem = .running ⟨.new mem ⟨NetCenter.new, {}⟩, decide (r.tcpInit = 0),
      true, false⟩ := fun hconn => by rw [main_of_loop hconn.1, decide_eq_true hconn.2]
  cases h with
  | noLoop hloop => rw [main_of_no_loop hloop, Machine.run_nil]
  | silent hloop => rw [main_of_loop hloop, Machine.run_nil]
  | notAttached nStatus uvReadStart hconn hinit =>
    rw [hready hconn, Machine.run_singleton, decide_eq_false hinit]
    rfl
  | failed nStatus uvReadStart hconn hinit hne =>
    have hstep : programStep W ⟨.new mem ⟨NetCenter.new, {}⟩, true, true, false⟩ (.afterConnect nStatus uvReadStart) =
        some (.running ⟨.new mem ⟨NetCenter.new.observe (.netError nStatus), {}⟩, true, false, false⟩) := by
      rw [programStep, if_pos rfl, if_pos rfl, afterConnect_of_ne hne, decide_eq_false hne]
      rfl
    rw [hready hconn, Machine.run_singleton, decide_eq_true hinit]
    exact hstep
  | session ss hconn hinit hrun =>
    have hopen : (programMachine W).step (.running ⟨.new mem ⟨NetCenter.new, {}⟩, true, true, false⟩)
        (.afterConnect 0 0) = some (.running ⟨.start W mem, true, false, true⟩) := rfl
    rw [hready hconn, decide_eq_true hinit]
    refine Machine.run_cons.2 ⟨_, hopen, ?_⟩
    rw [run_session_events ss rfl, hrun]
    rfl

end
end FutuOpenD

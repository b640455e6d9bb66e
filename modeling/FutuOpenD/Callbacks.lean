import FutuOpenD.TcpConnect
import FutuOpenD.OnRecv

/-!
# What the callbacks report (`TcpConnect::AfterConnect`, `AfterRead`, `AfterWrite`)

`connMachine` runs both sides of a connection. For each callback, and each pass of the loop that
`AfterRead` enters, it notes in a `Callback` the operations whose results the callback learnt and the
calls of `ITcpHandler` it made. A handler that calls `Send` shows up as a `send` between two events.
`faithful_iff` says that the reports are faithful until a `uv_read_start` fails.
-/

namespace FutuOpenD
open Bytes Runs

/-- An operation whose result a callback learns. -/
inductive Operation
  | connect (nStatus : Int)
  | readStart (nRet : Int)
  | read (nread : Int)
  | write (status : Int)
  | followUpWrite (nRet : Int)
deriving DecidableEq

/-- The call that reports an operation, if it failed with the code `nErr`. -/
def reportCode (nErr : Int) : List TcpHandlerCall := if nErr ≠ 0 then [.onError nErr] else []

def reportRead (errno : UvErrno) (nread : Int) : List TcpHandlerCall :=
  if nread = uvEOF ∨ nread = errno.uvECONNRESET then [.onDisconnect]
  else if nread < 0 then [.onError nread]
  else []

/-- How the failure of an operation is to be reported; a success is not. -/
def Operation.report (errno : UvErrno) : Operation → List TcpHandlerCall
  | .connect nStatus => reportCode nStatus
  | .readStart nRet => reportCode nRet
  | .read nread => reportRead errno nread
  | .write status => reportCode status
  | .followUpWrite nRet => reportCode nRet

def TcpHandlerCall.reportsFailure : TcpHandlerCall → Bool
  | .onConnect => false
  | .onError _ => true
  | .onDisconnect => true

structure Callback where
  ops : List Operation
  calls : List TcpHandlerCall
deriving DecidableEq

structure Callback.Faithful (errno : UvErrno) (b : Callback) : Prop where
  failures : b.calls.filter TcpHandlerCall.reportsFailure = b.ops.flatMap (Operation.report errno)
  nonzero : .onError 0 ∉ b.calls
  connected : .onConnect ∈ b.calls → .connect 0 ∈ b.ops ∧ .readStart 0 ∈ b.ops

def callLog (errno : UvErrno) (sha1 : List UInt8 → Field 20) : RecvHandler (List TcpHandlerCall) where
  sha1 := sha1
  errno := errno
  handlePacket := fun _ _ _ calls => calls
  shaCheckFail := fun _ calls => calls
  onError := fun nUvErr calls => calls ++ [.onError nUvErr]
  onDisconnect := fun calls => calls ++ [.onDisconnect]

/-- Both sides of a connection, and what its callbacks did so far. -/
structure Connection where
  writeSide : TcpConnect
  readSide : ReadSide (List TcpHandlerCall)
  callbacks : List Callback

inductive ConnEvent
  | afterConnect (nStatus uvReadStart : Int)
  | recv (e : ReadEvent)
  | afterWrite (status uvRet : Int)
  | send (pData : List UInt8) (uvRet : Int)

/-- `AfterConnect` calls `uv_read_start` only after a connect that succeeded. -/
def connectOps (nStatus uvReadStart : Int) : List Operation :=
  .connect nStatus :: if nStatus = 0 then [.readStart uvReadStart] else []

def readOps : ReadEvent → List Operation
  | .read bytes => [.read bytes.length]
  | .readError nread => [.read nread]
  | .pass => []

/-- The completed write, and the call of `uv_write` in `c'` that was not there in `c`, if any. -/
def writeOps (status : Int) (c c' : TcpConnect) : List Operation :=
  .write status :: (c'.uv.calls.drop c.uv.calls.length).map fun call => .followUpWrite call.ret

namespace Connection

def note (ops : List Operation) (calls : List TcpHandlerCall) (s : Connection) : Connection :=
  { s with callbacks := s.callbacks ++ [⟨ops, calls⟩] }

end Connection

/-- The read side starts each event with an empty list of calls. -/
def connStep (errno : UvErrno) (sha1 : List UInt8 → Field 20) (s : Connection) : ConnEvent → Option Connection
  | .afterConnect nStatus uvReadStart =>
    some (s.note (connectOps nStatus uvReadStart) [TcpConnect.afterConnect nStatus uvReadStart])
  | .recv e =>
    (readStep (callLog errno sha1) { s.readSide with handler := [] } e).map fun r =>
      { s with readSide := r }.note (readOps e) r.handler
  | .afterWrite status uvRet =>
    (TcpConnect.writeStep s.writeSide (.afterWrite status uvRet)).map fun c =>
      { s with writeSide := c }.note (writeOps status s.writeSide c)
        (s.writeSide.complete.afterWrite status uvRet).2.toList
  | .send pData uvRet =>
    (TcpConnect.writeStep s.writeSide (.send pData uvRet)).map fun c => { s with writeSide := c }

def connMachine (errno : UvErrno) (sha1 : List UInt8 → Field 20) : Machine Connection ConnEvent :=
  ⟨connStep errno sha1⟩

/-- The connect succeeds and `uv_read_start` does not. -/
def ConnEvent.ReadStartFails : ConnEvent → Prop
  | .afterConnect nStatus uvReadStart => nStatus = 0 ∧ uvReadStart ≠ 0
  | _ => False

section
variable {errno : UvErrno} {call : TcpHandlerCall} {o : Operation} {b : Callback}

theorem reportsFailure_of_mem_reportCode {nErr : Int} (h : call ∈ reportCode nErr) :
    call.reportsFailure = true ∧ call ≠ .onError 0 := by
  unfold reportCode at h
  split_ifs at h with hne
  · rw [List.mem_singleton.1 h]
    exact ⟨rfl, fun he => hne (TcpHandlerCall.onError.inj he)⟩
  · cases h

theorem reportsFailure_of_mem_reportRead {nread : Int} (h : call ∈ reportRead errno nread) :
    call.reportsFailure = true ∧ call ≠ .onError 0 := by
  unfold reportRead at h
  split_ifs at h with hclosed hneg
  · rw [List.mem_singleton.1 h]
    exact ⟨rfl, nofun⟩
  · rw [List.mem_singleton.1 h]
    refine ⟨rfl, fun he => ?_⟩
    have := TcpHandlerCall.onError.inj he
    omega
  · cases h

theorem Operation.mem_report (h : call ∈ o.report errno) : call.reportsFailure = true ∧ call ≠ .onError 0 := by
  cases o with
  | connect nStatus => exact reportsFailure_of_mem_reportCode h
  | readStart nRet => exact reportsFailure_of_mem_reportCode h
  | read nread => exact reportsFailure_of_mem_reportRead h
  | write status => exact reportsFailure_of_mem_reportCode h
  | followUpWrite nRet => exact reportsFailure_of_mem_reportCode h

theorem Callback.Faithful.of_reports (h : b.calls = b.ops.flatMap (Operation.report errno)) : b.Faithful errno := by
  have hcalls : ∀ call ∈ b.calls, call.reportsFailure = true ∧ call ≠ .onError 0 := by
    intro call hcall
    rw [h] at hcall
    obtain ⟨o, -, ho⟩ := List.mem_flatMap.1 hcall
    exact Operation.mem_report ho
  refine ⟨?_, fun hzero => (hcalls _ hzero).2 rfl, fun hconnect => ?_⟩
  · rw [List.filter_eq_self.2 fun call hcall => (hcalls call hcall).1, h]
  · exact absurd (hcalls _ hconnect).1 nofun

theorem afterConnect_faithful_iff (nStatus uvReadStart : Int) :
    (Callback.mk (connectOps nStatus uvReadStart) [TcpConnect.afterConnect nStatus uvReadStart]).Faithful errno ↔
      ¬ (nStatus = 0 ∧ uvReadStart ≠ 0) := by
  by_cases hstatus : nStatus = 0
  · subst hstatus
    by_cases hret : uvReadStart = 0
    · subst hret
      have hfaithful : (Callback.mk (connectOps 0 0) [TcpConnect.afterConnect 0 0]).Faithful errno := by
        refine ⟨rfl, ?_, fun _ => ⟨?_, ?_⟩⟩ <;> simp [TcpConnect.afterConnect, connectOps]
      simp [hfaithful]
    · -- the code that is passed on is that of the connect
      have hcall : TcpConnect.afterConnect 0 uvReadStart = .onError 0 := by
        simp [TcpConnect.afterConnect, hret]
      constructor
      · intro h
        exact absurd (by simp [hcall]) h.nonzero
      · intro h
        exact absurd ⟨rfl, hret⟩ h
  · constructor
    · rintro - ⟨h, -⟩
      exact hstatus h
    · intro _
      apply Callback.Faithful.of_reports
      simp [TcpConnect.afterConnect, connectOps, Operation.report, reportCode, hstatus]

end

section
variable {errno : UvErrno} {sha1 : List UInt8 → Field 20}

theorem onRecvStep_callLog {b b' : Buffer} {calls calls' : List TcpHandlerCall}
    (h : onRecvStep (callLog errno sha1) b calls = some (b', calls')) : calls' = calls := by
  unfold onRecvStep at h
  dsimp only at h
  split_ifs at h
  · exact (Prod.mk.inj (Option.some.inj h)).2.symm
  · exact (Prod.mk.inj (Option.some.inj h)).2.symm

theorem afterRead_calls (nread : Int) {r : ReadSide (List TcpHandlerCall)} (hr : r.handler = []) :
    (afterRead (callLog errno sha1) nread r).handler = reportRead errno nread := by
  have herrno : (callLog errno sha1).errno = errno := rfl
  unfold afterRead reportRead
  rw [herrno]
  by_cases hneg : nread < 0
  · rw [if_pos hneg]
    by_cases heof : nread = uvEOF
    · rw [if_pos heof, if_pos (.inl heof)]
      simp [callLog, hr]
    · rw [if_neg heof]
      by_cases hreset : nread = errno.uvECONNRESET
      · rw [if_pos hreset, if_pos (.inr hreset)]
        simp [callLog, hr]
      · rw [if_neg hreset, if_neg (not_or.2 ⟨heof, hreset⟩), if_pos hneg]
        simp [callLog, hr]
  · have hclosed : ¬ (nread = uvEOF ∨ nread = errno.uvECONNRESET) := by
      have hreset := errno.neg
      unfold uvEOF
      omega
    rw [if_neg hneg, if_neg hclosed, if_neg hneg]
    exact hr

theorem readStep_calls {r r' : ReadSide (List TcpHandlerCall)} {e : ReadEvent} (hr : r.handler = [])
    (h : readStep (callLog errno sha1) r e = some r') : r'.handler = (readOps e).flatMap (Operation.report errno) := by
  cases e with
  | read bytes =>
    obtain ⟨-, he⟩ := Option.ite_none_right_eq_some.1 h
    rw [← Option.some.inj he]
    exact (afterRead_calls (r := { r with readStore := r.readStore.fill bytes }) _ hr).trans
      (List.append_nil _).symm
  | readError nread =>
    obtain ⟨-, he⟩ := Option.ite_none_right_eq_some.1 h
    rw [← Option.some.inj he]
    exact (afterRead_calls _ hr).trans (List.append_nil _).symm
  | pass =>
    obtain ⟨-, he⟩ := Option.ite_none_right_eq_some.1 h
    split at he
    · rw [← Option.some.inj he]
      exact hr
    · next b calls hpass =>
      rw [← Option.some.inj he]
      exact (onRecvStep_callLog hpass).trans hr

theorem afterWrite_calls (errno : UvErrno) (status uvRet : Int) (c : TcpConnect) :
    (c.afterWrite status uvRet).2.toList =
      (writeOps status c (c.afterWrite status uvRet).1).flatMap (Operation.report errno) := by
  have hcode : ∀ nErr : Int, (if nErr ≠ 0 then some (TcpHandlerCall.onError nErr) else none).toList =
      reportCode nErr := by
    intro nErr
    unfold reportCode
    split_ifs <;> rfl
  unfold TcpConnect.afterWrite writeOps
  dsimp only
  rw [hcode]
  split_ifs with hmore hret
  · obtain ⟨rfl, -⟩ := hmore
    simp [TcpConnect.uvWrite, Operation.report, reportCode]
  · obtain ⟨rfl, -⟩ := hmore
    simp [TcpConnect.uvWrite, Operation.report, reportCode, not_not.1 hret]
  · simp [Operation.report]

end

namespace Connection
variable {errno : UvErrno} {sha1 : List UInt8 → Field 20} {s s' : Connection} {e : ConnEvent}

/-- What a step adds to the list of callbacks: nothing, or one that is faithful unless a
`uv_read_start` failed. -/
theorem connStep_cases (h : connStep errno sha1 s e = some s') :
    s'.callbacks = s.callbacks ∧ ¬ e.ReadStartFails ∨
      ∃ b : Callback, s'.callbacks = s.callbacks ++ [b] ∧ (b.Faithful errno ↔ ¬ e.ReadStartFails) := by
  cases e with
  | afterConnect nStatus uvReadStart =>
    cases h
    exact .inr ⟨_, rfl, afterConnect_faithful_iff nStatus uvReadStart⟩
  | recv e =>
    obtain ⟨r, hr, rfl⟩ := Option.map_eq_some_iff.1 h
    have hb : (Callback.mk (readOps e) r.handler).Faithful errno := .of_reports (readStep_calls rfl hr)
    exact .inr ⟨_, rfl, iff_of_true hb id⟩
  | afterWrite status uvRet =>
    obtain ⟨c, hc, rfl⟩ := Option.map_eq_some_iff.1 h
    obtain ⟨-, hc⟩ := Option.ite_none_right_eq_some.1 hc
    cases hc
    have hb := Callback.Faithful.of_reports (b := ⟨_, _⟩) (afterWrite_calls errno status uvRet s.writeSide.complete)
    exact .inr ⟨_, rfl, iff_of_true hb id⟩
  | send pData uvRet =>
    cases h
    exact .inl ⟨rfl, id⟩

def Faithful (errno : UvErrno) (s : Connection) : Prop := ∀ b ∈ s.callbacks, b.Faithful errno

end Connection

/-- Whatever the callbacks and the results of the libuv calls, every callback so far has reported
faithfully as long as no `uv_read_start` has failed, and no longer. -/
theorem faithful_iff (errno : UvErrno) (sha1 : List UInt8 → Field 20) (c : TcpConnect) (r : ReadSide (List TcpHandlerCall))
    (es : List ConnEvent) :
    (connMachine errno sha1).AllStates (Connection.Faithful errno) ⟨c, r, []⟩ es ↔
      (connMachine errno sha1).AllSteps (fun _ e => ¬ e.ReadStartFails) ⟨c, r, []⟩ es := by
  refine Machine.allStates_iff_allSteps (I := Connection.Faithful errno) (fun _ h => h) ?_ ?_ nofun
  · intro s e s' hs he h b hb
    rcases Connection.connStep_cases h with ⟨heq, -⟩ | ⟨b', heq, hb'⟩
    · exact hs b (heq ▸ hb)
    · rw [heq] at hb
      rcases List.mem_append.1 hb with hb | hb
      · exact hs b hb
      · rw [List.mem_singleton.1 hb]
        exact hb'.2 he
  · intro s e s' _ he h hs'
    rcases Connection.connStep_cases h with ⟨-, hne⟩ | ⟨b, heq, hb⟩
    · exact he hne
    · refine he (hb.1 (hs' b ?_))
      rw [heq]
      simp

/-- The connect succeeds, `uv_read_start` returns -107 (`UV_ENOTCONN`), and the application is told
about an error 0. -/
theorem read_start_error_reported_as_zero :
    ¬ (connMachine .linux fun _ => zeros 20).AllStates (Connection.Faithful .linux)
        ⟨TcpConnect.new, ReadSide.new (zeros _) [], []⟩ [.afterConnect 0 (-107)] ∧
      TcpConnect.afterConnect 0 (-107) = .onError 0 := by
  refine ⟨?_, rfl⟩
  intro h
  have hb := (h.2 _ rfl).head ⟨connectOps 0 (-107), [TcpConnect.afterConnect 0 (-107)]⟩ (List.mem_singleton_self _)
  exact hb.nonzero (by decide)

end FutuOpenD

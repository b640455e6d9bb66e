import FutuOpenD.Surroundings

/-!
# The period of the heartbeat (`QuoteHandler::OnRsp_InitConnect`, `NetCenter::StartKeepAliveTimer`)

The server's interval `k`, in seconds, goes through `k * 4 / 5` in `int`, then `* 1000` in `int`, and
is converted to a `uint64_t` for the timer. `keepsAlive_iff` says for which positive `k` the timer that
comes out of it repeats, within `k` seconds, and no product overflows on the way: from 2 seconds to
2684354, which is thirty-one days.
-/

namespace FutuOpenD

def FitsInt (x : Int) : Prop := -2 ^ 31 ≤ x ∧ x < 2 ^ 31

/-- The timer fires within `k` seconds, and again and again, and was set up without an overflow. -/
structure KeepsAlive (k : Int32) (t : UvTimer) : Prop where
  times_four : FitsInt (k.toInt * 4)
  times_thousand : FitsInt ((k * 4 / 5).toInt * 1000)
  timeout_pos : 0 < t.timeout.toNat
  timeout_lt : (t.timeout.toNat : Int) < 1000 * k.toInt
  repeat_pos : 0 < t.repeatTime.toNat
  repeat_lt : (t.repeatTime.toNat : Int) < 1000 * k.toInt

section
variable {x k : Int32}

theorem toInt_mul_of_fits {y : Int32} (h : FitsInt (x.toInt * y.toInt)) : (x * y).toInt = x.toInt * y.toInt := by
  obtain ⟨hlo, hhi⟩ := h
  rw [Int32.toInt_mul]
  exact Int.bmod_eq_of_le (by omega) (by omega)

theorem toNat_toUInt64_of_nonneg (h : 0 ≤ x.toInt) : (x.toInt64.toUInt64.toNat : Int) = x.toInt := by
  have hle : 0 ≤ x.toInt64 := by
    rw [Int64.le_iff_toInt_le, Int32.toInt_toInt64]
    exact h
  rw [Int64.toNat_toUInt64_of_le hle, Int64.toNatClampNeg, Int32.toInt_toInt64]
  exact Int.toNat_of_nonneg h

theorem toInt_four_fifths (hpos : 0 < k.toInt) (h : FitsInt (k.toInt * 4)) :
    (k * 4 / 5).toInt = k.toInt * 4 / 5 := by
  have h4 : (k * 4).toInt = k.toInt * 4 := toInt_mul_of_fits h
  rw [Int32.toInt_div_of_ne_right _ _ (by decide), h4]
  exact Int.tdiv_eq_ediv_of_nonneg (by omega)

theorem toNat_beatPeriod (hpos : 0 < k.toInt) (h4 : FitsInt (k.toInt * 4))
    (h1000 : FitsInt ((k * 4 / 5).toInt * 1000)) :
    ((Client.beatPeriod k).toNat : Int) = k.toInt * 4 / 5 * 1000 := by
  have hmul : (k * 4 / 5 * 1000).toInt = k.toInt * 4 / 5 * 1000 := by
    rw [toInt_mul_of_fits h1000, toInt_four_fifths hpos h4]
    rfl
  rw [Client.beatPeriod, toNat_toUInt64_of_nonneg (by omega), hmul]

theorem keepsAlive_beatPeriod_iff (hpos : 0 < k.toInt) :
    KeepsAlive k ⟨true, Client.beatPeriod k, Client.beatPeriod k⟩ ↔ 2 ≤ k.toInt ∧ k.toInt ≤ 2684354 := by
  constructor
  · rintro ⟨h4, h1000, hbeat, -, -, -⟩
    have hperiod := toNat_beatPeriod hpos h4 h1000
    have hbeat' : 0 < (Client.beatPeriod k).toNat := hbeat
    have hhi := h1000.2
    rw [toInt_four_fifths hpos h4] at hhi
    omega
  · rintro ⟨hlo, hhi⟩
    have h4 : FitsInt (k.toInt * 4) := ⟨by omega, by omega⟩
    have hfifths := toInt_four_fifths hpos h4
    have h1000 : FitsInt ((k * 4 / 5).toInt * 1000) := by
      rw [hfifths]
      exact ⟨by omega, by omega⟩
    have hperiod := toNat_beatPeriod hpos h4 h1000
    have hbeat : 0 < (Client.beatPeriod k).toNat := by omega
    have hsoon : ((Client.beatPeriod k).toNat : Int) < 1000 * k.toInt := by omega
    exact ⟨h4, h1000, hbeat, hsoon, hbeat, hsoon⟩

end

/-- A successful response with the positive interval `k` sets the timer up so that it keeps the
connection alive exactly if `k` is from 2 to 2684354. -/
theorem keepsAlive_iff (W : Outside) (header : APIProtoHeader) (pData : List UInt8) (nLen : Int32)
    {rsp : InitConnect.Response} (hrsp : W.parseInitConnect pData nLen = some rsp) (hret : rsp.retType = 0)
    (hpos : 0 < rsp.getS2C.keepAliveInterval.toInt) (c : Client) :
    KeepsAlive rsp.getS2C.keepAliveInterval (c.onRspInitConnect W header pData nLen).net.keepAliveTimer ↔
      2 ≤ rsp.getS2C.keepAliveInterval.toInt ∧ rsp.getS2C.keepAliveInterval.toInt ≤ 2684354 := by
  rw [Client.onRspInitConnect_of_success hrsp hret, Client.startSession_keepAliveTimer]
  exact keepsAlive_beatPeriod_iff hpos

/-- The timer after a response with the interval `k` and user 7. -/
def timerFor (k : Int32) : UvTimer :=
  ((⟨NetCenter.new, {}⟩ : Client).onRspInitConnect .program (Reply.successOf k).header
    (Wire.encode (Reply.successOf k).records) (Reply.successOf k).header.nBodyLen.toInt32).net.keepAliveTimer

theorem keepsAlive_iff_ten : KeepsAlive 10 (timerFor 10) := by
  have hrsp : Outside.program.parseInitConnect (Wire.encode (Reply.successOf 10).records)
      (Reply.successOf 10).header.nBodyLen.toInt32 = some ⟨0, "", some ⟨7, 10⟩⟩ := by decide +kernel
  exact (keepsAlive_iff .program _ _ _ hrsp rfl (by decide) ⟨NetCenter.new, {}⟩).2 (by decide)

/-- For one second the timer is started with a repeat time of 0, so that it fires once and never
again. For 2684355 seconds the last product overflows. -/
theorem one_second_never_repeats : ¬ KeepsAlive 1 (timerFor 1) ∧ ¬ KeepsAlive 2684355 (timerFor 2684355) := by
  constructor
  · intro h
    have hrepeat : (timerFor 1).repeatTime = 0 := by decide +kernel
    have hpos := h.repeat_pos
    rw [hrepeat] at hpos
    exact absurd hpos (by decide)
  · intro h
    exact absurd h.times_thousand.2 (by decide)

end FutuOpenD

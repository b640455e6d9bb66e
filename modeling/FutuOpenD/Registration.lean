import FutuOpenD.NetCenter

/-!
# Registering for pushes, along with a subscription or by itself

A push registration is what both messages can describe: the securities, the sub types, the rehab
types, and the two flags. `Req_RegPush` writes all of its arguments into the message. `Req_Subscribe`
has the same arguments and a field for each in `Qot_Sub.C2S`, and leaves `regPushRehabTypeList` empty,
so the two agree on calls without rehab types and on no others (`registration_agrees_iff`).
-/

namespace FutuOpenD

theorem SubType.toInt32_injective : Function.Injective SubType.toInt32 := by
  intro a b h
  cases a <;> cases b <;> first | rfl | exact absurd h (by decide)

theorem RehabType.toInt32_injective : Function.Injective RehabType.toInt32 := by
  intro a b h
  cases a <;> cases b <;> first | rfl | exact absurd h (by decide)

/-- A registration for pushes, or its withdrawal. -/
structure PushRegistration where
  securities : List Security
  subTypes : List Int32
  rehabTypes : List Int32
  isReg : Bool
  isFirstPush : Option Bool
deriving DecidableEq

/-- A subscription without `isRegOrUnRegPush` registers nothing. -/
def Qot_Sub.C2S.registration (c2s : Qot_Sub.C2S) : Option PushRegistration :=
  c2s.isRegOrUnRegPush.map fun isReg =>
    ⟨c2s.securityList, c2s.subTypeList, c2s.regPushRehabTypeList, isReg, c2s.isFirstPush⟩

def Qot_RegQotPush.C2S.registration (c2s : Qot_RegQotPush.C2S) : PushRegistration :=
  ⟨c2s.securityList, c2s.subTypeList, c2s.rehabTypeList, c2s.isRegOrUnReg, c2s.isFirstPush⟩

/-- The arguments of `Req_Subscribe`. -/
structure SubscribeArgs where
  stocks : List Security
  subTypes : List SubType
  isSub : Bool
  bRegPush : Bool
  rehabTypes : List RehabType
  bFirstPush : Bool

structure RegPushArgs where
  stocks : List Security
  subTypes : List SubType
  rehabTypes : List RehabType
  isRegPush : Bool
  bFirstPush : Bool

namespace SubscribeArgs

def c2s (a : SubscribeArgs) : Qot_Sub.C2S :=
  NetCenter.subscribeC2S a.stocks a.subTypes a.isSub a.bRegPush a.rehabTypes a.bFirstPush

/-- The registration alone, with the arguments in the place that `Req_RegPush` has for them. -/
def regPush (a : SubscribeArgs) : RegPushArgs :=
  ⟨a.stocks, a.subTypes, a.rehabTypes, a.bRegPush, a.bFirstPush⟩

/-- Each argument is in the field of the message that is there for it. -/
structure CarriedBy (a : SubscribeArgs) (c2s : Qot_Sub.C2S) : Prop where
  securityList : c2s.securityList = a.stocks
  subTypeList : c2s.subTypeList = a.subTypes.map SubType.toInt32
  isSubOrUnSub : c2s.isSubOrUnSub = a.isSub
  isRegOrUnRegPush : c2s.isRegOrUnRegPush = some a.bRegPush
  regPushRehabTypeList : c2s.regPushRehabTypeList = a.rehabTypes.map RehabType.toInt32
  isFirstPush : c2s.isFirstPush = some a.bFirstPush

end SubscribeArgs

def RegPushArgs.c2s (a : RegPushArgs) : Qot_RegQotPush.C2S :=
  NetCenter.regPushC2S a.stocks a.subTypes a.rehabTypes a.isRegPush a.bFirstPush

theorem RegPushArgs.c2s_injective : Function.Injective RegPushArgs.c2s := by
  rintro ⟨stocks, subTypes, rehabTypes, isRegPush, bFirstPush⟩ ⟨stocks', subTypes', rehabTypes', isRegPush', bFirstPush'⟩ h
  obtain ⟨hstocks, hsub, hrehab, hreg, hfirst⟩ := Qot_RegQotPush.C2S.mk.inj h
  have hsub' : subTypes = subTypes' := List.map_injective_iff.2 SubType.toInt32_injective hsub
  have hrehab' : rehabTypes = rehabTypes' := List.map_injective_iff.2 RehabType.toInt32_injective hrehab
  have hstocks' : stocks = stocks' := hstocks
  have hreg' : isRegPush = isRegPush' := hreg
  have hfirst' : bFirstPush = bFirstPush' := Option.some.inj hfirst
  subst hstocks' hsub' hrehab' hreg' hfirst'
  rfl

/-- `Req_Subscribe` builds the same message from two calls that differ in the rehab types only. -/
theorem SubscribeArgs.c2s_eq_iff {a a' : SubscribeArgs} :
    a.c2s = a'.c2s ↔ { a with rehabTypes := [] } = { a' with rehabTypes := [] } := by
  obtain ⟨stocks, subTypes, isSub, bRegPush, rehabTypes, bFirstPush⟩ := a
  obtain ⟨stocks', subTypes', isSub', bRegPush', rehabTypes', bFirstPush'⟩ := a'
  constructor
  · intro h
    obtain ⟨hstocks, hsub, hisSub, hreg, -, hfirst⟩ := Qot_Sub.C2S.mk.inj h
    have hsub' : subTypes = subTypes' := List.map_injective_iff.2 SubType.toInt32_injective hsub
    have hstocks' : stocks = stocks' := hstocks
    have hisSub' : isSub = isSub' := hisSub
    have hreg' : bRegPush = bRegPush' := Option.some.inj hreg
    have hfirst' : bFirstPush = bFirstPush' := Option.some.inj hfirst
    subst hstocks' hsub' hisSub' hreg' hfirst'
    rfl
  · intro h
    obtain ⟨rfl, rfl, rfl, rfl, -, rfl⟩ := SubscribeArgs.mk.inj h
    rfl

theorem SubscribeArgs.carried_iff (a : SubscribeArgs) : a.CarriedBy a.c2s ↔ a.rehabTypes = [] := by
  constructor
  · intro h
    exact List.map_eq_nil_iff.1 h.regPushRehabTypeList.symm
  · intro h
    refine ⟨rfl, rfl, rfl, rfl, ?_, rfl⟩
    rw [h]
    rfl

/-- A call of `Req_Subscribe` carries its arguments and describes the registration that `Req_RegPush`
would exactly if it has no rehab types. Its message determines the other arguments, and the message of
`Req_RegPush` determines all of them. -/
theorem registration_agrees_iff (a : SubscribeArgs) :
    (a.CarriedBy a.c2s ∧ a.c2s.registration = some a.regPush.c2s.registration ↔ a.rehabTypes = []) ∧
      (∀ a' : SubscribeArgs, a.c2s = a'.c2s ↔ { a with rehabTypes := [] } = { a' with rehabTypes := [] }) ∧
      Function.Injective RegPushArgs.c2s := by
  refine ⟨?_, fun _ => SubscribeArgs.c2s_eq_iff, RegPushArgs.c2s_injective⟩
  constructor
  · rintro ⟨hcarried, -⟩
    exact a.carried_iff.1 hcarried
  · intro h
    refine ⟨a.carried_iff.2 h, ?_⟩
    have hrehab : a.rehabTypes.map RehabType.toInt32 = [] := by simp [h]
    show some (PushRegistration.mk a.stocks _ [] a.bRegPush _) = some (PushRegistration.mk a.stocks _ _ _ _)
    rw [← hrehab]
    rfl

def backwardKLine : SubscribeArgs := ⟨[⟨1, "00700"⟩], [.klDay], true, true, [.backward], true⟩

/-- The rehab type is lost: the message is that of a call without it, and registers for something else
than `Req_RegPush` would. -/
theorem rehab_types_dropped :
    ¬ backwardKLine.CarriedBy backwardKLine.c2s ∧
      backwardKLine.c2s.registration ≠ some backwardKLine.regPush.c2s.registration ∧
      ¬ Function.Injective SubscribeArgs.c2s := by
  refine ⟨?_, by decide, ?_⟩
  · rintro ⟨-, -, -, -, hrehab, -⟩
    cases hrehab
  · intro hinj
    have he : backwardKLine = { backwardKLine with rehabTypes := [] } := hinj rfl
    cases congrArg SubscribeArgs.rehabTypes he

end FutuOpenD

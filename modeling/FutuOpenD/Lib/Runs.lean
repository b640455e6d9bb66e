import Mathlib.Data.List.Basic

/-!
# Runs of a partial step function

A `Machine` says what an event does to a state (`none`: the event cannot happen there). `run` feeds
a list of events. `AllStates P` and `AllSteps C` speak about every state and every step of one run;
`allStates_iff_allSteps` is the rule for a safety property that holds exactly as long as every step
meets a given condition, and `run_hist` the induction rule for an invariant that mentions the events
so far. `Machine.crashing` is a machine of which a step may be the last.
-/

namespace Runs

structure Machine (σ ε : Type*) where
  step : σ → ε → Option σ

namespace Machine
variable {σ ε : Type*}

/-- The state after the events, if all of them could happen. -/
def run (M : Machine σ ε) : σ → List ε → Option σ
  | s, [] => some s
  | s, e :: es => (M.step s e).bind (M.run · es)

/-- `P` holds in `s` and in every state that `es` leads through. -/
def AllStates (M : Machine σ ε) (P : σ → Prop) : σ → List ε → Prop
  | s, [] => P s
  | s, e :: es => P s ∧ ∀ s', M.step s e = some s' → M.AllStates P s' es

/-- Every step taken along `es` from `s` meets `C`, a condition on the event and the state
before it. -/
def AllSteps (M : Machine σ ε) (C : σ → ε → Prop) : σ → List ε → Prop
  | _, [] => True
  | s, e :: es => ∀ s', M.step s e = some s' → C s e ∧ M.AllSteps C s' es

/-- How many of the steps taken along `es` from `s` satisfy `p`. -/
def countSteps (M : Machine σ ε) (p : σ → ε → Bool) : σ → List ε → Nat
  | _, [] => 0
  | s, e :: es =>
    match M.step s e with
    | none => 0
    | some s' => (if p s e then 1 else 0) + M.countSteps p s' es

/-- What the steps taken along `es` from `s` put out. -/
def outputs {ω : Type*} (M : Machine σ ε) (out : σ → ε → List ω) : σ → List ε → List ω
  | _, [] => []
  | s, e :: es =>
    match M.step s e with
    | none => []
    | some s' => out s e ++ M.outputs out s' es

variable {M : Machine σ ε} {P I : σ → Prop} {C : σ → ε → Prop} {s t : σ} {e : ε} {es : List ε}

@[simp] theorem run_nil : M.run s [] = some s := rfl

theorem run_cons : M.run s (e :: es) = some t ↔ ∃ s', M.step s e = some s' ∧ M.run s' es = some t := by
  simp only [run, Option.bind_eq_some_iff]

theorem run_singleton : M.run s [e] = M.step s e := by
  simp only [run, Option.bind_fun_some]

theorem run_append {fs : List ε} : M.run s (es ++ fs) = some t ↔ ∃ s', M.run s es = some s' ∧ M.run s' fs = some t := by
  induction es generalizing s with
  | nil => simp
  | cons e es ih =>
    rw [List.cons_append, run_cons]
    constructor
    · rintro ⟨s₁, h₁, h₂⟩
      obtain ⟨s', h, h'⟩ := ih.1 h₂
      exact ⟨s', run_cons.2 ⟨s₁, h₁, h⟩, h'⟩
    · rintro ⟨s', h, h'⟩
      obtain ⟨s₁, h₁, h₂⟩ := run_cons.1 h
      exact ⟨s₁, h₁, ih.2 ⟨s', h₂, h'⟩⟩

theorem outputs_cons {ω : Type*} {out : σ → ε → List ω} {s' : σ} (hs : M.step s e = some s') :
    M.outputs out s (e :: es) = out s e ++ M.outputs out s' es := by
  simp only [outputs, hs]

theorem allSteps_cons {s' : σ} (hs : M.step s e = some s') :
    M.AllSteps C s (e :: es) ↔ C s e ∧ M.AllSteps C s' es := by
  simp only [AllSteps, hs, Option.some.injEq, forall_eq']

theorem outputs_snoc {ω : Type*} {out : σ → ε → List ω} {t' : σ} (hr : M.run s es = some t)
    (hs : M.step t e = some t') : M.outputs out s (es ++ [e]) = M.outputs out s es ++ out t e := by
  induction es generalizing s with
  | nil =>
    cases hr
    simp only [List.nil_append, outputs, hs, List.append_nil]
  | cons e' es ih =>
    obtain ⟨s₁, h₁, h₂⟩ := run_cons.1 hr
    simp only [List.cons_append, outputs, h₁, ih h₂, List.append_assoc]

theorem mem_outputs {ω : Type*} {out : σ → ε → List ω} {o : ω} (h : o ∈ M.outputs out s es) :
    ∃ s' e, o ∈ out s' e := by
  induction es generalizing s with
  | nil => cases h
  | cons e es ih =>
    rw [outputs] at h
    split at h
    · cases h
    · rcases List.mem_append.1 h with h | h
      · exact ⟨s, e, h⟩
      · exact ih h

/-- What satisfies `q` in the output, when a step puts out one such thing if `p` holds of it, and none
otherwise. -/
theorem countP_outputs {ω : Type*} {out : σ → ε → List ω} {q : ω → Bool} {p : σ → ε → Bool}
    (h : ∀ s e, (out s e).countP q = if p s e then 1 else 0) (s : σ) (es : List ε) :
    (M.outputs out s es).countP q = M.countSteps p s es := by
  induction es generalizing s with
  | nil => rfl
  | cons e es ih =>
    rw [outputs, countSteps]
    cases M.step s e with
    | none => rfl
    | some s' =>
      dsimp only
      rw [List.countP_append, h, ih]

/-- In a run all events are steps. -/
theorem countSteps_event {p : ε → Bool} (hr : M.run s es = some t) :
    M.countSteps (fun _ e => p e) s es = es.countP p := by
  induction es generalizing s with
  | nil => rfl
  | cons e es ih =>
    obtain ⟨s₁, h₁, h₂⟩ := run_cons.1 hr
    rw [countSteps, h₁, List.countP_cons]
    dsimp only
    rw [ih h₂, Nat.add_comm]

/-- Executable when the condition on the states is. -/
def decAllStates (M : Machine σ ε) [DecidablePred P] :
    (s : σ) → (es : List ε) → Decidable (M.AllStates P s es)
  | s, [] => inferInstanceAs (Decidable (P s))
  | s, e :: es =>
    match h : M.step s e with
    | none => decidable_of_iff (P s) ⟨fun hp => ⟨hp, fun _ hs => by rw [h] at hs; cases hs⟩, And.left⟩
    | some s' =>
      have := decAllStates M s' es
      decidable_of_iff (P s ∧ M.AllStates P s' es)
        ⟨fun hp => ⟨hp.1, fun s'' hs => by rw [h] at hs; cases hs; exact hp.2⟩, fun hp => ⟨hp.1, hp.2 s' h⟩⟩

def decAllSteps (M : Machine σ ε) [∀ s e, Decidable (C s e)] :
    (s : σ) → (es : List ε) → Decidable (M.AllSteps C s es)
  | _, [] => isTrue trivial
  | s, e :: es =>
    match h : M.step s e with
    | none => isTrue fun _ hs => by rw [h] at hs; cases hs
    | some s' =>
      have := decAllSteps M s' es
      decidable_of_iff (C s e ∧ M.AllSteps C s' es)
        ⟨fun hc s'' hs => by rw [h] at hs; cases hs; exact hc, fun hc => hc s' h⟩

instance [DecidablePred P] : Decidable (M.AllStates P s es) := decAllStates M s es

instance [∀ s e, Decidable (C s e)] : Decidable (M.AllSteps C s es) := decAllSteps M s es

theorem AllStates.head (h : M.AllStates P s es) : P s := by
  cases es with
  | nil => exact h
  | cons e es => exact h.1

theorem AllStates.last (h : M.AllStates P s es) (hr : M.run s es = some t) : P t := by
  induction es generalizing s with
  | nil => cases hr; exact h
  | cons e es ih =>
    obtain ⟨s₁, h₁, h₂⟩ := run_cons.1 hr
    exact ih (h.2 s₁ h₁) h₂

theorem AllStates.allSteps (h : M.AllStates P s es) :
    M.AllSteps (fun s e => ∀ s', M.step s e = some s' → P s') s es := by
  induction es generalizing s with
  | nil => trivial
  | cons e es ih =>
    intro s' hs
    refine ⟨?_, ih (h.2 s' hs)⟩
    intro s'' hs'
    exact (h.2 s'' hs').head

theorem AllStates.init {fs : List ε} (h : M.AllStates P s (es ++ fs)) : M.AllStates P s es := by
  induction es generalizing s with
  | nil => exact h.head
  | cons e es ih => exact ⟨h.1, fun s' hs => ih (h.2 s' hs)⟩

theorem AllStates.append {fs : List ε} (h : M.AllStates P s es) (hr : M.run s es = some t)
    (h' : M.AllStates P t fs) : M.AllStates P s (es ++ fs) := by
  induction es generalizing s with
  | nil =>
    cases hr
    exact h'
  | cons e es ih =>
    obtain ⟨s₁, h₁, h₂⟩ := run_cons.1 hr
    refine ⟨h.1, fun s' hs => ?_⟩
    rw [h₁] at hs
    cases hs
    exact ih (h.2 s₁ h₁) h₂

theorem AllSteps.last (h : M.AllSteps C s (es ++ [e])) (hr : M.run s es = some t) {t' : σ}
    (hs : M.step t e = some t') : C t e := by
  induction es generalizing s with
  | nil =>
    cases hr
    exact (h t' hs).1
  | cons e es ih =>
    obtain ⟨s₁, h₁, h₂⟩ := run_cons.1 hr
    exact ih (h s₁ h₁).2 h₂

theorem AllSteps.of_forall (h : ∀ s, ∀ e ∈ es, C s e) (s : σ) : M.AllSteps C s es := by
  induction es generalizing s with
  | nil => trivial
  | cons e es ih =>
    intro s' _
    refine ⟨h s e (by simp), ih ?_ s'⟩
    intro s e he
    exact h s e (by simp [he])

theorem AllSteps.and {D : σ → ε → Prop} (h : M.AllSteps C s es) (h' : M.AllSteps D s es) :
    M.AllSteps (fun s e => C s e ∧ D s e) s es := by
  induction es generalizing s with
  | nil => trivial
  | cons e es ih =>
    intro s' hs
    obtain ⟨hc, hrest⟩ := h s' hs
    obtain ⟨hd, hrest'⟩ := h' s' hs
    exact ⟨⟨hc, hd⟩, ih hrest hrest'⟩

/-- Induction along a run, for an invariant of the events so far and the state they lead to. -/
theorem run_hist {J : List ε → σ → Prop}
    (hstep : ∀ l s e s', J l s → C s e → M.step s e = some s' → J (l ++ [e]) s')
    {l : List ε} (h : J l s) (hc : M.AllSteps C s es) (hr : M.run s es = some t) :
    J (l ++ es) t := by
  induction es generalizing s l with
  | nil => cases hr; simpa using h
  | cons e es ih =>
    obtain ⟨s₁, h₁, h₂⟩ := run_cons.1 hr
    obtain ⟨hce, hrest⟩ := hc s₁ h₁
    simpa using ih (hstep l s e s₁ h hce h₁) hrest h₂

/-- The same without a condition on the steps. -/
theorem run_events {J : List ε → σ → Prop} (hstep : ∀ l s e s', J l s → M.step s e = some s' → J (l ++ [e]) s')
    (h : J [] s) (hr : M.run s es = some t) : J es t :=
  run_hist (C := fun _ _ => True) (l := []) (fun l s e s' h _ => hstep l s e s' h) h
    (AllSteps.of_forall (fun _ _ _ => trivial) s) hr

theorem run_inv (hstep : ∀ s e s', I s → M.step s e = some s' → I s') (h : I s)
    (hr : M.run s es = some t) : I t :=
  run_events (J := fun _ s => I s) (fun _ => hstep) h hr

/-- `P` holds all along a run exactly when every step of it meets `C`, provided that a step meeting
`C` keeps the invariant `I`, which implies `P`, and that a step not meeting it leads out of `P`. -/
theorem allStates_iff_allSteps (hP : ∀ s, I s → P s)
    (hstep : ∀ s e s', I s → C s e → M.step s e = some s' → I s')
    (hbad : ∀ s e s', I s → ¬ C s e → M.step s e = some s' → ¬ P s') (h : I s) :
    M.AllStates P s es ↔ M.AllSteps C s es := by
  induction es generalizing s with
  | nil => exact ⟨fun _ => trivial, fun _ => hP s h⟩
  | cons e es ih =>
    constructor
    · rintro ⟨-, hall⟩ s' hs
      have hc : C s e := by
        by_contra hc
        exact hbad s e s' h hc hs (hall s' hs).head
      exact ⟨hc, (ih (hstep s e s' h hc hs)).1 (hall s' hs)⟩
    · intro hall
      refine ⟨hP s h, fun s' hs => ?_⟩
      obtain ⟨hc, hrest⟩ := hall s' hs
      exact (ih (hstep s e s' h hc hs)).2 hrest

/-- Events that `R` does not see can be left out of a run. -/
theorem run_filter {R : σ → σ → Prop} {keep : ε → Bool} {s' : σ}
    (hskip : ∀ s t e s', R s t → keep e = false → M.step s e = some s' → R s' t)
    (hkeep : ∀ s t e s', R s t → keep e = true → M.step s e = some s' → ∃ t', M.step t e = some t' ∧ R s' t')
    (h : R s t) (hr : M.run s es = some s') : ∃ t', M.run t (es.filter keep) = some t' ∧ R s' t' := by
  induction es generalizing s t with
  | nil =>
    cases hr
    exact ⟨t, rfl, h⟩
  | cons e es ih =>
    obtain ⟨s₁, h₁, h₂⟩ := run_cons.1 hr
    cases he : keep e with
    | false =>
      rw [List.filter_cons_of_neg (by rw [he]; exact Bool.false_ne_true)]
      exact ih (hskip s t e s₁ h he h₁) h₂
    | true =>
      obtain ⟨t₁, ht₁, h'⟩ := hkeep s t e s₁ h he h₁
      obtain ⟨t', ht', hR⟩ := ih h' h₂
      rw [List.filter_cons_of_pos he]
      exact ⟨t', run_cons.2 ⟨t₁, ht₁, ht'⟩, hR⟩

theorem allStates_of_inv (hP : ∀ s, I s → P s) (hstep : ∀ s e s', I s → M.step s e = some s' → I s')
    (h : I s) : M.AllStates P s es := by
  induction es generalizing s with
  | nil => exact hP s h
  | cons e es ih => exact ⟨hP s h, fun s' hs => ih (hstep s e s' h hs)⟩

theorem allSteps_of_inv (hC : ∀ s, ∀ e ∈ es, I s → C s e)
    (hstep : ∀ s, ∀ e ∈ es, ∀ s', I s → M.step s e = some s' → I s') (h : I s) : M.AllSteps C s es := by
  induction es generalizing s with
  | nil => trivial
  | cons e es ih =>
    intro s' hs
    refine ⟨hC s e (by simp) h, ih (fun s e he => hC s e (by simp [he])) (fun s e he => ?_) ?_⟩
    · exact hstep s e (by simp [he])
    · exact hstep s e (by simp) s' h hs

/-- A quantity that a step raises by one when `p` holds of it, and keeps otherwise, counts the
steps that satisfy `p`. -/
theorem run_count {p : σ → ε → Bool} {f : σ → Nat}
    (hstep : ∀ s e s', I s → M.step s e = some s' → I s' ∧ f s' = f s + if p s e then 1 else 0)
    (h : I s) (hr : M.run s es = some t) : f t = f s + M.countSteps p s es := by
  induction es generalizing s with
  | nil => cases hr; rfl
  | cons e es ih =>
    obtain ⟨s₁, h₁, h₂⟩ := run_cons.1 hr
    obtain ⟨hI, hf⟩ := hstep s e s₁ h h₁
    rw [ih hI h₂, hf]
    simp only [countSteps, h₁]
    omega

end Machine

/-- What is left of a program after a step. -/
inductive Outcome (σ : Type*)
  | running (s : σ)
  | crashed

namespace Outcome
variable {σ τ : Type*}

def map (f : σ → τ) : Outcome σ → Outcome τ
  | running s => running (f s)
  | crashed => crashed

/-- `P` holds of the state, if there still is one. -/
def Holds (P : σ → Prop) : Outcome σ → Prop
  | running s => P s
  | crashed => True

theorem Holds.imp {P Q : σ → Prop} (h : ∀ s, P s → Q s) {o : Outcome σ} (ho : o.Holds P) : o.Holds Q := by
  cases o with
  | running s => exact h s ho
  | crashed => trivial

end Outcome

namespace Machine
variable {σ ε : Type*} {I : σ → Prop} {step : σ → ε → Option (Outcome σ)} {e : ε} {o o' : Outcome σ}

/-- Nothing happens after a crash. -/
def crashing (step : σ → ε → Option (Outcome σ)) : Machine (Outcome σ) ε where
  step := fun
    | .running s, e => step s e
    | .crashed, _ => none

theorem crashing_inv (hstep : ∀ s e o, I s → step s e = some o → o.Holds I) (ho : o.Holds I)
    (hs : (crashing step).step o e = some o') : o'.Holds I := by
  cases o with
  | running s => exact hstep s e o' ho hs
  | crashed => cases hs

end Machine
end Runs

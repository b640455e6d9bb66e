import Mathlib.Data.List.Basic

/-!
# Cutting frames off a stream that arrives in pieces

A `Cutter` takes one frame off the front of a list, or waits (`none`); `stable` says that more input
never changes a frame already cut. `Drains l os r`: cutting `l` until it waits gives the frames `os`
and leaves `r`. It is a relation, so a cutter that takes a frame without consuming anything has no
`Drains` at all (`exists_drains_iff`). `Feeds` does the same for a receiver that gets the input piece
by piece and keeps what is left between the pieces; `feeds_iff_drains` says that the pieces do not
matter.
-/

namespace Framing

/-- Takes one frame off the front of a list, the same one whatever follows. -/
structure Cutter (β ω : Type*) where
  cut : List β → Option (ω × List β)
  stable : ∀ {l o r} (m : List β), cut l = some (o, r) → cut (l ++ m) = some (o, r ++ m)

namespace Cutter
variable {β ω : Type*}

/-- Cutting `l` until the cutter waits gives `os` and leaves `r`. -/
inductive Drains (c : Cutter β ω) : List β → List ω → List β → Prop
  | stop {l : List β} (h : c.cut l = none) : Drains c l [] l
  | next {l r r' : List β} {o : ω} {os : List ω} (h : c.cut l = some (o, r)) (hr : Drains c r os r') :
      Drains c l (o :: os) r'

/-- A receiver holding `l` gets the pieces `ms` one by one and cuts after each. -/
inductive Feeds (c : Cutter β ω) : List β → List (List β) → List ω → List β → Prop
  | nil {l : List β} : Feeds c l [] [] l
  | cons {l m r r' : List β} {ms : List (List β)} {os os' : List ω} (h : Drains c (l ++ m) os r)
      (hr : Feeds c r ms os' r') : Feeds c l (m :: ms) (os ++ os') r'

/-- `r` is a place at which the cutter looks when it works through `l`. -/
inductive Reaches (c : Cutter β ω) : List β → List β → Prop
  | refl {l : List β} : Reaches c l l
  | next {l r r' : List β} {o : ω} (h : c.cut l = some (o, r)) (hr : Reaches c r r') : Reaches c l r'

/-- Cutting `l` some number of times gives `os` and leaves `r`. -/
inductive Takes (c : Cutter β ω) : List β → List ω → List β → Prop
  | refl {l : List β} : Takes c l [] l
  | next {l r r' : List β} {o : ω} {os : List ω} (h : c.cut l = some (o, r)) (hr : Takes c r os r') :
      Takes c l (o :: os) r'

variable {c c' : Cutter β ω} {l m r r' : List β} {o : ω} {os os' : List ω}

theorem cut_eq_none_of_append (h : c.cut (l ++ m) = none) : c.cut l = none := by
  cases hc : c.cut l with
  | none => rfl
  | some p => rw [c.stable m hc] at h; cases h

namespace Drains

theorem rest (h : c.Drains l os r) : c.cut r = none := by
  induction h with
  | stop h => exact h
  | next _ _ ih => exact ih

theorem reaches (h : c.Drains l os r) : c.Reaches l r := by
  induction h with
  | stop _ => exact .refl
  | next h _ ih => exact .next h ih

theorem det (h : c.Drains l os r) (h' : c.Drains l os' r') : os = os' ∧ r = r' := by
  induction h generalizing os' with
  | stop h =>
    cases h' with
    | stop _ => exact ⟨rfl, rfl⟩
    | next h' _ => rw [h] at h'; cases h'
  | next h _ ih =>
    cases h' with
    | stop h' => rw [h] at h'; cases h'
    | next h' hr =>
      rw [h] at h'; cases h'
      obtain ⟨rfl, rfl⟩ := ih hr
      exact ⟨rfl, rfl⟩

theorem append (h : c.Drains l os r) (h' : c.Drains (r ++ m) os' r') :
    c.Drains (l ++ m) (os ++ os') r' := by
  induction h with
  | stop _ => exact h'
  | next h _ ih => exact .next (c.stable m h) (ih h')

theorem split (h : c.Drains (l ++ m) os r) :
    ∃ os₁ r₁ os₂, c.Drains l os₁ r₁ ∧ c.Drains (r₁ ++ m) os₂ r ∧ os = os₁ ++ os₂ := by
  generalize hw : l ++ m = w at h
  induction h generalizing l with
  | @stop w h =>
    subst hw
    exact ⟨[], l, [], .stop (cut_eq_none_of_append h), .stop h, rfl⟩
  | @next w r r' o os h hr ih =>
    subst hw
    cases hc : c.cut l with
    | none => exact ⟨[], l, o :: os, .stop hc, .next h hr, rfl⟩
    | some p =>
      obtain ⟨o₁, r₁⟩ := p
      have h₁ := c.stable m hc
      rw [h] at h₁; cases h₁
      obtain ⟨os₁, r₂, os₂, hd, hd', rfl⟩ := ih rfl
      exact ⟨o :: os₁, r₂, os₂, .next hc hd, hd', rfl⟩

theorem not_stuck (h : c.Drains l os r) : c.cut l ≠ some (o, l) := by
  intro hc
  induction h with
  | stop h => rw [hc] at h; cases h
  | next h _ ih =>
    have hh := hc
    rw [h] at hh; cases hh
    exact ih hc

/-- When what is left is always a suffix, each frame consumes something. -/
theorem length_le (hsuf : ∀ {l o r}, c.cut l = some (o, r) → r <:+ l) (h : c.Drains l os r) :
    os.length + r.length ≤ l.length := by
  induction h with
  | stop _ => simp
  | @next l r r' o os h hr ih =>
    have hs := hsuf h
    have hne : r.length ≠ l.length := fun he => by
      rw [hs.eq_of_length he] at h
      exact (Drains.next h (hs.eq_of_length he ▸ hr)).not_stuck h
    have := hs.length_le
    rw [List.length_cons]
    omega

/-- A cutter that agrees at every place it reaches gives the same frames. -/
theorem congr (heq : ∀ r, c'.Reaches l r → c'.cut r = c.cut r) (h : c.Drains l os r) :
    c'.Drains l os r := by
  induction h with
  | stop h => exact .stop ((heq _ .refl).trans h)
  | next h _ ih =>
    have h' := (heq _ .refl).trans h
    exact .next h' (ih fun r hr => heq r (.next h' hr))

/-- Frames that each cut cleanly off the front, one after the other, and then something to wait for. -/
theorem flatMap {φ : Type*} {enc : φ → List β} {out : φ → ω} {fs : List φ} {rest : List β}
    (hcut : ∀ f ∈ fs, ∀ m, c.cut (enc f ++ m) = some (out f, m)) (hrest : c.cut rest = none) :
    c.Drains (fs.flatMap enc ++ rest) (fs.map out) rest := by
  induction fs with
  | nil => exact .stop hrest
  | cons f fs ih =>
    rw [List.flatMap_cons, List.append_assoc]
    exact .next (hcut f (by simp) _) (ih fun g hg => hcut g (by simp [hg]))

end Drains

theorem Reaches.append (h : c.Reaches l r) (m : List β) : c.Reaches (l ++ m) (r ++ m) := by
  induction h with
  | refl => exact .refl
  | next h _ ih => exact .next (c.stable m h) ih

theorem Reaches.trans (h : c.Reaches l r) (h' : c.Reaches r r') : c.Reaches l r' := by
  induction h with
  | refl => exact h'
  | next h _ ih => exact .next h (ih h')

theorem Reaches.suffix (hsuf : ∀ {l o r}, c.cut l = some (o, r) → r <:+ l) (h : c.Reaches l r) : r <:+ l := by
  induction h with
  | refl => exact List.suffix_refl _
  | next h _ ih => exact ih.trans (hsuf h)

theorem Reaches.drains (h : c.Reaches l r) (hr : c.cut r = none) : ∃ os, c.Drains l os r := by
  induction h with
  | refl => exact ⟨[], .stop hr⟩
  | next h _ ih =>
    obtain ⟨os, hd⟩ := ih hr
    exact ⟨_, .next h hd⟩

theorem Reaches.eq_of_waits (h : c.Reaches l r) (h' : c.Reaches l r') (hr : c.cut r = none)
    (hr' : c.cut r' = none) : r = r' := by
  obtain ⟨os, hd⟩ := h.drains hr
  obtain ⟨os', hd'⟩ := h'.drains hr'
  exact (hd.det hd').2

theorem Reaches.drains_of_drains (h : c.Reaches l r) (hd : c.Drains l os r') : ∃ os', c.Drains r os' r' := by
  induction h generalizing os with
  | refl => exact ⟨os, hd⟩
  | next h _ ih =>
    cases hd with
    | stop h' =>
      rw [h] at h'
      cases h'
    | next h' hr =>
      rw [h] at h'
      cases h'
      exact ih hr

/-- A list can be worked through exactly if no place that is reached holds a frame that consumes
nothing. -/
theorem exists_drains_iff (hsuf : ∀ {l o r}, c.cut l = some (o, r) → r <:+ l) :
    (∃ os r, c.Drains l os r) ↔ ∀ r o, c.Reaches l r → c.cut r ≠ some (o, r) := by
  constructor
  · rintro ⟨os, r, hd⟩ x o hx
    obtain ⟨os', hd'⟩ := hx.drains_of_drains hd
    exact hd'.not_stuck
  · intro h
    induction hn : l.length using Nat.strongRecOn generalizing l with
    | _ n ih =>
      subst hn
      cases hc : c.cut l with
      | none => exact ⟨[], l, .stop hc⟩
      | some p =>
        obtain ⟨o, r⟩ := p
        have hs := hsuf hc
        have hlt : r.length < l.length := by
          refine Nat.lt_of_le_of_ne hs.length_le fun he => ?_
          obtain rfl := hs.eq_of_length he
          exact h _ o .refl hc
        obtain ⟨os, r', hd⟩ := ih r.length hlt (fun x o hx => h x o (.next hc hx)) rfl
        exact ⟨o :: os, r', .next hc hd⟩

theorem Takes.append (h : c.Takes l os r) (m : List β) : c.Takes (l ++ m) os (r ++ m) := by
  induction h with
  | refl => exact .refl
  | next h _ ih => exact .next (c.stable m h) ih

theorem Takes.trans (h : c.Takes l os r) (h' : c.Takes r os' r') : c.Takes l (os ++ os') r' := by
  induction h with
  | refl => exact h'
  | next h _ ih => exact .next h (ih h')

theorem Takes.suffix (hsuf : ∀ {l o r}, c.cut l = some (o, r) → r <:+ l) (h : c.Takes l os r) : r <:+ l := by
  induction h with
  | refl => exact List.suffix_refl _
  | next h _ ih => exact ih.trans (hsuf h)

theorem Takes.drains (h : c.Takes l os r) (hr : c.cut r = none) : c.Drains l os r := by
  induction h with
  | refl => exact .stop hr
  | next h _ ih => exact .next h (ih hr)

theorem Feeds.drains {ms : List (List β)} (h : c.Feeds l ms os r) (hl : c.cut l = none) :
    c.Drains (l ++ ms.flatten) os r := by
  induction h with
  | nil => simpa using Drains.stop hl
  | cons h _ ih =>
    rw [List.flatten_cons, ← List.append_assoc]
    exact h.append (ih h.rest)

theorem Drains.feeds {ms : List (List β)} (h : c.Drains (l ++ ms.flatten) os r) (hl : c.cut l = none) :
    c.Feeds l ms os r := by
  induction ms generalizing l os with
  | nil =>
    rw [List.flatten_nil, List.append_nil] at h
    obtain ⟨rfl, rfl⟩ := h.det (.stop hl)
    exact .nil
  | cons m ms ih =>
    rw [List.flatten_cons, ← List.append_assoc] at h
    obtain ⟨os₁, r₁, os₂, h₁, h₂, rfl⟩ := h.split
    exact .cons h₁ (ih h₂ h₁.rest)

/-- However the input is cut into pieces, the receiver cuts the frames of the whole. -/
theorem feeds_iff_drains {ms : List (List β)} (hl : c.cut l = none) :
    c.Feeds l ms os r ↔ c.Drains (l ++ ms.flatten) os r :=
  ⟨fun h => h.drains hl, fun h => h.feeds hl⟩

end Cutter

/-- A cutter whose every frame takes something off the list. -/
structure StrictCutter (β ω : Type*) extends Cutter β ω where
  shorter : ∀ {l o r}, cut l = some (o, r) → r.length < l.length

namespace StrictCutter
variable {β ω : Type*}

def parse (c : StrictCutter β ω) (l : List β) : List ω × List β :=
  match h : c.cut l with
  | none => ([], l)
  | some (o, r) =>
    have := c.shorter h
    let p := c.parse r
    (o :: p.1, p.2)
termination_by l.length

theorem parse_drains (c : StrictCutter β ω) (l : List β) :
    c.Drains l (c.parse l).1 (c.parse l).2 := by
  induction hn : l.length using Nat.strongRecOn generalizing l with
  | _ n ih =>
    subst hn
    rw [parse]
    split
    · next h => exact .stop h
    · next o r h => exact .next h (ih _ (c.shorter h) r rfl)

end StrictCutter
end Framing

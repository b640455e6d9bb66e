import FutuOpenD.Lib.Runs

/-!
# A bounded queue

A `BoundedQueue` holds no more than its capacity, which can be changed. What is pushed in a run comes
out at the front in the same order: the pushed items are those popped, followed by those that are still
there (`run_conserves`).
-/

namespace Queues
open Runs

structure BoundedQueue (α : Type*) where
  cap : Nat
  items : List α
  fits : items.length ≤ cap

inductive QueueEvent (α : Type*)
  | push (xs : List α)
  | pop (n : Nat)
  | resize (cap : Nat)

def QueueEvent.pushed {α : Type*} : QueueEvent α → List α
  | push xs => xs
  | _ => []

namespace BoundedQueue
variable {α : Type*} {q q' : BoundedQueue α} {e : QueueEvent α} {es : List (QueueEvent α)}

theorem fits_drop (q : BoundedQueue α) (n : Nat) : (q.items.drop n).length ≤ q.cap :=
  Nat.le_trans (List.drop_sublist n q.items).length_le q.fits

def empty (cap : Nat) : BoundedQueue α := ⟨cap, [], Nat.zero_le cap⟩

/-- What does not fit is not pushed, and no more is popped than there is. -/
def step (q : BoundedQueue α) : QueueEvent α → Option (BoundedQueue α)
  | .push xs => if h : (q.items ++ xs).length ≤ q.cap then some ⟨q.cap, q.items ++ xs, h⟩ else none
  | .pop n => if n ≤ q.items.length then some ⟨q.cap, q.items.drop n, q.fits_drop n⟩ else none
  | .resize cap => if h : q.items.length ≤ cap then some ⟨cap, q.items, h⟩ else none

def machine (α : Type*) : Machine (BoundedQueue α) (QueueEvent α) := ⟨step⟩

/-- The items that the event takes out. -/
def popped (q : BoundedQueue α) : QueueEvent α → List α
  | .pop n => q.items.take n
  | _ => []

theorem step_conserves (hs : q.step e = some q') : q.items ++ e.pushed = q.popped e ++ q'.items := by
  cases e with
  | push xs =>
    obtain ⟨hfit, hq⟩ := Option.dite_none_right_eq_some.1 hs
    cases hq
    rfl
  | pop n =>
    obtain ⟨-, hq⟩ := Option.ite_none_right_eq_some.1 hs
    cases hq
    exact (List.append_nil _).trans (List.take_append_drop n q.items).symm
  | resize cap =>
    obtain ⟨hfit, hq⟩ := Option.dite_none_right_eq_some.1 hs
    cases hq
    exact List.append_nil _

/-- The items that were there and those pushed are those popped and those that are left. -/
theorem run_conserves (hr : (machine α).run q es = some q') :
    q.items ++ es.flatMap QueueEvent.pushed = (machine α).outputs popped q es ++ q'.items := by
  induction es generalizing q with
  | nil =>
    cases hr
    exact List.append_nil _
  | cons e es ih =>
    obtain ⟨q₁, h₁, h₂⟩ := Machine.run_cons.1 hr
    rw [List.flatMap_cons, ← List.append_assoc, step_conserves h₁, List.append_assoc, ih h₂, Machine.outputs_cons h₁,
      List.append_assoc]

end BoundedQueue
end Queues

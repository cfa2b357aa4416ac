import Mathlib.Data.List.Basic

namespace PyConnect.Alternation

/-- The list takes turns, and `next` is first. -/
def Alternating : Bool → List Bool → Prop
  | _, [] => True
  | next, x :: xs => x = next ∧ Alternating (!next) xs

instance instDecidableAlternating (next : Bool) (xs : List Bool) : Decidable (Alternating next xs) :=
  match xs with
  | [] => isTrue trivial
  | _ :: xs => @instDecidableAnd _ _ _ (instDecidableAlternating (!next) xs)

def turn : Bool → List Bool → Bool
  | next, [] => next
  | next, _ :: xs => turn (!next) xs

theorem alternating_append (next : Bool) (xs ys : List Bool) :
    Alternating next (xs ++ ys) ↔ Alternating next xs ∧ Alternating (turn next xs) ys := by
  induction xs generalizing next with
  | nil => exact ⟨fun h => ⟨trivial, h⟩, fun h => h.2⟩
  | cons x xs ih => rw [List.cons_append, Alternating, ih, Alternating, turn, and_assoc]

theorem turn_append (next : Bool) (xs ys : List Bool) :
    turn next (xs ++ ys) = turn (turn next xs) ys := by
  induction xs generalizing next with
  | nil => rfl
  | cons x xs ih => rw [List.cons_append, turn, ih, turn]

theorem Alternating.snoc {next x : Bool} {xs : List Bool} (h : Alternating next xs)
    (hx : turn next xs = x) : Alternating next (xs ++ [x]) ∧ turn next (xs ++ [x]) = !x := by
  rw [alternating_append, turn_append, hx]
  exact ⟨⟨h, rfl, trivial⟩, rfl⟩

end PyConnect.Alternation

import Mathlib.Data.List.Basic

namespace PyConnect.Brackets

variable {α : Type} {side : α → Option Bool} {a b : α} {xs ys : List α} {n : Nat}

/-- How many brackets are open after these, where `n` were open before. `side`
tells an opening bracket from a closing one, which needs one to close. -/
def opened (side : α → Option Bool) : List α → Nat → Option Nat
  | [], n => some n
  | x :: xs, n =>
      match side x with
      | none => opened side xs n
      | some true => opened side xs (n + 1)
      | some false => if n = 0 then none else opened side xs (n - 1)

/-- Every bracket that is opened is closed, by a bracket of its own. -/
def Matched (side : α → Option Bool) (xs : List α) : Prop := opened side xs 0 = some 0

instance (side : α → Option Bool) (xs : List α) : Decidable (Matched side xs) :=
  inferInstanceAs (Decidable (_ = _))

theorem opened_plain (h : ∀ x ∈ xs, side x = none) : opened side xs n = some n := by
  induction xs with
  | nil => rfl
  | cons x xs ih =>
      rw [opened, h x List.mem_cons_self]
      exact ih fun y hy => h y (List.mem_cons_of_mem x hy)

theorem opened_append_plain (h : ∀ x ∈ xs, side x = none) :
    opened side (xs ++ ys) n = opened side ys n := by
  induction xs with
  | nil => rfl
  | cons x xs ih =>
      rw [List.cons_append, opened, h x List.mem_cons_self]
      exact ih fun y hy => h y (List.mem_cons_of_mem x hy)

theorem matched_enclosed (ha : side a = some true) (hb : side b = some false)
    (h : ∀ x ∈ xs, side x = none) (hys : ∀ y ∈ ys, side y = none) :
    Matched side (a :: (xs ++ b :: ys)) := by
  rw [Matched, opened, ha]
  dsimp only
  rw [opened_append_plain h, opened, hb]
  exact opened_plain hys

theorem matched_pair (ha : side a = some true) (hb : side b = some false)
    (hys : ∀ y ∈ ys, side y = none) : Matched side (a :: b :: ys) :=
  matched_enclosed ha hb (fun x (hx : x ∈ []) => absurd hx List.not_mem_nil) hys

theorem not_matched_open (ha : side a = some true) (h : ∀ x ∈ xs, side x = none) :
    ¬ Matched side (a :: xs) := by
  rw [Matched, opened, ha]
  dsimp only
  rw [opened_plain h]
  exact fun he => absurd (Option.some.inj he) (by decide)

end PyConnect.Brackets

import Mathlib.Algebra.Order.BigOperators.Group.List
import Mathlib.Algebra.Order.Ring.Int

namespace PyConnect.Ints

variable {ι : Type}

/-- What an int keeps of a number that is converted to it. -/
def toInt (n : Int) : Int := (BitVec.ofInt 32 n).toInt

/-- The result of an operation on ints, which is undefined where it is no int. -/
def int32 (n : Int) : Option Int := if -2 ^ 31 ≤ n ∧ n < 2 ^ 31 then some n else none

/-- A sum of ints, from the left. -/
def addAll (xs : List Int) : Option Int := xs.foldlM (fun sum n => int32 (sum + n)) 0

/-- A sum of sizes that is kept in an int. -/
def wrapAll (xs : List Int) : Int := xs.foldl (fun sum n => toInt (sum + n)) 0

theorem toInt_bounds (n : Int) : -2 ^ 31 ≤ toInt n ∧ toInt n < 2 ^ 31 :=
  ⟨BitVec.le_toInt _, BitVec.toInt_lt⟩

theorem toInt_eq_self {n : Int} (hlo : -2 ^ 31 ≤ n) (hhi : n < 2 ^ 31) : toInt n = n :=
  BitVec.toInt_ofInt_eq_self (by decide) (by simpa using hlo) (by simpa using hhi)

theorem toInt_eq {n : Int} (hlo : 0 ≤ n) (hhi : n < 2 ^ 31) : toInt n = n :=
  toInt_eq_self (by omega) hhi

theorem int32_eq {n : Int} (hlo : 0 ≤ n) (hhi : n < 2 ^ 31) : int32 n = some n :=
  if_pos ⟨by omega, hhi⟩

theorem addAll_eq {xs : List Int} (hpos : ∀ x ∈ xs, 0 ≤ x) (hsum : xs.sum < 2 ^ 31) :
    addAll xs = some xs.sum := by
  have h : ∀ sum : Int, 0 ≤ sum → sum + xs.sum < 2 ^ 31 →
      xs.foldlM (fun sum n => int32 (sum + n)) sum = some (sum + xs.sum) := by
    clear hsum
    induction xs with
    | nil => simp
    | cons x xs ih =>
        intro sum hsum hbound
        have hx := hpos x List.mem_cons_self
        have hxs := List.sum_nonneg fun y hy => hpos y (List.mem_cons_of_mem x hy)
        rw [List.sum_cons] at hbound ⊢
        rw [List.foldlM_cons, int32_eq (by omega) (by omega), Option.bind_eq_bind, Option.bind_some,
          ih (fun y hy => hpos y (List.mem_cons_of_mem x hy)) _ (by omega) (by omega)]
        congr 1
        omega
  rw [addAll, h 0 le_rfl (by omega), zero_add]

theorem wrapAll_eq {xs : List Int} (hpos : ∀ x ∈ xs, 0 ≤ x) (hsum : xs.sum < 2 ^ 31) :
    wrapAll xs = xs.sum := by
  have h : ∀ sum : Int, 0 ≤ sum → sum + xs.sum < 2 ^ 31 →
      xs.foldl (fun sum n => toInt (sum + n)) sum = sum + xs.sum := by
    clear hsum
    induction xs with
    | nil => simp
    | cons x xs ih =>
        intro sum hsum hbound
        have hx := hpos x List.mem_cons_self
        have hxs := List.sum_nonneg fun y hy => hpos y (List.mem_cons_of_mem x hy)
        rw [List.sum_cons] at hbound ⊢
        rw [List.foldl_cons, toInt_eq (by omega) (by omega),
          ih (fun y hy => hpos y (List.mem_cons_of_mem x hy)) _ (by omega) (by omega)]
        omega
  rw [wrapAll, h 0 le_rfl (by omega), zero_add]

theorem sum_pairs (xs : List ι) (f g : ι → Int) :
    (xs.flatMap fun x => [f x, g x]).sum = (xs.map fun x => f x + g x).sum := by
  induction xs with
  | nil => rfl
  | cons x xs ih =>
      simp only [List.flatMap_cons, List.sum_append, List.map_cons, List.sum_cons, List.sum_nil, ih]
      omega

theorem mapM_some {κ : Type} {f : ι → Option κ} {g : ι → κ} {xs : List ι}
    (h : ∀ x ∈ xs, f x = some (g x)) : xs.mapM f = some (xs.map g) := by
  induction xs with
  | nil => rfl
  | cons x xs ih =>
      rw [List.mapM_cons, h x List.mem_cons_self, ih fun y hy => h y (List.mem_cons_of_mem x hy)]
      rfl

end PyConnect.Ints

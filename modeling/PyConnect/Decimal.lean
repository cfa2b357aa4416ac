import Mathlib.Algebra.Order.Ring.Int
import Mathlib.Data.List.TakeWhile

namespace PyConnect.Decimal

/-- isspace, in the C locale. -/
def isSpace (c : Char) : Bool := c == ' ' || (9 ≤ c.toNat && c.toNat ≤ 13)

/-- The number that the digits at the start of a text are. -/
def digitsValue (cs : List Char) : Nat := Nat.ofDigitChars 10 (cs.takeWhile (·.isDigit)) 0

/-- The number at the start of a text, behind blanks and a sign. -/
def signedValue (cs : List Char) : Int :=
  match cs.dropWhile isSpace with
  | '-' :: rest => -(digitsValue rest)
  | '+' :: rest => digitsValue rest
  | rest => digitsValue rest

/-- What a long of 64 bits keeps of a number that does not fit. -/
def clampLong (n : Int) : Int := max (-2 ^ 63) (min n (2 ^ 63 - 1))

def strtol (cs : List Char) : Int := clampLong (signedValue cs)

def zeroFill (width : Nat) (digits : List Char) : List Char :=
  List.replicate (width - digits.length) '0' ++ digits

/-- An int as sprintf formats it with "%0wd", and for the width 0 with "%d". The sign
counts. -/
def decimal (width : Nat) (n : Int) : List Char :=
  if n < 0 then '-' :: zeroFill (width - 1) (Nat.toDigits 10 n.natAbs)
  else zeroFill width (Nat.toDigits 10 n.natAbs)

variable {width k : Nat} {n : Int}

theorem isDigit_of_mem_zeroFill {c : Char} {m : Nat}
    (h : c ∈ zeroFill width (Nat.toDigits 10 m)) : c.isDigit = true := by
  rcases List.mem_append.mp h with h | h
  · rw [(List.mem_replicate.mp h).2]
    rfl
  · exact Nat.isDigit_of_mem_toDigits (by decide) (by decide) h

theorem digitsValue_zeroFill (width m : Nat) :
    digitsValue (zeroFill width (Nat.toDigits 10 m)) = m := by
  have hall : (zeroFill width (Nat.toDigits 10 m)).takeWhile (·.isDigit) =
      zeroFill width (Nat.toDigits 10 m) :=
    List.takeWhile_eq_self_iff.mpr fun c hc => isDigit_of_mem_zeroFill hc
  rw [digitsValue, hall, zeroFill, Nat.ofDigitChars_append, Nat.ofDigitChars_replicate_zero,
    Nat.mul_zero, Nat.ofDigitChars_ten_toDigits]

theorem zeroFill_ne_nil (width m : Nat) : zeroFill width (Nat.toDigits 10 m) ≠ [] := by
  simp [zeroFill]

theorem not_isSpace_of_isDigit {c : Char} (h : c.isDigit = true) : isSpace c = false := by
  have hlo : 48 ≤ c.toNat := by
    simp only [Char.isDigit, Bool.and_eq_true, decide_eq_true_eq] at h
    exact h.1
  rw [isSpace, Bool.or_eq_false_iff, Bool.and_eq_false_iff]
  refine ⟨?_, .inr (by simp; omega)⟩
  rw [beq_eq_false_iff_ne]
  rintro rfl
  exact absurd hlo (by decide)

theorem signedValue_decimal (width : Nat) (n : Int) : signedValue (decimal width n) = n := by
  rw [decimal]
  split
  · rename_i hn
    rw [signedValue]
    change -((digitsValue (zeroFill (width - 1) (Nat.toDigits 10 n.natAbs)) : Nat) : Int) = n
    rw [digitsValue_zeroFill]
    omega
  · rename_i hn
    obtain ⟨c, cs, heq⟩ := List.exists_cons_of_ne_nil (zeroFill_ne_nil width n.natAbs)
    have hmem : c ∈ zeroFill width (Nat.toDigits 10 n.natAbs) := heq ▸ List.mem_cons_self
    have hdigit : c.isDigit = true := isDigit_of_mem_zeroFill hmem
    have hvalue := digitsValue_zeroFill width n.natAbs
    rw [heq] at hvalue ⊢
    rw [signedValue, List.dropWhile_cons_of_neg (by rw [not_isSpace_of_isDigit hdigit]; decide)]
    split
    · rename_i h
      rw [(List.cons.inj h).1] at hdigit
      exact absurd hdigit (by decide)
    · rename_i h
      rw [(List.cons.inj h).1] at hdigit
      exact absurd hdigit (by decide)
    · rw [hvalue]
      omega

theorem strtol_decimal (width : Nat) (hlo : -2 ^ 63 ≤ n) (hhi : n < 2 ^ 63) :
    strtol (decimal width n) = n := by
  rw [strtol, signedValue_decimal, clampLong]
  omega

theorem decimal_injective (width : Nat) : Function.Injective (decimal width) :=
  Function.LeftInverse.injective (signedValue_decimal width)

theorem length_zeroFill (width : Nat) (digits : List Char) :
    (zeroFill width digits).length = max width digits.length := by
  rw [zeroFill, List.length_append, List.length_replicate]
  omega

theorem length_decimal_le_iff (hk : 2 ≤ k) (hwidth : width ≤ k) :
    (decimal width n).length ≤ k ↔ -10 ^ (k - 1) < n ∧ n < 10 ^ k := by
  have hneg : ((10 ^ (k - 1) : Nat) : Int) = 10 ^ (k - 1) := by push_cast; rfl
  have hpos : ((10 ^ k : Nat) : Int) = 10 ^ k := by push_cast; rfl
  have hpow₁ : 0 < 10 ^ (k - 1) := Nat.pow_pos (by decide)
  have hpow : 0 < 10 ^ k := Nat.pow_pos (by decide)
  rw [← hneg, ← hpos, decimal]
  split
  · rw [List.length_cons, length_zeroFill, ← Nat.le_sub_iff_add_le (by omega), max_le_iff,
      Nat.length_toDigits_le_iff (by decide) (by omega)]
    omega
  · rw [length_zeroFill, max_le_iff, Nat.length_toDigits_le_iff (by decide) (by omega)]
    omega

end PyConnect.Decimal

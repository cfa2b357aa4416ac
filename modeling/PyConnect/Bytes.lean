import Mathlib.Algebra.Order.Ring.Int
import Mathlib.Data.List.Basic

namespace PyConnect.Bytes

/-- The `w` low-order bytes of a number, least significant first. -/
def leBytes : Nat → Nat → List UInt8
  | 0, _ => []
  | w + 1, n => UInt8.ofNat n :: leBytes w (n / 256)

def ofLeBytes : List UInt8 → Nat
  | [] => 0
  | b :: bs => b.toNat + 256 * ofLeBytes bs

@[simp] theorem leBytes_length (w n : Nat) : (leBytes w n).length = w := by
  induction w generalizing n with
  | zero => rfl
  | succ w ih => simp [leBytes, ih]

theorem ofLeBytes_leBytes {w n : Nat} (hn : n < 256 ^ w) : ofLeBytes (leBytes w n) = n := by
  induction w generalizing n with
  | zero =>
      have h : n = 0 := by simpa using hn
      simp [h, leBytes, ofLeBytes]
  | succ w ih =>
      have hq : n / 256 < 256 ^ w := by
        rw [Nat.div_lt_iff_lt_mul (by decide)]
        simpa [Nat.pow_succ] using hn
      simp only [leBytes, ofLeBytes, ih hq, UInt8.toNat_ofNat']
      omega

theorem ofLeBytes_lt (bs : List UInt8) : ofLeBytes bs < 256 ^ bs.length := by
  induction bs with
  | nil => simp [ofLeBytes]
  | cons b bs ih =>
      have hb := b.toNat_lt
      simp only [ofLeBytes, List.length_cons, Nat.pow_succ]
      omega

theorem leBytes_ofLeBytes (bs : List UInt8) : leBytes bs.length (ofLeBytes bs) = bs := by
  induction bs with
  | nil => rfl
  | cons b bs ih =>
      have hb := b.toNat_lt
      have hq : (b.toNat + 256 * ofLeBytes bs) / 256 = ofLeBytes bs := by omega
      simp only [List.length_cons, leBytes, ofLeBytes, hq, ih, List.cons.injEq, and_true]
      apply UInt8.toNat_inj.mp
      rw [UInt8.toNat_ofNat']
      omega

/-- A number as it lies in the memory of a host of the given byte order. -/
def hostBytes (bigEndian : Bool) (w n : Nat) : List UInt8 :=
  if bigEndian then (leBytes w n).reverse else leBytes w n

def hostValue (bigEndian : Bool) (bs : List UInt8) : Nat :=
  if bigEndian then ofLeBytes bs.reverse else ofLeBytes bs

@[simp] theorem hostBytes_length (bigEndian : Bool) (w n : Nat) :
    (hostBytes bigEndian w n).length = w := by
  cases bigEndian <;> simp [hostBytes]

theorem hostValue_hostBytes (bigEndian : Bool) {w n : Nat} (hn : n < 256 ^ w) :
    hostValue bigEndian (hostBytes bigEndian w n) = n := by
  cases bigEndian <;> simp [hostValue, hostBytes, ofLeBytes_leBytes hn]

theorem hostBytes_inj (bigEndian : Bool) {w m n : Nat} (hm : m < 256 ^ w) (hn : n < 256 ^ w)
    (h : hostBytes bigEndian w m = hostBytes bigEndian w n) : m = n := by
  rw [← hostValue_hostBytes bigEndian hm, h, hostValue_hostBytes bigEndian hn]

theorem hostBytes_hostValue (bigEndian : Bool) (bs : List UInt8) :
    hostBytes bigEndian bs.length (hostValue bigEndian bs) = bs := by
  cases bigEndian with
  | false => simp [hostValue, hostBytes, leBytes_ofLeBytes]
  | true =>
      have h := leBytes_ofLeBytes bs.reverse
      rw [List.length_reverse] at h
      simp [hostValue, hostBytes, h]

theorem hostValue_lt (bigEndian : Bool) (bs : List UInt8) :
    hostValue bigEndian bs < 256 ^ bs.length := by
  cases bigEndian with
  | false => exact ofLeBytes_lt bs
  | true => simpa [hostValue] using ofLeBytes_lt bs.reverse

theorem bitVec_lt (w : Nat) (v : BitVec (8 * w)) : v.toNat < 256 ^ w := by
  have h := v.isLt
  rwa [Nat.pow_mul, show (2 : Nat) ^ 8 = 256 from rfl] at h

end PyConnect.Bytes

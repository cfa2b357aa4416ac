import PyConnect.Common

namespace PyConnect.NumberCodec

open Bytes Decoding

/-- The rounds `i - 1` to 0 of the writing loop. -/
def storeDown (valPtr : List UInt8) : Nat → List UInt8
  | 0 => []
  | i + 1 => valPtr.getD i 0 :: storeDown valPtr i

/-- The rounds `i - 1` to 0 of the reading loop. -/
def loadDown : Nat → List UInt8 → Decoder (List UInt8)
  | 0, valPtr => pure valPtr
  | i + 1, valPtr => do
      let b ← byte
      loadDown i (valPtr.set i b)

/-- packToLENumber, with the loop of a big-endian build. -/
def packToLENumber (bigEndian : Bool) {w : Nat} (v : BitVec (8 * w)) : List UInt8 :=
  let valPtr := hostBytes bigEndian w v.toNat
  if bigEndian then storeDown valPtr w else valPtr.take w

/-- unpackLENumber into a variable that holds `val` so far. -/
def unpackLENumber (bigEndian : Bool) {w : Nat} (val : BitVec (8 * w)) :
    Decoder (BitVec (8 * w)) := do
  let valPtr ← if bigEndian then loadDown w (hostBytes bigEndian w val.toNat) else bytes w
  spend w
  pure (BitVec.ofNat (8 * w) (hostValue bigEndian valPtr))

theorem storeDown_eq {valPtr : List UInt8} {i : Nat} (hi : i ≤ valPtr.length) :
    storeDown valPtr i = (valPtr.take i).reverse := by
  induction i with
  | zero => rfl
  | succ i ih =>
      have hget : valPtr.getD i 0 = valPtr[i] := by simp [List.getD, show i < valPtr.length by omega]
      rw [storeDown, ih (by omega), List.take_succ_eq_append_getElem (by omega), hget,
        List.reverse_append]
      rfl

theorem loadDown_apply (i : Nat) (low : List UInt8) (high : List UInt8) (hi : low.length = i)
    (c : Cursor) : loadDown i (low ++ high) c = (((bytes i c).1).reverse ++ high, (bytes i c).2) := by
  induction i generalizing low high c with
  | zero =>
      have hlow : low = [] := List.length_eq_zero_iff.mp hi
      subst hlow
      simp [loadDown, bytes, pure_apply]
  | succ i ih =>
      obtain ⟨low, x, rfl⟩ : ∃ xs x, low = xs ++ [x] :=
        ⟨low.dropLast, low.getLast (by rintro rfl; simp at hi), (List.dropLast_append_getLast _).symm⟩
      have hlow : low.length = i := by simpa using hi
      obtain ⟨rest, overrun, remaining⟩ := c
      have hset (b : UInt8) : (low ++ [x] ++ high).set i b = low ++ b :: high := by
        rw [List.append_assoc, List.set_append_right i b (by omega), hlow, Nat.sub_self]
        rfl
      rw [loadDown, bind_apply, hset, ih low _ hlow]
      cases rest with
      | nil =>
          have hz : List.replicate i (0 : UInt8) ++ 0 :: high = List.replicate (i + 1) 0 ++ high := by
            rw [List.replicate_succ', List.append_assoc]
            rfl
          simp only [byte, bytes, List.headD_nil, List.tail_nil, List.take_nil, List.drop_nil,
            List.length_nil, List.nil_append, List.reverse_replicate, Nat.sub_zero, hz]
          rw [Nat.add_assoc, Nat.add_comm 1]
      | cons y rest => simp [byte, bytes]

theorem loadDown_eq {w : Nat} {valPtr : List UInt8} (h : valPtr.length = w) :
    loadDown w valPtr = (do let data ← bytes w; pure data.reverse) := by
  funext c
  have ha := loadDown_apply w valPtr [] h c
  rw [List.append_nil, List.append_nil] at ha
  rw [ha]
  rfl

/-- The loops do what the reversed copies do. -/
theorem packToLENumber_eq (bigEndian : Bool) {w : Nat} (v : BitVec (8 * w)) :
    packToLENumber bigEndian v = Common.packToLENumber bigEndian w v.toNat := by
  cases bigEndian with
  | false => simp [packToLENumber, Common.packToLENumber, List.take_of_length_le]
  | true => simp [packToLENumber, Common.packToLENumber, storeDown_eq, List.take_of_length_le]

theorem unpackLENumber_eq (bigEndian : Bool) {w : Nat} (val : BitVec (8 * w)) :
    unpackLENumber bigEndian val =
      (do let n ← Common.unpackLENumber bigEndian w; pure (BitVec.ofNat (8 * w) n)) := by
  cases bigEndian with
  | false => rfl
  | true =>
      rw [unpackLENumber, if_pos rfl, loadDown_eq (hostBytes_length _ _ _)]
      rfl

theorem leBytes_getElem? {w i : Nat} (hi : i < w) (n : Nat) :
    (leBytes w n)[i]? = some (UInt8.ofNat (n / 256 ^ i)) := by
  induction w generalizing i n with
  | zero => omega
  | succ w ih =>
      cases i with
      | zero => simp [leBytes]
      | succ i =>
          rw [leBytes, List.getElem?_cons_succ, ih (by omega), Nat.pow_succ', Nat.div_div_eq_div_mul]

/-- Every build writes the bytes of the value from the least significant on, and
every build reads them back, whatever the variable held. -/
theorem number_codec_agrees (sender receiver : Bool) {w : Nat} (v val : BitVec (8 * w)) :
    packToLENumber true v = packToLENumber false v ∧
      (packToLENumber sender v).length = w ∧
      (∀ i < w, (packToLENumber sender v)[i]? = some (UInt8.ofNat (v.toNat / 256 ^ i))) ∧
      Decodes (unpackLENumber receiver val) (packToLENumber sender v) v w := by
  have hwire (b : Bool) : packToLENumber b v = leBytes w v.toNat := by
    rw [packToLENumber_eq, Common.packToLENumber_eq]
  refine ⟨?_, ?_, fun i hi => ?_, ?_⟩
  · rw [hwire, hwire]
  · rw [hwire, leBytes_length]
  · rw [hwire, leBytes_getElem? hi]
  · have h := (Common.decodes_packToLENumber sender receiver (bitVec_lt w v)).map (BitVec.ofNat (8 * w))
    rwa [BitVec.ofNat_toNat, BitVec.setWidth_eq, ← unpackLENumber_eq receiver val,
      ← packToLENumber_eq] at h

end PyConnect.NumberCodec

import PyConnect.Values

namespace PyConnect.ValueCodec

open Bytes Decoding Common Values

variable {sender receiver : Host}

def encode (host : Host) (v : Value) : List UInt8 := (setData host v .noErrors).written

theorem packIntToStr_nat_length {n : Nat} (hn : n ≤ maxStrLength) :
    ((packIntToStr n).length : Int) = packedIntLen n ∧ 0 < packedIntLen n := by
  have hlt : n < 32768 := by rw [maxStrLength] at hn; omega
  refine ⟨packIntToStr_length n, ?_⟩
  rw [packedIntLen]
  split_ifs <;> omega

theorem packString_length (str : List UInt8) :
    ((packString str true).length : Int) = str.length + packedIntLen str.length := by
  have h := packIntToStr_length str.length
  simp only [packString, if_true, List.length_append]
  omega

theorem packNumber_length (bigEndian : Bool) (w n : Nat) : (packToLENumber bigEndian w n).length = w := by
  rw [packToLENumber_eq, leBytes_length]

theorem setData_sized (sender : Host) {v : Value} (hv : v.Sized) :
    setData sender v .noErrors = ⟨encode sender v, (encode sender v).length, .noErrors⟩ := by
  cases v with
  | int v => simp [encode, setData, setNumber, packNumber_length]
  | float v => simp [encode, setData, setNumber, packNumber_length]
  | double v => simp [encode, setData, setNumber, packNumber_length]
  | bool b => simp [encode, setData, setBool]
  | string str =>
      have hmax : str.length ≤ maxStrLength := hv
      have hl : ¬ (str.length : Int) > maxStrLength := by omega
      have hlen := packString_length str
      simp only [encode, setData, setString, ne_eq, not_true_eq_false, if_false, hl, hlen]

theorem encode_length_le (sender : Host) {v : Value} (hv : v.Sized) :
    (encode sender v).length ≤ 32769 := by
  cases v with
  | string str =>
      have hl : str.length ≤ maxStrLength := hv
      have hlen := packString_length str
      have hp := packedIntLen_le str.length
      rw [maxStrLength] at hl
      change (packString str true).length ≤ _
      omega
  | bool b => simp [encode, setData, setBool]
  | int v | float v | double v => simp [encode, setData, setNumber, packNumber_length]

theorem sized_of_portable {v : Value} (hv : v.Portable) : v.Sized := by
  cases v with
  | string str => exact hv.2
  | _ => exact trivial

theorem portable_of_pyPortable {v : Value} (hv : v.PyPortable) : v.Portable := by
  cases v with
  | string str => exact ⟨hv.1, hv.2.1⟩
  | _ => exact trivial

theorem decodes_number {α : Type} (sender receiver : Host) (w : Nat) (v : BitVec (8 * w))
    (make : BitVec (8 * w) → α) :
    Decodes (do let ret ← unpackLENumber receiver.bigEndian w; pure (make (BitVec.ofNat (8 * w) ret)))
      (packToLENumber sender.bigEndian w v.toNat) (make v) w := by
  have h := (decodes_packToLENumber sender.bigEndian receiver.bigEndian (bitVec_lt w v)).map
    fun n => make (BitVec.ofNat (8 * w) n)
  rw [BitVec.ofNat_toNat, BitVec.setWidth_eq] at h
  exact h

/-- What unpackStr takes off the remaining count: not the byte of a bool. -/
def unpackCost : Value → Int
  | .int _ => 4
  | .float _ => 4
  | .double _ => 8
  | .string str => (packIntToStr str.length).length + str.length
  | .bool _ => 0

def received (host : Host) : Value → PyObject
  | .string str => unicodeFromString (cString str)
  | v => v.toPy host

theorem received_eq (host : Host) {v : Value} (hv : v.PyPortable) :
    received host v = v.toPy host := by
  cases v with
  | string str =>
      obtain ⟨h0, -, hu⟩ := hv
      rw [received, cString_eq h0, unicodeFromString, if_pos hu]
      rfl
  | _ => rfl

theorem decodes_received (sender receiver : Host) {v : Value} (hv : v.Sized) :
    Decodes (unpackStr receiver v.dataType.pyType) (encode sender v) (received receiver v)
      (unpackCost v) := by
  cases v with
  | int v => exact decodes_number sender receiver 4 v fun n => PyObject.int n.toInt
  | float v => exact decodes_number sender receiver 4 v fun n => PyObject.float (receiver.toDouble n)
  | double v => exact decodes_number sender receiver 8 v fun n => PyObject.float n
  | string str =>
      exact (decodes_packString_cut (show str.length ≤ maxStrLength from hv)).map unicodeFromString
  | bool b =>
      have h := (decodes_byte (if b then 1 else 0)).map fun b => PyObject.bool (b &&& 0xf ≠ 0)
      cases b <;> exact h

theorem decodes_unpackStr (sender receiver : Host) {v : Value} (hv : v.PyPortable) :
    Decodes (unpackStr receiver v.dataType.pyType) (encode sender v) (v.toPy receiver)
      (unpackCost v) := by
  rw [← received_eq receiver hv]
  exact decodes_received sender receiver (sized_of_portable (portable_of_pyPortable hv))

theorem getNumber_within {size n : Nat} (make : Nat → Value) (zero : Value) {bs : List UInt8}
    (h : Decodes (unpackLENumber receiver.bigEndian size) bs n size) :
    DecodesWithin (getNumber receiver size make zero .noErrors) bs (make n, .noErrors) size := by
  have hm := (h.map fun n => (make n, PyConnectMsgStatus.noErrors)).within
  intro rest overrun remaining hr
  rw [← hm rest overrun remaining hr]
  rfl

theorem getNumber_packed (sender receiver : Host) (w : Nat) (v : BitVec (8 * w))
    (make : BitVec (8 * w) → Value) (zero : Value) :
    DecodesWithin (getNumber receiver w (fun n => make (BitVec.ofNat (8 * w) n)) zero .noErrors)
      (packToLENumber sender.bigEndian w v.toNat) (make v, .noErrors) w := by
  have h := getNumber_within (fun n => make (BitVec.ofNat (8 * w) n)) zero
    (decodes_packToLENumber sender.bigEndian receiver.bigEndian (bitVec_lt w v))
  rw [BitVec.ofNat_toNat, BitVec.setWidth_eq] at h
  exact h

theorem getBool_within (b : UInt8) :
    DecodesWithin (getBool .noErrors) [b] (.bool (b ≠ 0), .noErrors) 1 := by
  have h : Decodes (do
      let b ← byte
      spend 1
      pure (Value.bool (b ≠ 0), PyConnectMsgStatus.noErrors)) [b] (.bool (b ≠ 0), .noErrors) 1 :=
    (decodes_byte b).step ((decodes_spend 1).step (Decodes.pure _) rfl rfl) rfl rfl
  intro rest overrun remaining hr
  have hn : ¬ remaining - 1 < 0 := by omega
  rw [getBool, if_neg (not_not.mpr rfl), bind_apply, getRemaining]
  dsimp only
  rw [if_neg hn]
  exact h rest overrun remaining

theorem getString_within {str : List UInt8} (hl : str.length ≤ maxStrLength) (h0 : 0 ∉ str) :
    DecodesWithin (getString .noErrors) (packString str true) (.string str, .noErrors)
      (packString str true).length := by
  have h := ((decodes_packString_extended hl h0).map
    fun str => (Value.string str, PyConnectMsgStatus.noErrors)).within
  have hlen : ((packString str true).length : Int) =
      (packIntToStr str.length).length + str.length := by
    rw [packString, if_pos rfl, List.length_append, Int.natCast_add]
  rw [hlen]
  exact h

theorem intSize_eq_zero (n : Nat) :
    Ints.toInt n + packedIntLen (Ints.toInt n) = 0 ↔ n % 2 ^ 32 = 2 ^ 32 - 2 := by
  have hneg : Ints.toInt n = -2 ↔ n % 2 ^ 32 = 2 ^ 32 - 2 := by
    rw [Ints.toInt, BitVec.toInt_ofInt, Int.bmod_def]
    split_ifs
    · omega
    · omega
  rw [← hneg, packedIntLen]
  split_ifs
  · omega
  · omega
  · omega

theorem validateTypeAndSize_str {utf8 : List UInt8} (h : ((cString utf8).length : Int) < 2 ^ 31) :
    validateTypeAndSize (.str utf8) .string =
      (cString utf8).length + packedIntLen (cString utf8).length := by
  rw [validateTypeAndSize, Ints.toInt_eq (Int.natCast_nonneg _) h]

/-- What the server packs for a value, the wrapper reads as its C++ value, and
the size the server reckons is the size it writes. -/
theorem packToStr_sent (receiver : Host) {t : DataType} {arg : PyObject} {v : Value}
    (h : sentValue sender t arg = some v) :
    DecodesWithin (getData receiver t .noErrors) (packToStr sender arg t.pyType) (v, .noErrors)
        (packToStr sender arg t.pyType).length ∧
      validateTypeAndSize arg t.pyType = (packToStr sender arg t.pyType).length ∧
      0 < (packToStr sender arg t.pyType).length := by
  cases t with
  | int =>
      have hg := getNumber_packed sender receiver 4 (BitVec.ofInt 32 (asLong arg)) .int
        (.int 0)
      have hpack : packToStr sender arg (DataType.int).pyType =
          packToLENumber sender.bigEndian 4 (BitVec.ofInt 32 (asLong arg)).toNat := rfl
      rw [hpack, packNumber_length]
      cases arg with
      | int n | bool b =>
          obtain rfl := Option.some.inj h
          exact ⟨hg, rfl, by decide⟩
      | _ => cases h
  | float =>
      cases arg with
      | float x =>
          obtain rfl := Option.some.inj h
          have hg := getNumber_packed sender receiver 4 (sender.toFloat x) .float (.float 0)
          simp only [packToStr, DataType.pyType, asDouble, packNumber_length]
          exact ⟨hg, rfl, by decide⟩
      | _ => cases h
  | double =>
      cases arg with
      | float x =>
          obtain rfl := Option.some.inj h
          have hg := getNumber_packed sender receiver 8 x .double (.double 0)
          simp only [packToStr, DataType.pyType, asDouble, packNumber_length]
          exact ⟨hg, rfl, by decide⟩
      | _ => cases h
  | string =>
      cases arg with
      | str utf8 =>
          rw [sentValue, Option.ite_none_right_eq_some] at h
          obtain ⟨hl, hv⟩ := h
          obtain rfl := Option.some.inj hv
          have hlen := packString_length (cString utf8)
          have hpos := (packIntToStr_nat_length hl).2
          have hmax : maxStrLength = 32767 := rfl
          rw [DataType.pyType, validateTypeAndSize_str (by omega)]
          simp only [packToStr, asUtf8]
          exact ⟨getString_within hl (not_mem_cString utf8), hlen.symm, by omega⟩
      | _ => cases h
  | bool =>
      cases arg with
      | bool b =>
          obtain rfl := Option.some.inj h
          have hg := getBool_within (if b then 1 else 0)
          refine ⟨?_, rfl, Nat.one_pos⟩
          cases b <;> exact hg
      | _ => cases h

theorem sentValue_of_argValue {t : DataType} {arg : PyObject} {v : Value}
    (h : argValue sender t arg = some v) : sentValue sender t arg = some v := by
  cases t <;> cases arg <;> try cases h
  case int.int n =>
    rw [argValue, Option.ite_none_right_eq_some] at h
    rw [sentValue, asLong, if_pos (by omega)]
    exact h.2
  case string.str utf8 =>
    rw [argValue, Option.ite_none_right_eq_some] at h
    rw [sentValue, cString_eq h.1.1, if_pos h.1.2]
    exact h.2
  all_goals rfl

theorem overflows_of_argValue {t : DataType} {arg : PyObject} {v : Value}
    (h : argValue sender t arg = some v) : overflows arg t.pyType = false := by
  cases t <;> cases arg <;> try cases h
  case int.int n =>
    rw [argValue, Option.ite_none_right_eq_some] at h
    exact decide_eq_false (by omega)
  all_goals rfl

theorem packToStr_getData (receiver : Host) {t : DataType} {arg : PyObject} {v : Value}
    (h : argValue sender t arg = some v) :
    DecodesWithin (getData receiver t .noErrors) (packToStr sender arg t.pyType) (v, .noErrors)
        (packToStr sender arg t.pyType).length ∧
      validateTypeAndSize arg t.pyType = (packToStr sender arg t.pyType).length ∧
      0 < (packToStr sender arg t.pyType).length :=
  packToStr_sent receiver (sentValue_of_argValue h)

end PyConnect.ValueCodec

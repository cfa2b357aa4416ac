import PyConnect.BuilderSizes

namespace PyConnect.StringCodec

open Decoding Common Values Ints

/-- The longest string that each length encoding can say. -/
def capacity (extendSize : Bool) : Nat := if extendSize then maxStrLength else 255

/-- unpackString after packString gives the string and leaves the cursor behind it. -/
def ReadBack (extendSize : Bool) (str : List UInt8) : Prop :=
  ∀ rest overrun remaining,
    (unpackString extendSize ⟨packString str extendSize ++ rest, overrun, remaining⟩).1 = str ∧
    (unpackString extendSize ⟨packString str extendSize ++ rest, overrun, remaining⟩).2.rest = rest ∧
    (unpackString extendSize ⟨packString str extendSize ++ rest, overrun, remaining⟩).2.overrun =
      overrun

theorem decodes_packString {extendSize : Bool} {str : List UInt8}
    (h : str.length ≤ capacity extendSize) :
    ∃ k, Decodes (unpackString extendSize) (packString str extendSize) (cString str) k := by
  cases extendSize with
  | true => exact ⟨_, decodes_packString_cut h⟩
  | false => exact ⟨_, decodes_packString_name_cut h⟩

theorem readBack_of_length {extendSize : Bool} {str : List UInt8}
    (h : str.length ≤ capacity extendSize) : ReadBack extendSize str ↔ cString str = str := by
  obtain ⟨k, hk⟩ := decodes_packString h
  simp only [ReadBack, hk _ _ _, and_self, and_true, forall_const]

theorem readBack_iff (extendSize : Bool) (str : List UInt8)
    (h : str.length ≤ capacity extendSize) : ReadBack extendSize str ↔ 0 ∉ str :=
  (readBack_of_length h).trans (cString_eq_self_iff str)

theorem readBack_iff_greeting : ReadBack true [104, 105] ↔ (0 : UInt8) ∉ [104, 105] :=
  readBack_iff true [104, 105] (by decide)

theorem not_readBack_nul : ¬ ReadBack true [97, 0, 98] := by
  intro h
  have hcut := (readBack_of_length (by decide)).mp h
  exact absurd hcut (by decide)

/-- PyConnectData<std::string>::setData, with the length in an int. A `new` of a negative
size throws. -/
def setData (amValue : List UInt8) (status : PyConnectMsgStatus) : Option DataBuf :=
  if status ≠ .noErrors then some ⟨[], 0, status⟩
  else
    let length := toInt amValue.length
    let tooLong := length > maxStrLength
    let dataLength := if tooLong then 0 else length
    let total := dataLength + packedIntLen dataLength
    if 0 ≤ total then
      some ⟨BuilderSizes.packString amValue length true, total, if tooLong then .strTooLong else status⟩
    else none

/-- The bytes written fill the buffer that is reported, and a string that is too long
arrives as the empty one. -/
def Fits (str : List UInt8) : Prop :=
  ∃ buf, setData str .noErrors = some buf ∧ (buf.written.length : Int) = buf.dataLength ∧
    (maxStrLength < str.length → buf.status = .strTooLong ∧
      Decodes (unpackString true) (buf.written.take buf.dataLength.toNat) [] buf.dataLength)

/-- Where the length is an int, this is the setData of the value codec. -/
theorem setData_eq {str : List UInt8} (h : (str.length : Int) < 2 ^ 31)
    (status : PyConnectMsgStatus) : setData str status = some (setString str status) := by
  have hint := toInt_eq (Int.natCast_nonneg str.length) h
  have hlen : 0 ≤ (if (str.length : Int) > maxStrLength then 0 else (str.length : Int)) := by
    split_ifs <;> omega
  have hp := packedIntLen_nonneg (if (str.length : Int) > maxStrLength then 0 else str.length)
  rw [setData, setString]
  split_ifs with hs
  · rfl
  · have hstr := BuilderSizes.packString_eq h true
    rw [hint] at hstr
    simp only [hint, hstr]
    rw [if_pos (by omega)]

theorem toInt_le (n : Nat) : toInt n ≤ n := by
  rw [toInt, BitVec.toInt_ofInt, Int.bmod_def]
  split_ifs <;> omega

theorem packIntToStr_large {n : Int} (h : maxStrLength < n) : packIntToStr n = [] := by
  have hmax : ((maxStrLength : Nat) : Int) = 32767 := rfl
  rw [packIntToStr, if_neg (by omega), if_neg (by omega), if_neg (by omega)]

/-- For a string that is too long all of it is copied to a buffer of one byte; where the
conversion to int hides the length, nobody notices. -/
theorem not_fits_of_long {str : List UInt8} (h : maxStrLength < str.length) : ¬ Fits str := by
  rintro ⟨buf, hbuf, hlen, hlong⟩
  have hstatus := (hlong h).1
  have hle := toInt_le str.length
  have hmax : ((maxStrLength : Nat) : Int) = 32767 := rfl
  simp only [setData, ne_eq, not_true_eq_false, if_false] at hbuf
  by_cases hc : toInt str.length > maxStrLength
  · simp only [hc, if_true] at hbuf
    rw [if_pos (by decide), Option.some.injEq] at hbuf
    subst hbuf
    simp only [BuilderSizes.packString, if_true, packIntToStr_large hc, List.nil_append,
      List.length_take, packedIntLen] at hlen
    omega
  · simp only [hc, if_false] at hbuf
    split_ifs at hbuf
    rw [Option.some.injEq] at hbuf
    subst hbuf
    cases hstatus

theorem fits_of_short {str : List UInt8} (h : str.length ≤ maxStrLength) : Fits str := by
  have hmax : ((maxStrLength : Nat) : Int) = 32767 := rfl
  refine ⟨_, setData_eq (by omega) .noErrors, ?_, fun hlong => absurd hlong (by omega)⟩
  have hl : ¬ (str.length : Int) > maxStrLength := by omega
  simp only [setString, ne_eq, not_true_eq_false, if_false, hl, ValueCodec.packString_length]

theorem setData_fits_iff (str : List UInt8) : Fits str ↔ str.length ≤ maxStrLength := by
  constructor
  · intro h
    by_contra hlong
    exact not_fits_of_long (by omega) h
  · exact fits_of_short

theorem not_setData_fits_long : ¬ Fits (List.replicate 32768 120) := by
  apply not_fits_of_long
  rw [List.length_replicate]
  decide

end PyConnect.StringCodec

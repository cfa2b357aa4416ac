import PyConnect.BuilderSizes

namespace PyConnect.FaithfulArguments

open Decoding Common Values Ints

/-- A code point of a str; those of the surrogates are among them. -/
abbrev CodePoint := Fin 0x110000

/-- What is passed where INT is expected, and where STRING is: a str itself, or an
instance of a class derived from it. -/
inductive PyArg
  | int (n : Int)
  | bool (b : Bool)
  | str (points : List CodePoint)
  | strSubclass (points : List CodePoint)

def encodePoint (p : CodePoint) : Option (List UInt8) :=
  if h : p.val.isValidChar then some (String.utf8EncodeChar (Char.ofNatAux p.val h)) else none

/-- PyUnicode_AsUTF8; a surrogate has no UTF-8. -/
def unicodeAsUtf8 (points : List CodePoint) : Option (List UInt8) := do
  let units ← points.mapM encodePoint
  pure units.flatten

def PyArg.dataType : PyArg → DataType
  | int _ => .int
  | bool _ => .int
  | str _ => .string
  | strSubclass _ => .string

/-- The object, where its UTF-8 can be had; else strlen is given a null pointer. -/
def PyArg.object : PyArg → Option PyObject
  | int n => some (.int n)
  | bool b => some (.bool b)
  | str points => (unicodeAsUtf8 points).map .str
  | strSubclass points => (unicodeAsUtf8 points).map .str

/-- Whether PyUnicode_FromObject makes an object for it that Py_DECREF takes away
again, text and all. The empty str is one that stays. -/
def PyArg.copied : PyArg → Bool
  | strSubclass points => decide (points ≠ [])
  | _ => false

/-- PyConnectType::validateTypeAndSize, if it returns. -/
def validateTypeAndSize (arg : PyArg) : Option Int :=
  arg.object.map fun obj => Values.validateTypeAndSize obj arg.dataType.pyType

/-- PyConnectType::packToStr, if it returns and reads nothing that is gone. -/
def packToStr (host : Host) (arg : PyArg) : Option (List UInt8) :=
  if arg.copied then none
  else arg.object.map fun obj => BuilderSizes.packToStr host obj arg.dataType.pyType

/-- The C++ value is the integer, or the UTF-8 bytes, that were passed. -/
def PyArg.Arrives : PyArg → Value → Prop
  | int n, .int v => v.toInt = n
  | bool b, .int v => v.toInt = if b then 1 else 0
  | str points, .string utf8 => unicodeAsUtf8 points = some utf8
  | strSubclass points, .string utf8 => unicodeAsUtf8 points = some utf8
  | _, _ => False

/-- What is accepted is packed to the size given for it, and read back from there. -/
def Faithful (sender receiver : Host) (arg : PyArg) : Prop :=
  ∃ size, validateTypeAndSize arg = some size ∧ (size ≠ 0 → ∃ bs value,
    packToStr sender arg = some bs ∧ (bs.length : Int) = size ∧ arg.Arrives value ∧
      DecodesWithin (getData receiver arg.dataType .noErrors) bs (value, .noErrors) size)

/-- A text has no surrogate, and can be carried; or its length as an int is -2, and
it is reckoned to be of size zero. -/
def TextFits (points : List CodePoint) (carried : List UInt8 → Prop) : Prop :=
  ∃ utf8, unicodeAsUtf8 points = some utf8 ∧
    (carried utf8 ∨ (cString utf8).length % 2 ^ 32 = 2 ^ 32 - 2)

/-- An int fits 32 bits; a str has no surrogate and no NUL, and a length that fits
15 bits; what is derived from it is empty. -/
def PyArg.Carriable : PyArg → Prop
  | int n => -2 ^ 31 ≤ n ∧ n < 2 ^ 31
  | bool _ => True
  | str points => TextFits points fun utf8 => 0 ∉ utf8 ∧ utf8.length ≤ maxStrLength
  | strSubclass points => TextFits points fun _ => points = []

variable {sender receiver : Host} {arg : PyArg} {obj : PyObject} {points : List CodePoint}

theorem faithful_of_sent (receiver : Host) {v : Value} (hobj : arg.object = some obj)
    (hcopied : arg.copied = false) (hv : sentValue sender arg.dataType obj = some v)
    (harr : arg.Arrives v)
    (hbound : ((Values.packToStr sender obj arg.dataType.pyType).length : Int) < 2 ^ 31) :
    Faithful sender receiver arg := by
  obtain ⟨hdec, hlen, -⟩ := ValueCodec.packToStr_sent receiver hv
  refine ⟨Values.validateTypeAndSize obj arg.dataType.pyType, ?_, fun _ =>
    ⟨Values.packToStr sender obj arg.dataType.pyType, v, ?_, hlen.symm, harr, ?_⟩⟩
  · rw [validateTypeAndSize, hobj]
    rfl
  · rw [packToStr, hcopied, if_neg Bool.false_ne_true, hobj, Option.map_some,
      BuilderSizes.packToStr_eq sender hbound]
  · rw [hlen]
    exact hdec

theorem faithful_of_text (sender receiver : Host) {utf8 : List UInt8}
    (ht : arg.dataType = .string) (hobj : arg.object = some (.str utf8)) (hcopied : arg.copied = false)
    (h0 : 0 ∉ utf8) (hlen : utf8.length ≤ maxStrLength) (harr : arg.Arrives (.string utf8)) :
    Faithful sender receiver arg := by
  have hv : sentValue sender arg.dataType (.str utf8) = some (.string utf8) := by
    rw [ht, sentValue, cString_eq h0, if_pos hlen]
  have hpack : Values.packToStr sender (.str utf8) .string = packString (cString utf8) true := rfl
  have hsize := ValueCodec.packString_length utf8
  have hp := packedIntLen_le utf8.length
  have hmax : maxStrLength = 32767 := rfl
  have hbound : ((Values.packToStr sender (.str utf8) arg.dataType.pyType).length : Int) < 2 ^ 31 := by
    rw [ht, DataType.pyType, hpack, cString_eq h0]
    omega
  exact faithful_of_sent receiver hobj hcopied hv harr hbound

theorem faithful_of_rejected {utf8 : List UInt8} (ht : arg.dataType = .string)
    (hobj : arg.object = some (.str utf8)) (hsize : (cString utf8).length % 2 ^ 32 = 2 ^ 32 - 2) :
    Faithful sender receiver arg := by
  refine ⟨0, ?_, fun hz => absurd rfl hz⟩
  rw [validateTypeAndSize, hobj, ht]
  exact congrArg some ((ValueCodec.intSize_eq_zero _).mpr hsize)

theorem faithful_of_carriable (sender receiver : Host) (h : arg.Carriable) :
    Faithful sender receiver arg := by
  have hnumber : ∀ value : PyObject, ((Values.packToStr sender value .int).length : Int) < 2 ^ 31 :=
    fun value => by
      rw [Values.packToStr, ValueCodec.packNumber_length]
      decide
  cases arg with
  | int n =>
      obtain ⟨hlo, hhi⟩ := h
      have hlong : asLong (.int n) = n := if_pos (by omega)
      refine faithful_of_sent receiver rfl rfl rfl ?_ (hnumber _)
      rw [PyArg.Arrives, hlong]
      exact Ints.toInt_eq_self hlo hhi
  | bool b =>
      refine faithful_of_sent receiver rfl rfl rfl ?_ (hnumber _)
      cases b <;> rfl
  | str points =>
      obtain ⟨utf8, hutf8, hfits⟩ := h
      have hobj : (PyArg.str points).object = some (.str utf8) := by
        rw [PyArg.object, hutf8]
        rfl
      rcases hfits with ⟨h0, hlen⟩ | hneg
      · exact faithful_of_text sender receiver rfl hobj rfl h0 hlen hutf8
      · exact faithful_of_rejected rfl hobj hneg
  | strSubclass points =>
      obtain ⟨utf8, hutf8, hfits⟩ := h
      have hobj : (PyArg.strSubclass points).object = some (.str utf8) := by
        rw [PyArg.object, hutf8]
        rfl
      rcases hfits with rfl | hneg
      · obtain rfl : [] = utf8 := Option.some.inj hutf8
        exact faithful_of_text sender receiver rfl hobj rfl List.not_mem_nil (Nat.zero_le _) hutf8
      · exact faithful_of_rejected rfl hobj hneg

theorem textFits_of_faithful {carried : List UInt8 → Prop} (ht : arg.dataType = .string)
    (hobj : arg.object = (unicodeAsUtf8 points).map .str) (h : Faithful sender receiver arg)
    (hcarried : ∀ utf8 bs size, unicodeAsUtf8 points = some utf8 → packToStr sender arg = some bs →
      arg.Arrives (.string (unpackString true ⟨bs ++ [], 0, size⟩).1) → carried utf8) :
    TextFits points carried := by
  obtain ⟨size, hsize, hread⟩ := h
  rw [validateTypeAndSize, hobj, ht] at hsize
  cases hutf8 : unicodeAsUtf8 points with
  | none =>
      rw [hutf8] at hsize
      cases hsize
  | some utf8 =>
      rw [hutf8] at hsize
      obtain rfl := Option.some.inj hsize
      refine ⟨utf8, hutf8, ?_⟩
      by_cases hz : Values.validateTypeAndSize (.str utf8) .string = 0
      · exact .inr ((ValueCodec.intSize_eq_zero _).mp hz)
      · obtain ⟨bs, value, hpack, -, harr, hdec⟩ := hread hz
        refine .inl (hcarried utf8 bs (Values.validateTypeAndSize (.str utf8) .string) hutf8 hpack ?_)
        rw [ht] at hdec
        have hvalue : Value.string (unpackString true
            ⟨bs ++ [], 0, Values.validateTypeAndSize (.str utf8) .string⟩).1 = value :=
          congrArg (fun r => r.1.1) (hdec [] 0 _ (Int.le_refl _))
        rw [hvalue]
        exact harr

theorem carriable_of_faithful (h : Faithful sender receiver arg) : arg.Carriable := by
  cases arg with
  | int n =>
      obtain ⟨size, hsize, hcarried⟩ := h
      obtain rfl : 4 = size := Option.some.inj hsize
      obtain ⟨bs, value, -, -, harr, -⟩ := hcarried (by decide)
      cases value with
      | int v =>
          have hv : v.toInt = n := harr
          have hlo := v.le_toInt
          have hhi := v.toInt_lt
          rw [PyArg.Carriable]
          omega
      | _ => exact harr.elim
  | bool b => trivial
  | str points =>
      refine textFits_of_faithful rfl rfl h fun utf8 bs size hutf8 _ harr => ?_
      obtain rfl := Option.some.inj (hutf8.symm.trans harr)
      exact yields_unpackString _
  | strSubclass points =>
      refine textFits_of_faithful rfl rfl h fun utf8 bs size _ hpack _ => ?_
      by_contra hne
      have hcopied : (PyArg.strSubclass points).copied = true := decide_eq_true hne
      rw [packToStr, if_pos hcopied] at hpack
      cases hpack

/-- What is accepted arrives exactly where the message format has room for it, and
its text is not released before it is read. -/
theorem faithful_iff (sender receiver : Host) (arg : PyArg) :
    Faithful sender receiver arg ↔ arg.Carriable :=
  ⟨carriable_of_faithful, faithful_of_carriable sender receiver⟩

theorem not_faithful_large : ¬ Faithful Host.little Host.little (.int 4294967297) := by
  intro h
  have hfits := (carriable_of_faithful h).2
  omega

end PyConnect.FaithfulArguments

import PyConnect.Values

namespace PyConnect.MissingBytes

open Bytes Decoding Common Values

/-- The types that PyConnectData is made for: those of a fixed width, bool and
std::string. -/
inductive ValueType
  | number (w : Nat)
  | bool
  | string

abbrev ValueType.Carrier : ValueType → Type
  | number w => BitVec (8 * w)
  | bool => Bool
  | string => List UInt8

def getNumber (bigEndian : Bool) (w : Nat) (status : PyConnectMsgStatus) :
    Decoder (BitVec (8 * w) × PyConnectMsgStatus) := do
  if status ≠ .noErrors then pure (0, status)
  else
    let remainingBytes ← getRemaining
    if unsignedDifference remainingBytes w < 0 then pure (0, .msgCorrupted)
    else
      let rData ← unpackLENumber bigEndian w
      pure (BitVec.ofNat (8 * w) rData, status)

def getNumberOr (bigEndian : Bool) (w : Nat) (status : PyConnectMsgStatus)
    (defaultValue : BitVec (8 * w)) : Decoder (BitVec (8 * w) × PyConnectMsgStatus) := do
  if status ≠ .noErrors then pure (defaultValue, status)
  else
    let remainingBytes ← getRemaining
    if remainingBytes = 0 then pure (defaultValue, status)
    else if unsignedDifference remainingBytes w < 0 then pure (defaultValue, .msgCorrupted)
    else
      let rData ← unpackLENumber bigEndian w
      pure (BitVec.ofNat (8 * w) rData, status)

def getString (status : PyConnectMsgStatus) : Decoder (List UInt8 × PyConnectMsgStatus) := do
  if status ≠ .noErrors then pure ([], status)
  else
    let str ← unpackString true
    pure (str, status)

def getStringOr (status : PyConnectMsgStatus) (defaultValue : List UInt8) :
    Decoder (List UInt8 × PyConnectMsgStatus) := do
  if status ≠ .noErrors then pure ([], status)
  else
    let remainingBytes ← getRemaining
    if remainingBytes ≤ 0 then pure (defaultValue, status)
    else
      let str ← unpackString true
      pure (str, status)

def getBool (status : PyConnectMsgStatus) : Decoder (Bool × PyConnectMsgStatus) := do
  if status ≠ .noErrors then pure (false, status)
  else
    let remainingBytes ← getRemaining
    if remainingBytes - 1 < 0 then pure (false, .msgCorrupted)
    else
      let b ← byte
      spend 1
      pure (decide (b ≠ 0), status)

def getBoolOr (status : PyConnectMsgStatus) (defaultValue : Bool) :
    Decoder (Bool × PyConnectMsgStatus) := do
  if status ≠ .noErrors then pure (false, status)
  else
    let remainingBytes ← getRemaining
    if remainingBytes = 0 then pure (defaultValue, status)
    else if remainingBytes - 1 < 0 then pure (defaultValue, .msgCorrupted)
    else
      let b ← byte
      spend 1
      pure (decide (b ≠ 0), status)

/-- PyConnectData<DataType>::getData, in both overloads. -/
def getData (bigEndian : Bool) : (t : ValueType) → PyConnectMsgStatus → Option t.Carrier →
    Decoder (t.Carrier × PyConnectMsgStatus)
  | .number w, status, none => getNumber bigEndian w status
  | .number w, status, some defaultValue => getNumberOr bigEndian w status defaultValue
  | .bool, status, none => getBool status
  | .bool, status, some defaultValue => getBoolOr status defaultValue
  | .string, status, none => getString status
  | .string, status, some defaultValue => getStringOr status defaultValue

def valueType : DataType → ValueType
  | .int => .number 4
  | .float => .number 4
  | .double => .number 8
  | .string => .string
  | .bool => .bool

def toValue : (t : DataType) → (valueType t).Carrier → Value
  | .int, v => .int v
  | .float, v => .float v
  | .double, v => .double v
  | .string, str => .string str
  | .bool, b => .bool b

def ahead (n : Nat) (rest : List UInt8) : List UInt8 :=
  rest.take n ++ List.replicate (n - rest.length) 0

def lengthWidth (rest : List UInt8) : Nat := if 128 ≤ (rest.headD 0).toNat then 2 else 1

/-- The length that a packed string starts with: seven bits, or fifteen. -/
def lengthAhead (rest : List UInt8) : Nat :=
  if 128 ≤ (rest.headD 0).toNat then
    (rest.tail.headD 0).toNat * 128 + (rest.headD 0).toNat % 128
  else (rest.headD 0).toNat

def contentAhead (rest : List UInt8) : List UInt8 :=
  ahead (lengthAhead rest) (rest.drop (lengthWidth rest))

/-- What the encoded value takes of the bytes that follow. -/
def encodedWidth : ValueType → List UInt8 → Nat
  | .number w, _ => w
  | .bool, _ => 1
  | .string, rest => lengthWidth rest + lengthAhead rest

def encodedValue : (t : ValueType) → List UInt8 → t.Carrier
  | .number w, rest => BitVec.ofNat (8 * w) (ofLeBytes (ahead w rest))
  | .bool, rest => decide (rest.headD 0 ≠ 0)
  | .string, rest => contentAhead rest

/-- Where bytes are missing nothing is read and the message is called corrupted, or the
default is given; else the value is read. -/
def Detects (bigEndian : Bool) (t : ValueType) (defaultValue : Option t.Carrier) (c : Cursor) :
    Prop :=
  let r := getData bigEndian t .noErrors defaultValue c
  if c.remaining < encodedWidth t c.rest then
    r.2 = c ∧ (r.1.2 = .msgCorrupted ∨
      c.remaining = 0 ∧ ∃ v, defaultValue = some v ∧ r.1 = (v, .noErrors))
  else
    r.1 = (encodedValue t c.rest, .noErrors) ∧ r.2.rest = c.rest.drop (encodedWidth t c.rest) ∧
      r.2.remaining = c.remaining - encodedWidth t c.rest ∧ 0 ≤ r.2.remaining

/-- A bool, or the default where no bytes are left, or a value that is there; a string
without NUL. -/
def Readable (t : ValueType) (defaultValue : Option t.Carrier) (c : Cursor) : Prop :=
  t = .bool ∨ (defaultValue.isSome ∧ c.remaining = 0) ∨
    (encodedWidth t c.rest ≤ c.remaining ∧ (t = .string → 0 ∉ contentAhead c.rest))

theorem not_unsigned_lt (remainingBytes : Int) (w : Nat) : ¬ unsignedDifference remainingBytes w < 0 :=
  Nat.not_lt_zero _

theorem getNumber_eq (host : Host) (w : Nat) (make : Nat → Value) (zero : Value)
    (f : BitVec (8 * w) → Value) (hmake : ∀ n, make n = f (BitVec.ofNat (8 * w) n)) (hzero : zero = f 0)
    (status : PyConnectMsgStatus) :
    Values.getNumber host w make zero status =
      (do let r ← getNumber host.bigEndian w status; pure (f r.1, r.2)) := by
  funext c
  by_cases hs : status ≠ .noErrors
  · simp only [Values.getNumber, getNumber, if_pos hs, hzero]
    rfl
  · simp only [Values.getNumber, getNumber, if_neg hs, if_neg (not_unsigned_lt _ _), hmake]
    rfl

theorem getData_eq (host : Host) (t : DataType) (status : PyConnectMsgStatus) :
    Values.getData host t status =
      (do let r ← getData host.bigEndian (valueType t) status none; pure (toValue t r.1, r.2)) := by
  cases t with
  | int => exact getNumber_eq host 4 _ _ (toValue .int) (fun _ => rfl) rfl status
  | float => exact getNumber_eq host 4 _ _ (toValue .float) (fun _ => rfl) rfl status
  | double => exact getNumber_eq host 8 _ _ (toValue .double) (fun _ => rfl) rfl status
  | string =>
      funext c
      by_cases hs : status ≠ .noErrors
      · simp only [Values.getData, Values.getString, valueType, getData, getString, if_pos hs]
        rfl
      · simp only [Values.getData, Values.getString, valueType, getData, getString, if_neg hs]
        rfl
  | bool =>
      funext c
      by_cases hs : status ≠ .noErrors
      · simp only [Values.getData, Values.getBool, valueType, getData, getBool, if_pos hs]
        rfl
      · simp only [Values.getData, Values.getBool, valueType, getData, getBool, if_neg hs]
        rw [bind_apply, bind_apply, bind_apply, getRemaining]
        by_cases hr : c.remaining - 1 < 0
        · rw [if_pos hr, if_pos hr]
          rfl
        · rw [if_neg hr, if_neg hr]
          rfl

theorem unpackLENumber_apply (bigEndian : Bool) (w : Nat) (c : Cursor) :
    unpackLENumber bigEndian w c =
      (ofLeBytes (ahead w c.rest), ⟨c.rest.drop w, c.overrun + (w - c.rest.length), c.remaining - w⟩) := by
  cases bigEndian with
  | false => rfl
  | true =>
      change (ofLeBytes (ahead w c.rest).reverse.reverse, _) = _
      rw [List.reverse_reverse]

theorem unpackStrToInt_apply (c : Cursor) :
    (unpackStrToInt c).1 = lengthAhead c.rest ∧
      (unpackStrToInt c).2.rest = c.rest.drop (lengthWidth c.rest) ∧
      (unpackStrToInt c).2.remaining = c.remaining - lengthWidth c.rest := by
  have hb := highBit_iff (c.rest.headD 0)
  rw [unpackStrToInt, bind_apply]
  by_cases h : 128 ≤ (c.rest.headD 0).toNat
  · have hbit : (byte c).1 &&& 0x80 ≠ 0 := hb.mpr h
    rw [if_pos hbit]
    refine ⟨?_, ?_, ?_⟩
    · rw [lengthAhead, if_pos h, ← extended_eq]
      rfl
    · rw [lengthWidth, if_pos h, ← List.drop_drop (i := 1) (j := 1), List.drop_one, List.drop_one]
      rfl
    · rw [lengthWidth, if_pos h]
      rfl
  · have hbit : ¬ (byte c).1 &&& 0x80 ≠ 0 := fun hn => h (hb.mp hn)
    rw [if_neg hbit]
    refine ⟨?_, ?_, ?_⟩
    · rw [lengthAhead, if_neg h]
      rfl
    · rw [lengthWidth, if_neg h, List.drop_one]
      rfl
    · rw [lengthWidth, if_neg h]
      rfl

theorem unpackString_apply (c : Cursor) :
    (unpackString true c).1 = cString (contentAhead c.rest) ∧
      (unpackString true c).2.rest = c.rest.drop (encodedWidth .string c.rest) ∧
      (unpackString true c).2.remaining = c.remaining - encodedWidth .string c.rest := by
  obtain ⟨hval, hrest, hrem⟩ := unpackStrToInt_apply c
  have hrun : unpackString true c = (do
      let strLen ← unpackStrToInt
      if strLen = 0 then pure []
      else
        let str ← bytes strLen
        spend strLen
        pure (cString str) : Decoder (List UInt8)) c := rfl
  rw [hrun, bind_apply, hval]
  simp only [encodedWidth, contentAhead]
  by_cases hz : lengthAhead c.rest = 0
  · rw [if_pos hz, pure_apply]
    dsimp only
    rw [hrest, hrem, hz, Nat.add_zero]
    exact ⟨by simp [ahead, cString], rfl, rfl⟩
  · rw [if_neg hz]
    refine ⟨?_, ?_, ?_⟩
    · change cString ((bytes (lengthAhead c.rest) (unpackStrToInt c).2).1) = _
      rw [bytes, hrest]
      rfl
    · change (unpackStrToInt c).2.rest.drop (lengthAhead c.rest) = _
      rw [hrest, List.drop_drop]
    · change (unpackStrToInt c).2.remaining - lengthAhead c.rest = _
      rw [hrem]
      omega

theorem getNumber_apply (bigEndian : Bool) (w : Nat) (c : Cursor) :
    getNumber bigEndian w .noErrors c =
      ((encodedValue (.number w) c.rest, .noErrors),
        ⟨c.rest.drop w, c.overrun + (w - c.rest.length), c.remaining - w⟩) := by
  have hu := unpackLENumber_apply bigEndian w c
  rw [getNumber, if_neg (by decide), bind_apply]
  rw [if_neg (not_unsigned_lt _ _), bind_apply, getRemaining, hu]
  rfl

theorem getNumberOr_apply (bigEndian : Bool) (w : Nat) (v : BitVec (8 * w)) (c : Cursor) :
    getNumberOr bigEndian w .noErrors v c =
      if c.remaining = 0 then ((v, .noErrors), c) else getNumber bigEndian w .noErrors c := by
  rw [getNumberOr, if_neg (by decide), bind_apply, getRemaining]
  by_cases h : c.remaining = 0
  · rw [if_pos h, if_pos h]
    rfl
  · rw [if_neg h, if_neg h, if_neg (not_unsigned_lt _ _), getNumber, if_neg (by decide)]
    rfl

theorem getString_apply (c : Cursor) :
    getString .noErrors c = (((unpackString true c).1, .noErrors), (unpackString true c).2) := rfl

theorem getStringOr_apply (v : List UInt8) (c : Cursor) :
    getStringOr .noErrors v c =
      if c.remaining ≤ 0 then ((v, .noErrors), c) else getString .noErrors c := by
  rw [getStringOr, if_neg (by decide), bind_apply, getRemaining]
  by_cases h : c.remaining ≤ 0
  · rw [if_pos h, if_pos h]
    rfl
  · rw [if_neg h, if_neg h]
    rfl

theorem getBool_apply (c : Cursor) :
    getBool .noErrors c = if c.remaining < 1 then ((false, .msgCorrupted), c) else
      ((encodedValue .bool c.rest, .noErrors),
        ⟨c.rest.tail, c.overrun + (1 - c.rest.length), c.remaining - 1⟩) := by
  rw [getBool, if_neg (by decide), bind_apply, getRemaining]
  by_cases h : c.remaining < 1
  · rw [if_pos (by omega), if_pos h]
    rfl
  · rw [if_neg (by omega), if_neg h]
    rfl

theorem getBoolOr_apply (v : Bool) (c : Cursor) :
    getBoolOr .noErrors v c = if c.remaining = 0 then ((v, .noErrors), c)
      else if c.remaining < 1 then ((v, .msgCorrupted), c) else getBool .noErrors c := by
  rw [getBoolOr, if_neg (by decide), bind_apply, getRemaining]
  by_cases hz : c.remaining = 0
  · rw [if_pos hz, if_pos hz]
    rfl
  · rw [if_neg hz, if_neg hz]
    by_cases h : c.remaining < 1
    · rw [if_pos (by omega), if_pos h]
      rfl
    · rw [if_neg (by omega), if_neg h, getBool_apply, if_neg h]
      rfl

variable {bigEndian : Bool} {t : ValueType} {defaultValue : Option t.Carrier} {c : Cursor}

theorem detects_of_default {v : t.Carrier} (hv : defaultValue = some v) (hr : c.remaining = 0)
    (hw : 0 < encodedWidth t c.rest)
    (h : getData bigEndian t .noErrors defaultValue c = ((v, .noErrors), c)) :
    Detects bigEndian t defaultValue c := by
  rw [Detects, if_pos (by omega), h]
  exact ⟨rfl, .inr ⟨hr, v, hv, rfl⟩⟩

theorem detects_of_read {v : t.Carrier} {c' : Cursor} (hr : 0 ≤ c.remaining)
    (h : getData bigEndian t .noErrors defaultValue c = ((v, .noErrors), c'))
    (hrest : c'.rest = c.rest.drop (encodedWidth t c.rest))
    (hrem : c'.remaining = c.remaining - encodedWidth t c.rest) :
    Detects bigEndian t defaultValue c ↔
      encodedWidth t c.rest ≤ c.remaining ∧ v = encodedValue t c.rest := by
  rw [Detects, h]
  by_cases hw : c.remaining < encodedWidth t c.rest
  · rw [if_pos hw]
    constructor
    · rintro ⟨hc, -⟩
      rw [show c' = c from hc] at hrem
      omega
    · rintro ⟨hle, -⟩
      omega
  · rw [if_neg hw]
    constructor
    · rintro ⟨hv, -⟩
      exact ⟨by omega, congrArg Prod.fst hv⟩
    · rintro ⟨hle, rfl⟩
      refine ⟨rfl, hrest, hrem, ?_⟩
      change 0 ≤ c'.remaining
      omega

theorem detects_number (w : Nat) (defaultValue : Option (BitVec (8 * w))) (hr : 0 ≤ c.remaining) :
    Detects bigEndian (.number w) defaultValue c ↔
      (defaultValue.isSome ∧ c.remaining = 0) ∨ (w : Int) ≤ c.remaining := by
  have hread (d : Option (BitVec (8 * w)))
      (h : getData bigEndian (.number w) .noErrors d c = getNumber bigEndian w .noErrors c) :
      Detects bigEndian (.number w) d c ↔ (w : Int) ≤ c.remaining := by
    rw [getNumber_apply] at h
    rw [detects_of_read hr h rfl rfl]
    exact and_iff_left rfl
  cases defaultValue with
  | none => simpa using hread none rfl
  | some v =>
      have hd := getNumberOr_apply bigEndian w v c
      by_cases hz : c.remaining = 0
      · rw [if_pos hz] at hd
        refine iff_of_true ?_ (.inl ⟨rfl, hz⟩)
        by_cases hw : 0 < w
        · exact detects_of_default rfl hz hw hd
        · -- of width zero there is one value only
          have hw0 : w = 0 := by omega
          subst hw0
          have hv : v = encodedValue (.number 0) c.rest := BitVec.eq_of_getElem_eq (by simp)
          have hg : getData bigEndian (.number 0) .noErrors (some v) c = ((v, .noErrors), c) := hd
          refine (detects_of_read hr hg ?_ ?_).mpr ⟨?_, hv⟩
          · exact List.drop_zero.symm
          · exact (Int.sub_zero _).symm
          · exact hr
      · rw [if_neg hz] at hd
        simpa [hz] using hread (some v) hd

theorem detects_bool (defaultValue : Option Bool) (hr : 0 ≤ c.remaining) :
    Detects bigEndian .bool defaultValue c := by
  have hread (d : Option Bool) (hpos : ¬ c.remaining < 1)
      (h : getData bigEndian .bool .noErrors d c = getBool .noErrors c) :
      Detects bigEndian .bool d c := by
    rw [getBool_apply, if_neg hpos] at h
    refine (detects_of_read hr h ?_ rfl).mpr ⟨?_, rfl⟩
    · exact List.drop_one.symm
    · change (1 : Int) ≤ _
      omega
  have hmissing (d : Option Bool) (v : Bool) (hneg : c.remaining < 1)
      (h : getData bigEndian .bool .noErrors d c = ((v, .msgCorrupted), c)) :
      Detects bigEndian .bool d c := by
    have hw : c.remaining < encodedWidth .bool c.rest := hneg
    rw [Detects, h, if_pos hw]
    exact ⟨rfl, .inl rfl⟩
  cases defaultValue with
  | none =>
      by_cases h : c.remaining < 1
      · have hd := getBool_apply c
        rw [if_pos h] at hd
        exact hmissing none false h hd
      · exact hread none h rfl
  | some v =>
      have hd := getBoolOr_apply v c
      by_cases hz : c.remaining = 0
      · rw [if_pos hz] at hd
        exact detects_of_default rfl hz Nat.one_pos hd
      · rw [if_neg hz, if_neg (by omega)] at hd
        exact hread (some v) (by omega) hd

theorem lengthWidth_pos (rest : List UInt8) : 0 < lengthWidth rest := by
  rw [lengthWidth]
  split_ifs <;> decide

theorem detects_string (defaultValue : Option (List UInt8)) (hr : 0 ≤ c.remaining) :
    Detects bigEndian .string defaultValue c ↔ (defaultValue.isSome ∧ c.remaining = 0) ∨
      ((encodedWidth .string c.rest : Int) ≤ c.remaining ∧ 0 ∉ contentAhead c.rest) := by
  obtain ⟨hval, hrest, hrem⟩ := unpackString_apply c
  have hread (d : Option (List UInt8))
      (h : getData bigEndian .string .noErrors d c = getString .noErrors c) :
      Detects bigEndian .string d c ↔
        (encodedWidth .string c.rest : Int) ≤ c.remaining ∧ 0 ∉ contentAhead c.rest := by
    rw [getString_apply] at h
    rw [detects_of_read hr h hrest hrem, hval]
    exact and_congr_right' (cString_eq_self_iff _)
  cases defaultValue with
  | none => simpa using hread none rfl
  | some v =>
      have hd := getStringOr_apply v c
      by_cases hz : c.remaining = 0
      · rw [if_pos (by omega)] at hd
        have hw : 0 < encodedWidth .string c.rest := Nat.add_pos_left (lengthWidth_pos c.rest) _
        exact iff_of_true (detects_of_default rfl hz hw hd) (.inl ⟨rfl, hz⟩)
      · rw [if_neg (by omega)] at hd
        simpa [hz] using hread (some v) hd

/-- Missing bytes are noticed for a bool only, and where a default meets an empty rest. -/
theorem detects_iff (bigEndian : Bool) (t : ValueType) (defaultValue : Option t.Carrier)
    (c : Cursor) (hr : 0 ≤ c.remaining) :
    Detects bigEndian t defaultValue c ↔ Readable t defaultValue c := by
  cases t with
  | number w => simp [detects_number w defaultValue hr, Readable, encodedWidth]
  | bool => exact iff_of_true (detects_bool defaultValue hr) (.inl rfl)
  | string => simp [detects_string defaultValue hr, Readable]

theorem detects_iff_five : Detects false (.number 4) none ⟨[5, 0, 0, 0, 9], 0, 5⟩ ↔
    Readable (.number 4) none ⟨[5, 0, 0, 0, 9], 0, 5⟩ :=
  detects_iff false (.number 4) none _ (by decide)

theorem not_detects_short : ¬ Detects false (.number 4) none ⟨[1, 2], 0, 2⟩ := by
  intro h
  have hshort := (detects_number (c := ⟨[1, 2], 0, 2⟩) 4 none (by decide)).mp h
  exact absurd hshort (by decide)

end PyConnect.MissingBytes

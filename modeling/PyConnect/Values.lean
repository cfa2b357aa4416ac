import PyConnect.Common
import PyConnect.Ints

namespace PyConnect.Values

open Bytes Decoding Common Ints

/-- What a build takes from its host: the byte order, and the conversions
between float and double, whose effect on a NaN is the host's own. -/
structure Host where
  bigEndian : Bool
  toDouble : BitVec 32 → BitVec 64
  toFloat : BitVec 64 → BitVec 32

/-- A little-endian host that has no use for floats. -/
def Host.little : Host := ⟨false, fun _ => 0, fun _ => 0⟩

/-- The C++ types that getVarType and PyConnectData support. -/
inductive DataType
  | int
  | float
  | double
  | string
  | bool
  deriving DecidableEq, Repr

def DataType.pyType : DataType → PyConnectType
  | int => .int
  | float => .float
  | double => .double
  | string => .string
  | bool => .bool

/-- A C++ value of one of them; the numbers are the patterns in memory. -/
inductive Value
  | int (v : BitVec 32)
  | float (v : BitVec 32)
  | double (v : BitVec 64)
  | string (str : List UInt8)
  | bool (b : Bool)
  deriving DecidableEq, Repr

def Value.dataType : Value → DataType
  | int _ => .int
  | float _ => .float
  | double _ => .double
  | string _ => .string
  | bool _ => .bool

/-- `(DataType)0`, and the empty string. -/
def DataType.zero : DataType → Value
  | int => .int 0
  | float => .float 0
  | double => .double 0
  | string => .string []
  | bool => .bool false

/-- A buffer that a setData returns: the bytes written to it, the length it
reports, and the status it leaves. -/
structure DataBuf where
  written : List UInt8
  dataLength : Int
  status : PyConnectMsgStatus
  deriving DecidableEq, Repr

def setNumber (host : Host) {w : Nat} (size : Nat) (amValue : BitVec w)
    (status : PyConnectMsgStatus) : DataBuf :=
  if status ≠ .noErrors then ⟨[], 0, status⟩
  else ⟨packToLENumber host.bigEndian size amValue.toNat, size, status⟩

def setString (amValue : List UInt8) (status : PyConnectMsgStatus) : DataBuf :=
  if status ≠ .noErrors then ⟨[], 0, status⟩
  else
    let tooLong := (amValue.length : Int) > maxStrLength
    let dataLength : Int := if tooLong then 0 else amValue.length
    ⟨packString amValue true, dataLength + packedIntLen dataLength,
      if tooLong then .strTooLong else status⟩

def setBool (amValue : Bool) (status : PyConnectMsgStatus) : DataBuf :=
  if status ≠ .noErrors then ⟨[], 0, status⟩
  else ⟨[if amValue then 1 else 0], 1, status⟩

def setData (host : Host) : Value → PyConnectMsgStatus → DataBuf
  | .int v, status => setNumber host 4 v status
  | .float v, status => setNumber host 4 v status
  | .double v, status => setNumber host 8 v status
  | .string str, status => setString str status
  | .bool b, status => setBool b status

def packRawAttrData (host : Host) (amValue : Value) : DataBuf := setData host amValue .noErrors

/-- `remainingBytes - sizeof(DataType)` is a difference of unsigned numbers. -/
def unsignedDifference (remainingBytes : Int) (size : Nat) : Nat :=
  ((remainingBytes - size) % 2 ^ 64).toNat

def getNumber (host : Host) (size : Nat) (make : Nat → Value) (zero : Value)
    (status : PyConnectMsgStatus) : Decoder (Value × PyConnectMsgStatus) := do
  if status ≠ .noErrors then pure (zero, status)
  else
    let remainingBytes ← getRemaining
    if unsignedDifference remainingBytes size < 0 then pure (zero, .msgCorrupted)
    else
      let rData ← unpackLENumber host.bigEndian size
      pure (make rData, status)

def getString (status : PyConnectMsgStatus) : Decoder (Value × PyConnectMsgStatus) := do
  if status ≠ .noErrors then pure (.string [], status)
  else
    let str ← unpackString true
    pure (.string str, status)

def getBool (status : PyConnectMsgStatus) : Decoder (Value × PyConnectMsgStatus) := do
  if status ≠ .noErrors then pure (.bool false, status)
  else
    let remainingBytes ← getRemaining
    if remainingBytes - 1 < 0 then pure (.bool false, .msgCorrupted)
    else
      let b ← byte
      spend 1
      pure (.bool (b ≠ 0), status)

/-- PyConnectData<DataType>::getData, without a default. -/
def getData (host : Host) : DataType → PyConnectMsgStatus → Decoder (Value × PyConnectMsgStatus)
  | .int, status => getNumber host 4 (fun n => .int (BitVec.ofNat 32 n)) (.int 0) status
  | .float, status => getNumber host 4 (fun n => .float (BitVec.ofNat 32 n)) (.float 0) status
  | .double, status => getNumber host 8 (fun n => .double (BitVec.ofNat 64 n)) (.double 0) status
  | .string, status => getString status
  | .bool, status => getBool status

/-- The Python objects that the server handles. A str stands for its UTF-8
bytes; `null` is the result of a call that raised. -/
inductive PyObject
  | none
  | bool (b : Bool)
  | int (n : Int)
  | float (v : BitVec 64)
  | str (utf8 : List UInt8)
  | connectObject (id : Int)
  | connectMethod (id : Nat)
  | null
  deriving DecidableEq, Repr

/-- The bytes that follow a leading byte in well-formed UTF-8. -/
def utf8Second (b b1 : UInt8) : Bool :=
  if b = 0xe0 then 0xa0 ≤ b1 && b1 ≤ 0xbf
  else if b = 0xed then 0x80 ≤ b1 && b1 ≤ 0x9f
  else if b = 0xf0 then 0x90 ≤ b1 && b1 ≤ 0xbf
  else if b = 0xf4 then 0x80 ≤ b1 && b1 ≤ 0x8f
  else 0x80 ≤ b1 && b1 ≤ 0xbf

def utf8Tail (b : UInt8) : Bool := 0x80 ≤ b && b ≤ 0xbf

/-- What PyUnicode_FromString accepts. -/
def validUtf8 : List UInt8 → Bool
  | [] => true
  | b :: bs =>
      if b < 0x80 then validUtf8 bs
      else match bs with
        | [] => false
        | b1 :: bs =>
            if 0xc2 ≤ b && b ≤ 0xdf then utf8Second b b1 && validUtf8 bs
            else match bs with
              | [] => false
              | b2 :: bs =>
                  if 0xe0 ≤ b && b ≤ 0xef then utf8Second b b1 && utf8Tail b2 && validUtf8 bs
                  else match bs with
                    | [] => false
                    | b3 :: bs =>
                        0xf0 ≤ b && b ≤ 0xf4 && utf8Second b b1 && utf8Tail b2 && utf8Tail b3 &&
                          validUtf8 bs

def unicodeFromString (str : List UInt8) : PyObject :=
  if validUtf8 str then .str str else .null

theorem unicodeFromString_eq_null (str : List UInt8) :
    unicodeFromString str = .null ↔ validUtf8 str = false := by
  rw [unicodeFromString]
  cases validUtf8 str <;> simp

/-- PyConnectType::validateTypeAndSize; zero rejects the object. A bool is an
int to PyLong_Check. The length of a text is what an int keeps of it. -/
def validateTypeAndSize : PyObject → PyConnectType → Int
  | .int _, .int => 4
  | .bool _, .int => 4
  | .float _, .float => 4
  | .float _, .double => 8
  | .str utf8, .string =>
      let size := toInt (cString utf8).length
      size + packedIntLen size
  | .bool _, .bool => 1
  | _, _ => 0

/-- PyLong_AsLong; a number outside a long gives -1. -/
def asLong : PyObject → Int
  | .int n => if -2 ^ 63 ≤ n ∧ n < 2 ^ 63 then n else -1
  | .bool b => if b then 1 else 0
  | _ => -1

/-- PyLong_AsLong leaves an OverflowError, which nobody looks for. -/
def overflows : PyObject → PyConnectType → Bool
  | .int n, .int => decide (n < -2 ^ 63 ∨ 2 ^ 63 ≤ n)
  | _, _ => false

/-- PyFloat_AsDouble of a float; anything else gives -1.0 here, but no other
object passes validateTypeAndSize. -/
def asDouble : PyObject → BitVec 64
  | .float v => v
  | _ => 0xbff0000000000000

def asUtf8 : PyObject → List UInt8
  | .str utf8 => cString utf8
  | _ => []

def packToStr (host : Host) (arg : PyObject) : PyConnectType → List UInt8
  | .int => packToLENumber host.bigEndian 4 (BitVec.ofInt 32 (asLong arg)).toNat
  | .float => packToLENumber host.bigEndian 4 (host.toFloat (asDouble arg)).toNat
  | .double => packToLENumber host.bigEndian 8 (asDouble arg).toNat
  | .string => packString (asUtf8 arg) true
  | .bool => [if arg = .bool true then 1 else 0]
  | _ => []

def unpackStr (host : Host) : PyConnectType → Decoder PyObject
  | .int => do
      let ret ← unpackLENumber host.bigEndian 4
      pure (.int (BitVec.ofNat 32 ret).toInt)
  | .float => do
      let ret ← unpackLENumber host.bigEndian 4
      pure (.float (host.toDouble (BitVec.ofNat 32 ret)))
  | .double => do
      let ret ← unpackLENumber host.bigEndian 8
      pure (.float (BitVec.ofNat 64 ret))
  | .string => do
      let ret ← unpackString true
      pure (unicodeFromString ret)
  | .bool => do
      let b ← byte
      pure (.bool (b &&& 0xf ≠ 0))
  | _ => pure .none

def Value.toPy (host : Host) : Value → PyObject
  | int v => .int v.toInt
  | float v => .float (host.toDouble v)
  | double v => .float v
  | string str => .str str
  | bool b => .bool b

/-- The C++ value that a Python object arrives as where this type is expected,
if it passes validateTypeAndSize and a message can carry it. -/
def sentValue (host : Host) : DataType → PyObject → Option Value
  | .int, .int n => some (.int (BitVec.ofInt 32 (asLong (.int n))))
  | .int, .bool b => some (.int (BitVec.ofInt 32 (asLong (.bool b))))
  | .float, .float v => some (.float (host.toFloat v))
  | .double, .float v => some (.double v)
  | .string, .str utf8 =>
      if (cString utf8).length ≤ maxStrLength then some (.string (cString utf8)) else none
  | .bool, .bool b => some (.bool b)
  | _, _ => none

/-- The C++ value for a Python object passed where this type is expected: a
number that fits an int, a float, a str without NUL that a message can carry,
or a bool. -/
def argValue (host : Host) : DataType → PyObject → Option Value
  | .int, .int n => if -2 ^ 31 ≤ n ∧ n < 2 ^ 31 then some (.int (BitVec.ofInt 32 n)) else none
  | .float, .float v => some (.float (host.toFloat v))
  | .double, .float v => some (.double v)
  | .string, .str utf8 => if 0 ∉ utf8 ∧ utf8.length ≤ maxStrLength then some (.string utf8) else none
  | .bool, .bool b => some (.bool b)
  | _, _ => none

def Value.Sized : Value → Prop
  | string str => str.length ≤ maxStrLength
  | _ => True

/-- A value that the two codecs carry unchanged: only a string can be one that
they do not. -/
def Value.Portable : Value → Prop
  | string str => 0 ∉ str ∧ str.length ≤ maxStrLength
  | _ => True

def Value.PyPortable : Value → Prop
  | string str => 0 ∉ str ∧ str.length ≤ maxStrLength ∧ validUtf8 str = true
  | _ => True

end PyConnect.Values

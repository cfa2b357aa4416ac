import PyConnect.AttributeWrites
import PyConnect.ElementListing

namespace PyConnect.Arity

open Bytes Decoding Common Values ValueCodec Stub StubCall StubInput Wrapper Mirror MirrorMessage
open DeclaredMirror ElementListing AttributeWrites

variable {host : Host} {b : Build} {m : PyConnectModule} {obj obj' : PyConnectObject}

def Plain (x : List UInt8 × Method) : Prop := ∀ arg ∈ x.2.args, arg.isOptional = false

/-- The string values keep to the limit for strings, and the types are those of
the enumeration. -/
structure Readable (m : PyConnectModule) : Prop where
  values : ∀ x ∈ m.attributes.toList, x.2.value.Sized
  types : ∀ x ∈ m.methods.toList, x.2.type.Declared ∧ ∀ arg ∈ x.2.args, arg.type.Declared

/-- What the numbers of a message can say of a module: the parameters of each
method in four bits, the attributes and the methods in fifteen. -/
structure Countable (m : PyConnectModule) : Prop where
  arity : ∀ x ∈ m.methods.toList, x.2.args.length ≤ 15
  attrCount : m.attributes.size ≤ 32767
  metdCount : m.methods.size ≤ 32767

/-- The initial STRING values are UTF-8. -/
def Legible (m : PyConnectModule) : Prop :=
  ∀ x ∈ m.attributes.toList, ∀ str, x.2.value = .string str → validUtf8 (cString str) = true

/-- The arguments of a call are of the types of the parameters. -/
def Matches (args : List PyObject) (params : List Argument) : Prop :=
  List.Forall₂ (fun arg param => hasType arg param.type = true) args params

/-- No text of a call has the size zero, and no number of it is outside a long. -/
def Sendable (args : List PyObject) (params : List Argument) : Prop :=
  ∀ x ∈ args.zip params, measured x.1 = true ∧ overflows x.1 x.2.type = false

theorem Readable.fits (hm : Readable m) (hc : Countable m) : Fits m :=
  ⟨hm.values, hc.arity, hc.attrCount, hc.metdCount⟩

/-- No method of the module is called in vain with arguments that match. -/
def Takes (m : PyConnectModule) (args : List PyObject) : Prop :=
  ∀ x ∈ m.methods.toList, Plain x → Matches args x.2.args → Sendable args x.2.args

end PyConnect.Arity

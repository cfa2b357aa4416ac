import PyConnect.MessageBounds

namespace PyConnect.HandedObjects

open Decoding Common Values Stub StubInput MessageSize

def handedInitial (host : Host) (values : List PyObject) : Decoder (List PyObject) := do
  let flag ← byte
  let _ ← unpackString false
  let initValue ← unpackStr host (PyConnectType.ofCode (flag.toNat &&& 0x3f))
  pure (values ++ [initValue])

def Ends (effects : List Effect) (values : List PyObject) : Prop := .crash ∈ effects ↔ .null ∈ values

variable {host : Host} {s : PyConnectStub} {obj : PyConnectObject}

theorem Ends.locked {effects : List Effect} {values : List PyObject} (h : Ends effects values) :
    Ends (locked effects) values := by
  rw [Ends] at h
  rw [Ends, ← h, Stub.locked, List.mem_cons, List.mem_append]
  split <;> simp

def Supplied (obj obj' : PyConnectObject) (values : List PyObject) : Prop :=
  ∃ added, obj'.pPyAttrs = obj.pPyAttrs ++ added ∧ added.map (·.value) = values

theorem Supplied.exposeAttribute {values : List PyObject} {obj' : PyConnectObject}
    (h : Supplied obj obj' values) :
    InStep (exposeAttribute host obj') (handedInitial host values) (Supplied obj) := by
  obtain ⟨added, hattrs, hvalues⟩ := h
  refine .after fun flag => .after fun name => .after fun value => .pure
    ⟨added ++ [⟨name, PyConnectType.ofCode (flag.toNat &&& 0x3f), flag >>> 6 = 0, value, []⟩], ?_, ?_⟩
  · rw [PyConnectObject.addNewAttribute, hattrs, List.append_assoc]
  · rw [List.map_append, hvalues]
    rfl

end PyConnect.HandedObjects

import PyConnect.AttributeViews
import PyConnect.Multiplexing

namespace PyConnect.TypedValues

open Bytes Decoding Common Values ValueCodec Stub StubInput StubCall StubMessage AttributeWrites
open ModuleTable AttributeViews Multiplexing

/-- A value of the type, or None where the type has no values. -/
def Fits (value : PyObject) (t : PyConnectType) : Prop :=
  admits value t = true ∨ value = .none ∧ ∀ d : DataType, t ≠ d.pyType

def Typed (obj : PyConnectObject) : Prop := ∀ attr ∈ obj.pPyAttrs, Fits attr.value attr.type

variable {host : Host} {s : PyConnectStub} {obj obj' : PyConnectObject} {value : PyObject}

theorem Typed.setValue (h : Typed obj) {i : Nat}
    (hvalue : ∀ attr, obj.pPyAttrs[i]? = some attr → Fits value attr.type) :
    Typed (obj.setValue i value) := by
  intro attr hattr
  obtain ⟨j, hj⟩ := List.mem_iff_getElem?.mp hattr
  rw [PyConnectObject.setValue, List.getElem?_modify, Option.map_eq_map, Option.map_eq_some_iff] at hj
  obtain ⟨old, hold, rfl⟩ := hj
  split
  next hij => exact hvalue old (hij ▸ hold)
  · exact h old (List.mem_of_getElem? hold)

/-- The attributes of a message come behind those of the object, and only a NULL
among their values is of no type. -/
def Announced (obj obj' : PyConnectObject) : Prop :=
  ∃ added, obj'.pPyAttrs = obj.pPyAttrs ++ added ∧
    ∀ attr ∈ added, attr.value = .null ∨ Fits attr.value attr.type

theorem Typed.told (h : Typed obj) {index : Nat} {attr : PyConnectAttribute}
    (hattr : obj.pPyAttrs[index]? = some attr) (hvalue : value = .null ∨ Fits value attr.type)
    {fnName : List UInt8} (hlives : .crash ∉ obj.invoke fnName [value]) :
    Typed (obj.setValue index value) := by
  have hnull : value ≠ .null := by
    rintro rfl
    rw [PyConnectObject.invoke, invoke, if_pos (List.mem_singleton_self _)] at hlives
    exact hlives (List.mem_cons_of_mem _ (List.mem_singleton_self _))
  refine h.setValue fun a ha => ?_
  rw [hattr] at ha
  rw [← Option.some.inj ha]
  exact hvalue.resolve_left hnull

end PyConnect.TypedValues

import PyConnect.Stub
import PyConnect.Wrapper
import PyConnect.ValueCodec

namespace PyConnect.Mirror

open Bytes Decoding Common Values ValueCodec Stub Wrapper

variable {host whost : Host} {obj : PyConnectObject} {m : PyConnectModule}

inductive Registration
  | attr (attrName desc : List UInt8) (value : Value) (isWritable : Bool)
  | metd (metdName desc : List UInt8) (type : PyConnectType) (params : List DataType)
      (isVoid : Bool) (body : List Value → MethodResult) (args : List Argument)

def Registration.apply (m : PyConnectModule) : Registration → PyConnectModule
  | attr attrName desc value isWritable => m.addNewAttribute attrName desc value isWritable
  | metd metdName desc type params isVoid body args =>
      m.addNewMethod metdName desc type params isVoid body args

def register (name desc : List UInt8) (rs : List Registration) : PyConnectModule :=
  rs.foldl Registration.apply ⟨name, desc, ∅, ∅⟩

def Describable (desc : List UInt8) : Prop := 0 ∉ desc ∧ desc.length ≤ maxStrLength

instance (desc : List UInt8) : Decidable (Describable desc) := inferInstanceAs (Decidable (_ ∧ _))

/-- The limits within which the server finds the elements that a module
exposes. -/
structure Fits (m : PyConnectModule) : Prop where
  values : ∀ x ∈ m.attributes.toList, x.2.value.Sized
  arity : ∀ x ∈ m.methods.toList, x.2.args.length ≤ 15
  attrCount : m.attributes.size ≤ 32767
  metdCount : m.methods.size ≤ 32767

/-- The limits within which what a module exposes is decodable. -/
structure Exposable (m : PyConnectModule) : Prop where
  values : ∀ x ∈ m.attributes.toList, x.2.value.PyPortable
  types : ∀ x ∈ m.methods.toList, x.2.type.Declared ∧ ∀ arg ∈ x.2.args, arg.type.Declared
  arity : ∀ x ∈ m.methods.toList, x.2.args.length ≤ 15
  attrCount : m.attributes.size ≤ 32767
  metdCount : m.methods.size ≤ 32767

theorem Exposable.fits (hm : Exposable m) : Fits m :=
  ⟨fun x hx => sized_of_portable (portable_of_pyPortable (hm.values x hx)), hm.arity, hm.attrCount,
    hm.metdCount⟩

structure Exportable (m : PyConnectModule) : Prop extends Exposable m where
  attrDescs : ∀ x ∈ m.attributes.toList, Describable x.2.desc
  metdDescs : ∀ x ∈ m.methods.toList, Describable x.2.desc

def Named (name : List UInt8) : Prop := 0 ∉ name ∧ name.length ≤ 255

def mirrorAttribute (host : Host) (x : List UInt8 × Attribute) : PyConnectAttribute where
  name := x.1
  type := x.2.type
  readonly := !x.2.isWritable
  value := x.2.value.toPy host
  desc := x.2.desc

def mirrorArgs (args : List Argument) : List PyConnectArgument :=
  args.map fun arg => ⟨arg.type, arg.isOptional⟩

def mirrorMethod (i : Nat) (x : List UInt8 × Method) : PyConnectMethod where
  name := x.1
  type := x.2.type
  args := mirrorArgs x.2.args
  optArgs := (x.2.args.filter (·.isOptional)).length
  id := i
  desc := x.2.desc

theorem named_insert {β : Type} {map : Std.ExtTreeMap (List UInt8) β} {name : List UInt8} {v : β}
    (hmap : ∀ k ∈ map, Named k) (hname : Named name) : ∀ k ∈ map.insert name v, Named k := by
  intro k hk
  rw [Std.ExtTreeMap.mem_insert] at hk
  obtain he | hk := hk
  · rw [← Std.LawfulEqOrd.eq_of_compare he]
    exact hname
  · exact hmap k hk

theorem apply_named (r : Registration) (ha : ∀ k ∈ m.attributes, Named k)
    (hm : ∀ k ∈ m.methods, Named k) :
    (∀ k ∈ (r.apply m).attributes, Named k) ∧ ∀ k ∈ (r.apply m).methods, Named k := by
  cases r with
  | attr attrName desc value isWritable =>
      rw [Registration.apply, PyConnectModule.addNewAttribute]
      split
      · exact ⟨ha, hm⟩
      next hlen =>
        split
        · exact ⟨ha, hm⟩
        · exact ⟨named_insert ha ⟨not_mem_cString attrName, by omega⟩, hm⟩
  | metd metdName desc type params isVoid body args =>
      rw [Registration.apply, PyConnectModule.addNewMethod]
      split
      · exact ⟨ha, hm⟩
      next hlen =>
        split
        · exact ⟨ha, hm⟩
        · exact ⟨ha, named_insert hm ⟨not_mem_cString metdName, by omega⟩⟩

theorem register_named (name desc : List UInt8) (rs : List Registration) :
    (∀ k ∈ (register name desc rs).attributes, Named k) ∧
      ∀ k ∈ (register name desc rs).methods, Named k := by
  have h : ∀ m : PyConnectModule, (∀ k ∈ m.attributes, Named k) → (∀ k ∈ m.methods, Named k) →
      (∀ k ∈ (rs.foldl Registration.apply m).attributes, Named k) ∧
        ∀ k ∈ (rs.foldl Registration.apply m).methods, Named k := by
    induction rs with
    | nil => exact fun m ha hm => ⟨ha, hm⟩
    | cons r rs ih =>
        intro m ha hm
        obtain ⟨ha', hm'⟩ := apply_named r ha hm
        exact ih (r.apply m) ha' hm'
  exact h _ (by simp) (by simp)

theorem mem_of_toList {β : Type} {map : Std.ExtTreeMap (List UInt8) β} {x : List UInt8 × β}
    (hx : x ∈ map.toList) : x.1 ∈ map := by
  have h : map[x.1]? = some x.2 := Std.ExtTreeMap.mem_toList_iff_getElem?_eq_some.mp hx
  rw [Std.ExtTreeMap.mem_iff_isSome_getElem?, h]
  rfl

theorem typeByte_type (flag : Bool) {t : PyConnectType} (ht : t.Declared) :
    PyConnectType.ofCode ((typeByte flag t).toNat &&& 0x3f) = t := by
  cases t with
  | other code => exact ht.elim
  | _ => cases flag <;> rfl

theorem typeByte_flag (flag : Bool) {t : PyConnectType} (ht : t.Declared) :
    typeByte flag t >>> 6 = 0 ↔ flag = false := by
  cases t with
  | other code => exact ht.elim
  | _ => cases flag <;> decide

theorem pyType_declared (t : DataType) : t.pyType.Declared := by
  cases t <;> exact trivial

theorem decodes_exposeAttribute (host whost : Host) (obj : PyConnectObject)
    {x : List UInt8 × Attribute} (hn : Named x.1) (hv : x.2.value.Sized) :
    Decodes (exposeAttribute host obj) (packAttribute whost x)
      (obj.addNewAttribute x.1 x.2.type (!x.2.isWritable) (received host x.2.value))
      (x.1.length + unpackCost x.2.value) := by
  have ht : x.2.type.Declared := pyType_declared _
  have hraw := setData_sized whost hv
  refine (decodes_byte _).step (k := x.1.length + unpackCost x.2.value) ?_ rfl (Int.zero_add _)
  refine (decodes_packString_name hn.2 hn.1).step (k := unpackCost x.2.value) ?_ rfl rfl
  rw [typeByte_type x.2.isWritable ht, packRawAttrData, hraw, Int.toNat_natCast, List.take_length]
  have hro : decide (typeByte x.2.isWritable x.2.type >>> 6 = 0) = !x.2.isWritable := by
    simp [typeByte_flag x.2.isWritable ht]
  rw [hro]
  exact (decodes_received whost host hv).map fun v =>
    obj.addNewAttribute x.1 x.2.type (!x.2.isWritable) v

theorem decodes_exposeArgument {arg : Argument} (ht : arg.type.Declared)
    (args : List PyConnectArgument) :
    Decodes (exposeArgument args) [typeByte arg.isOptional arg.type]
      (args ++ [⟨arg.type, arg.isOptional⟩]) 0 := by
  have h := (decodes_byte (typeByte arg.isOptional arg.type)).map fun flag : UInt8 =>
    args ++ [⟨PyConnectType.ofCode (flag.toNat &&& 0x3f), flag >>> 6 ≠ 0⟩]
  have hopt : decide (typeByte arg.isOptional arg.type >>> 6 ≠ 0) = arg.isOptional := by
    simp [typeByte_flag arg.isOptional ht]
  rw [typeByte_type arg.isOptional ht, hopt] at h
  exact h

theorem foldl_append_args (args : List Argument) (acc : List PyConnectArgument) :
    args.foldl (fun acc arg => acc ++ [⟨arg.type, arg.isOptional⟩]) acc = acc ++ mirrorArgs args := by
  induction args generalizing acc with
  | nil => simp [mirrorArgs]
  | cons arg args ih =>
      rw [List.foldl_cons, ih]
      simp [mirrorArgs]

theorem optional_mirrorArgs (args : List Argument) :
    ((mirrorArgs args).filter (·.isOptional)).length = (args.filter (·.isOptional)).length := by
  rw [mirrorArgs, List.filter_map, List.length_map]
  rfl

theorem methodType_byte {t : PyConnectType} (ht : t.Declared) :
    PyConnectType.ofCode ((UInt8.ofNat (t.code &&& 0x3f)).toNat &&& 0x3f) = t := by
  cases t with
  | other code => exact ht.elim
  | _ => rfl

/-- The server keeps four bits of the number of arguments. -/
theorem count_byte (n : Nat) : (UInt8.ofNat n).toNat &&& 0xf = n % 16 := by
  rw [show (UInt8.ofNat n).toNat &&& 0xf = (UInt8.ofNat n).toNat % 2 ^ 4 from and_mask _ 4,
    UInt8.toNat_ofNat']
  omega

theorem arity_byte {n : Nat} (hn : n ≤ 15) : (UInt8.ofNat n).toNat &&& 0xf = n := by
  rw [count_byte]
  omega

theorem decodes_exposeMethod (obj : PyConnectObject) {x : List UInt8 × Method} (hn : Named x.1)
    (ht : x.2.type.Declared) (hargs : ∀ arg ∈ x.2.args, arg.type.Declared)
    (harity : x.2.args.length ≤ 15) :
    Decodes (exposeMethod obj) (packMethod x)
      (obj.addNewMethod x.1 x.2.type (mirrorArgs x.2.args)
        (x.2.args.filter (·.isOptional)).length) x.1.length := by
  refine (decodes_byte _).step (k := x.1.length) ?_ rfl (Int.zero_add _)
  refine (decodes_packString_name hn.2 hn.1).step (k := 0) ?_ rfl (Int.add_zero _)
  refine (decodes_byte _).step (k := 0) ?_ rfl (Int.add_zero 0)
  rw [arity_byte harity, methodType_byte ht]
  have h := (Decodes.forEach (fun arg : Argument => [typeByte arg.isOptional arg.type])
    (fun arg acc => acc ++ [⟨arg.type, arg.isOptional⟩]) (fun _ => 0) x.2.args []
    fun acc arg hm => decodes_exposeArgument (hargs arg hm) acc).map fun args =>
      obj.addNewMethod x.1 x.2.type args (args.filter (·.isOptional)).length
  rw [foldl_append_args, List.nil_append, optional_mirrorArgs, ← List.map_eq_flatMap,
    show (x.2.args.map fun _ => (0 : Int)).sum = 0 by simp] at h
  exact h

end PyConnect.Mirror

import PyConnect.Mirror

namespace PyConnect.MirrorMessage

open Bytes Decoding Common Values ValueCodec Stub Wrapper Mirror

variable {host whost : Host} {obj : PyConnectObject} {m : PyConnectModule}

/-- A proxy that shows a module's attributes and methods in the wrapper's
order. -/
structure Mirrors (host : Host) (m : PyConnectModule) (obj : PyConnectObject) : Prop where
  attributes : obj.pPyAttrs = m.attributes.toList.map (mirrorAttribute host)
  methods : obj.pPyMetds = m.methods.toList.mapIdx mirrorMethod

def undescribed (a : PyConnectAttribute) : PyConnectAttribute := { a with desc := [] }

def undescribedMethod (a : PyConnectMethod) : PyConnectMethod := { a with desc := [] }

def exposeOne (host : Host) (x : List UInt8 × Attribute) (obj : PyConnectObject) :
    PyConnectObject :=
  obj.addNewAttribute x.1 x.2.type (!x.2.isWritable) (x.2.value.toPy host)

def exposeOneMethod (x : List UInt8 × Method) (obj : PyConnectObject) : PyConnectObject :=
  obj.addNewMethod x.1 x.2.type (mirrorArgs x.2.args) (x.2.args.filter (·.isOptional)).length

theorem foldl_exposeOne (host : Host) (xs : List (List UInt8 × Attribute)) (obj : PyConnectObject) :
    (xs.foldl (fun obj x => exposeOne host x obj) obj).pPyAttrs =
        obj.pPyAttrs ++ xs.map (undescribed ∘ mirrorAttribute host) ∧
      (xs.foldl (fun obj x => exposeOne host x obj) obj).pPyMetds = obj.pPyMetds := by
  induction xs generalizing obj with
  | nil => simp
  | cons x xs ih =>
      obtain ⟨ha, hm⟩ := ih (exposeOne host x obj)
      rw [List.foldl_cons, ha, hm]
      simp [exposeOne, PyConnectObject.addNewAttribute, undescribed, mirrorAttribute]

theorem foldl_exposeOneMethod (xs : List (List UInt8 × Method)) (obj : PyConnectObject) :
    (xs.foldl (fun obj x => exposeOneMethod x obj) obj).pPyMetds =
        obj.pPyMetds ++
          xs.mapIdx (fun i x => undescribedMethod (mirrorMethod (obj.pPyMetds.length + i) x)) ∧
      (xs.foldl (fun obj x => exposeOneMethod x obj) obj).pPyAttrs = obj.pPyAttrs := by
  induction xs generalizing obj with
  | nil => simp
  | cons x xs ih =>
      obtain ⟨hm, ha⟩ := ih (exposeOneMethod x obj)
      have hl : (exposeOneMethod x obj).pPyMetds.length = obj.pPyMetds.length + 1 := by
        simp [exposeOneMethod, PyConnectObject.addNewMethod]
      rw [List.foldl_cons, hm, ha, hl]
      simp [exposeOneMethod, PyConnectObject.addNewMethod, undescribedMethod, mirrorMethod,
        List.mapIdx_cons, Nat.add_assoc, Nat.add_comm 1]

def exposeBytes (whost : Host) (m : PyConnectModule) : List UInt8 :=
  packIntToStr m.attributes.size ++ m.attributes.toList.flatMap (packAttribute whost) ++
    (packIntToStr m.methods.size ++ m.methods.toList.flatMap packMethod)

def descBytes (m : PyConnectModule) : List UInt8 :=
  packIntToStr m.attributes.size ++
      (m.attributes.toList.flatMap fun x => packString x.2.desc true) ++
    (packIntToStr m.methods.size ++ m.methods.toList.flatMap fun x => packString x.2.desc true)

theorem decodes_attrMetdExpose (host whost : Host) (hm : Exposable m) (hna : ∀ k ∈ m.attributes, Named k)
    (hnm : ∀ k ∈ m.methods, Named k) (obj : PyConnectObject) :
    ∃ k, Decodes (attrMetdExpose host obj) (exposeBytes whost m)
      (m.methods.toList.foldl (fun obj x => exposeOneMethod x obj)
        (m.attributes.toList.foldl (fun obj x => exposeOne host x obj) obj)) k := by
  have hattrs := Decodes.forEach (packAttribute whost) (exposeOne host)
    (fun x => x.1.length + unpackCost x.2.value) m.attributes.toList obj
    fun obj x hx => by
      have hv := hm.values x hx
      have h := decodes_exposeAttribute host whost obj (hna _ (mem_of_toList hx))
        (sized_of_portable (portable_of_pyPortable hv))
      rwa [received_eq host hv] at h
  have hmetds := Decodes.forEach packMethod exposeOneMethod (fun x => (x.1.length : Int))
    m.methods.toList (m.attributes.toList.foldl (fun obj x => exposeOne host x obj) obj)
    fun obj x hx => decodes_exposeMethod obj (hnm _ (mem_of_toList hx)) (hm.types x hx).1
      (hm.types x hx).2 (hm.arity x hx)
  rw [Std.ExtTreeMap.length_toList] at hattrs hmetds
  exact decodes_sections hm.attrCount hm.metdCount hattrs hmetds

theorem modify_after {α : Type} (g : α → α) (pre : List α) (a : α) (as : List α) :
    (pre ++ a :: as).modify pre.length g = pre ++ g a :: as := by
  induction pre with
  | nil => rfl
  | cons b pre ih => simpa using ih

theorem foldl_modify {α β : Type} (f : β → α → α) (xs : List β) (pre as : List α)
    (hl : as.length = xs.length) :
    (xs.zipIdx pre.length).foldl (fun l p => l.modify p.2 (f p.1)) (pre ++ as) =
      pre ++ List.zipWith f xs as := by
  induction xs generalizing pre as with
  | nil =>
      obtain rfl := List.length_eq_zero_iff.mp hl
      simp
  | cons x xs ih =>
      obtain ⟨a, as, rfl⟩ := List.exists_cons_of_length_eq_add_one hl
      have h := ih (pre ++ [f x a]) as (by simpa using hl)
      rw [List.length_append] at h
      rw [List.zipIdx_cons, List.foldl_cons, modify_after]
      simpa using h

def setAttrDesc (x : List UInt8 × Attribute) (a : PyConnectAttribute) : PyConnectAttribute :=
  { a with desc := x.2.desc }

def setMetdDesc (x : List UInt8 × Method) (a : PyConnectMethod) : PyConnectMethod :=
  { a with desc := x.2.desc }

def describeOne (i : Nat) (x : List UInt8 × Attribute) (d : Described) : Described :=
  ⟨{ d.obj with pPyAttrs := d.obj.pPyAttrs.modify i (setAttrDesc x) },
    d.stray || decide (d.obj.pPyAttrs.length ≤ i)⟩

def describeOneMethod (i : Nat) (x : List UInt8 × Method) (d : Described) : Described :=
  ⟨{ d.obj with pPyMetds := d.obj.pPyMetds.modify i (setMetdDesc x) },
    d.stray || decide (d.obj.pPyMetds.length ≤ i)⟩

theorem decodes_describeAttribute {x : List UInt8 × Attribute} (hx : Describable x.2.desc) (i : Nat)
    (d : Described) :
    Decodes (describeAttribute i d) (packString x.2.desc true) (describeOne i x d)
      ((packIntToStr x.2.desc.length).length + x.2.desc.length) :=
  (decodes_packString_extended hx.2 hx.1).map fun desc : List UInt8 =>
    (⟨{ d.obj with pPyAttrs := d.obj.pPyAttrs.modify i fun attr => { attr with desc := desc } },
      d.stray || decide (d.obj.pPyAttrs.length ≤ i)⟩ : Described)

theorem decodes_describeMethod {x : List UInt8 × Method} (hx : Describable x.2.desc) (i : Nat)
    (d : Described) :
    Decodes (describeMethod i d) (packString x.2.desc true) (describeOneMethod i x d)
      ((packIntToStr x.2.desc.length).length + x.2.desc.length) :=
  (decodes_packString_extended hx.2 hx.1).map fun desc : List UInt8 =>
    (⟨{ d.obj with pPyMetds := d.obj.pPyMetds.modify i fun metd => { metd with desc := desc } },
      d.stray || decide (d.obj.pPyMetds.length ≤ i)⟩ : Described)

theorem foldl_describeOne (xs : List (List UInt8 × Attribute)) (i : Nat) (d : Described)
    (hl : i + xs.length ≤ d.obj.pPyAttrs.length) (hd : d.stray = false) :
    (xs.zipIdx i).foldl (fun d p => describeOne p.2 p.1 d) d =
      ⟨{ d.obj with pPyAttrs :=
          (xs.zipIdx i).foldl (fun l p => l.modify p.2 (setAttrDesc p.1)) d.obj.pPyAttrs }, false⟩ := by
  induction xs generalizing i d with
  | nil =>
      obtain ⟨obj, stray⟩ := d
      cases hd
      rfl
  | cons x xs ih =>
      rw [List.length_cons] at hl
      have hs : (describeOne i x d).stray = false := by
        simp only [describeOne, hd, Bool.false_or, decide_eq_false_iff_not]
        omega
      rw [List.zipIdx_cons, List.foldl_cons, List.foldl_cons,
        ih (i + 1) (describeOne i x d) (by simp [describeOne]; omega) hs]
      rfl

theorem foldl_describeOneMethod (xs : List (List UInt8 × Method)) (i : Nat) (d : Described)
    (hl : i + xs.length ≤ d.obj.pPyMetds.length) (hd : d.stray = false) :
    (xs.zipIdx i).foldl (fun d p => describeOneMethod p.2 p.1 d) d =
      ⟨{ d.obj with pPyMetds :=
          (xs.zipIdx i).foldl (fun l p => l.modify p.2 (setMetdDesc p.1)) d.obj.pPyMetds }, false⟩ := by
  induction xs generalizing i d with
  | nil =>
      obtain ⟨obj, stray⟩ := d
      cases hd
      rfl
  | cons x xs ih =>
      rw [List.length_cons] at hl
      have hs : (describeOneMethod i x d).stray = false := by
        simp only [describeOneMethod, hd, Bool.false_or, decide_eq_false_iff_not]
        omega
      rw [List.zipIdx_cons, List.foldl_cons, List.foldl_cons,
        ih (i + 1) (describeOneMethod i x d) (by simp [describeOneMethod]; omega) hs]
      rfl

/-- An object that a module has been exposed on, without descriptions. -/
structure Exposed (host : Host) (m : PyConnectModule) (obj : PyConnectObject) : Prop where
  attributes : obj.pPyAttrs = m.attributes.toList.map (undescribed ∘ mirrorAttribute host)
  methods : obj.pPyMetds = m.methods.toList.mapIdx fun i x => undescribedMethod (mirrorMethod i x)

theorem exposed_attrMetdExpose (host whost : Host) (hm : Exposable m) (hna : ∀ k ∈ m.attributes, Named k)
    (hnm : ∀ k ∈ m.methods, Named k) (ha : obj.pPyAttrs = []) (hmt : obj.pPyMetds = []) :
    ∃ obj' k, Decodes (attrMetdExpose host obj) (exposeBytes whost m) obj' k ∧
      Exposed host m obj' := by
  obtain ⟨k, hk⟩ := decodes_attrMetdExpose host whost hm hna hnm obj
  obtain ⟨hattrs, hnone⟩ := foldl_exposeOne host m.attributes.toList obj
  obtain ⟨hmetds, hsame⟩ := foldl_exposeOneMethod m.methods.toList
    (m.attributes.toList.foldl (fun obj x => exposeOne host x obj) obj)
  refine ⟨_, k, hk, ?_, ?_⟩
  · rw [hsame, hattrs, ha, List.nil_append]
  · rw [hmetds, hnone, hmt, List.nil_append]
    simp

theorem zipWith_setAttrDesc (xs : List (List UInt8 × Attribute)) :
    List.zipWith setAttrDesc xs (xs.map (undescribed ∘ mirrorAttribute host)) =
      xs.map (mirrorAttribute host) := by
  rw [List.zipWith_map_right, List.zipWith_self]
  rfl

theorem zipWith_setMetdDesc (xs : List (List UInt8 × Method)) :
    List.zipWith setMetdDesc xs (xs.mapIdx fun i x => undescribedMethod (mirrorMethod i x)) =
      xs.mapIdx mirrorMethod := by
  apply List.ext_getElem
  · simp
  · intro i h1 h2
    simp [setMetdDesc, undescribedMethod, mirrorMethod]

theorem mirrors_onSetAttrMetdDesc (hm : Exportable m) (hobj : Exposed host m obj) :
    ∃ obj' k, Decodes obj.onSetAttrMetdDesc (descBytes m) ⟨obj', false⟩ k ∧ Mirrors host m obj' := by
  have hattrs := Decodes.forCount (fun x : List UInt8 × Attribute => packString x.2.desc true)
    describeOne (fun x => (packIntToStr x.2.desc.length).length + x.2.desc.length)
    m.attributes.toList 0 ⟨obj, false⟩
    fun i d x hx => decodes_describeAttribute (hm.attrDescs x hx) i d
  rw [foldl_describeOne _ _ _ (by simp [hobj.attributes]) rfl] at hattrs
  let pPyAttrs := (m.attributes.toList.zipIdx 0).foldl
    (fun l p => l.modify p.2 (setAttrDesc p.1)) obj.pPyAttrs
  have hmetds := Decodes.forCount (fun x : List UInt8 × Method => packString x.2.desc true)
    describeOneMethod (fun x => (packIntToStr x.2.desc.length).length + x.2.desc.length)
    m.methods.toList 0 ⟨{ obj with pPyAttrs := pPyAttrs }, false⟩
    fun i d x hx => decodes_describeMethod (hm.metdDescs x hx) i d
  rw [foldl_describeOneMethod _ _ _ (by simp [hobj.methods]) rfl] at hmetds
  rw [Std.ExtTreeMap.length_toList] at hattrs hmetds
  obtain ⟨k, hdecodes⟩ := decodes_sections hm.attrCount hm.metdCount hattrs hmetds
  refine ⟨_, k, hdecodes, ?_, ?_⟩
  · have h := foldl_modify setAttrDesc m.attributes.toList [] obj.pPyAttrs (by simp [hobj.attributes])
    rw [hobj.attributes, zipWith_setAttrDesc, ← hobj.attributes] at h
    exact h
  · have h := foldl_modify setMetdDesc m.methods.toList [] obj.pPyMetds (by simp [hobj.methods])
    rw [hobj.methods, zipWith_setMetdDesc, ← hobj.methods] at h
    exact h

end PyConnect.MirrorMessage

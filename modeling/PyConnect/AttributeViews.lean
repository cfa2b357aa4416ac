import PyConnect.AttributeWrites
import PyConnect.Maps
import PyConnect.ModuleTable
import PyConnect.Runs
import PyConnect.StubInput

namespace PyConnect.AttributeViews

open Decoding Common Values Stub StubCall StubInput AttributeWrites ModuleTable Runs

/-- What getAttribute gives; `generic` is left to PyObject_GenericGetAttr. -/
inductive Reading
  | value (v : PyObject)
  | method (id : Nat)
  | dictionary (dict : PyDict)
  | generic
  deriving DecidableEq, Repr

def getAttribute (obj : PyConnectObject) (name : List UInt8) : Reading :=
  if name = text "__doc__" then .value (unicodeFromString obj.desc)
  else if name = text "__nocallback__" then .value (.bool obj.noCallback)
  else if name = text "__dict__" then .dictionary obj.myDict
  else match obj.pPyAttrs.find? (·.name = name) with
    | some attr => .value attr.value
    | none => match obj.pPyMetds.find? (·.name = name) with
      | some metd => .method metd.id
      | none => match getItemString obj.myDict name with
        | some otherAttr => .value otherAttr
        | none => .generic

def builtInNames : List (List UInt8) :=
  [text "id", text "__name__", text "__doc__", text "__nocallback__", text "__dict__",
    text "__port__", text "__ip__"]

/-- Each remote attribute has a value, which is also its entry in the dictionary. -/
def ViewsAgree (obj : PyConnectObject) : Prop :=
  ∀ attr ∈ obj.pPyAttrs, attr.name ∉ builtInNames → ∃ v dict, v ≠ .null ∧
    getAttribute obj attr.name = .value v ∧
    getAttribute obj (text "__dict__") = .dictionary dict ∧ getItemString dict attr.name = some v

inductive Event
  | message (msgType : Option PyConnectMsg) (body : Cursor)
  | write (name : List UInt8) (value : PyObject)

def step (host : Host) (s : PyConnectStub) (obj : PyConnectObject) : Event → Option PyConnectObject
  | .message msgType body => some (objectMessage host s.scope obj msgType body).1.obj
  | .write name value => some (setAttribute host s obj name value).obj

/-- The attributes and methods that an ATTR_METD_EXPOSE announces. -/
structure Announcement where
  attrs : List (List UInt8 × PyObject)
  metds : List (List UInt8)
  deriving DecidableEq, Repr

def announcedAttribute (host : Host) (attrs : List (List UInt8 × PyObject)) :
    Decoder (List (List UInt8 × PyObject)) := do
  let flag ← byte
  let attrName ← unpackString false
  let initValue ← unpackStr host (PyConnectType.ofCode (flag.toNat &&& 0x3f))
  pure (attrs ++ [(attrName, initValue)])

def announcedMethod (metds : List (List UInt8)) : Decoder (List (List UInt8)) := do
  let _ ← byte
  let metdName ← unpackString false
  let nofargs ← byte
  let _ ← forCount (fun _ => exposeArgument) 0 (nofargs.toNat &&& 0xf) []
  pure (metds ++ [metdName])

def announcement (host : Host) : Decoder Announcement := do
  let nofattrs ← unpackStrToInt
  let attrs ← forCount (fun _ => announcedAttribute host) 0 nofattrs []
  let nofmetds ← unpackStrToInt
  let metds ← forCount (fun _ => announcedMethod) 0 nofmetds []
  pure ⟨attrs, metds⟩

/-- The attribute that a response or update reports on, and the value. -/
def report (host : Host) (obj : PyConnectObject) : Decoder (Option (Nat × PyObject)) := do
  let (amind, err) ← responseHeader host
  match obj.pPyAttrs[amind]? with
  | some attr =>
      if err ≠ 0 then pure none
      else do
        let retVal ← unpackStr host attr.type
        pure (some (amind, retVal))
  | none => pure none

/-- Names and values, in the order of the attributes. -/
def shown (obj : PyConnectObject) : List (List UInt8 × PyObject) :=
  obj.pPyAttrs.map fun attr => (attr.name, attr.value)

/-- No method is announced under the name of an attribute, and of the values of each
announced attribute the last is the one that is shown, that of the first of its
name. -/
def Consistent (obj : PyConnectObject) (a : Announcement) : Prop :=
  ∀ name ∉ builtInNames, name ∈ (shown obj ++ a.attrs).map (·.1) → name ∉ a.metds ∧
    (name ∈ a.attrs.map (·.1) → validUtf8 name = true ∧ ∃ v, v ≠ .null ∧
      getItemString (shown obj ++ a.attrs) name = some v ∧
      getItemString a.attrs.reverse name = some v)

/-- The value is the one that the attribute has already, if it is the one of its name
that is shown. -/
def Known (obj : PyConnectObject) (index : Nat) (value : PyObject) : Prop :=
  ∀ attr, obj.pPyAttrs[index]? = some attr → attr.name ∉ builtInNames →
    obj.pPyAttrs.findIdx (·.name = attr.name) = index → value = attr.value

/-- Nothing changes the value of an attribute. -/
def Harmless (host : Host) (obj : PyConnectObject) : Event → Prop
  | .message (some .attrMetdExpose) body => Consistent obj (announcement host body).1
  | .message (some .attrMetdResp) body =>
      ∀ index value, (report host obj body).1 = some (index, value) → Known obj index value
  | .message (some .attrValueUpdate) body =>
      ∀ index value, (report host obj body).1 = some (index, value) → Known obj index value
  | .message _ _ => True
  | .write name value => name ∉ builtInNames → obj.noCallback = true →
      ∀ attr, obj.pPyAttrs.find? (·.name = name) = some attr → attr.readonly = false →
        admits value attr.type = true → value = attr.value

variable {host : Host} {s : PyConnectStub} {obj obj' : PyConnectObject} {a : Announcement}

def Agree (attrs dict : PyDict) : Prop :=
  ∀ name ∉ builtInNames, ∀ v, getItemString attrs name = some v →
    v ≠ .null ∧ getItemString dict name = some v

structure Sound (obj : PyConnectObject) : Prop where
  values : ∀ x ∈ shown obj, ∀ id, x.2 ≠ .connectMethod id
  keys : ∀ name v, getItemString obj.myDict name = some v → validUtf8 name = true

theorem getItemString_shown (obj : PyConnectObject) (name : List UInt8) :
    getItemString (shown obj) name = (obj.pPyAttrs.find? (·.name = name)).map (·.value) := by
  rw [shown, getItemString, List.find?_map, Option.map_map]
  rfl

theorem getAttribute_attr {name : List UInt8} (hname : name ∉ builtInNames)
    {attr : PyConnectAttribute} (hattr : obj.pPyAttrs.find? (·.name = name) = some attr) :
    getAttribute obj name = .value attr.value := by
  simp only [builtInNames, List.mem_cons, List.not_mem_nil, or_false, not_or] at hname
  rw [getAttribute, if_neg hname.2.2.1, if_neg hname.2.2.2.1, if_neg hname.2.2.2.2.1, hattr]

theorem getAttribute_dict (obj : PyConnectObject) :
    getAttribute obj (text "__dict__") = .dictionary obj.myDict := by
  rw [getAttribute, if_neg (by decide), if_neg (by decide), if_pos rfl]

theorem viewsAgree_iff : ViewsAgree obj ↔ Agree (shown obj) obj.myDict := by
  constructor
  · intro h name hname v hv
    rw [getItemString_shown, Option.map_eq_some_iff] at hv
    obtain ⟨attr, hattr, rfl⟩ := hv
    obtain rfl : attr.name = name := by simpa using List.find?_some hattr
    obtain ⟨v, dict, hnull, hvalue, hdict, hentry⟩ := h attr (List.mem_of_find?_eq_some hattr) hname
    rw [getAttribute_attr hname hattr, Reading.value.injEq] at hvalue
    rw [getAttribute_dict, Reading.dictionary.injEq] at hdict
    subst hvalue hdict
    exact ⟨hnull, hentry⟩
  · intro h attr hattr hname
    have hfound : (obj.pPyAttrs.find? (·.name = attr.name)).isSome := by
      rw [List.find?_isSome]
      exact ⟨attr, hattr, by simp⟩
    obtain ⟨first, hfirst⟩ := Option.isSome_iff_exists.mp hfound
    obtain ⟨hnull, hentry⟩ := h attr.name hname first.value (by rw [getItemString_shown, hfirst]; rfl)
    exact ⟨first.value, obj.myDict, hnull, getAttribute_attr hname hfirst, getAttribute_dict obj, hentry⟩

theorem mem_names_iff (attrs : PyDict) (name : List UInt8) :
    name ∈ attrs.map (·.1) ↔ ∃ v, getItemString attrs name = some v := by
  rw [← Option.isSome_iff_exists, ← getItemString_isNone]
  simp

theorem getItemString_or (xs ys : PyDict) (name : List UInt8) :
    getItemString (xs ++ ys) name = (getItemString xs name).or (getItemString ys name) := by
  rw [getItemString, List.find?_append, Option.map_or]
  rfl

theorem getItemString_setItemString (dict : PyDict) (key : List UInt8) (value : PyObject)
    (name : List UInt8) :
    getItemString (setItemString dict key value) name =
      if name = key ∧ validUtf8 key = true then some value else getItemString dict name := by
  by_cases hkey : validUtf8 key = true
  · rw [getItemString_set hkey]
    simp [hkey]
  · rw [setItemString, if_neg hkey, if_neg (fun h => hkey h.2)]

/-- The attributes of a message, added to those of an object. -/
structure AttrsAdded (obj obj' : PyConnectObject) (attrs : PyDict) : Prop where
  shown : shown obj' = shown obj ++ attrs
  dict : ∀ name, getItemString obj'.myDict name =
    (if validUtf8 name = true then getItemString attrs.reverse name else none).or
      (getItemString obj.myDict name)

theorem attrsAdded_nil (obj : PyConnectObject) : AttrsAdded obj obj [] where
  shown := (List.append_nil _).symm
  dict name := by simp [getItemString]

theorem AttrsAdded.addNewAttribute {attrs : PyDict} (h : AttrsAdded obj obj' attrs)
    (name : List UInt8) (type : PyConnectType) (readOnly : Bool) (initValue : PyObject) :
    AttrsAdded obj (obj'.addNewAttribute name type readOnly initValue)
      (attrs ++ [(name, initValue)]) where
  shown := by
    have hshown := h.shown
    rw [AttributeViews.shown] at hshown
    rw [AttributeViews.shown, PyConnectObject.addNewAttribute, List.map_append, hshown]
    simp
  dict key := by
    rw [PyConnectObject.addNewAttribute, getItemString_setItemString, h.dict,
      List.reverse_append, List.reverse_singleton, List.singleton_append, getItemString_cons]
    by_cases hname : name = key
    · subst hname
      by_cases hvalid : validUtf8 name = true <;> simp [hvalid]
    · simp [hname, Ne.symm hname]

structure MetdsAdded (obj obj' : PyConnectObject) (metds : List (List UInt8)) : Prop where
  attrs : obj'.pPyAttrs = obj.pPyAttrs
  named : ∀ name ∈ metds, validUtf8 name = true →
    ∃ id, getItemString obj'.myDict name = some (.connectMethod id)
  other : ∀ name, (name ∉ metds ∨ validUtf8 name = false) →
    getItemString obj'.myDict name = getItemString obj.myDict name

theorem metdsAdded_nil (obj : PyConnectObject) : MetdsAdded obj obj [] :=
  ⟨rfl, nofun, fun _ _ => rfl⟩

theorem MetdsAdded.addNewMethod {metds : List (List UInt8)} (h : MetdsAdded obj obj' metds)
    (metdName : List UInt8) (type : PyConnectType) (args : List PyConnectArgument) (optArgs : Nat) :
    MetdsAdded obj (obj'.addNewMethod metdName type args optArgs) (metds ++ [metdName]) where
  attrs := h.attrs
  named name hname hvalid := by
    rw [PyConnectObject.addNewMethod, getItemString_setItemString]
    by_cases he : name = metdName
    · rw [if_pos ⟨he, he ▸ hvalid⟩]
      exact ⟨_, rfl⟩
    · rw [if_neg fun hn => he hn.1]
      exact h.named name (by simpa [he] using hname) hvalid
  other name hname := by
    rw [PyConnectObject.addNewMethod, getItemString_setItemString, if_neg]
    · exact h.other name (hname.imp (fun hn hm => hn (List.mem_append_left _ hm)) id)
    · rintro ⟨rfl, hvalid⟩
      rw [hvalid] at hname
      simp at hname

theorem inStep_exposeAttribute {attrs : PyDict} (h : AttrsAdded obj obj' attrs) :
    InStep (exposeAttribute host obj') (announcedAttribute host attrs) (AttrsAdded obj) :=
  .after fun _ => .after fun _ => .after fun _ => .pure (h.addNewAttribute _ _ _ _)

theorem inStep_exposeMethod {metds : List (List UInt8)} (h : MetdsAdded obj obj' metds) :
    InStep (exposeMethod obj') (announcedMethod metds) (MetdsAdded obj) :=
  .after fun _ => .after fun _ => .after fun _ => .after fun _ => .pure (h.addNewMethod _ _ _ _)

theorem inStep_attrMetdExpose (host : Host) (obj : PyConnectObject) :
    InStep (attrMetdExpose host obj) (announcement host) fun obj' a =>
      ∃ obj₁, AttrsAdded obj obj₁ a.attrs ∧ MetdsAdded obj₁ obj' a.metds := by
  refine .after fun nofattrs => ?_
  refine (InStep.forCount (fun _ _ _ => inStep_exposeAttribute) 0 nofattrs
    (attrsAdded_nil obj)).bind fun obj₁ attrs hattrs => ?_
  refine .after fun nofmetds c => ?_
  have hloop : InStep (forCount (fun _ => exposeMethod) 0 nofmetds obj₁)
      (forCount (fun _ => announcedMethod) 0 nofmetds []) (MetdsAdded obj₁) :=
    InStep.forCount (fun _ _ _ => inStep_exposeMethod) 0 nofmetds (metdsAdded_nil obj₁)
  obtain ⟨hmetds, hc⟩ := hloop c
  exact ⟨⟨obj₁, hattrs, hmetds⟩, hc⟩

theorem yields_unpackStr (host : Host) (t : PyConnectType) :
    Yields (unpackStr host t) fun v => ∀ id, v ≠ .connectMethod id := by
  cases t with
  | string =>
      refine .after fun ret => .pure fun id => ?_
      rw [unicodeFromString]
      split <;> simp
  | composite | pyVoid | other => exact .pure (by simp)
  | _ => exact .after fun _ => .pure (by simp)

theorem yields_announcement (host : Host) :
    Yields (announcement host) fun a => ∀ x ∈ a.attrs, ∀ id, x.2 ≠ .connectMethod id := by
  refine .after fun nofattrs => ?_
  refine (Yields.forCount (P := fun attrs : PyDict => ∀ x ∈ attrs, ∀ id, x.2 ≠ .connectMethod id)
    (fun _ attrs hattrs => ?_) 0 nofattrs (by simp)).bind
    fun attrs hattrs => .after fun _ => .after fun _ => .pure hattrs
  refine .after fun _ => .after fun name => (yields_unpackStr host _).bind fun v hv => .pure ?_
  intro x hx
  obtain hx | hx := List.mem_append.mp hx
  · exact hattrs x hx
  · rw [List.mem_singleton] at hx
    subst hx
    exact hv

theorem mem_of_getItemString {attrs : PyDict} {name : List UInt8} {v : PyObject}
    (h : getItemString attrs name = some v) : (name, v) ∈ attrs := by
  rw [getItemString, Option.map_eq_some_iff] at h
  obtain ⟨x, hx, rfl⟩ := h
  obtain rfl : x.1 = name := by simpa using List.find?_some hx
  exact List.mem_of_find?_eq_some hx

theorem sound_expose {obj₁ : PyConnectObject} (hs : Sound obj)
    (ha : ∀ x ∈ a.attrs, ∀ id, x.2 ≠ .connectMethod id) (hattrs : AttrsAdded obj obj₁ a.attrs)
    (hmetds : MetdsAdded obj₁ obj' a.metds) : Sound obj' where
  values x hx := by
    rw [shown, hmetds.attrs, ← shown, hattrs.shown, List.mem_append] at hx
    exact hx.elim (hs.values x) (ha x)
  keys name v hv := by
    by_cases hvalid : validUtf8 name = true
    · exact hvalid
    · rw [hmetds.other name (.inr (by simpa using hvalid)), hattrs.dict, if_neg hvalid,
        Option.none_or] at hv
      exact hs.keys name v hv

theorem agree_expose_iff {obj₁ : PyConnectObject} (hs : Sound obj)
    (hagree : Agree (shown obj) obj.myDict) (ha : ∀ x ∈ a.attrs, ∀ id, x.2 ≠ .connectMethod id)
    (hattrs : AttrsAdded obj obj₁ a.attrs) (hmetds : MetdsAdded obj₁ obj' a.metds) :
    Agree (shown obj') obj'.myDict ↔ Consistent obj a := by
  have hshown : shown obj' = shown obj ++ a.attrs := by
    rw [shown, hmetds.attrs, ← shown, hattrs.shown]
  have hnone : ∀ name, validUtf8 name ≠ true → getItemString obj'.myDict name = none := by
    intro name hvalid
    rw [Option.eq_none_iff_forall_ne_some]
    exact fun v hv => hvalid ((sound_expose hs ha hattrs hmetds).keys name v hv)
  constructor
  · intro h name hname hmem
    rw [mem_names_iff] at hmem
    obtain ⟨v, hv⟩ := hmem
    obtain ⟨hnull, hentry⟩ := h name hname v (by rw [hshown, hv])
    have hvalid : validUtf8 name = true := by
      by_contra hinvalid
      rw [hnone name hinvalid] at hentry
      cases hentry
    have hmetd : name ∉ a.metds := by
      intro hmem
      obtain ⟨id, hid⟩ := hmetds.named name hmem hvalid
      obtain rfl := Option.some.inj (hentry.symm.trans hid)
      have hx := mem_of_getItemString hv
      rw [List.mem_append] at hx
      exact hx.elim (fun hx => hs.values _ hx id rfl) (fun hx => ha _ hx id rfl)
    refine ⟨hmetd, fun hnew => ⟨hvalid, v, hnull, hv, ?_⟩⟩
    rw [← List.mem_reverse, ← List.map_reverse, mem_names_iff] at hnew
    obtain ⟨w, hw⟩ := hnew
    rw [hmetds.other name (.inl hmetd), hattrs.dict, if_pos hvalid, hw, Option.some_or] at hentry
    rw [hw, hentry]
  · intro h name hname v hv
    rw [hshown] at hv
    obtain ⟨hmetd, hnew⟩ := h name hname ((mem_names_iff _ _).mpr ⟨v, hv⟩)
    rw [hmetds.other name (.inl hmetd), hattrs.dict]
    by_cases hmem : name ∈ a.attrs.map (·.1)
    · obtain ⟨hvalid, w, hnull, hfirst, hlast⟩ := hnew hmem
      obtain rfl := Option.some.inj (hv.symm.trans hfirst)
      rw [if_pos hvalid, hlast]
      exact ⟨hnull, rfl⟩
    · have hold : getItemString a.attrs.reverse name = none := by
        rw [← List.mem_reverse, ← List.map_reverse, mem_names_iff] at hmem
        simpa [Option.eq_none_iff_forall_ne_some] using hmem
      have hold' : getItemString a.attrs name = none := by
        rw [mem_names_iff] at hmem
        simpa [Option.eq_none_iff_forall_ne_some] using hmem
      rw [getItemString_or, hold', Option.or_none] at hv
      obtain ⟨hnull, hentry⟩ := hagree name hname v hv
      refine ⟨hnull, ?_⟩
      rw [hold, ite_self, Option.none_or, hentry]

theorem find?_setValue (attrs : List PyConnectAttribute) (index : Nat) (value : PyObject)
    (name : List UInt8) :
    (attrs.modify index fun attr => { attr with value := value }).find? (·.name = name) =
      (attrs.find? (·.name = name)).map fun attr =>
        if attrs.findIdx (·.name = name) = index then { attr with value := value } else attr := by
  induction attrs generalizing index with
  | nil => simp
  | cons attr attrs ih =>
      by_cases hname : attr.name = name
      · cases index <;> simp [hname, List.findIdx_cons]
      · cases index with
        | zero => simp [hname, List.findIdx_cons]
        | succ index => simp [hname, List.findIdx_cons, ih]

theorem getItemString_setValue (obj : PyConnectObject) (index : Nat) (value : PyObject)
    (name : List UInt8) :
    getItemString (shown (obj.setValue index value)) name =
      (obj.pPyAttrs.find? (·.name = name)).map fun attr =>
        if obj.pPyAttrs.findIdx (·.name = name) = index then value else attr.value := by
  rw [getItemString_shown, PyConnectObject.setValue, find?_setValue, Option.map_map]
  congr 1
  funext attr
  dsimp only [Function.comp_apply]
  split <;> rfl

theorem agree_setValue_iff (hagree : Agree (shown obj) obj.myDict) (index : Nat) (value : PyObject) :
    Agree (shown (obj.setValue index value)) (obj.setValue index value).myDict ↔
      Known obj index value := by
  constructor
  · intro h attr hattr hname hfirst
    have hfound : obj.pPyAttrs.find? (·.name = attr.name) = some attr := by
      rw [List.find?_eq_getElem?_findIdx, hfirst, hattr]
    obtain ⟨-, hnew⟩ := h attr.name hname value (by
      rw [getItemString_setValue, hfound, Option.map_some, if_pos hfirst])
    obtain ⟨-, hold⟩ := hagree attr.name hname attr.value (by rw [getItemString_shown, hfound]; rfl)
    exact Option.some.inj (hnew.symm.trans hold)
  · intro h name hname v hv
    rw [getItemString_setValue, Option.map_eq_some_iff] at hv
    obtain ⟨attr, hattr, hv⟩ := hv
    have hold : getItemString (shown obj) name = some attr.value := by
      rw [getItemString_shown, hattr]
      rfl
    obtain rfl : attr.name = name := by simpa using List.find?_some hattr
    have hvalue : v = attr.value := by
      split at hv
      next hfirst =>
        rw [List.find?_eq_getElem?_findIdx, hfirst] at hattr
        rw [← hv]
        exact h attr hattr hname hfirst
      · exact hv.symm
    rw [hvalue]
    exact hagree attr.name hname attr.value hold

theorem sound_setValue (hs : Sound obj) (index : Nat) {value : PyObject}
    (hvalue : ∀ id, value ≠ .connectMethod id) : Sound (obj.setValue index value) where
  values x hx := by
    rw [shown, PyConnectObject.setValue, List.mem_map] at hx
    obtain ⟨attr, hattr, rfl⟩ := hx
    obtain ⟨i, hi⟩ := List.mem_iff_getElem?.mp hattr
    rw [List.getElem?_modify, Option.map_eq_map, Option.map_eq_some_iff] at hi
    obtain ⟨old, hold, rfl⟩ := hi
    dsimp only
    split
    · exact hvalue
    · exact hs.values (old.name, old.value)
        (List.mem_map_of_mem (f := fun attr : PyConnectAttribute => (attr.name, attr.value))
          (List.mem_of_getElem? hold))
  keys := hs.keys

theorem obj_attrMetdResp (host : Host) (scope : CallbackScope) (obj : PyConnectObject) (c : Cursor) :
    (objectMessage host scope obj (some .attrMetdResp) c).1.obj =
      (report host obj c).1.elim obj fun x => obj.setValue x.1 x.2 := by
  rw [objectMessage, report, bind_apply, bind_apply]
  obtain ⟨⟨amind, err⟩, c'⟩ := responseHeader host c
  dsimp only
  rw [bind_apply, PyConnectObject.onSetAttrMetdResp]
  cases obj.pPyAttrs[amind]? with
  | some attr =>
      dsimp only
      split <;> rfl
  | none =>
      dsimp only
      cases obj.pPyMetds[amind - obj.pPyAttrs.length]? with
      | some metd =>
          dsimp only
          split <;> rfl
      | none => rfl

theorem obj_attrValueUpdate (host : Host) (scope : CallbackScope) (obj : PyConnectObject)
    (c : Cursor) :
    (objectMessage host scope obj (some .attrValueUpdate) c).1.obj =
      (report host obj c).1.elim obj fun x => obj.setValue x.1 x.2 := by
  rw [objectMessage, report, bind_apply, bind_apply]
  obtain ⟨⟨amind, err⟩, c'⟩ := responseHeader host c
  dsimp only
  rw [bind_apply, PyConnectObject.onGetAttrResp]
  cases obj.pPyAttrs[amind]? with
  | some attr =>
      dsimp only
      split <;> rfl
  | none => rfl

theorem yields_report (host : Host) (obj : PyConnectObject) :
    Yields (report host obj) fun r => ∀ x, r = some x → ∀ id, x.2 ≠ .connectMethod id := by
  refine .after fun x => ?_
  dsimp only
  split
  · split
    · exact .pure nofun
    · refine (yields_unpackStr host _).bind fun v hv => .pure fun y hy => ?_
      obtain rfl := Option.some.inj hy
      exact hv
  · exact .pure nofun

theorem reported_spec (hs : Sound obj) (hagree : Agree (shown obj) obj.myDict) {obj' : PyConnectObject}
    {c : Cursor} (hobj : obj' = (report host obj c).1.elim obj fun x => obj.setValue x.1 x.2) :
    (Agree (shown obj') obj'.myDict ↔
      ∀ index value, (report host obj c).1 = some (index, value) → Known obj index value) ∧
      Sound obj' := by
  have hvalue := yields_report host obj c
  cases hr : (report host obj c).1 with
  | none =>
      rw [hr] at hobj
      subst hobj
      exact ⟨⟨fun _ => nofun, fun _ => hagree⟩, hs⟩
  | some x =>
      obtain ⟨index, value⟩ := x
      rw [hr] at hobj
      subst hobj
      refine ⟨(agree_setValue_iff hagree index value).trans ⟨fun h i v hx => ?_, fun h => h _ _ rfl⟩,
        sound_setValue hs index (hvalue _ hr)⟩
      rw [Option.some.injEq, Prod.mk.injEq] at hx
      obtain ⟨rfl, rfl⟩ := hx
      exact h

theorem shown_describe (obj : PyConnectObject) :
    Yields obj.onSetAttrMetdDesc fun d => shown d.obj = shown obj ∧ d.obj.myDict = obj.myDict := by
  have hattr : ∀ (i : Nat) (d : Described), shown d.obj = shown obj ∧ d.obj.myDict = obj.myDict →
      Yields (describeAttribute i d) fun d => shown d.obj = shown obj ∧ d.obj.myDict = obj.myDict := by
    intro i d hd
    refine .after fun desc => .pure ⟨?_, hd.2⟩
    rw [← hd.1]
    apply Maps.map_modify
    exact fun _ => rfl
  have hmetd : ∀ (i : Nat) (d : Described), shown d.obj = shown obj ∧ d.obj.myDict = obj.myDict →
      Yields (describeMethod i d) fun d => shown d.obj = shown obj ∧ d.obj.myDict = obj.myDict :=
    fun i d hd => .after fun desc => .pure hd
  exact .after fun nofattrs => (Yields.forCount hattr 0 nofattrs ⟨rfl, rfl⟩).bind fun d hd =>
    .after fun nofmetds => Yields.forCount hmetd 0 nofmetds hd

theorem message_spec (hs : Sound obj) (hagree : Agree (shown obj) obj.myDict)
    (t : Option PyConnectMsg) (c : Cursor) :
    (Agree (shown (objectMessage host s.scope obj t c).1.obj)
        (objectMessage host s.scope obj t c).1.obj.myDict ↔ Harmless host obj (.message t c)) ∧
      Sound (objectMessage host s.scope obj t c).1.obj := by
  have hother : (Agree (shown obj) obj.myDict ↔ True) ∧ Sound obj :=
    ⟨iff_of_true hagree trivial, hs⟩
  rcases t with - | t
  · exact hother
  cases t with
  | attrMetdExpose =>
      obtain ⟨⟨obj₁, hattrs, hmetds⟩, -⟩ := inStep_attrMetdExpose host obj c
      have ha := yields_announcement host c
      exact ⟨agree_expose_iff hs hagree ha hattrs hmetds, sound_expose hs ha hattrs hmetds⟩
  | attrMetdResp => exact reported_spec hs hagree (obj_attrMetdResp host s.scope obj c)
  | attrValueUpdate => exact reported_spec hs hagree (obj_attrValueUpdate host s.scope obj c)
  | attrMetdDesc =>
      obtain ⟨hshown, hdict⟩ := shown_describe obj c
      change (Agree (shown (obj.onSetAttrMetdDesc c).1.obj) (obj.onSetAttrMetdDesc c).1.obj.myDict ↔
        True) ∧ Sound (obj.onSetAttrMetdDesc c).1.obj
      refine ⟨iff_of_true (by rw [hshown, hdict]; exact hagree) trivial, ?_, ?_⟩
      · rw [hshown]
        exact hs.values
      · rw [hdict]
        exact hs.keys
  | _ => exact hother

theorem hasType_ne_connectMethod {value : PyObject} {t : PyConnectType}
    (h : hasType value t = true) (id : Nat) : value ≠ .connectMethod id := by
  rintro rfl
  cases t <;> cases h

theorem dictionary_spec (hs : Sound obj) (hagree : Agree (shown obj) obj.myDict) {name : List UInt8}
    (hname : name ∈ builtInNames ∨ getItemString (shown obj) name = none)
    (hshown : shown obj' = shown obj)
    (hother : ∀ key, key ≠ name → getItemString obj'.myDict key = getItemString obj.myDict key)
    (hkey : ∀ v, getItemString obj'.myDict name = some v → validUtf8 name = true) :
    Agree (shown obj') obj'.myDict ∧ Sound obj' := by
  refine ⟨fun key hkeyName v hv => ?_, by rw [hshown]; exact hs.values, fun key v hv => ?_⟩
  · rw [hshown] at hv
    have hne : key ≠ name := by
      rintro rfl
      rw [hname.resolve_left hkeyName] at hv
      cases hv
    rw [hother key hne]
    exact hagree key hkeyName v hv
  · by_cases hne : key = name
    · subst hne
      exact hkey v hv
    · rw [hother key hne] at hv
      exact hs.keys key v hv

/-- A write that reaches an attribute shows there, if no answer is wanted. -/
theorem setRemote_views (host : Host) (s : PyConnectStub) (hs : Sound obj)
    (hagree : Agree (shown obj) obj.myDict)
    {name : List UInt8} {attr : PyConnectAttribute}
    (hattr : obj.pPyAttrs.find? (·.name = name) = some attr) (value : PyObject) :
    let aind := obj.pPyAttrs.findIdx (·.name = name)
    let obj' := (setRemote host s obj aind attr value).obj
    (Agree (shown obj') obj'.myDict ↔ (name ∉ builtInNames → obj.noCallback = true →
      attr.readonly = false → admits value attr.type = true → value = attr.value)) ∧ Sound obj' := by
  have hname : attr.name = name := by simpa using List.find?_some hattr
  have hindex := hattr
  rw [List.find?_eq_getElem?_findIdx] at hindex
  intro aind obj'
  simp only [obj', setRemote]
  by_cases hro : attr.readonly = true
  · rw [if_pos hro]
    refine ⟨iff_of_true hagree fun _ _ hw _ => ?_, hs⟩
    rw [hro] at hw
    cases hw
  · rw [if_neg hro]
    rw [Bool.not_eq_true] at hro
    by_cases hsize : validateTypeAndSize value attr.type = 0
    · rw [if_pos hsize]
      rw [validateTypeAndSize_eq_zero] at hsize
      refine ⟨iff_of_true hagree fun _ _ _ ht => ?_, hs⟩
      rw [hsize] at ht
      cases ht
    · rw [if_neg hsize]
      rw [validateTypeAndSize_eq_zero, Bool.not_eq_false] at hsize
      by_cases hcb : obj.noCallback = true
      · rw [if_pos hcb]
        refine ⟨(agree_setValue_iff hagree aind value).trans ⟨fun h hn _ _ _ => ?_, ?_⟩,
          sound_setValue hs aind (hasType_ne_connectMethod (hasType_of_admits hsize))⟩
        · exact h attr hindex (hname ▸ hn) (by rw [hname])
        · intro h attr' hattr' hn _
          obtain rfl := Option.some.inj (hattr'.symm.trans hindex)
          exact h (hname ▸ hn) hcb hro hsize
      · rw [if_neg hcb]
        exact ⟨iff_of_true hagree fun _ h => absurd h hcb, hs⟩

theorem setNamed_views (host : Host) (s : PyConnectStub) (hs : Sound obj)
    (hagree : Agree (shown obj) obj.myDict) (name : List UInt8) (value : PyObject) :
    let obj' := (setNamed host s obj name value).obj
    (Agree (shown obj') obj'.myDict ↔ (name ∉ builtInNames → obj.noCallback = true →
      ∀ attr, obj.pPyAttrs.find? (·.name = name) = some attr → attr.readonly = false →
        admits value attr.type = true → value = attr.value)) ∧ Sound obj' := by
  intro obj'
  simp only [obj', setNamed]
  cases hattr : obj.pPyAttrs.find? (·.name = name) with
  | some attr =>
      have hindex := hattr
      rw [List.find?_eq_getElem?_findIdx] at hindex
      rw [hindex]
      obtain ⟨hiff, hsound⟩ := setRemote_views host s hs hagree hattr value
      refine ⟨hiff.trans ⟨fun h hn hcb attr' hattr' => ?_, fun h hn hcb => h hn hcb attr rfl⟩, hsound⟩
      obtain rfl := Option.some.inj hattr'
      exact h hn hcb
  | none =>
      have hindex := hattr
      rw [List.find?_eq_getElem?_findIdx] at hindex
      have hnone : getItemString (shown obj) name = none := by rw [getItemString_shown, hattr]; rfl
      rw [hindex]
      dsimp only
      suffices h : ∀ obj', (obj' = obj ∨ obj' = { obj with myDict := delItemString obj.myDict name } ∨
          obj' = { obj with myDict := setItemString obj.myDict name value }) →
          Agree (shown obj') obj'.myDict ∧ Sound obj' by
        refine ⟨iff_of_true (h _ ?_).1 (by simp), (h _ ?_).2⟩
        all_goals
          split
          · exact .inl rfl
          · split
            · exact .inr (.inl rfl)
            · exact .inr (.inr rfl)
      rintro obj' (rfl | rfl | rfl)
      · exact ⟨hagree, hs⟩
      · refine dictionary_spec hs hagree (.inr hnone) rfl (fun key hne => ?_) fun v hv => ?_
        · rw [getItemString_del, if_neg hne]
        · rw [getItemString_del, if_pos rfl] at hv
          cases hv
      · refine dictionary_spec hs hagree (.inr hnone) rfl (fun key hne => ?_) fun v hv => ?_
        · rw [getItemString_setItemString, if_neg fun h => hne h.1]
        · rw [getItemString_setItemString] at hv
          split at hv
          next h => exact h.2
          · exact hs.keys name v hv

theorem write_spec (hs : Sound obj) (hagree : Agree (shown obj) obj.myDict) (name : List UInt8)
    (value : PyObject) :
    (Agree (shown (setAttribute host s obj name value).obj)
        (setAttribute host s obj name value).obj.myDict ↔ Harmless host obj (.write name value)) ∧
      Sound (setAttribute host s obj name value).obj := by
  have hspecial : ∀ o : PyConnectObject, name ∈ builtInNames → o.pPyAttrs = obj.pPyAttrs →
      o.myDict = obj.myDict → (Agree (shown o) o.myDict ↔ Harmless host obj (.write name value)) ∧
        Sound o := by
    intro o hname hattrs hdict
    have hshown : shown o = shown obj := by rw [shown, hattrs, shown]
    exact ⟨iff_of_true (by rw [hshown, hdict]; exact hagree) fun hn => absurd hname hn,
      ⟨by rw [hshown]; exact hs.values, by rw [hdict]; exact hs.keys⟩⟩
  rw [setAttribute.eq_def]
  split
  next hname =>
    have hbuilt : name ∈ builtInNames := by rw [hname]; decide
    split
    next b =>
      have hsame := hspecial { obj with noCallback := b } hbuilt rfl rfl
      obtain ⟨hiff, hsound⟩ := setNamed_views host s hsame.2
        (hsame.1.mpr fun hn => absurd hbuilt hn) name (.bool b)
      exact ⟨iff_of_true (hiff.mpr fun hn => absurd hbuilt hn) fun hn => absurd hbuilt hn, hsound⟩
    · exact hspecial obj hbuilt rfl rfl
  · split
    next hname =>
      refine hspecial obj ?_ rfl rfl
      rcases hname with rfl | rfl <;> decide
    · split
      next hname =>
        have hbuilt : name ∈ builtInNames := by rw [hname]; decide
        split
        · exact hspecial _ hbuilt rfl rfl
        · exact hspecial obj hbuilt rfl rfl
      · exact setNamed_views host s hs hagree name value

theorem step_spec (hs : Sound obj) (hagree : Agree (shown obj) obj.myDict) (e : Event)
    (hstep : step host s obj e = some obj') :
    (Agree (shown obj') obj'.myDict ↔ Harmless host obj e) ∧ Sound obj' := by
  cases e with
  | message t c =>
      obtain rfl := Option.some.inj hstep
      exact message_spec hs hagree t c
  | write name value =>
      obtain rfl := Option.some.inj hstep
      exact write_spec hs hagree name value

/-- The two views of a proxy's attributes agree after every step of a run if and only
if every step leaves their values as they are. -/
theorem views_agree_iff (host : Host) (s : PyConnectStub) (obj : PyConnectObject)
    (hattrs : obj.pPyAttrs = []) (hkeys : ∀ x ∈ obj.myDict, validUtf8 x.1 = true) (es : List Event) :
    Always (step host s) (fun _ _ obj' => ViewsAgree obj') es obj ↔
      Always (step host s) (fun obj e _ => Harmless host obj e) es obj := by
  let I (obj : PyConnectObject) : Prop := Sound obj ∧ Agree (shown obj) obj.myDict
  have hkeeps : ∀ obj e obj', I obj → step host s obj e = some obj' →
      (ViewsAgree obj' ↔ Harmless host obj e) ∧ (Harmless host obj e → I obj') := by
    intro obj e obj' h hstep
    obtain ⟨hiff, hsound⟩ := step_spec h.1 h.2 e hstep
    exact ⟨viewsAgree_iff.trans hiff, fun hq => ⟨hsound, hiff.mpr hq⟩⟩
  refine always_iff_of_keeps hkeeps es ⟨⟨?_, ?_⟩, ?_⟩
  · simp [shown, hattrs]
  · exact fun name v hv => hkeys (name, v) (mem_of_getItemString hv)
  · simp [Agree, shown, hattrs, getItemString]

def thermometer : PyConnectObject := PyConnectObject.create [116] 1 none 0

def declaration : Event :=
  .message (some .attrMetdExpose) (startAt [1, 0x40, 1, 103, 0, 0, 0, 0, 0] 9)

def reading (degrees : UInt8) : Event :=
  .message (some .attrValueUpdate) (startAt [0, 4, 0, 0, 0, 0, degrees, 0, 0, 0] 10)

def declaredThermometer : PyConnectObject :=
  { thermometer with
    pPyAttrs := [⟨[103], .int, false, .int 0, []⟩]
    myDict := thermometer.myDict ++ [([103], .int 0)] }

theorem step_declaration (s : PyConnectStub) :
    step .little s thermometer declaration = some declaredThermometer := by
  have hexposed : (attrMetdExpose .little thermometer
      (startAt [1, 0x40, 1, 103, 0, 0, 0, 0, 0] 9)).1 = declaredThermometer := by
    decide +kernel
  rw [declaration, step, objectMessage_expose, hexposed]

theorem step_reading (s : PyConnectStub) :
    step .little s declaredThermometer (reading 5) =
      some (declaredThermometer.setValue 0 (.int 5)) := by
  rw [reading, step, obj_attrValueUpdate]
  have hreport : (report .little declaredThermometer
      (startAt [0, 4, 0, 0, 0, 0, 5, 0, 0, 0] 10)).1 = some (0, .int 5) := by
    decide +kernel
  rw [hreport]
  rfl

theorem harmless_declaration : Harmless .little thermometer declaration := by
  have hannounced : (announcement .little (startAt [1, 0x40, 1, 103, 0, 0, 0, 0, 0] 9)).1 =
      ⟨[([103], .int 0)], []⟩ := by
    decide +kernel
  rw [declaration, Harmless, hannounced]
  intro name _ hname
  obtain rfl : name = [103] := by simpa [shown, thermometer, PyConnectObject.create] using hname
  exact ⟨nofun, fun _ => ⟨by decide, .int 0, nofun, rfl, rfl⟩⟩

theorem harmless_reading : Harmless .little declaredThermometer (reading 0) := by
  have hreport : (report .little declaredThermometer
      (startAt [0, 4, 0, 0, 0, 0, 0, 0, 0, 0] 10)).1 = some (0, .int 0) := by
    decide +kernel
  intro index value hvalue attr hattr _ _
  rw [hreport, Option.some.injEq, Prod.mk.injEq] at hvalue
  obtain ⟨rfl, rfl⟩ := hvalue
  obtain rfl := Option.some.inj hattr
  rfl

theorem views_agree_iff_unchanged :
    Always (step .little ⟨false, [], 2, [], 5⟩) (fun _ _ obj' => ViewsAgree obj')
      [declaration, reading 0] thermometer := by
  refine (views_agree_iff .little _ thermometer rfl (by decide +kernel) _).mpr ?_
  rw [always_cons (step_declaration _)]
  exact ⟨harmless_declaration, fun _ _ => ⟨harmless_reading, trivial⟩⟩

/-- The first reading that differs changes the value and not the entry. -/
theorem not_views_agree_reading :
    ¬ Always (step .little ⟨false, [], 2, [], 5⟩) (fun _ _ obj' => ViewsAgree obj')
      [declaration, reading 5] thermometer := by
  intro h
  rw [always_cons (step_declaration _), always_cons (step_reading _), viewsAgree_iff,
    viewsAgree_iff] at h
  obtain ⟨-, hentry⟩ := h.2.1 [103] (by decide) (.int 5) (by decide)
  have hold : getItemString (declaredThermometer.setValue 0 (.int 5)).myDict [103] =
      some (.int 0) := by
    decide +kernel
  rw [hold] at hentry
  cases hentry

end PyConnect.AttributeViews

import PyConnect.StubCall
import PyConnect.StubMessage
import PyConnect.ValueCodec

namespace PyConnect.AttributeWrites

open Common Values ValueCodec Stub StubCall StubMessage

/-- A Python object of the type that an element has; a bool is an int, too. -/
def hasType : PyObject → PyConnectType → Bool
  | .int _, .int => true
  | .bool _, .int => true
  | .float _, .float => true
  | .float _, .double => true
  | .str _, .string => true
  | .bool _, .bool => true
  | _, _ => false

/-- A text whose length is -2 as an int is reckoned to be of size zero. -/
def measured : PyObject → Bool
  | .str utf8 => decide ((cString utf8).length % 2 ^ 32 ≠ 2 ^ 32 - 2)
  | _ => true

/-- What the server takes for a value of the type. -/
def admits (value : PyObject) (t : PyConnectType) : Bool := hasType value t && measured value

theorem hasType_of_admits {value : PyObject} {t : PyConnectType} (h : admits value t = true) :
    hasType value t = true := (Bool.and_eq_true_iff.mp h).1

theorem stringSize_pos (n : Nat) : 0 < (n : Int) + packedIntLen n := by
  have hnonneg := packedIntLen_nonneg n
  by_cases h0 : n = 0
  · subst h0
    decide
  · omega

theorem validateTypeAndSize_eq_zero (value : PyObject) (t : PyConnectType) :
    validateTypeAndSize value t = 0 ↔ admits value t = false := by
  cases value with
  | str utf8 =>
      have hsize := intSize_eq_zero (cString utf8).length
      cases t with
      | string =>
          rw [validateTypeAndSize, hsize, admits, hasType, measured, Bool.true_and,
            decide_eq_false_iff_not, not_not]
      | _ => exact iff_of_true rfl rfl
  | _ => cases t <;> simp [validateTypeAndSize, admits, hasType, measured]

theorem packToStr_size (host : Host) {value : PyObject} {t : PyConnectType}
    (h : hasType value t = true) (hint : ((packToStr host value t).length : Int) < 2 ^ 31) :
    ((packToStr host value t).length : Int) = validateTypeAndSize value t := by
  cases value with
  | str utf8 =>
      cases t with
      | string =>
          have hlen := packString_length (cString utf8)
          have hnonneg := packedIntLen_nonneg (cString utf8).length
          have hpack : packToStr host (.str utf8) .string = packString (cString utf8) true := rfl
          rw [hpack] at hint ⊢
          rw [validateTypeAndSize_str (by omega), hlen]
      | _ => cases h
  | _ => cases t <;> simp_all [hasType, validateTypeAndSize, packToStr, packNumber_length]

theorem argsSize_ok_iff (i : Nat) (xs : List (PyObject × PyConnectArgument)) :
    (∃ n, argsSize i xs = .ok n) ↔ ∀ x ∈ xs, admits x.1 x.2.type = true := by
  induction xs generalizing i with
  | nil => simp [argsSize]
  | cons x xs ih =>
      rw [argsSize, List.forall_mem_cons, ← ih (i + 1)]
      by_cases h : validateTypeAndSize x.1 x.2.type = 0
      · rw [if_pos h]
        rw [validateTypeAndSize_eq_zero] at h
        simp [h]
      · rw [if_neg h]
        rw [validateTypeAndSize_eq_zero, Bool.not_eq_false] at h
        cases argsSize (i + 1) xs <;> simp [h, bind, Except.bind]

def Counted (metd : PyConnectMethod) (n : Nat) : Prop :=
  metd.args.length - metd.optArgs ≤ n ∧ n ≤ metd.args.length - metd.optArgs + metd.optArgs

/-- A call is accepted if the number and the types of its arguments are right, and
a call that is not accepted sends nothing. -/
theorem pyCall_spec (host : Host) (s : PyConnectStub) (owner : PyConnectObject)
    (metd : PyConnectMethod) (args : List PyObject) :
    ((pyCall host s owner metd args).err = none ↔ Counted metd args.length ∧
      ∀ x ∈ args.zip metd.args, admits x.1 x.2.type = true) ∧
    ((pyCall host s owner metd args).err ≠ none → (pyCall host s owner metd args).effects = []) := by
  rw [pyCall, Counted]
  dsimp only
  by_cases hcount : args.length < metd.args.length - metd.optArgs ∨
      args.length > metd.args.length - metd.optArgs + metd.optArgs
  · rw [if_pos hcount]
    refine ⟨⟨nofun, fun h => ?_⟩, fun _ => rfl⟩
    omega
  · have hok := argsSize_ok_iff 0 (args.zip metd.args)
    rw [if_neg hcount]
    cases hsize : argsSize 0 (args.zip metd.args) with
    | error e =>
        obtain ⟨i, type⟩ := e
        simp only [hsize, reduceCtorEq, exists_false, false_iff] at hok
        exact ⟨⟨nofun, fun h => absurd h.2 hok⟩, fun _ => rfl⟩
    | ok n =>
        simp only [hsize, Except.ok.injEq, exists_eq', true_iff] at hok
        exact ⟨⟨fun _ => ⟨by omega, hok⟩, fun _ => rfl⟩, fun h => absurd rfl h⟩

def specialNames : List (List UInt8) :=
  [text "__nocallback__", text "__name__", text "id", text "__doc__"]

structure Ordinary (obj : PyConnectObject) : Prop where
  attributes : ∀ attr ∈ obj.pPyAttrs, attr.name ∉ specialNames
  methods : ∀ metd ∈ obj.pPyMetds, metd.name ∉ specialNames

/-- A failed call leaves the object as it is, and sends nothing. -/
def Atomic (obj : PyConnectObject) (r : Attempt) : Prop :=
  r.err ≠ none → r.obj = obj ∧ ∀ data broadcast, .dispatch data broadcast ∉ r.effects

def callType (obj : PyConnectObject) : PyConnectMsg :=
  if obj.noCallback then .callAttrMetdNocb else .callAttrMetd

/-- A message is the only one, and it writes a writable attribute of that name a
value of its type; the cached value goes with it when no answer will come. -/
def Legal (host : Host) (s : PyConnectStub) (obj : PyConnectObject) (name : List UInt8)
    (value : PyObject) (r : Attempt) : Prop :=
  ∀ data broadcast, .dispatch data broadcast ∈ r.effects →
    ∃ aind attr, obj.pPyAttrs[aind]? = some attr ∧ attr.name = name ∧ attr.readonly = false ∧
      hasType value attr.type = true ∧
      r = ⟨if obj.noCallback then obj.setValue aind value else obj,
        [.dispatch (callPacket host s obj.id aind
          ((packToStr host value attr.type).take (validateTypeAndSize value attr.type).toNat)
          (callType obj)).data false], none, overflows value attr.type⟩

variable {host : Host} {s : PyConnectStub} {obj : PyConnectObject} {name : List UInt8}
  {value : PyObject}

theorem remoteAttrMethodCall_dispatch {index : Int} {argStr data : List UInt8} {t : PyConnectMsg}
    {broadcast : Bool}
    (h : .dispatch data broadcast ∈ remoteAttrMethodCall host s obj index argStr t) :
    remoteAttrMethodCall host s obj index argStr t =
      [.dispatch (callPacket host s obj.id index argStr t).data false] := by
  rw [remoteAttrMethodCall] at h ⊢
  split at h
  · cases h
  next hid =>
    rw [if_neg hid]
    rw [List.mem_singleton, send] at h
    split at h
    next hsize => rw [send_eq hsize]
    · cases h

theorem atomic_of_obj {r : Attempt} (hobj : r.obj = obj) (heffects : r.effects = []) : Atomic obj r :=
  fun _ => ⟨hobj, fun _ _ h => by rw [heffects] at h; cases h⟩

theorem legal_of_silent {r : Attempt} (heffects : ∀ data broadcast, .dispatch data broadcast ∉ r.effects) :
    Legal host s obj name value r :=
  fun data broadcast h => absurd h (heffects data broadcast)

theorem setRemote_spec {aind : Nat} {attr : PyConnectAttribute} (ha : obj.pPyAttrs[aind]? = some attr)
    (hname : attr.name = name) :
    Atomic obj (setRemote host s obj aind attr value) ∧
      Legal host s obj name value (setRemote host s obj aind attr value) := by
  rw [setRemote]
  dsimp only
  split
  · exact ⟨atomic_of_obj rfl rfl, legal_of_silent fun _ _ => List.not_mem_nil⟩
  next hro =>
    split
    · exact ⟨atomic_of_obj rfl rfl, legal_of_silent fun _ _ => List.not_mem_nil⟩
    next hsize =>
      have htype : hasType value attr.type = true := by
        rw [validateTypeAndSize_eq_zero, Bool.not_eq_false] at hsize
        exact hasType_of_admits hsize
      have hro' : attr.readonly = false := Bool.eq_false_iff.mpr hro
      split
      next hnocb =>
        refine ⟨fun h => absurd rfl h, fun data broadcast h => ?_⟩
        have hsent := remoteAttrMethodCall_dispatch h
        refine ⟨aind, attr, ha, hname, hro', htype, ?_⟩
        rw [if_pos hnocb, callType, if_pos hnocb, hsent]
      next hcb =>
        refine ⟨fun h => absurd rfl h, fun data broadcast h => ?_⟩
        have hsent := remoteAttrMethodCall_dispatch h
        refine ⟨aind, attr, ha, hname, hro', htype, ?_⟩
        rw [if_neg hcb, callType, if_neg hcb, hsent]

theorem setNamed_spec (host : Host) (s : PyConnectStub) (obj : PyConnectObject) (name : List UInt8)
    (value : PyObject) :
    Atomic obj (setNamed host s obj name value) ∧
      Legal host s obj name value (setNamed host s obj name value) := by
  rw [setNamed.eq_def]
  dsimp only
  split
  next attr hattr =>
    refine setRemote_spec hattr ?_
    obtain ⟨hlt, rfl⟩ := List.getElem?_eq_some_iff.mp hattr
    simpa using List.findIdx_getElem (w := hlt)
  · split
    · exact ⟨atomic_of_obj rfl rfl, legal_of_silent fun _ _ => List.not_mem_nil⟩
    · split
      · exact ⟨fun h => absurd rfl h, legal_of_silent fun _ _ => List.not_mem_nil⟩
      · exact ⟨fun h => absurd rfl h, legal_of_silent fun _ _ => List.not_mem_nil⟩

theorem setNamed_dictionary (host : Host) (s : PyConnectStub) (obj : PyConnectObject) (value : PyObject)
    (hattrs : ∀ attr ∈ obj.pPyAttrs, attr.name ≠ name)
    (hmetds : ∀ metd ∈ obj.pPyMetds, metd.name ≠ name) :
    (setNamed host s obj name value).err = none ∧ (setNamed host s obj name value).effects = [] := by
  have hnone : obj.pPyAttrs[obj.pPyAttrs.findIdx (·.name = name)]? = none := by
    rw [List.getElem?_eq_none_iff]
    exact (List.findIdx_eq_length.mpr (by simpa using hattrs)).ge
  have hany : ¬ obj.pPyMetds.any (·.name = name) = true := by
    simpa using hmetds
  rw [setNamed.eq_def]
  dsimp only
  rw [hnone]
  dsimp only
  rw [if_neg hany]
  split <;> exact ⟨rfl, rfl⟩

theorem setAttribute_fixed (host : Host) (s : PyConnectStub) (obj : PyConnectObject)
    (name : List UInt8) (value : PyObject) :
    fixed (setAttribute host s obj name value).obj = fixed obj := by
  have hremote : ∀ (obj : PyConnectObject) (i : Nat) (attr : PyConnectAttribute),
      fixed (setRemote host s obj i attr value).obj = fixed obj := by
    intro obj i attr
    rw [setRemote]
    split
    · rfl
    · dsimp only
      split
      · rfl
      · split <;> rfl
  have hnamed : ∀ obj : PyConnectObject, fixed (setNamed host s obj name value).obj = fixed obj := by
    intro obj
    rw [setNamed]
    split
    · exact hremote obj _ _
    · split
      · rfl
      · split <;> rfl
  unfold setAttribute
  split
  · cases value with
    | bool c => exact hnamed { obj with noCallback := c }
    | _ => rfl
  · split
    · rfl
    · split
      · cases value <;> rfl
      · exact hnamed obj

/-- Setting an attribute of a proxy fails without a trace, and sends no message
but one that writes an attribute it may. -/
theorem setAttribute_legal (host : Host) (s : PyConnectStub) (obj : PyConnectObject)
    (name : List UInt8) (value : PyObject) (hobj : Ordinary obj) :
    Atomic obj (setAttribute host s obj name value) ∧
      Legal host s obj name value (setAttribute host s obj name value) := by
  rw [setAttribute.eq_def]
  split
  next hname =>
    have hattrs : ∀ attr ∈ obj.pPyAttrs, attr.name ≠ name := fun attr h he =>
      hobj.attributes attr h (by rw [he, hname]; exact List.mem_cons_self)
    have hmetds : ∀ metd ∈ obj.pPyMetds, metd.name ≠ name := fun metd h he =>
      hobj.methods metd h (by rw [he, hname]; exact List.mem_cons_self)
    split
    next b =>
      obtain ⟨herr, heffects⟩ := setNamed_dictionary host s { obj with noCallback := b }
        (.bool b) hattrs hmetds
      refine ⟨fun h => absurd herr h, legal_of_silent fun _ _ h => ?_⟩
      rw [heffects] at h
      cases h
    · exact ⟨atomic_of_obj rfl rfl, legal_of_silent fun _ _ => List.not_mem_nil⟩
  · split
    · exact ⟨atomic_of_obj rfl rfl, legal_of_silent fun _ _ => List.not_mem_nil⟩
    · split
      · split
        · exact ⟨fun h => absurd rfl h, legal_of_silent fun _ _ => List.not_mem_nil⟩
        · exact ⟨fun h => absurd rfl h, legal_of_silent fun _ _ => by simp⟩
      · exact setNamed_spec host s obj name value

def thermostat : PyConnectObject :=
  { PyConnectObject.create [116] 1 none 0 with
    noCallback := true
    pPyAttrs := [⟨[103], .int, false, .int 0, []⟩] }

theorem ordinary_thermostat : Ordinary thermostat where
  attributes := by decide
  methods := nofun

theorem setAttribute_legal_thermostat :
    Atomic thermostat (setAttribute .little ⟨false, [], 2, [], 5⟩ thermostat [103] (.int 21)) ∧
      Legal .little ⟨false, [], 2, [], 5⟩ thermostat [103] (.int 21)
        (setAttribute .little ⟨false, [], 2, [], 5⟩ thermostat [103] (.int 21)) :=
  setAttribute_legal _ _ thermostat _ _ ordinary_thermostat

end PyConnect.AttributeWrites

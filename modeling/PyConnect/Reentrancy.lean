import PyConnect.ModuleTable
import PyConnect.Removal

namespace PyConnect.Reentrancy

open Common Values Stub
open Removal (Calls Orderly Clean)

/-- What a script hands to PyConnect.disconnect. An object stands as its id. -/
inductive Input where
  | name (objName : List UInt8)
  | ref (id : Int)

/-- findModuleByName and findModuleByRef, as far as one module goes. -/
def Input.names : Input → PyConnectObject → Bool
  | .name objName, m => m.name = objName
  | .ref id, m => m.id = id

/-- What onModuleDestroyed does each time that it is called: the modules that
it disconnects, and what the calls that come of that do. -/
abbrev Behaviour := Calls Input

/-- `released` pairs what a call was to remove with what it let go of. -/
structure Removed where
  stub : PyConnectStub
  effects : List Effect
  released : List (PyConnectObject × PyConnectObject)

/-- The common part of the two functions: `miter` is found before the callback
and is used after it. There is no outcome where it is then past the end. The
name of a registered module is text. -/
def removeModule (dispatched : List Effect) (key : PyConnectObject → PyConnectObject → List UInt8)
    (invokeCallback : PyConnectStub → Option Removed) (s : PyConnectStub) (id : Int) : Option Removed :=
  let miter := s.modules.findIdx (·.id = id)
  match s.modules[miter]? with
  | none => some ⟨s, [], []⟩
  | some obj => do
      let r ← invokeCallback s
      let left ← r.stub.modules[miter]?
      some {
        stub := { r.stub with
          pyConnect := delItemString r.stub.pyConnect (key obj left)
          modules := r.stub.modules.eraseIdx miter }
        effects := dispatched ++ [.gilEnsure, .invokeCallback s.scope (text "onModuleDestroyed")
          [unicodeFromString obj.name, .int id]] ++ r.effects ++ [.gilRelease]
        released := r.released ++ [(obj, left)] }

/-- PyConnectStub::shutdownModuleByRef; the attribute that it deletes is that of
the module that it was called for. -/
def shutdownModuleByRef (invokeCallback : PyConnectStub → Option Removed) (s : PyConnectStub) (id : Int) :
    Option Removed :=
  removeModule [.dispatch [header .serverShutdown s.serverID, toByte id, msgEnd] false]
    (fun obj _ => obj.name) invokeCallback s id

/-- PyConnectStub::deleteModuleByID; the attribute that it deletes is that of
the module that `miter` points to after the callback. -/
def deleteModuleByID (invokeCallback : PyConnectStub → Option Removed) (s : PyConnectStub) (id : Int) :
    Option Removed :=
  removeModule [] (fun _ left => left.name) invokeCallback s id

/-- A call of onModuleDestroyed. PyConnect.disconnect raises a LookupError for
what is not registered. -/
def invoke : Behaviour → PyConnectStub → Option Removed
  | .done, s => some ⟨s, [], []⟩
  | .call input callback next, s =>
      match s.modules.find? input.names with
      | none => invoke next s
      | some obj => do
          let r ← shutdownModuleByRef (invoke callback) s obj.id
          let r' ← invoke next r.stub
          some ⟨r'.stub, r.effects ++ r'.effects, r.released ++ r'.released⟩

/-- The modules that are gone are those that were to be removed, by this call
or by one of the callback's; none has been let go of twice. -/
def Survives (s : PyConnectStub) (outcome : Option Removed) : Prop :=
  ∃ r ∈ outcome, Clean s.modules r.stub.modules r.released

/-- While a module is being removed, nothing is disconnected that is not behind
it in modules_. -/
def Behind (s : PyConnectStub) (id : Int) (callback : Behaviour) : Prop :=
  (findModuleByID s id).isSome →
    Orderly Input.names callback (s.modules.findIdx (·.id = id) + 1) s.modules

variable {s : PyConnectStub} {obj : PyConnectObject} {id : Int} {callback : Behaviour}

theorem eraseIdx_findIdx {α : Type} (xs : List α) (p : α → Bool) :
    xs.eraseIdx (xs.findIdx p) = xs.eraseP p := by
  induction xs with
  | nil => rfl
  | cons x xs ih =>
      rw [List.findIdx_cons, List.eraseP_cons]
      cases p x with
      | true => rfl
      | false => exact congrArg (x :: ·) ih

theorem removeModule_done (dispatched : List Effect)
    (key : PyConnectObject → PyConnectObject → List UInt8) (hfind : findModuleByID s id = some obj) :
    removeModule dispatched key (invoke .done) s id = some
      ⟨{ s with
          pyConnect := delItemString s.pyConnect (key obj obj)
          modules := s.modules.eraseP (·.id = id) },
        dispatched ++ [.gilEnsure, .invokeCallback s.scope (text "onModuleDestroyed")
          [unicodeFromString obj.name, .int id]] ++ [.gilRelease], [(obj, obj)]⟩ := by
  rw [findModuleByID, List.find?_eq_getElem?_findIdx] at hfind
  simp only [removeModule, hfind, invoke, Option.bind_eq_bind, Option.bind_some, eraseIdx_findIdx,
    List.append_nil, List.nil_append]

theorem removeModule_absent (dispatched : List Effect)
    (key : PyConnectObject → PyConnectObject → List UInt8)
    (invokeCallback : PyConnectStub → Option Removed) (hfind : findModuleByID s id = none) :
    removeModule dispatched key invokeCallback s id = some ⟨s, [], []⟩ := by
  rw [findModuleByID, List.find?_eq_getElem?_findIdx] at hfind
  simp only [removeModule, hfind]

theorem locked_invoke {scope : CallbackScope} {fnName : List UInt8} {arg : List PyObject}
    (h : .null ∉ arg) :
    locked (Stub.invoke scope fnName arg) = [.gilEnsure, .invokeCallback scope fnName arg, .gilRelease] := by
  rw [invoke_eq h, locked_alive rfl]
  rfl

theorem not_null_destroyed {name : List UInt8} (hname : validUtf8 name = true) (id : Int) :
    PyObject.null ∉ [unicodeFromString name, .int id] := by
  rw [unicodeFromString, if_pos hname]
  simp

/-- With a callback that disconnects nothing, the two functions are those of
the module table. -/
theorem shutdownModuleByRef_done (hnames : ∀ obj ∈ s.modules, validUtf8 obj.name = true) (id : Int) :
    (shutdownModuleByRef (invoke .done) s id).map (fun r => (r.stub, r.effects)) =
      some (Stub.shutdownModuleByRef s id) := by
  rw [shutdownModuleByRef, Stub.shutdownModuleByRef]
  cases hfind : findModuleByID s id with
  | none =>
      rw [removeModule_absent _ _ _ hfind]
      rfl
  | some obj =>
      have hname := hnames obj (List.mem_of_find?_eq_some hfind)
      obtain rfl : obj.id = id := by simpa using List.find?_some hfind
      dsimp only
      rw [removeModule_done _ _ hfind, locked_invoke (not_null_destroyed hname obj.id)]
      rfl

theorem deleteModuleByID_done (hnames : ∀ obj ∈ s.modules, validUtf8 obj.name = true) (id : Int) :
    (deleteModuleByID (invoke .done) s id).map (fun r => (r.stub, r.effects)) =
      some (Stub.deleteModuleByID s id) := by
  rw [deleteModuleByID, Stub.deleteModuleByID]
  cases hfind : findModuleByID s id with
  | none =>
      rw [removeModule_absent _ _ _ hfind]
      rfl
  | some obj =>
      have hname := hnames obj (List.mem_of_find?_eq_some hfind)
      dsimp only
      rw [removeModule_done _ _ hfind, locked_invoke (not_null_destroyed hname id)]
      rfl

def Removed.list (r : Removed) : List PyConnectObject × List (PyConnectObject × PyConnectObject) :=
  (r.stub.modules, r.released)

theorem removeModule_found (dispatched : List Effect)
    (key : PyConnectObject → PyConnectObject → List UInt8)
    (invokeCallback : PyConnectStub → Option Removed) (hfind : findModuleByID s id = some obj) :
    (removeModule dispatched key invokeCallback s id).map Removed.list =
      (invokeCallback s).bind fun r => r.stub.modules[s.modules.idxOf obj]?.map fun left =>
        (r.stub.modules.eraseIdx (s.modules.idxOf obj), r.released ++ [(obj, left)]) := by
  rw [findModuleByID] at hfind
  rw [Removal.idxOf_eq_findIdx hfind]
  rw [List.find?_eq_getElem?_findIdx] at hfind
  simp only [removeModule, hfind]
  cases invokeCallback s with
  | none => rfl
  | some r =>
      simp only [Option.bind_eq_bind, Option.bind_some]
      cases r.stub.modules[s.modules.findIdx (·.id = id)]? <;> rfl

theorem findModuleByID_live (hids : (s.modules.map (·.id)).Nodup) (h : obj ∈ s.modules) :
    findModuleByID s obj.id = some obj := by
  rw [findModuleByID]
  cases hfind : s.modules.find? (·.id = obj.id) with
  | none =>
      have hnone := List.find?_eq_none.mp hfind obj h
      simp at hnone
  | some m =>
      have hid : m.id = obj.id := by simpa using List.find?_some hfind
      exact congrArg some (List.inj_on_of_nodup_map hids (List.mem_of_find?_eq_some hfind) h hid)

theorem invoke_list (hids : (s.modules.map (·.id)).Nodup) (callback : Behaviour) :
    (invoke callback s).map Removed.list = Removal.run Input.names callback s.modules := by
  induction callback generalizing s with
  | done => rfl
  | call input callback next ihCallback ihNext =>
      rw [invoke, Removal.run]
      cases hfind : s.modules.find? input.names with
      | none => exact ihNext hids
      | some obj =>
          have hlive := findModuleByID_live hids (List.mem_of_find?_eq_some hfind)
          have hfound := removeModule_found
            [.dispatch [header .serverShutdown s.serverID, toByte obj.id, msgEnd] false]
            (fun obj _ => obj.name) (invoke callback) hlive
          have hinner := ihCallback hids
          rw [← shutdownModuleByRef] at hfound
          dsimp only
          rw [← hinner]
          cases hcallback : invoke callback s with
          | none =>
              rw [hcallback] at hfound
              rw [Option.map_eq_none_iff.mp hfound]
              rfl
          | some r =>
              rw [hcallback] at hfound hinner
              have hsub := (Removal.run_spec hinner.symm).1
              cases hleft : r.stub.modules[s.modules.idxOf obj]? with
              | none =>
                  rw [Option.bind_some, hleft] at hfound
                  rw [Option.map_eq_none_iff.mp hfound]
                  simp [Removed.list, hleft]
              | some left =>
                  rw [Option.bind_some, hleft] at hfound
                  obtain ⟨r₁, hr₁, hlist⟩ := Option.map_eq_some_iff.mp hfound
                  obtain ⟨hmodules, hreleased⟩ := Prod.mk.inj hlist
                  have hids₁ : (r₁.stub.modules.map (·.id)).Nodup := by
                    rw [hmodules]
                    exact hids.sublist (((List.eraseIdx_sublist ..).trans hsub).map _)
                  have hnext := ihNext hids₁
                  rw [hmodules] at hnext
                  rw [hr₁]
                  simp only [Option.bind_eq_bind, Option.bind_some, Option.map_some, Removed.list,
                    hleft]
                  rw [← hnext]
                  cases invoke next r₁.stub with
                  | none => rfl
                  | some r₂ => simp [Removed.list, hreleased]

theorem removeModule_list (dispatched : List Effect)
    (key : PyConnectObject → PyConnectObject → List UInt8) (hids : (s.modules.map (·.id)).Nodup)
    (id : Int) (callback : Behaviour) :
    (removeModule dispatched key (invoke callback) s id).map Removed.list =
      Removal.run Input.names (.call (.ref id) callback .done) s.modules := by
  rw [Removal.run]
  cases hfind : s.modules.find? (Input.names (.ref id)) with
  | none =>
      rw [removeModule_absent dispatched key _ hfind]
      rfl
  | some obj =>
      dsimp only
      rw [removeModule_found dispatched key _ hfind, ← invoke_list hids]
      cases invoke callback s with
      | none => rfl
      | some r =>
          simp only [Option.bind_eq_bind, Option.bind_some, Option.map_some, Removed.list]
          cases r.stub.modules[s.modules.idxOf obj]? <;> rfl

theorem removeModule_survives_iff (dispatched : List Effect)
    (key : PyConnectObject → PyConnectObject → List UInt8) (hids : (s.modules.map (·.id)).Nodup)
    (id : Int) (callback : Behaviour) :
    Survives s (removeModule dispatched key (invoke callback) s id) ↔ Behind s id callback := by
  have hlist := removeModule_list dispatched key hids id callback
  have hclean := Removal.clean_iff Input.names (.call (.ref id) callback .done) hids.of_map
  rw [← hlist] at hclean
  have hsurvives : Survives s (removeModule dispatched key (invoke callback) s id) ↔
      ∃ p ∈ (removeModule dispatched key (invoke callback) s id).map Removed.list,
        Clean s.modules p.1 p.2 := by
    simp [Survives, Removed.list]
  rw [hsurvives, hclean]
  cases hfind : s.modules.find? (Input.names (.ref id)) with
  | none =>
      refine iff_of_true ((Removal.orderly_absent hfind).mpr trivial) fun h => ?_
      change (s.modules.find? (Input.names (.ref id))).isSome at h
      rw [hfind] at h
      cases h
  | some obj =>
      change _ ↔ ((s.modules.find? (Input.names (.ref id))).isSome →
        Orderly Input.names callback (s.modules.findIdx (Input.names (.ref id)) + 1) s.modules)
      rw [Removal.orderly_present hfind, Removal.idxOf_eq_findIdx hfind, hfind]
      simp [Orderly]

/-- A removal with its callback takes out what it is meant to exactly when the
callback disconnects nothing that is not behind a module that is being removed.
Both functions are alike in this. -/
theorem survives_iff (s : PyConnectStub) (hids : (s.modules.map (·.id)).Nodup) (id : Int)
    (callback : Behaviour) :
    (Survives s (shutdownModuleByRef (invoke callback) s id) ↔ Behind s id callback) ∧
      (Survives s (deleteModuleByID (invoke callback) s id) ↔ Behind s id callback) :=
  ⟨removeModule_survives_iff _ _ hids id callback, removeModule_survives_iff _ _ hids id callback⟩

def serving : PyConnectStub where
  pow := false
  pyConnect := []
  nextObjId := 4
  modules := [.create (text "a") 1 none 0, .create (text "b") 2 none 0, .create (text "c") 3 none 0]
  serverID := 1

/-- "b" goes, and the callback has "c" disconnected. -/
theorem survives_iff_behind :
    (Survives serving (shutdownModuleByRef (invoke (.call (.name (text "c")) .done .done)) serving 2) ↔
        Behind serving 2 (.call (.name (text "c")) .done .done)) ∧
      (Survives serving (deleteModuleByID (invoke (.call (.name (text "c")) .done .done)) serving 2) ↔
        Behind serving 2 (.call (.name (text "c")) .done .done)) :=
  survives_iff serving (by decide) 2 _

/-- "b" goes, and the callback has "a" disconnected: "c" is let go of in place
of "b". -/
theorem not_survives_in_front :
    ¬ ∀ (s : PyConnectStub) (id : Int) (callback : Behaviour), (s.modules.map (·.id)).Nodup →
      Survives s (shutdownModuleByRef (invoke callback) s id) ∧
        Survives s (deleteModuleByID (invoke callback) s id) := by
  intro h
  have hids : (serving.modules.map (·.id)).Nodup := by decide
  have hsurvives := (h serving 2 (.call (.name (text "a")) .done .done) hids).1
  rw [shutdownModuleByRef, removeModule_survives_iff _ _ hids, Behind] at hsurvives
  have hfind : serving.modules.find? (Input.names (.name (text "a"))) =
      some (.create (text "a") 1 none 0) := by
    simp [serving, Input.names, PyConnectObject.create]
  have horderly := hsurvives (by decide)
  rw [Removal.orderly_present hfind, Removal.idxOf_eq_findIdx hfind] at horderly
  exact absurd horderly.1 (by decide)

end PyConnect.Reentrancy

import PyConnect.StubMessage

namespace PyConnect.ScriptCallbacks

open Decoding Common Values Stub StubInput StubMessage

variable {host : Host} {s : PyConnectStub}

/-- A callback of the application, not of one of its objects. -/
def scriptCallback : Effect → Option Callback
  | .invokeCallback scope fnName arg =>
      match scope with
      | .object _ => none
      | .mainScript => some ⟨fnName, arg⟩
      | .pyConnect => some ⟨fnName, arg⟩
  | _ => none

def scriptCallbacks (effects : List Effect) : List Callback := effects.filterMap scriptCallback

def onModuleCreated (id : Int) : Callback := ⟨text "onModuleCreated", [.connectObject id]⟩

def onModuleDestroyed (name : List UInt8) (id : Int) : Callback :=
  ⟨text "onModuleDestroyed", [unicodeFromString name, .int id]⟩

def onPeerMessage (peerServerID : Int) (peerMsg : List UInt8) : Callback :=
  ⟨text "onPeerMessage", [.int peerServerID, unicodeFromString peerMsg]⟩

def peerText (message : List UInt8) : List UInt8 := (unpackString true (startAt message.tail 0)).1

@[simp] theorem scriptCallbacks_append (xs ys : List Effect) :
    scriptCallbacks (xs ++ ys) = scriptCallbacks xs ++ scriptCallbacks ys := List.filterMap_append

@[simp] theorem scriptCallback_scope (s : PyConnectStub) (fnName : List UInt8) (arg : List PyObject) :
    scriptCallback (.invokeCallback s.scope fnName arg) = some ⟨fnName, arg⟩ := by
  rw [PyConnectStub.scope]
  split <;> rfl

@[simp] theorem scriptCallback_send (p : Packet) : scriptCallback (Stub.send p) = none := by
  rw [Stub.send]
  split <;> rfl

theorem scriptCallbacks_locked (effects : List Effect) :
    scriptCallbacks (locked effects) = scriptCallbacks effects := filterMap_locked rfl rfl effects

theorem scriptCallbacks_invoke {fnName : List UInt8} {arg : List PyObject}
    (hlives : .crash ∉ invoke s.scope fnName arg) :
    scriptCallbacks (invoke s.scope fnName arg) = [⟨fnName, arg⟩] := by
  rw [invoke_lives hlives, scriptCallbacks, List.filterMap_cons, scriptCallback_scope]
  rfl

theorem scriptCallbacks_send (p : Packet) :
    scriptCallbacks [.gilEnsure, .gilRelease, Stub.send p] = [] := by
  simp only [scriptCallbacks, List.filterMap_cons, scriptCallback_send]
  rfl

theorem scriptCallbacks_addNewModule (s : PyConnectStub) (name desc : List UInt8) (options : UInt8)
    (cAddr : SockAddr) : scriptCallbacks (addNewModule s name desc options cAddr).2 = [] := by
  rw [addNewModule]
  split
  · rfl
  split
  · rfl
  split
  · rfl
  · exact scriptCallbacks_send _

theorem scriptCallbacks_deleteModuleByID (s : PyConnectStub) (id : Int)
    (hlives : .crash ∉ (deleteModuleByID s id).2) :
    scriptCallbacks (deleteModuleByID s id).2 =
      ((findModuleByID s id).map fun obj => onModuleDestroyed obj.name id).toList := by
  rw [deleteModuleByID] at hlives ⊢
  cases hfind : findModuleByID s id with
  | none => rfl
  | some obj =>
      rw [hfind] at hlives
      dsimp only at hlives ⊢
      rw [scriptCallbacks_locked, scriptCallbacks_invoke fun h => hlives (mem_locked h)]
      rfl

theorem scriptCallbacks_shutdownModuleByRef (s : PyConnectStub) (id : Int)
    (hlives : .crash ∉ (shutdownModuleByRef s id).2) :
    scriptCallbacks (shutdownModuleByRef s id).2 =
      ((findModuleByID s id).map fun obj => onModuleDestroyed obj.name id).toList := by
  rw [shutdownModuleByRef] at hlives ⊢
  cases hfind : findModuleByID s id with
  | none => rfl
  | some obj =>
      have hid : obj.id = id := by simpa using List.find?_some hfind
      rw [hfind] at hlives
      dsimp only at hlives ⊢
      rw [hid] at hlives ⊢
      rw [scriptCallbacks, List.filterMap_cons_none rfl, ← scriptCallbacks, scriptCallbacks_locked,
        scriptCallbacks_invoke fun h => hlives (List.mem_cons_of_mem _ (mem_locked h))]
      rfl

theorem scriptCallbacks_objects {effects : List Effect}
    (h : ∀ e ∈ effects, scriptCallback e = none) : scriptCallbacks effects = [] :=
  List.filterMap_eq_nil_iff.mpr h

theorem scriptCallbacks_objectMessage (host : Host) (s : PyConnectStub) (obj : PyConnectObject)
    (t : Option PyConnectMsg) :
    Yields (objectMessage host s.scope obj t) fun h => .crash ∉ h.effects → scriptCallbacks h.effects =
      if t = some .attrMetdExpose then [onModuleCreated obj.id] else [] := by
  rw [objectMessage.eq_def]
  split
  · refine (attrMetdExpose_fixed obj).bind fun obj' h => .pure fun hlives => ?_
    have hid : obj'.id = obj.id := congrArg Prod.fst h
    dsimp only at hlives ⊢
    split at hlives
    · exact absurd (List.mem_singleton_self _) hlives
    next hnull =>
      rw [if_neg hnull, scriptCallbacks_invoke hlives, if_pos rfl, hid]
      rfl
  · exact .after fun x => (forall_onSetAttrMetdResp (P := fun e => scriptCallback e = none) host obj
      x.1 x.2 (fun _ _ => rfl) rfl).bind fun _ hnone => .pure fun _ => scriptCallbacks_objects hnone
  · exact .after fun x => (forall_onGetAttrResp (P := fun e => scriptCallback e = none) host obj
      x.1 x.2 (fun _ _ => rfl) rfl).bind fun _ hnone => .pure fun _ => scriptCallbacks_objects hnone
  · refine .after fun d => .pure fun _ => ?_
    cases d.stray <;> rfl
  next t h1 _ _ _ =>
    rw [if_neg h1]
    exact .pure fun _ => rfl

theorem scriptCallbacks_objectInput (host : Host) (s : PyConnectStub) (id : Int)
    (t : Option PyConnectMsg) (c : Cursor) (hlives : .crash ∉ (objectInput host s id t c).effects) :
    scriptCallbacks (objectInput host s id t c).effects =
      if t = some .attrMetdExpose then
        ((findModuleByID s id).map fun obj => onModuleCreated obj.id).toList
      else [] := by
  rw [objectInput] at hlives ⊢
  cases hfind : findModuleByID s id with
  | none => exact (ite_self _).symm
  | some obj =>
      rw [hfind] at hlives
      dsimp only at hlives ⊢
      have hcalled := scriptCallbacks_objectMessage host s obj t c
      generalize objectMessage host s.scope obj t c = r at *
      obtain ⟨handled, c'⟩ := r
      dsimp only at *
      split at hlives
      next hknown =>
        rw [if_pos hknown, scriptCallbacks_locked, hcalled fun h => hlives (mem_locked h)]
        rfl
      next hknown =>
        rw [if_neg hknown, scriptCallbacks, List.filterMap_cons_none rfl, ← scriptCallbacks,
          hcalled fun h => hlives (List.mem_cons_of_mem _ h)]
        rfl

theorem scriptCallbacks_declareInput (s : PyConnectStub) (cAddr : SockAddr) (c : Cursor) :
    scriptCallbacks (declareInput s cAddr c).effects = [] := by
  rw [declareInput, moduleDeclare, bind_apply, bind_apply]
  cases findModuleByName s (unpackString false (byte c).2).1 with
  | some obj => rfl
  | none => exact scriptCallbacks_addNewModule _ _ _ _ _

theorem scriptCallbacks_peerServerMsg (s : PyConnectStub) (first : UInt8) (c : Cursor)
    (hlives : .crash ∉ (peerServerMsg s first c).1) :
    scriptCallbacks (peerServerMsg s first c).1 =
      [onPeerMessage (lowNibble first) (unpackString true c).1] := by
  change scriptCallbacks (locked (invoke s.scope _ _)) = _
  rw [scriptCallbacks_locked, scriptCallbacks_invoke fun h => hlives (mem_locked h)]
  rfl

/-- What the application is told of a message, by the type of the message. -/
def told (s : PyConnectStub) (message : List UInt8) : List Callback :=
  let t := PyConnectMsg.ofCode (msgTypeOf (message.headD 0))
  let id : Int := lowNibble (message.getD 1 0)
  if t = some .moduleShutdown then
    ((findModuleByID s id).map fun obj => onModuleDestroyed obj.name id).toList
  else if t = some .peerServerMsg then [onPeerMessage (lowNibble (message.headD 0)) (peerText message)]
  else if t = some .attrMetdExpose then
    ((findModuleByID s id).map fun obj => onModuleCreated obj.id).toList
  else []

theorem scriptCallbacks_processMessage (host : Host) (s : PyConnectStub) (message : List UInt8)
    (cAddr : SockAddr) (hlives : .crash ∉ (processMessage host s message cAddr).effects) :
    scriptCallbacks (processMessage host s message cAddr).effects = told s message := by
  revert hlives
  refine processMessage_cases host s message cAddr ?unknown ?declare ?shutdown ?peer ?discovery ?object
  case unknown =>
    intro h0 _
    rw [told, h0]
    rfl
  case declare =>
    intro ht _
    rw [told, ht]
    exact scriptCallbacks_declareInput s cAddr _
  case shutdown =>
    intro ht c hlives
    rw [told, ht]
    exact scriptCallbacks_deleteModuleByID s _ hlives
  case peer =>
    intro ht hlives
    have htail : (byte (startAt message 0)).2 = startAt message.tail 0 := by
      cases message with
      | nil => cases ht
      | cons x rest =>
          rw [byte_cons]
          rfl
    rw [told, ht]
    rw [htail] at hlives ⊢
    exact scriptCallbacks_peerServerMsg s _ _ hlives
  case discovery =>
    intro ht _
    rw [told, ht]
    rfl
  case object =>
    intro _ ht c hlives
    simp only [List.mem_cons, List.not_mem_nil, or_false, not_or] at ht
    obtain ⟨-, hshutdown, hpeer, -⟩ := ht
    rw [told, if_neg hshutdown, if_neg hpeer]
    exact scriptCallbacks_objectInput host s _ _ c hlives

end PyConnect.ScriptCallbacks

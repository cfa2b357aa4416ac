import PyConnect.Channels
import PyConnect.StubMessage
import PyConnect.ModuleRouting
import PyConnect.WrapperInput

namespace PyConnect.Handshake

open Bytes Decoding Common Values ObjComm NetComm Channels Stub StubMessage Wrapper WrapperInput
open ModuleRouting

abbrev State : Side → Type
  | .server => PyConnectStub
  | .wrapper => PyConnectWrapper

def stubDispatches (effects : List Stub.Effect) : List (List UInt8 × Bool) :=
  effects.filterMap fun e => match e with
    | .dispatch data broadcast => some (data, broadcast)
    | _ => none

/-- There is nothing to come where the process ends. -/
def stubReaction (o : StubInput.Outcome) : Option (Reaction PyConnectStub) :=
  if alive o.effects then some ⟨o.stub, o.result, stubDispatches o.effects⟩ else none

def wrapperDispatches (effects : List Wrapper.Effect) : List (List UInt8 × Bool) :=
  effects.filterMap fun e => match e with
    | .dispatch data broadcast => some (data, broadcast)
    | _ => none

def wrapperReaction (o : WrapperInput.Outcome) : Option (Reaction PyConnectWrapper) :=
  if .stray ∈ o.effects then none else some ⟨o.wrapper, o.result, wrapperDispatches o.effects⟩

/-- PyConnectStub::sendDiscoveryMsg. -/
def discoveryData (serverID : Int) : List UInt8 := [header .moduleDiscovery serverID, msgEnd]

/-- The server and the wrapper of a module, with messages as they are after
decryption. -/
def programs (b : Build) (host : Host) (port : Side → UInt8 × UInt8) : Programs State where
  processInput
    | .server, s, cAddr, data => stubReaction (StubInput.processMessage host s data cAddr)
    | .wrapper, w, _, data => wrapperReaction (WrapperInput.processMessage b w data)
  announcements
    | .server, s => [discoveryData s.serverID]
    | .wrapper, w => (wrapperDispatches (declarePyConnectModule b w 0 true)).map (·.1)
  port := port

variable {b : Build} {host : Host} {port : Side → UInt8 × UInt8} {m : PyConnectModule}
  {s : PyConnectStub} {w : PyConnectWrapper} {cAddr : SockAddr} {serverID : Int} {data : List UInt8}

theorem of_stubReaction {o : StubInput.Outcome} {r : Reaction PyConnectStub}
    (h : stubReaction o = some r) : r = ⟨o.stub, o.result, stubDispatches o.effects⟩ := by
  rw [stubReaction] at h
  split at h
  · exact (Option.some.inj h).symm
  · cases h

theorem of_wrapperReaction {o : WrapperInput.Outcome} {r : Reaction PyConnectWrapper}
    (h : wrapperReaction o = some r) :
    .stray ∉ o.effects ∧ r = ⟨o.wrapper, o.result, wrapperDispatches o.effects⟩ := by
  rw [wrapperReaction] at h
  split at h
  next => cases h
  next hstray => exact ⟨hstray, (Option.some.inj h).symm⟩

def declareBody (b : Build) (m : PyConnectModule) : List UInt8 :=
  (if b.clang then 1 else 0) :: (packString m.name false ++ packString m.desc true ++ [msgEnd])

def declareData (b : Build) (m : PyConnectModule) (serverId : Int) : List UInt8 :=
  header .moduleDeclare serverId :: declareBody b m

def declaredName (b : Build) (m : PyConnectModule) : List UInt8 :=
  (unpackString false (byte ⟨declareBody b m, 0, 0⟩).2).1

def assignData (serverID : Int) (name : List UInt8) (id : Int) : List UInt8 :=
  header .moduleAssignId serverID :: toByte id :: (packString name false ++ [msgEnd])

theorem declarePacket_data (b : Build) (m : PyConnectModule) (serverId : Int) :
    (declarePacket b m serverId).data = declareData b m serverId := by
  have hdesc := packIntToStr_length m.desc.length
  refine (Packet.data_eq ?_).trans rfl
  simp only [declarePacket, packString, List.length_cons, List.length_append, List.length_nil,
    Bool.false_eq_true, if_false, if_true]
  omega

theorem assignPacket_data (s : PyConnectStub) (name : List UInt8) (id : Int) :
    (assignPacket s name id).data = assignData s.serverID name id := by
  refine (Packet.data_eq ?_).trans rfl
  simp only [assignPacket, packString, List.length_cons, List.length_append, List.length_nil,
    Bool.false_eq_true, if_false]
  omega

def entry (obj : PyConnectObject) : Int × List UInt8 := (obj.id, obj.name)

theorem entry_setNetworkAddress (obj : PyConnectObject) (cAddr : SockAddr) :
    entry (obj.setNetworkAddress cAddr) = entry obj := by
  unfold PyConnectObject.setNetworkAddress
  split
  · simp only [entry]
  · simp only [entry]

theorem reaction_declare_known (serverId : Int)
    (hfind : (findModuleByName s (declaredName b m)).isSome) :
    (programs b host port).processInput .server s cAddr (declareData b m serverId) =
      some ⟨s, .toShutdown, []⟩ := by
  obtain ⟨obj, hobj⟩ := Option.isSome_iff_exists.mp hfind
  have hdeclare : StubInput.declareInput s cAddr ⟨declareBody b m, 0, 0⟩ =
      ⟨s, .toShutdown, [], some obj.id,
        (unpackString false (byte ⟨declareBody b m, 0, 0⟩).2).2⟩ := by
    rw [declaredName] at hobj
    rw [StubInput.declareInput, StubInput.moduleDeclare, bind_apply, bind_apply, hobj]
    rfl
  dsimp only [programs]
  rw [declareData, processMessage_declare, hdeclare]
  rfl

theorem reaction_declare_nameless (serverId : Int)
    (hfind : findModuleByName s (declaredName b m) = none) (hname : declaredName b m = []) :
    (programs b host port).processInput .server s cAddr (declareData b m serverId) =
      some ⟨s, .processedOk, []⟩ := by
  dsimp only [programs]
  rw [declareData, processMessage_declare, StubInput.declareInput, StubInput.moduleDeclare,
    bind_apply, bind_apply]
  rw [declaredName] at hfind hname
  rw [hfind]
  dsimp only
  rw [bind_apply, hname, addNewModule, if_pos rfl]
  rfl

theorem send_assign (s : PyConnectStub) (name : List UInt8) (id : Int) :
    Stub.send (assignPacket s name id) = .stray ∨
      Stub.send (assignPacket s name id) = .dispatch (assignData s.serverID name id) false := by
  rw [Stub.send]
  split
  · rw [assignPacket_data]
    exact .inr rfl
  · exact .inl rfl

theorem reaction_declare_new (serverId : Int) {r : Reaction PyConnectStub}
    (hfind : findModuleByName s (declaredName b m) = none) (hname : declaredName b m ≠ [])
    (hid : s.nextObjId ≤ 255)
    (hr : (programs b host port).processInput .server s cAddr (declareData b m serverId) = some r) :
    r.result = .processedOk ∧
      r.dispatches = [(assignData s.serverID (declaredName b m) s.nextObjId, false)] ∧
      r.program.modules.map entry = s.modules.map entry ++ [(s.nextObjId, declaredName b m)] ∧
      r.program.serverID = s.serverID := by
  dsimp only [programs] at hr
  rw [declareData, processMessage_declare, StubInput.declareInput, StubInput.moduleDeclare,
    bind_apply, bind_apply] at hr
  rw [declaredName] at *
  rw [hfind] at hr
  dsimp only at hr
  rw [bind_apply, addNewModule, if_neg hname, if_neg (by omega)] at hr
  by_cases hnull : unicodeFromString (unpackString false (byte ⟨declareBody b m, 0, 0⟩).2).1 = .null
  · rw [if_pos hnull] at hr
    cases hr
  rw [if_neg hnull] at hr
  dsimp only [pure_apply] at hr
  rcases send_assign s (unpackString false (byte ⟨declareBody b m, 0, 0⟩).2).1 s.nextObjId with he | he
  · rw [he] at hr
    cases hr
  · rw [he] at hr
    obtain rfl := Option.some.inj hr
    refine ⟨rfl, rfl, ?_, rfl⟩
    rw [List.map_append, List.map_singleton, entry_setNetworkAddress]
    rfl

/-- A message about attributes and methods, or about their descriptions. -/
def Describes (data : List UInt8) : Prop :=
  ∃ t serverId i body, (t = .attrMetdExpose ∨ t = .attrMetdDesc) ∧
    data = header t serverId :: i :: body

theorem update_entries {id : Int} {obj obj' : PyConnectObject} (hfind : findModuleByID s id = some obj)
    (he : entry obj' = entry obj) :
    (StubInput.PyConnectStub.update s id obj').modules.map entry = s.modules.map entry := by
  rw [findModuleByID] at hfind
  simp only [StubInput.PyConnectStub.update]
  generalize s.modules = modules at hfind
  induction modules with
  | nil => rfl
  | cons x xs ih =>
      rw [List.find?_cons] at hfind
      rw [List.findIdx_cons]
      cases hx : decide (x.id = id) with
      | true =>
          rw [hx] at hfind
          obtain rfl := Option.some.inj hfind
          simp [he]
      | false =>
          rw [hx] at hfind
          simpa using ih hfind

theorem stubDispatches_objectInput (host : Host) (s : PyConnectStub) (id : Int) (t : Option PyConnectMsg)
    (c : Cursor) : stubDispatches (StubInput.objectInput host s id t c).effects = [] := by
  rw [stubDispatches, List.filterMap_eq_nil_iff]
  intro e he
  cases e with
  | dispatch data broadcast => exact (objectInput_silent host s id t c data broadcast he).elim
  | _ => rfl

theorem stubDispatches_invoke (scope : CallbackScope) (fnName : List UInt8) (arg : List PyObject) :
    stubDispatches (locked (Stub.invoke scope fnName arg)) = [] := by
  rw [stubDispatches, filterMap_locked rfl rfl]
  exact filterMap_invoke _ (fun _ => rfl) rfl

theorem stubDispatches_deleteModuleByID (s : PyConnectStub) (id : Int) :
    stubDispatches (deleteModuleByID s id).2 = [] := by
  rw [deleteModuleByID]
  split
  · rfl
  · exact stubDispatches_invoke _ _ _

theorem reaction_object (hdata : Describes data) {r : Reaction PyConnectStub}
    (hr : (programs b host port).processInput .server s cAddr data = some r) :
    r.dispatches = [] ∧ r.program.modules.map entry = s.modules.map entry ∧
      r.program.nextObjId = s.nextObjId ∧ r.program.serverID = s.serverID := by
  obtain ⟨t, serverId, i, body, ht, rfl⟩ := hdata
  have hobject : ObjectType t := by rcases ht with rfl | rfl <;> exact trivial
  dsimp only [programs] at hr
  rw [processMessage_object hobject] at hr
  obtain rfl := of_stubReaction hr
  refine ⟨stubDispatches_objectInput host s _ _ _, ?_⟩
  dsimp only
  rw [StubInput.objectInput]
  cases hfind : findModuleByID s (lowNibble i) with
  | none => exact ⟨rfl, rfl, rfl⟩
  | some obj =>
      have hfixed := objectMessage_fixed host s.scope obj (some t) ⟨body, 0, 0⟩
      exact ⟨update_entries hfind (congrArg (fun x => (x.1, x.2.1)) hfixed), rfl, rfl⟩

theorem processMessage_discovery (b : Build) (w : PyConnectWrapper) (serverID : Int) :
    WrapperInput.processMessage b w (discoveryData serverID) =
      ⟨(WrapperInput.moduleDiscovery b w (serverID % 16)).1,
        (WrapperInput.moduleDiscovery b w (serverID % 16)).2.1,
        (WrapperInput.moduleDiscovery b w (serverID % 16)).2.2, startAt [msgEnd] 0, .noErrors⟩ := by
  obtain ⟨h0, ht⟩ := msgType_header .moduleDiscovery serverID
  rw [WrapperInput.processMessage, discoveryData, byte_cons]
  dsimp only
  rw [lowNibble_header, if_neg h0, ht, if_pos rfl]

theorem processMessage_assign (b : Build) (w : PyConnectWrapper) (serverID : Int)
    (body : List UInt8) :
    WrapperInput.processMessage b w (header .moduleAssignId serverID :: body) =
      let r := WrapperInput.moduleAssignId b w (serverID % 16) (startAt body 0)
      ⟨r.1.1, r.1.2.1, r.1.2.2, r.2, .noErrors⟩ := by
  obtain ⟨h0, ht⟩ := msgType_header .moduleAssignId serverID
  rw [WrapperInput.processMessage, byte_cons]
  dsimp only
  rw [lowNibble_header, if_neg h0, ht, if_neg (by decide), if_neg (by decide), if_pos rfl]
  rfl

theorem reaction_discovery_known (hw : serverID % 16 ∈ w.serverMap) :
    (programs b host port).processInput .wrapper w cAddr (discoveryData serverID) =
      some ⟨w, .toShutdown, []⟩ := by
  dsimp only [programs]
  rw [processMessage_discovery, WrapperInput.moduleDiscovery, if_pos hw]
  rfl

theorem wrapper_send (p : Packet) {effects : List Wrapper.Effect}
    (hstray : .stray ∉ Wrapper.send p false :: effects) :
    Wrapper.send p false = .dispatch p.data false := by
  rw [Wrapper.send] at hstray ⊢
  split at hstray
  next h => exact if_pos h
  next => exact absurd List.mem_cons_self hstray

theorem reaction_discovery_new (hmod : w.pyConnectModule = some m)
    (hw : serverID % 16 ∉ w.serverMap) {r : Reaction PyConnectWrapper}
    (hr : (programs b host port).processInput .wrapper w cAddr (discoveryData serverID) = some r) :
    r = ⟨{ w with serverMap := w.serverMap.insert (serverID % 16) ⟨-1, true⟩ }, .processedOk,
      [(declareData b m (serverID % 16), false)]⟩ := by
  dsimp only [programs] at hr
  rw [processMessage_discovery, WrapperInput.moduleDiscovery, if_neg hw] at hr
  obtain ⟨hstray, rfl⟩ := of_wrapperReaction hr
  dsimp only at hstray ⊢
  rw [declarePyConnectModule] at hstray ⊢
  dsimp only at hstray ⊢
  rw [hmod] at hstray ⊢
  dsimp only at hstray ⊢
  rw [wrapper_send _ hstray, declarePacket_data]
  rfl

def carriedName (body : List UInt8) : List UInt8 := (unpackString false (startAt body 0)).1

theorem moduleAssignId_eq (hmod : w.pyConnectModule = some m) (serverId : Int) (i : UInt8)
    (body : List UInt8) :
    (WrapperInput.moduleAssignId b w serverId (startAt (i :: body) 0)).1 =
      if carriedName body = m.name then
        ((WrapperInput.moduleAssigned b w serverId i.toNat).1, .processedOk,
          (WrapperInput.moduleAssigned b w serverId i.toNat).2)
      else (w, .processedOk, []) := by
  rw [WrapperInput.moduleAssignId, bind_apply, byte_cons]
  dsimp only
  rw [bind_apply, bind_apply, hmod]
  dsimp only
  by_cases hname : (unpackString false (setRemaining 0 (startAt body 0)).2).1 = m.name
  · rw [if_pos hname, if_pos (show carriedName body = m.name from hname)]
    rfl
  · rw [if_neg hname, if_neg (show ¬ carriedName body = m.name from hname)]
    rfl

theorem reaction_assign_other (hmod : w.pyConnectModule = some m) (i : UInt8) {body : List UInt8}
    (hname : carriedName body ≠ m.name) :
    (programs b host port).processInput .wrapper w cAddr
      (header .moduleAssignId serverID :: i :: body) = some ⟨w, .processedOk, []⟩ := by
  dsimp only [programs]
  rw [processMessage_assign]
  dsimp only
  rw [moduleAssignId_eq hmod, if_neg hname]
  rfl

theorem reaction_assign (hmod : w.pyConnectModule = some m) {i : UInt8} {body : List UInt8}
    (hname : carriedName body = m.name) {r : Reaction PyConnectWrapper}
    (hr : (programs b host port).processInput .wrapper w cAddr
      (header .moduleAssignId serverID :: i :: body) = some r) :
    r.program.pyConnectModule = some m ∧
      (∃ info, r.program.serverMap[serverID % 16]? = some info ∧ info.assignedModuleID = i.toNat) ∧
      ∃ expose desc, r.dispatches =
        [(header .attrMetdExpose (serverID % 16) :: toByte i.toNat :: expose, false),
          (header .attrMetdDesc (serverID % 16) :: toByte i.toNat :: desc, false)] := by
  dsimp only [programs] at hr
  rw [processMessage_assign] at hr
  dsimp only at hr
  rw [moduleAssignId_eq hmod, if_pos hname, moduleAssigned_eq b hmod] at hr
  obtain ⟨hstray, rfl⟩ := of_wrapperReaction hr
  obtain ⟨expose, hexpose⟩ := data_of_written
    (p := attrMetdPacket b.host m (serverID % 16) i.toNat) rfl
    (Int.le_of_lt (attrMetdPacket_size b.host m (serverID % 16) i.toNat))
  obtain ⟨desc, hdesc⟩ := data_of_written
    (p := attrMetdDescPacket m (serverID % 16) i.toNat) rfl
    (Int.le_of_lt (attrMetdDescPacket_size m (serverID % 16) i.toNat))
  refine ⟨(assignEntry_module w _ _).trans hmod, assignEntry_get w _ _, expose, desc, ?_⟩
  dsimp only at hstray ⊢
  rw [List.mem_cons, not_or] at hstray
  rw [wrapper_send _ hstray.2, wrapper_send _ fun h => hstray.2 (List.mem_cons_of_mem _ h), hexpose,
    hdesc]
  rfl

theorem unpackString_named (c : Cursor) :
    0 ∉ (unpackString false c).1 ∧ (unpackString false c).1.length ≤ 255 := by
  have hlt := (byte c).1.toNat_lt
  rw [unpackString, if_neg Bool.false_ne_true, bind_apply, bind_apply]
  dsimp only [pure_apply]
  split
  · exact ⟨List.not_mem_nil, Nat.zero_le _⟩
  · refine ⟨not_mem_cString _, ?_⟩
    have hle := (List.takeWhile_sublist (· ≠ (0 : UInt8))
      (l := (bytes (byte c).1.toNat (byte c).2).1)).length_le
    refine hle.trans ?_
    simp only [bytes, List.length_append, List.length_take, List.length_replicate]
    omega

theorem carriedName_assign (b : Build) (m : PyConnectModule) :
    carriedName (packString (declaredName b m) false ++ [msgEnd]) = declaredName b m := by
  obtain ⟨h0, hl⟩ := unpackString_named (byte ⟨declareBody b m, 0, 0⟩).2
  have hdecode := decodes_packString_name hl h0 [msgEnd] 0 0
  rw [carriedName, declaredName, startAt, hdecode]

theorem declaredName_eq (b : Build) (h0 : 0 ∉ m.name) (hl : m.name.length ≤ 255) :
    declaredName b m = m.name := by
  have hdecode := decodes_packString_name hl h0 (packString m.desc true ++ [msgEnd]) 0 0
  have hbyte := byte_cons (if b.clang then 1 else 0)
    (packString m.name false ++ (packString m.desc true ++ [msgEnd]))
  rw [startAt] at hbyte
  rw [declaredName, declareBody, List.append_assoc, hbyte, startAt, hdecode]

theorem announcement_wrapper (hmod : w.pyConnectModule = some m)
    (h : data ∈ (programs b host port).announcements .wrapper w) : data = declareData b m 0 := by
  dsimp only [programs] at h
  rw [declarePyConnectModule, hmod] at h
  dsimp only at h
  rw [Wrapper.send] at h
  split at h
  · rw [declarePacket_data] at h
    exact List.mem_singleton.mp h
  · cases h

end PyConnect.Handshake

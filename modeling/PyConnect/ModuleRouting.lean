import PyConnect.StubMessage
import PyConnect.WrapperInput
import Mathlib.Algebra.Order.BigOperators.Group.List

namespace PyConnect.ModuleRouting

open Bytes Decoding Common Values Stub StubInput StubMessage Wrapper

variable {host : Host} {s : PyConnectStub} {b : Build} {w : PyConnectWrapper} {serverId k : Int}
  {data : List UInt8}

/-- The ids that addNewModule hands out. -/
structure ModuleIds (s : PyConnectStub) : Prop where
  nodup : (s.modules.map (·.id)).Nodup
  range : ∀ obj ∈ s.modules, 1 ≤ obj.id ∧ obj.id ≤ 255

/-- The messages about itself that a module sends to a server. The callers of
sendAttrMetdResponse pass it the length of what they pass. -/
inductive Sends (b : Build) (w : PyConnectWrapper) (serverId : Int) : List UInt8 → Prop
  | expose {msg} : .dispatch msg false ∈ (declareModuleAttrMetd b w serverId).2 →
      Sends b w serverId msg
  | describe {msg} : .dispatch msg false ∈ (declareModuleAttrMetdDesc w serverId).2 →
      Sends b w serverId msg
  | respond {msg} (msgType : PyConnectMsg) (err index length : Int) (value : List UInt8) :
      msgType = .attrMetdResp ∨ msgType = .attrValueUpdate → 0 ≤ length →
      .dispatch msg false ∈ (sendAttrMetdResponse b w err index length value serverId msgType).2 →
      Sends b w serverId msg
  | shutdown (info : ServerInfo) : w.serverMap[serverId]? = some info →
      .dispatch [header .moduleShutdown serverId, toByte info.assignedModuleID, msgEnd] false ∈
        (moduleShutdown w).2 →
      Sends b w serverId [header .moduleShutdown serverId, toByte info.assignedModuleID, msgEnd]

/-- processInput acted on the registered object with this id, and the others
are what and where they were. -/
def Routed (s : PyConnectStub) (k : Int) (o : Outcome) : Prop :=
  o.pPyModule = some k ∧ o.stub.modules.filter (·.id ≠ k) = s.modules.filter (·.id ≠ k)

theorem dataLength_nonneg (host : Host) (v : Value) (status : PyConnectMsgStatus) :
    0 ≤ (setData host v status).dataLength := by
  cases v with
  | string str =>
      rw [setData, setString]
      split
      · exact Int.le_refl 0
      · exact Int.add_nonneg (by split <;> simp) (packedIntLen_nonneg _)
  | bool v =>
      rw [setData, setBool]
      split <;> simp
  | int v | float v | double v =>
      rw [setData, setNumber]
      split <;> simp

theorem sum_map_nonneg {α : Type} (xs : List α) (f : α → Int) (h : ∀ x, 0 ≤ f x) :
    0 ≤ (xs.map f).sum := by
  apply List.sum_nonneg
  intro y hy
  obtain ⟨x, _, rfl⟩ := List.mem_map.mp hy
  exact h x

theorem attrMetdPacket_size (host : Host) (m : PyConnectModule) (serverId moduleId : Int) :
    3 ≤ (attrMetdPacket host m serverId moduleId).totalMsgSize := by
  have ha := packedIntLen_nonneg m.attributes.size
  have hm := packedIntLen_nonneg m.methods.size
  have hn := sum_map_nonneg m.attributes.toList (fun x => (x.1.length : Int)) fun _ => by simp
  have hv := sum_map_nonneg m.attributes.toList
    (fun x => (packRawAttrData host x.2.value).dataLength) fun x => dataLength_nonneg host _ _
  have hs := sum_map_nonneg m.methods.toList (fun x => (x.1.length + x.2.args.length : Int))
    fun x => Int.add_nonneg (Int.natCast_nonneg _) (Int.natCast_nonneg _)
  simp only [attrMetdPacket]
  omega

theorem attrMetdDescPacket_size (m : PyConnectModule) (serverId moduleId : Int) :
    3 ≤ (attrMetdDescPacket m serverId moduleId).totalMsgSize := by
  have ha := packedIntLen_nonneg m.attributes.size
  have hm := packedIntLen_nonneg m.methods.size
  have hd := sum_map_nonneg m.attributes.toList
    (fun x => x.2.desc.length + packedIntLen x.2.desc.length)
    fun x => Int.add_nonneg (by simp) (packedIntLen_nonneg _)
  have hs := sum_map_nonneg m.methods.toList
    (fun x => x.2.desc.length + packedIntLen x.2.desc.length)
    fun x => Int.add_nonneg (by simp) (packedIntLen_nonneg _)
  simp only [attrMetdDescPacket]
  omega

theorem data_of_written {p : Packet} {h i : UInt8} {tail : List UInt8}
    (hw : p.written = h :: i :: tail) (hs : 2 ≤ p.totalMsgSize) :
    ∃ tail', p.data = h :: i :: tail' := by
  obtain ⟨n, hn⟩ : ∃ n, p.totalMsgSize.toNat = n + 2 := ⟨p.totalMsgSize.toNat - 2, by omega⟩
  exact ⟨tail.take n, by rw [Packet.data, hw, hn, List.take_succ_cons, List.take_succ_cons]⟩

theorem sends_header {info : ServerInfo} (hw : w.serverMap[serverId]? = some info)
    (h : Sends b w serverId data) :
    ∃ t tail, (ObjectType t ∨ t = .moduleShutdown) ∧
      data = header t serverId :: toByte info.assignedModuleID :: tail := by
  cases h with
  | expose h =>
      rw [declareModuleAttrMetd] at h
      split at h
      · simp at h
      next m _ =>
        rw [serverEntry_eq hw] at h
        replace h := data_of_mem_send h
        have hsize := attrMetdPacket_size b.host m serverId info.assignedModuleID
        obtain ⟨tail, ht⟩ := data_of_written
          (p := attrMetdPacket b.host m serverId info.assignedModuleID) rfl (Int.le_of_lt hsize)
        exact ⟨.attrMetdExpose, tail, .inl trivial, h.trans ht⟩
  | describe h =>
      rw [declareModuleAttrMetdDesc] at h
      split at h
      · simp at h
      next m _ =>
        rw [serverEntry_eq hw] at h
        replace h := data_of_mem_send h
        have hsize := attrMetdDescPacket_size m serverId info.assignedModuleID
        obtain ⟨tail, ht⟩ := data_of_written
          (p := attrMetdDescPacket m serverId info.assignedModuleID) rfl (Int.le_of_lt hsize)
        exact ⟨.attrMetdDesc, tail, .inl trivial, h.trans ht⟩
  | respond msgType err index length value ht hl h =>
      rw [sendAttrMetdResponse, serverEntry_eq hw] at h
      replace h := data_of_mem_send h
      obtain ⟨tail, hd⟩ := data_of_written
        (p := responsePacket b.host msgType serverId info.assignedModuleID err index length value) rfl
        (by have := packedIntLen_nonneg index; simp only [responsePacket]; omega)
      refine ⟨msgType, tail, .inl ?_, h.trans hd⟩
      obtain rfl | rfl := ht <;> exact trivial
  | shutdown info' hi _ =>
      rw [hw] at hi
      obtain rfl := Option.some.inj hi
      exact ⟨.moduleShutdown, _, .inr rfl, rfl⟩

theorem lowNibble_toByte (k : Int) : (lowNibble (toByte k) : Int) = k % 16 := by
  rw [lowNibble_eq, toByte_toNat]
  omega

theorem findModuleByID_id {id : Int} {obj : PyConnectObject} (h : findModuleByID s id = some obj) :
    obj.id = id := by
  have hd := List.find?_some (p := fun x : PyConnectObject => decide (x.id = id)) h
  exact of_decide_eq_true hd

theorem findModuleByID_isSome (hk : k ∈ s.modules.map (·.id)) : (findModuleByID s k).isSome := by
  obtain ⟨obj, hm, rfl⟩ := List.mem_map.mp hk
  rw [findModuleByID, List.find?_isSome]
  exact ⟨obj, hm, by simp⟩

theorem objectInput_routed {id : Int} (t : Option PyConnectMsg) (c : Cursor)
    (hid : (findModuleByID s id).isSome) : Routed s id (objectInput host s id t c) := by
  obtain ⟨obj, ho⟩ := Option.isSome_iff_exists.mp hid
  have hobj : (objectMessage host s.scope obj t c).1.obj.id = id := by
    rw [objectMessage_id s.scope obj t c]
    exact findModuleByID_id ho
  rw [objectInput, ho]
  exact ⟨rfl, update_others hobj hid⟩

theorem shutdownInput_routed {id : Int} (c : Cursor) (hid : (findModuleByID s id).isSome) :
    Routed s id (shutdownInput s id c) := by
  obtain ⟨obj, ho⟩ := Option.isSome_iff_exists.mp hid
  refine ⟨?_, ?_⟩
  · simp [shutdownInput, ho, findModuleByID_id ho]
  · simp only [shutdownInput, deleteModuleByID_modules]
    exact eraseP_others id

/-- Whatever processInput acts on, it is the object that the low four bits of
the id byte name. -/
theorem objectInput_target {id k : Int} {t : Option PyConnectMsg} {c : Cursor}
    (h : (objectInput host s id t c).pPyModule = some k) : id = k := by
  rw [objectInput] at h
  split at h
  · cases h
  · exact Option.some.inj h

theorem shutdownInput_target {id k : Int} {c : Cursor}
    (h : (shutdownInput s id c).pPyModule = some k) : id = k := by
  simp only [shutdownInput, Option.map_eq_some_iff] at h
  obtain ⟨obj, ho, rfl⟩ := h
  exact (findModuleByID_id ho).symm

/-- A module's messages reach its own object exactly when its id fits the four
bits that processInput keeps of it. -/
theorem routed_iff (host : Host) (decrypt : List UInt8 → Option (List UInt8)) (b : Build)
    (s : PyConnectStub) (w : PyConnectWrapper) (serverId k : Int) (info : ServerInfo)
    (data recData : List UInt8) (cAddr : SockAddr) (hids : ModuleIds s)
    (hk : k ∈ s.modules.map (·.id)) (hw : w.serverMap[serverId]? = some info)
    (hinfo : info.assignedModuleID = k) (hm : Sends b w serverId data)
    (hrec : 1 ≤ recData.length) (hdec : decrypt recData = some data) :
    Routed s k (processInput host decrypt s recData cAddr false) ↔ k ≤ 15 := by
  obtain ⟨t, tail, ht, rfl⟩ := sends_header hw hm
  obtain ⟨obj, hobj, rfl⟩ := List.mem_map.mp hk
  have hrange := hids.range obj hobj
  have hfind := findModuleByID_isSome hk
  have hin : processInput host decrypt s recData cAddr false =
      processMessage host s (header t serverId :: toByte info.assignedModuleID :: tail) cAddr := by
    rw [StubInput.processInput_eq, decrypted_eq false hrec hdec]
    rfl
  have hn : (lowNibble (toByte info.assignedModuleID) : Int) = obj.id % 16 := by
    rw [hinfo, lowNibble_toByte]
  rw [hin]
  obtain ht | rfl := ht
  · rw [processMessage_object ht, hn]
    refine ⟨fun h => ?_, fun h => ?_⟩
    · have := objectInput_target h.1
      omega
    · rw [Int.emod_eq_of_lt (by omega) (by omega)]
      exact objectInput_routed _ _ hfind
  · rw [processMessage_shutdown, hn]
    refine ⟨fun h => ?_, fun h => ?_⟩
    · have := shutdownInput_target h.1
      omega
    · rw [Int.emod_eq_of_lt (by omega) (by omega)]
      exact shutdownInput_routed _ hfind

def serverOf (ids : List Int) : PyConnectStub where
  pow := false
  pyConnect := []
  nextObjId := 18
  modules := ids.map fun id => PyConnectObject.create [97] id none 0
  serverID := 1

def moduleOf (id : Int) : PyConnectWrapper :=
  { init [97] [] with serverMap := (∅ : Std.ExtTreeMap Int ServerInfo).insert 1 ⟨id, true⟩ }

theorem sends_shutdown (b : Build) (id : Int) :
    Sends b (moduleOf id) 1 [header .moduleShutdown 1, toByte id, msgEnd] :=
  .shutdown ⟨id, true⟩ (by simp [moduleOf]) (by
    rw [moduleShutdown, List.mem_map]
    exact ⟨(1, ⟨id, true⟩), by simp [moduleOf], rfl⟩)

theorem routed_iff_five : Routed (serverOf [1, 5]) 5 (processInput Host.little some (serverOf [1, 5])
      [header .moduleShutdown 1, toByte 5, msgEnd] ⟨false, 0, []⟩ false) ↔ (5 : Int) ≤ 15 :=
  routed_iff Host.little some ⟨Host.little, false, false⟩ (serverOf [1, 5]) (moduleOf 5) 1 5 ⟨5, true⟩ _
    _ _ ⟨by decide, by decide⟩ (by decide) (by simp [moduleOf]) rfl (sends_shutdown _ 5) (by decide)
    rfl

/-- The shutdown of module 17 takes module 1 away. -/
theorem not_routed_seventeen :
    ModuleIds (serverOf [1, 17]) ∧
      Sends ⟨Host.little, false, false⟩ (moduleOf 17) 1 [header .moduleShutdown 1, toByte 17, msgEnd] ∧
      ¬ Routed (serverOf [1, 17]) 17 (processInput Host.little some (serverOf [1, 17])
        [header .moduleShutdown 1, toByte 17, msgEnd] ⟨false, 0, []⟩ false) ∧
      (processInput Host.little some (serverOf [1, 17])
        [header .moduleShutdown 1, toByte 17, msgEnd] ⟨false, 0, []⟩ false).stub.modules.map (·.id) =
        [17] :=
  ⟨⟨by decide, by decide⟩, sends_shutdown _ 17, fun h => absurd h.1 (by decide), by decide⟩

end PyConnect.ModuleRouting

import PyConnect.WrapperInput
import PyConnect.ModuleRouting
import PyConnect.ValueCodec

namespace PyConnect.WrapperSends

open Bytes Decoding Common Values ValueCodec StubMessage Wrapper WrapperInput ModuleRouting

variable {b : Build} {w : PyConnectWrapper} {m : PyConnectModule} {sid : Int} {info : ServerInfo}

def responseData (host : Host) (t : PyConnectMsg) (sid modId err index length : Int)
    (data : List UInt8) : List UInt8 :=
  (responsePacket host t sid modId err index length data).data

def valueData (host : Host) (t : PyConnectMsg) (sid modId amId : Int) (v : Value)
    (status : PyConnectMsgStatus) : List UInt8 :=
  let ret := setData host v status
  responseData host t sid modId ret.status.code amId ret.dataLength ret.written

theorem responseData_header (host : Host) (t : PyConnectMsg) (sid modId err index : Int)
    {length : Int} (data : List UInt8) (h0 : 0 ≤ length) :
    ∃ tail, responseData host t sid modId err index length data =
      header t sid :: toByte modId :: toByte err :: tail := by
  have hp := packedIntLen_nonneg index
  obtain ⟨n, hn⟩ : ∃ n, (responsePacket host t sid modId err index length data).totalMsgSize.toNat =
      n + 3 := ⟨(responsePacket host t sid modId err index length data).totalMsgSize.toNat - 3, by
    simp only [responsePacket]
    omega⟩
  rw [responseData, Packet.data, hn]
  exact ⟨_, rfl⟩

theorem valueData_header (host : Host) (t : PyConnectMsg) (sid modId amId : Int) (v : Value)
    (status : PyConnectMsgStatus) :
    ∃ tail, valueData host t sid modId amId v status = header t sid :: toByte modId ::
      toByte (setData host v status).status.code :: tail :=
  responseData_header _ _ _ _ _ _ _ (dataLength_nonneg host v status)

theorem setData_length_le (host : Host) (v : Value) (status : PyConnectMsgStatus) :
    (setData host v status).dataLength ≤ 32769 := by
  cases v with
  | string str =>
      rw [setData, setString]
      split
      · simp
      · have hp := packedIntLen_le (if (str.length : Int) > maxStrLength then 0 else str.length)
        have hl : (if (str.length : Int) > maxStrLength then (0 : Int) else str.length) ≤ 32767 := by
          rw [maxStrLength]
          split <;> omega
        dsimp only
        omega
  | bool c =>
      rw [setData, setBool]
      split <;> simp
  | int v | float v | double v =>
      rw [setData, setNumber]
      split <;> simp

theorem send_response (host : Host) (t : PyConnectMsg) (sid modId err index : Int) {length : Int}
    (data : List UInt8) (hl : length ≤ 2147483637) :
    send (responsePacket host t sid modId err index length data) false =
      .dispatch (responseData host t sid modId err index length data) false := by
  have hp := packedIntLen_le index
  apply send_eq
  simp only [responsePacket]
  omega

theorem sendAttrMetdResponse_registered (hw : w.serverMap[sid]? = some info) (err index : Int)
    {length : Int} (data : List UInt8) (t : PyConnectMsg) (hl : length ≤ 2147483637) :
    sendAttrMetdResponse b w err index length data sid t =
      (w, [.dispatch (responseData b.host t sid info.assignedModuleID err index length data)
        false]) := by
  rw [sendAttrMetdResponse, serverEntry_eq hw]
  dsimp only
  rw [send_response _ _ _ _ _ _ _ hl]

theorem postAttrMetdData_registered (hw : w.serverMap[sid]? = some info) (amId : Int) (v : Value)
    (status : PyConnectMsgStatus) (t : PyConnectMsg) :
    postAttrMetdData b w amId v status sid t =
      (w, [.dispatch (valueData b.host t sid info.assignedModuleID amId v status) false]) := by
  have hl := setData_length_le b.host v status
  rw [postAttrMetdData]
  exact sendAttrMetdResponse_registered hw _ _ _ _ (by omega)

def updateEffect (host : Host) (i : Int) (v : Value) (x : Int × ServerInfo) : Effect :=
  .dispatch (valueData host .attrValueUpdate x.1 x.2.assignedModuleID i v .noErrors) false

theorem updateServers_registered (i : Int) (v : Value) (l : List (Int × ServerInfo))
    (hl : ∀ x ∈ l, w.serverMap[x.1]? = some x.2) :
    updateServers b i v l w =
      (w, (l.filter (·.2.attributeUpdate)).map (updateEffect b.host i v)) := by
  induction l with
  | nil => rfl
  | cons x l ih =>
      have hx := hl x List.mem_cons_self
      have hrest := ih fun y hy => hl y (List.mem_cons_of_mem x hy)
      rw [updateServers]
      rw [List.filter_cons]
      by_cases hu : x.2.attributeUpdate = true
      · rw [if_pos hu, if_pos hu, postAttrMetdData_registered hx]
        dsimp only
        rw [hrest]
        rfl
      · rw [if_neg hu, if_neg hu, hrest]

/-- The servers that are told of a change, with their entries. -/
def told (w : PyConnectWrapper) : List (Int × ServerInfo) :=
  w.serverMap.toList.filter (·.2.attributeUpdate)

theorem updateAttribute_registered (hw : w.pyConnectModule = some m) {name : List UInt8}
    (hname : name ∈ m.attributes) (v : Value) :
    updateAttribute b w name v =
      (w, (told w).map (updateEffect b.host (distance m.attributes name) v)) := by
  rw [updateAttribute, hw]
  dsimp only
  rw [if_pos hname]
  exact updateServers_registered _ _ _ fun x hx =>
    Std.ExtTreeMap.mem_toList_iff_getElem?_eq_some.mp hx

theorem mem_assign {name k : List UInt8} {v : Value} :
    k ∈ (m.assign name v).attributes ↔ k ∈ m.attributes := Std.ExtTreeMap.mem_modify

/-- A set writes the member and tells the servers, and touches nothing else. -/
theorem setValue_registered (hw : w.pyConnectModule = some m) {name : List UInt8}
    (hname : name ∈ m.attributes) (v : Value) :
    setValue b w name v = ({ w with pyConnectModule := some (m.assign name v) },
      (told w).map
        (updateEffect b.host (distance (m.assign name v).attributes name) v)) := by
  have hmod : w.pyConnectModule.map (·.assign name v) = some (m.assign name v) := by rw [hw]; rfl
  rw [setValue, hmod]
  exact updateAttribute_registered rfl (mem_assign.mpr hname) v

/-- A server that the wrapper has registered under the id that its message
carries. -/
structure Registered (w : PyConnectWrapper) (m : PyConnectModule) (sid : Int) (idByte : UInt8) :
    Prop where
  module : w.pyConnectModule = some m
  entry : ∃ info, w.serverMap[sid]? = some info ∧ info.assignedModuleID = idByte.toNat

/-- The messages that processInput hands to the module of a registered server. -/
def Directed : PyConnectMsg → Prop
  | .moduleDiscovery | .serverShutdown | .moduleAssignId => False
  | _ => True

/-- processMessage with what is done for a registered server's message left open. -/
def processMessageWith (handle : PyConnectWrapper → PyConnectModule → Int → Option PyConnectMsg →
      Decoder (Call × MesgProcessResult))
    (b : Build) (w : PyConnectWrapper) (message : List UInt8) : Outcome :=
  let (first, c) := byte (startAt message 0)
  let msgType := PyConnectMsg.ofCode (msgTypeOf first)
  let serverId : Int := lowNibble first
  if msgTypeOf first = 0 then ⟨w, .processedFailed, [], c, .noErrors⟩
  else if msgType = some .moduleDiscovery then
    let (w, result, effects) := moduleDiscovery b w serverId
    ⟨w, result, effects, c, .noErrors⟩
  else if msgType = some .serverShutdown then
    let (w, result, effects) := serverShutdown w serverId
    ⟨w, result, effects, c, .noErrors⟩
  else if msgType = some .moduleAssignId then
    let ((w, result, effects), c) := moduleAssignId b w serverId c
    ⟨w, result, effects, c, .noErrors⟩
  else match w.serverMap[serverId]? with
    | none => ⟨w, .processedFailed, [], c, .noErrors⟩
    | some info =>
        let (modId, c) := byte c
        if info.assignedModuleID ≠ modId.toNat then ⟨w, .processedFailed, [], c, .noErrors⟩
        else match w.pyConnectModule with
          | none => ⟨w, .processedOk, [.stray], c, .noErrors⟩
          | some m =>
              let ((call, result), c) := handle w m serverId msgType c
              ⟨call.wrapper, result, call.effects, c, call.status⟩

theorem processMessage_eq (b : Build) (w : PyConnectWrapper) (message : List UInt8) :
    processMessage b w message = processMessageWith (moduleMessage b) b w message := rfl

theorem processMessageWith_registered
    (handle : PyConnectWrapper → PyConnectModule → Int → Option PyConnectMsg →
      Decoder (Call × MesgProcessResult))
    {t : PyConnectMsg} (ht : Directed t) {idByte : UInt8} (hr : Registered w m (sid % 16) idByte)
    (body : List UInt8) :
    processMessageWith handle b w (header t sid :: idByte :: body) =
      let r := handle w m (sid % 16) (some t) (startAt body 0)
      ⟨r.1.1.wrapper, r.1.2, r.1.1.effects, r.2, r.1.1.status⟩ := by
  obtain ⟨info, hinfo, hid⟩ := hr.entry
  obtain ⟨h0, hc⟩ := msgType_header t sid
  have hne : t ≠ .moduleDiscovery ∧ t ≠ .serverShutdown ∧ t ≠ .moduleAssignId := by
    refine ⟨?_, ?_, ?_⟩ <;> rintro rfl <;> exact ht.elim
  rw [processMessageWith, byte_cons]
  dsimp only
  rw [if_neg h0, hc, if_neg (by simpa using hne.1), if_neg (by simpa using hne.2.1),
    if_neg (by simpa using hne.2.2), lowNibble_header, hinfo]
  dsimp only
  rw [byte_cons]
  dsimp only
  rw [if_neg (not_not.mpr hid), hr.module]
  rfl

theorem processMessage_registered {t : PyConnectMsg} (ht : Directed t) {idByte : UInt8}
    (hr : Registered w m (sid % 16) idByte) (body : List UInt8) :
    processMessage b w (header t sid :: idByte :: body) =
      let r := moduleMessage b w m (sid % 16) (some t) (startAt body 0)
      ⟨r.1.1.wrapper, r.1.2, r.1.1.effects, r.2, r.1.1.status⟩ :=
  processMessageWith_registered (moduleMessage b) ht hr body

theorem processInput_decrypted {decrypt : List UInt8 → Option (List UInt8)} {recData data : List UInt8}
    (hrec : 1 ≤ recData.length) (hdec : decrypt recData = some data) :
    processInput b decrypt w recData false = processMessage b w data := by
  rw [processInput_eq, decrypted_eq false hrec hdec]
  rfl

def senderOf (data : List UInt8) : Int := lowNibble (data.headD 0)

def typeOf (data : List UInt8) : Option PyConnectMsg := PyConnectMsg.ofCode (msgTypeOf (data.headD 0))

theorem typeOf_header (t : PyConnectMsg) (sid : Int) (tail : List UInt8) :
    typeOf (header t sid :: tail) = some t := (msgType_header t sid).2

theorem senderOf_header (t : PyConnectMsg) (sid : Int) (tail : List UInt8) :
    senderOf (header t sid :: tail) = sid % 16 := lowNibble_header t sid

theorem senderOf_range (data : List UInt8) : 0 ≤ senderOf data ∧ senderOf data < 16 := by
  rw [senderOf, lowNibble_eq]
  omega

/-- What processInput makes of a message, branch by branch. -/
inductive Processes (b : Build) (w : PyConnectWrapper) (data : List UInt8) :
    PyConnectWrapper → MesgProcessResult → List Effect → Prop
  | refused : typeOf data ≠ some .moduleAssignId → Processes b w data w .processedFailed []
  | discovery : typeOf data = some .moduleDiscovery →
      Processes b w data (moduleDiscovery b w (senderOf data)).1
        (moduleDiscovery b w (senderOf data)).2.1 (moduleDiscovery b w (senderOf data)).2.2
  | serverShutdown : typeOf data = some .serverShutdown →
      Processes b w data (serverShutdown w (senderOf data)).1 .toShutdown
        (serverShutdown w (senderOf data)).2.2
  | assign (r : PyConnectWrapper × MesgProcessResult × List Effect) :
      typeOf data = some .moduleAssignId →
      r = (moduleAssignId b w (senderOf data) (startAt data.tail 0)).1 →
      Processes b w data r.1 .processedOk r.2.2
  | absent : w.pyConnectModule = none → Processes b w data w .processedOk [.stray]
  | served (m : PyConnectModule) (info : ServerInfo) (r : Call × MesgProcessResult) :
      typeOf data ≠ some .moduleAssignId → w.pyConnectModule = some m →
      w.serverMap[senderOf data]? = some info →
      info.assignedModuleID = (data.getD 1 0).toNat →
      r = (moduleMessage b w m (senderOf data) (typeOf data)
        (byte (byte (startAt data 0)).2).2).1 →
      Processes b w data r.1.wrapper r.2 r.1.effects

theorem serverShutdown_result (w : PyConnectWrapper) (sid : Int) :
    (serverShutdown w sid).2.1 = .toShutdown := by
  rw [serverShutdown]
  split <;> rfl

theorem moduleAssignId_result (b : Build) (w : PyConnectWrapper) (sid : Int) (c : Cursor) :
    (moduleAssignId b w sid c).1.2.1 = .processedOk := by
  rw [moduleAssignId, bind_apply, bind_apply, bind_apply]
  cases w.pyConnectModule with
  | none => rfl
  | some m =>
      dsimp only
      split <;> rfl

theorem processMessage_processes (b : Build) (w : PyConnectWrapper) (data : List UInt8) :
    Processes b w data (processMessage b w data).wrapper (processMessage b w data).result
      (processMessage b w data).effects := by
  -- what stands behind the end of an empty message is no type
  obtain rfl | ⟨x, rest, rfl⟩ : data = [] ∨ ∃ x rest, data = x :: rest := by
    cases data with
    | nil => exact .inl rfl
    | cons x rest => exact .inr ⟨x, rest, rfl⟩
  · exact .refused (by decide)
  rw [processMessage, byte_cons]
  dsimp only
  by_cases h0 : msgTypeOf x = 0
  · rw [if_pos h0]
    refine .refused ?_
    rw [typeOf, List.headD_cons, h0]
    decide
  by_cases hdisc : PyConnectMsg.ofCode (msgTypeOf x) = some .moduleDiscovery
  · rw [if_neg h0, if_pos hdisc]
    exact .discovery hdisc
  by_cases hshut : PyConnectMsg.ofCode (msgTypeOf x) = some .serverShutdown
  · have hr := serverShutdown_result w (lowNibble x)
    rw [if_neg h0, if_neg hdisc, if_pos hshut]
    dsimp only
    rw [hr]
    exact .serverShutdown hshut
  by_cases hassign : PyConnectMsg.ofCode (msgTypeOf x) = some .moduleAssignId
  · have hr := moduleAssignId_result b w (lowNibble x) (startAt rest 0)
    rw [if_neg h0, if_neg hdisc, if_neg hshut, if_pos hassign]
    rcases h : moduleAssignId b w (lowNibble x) (startAt rest 0) with ⟨⟨w', result, effects⟩, c⟩
    rw [h] at hr
    obtain rfl : result = .processedOk := hr
    exact Processes.assign (w', .processedOk, effects) hassign
      (congrArg Prod.fst h).symm
  rw [if_neg h0, if_neg hdisc, if_neg hshut, if_neg hassign]
  cases hinfo : w.serverMap[(lowNibble x : Int)]? with
  | none => exact .refused hassign
  | some info =>
      dsimp only
      rcases h : byte (startAt rest 0) with ⟨modId, c⟩
      have hmod : modId = (x :: rest).getD 1 0 := by
        refine (congrArg Prod.fst h).symm.trans ?_
        cases rest <;> rfl
      have hc : c = (byte (byte (startAt (x :: rest) 0)).2).2 := by
        rw [byte_cons]
        exact (congrArg Prod.snd h).symm
      dsimp only
      by_cases hid : info.assignedModuleID ≠ modId.toNat
      · rw [if_pos hid]
        exact .refused hassign
      rw [not_not] at hid
      rw [if_neg (not_not.mpr hid)]
      cases hm : w.pyConnectModule with
      | none => exact .absent hm
      | some m =>
          refine .served m info _ hassign hm hinfo (hid.trans (by rw [hmod])) ?_
          rw [← hc]
          rfl

end PyConnect.WrapperSends

import PyConnect.Wrapper

namespace PyConnect.WrapperInput

open Bytes Decoding Common Values Wrapper

/-- What an accessor does when a message is handed to it. -/
structure Call where
  wrapper : PyConnectWrapper
  effects : List Effect
  status : PyConnectMsgStatus

/-- processInput as a whole. `cursor` is where it stands when it looks for the
end marker. -/
structure Outcome where
  wrapper : PyConnectWrapper
  result : MesgProcessResult
  effects : List Effect
  cursor : Cursor
  status : PyConnectMsgStatus

def validateAttribute (m : PyConnectModule) (attrId : Nat) (attrName : List UInt8) :
    PyConnectMsgStatus :=
  if distance m.attributes attrName ≠ attrId then .indexMismatch else .noErrors

def validateMethod (m : PyConnectModule) (metdId : Nat) (metdName : List UInt8) :
    PyConnectMsgStatus :=
  if distance m.methods metdName ≠ metdId then .indexMismatch else .noErrors

theorem validateAttribute_self {m : PyConnectModule} {index : Nat} {x : List UInt8 × Attribute}
    (hx : m.attributes.toList[index]? = some x) : validateAttribute m index x.1 = .noErrors := by
  rw [validateAttribute, distance_getElem hx]
  simp

theorem validateMethod_self {m : PyConnectModule} {index : Nat} {x : List UInt8 × Method}
    (hx : m.methods.toList[index]? = some x) : validateMethod m index x.1 = .noErrors := by
  rw [validateMethod, distance_getElem hx]
  simp

def getArgs (host : Host) : List DataType → PyConnectMsgStatus →
    Decoder (List Value × PyConnectMsgStatus)
  | [], status => pure ([], status)
  | t :: ts, status => do
      let (v, status) ← getData host t status
      let (vs, status) ← getArgs host ts status
      pure (v :: vs, status)

/-- The arguments that custom_bind binds. Each getData moves the cursor, so the
order in which the compiler evaluates them is the order they are read in. -/
def customBind (b : Build) (params : List DataType) (status : PyConnectMsgStatus) :
    Decoder (List Value × PyConnectMsgStatus) :=
  if b.evalLeftToRight then getArgs b.host params status
  else do
    let (vs, status) ← getArgs b.host params.reverse status
    pure (vs.reverse, status)

/-- s_set_attr_NAME. A read-only attribute has no such function. -/
def setAttrValue (b : Build) (w : PyConnectWrapper) (m : PyConnectModule) (attrId : Nat)
    (name : List UInt8) (attr : Attribute) : Decoder Call :=
  if attr.isWritable then do
    let status := validateAttribute m attrId name
    let (value, status) ← getData b.host attr.value.dataType status
    let (w, effects) := setValue b w name value
    pure ⟨w, effects, status⟩
  else pure ⟨w, [.stray], .noErrors⟩

/-- s_get_attr_NAME. -/
def getAttrValue (b : Build) (w : PyConnectWrapper) (m : PyConnectModule) (attrId : Nat)
    (name : List UInt8) (attr : Attribute) (serverId : Int) : PyConnectWrapper × List Effect :=
  postAttrMetdData b w attrId attr.value (validateAttribute m attrId name) serverId .attrMetdResp

def answerCall (b : Build) (w : PyConnectWrapper) (metdIndex serverId : Int) (metd : Method)
    (args : List Value) : PyConnectWrapper × List Effect :=
  let (w, sent) := match metd.body args with
    | .throws => sendAttrMetdResponse b w PyConnectMsgStatus.metdException.code metdIndex 0 []
        serverId .attrMetdResp
    | .returns v =>
        if w.noResponse || metd.isVoid then (w, [])
        else postAttrMetdData b w metdIndex v .noErrors serverId .attrMetdResp
    | .returnsVoid => (w, [])
  if metd.isVoid && !w.noResponse then
    let (w, done) := sendAttrMetdResponse b w PyConnectMsgStatus.noErrors.code metdIndex 0 []
      serverId .attrMetdResp
    (w, sent ++ done)
  else (w, sent)

/-- s_call_fn_NAME. -/
def methodCall (b : Build) (w : PyConnectWrapper) (m : PyConnectModule) (metdId : Nat)
    (name : List UInt8) (metd : Method) (serverId : Int) : Decoder Call := do
  let metdIndex : Int := m.attributes.size + metdId
  let status := validateMethod m metdId name
  if status = .noErrors then
    let (args, status) ← customBind b metd.params status
    let (w, effects) := answerCall b w metdIndex serverId metd args
    pure ⟨w, .invoke name args :: effects, status⟩
  else
    let (w, effects) := sendAttrMetdResponse b w PyConnectMsgStatus.noPyConnectObject.code
      metdIndex 0 [] serverId .attrMetdResp
    pure ⟨w, effects, status⟩

def callAttrMetd (b : Build) (w : PyConnectWrapper) (m : PyConnectModule) (serverId : Int) :
    Decoder Call := do
  let rDataSize ← unpackLEInt b.host.bigEndian
  setRemaining rDataSize
  let attrId ← unpackStrToInt
  if attrId < m.attributes.size then
    match m.attributes.toList[attrId]? with
    | some (name, attr) => setAttrValue b w m attrId name attr
    | none => pure ⟨w, [.stray], .noErrors⟩
  else
    let metdId := attrId - m.attributes.size
    match m.methods.toList[metdId]? with
    | some (name, metd) => methodCall b w m metdId name metd serverId
    | none => pure ⟨w, [.stray], .noErrors⟩

def attrValueUpdate (b : Build) (w : PyConnectWrapper) (m : PyConnectModule) (serverId : Int) :
    Decoder Call := do
  let rDataSize ← unpackLEInt b.host.bigEndian
  setRemaining rDataSize
  let attrId ← unpackStrToInt
  match m.attributes.toList[attrId]? with
  | some (name, attr) =>
      let (w, effects) := getAttrValue b w m attrId name attr serverId
      pure ⟨w, effects, .noErrors⟩
  | none => pure ⟨w, [], .noErrors⟩

def getAttrMetdDesc (b : Build) (w : PyConnectWrapper) (m : PyConnectModule) (serverId : Int) :
    Decoder Call := do
  setRemaining 1
  let attrId ← unpackStrToInt
  let answer (index : Int) (desc : List UInt8) : Call :=
    let (w, effects) := sendAttrMetdResponse b w PyConnectMsgStatus.noErrors.code index desc.length
      desc serverId .attrMetdResp
    ⟨w, effects, .noErrors⟩
  if attrId < m.attributes.size then
    match m.attributes.toList[attrId]? with
    | some (_, attr) => pure (answer attrId attr.desc)
    | none => pure ⟨w, [.stray], .noErrors⟩
  else
    let metdId := attrId - m.attributes.size
    match m.methods.toList[metdId]? with
    | some (_, metd) => pure (answer metdId metd.desc)
    | none => pure ⟨w, [.stray], .noErrors⟩

def moduleDiscovery (b : Build) (w : PyConnectWrapper) (serverId : Int) :
    PyConnectWrapper × MesgProcessResult × List Effect :=
  if serverId ∈ w.serverMap then (w, .toShutdown, [])
  else
    let w := { w with serverMap := w.serverMap.insert serverId ⟨-1, true⟩ }
    (w, .processedOk, declarePyConnectModule b w serverId false)

/-- The disconnect is reported before the entry goes. -/
def serverShutdown (w : PyConnectWrapper) (serverId : Int) :
    PyConnectWrapper × MesgProcessResult × List Effect :=
  if serverId ∈ w.serverMap then
    ({ w with serverMap := w.serverMap.erase serverId }, .toShutdown,
      if w.pyConnectModule.isSome then [.onClientDisconnected serverId] else [.stray])
  else (w, .toShutdown, [])

def assignEntry (w : PyConnectWrapper) (serverId modId : Int) : PyConnectWrapper :=
  match w.serverMap[serverId]? with
  | none => { w with serverMap := w.serverMap.insert serverId ⟨modId, true⟩ }
  | some info =>
      { w with serverMap := w.serverMap.insert serverId { info with assignedModuleID := modId } }

/-- What MODULE_ASSIGN_ID does to the module whose name it carries. -/
def moduleAssigned (b : Build) (w : PyConnectWrapper) (serverId modId : Int) :
    PyConnectWrapper × List Effect :=
  let w := assignEntry w serverId modId
  let (w, exposed) := declareModuleAttrMetd b w serverId
  let (w, described) := declareModuleAttrMetdDesc w serverId
  (w, .onClientConnected serverId :: (exposed ++ described))

theorem assignEntry_module (w : PyConnectWrapper) (serverId modId : Int) :
    (assignEntry w serverId modId).pyConnectModule = w.pyConnectModule := by
  rw [assignEntry]
  split <;> rfl

theorem assignEntry_get (w : PyConnectWrapper) (serverId modId : Int) :
    ∃ info, (assignEntry w serverId modId).serverMap[serverId]? = some info ∧
      info.assignedModuleID = modId := by
  rw [assignEntry]
  split
  · exact ⟨_, Std.ExtTreeMap.getElem?_insert_self, rfl⟩
  · exact ⟨_, Std.ExtTreeMap.getElem?_insert_self, rfl⟩

theorem moduleAssigned_eq (b : Build) {w : PyConnectWrapper} {m : PyConnectModule}
    (hw : w.pyConnectModule = some m) (serverId modId : Int) :
    moduleAssigned b w serverId modId = (assignEntry w serverId modId,
      [.onClientConnected serverId, send (attrMetdPacket b.host m serverId modId) false,
        send (attrMetdDescPacket m serverId modId) false]) := by
  obtain ⟨info, hinfo, rfl⟩ := assignEntry_get w serverId modId
  have hmod := (assignEntry_module w serverId info.assignedModuleID).trans hw
  have hentry := serverEntry_eq hinfo
  rw [moduleAssigned]
  dsimp only
  rw [declareModuleAttrMetd, hmod]
  dsimp only
  rw [hentry]
  dsimp only
  rw [declareModuleAttrMetdDesc, hmod]
  dsimp only
  rw [hentry]
  rfl

def moduleAssignId (b : Build) (w : PyConnectWrapper) (serverId : Int) :
    Decoder (PyConnectWrapper × MesgProcessResult × List Effect) := do
  let modId ← byte
  setRemaining 0
  let mName ← unpackString false
  match w.pyConnectModule with
  | none => pure (w, .processedOk, [.stray])
  | some m =>
      if mName = m.name then
        let (w, effects) := moduleAssigned b w serverId modId.toNat
        pure (w, .processedOk, effects)
      else pure (w, .processedOk, [])

/-- The messages to a registered module, after its id byte has matched. -/
def moduleMessage (b : Build) (w : PyConnectWrapper) (m : PyConnectModule) (serverId : Int) :
    Option PyConnectMsg → Decoder (Call × MesgProcessResult)
  | some .callAttrMetd => do
      let r ← callAttrMetd b { w with noResponse := false } m serverId
      pure ({ r with wrapper.noResponse := false }, .processedOk)
  | some .callAttrMetdNocb => do
      let r ← callAttrMetd b { w with noResponse := true } m serverId
      pure ({ r with wrapper.noResponse := false }, .processedOk)
  | some .attrValueUpdate => do
      let r ← attrValueUpdate b w m serverId
      pure (r, .processedOk)
  | some .getAttrMetdDesc => do
      let r ← getAttrMetdDesc b w m serverId
      pure (r, .processedOk)
  | _ => pure (⟨w, [], .noErrors⟩, .processedFailed)

/-- processInput from the decrypted message on. -/
def processMessage (b : Build) (w : PyConnectWrapper) (message : List UInt8) : Outcome :=
  let (first, c) := byte (startAt message 0)
  let msgType := PyConnectMsg.ofCode (msgTypeOf first)
  let serverId : Int := lowNibble first
  if msgTypeOf first = 0 then ⟨w, .processedFailed, [], c, .noErrors⟩
  else if msgType = some .moduleDiscovery then
    let (w, result, effects) := moduleDiscovery b w serverId
    ⟨w, result, effects, c, .noErrors⟩
  else if msgType = some .serverShutdown then
    let (w, result, effects) := serverShutdown w serverId
    ⟨w, result, effects, c, .noErrors⟩
  else if msgType = some .moduleAssignId then
    let ((w, result, effects), c) := moduleAssignId b w serverId c
    ⟨w, result, effects, c, .noErrors⟩
  else match w.serverMap[serverId]? with
    | none => ⟨w, .processedFailed, [], c, .noErrors⟩
    | some info =>
        let (modId, c) := byte c
        if info.assignedModuleID ≠ modId.toNat then ⟨w, .processedFailed, [], c, .noErrors⟩
        else match w.pyConnectModule with
          | none => ⟨w, .processedOk, [.stray], c, .noErrors⟩
          | some m =>
              let ((call, result), c) := moduleMessage b w m serverId msgType c
              ⟨call.wrapper, result, call.effects, c, call.status⟩

/-- PyConnectWrapper::processInput. `decrypt` is decryptMessage. -/
def processInput (b : Build) (decrypt : List UInt8 → Option (List UInt8)) (w : PyConnectWrapper)
    (recData : List UInt8) (skipdecrypt : Bool) : Outcome :=
  let failed : Outcome := ⟨w, .processedFailed, [], startAt [] 0, .noErrors⟩
  if recData.length < 1 then failed
  else if skipdecrypt then processMessage b w recData
  else match decrypt recData with
    | none => failed
    | some message => processMessage b w message

theorem processInput_eq (b : Build) (decrypt : List UInt8 → Option (List UInt8))
    (w : PyConnectWrapper) (recData : List UInt8) (skipdecrypt : Bool) :
    processInput b decrypt w recData skipdecrypt =
      (decrypted decrypt recData skipdecrypt).elim ⟨w, .processedFailed, [], startAt [] 0, .noErrors⟩
        (processMessage b w) := by
  rw [processInput, decrypted]
  split
  · rfl
  · split
    · rfl
    · cases decrypt recData <;> rfl

end PyConnect.WrapperInput

import PyConnect.Stub

namespace PyConnect.StubInput

open Bytes Decoding Common Values Stub

/-- processInput as a whole. `pPyModule` is the id of the registered object
that it acts on, if any. -/
structure Outcome where
  stub : PyConnectStub
  result : MesgProcessResult
  effects : List Effect
  pPyModule : Option Int
  cursor : Cursor
  deriving DecidableEq, Repr

/-- What a message to a registered object does to it, and whether the switch
knows the message. -/
structure Handled where
  obj : PyConnectObject
  effects : List Effect
  known : Bool

/-- The header of a response or update: error code, length and index. -/
def responseHeader (host : Host) : Decoder (Nat × Nat) := do
  let err ← byte
  let datalen ← unpackLEInt host.bigEndian
  setRemaining datalen
  let amind ← unpackStrToInt
  pure (amind, lowNibble err)

/-- Whether one of the values that an object has been given is NULL. -/
def nullAdded (obj obj' : PyConnectObject) : Bool :=
  (obj'.pPyAttrs.drop obj.pPyAttrs.length).any (·.value = .null)

/-- The switch on the type of a message for a registered object. -/
def objectMessage (host : Host) (scope : CallbackScope) (obj : PyConnectObject) :
    Option PyConnectMsg → Decoder Handled
  | some .attrMetdExpose => do
      let obj' ← attrMetdExpose host obj
      -- addNewAttribute puts each value into the object's dictionary
      pure ⟨obj', if nullAdded obj obj' then [.crash]
        else invoke scope (text "onModuleCreated") [.connectObject obj'.id], true⟩
  | some .attrMetdResp => do
      let (amind, err) ← responseHeader host
      let (obj, effects) ← obj.onSetAttrMetdResp host amind err
      pure ⟨obj, effects, true⟩
  | some .attrValueUpdate => do
      let (amind, err) ← responseHeader host
      let (obj, effects) ← obj.onGetAttrResp host amind err
      pure ⟨obj, effects, true⟩
  | some .attrMetdDesc => do
      let d ← obj.onSetAttrMetdDesc
      pure ⟨d.obj, if d.stray then [.stray] else [], true⟩
  | _ => pure ⟨obj, [], false⟩

theorem nullAdded_append {obj obj' : PyConnectObject} {added : List PyConnectAttribute}
    (h : obj'.pPyAttrs = obj.pPyAttrs ++ added) :
    nullAdded obj obj' = added.any (·.value = .null) := by
  rw [nullAdded, h, List.drop_left]

theorem forall_onSetAttrMetdResp {P : Effect → Prop} (host : Host) (obj : PyConnectObject)
    (index err : Nat) (hcall : ∀ fnName arg, P (.invokeCallback (.object obj.id) fnName arg))
    (hcrash : P .crash) : Yields (obj.onSetAttrMetdResp host index err) fun x => ∀ e ∈ x.2, P e := by
  have hinvoke : ∀ (obj' : PyConnectObject) fnName arg,
      Yields (pure (obj', obj.invoke fnName arg)) fun x => ∀ e ∈ x.2, P e :=
    fun _ fnName arg => .pure (forall_invoke arg (hcall fnName) hcrash)
  rw [PyConnectObject.onSetAttrMetdResp]
  split
  · split
    · exact hinvoke _ _ _
    · exact .after fun _ => hinvoke _ _ _
  · split
    · split
      · exact hinvoke _ _ _
      · refine .after fun retVal => ?_
        split
        · exact .pure (List.forall_mem_singleton.mpr hcrash)
        · exact hinvoke _ _ _
    · exact hinvoke _ _ _

theorem forall_onGetAttrResp {P : Effect → Prop} (host : Host) (obj : PyConnectObject)
    (index err : Nat) (hcall : ∀ fnName arg, P (.invokeCallback (.object obj.id) fnName arg))
    (hcrash : P .crash) : Yields (obj.onGetAttrResp host index err) fun x => ∀ e ∈ x.2, P e := by
  have hinvoke : ∀ (obj' : PyConnectObject) fnName arg,
      Yields (pure (obj', obj.invoke fnName arg)) fun x => ∀ e ∈ x.2, P e :=
    fun _ fnName arg => .pure (forall_invoke arg (hcall fnName) hcrash)
  rw [PyConnectObject.onGetAttrResp]
  split
  · split
    · exact hinvoke _ _ _
    · exact .after fun _ => hinvoke _ _ _
  · exact hinvoke _ _ _

/-- What holds of callbacks, and of the two ways in which a message is one too
many, holds of all that comes of a message to an object. -/
theorem forall_objectMessage {P : Effect → Prop} (host : Host) (scope : CallbackScope)
    (obj : PyConnectObject) (t : Option PyConnectMsg)
    (hscript : ∀ fnName arg, P (.invokeCallback scope fnName arg))
    (hobject : ∀ fnName arg, P (.invokeCallback (.object obj.id) fnName arg)) (hstray : P .stray)
    (hcrash : P .crash) : Yields (objectMessage host scope obj t) fun h => ∀ e ∈ h.effects, P e := by
  rw [objectMessage.eq_def]
  split
  · refine .after fun obj' => .pure ?_
    dsimp only
    split
    · exact List.forall_mem_singleton.mpr hcrash
    · exact forall_invoke _ (hscript _) hcrash
  · exact .after fun x => (forall_onSetAttrMetdResp host obj x.1 x.2 hobject hcrash).bind
      fun _ h => .pure h
  · exact .after fun x => (forall_onGetAttrResp host obj x.1 x.2 hobject hcrash).bind
      fun _ h => .pure h
  · refine .after fun d => .pure ?_
    dsimp only
    split
    · exact List.forall_mem_singleton.mpr hstray
    · exact fun e he => absurd he List.not_mem_nil
  · exact .pure fun e he => absurd he List.not_mem_nil

theorem objectMessage_expose (host : Host) (scope : CallbackScope) (obj : PyConnectObject)
    (c : Cursor) :
    (objectMessage host scope obj (some .attrMetdExpose) c).1.obj = (attrMetdExpose host obj c).1 :=
  rfl

/-- The registered object behind a pointer is replaced by its new state. -/
def PyConnectStub.update (s : PyConnectStub) (id : Int) (obj : PyConnectObject) : PyConnectStub :=
  { s with modules := s.modules.modify (s.modules.findIdx (·.id = id)) fun _ => obj }

def moduleDeclare (s : PyConnectStub) (cAddr : SockAddr) :
    Decoder (PyConnectStub × MesgProcessResult × List Effect × Option Int) := do
  let modOpt ← byte
  let mName ← unpackString false
  match findModuleByName s mName with
  | none =>
      let mDesc ← unpackString true
      let (s', effects) := addNewModule s mName mDesc modOpt cAddr
      pure (s', .processedOk, effects, none)
  | some obj => pure (s, .toShutdown, [], some obj.id)

def peerServerMsg (s : PyConnectStub) (first : UInt8) : Decoder (List Effect) := do
  let peerMsg ← unpackString true
  pure (locked (invoke s.scope (text "onPeerMessage")
    [.int (lowNibble first), unicodeFromString peerMsg]))

def declareInput (s : PyConnectStub) (cAddr : SockAddr) (c : Cursor) : Outcome :=
  let ((s, result, effects, found), c) := moduleDeclare s cAddr c
  ⟨s, result, effects, found, c⟩

def shutdownInput (s : PyConnectStub) (moduleId : Int) (c : Cursor) : Outcome :=
  let found := (findModuleByID s moduleId).map (·.id)
  let (s, effects) := deleteModuleByID s moduleId
  ⟨s, .toShutdown, effects, found, c⟩

/-- The default branch of the switch returns with the lock held. -/
def objectInput (host : Host) (s : PyConnectStub) (moduleId : Int) (msgType : Option PyConnectMsg)
    (c : Cursor) : Outcome :=
  match findModuleByID s moduleId with
  | none => ⟨s, .processedFailed, [], none, c⟩
  | some obj =>
      let (handled, c) := objectMessage host s.scope obj msgType c
      ⟨PyConnectStub.update s moduleId handled.obj,
        if handled.known then .processedOk else .processedFailed,
        if handled.known then locked handled.effects else .gilEnsure :: handled.effects,
        some moduleId, c⟩

/-- processInput from the decrypted message on. -/
def processMessage (host : Host) (s : PyConnectStub) (message : List UInt8) (cAddr : SockAddr) :
    Outcome :=
  let (first, c) := byte (startAt message 0)
  let msgType := PyConnectMsg.ofCode (msgTypeOf first)
  if msgTypeOf first = 0 then ⟨s, .processedFailed, [], none, c⟩
  else if msgType = some .moduleDeclare then declareInput s cAddr c
  else if msgType = some .moduleShutdown then
    let (idByte, c) := byte c
    shutdownInput s (lowNibble idByte) c
  else if msgType = some .peerServerMsg then
    let (effects, c) := peerServerMsg s first c
    ⟨s, .processedOk, effects, none, c⟩
  else if msgType = some .peerServerDiscovery then ⟨s, .processedOk, [], none, c⟩
  else
    let (idByte, c) := byte c
    objectInput host s (lowNibble idByte) msgType c

/-- PyConnectStub::processInput. `decrypt` is decryptMessage. -/
def processInput (host : Host) (decrypt : List UInt8 → Option (List UInt8)) (s : PyConnectStub)
    (recData : List UInt8) (cAddr : SockAddr) (skipdecrypt : Bool) : Outcome :=
  let failed : Outcome := ⟨s, .processedFailed, [], none, startAt [] 0⟩
  if recData.length < 1 then failed
  else if skipdecrypt then processMessage host s recData cAddr
  else match decrypt recData with
    | none => failed
    | some message => processMessage host s message cAddr

theorem processInput_eq (host : Host) (decrypt : List UInt8 → Option (List UInt8))
    (s : PyConnectStub) (recData : List UInt8) (cAddr : SockAddr) (skipdecrypt : Bool) :
    processInput host decrypt s recData cAddr skipdecrypt =
      (decrypted decrypt recData skipdecrypt).elim ⟨s, .processedFailed, [], none, startAt [] 0⟩
        (fun message => processMessage host s message cAddr) := by
  rw [processInput, decrypted]
  split
  · rfl
  · split
    · rfl
    · cases decrypt recData <;> rfl

end PyConnect.StubInput

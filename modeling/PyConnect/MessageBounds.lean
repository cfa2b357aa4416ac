import PyConnect.CallSize
import PyConnect.Handshake
import PyConnect.WrapperSends

namespace PyConnect.MessageBounds

open Decoding Common Values Extents MessageSize CallSize Stub StubInput WrapperSends

/-- Where processInput stands when it returns: at the end of its switch it has
read the end marker. -/
def finish (switched : Bool) (result : MesgProcessResult) (c : Cursor) : Cursor :=
  if switched = true ∧ result = .processedOk then (byte c).2 else c

theorem finish_early {switched : Bool} {result : MesgProcessResult}
    (h : switched = false ∨ result ≠ .processedOk) (c : Cursor) : finish switched result c = c := by
  rw [finish, if_neg]
  rintro ⟨hs, hr⟩
  rcases h with h | h
  · exact Bool.noConfusion (h.symm.trans hs)
  · exact h hr

theorem follows_endMarker (switched : Bool) (c : Cursor) :
    Follows c ((), finish switched (if switched then .processedOk else .processedFailed) c)
      (endMarker switched) fun _ _ => () := by
  cases switched with
  | true => exact ⟨rfl, (spans_byte c).moved⟩
  | false => exact ⟨rfl, .still rfl rfl⟩

theorem inVectors_addNewModule (s : PyConnectStub) {name : List UInt8} (hl : name.length ≤ 255)
    (desc : List UInt8) (options : UInt8) (cAddr : SockAddr) :
    inVectors (addNewModule s name desc options cAddr).2 = true := by
  have hsend : Stub.send (assignPacket s name s.nextObjId) =
      .dispatch (assignPacket s name s.nextObjId).data false := by
    refine Stub.send_eq ?_
    change (4 : Int) + name.length < 2 ^ 31
    omega
  rw [addNewModule]
  split
  · rfl
  · split
    · rfl
    · split
      · rfl
      · dsimp only
        rw [hsend]
        simp [inVectors]

theorem spans_moduleDeclare (s : PyConnectStub) (cAddr : SockAddr) :
    Spans (moduleDeclare s cAddr) (declaration s) fun x => inVectors x.2.2.1 := by
  have hname : Yields (unpackString false) (·.length ≤ 255) :=
    fun c => (Handshake.unpackString_named c).2
  refine spans_byte.bind fun modOpt => (spans_unpackString false).bindOf hname fun mName hl => ?_
  dsimp only [id]
  cases findModuleByName s mName with
  | none =>
      refine spans_string.bind fun mDesc c => ?_
      exact ⟨inVectors_addNewModule s hl mDesc modOpt cAddr, .still rfl rfl⟩
  | some obj => exact fun c => ⟨rfl, .still rfl rfl⟩

theorem inVectors_locked (effects : List Effect) : inVectors (locked effects) = inVectors effects := by
  rw [locked]
  split <;> simp [inVectors]

theorem inVectors_invoke (scope : CallbackScope) (fnName : List UInt8) (arg : List PyObject) :
    inVectors (Stub.invoke scope fnName arg) = true :=
  decide_eq_true fun h => forall_invoke (P := (· ≠ .stray)) arg (fun _ => nofun) nofun _ h rfl

theorem inVectors_deleteModuleByID (s : PyConnectStub) (id : Int) :
    inVectors (deleteModuleByID s id).2 = true := by
  rw [deleteModuleByID]
  split
  · rfl
  · rw [inVectors_locked, inVectors_invoke]

theorem inVectors_switched (effects : List Effect) (known : Bool) :
    inVectors (if known then locked effects else .gilEnsure :: effects) = inVectors effects := by
  cases known with
  | true => exact inVectors_locked effects
  | false => simp [inVectors]

theorem stub_follows (host : Host) (s : PyConnectStub) (message : List UInt8) (cAddr : SockAddr) :
    let o := processMessage host s message cAddr
    Follows (startAt message 0) (o, finish (stubSwitch (typeOf message)) o.result o.cursor)
      (stubContents s) fun o _ => inVectors o.effects := by
  rw [processMessage, stubContents]
  have htype : typeOf message = PyConnectMsg.ofCode (msgTypeOf (byte (startAt message 0)).1) := rfl
  rw [htype]
  refine Follows.bind (spans_byte (startAt message 0)) ?_
  generalize byte (startAt message 0) = r
  obtain ⟨first, c⟩ := r
  dsimp only [id]
  generalize hm : PyConnectMsg.ofCode (msgTypeOf first) = msgType
  by_cases h0 : msgTypeOf first = 0
  · rw [if_pos h0, if_pos h0, finish_early (.inr MesgProcessResult.noConfusion)]
    exact ⟨rfl, .still rfl rfl⟩
  rw [if_neg h0, if_neg h0]
  by_cases hdeclare : msgType = some .moduleDeclare
  · rw [if_pos hdeclare, if_pos hdeclare, finish_early (.inl (congrArg stubSwitch hdeclare))]
    exact ⟨(spans_moduleDeclare s cAddr c).content, (spans_moduleDeclare s cAddr c).moved⟩
  rw [if_neg hdeclare, if_neg hdeclare]
  by_cases hshutdown : msgType = some .moduleShutdown
  · rw [if_pos hshutdown, if_pos hshutdown, finish_early (.inl (congrArg stubSwitch hshutdown))]
    exact ⟨inVectors_deleteModuleByID s _, (spans_byte c).moved⟩
  rw [if_neg hshutdown, if_neg hshutdown]
  by_cases hpeer : msgType = some .peerServerMsg
  · rw [if_pos hpeer, if_pos hpeer, finish_early (.inl (congrArg stubSwitch hpeer))]
    exact ⟨(inVectors_locked _).trans (inVectors_invoke _ _ _), (spans_unpackString true c).moved⟩
  rw [if_neg hpeer, if_neg hpeer]
  by_cases hdiscovery : msgType = some .peerServerDiscovery
  · rw [if_pos hdiscovery, if_pos hdiscovery, finish_early (.inl (congrArg stubSwitch hdiscovery))]
    exact ⟨rfl, .still rfl rfl⟩
  rw [if_neg hdiscovery, if_neg hdiscovery]
  refine Follows.bind (spans_byte c) ?_
  generalize byte c = r
  obtain ⟨idByte, c⟩ := r
  dsimp only [id]
  rw [objectInput]
  cases findModuleByID s (lowNibble idByte) with
  | none =>
      dsimp only
      rw [finish_early (.inr MesgProcessResult.noConfusion)]
      exact ⟨rfl, .still rfl rfl⟩
  | some obj =>
      dsimp only
      have hknown := known_objectMessage host s.scope obj msgType c
      have hobj := spans_objectMessage host s.scope obj msgType c
      generalize objectMessage host s.scope obj msgType c = r at hknown hobj ⊢
      obtain ⟨handled, c'⟩ := r
      dsimp only at hknown hobj ⊢
      rw [hknown]
      refine Follows.bind hobj ((follows_endMarker (stubSwitch msgType) c').bind ?_)
      exact ⟨inVectors_switched handled.effects _, .still rfl rfl⟩

theorem wrapper_follows (b : Wrapper.Build) {w : Wrapper.PyConnectWrapper}
    {m : Wrapper.PyConnectModule} (hw : w.pyConnectModule = some m) (message : List UInt8) :
    let o := WrapperInput.processMessage b w message
    Follows (startAt message 0) ((), finish (wrapperSwitch (typeOf message)) o.result o.cursor)
      (wrapperContents b w m) fun _ _ => () := by
  rw [WrapperInput.processMessage, wrapperContents]
  have htype : typeOf message = PyConnectMsg.ofCode (msgTypeOf (byte (startAt message 0)).1) := rfl
  rw [htype]
  refine Follows.bind (spans_byte (startAt message 0)) ?_
  generalize byte (startAt message 0) = r
  obtain ⟨first, c⟩ := r
  dsimp only [id]
  generalize PyConnectMsg.ofCode (msgTypeOf first) = msgType
  by_cases h0 : msgTypeOf first = 0
  · rw [if_pos h0, if_pos h0, finish_early (.inr MesgProcessResult.noConfusion)]
    exact ⟨rfl, .still rfl rfl⟩
  rw [if_neg h0, if_neg h0]
  by_cases hdiscovery : msgType = some .moduleDiscovery
  · rw [if_pos hdiscovery, if_pos hdiscovery, finish_early (.inl (congrArg wrapperSwitch hdiscovery))]
    exact ⟨rfl, .still rfl rfl⟩
  rw [if_neg hdiscovery, if_neg hdiscovery]
  by_cases hshutdown : msgType = some .serverShutdown
  · rw [if_pos hshutdown, if_pos hshutdown, finish_early (.inl (congrArg wrapperSwitch hshutdown))]
    exact ⟨rfl, .still rfl rfl⟩
  rw [if_neg hshutdown, if_neg hshutdown]
  by_cases hassign : msgType = some .moduleAssignId
  · rw [if_pos hassign, if_pos hassign, finish_early (.inl (congrArg wrapperSwitch hassign))]
    exact ⟨rfl, (spans_moduleAssignId (lowNibble first) c).moved⟩
  rw [if_neg hassign, if_neg hassign]
  cases w.serverMap[(lowNibble first : Int)]? with
  | none =>
      dsimp only
      rw [finish_early (.inr MesgProcessResult.noConfusion)]
      exact ⟨rfl, .still rfl rfl⟩
  | some info =>
      refine Follows.bind (spans_byte c) ?_
      generalize byte c = r
      obtain ⟨modId, c⟩ := r
      dsimp only [id]
      by_cases hid : info.assignedModuleID ≠ modId.toNat
      · rw [if_pos hid, if_pos hid, finish_early (.inr MesgProcessResult.noConfusion)]
        exact ⟨rfl, .still rfl rfl⟩
      · rw [if_neg hid, if_neg hid, hw]
        have hresult := result_moduleMessage (b := b) (w := w) (m := m) (lowNibble first) msgType c
        have hbody := spans_moduleMessage (b := b) (w := w) (m := m) (lowNibble first) msgType c
        dsimp only
        generalize WrapperInput.moduleMessage b w m (lowNibble first) msgType c = r at hresult hbody ⊢
        obtain ⟨⟨call, result⟩, c'⟩ := r
        dsimp only at hresult hbody ⊢
        rw [hresult]
        exact Follows.bind hbody (follows_endMarker (wrapperSwitch msgType) c')

/-- A message that declares so many bytes is read inside its bounds, or turned
down if it is too short for them. -/
structure Parsed (declared : Nat) (message : List UInt8) (result : MesgProcessResult) (c : Cursor) :
    Prop where
  inside : c.overrun = 0
  rejected : message.length < declared → result = .processedFailed

/-- The server reads no byte beyond the message and uses no index beyond the end
of a vector. -/
structure StubSafe (s : PyConnectStub) (message : List UInt8) (o : Outcome) : Prop where
  parsed : Parsed ((stubContents s).size message) message o.result
    (finish (stubSwitch (typeOf message)) o.result o.cursor)
  indexed : .stray ∉ o.effects

def WrapperSafe (b : Wrapper.Build) (w : Wrapper.PyConnectWrapper) (m : Wrapper.PyConnectModule)
    (message : List UInt8) (o : WrapperInput.Outcome) : Prop :=
  Parsed ((wrapperContents b w m).size message) message o.result
    (finish (wrapperSwitch (typeOf message)) o.result o.cursor)

theorem parsed_iff {α σ : Type} {m : Extent α} {f : σ → Int → α} {message : List UInt8} {x : σ}
    {c : Cursor} (h : Follows (startAt message 0) (x, c) m f) (result : MesgProcessResult) :
    Parsed (m.size message) message result c ↔ m.size message ≤ message.length := by
  have hover := h.moved.overrun
  change c.overrun = 0 + (m.size message - message.length) at hover
  refine ⟨fun hp => ?_, fun hl => ⟨by omega, fun hs => absurd hs (by omega)⟩⟩
  have hinside := hp.inside
  omega

theorem stubSafe_processMessage (host : Host) (s : PyConnectStub) (message : List UInt8)
    (cAddr : SockAddr) :
    StubSafe s message (processMessage host s message cAddr) ↔
      (stubContents s).size message ≤ message.length ∧ (stubContents s).content message = true := by
  have h := stub_follows host s message cAddr
  have hparsed := parsed_iff h (processMessage host s message cAddr).result
  have hindexed : inVectors (processMessage host s message cAddr).effects =
      (stubContents s).content message := h.content
  rw [← hindexed, inVectors, decide_eq_true_eq, ← hparsed]
  exact ⟨fun hsafe => ⟨hsafe.parsed, hsafe.indexed⟩, fun hsafe => ⟨hsafe.1, hsafe.2⟩⟩

/-- Messages are read within their bounds exactly when they are as long as what
they declare and describe no more elements than there are. -/
theorem processInput_safe_iff (host : Host) (b : Wrapper.Build) (decrypt : List UInt8 → Option (List UInt8))
    (s : PyConnectStub) {w : Wrapper.PyConnectWrapper} {m : Wrapper.PyConnectModule}
    (hw : w.pyConnectModule = some m) (cAddr : SockAddr) (skipdecrypt : Bool)
    {recData message : List UInt8} (hrec : 1 ≤ recData.length)
    (hdec : (if skipdecrypt then some recData else decrypt recData) = some message) :
    (StubSafe s message (processInput host decrypt s recData cAddr skipdecrypt) ↔
        (stubContents s).size message ≤ message.length ∧ (stubContents s).content message = true) ∧
      (WrapperSafe b w m message (WrapperInput.processInput b decrypt w recData skipdecrypt) ↔
        (wrapperContents b w m).size message ≤ message.length) := by
  have hstub : processInput host decrypt s recData cAddr skipdecrypt =
      processMessage host s message cAddr := by
    rw [StubInput.processInput_eq, decrypted_eq skipdecrypt hrec hdec]
    rfl
  have hwrapper : WrapperInput.processInput b decrypt w recData skipdecrypt =
      WrapperInput.processMessage b w message := by
    rw [WrapperInput.processInput_eq, decrypted_eq skipdecrypt hrec hdec]
    rfl
  rw [hstub, hwrapper]
  exact ⟨stubSafe_processMessage host s message cAddr, parsed_iff (wrapper_follows b hw message) _⟩

def bare : PyConnectStub := ⟨false, [], 4, [PyConnectObject.create (text "m") 3 none 0], 1⟩

def fresh : Wrapper.PyConnectWrapper := Wrapper.init (text "m") []

theorem processInput_safe_iff_shutdown :
    let message : List UInt8 := [header .moduleShutdown 1, 3]
    (StubSafe bare message (processInput .little some bare message ⟨false, 0, []⟩ false) ↔
        (stubContents bare).size message ≤ message.length ∧
          (stubContents bare).content message = true) ∧
      (WrapperSafe ⟨.little, true, true⟩ fresh ⟨text "m", [], ∅, ∅⟩ message
          (WrapperInput.processInput ⟨.little, true, true⟩ some fresh message false) ↔
        (wrapperContents ⟨.little, true, true⟩ fresh ⟨text "m", [], ∅, ∅⟩).size message ≤
          message.length) :=
  processInput_safe_iff .little ⟨.little, true, true⟩ some bare rfl ⟨false, 0, []⟩ false (by decide) rfl

/-- A header alone, and descriptions of what is not there. -/
theorem not_safe_header :
    let shutdown : List UInt8 := [header .moduleShutdown 1]
    let descriptions : List UInt8 := [header .attrMetdDesc 1, 3, 1, 0, 0, msgEnd]
    let assignment : List UInt8 := [header .moduleAssignId 1]
    ¬ StubSafe bare shutdown (processInput .little some bare shutdown ⟨false, 0, []⟩ false) ∧
      ¬ StubSafe bare descriptions (processInput .little some bare descriptions ⟨false, 0, []⟩ false) ∧
      ¬ WrapperSafe ⟨.little, true, true⟩ fresh ⟨text "m", [], ∅, ∅⟩ assignment
        (WrapperInput.processInput ⟨.little, true, true⟩ some fresh assignment false) := by
  refine ⟨fun h => ?_, fun h => ?_, fun h => ?_⟩
  · exact absurd h.parsed.inside (by decide)
  · exact h.indexed (by decide)
  · exact absurd h.inside (by decide)

end PyConnect.MessageBounds

import PyConnect.StubInput

namespace PyConnect.StubMessage

open Bytes Decoding Common Values Stub StubInput

variable {host : Host} {s : PyConnectStub} {obj : PyConnectObject} {cAddr : SockAddr}

/-- The messages that the switch of processInput hands to an object. -/
def ObjectType : PyConnectMsg → Prop
  | .attrMetdExpose | .attrMetdResp | .attrValueUpdate | .attrMetdDesc => True
  | _ => False

theorem msgType_header (t : PyConnectMsg) (sid : Int) :
    msgTypeOf (header t sid) ≠ 0 ∧ PyConnectMsg.ofCode (msgTypeOf (header t sid)) = some t := by
  rw [msgTypeOf_header, PyConnectMsg.ofCode_code]
  exact ⟨by cases t <;> decide, rfl⟩

theorem processMessage_typed (host : Host) (s : PyConnectStub) (message : List UInt8)
    (cAddr : SockAddr) :
    processMessage host s message cAddr =
      let c := (byte (startAt message 0)).2
      let t := PyConnectMsg.ofCode (msgTypeOf (message.headD 0))
      let id : Int := lowNibble (message.getD 1 0)
      if msgTypeOf (message.headD 0) = 0 then ⟨s, .processedFailed, [], none, c⟩
      else if t = some .moduleDeclare then declareInput s cAddr c
      else if t = some .moduleShutdown then shutdownInput s id (byte c).2
      else if t = some .peerServerMsg then
        ⟨s, .processedOk, (peerServerMsg s (message.headD 0) c).1, none,
          (peerServerMsg s (message.headD 0) c).2⟩
      else if t = some .peerServerDiscovery then ⟨s, .processedOk, [], none, c⟩
      else objectInput host s id t (byte c).2 := by
  have hfirst : (byte (startAt message 0)).1 = message.headD 0 := by cases message <;> rfl
  have hid : (byte (byte (startAt message 0)).2).1 = message.getD 1 0 := by
    rcases message with - | ⟨x, - | ⟨y, rest⟩⟩ <;> rfl
  dsimp only
  rw [← hid, ← hfirst]
  rfl

/-- What holds of the outcome of each branch holds of that of processInput. -/
@[elab_as_elim]
theorem processMessage_cases {motive : Outcome → Prop} (host : Host) (s : PyConnectStub)
    (message : List UInt8) (cAddr : SockAddr)
    (unknown : msgTypeOf (message.headD 0) = 0 →
      motive ⟨s, .processedFailed, [], none, (byte (startAt message 0)).2⟩)
    (declare : PyConnectMsg.ofCode (msgTypeOf (message.headD 0)) = some .moduleDeclare →
      motive (declareInput s cAddr (byte (startAt message 0)).2))
    (shutdown : PyConnectMsg.ofCode (msgTypeOf (message.headD 0)) = some .moduleShutdown →
      ∀ c, motive (shutdownInput s (lowNibble (message.getD 1 0)) c))
    (peer : PyConnectMsg.ofCode (msgTypeOf (message.headD 0)) = some .peerServerMsg →
      motive ⟨s, .processedOk, (peerServerMsg s (message.headD 0) (byte (startAt message 0)).2).1, none,
        (peerServerMsg s (message.headD 0) (byte (startAt message 0)).2).2⟩)
    (discovery : PyConnectMsg.ofCode (msgTypeOf (message.headD 0)) = some .peerServerDiscovery →
      motive ⟨s, .processedOk, [], none, (byte (startAt message 0)).2⟩)
    (object : msgTypeOf (message.headD 0) ≠ 0 →
      PyConnectMsg.ofCode (msgTypeOf (message.headD 0)) ∉
        [some .moduleDeclare, some .moduleShutdown, some .peerServerMsg, some .peerServerDiscovery] →
      ∀ c, motive (objectInput host s (lowNibble (message.getD 1 0))
        (PyConnectMsg.ofCode (msgTypeOf (message.headD 0))) c)) :
    motive (processMessage host s message cAddr) := by
  rw [processMessage_typed]
  dsimp only
  by_cases h0 : msgTypeOf (message.headD 0) = 0
  · rw [if_pos h0]
    exact unknown h0
  rw [if_neg h0]
  by_cases hdeclare : PyConnectMsg.ofCode (msgTypeOf (message.headD 0)) = some .moduleDeclare
  · rw [if_pos hdeclare]
    exact declare hdeclare
  rw [if_neg hdeclare]
  by_cases hshutdown : PyConnectMsg.ofCode (msgTypeOf (message.headD 0)) = some .moduleShutdown
  · rw [if_pos hshutdown]
    exact shutdown hshutdown _
  rw [if_neg hshutdown]
  by_cases hpeer : PyConnectMsg.ofCode (msgTypeOf (message.headD 0)) = some .peerServerMsg
  · rw [if_pos hpeer]
    exact peer hpeer
  rw [if_neg hpeer]
  by_cases hdiscovery : PyConnectMsg.ofCode (msgTypeOf (message.headD 0)) = some .peerServerDiscovery
  · rw [if_pos hdiscovery]
    exact discovery hdiscovery
  rw [if_neg hdiscovery]
  refine object h0 ?_ _
  simp only [List.mem_cons, List.not_mem_nil, or_false, not_or]
  exact ⟨hdeclare, hshutdown, hpeer, hdiscovery⟩

theorem processMessage_declare (sid : Int) (body : List UInt8) :
    processMessage host s (header .moduleDeclare sid :: body) cAddr =
      declareInput s cAddr ⟨body, 0, 0⟩ := by
  obtain ⟨h0, ht⟩ := msgType_header .moduleDeclare sid
  simp [processMessage, byte, startAt, h0, ht]

theorem processMessage_shutdown (sid : Int) (idByte : UInt8) (body : List UInt8) :
    processMessage host s (header .moduleShutdown sid :: idByte :: body) cAddr =
      shutdownInput s (lowNibble idByte) ⟨body, 0, 0⟩ := by
  obtain ⟨h0, ht⟩ := msgType_header .moduleShutdown sid
  simp [processMessage, byte, startAt, h0, ht]

theorem processMessage_object {t : PyConnectMsg} (ht : ObjectType t) (sid : Int) (idByte : UInt8)
    (body : List UInt8) :
    processMessage host s (header t sid :: idByte :: body) cAddr =
      objectInput host s (lowNibble idByte) (some t) ⟨body, 0, 0⟩ := by
  obtain ⟨h0, hc⟩ := msgType_header t sid
  cases t with
  | attrMetdExpose | attrMetdResp | attrValueUpdate | attrMetdDesc =>
      simp [processMessage, byte, startAt, h0, hc]
  | _ => exact ht.elim

def fixed (obj : PyConnectObject) : Int × List UInt8 × Bool :=
  (obj.id, obj.name, obj.argEvalReversed)

theorem exposeAttribute_fixed {k : Int × List UInt8 × Bool} (hk : fixed obj = k) :
    Yields (exposeAttribute host obj) fun x => fixed x = k :=
  .after fun _ => .after fun _ => .after fun _ => .pure hk

theorem exposeMethod_fixed {k : Int × List UInt8 × Bool} (hk : fixed obj = k) :
    Yields (exposeMethod obj) fun x => fixed x = k :=
  .after fun _ => .after fun _ => .after fun _ => .after fun _ => .pure hk

theorem attrMetdExpose_fixed (obj : PyConnectObject) :
    Yields (attrMetdExpose host obj) fun x => fixed x = fixed obj :=
  .after fun n => (Yields.forCount (fun _ _ => exposeAttribute_fixed) 0 n rfl).bind
    fun _ hx => .after fun m => .forCount (fun _ _ => exposeMethod_fixed) 0 m hx

theorem onSetAttrMetdResp_fixed (obj : PyConnectObject) (index err : Nat) :
    Yields (obj.onSetAttrMetdResp host index err) fun x => fixed x.1 = fixed obj := by
  rw [PyConnectObject.onSetAttrMetdResp]
  split
  · split
    · exact .pure rfl
    · exact .after fun _ => .pure rfl
  · split
    · split
      · exact .pure rfl
      · exact .after fun _ => .pure rfl
    · exact .pure rfl

theorem onGetAttrResp_fixed (obj : PyConnectObject) (index err : Nat) :
    Yields (obj.onGetAttrResp host index err) fun x => fixed x.1 = fixed obj := by
  rw [PyConnectObject.onGetAttrResp]
  split
  · split
    · exact .pure rfl
    · exact .after fun _ => .pure rfl
  · exact .pure rfl

theorem describeAttribute_fixed (i : Nat) {d : Described} {k : Int × List UInt8 × Bool}
    (hk : fixed d.obj = k) : Yields (describeAttribute i d) fun d => fixed d.obj = k :=
  .after fun _ => .pure hk

theorem describeMethod_fixed (i : Nat) {d : Described} {k : Int × List UInt8 × Bool}
    (hk : fixed d.obj = k) : Yields (describeMethod i d) fun d => fixed d.obj = k :=
  .after fun _ => .pure hk

theorem onSetAttrMetdDesc_fixed (obj : PyConnectObject) :
    Yields obj.onSetAttrMetdDesc fun d => fixed d.obj = fixed obj :=
  .after fun n => (Yields.forCount (fun i _ => describeAttribute_fixed i) 0 n rfl).bind
    fun _ hd => .after fun m => .forCount (fun i _ => describeMethod_fixed i) 0 m hd

theorem objectMessage_fixed (host : Host) (scope : CallbackScope) (obj : PyConnectObject)
    (t : Option PyConnectMsg) :
    Yields (objectMessage host scope obj t) fun h => fixed h.obj = fixed obj := by
  rw [objectMessage.eq_def]
  split
  · exact (attrMetdExpose_fixed obj).bind fun _ h => .pure h
  · exact .after fun x => (onSetAttrMetdResp_fixed obj x.1 x.2).bind fun _ h => .pure h
  · exact .after fun x => (onGetAttrResp_fixed obj x.1 x.2).bind fun _ h => .pure h
  · exact (onSetAttrMetdDesc_fixed obj).bind fun _ h => .pure h
  · exact .pure rfl

theorem forall_objectInput {P : Effect → Prop} (host : Host) (s : PyConnectStub) (id : Int)
    (t : Option PyConnectMsg) (c : Cursor) (hlock : P .gilEnsure ∧ P .gilRelease)
    (hcall : ∀ scope fnName arg, P (.invokeCallback scope fnName arg)) (hend : P .stray ∧ P .crash) :
    ∀ e ∈ (objectInput host s id t c).effects, P e := by
  rw [objectInput]
  cases findModuleByID s id with
  | none => exact fun e he => absurd he List.not_mem_nil
  | some obj =>
      have hall := forall_objectMessage host s.scope obj t (hcall _) (hcall _) hend.1 hend.2 c
      change ∀ e ∈ if (objectMessage host s.scope obj t c).1.known then _ else _, P e
      split
      · exact forall_locked hlock.1 hlock.2 hall
      · exact List.forall_mem_cons.mpr ⟨hlock.1, hall⟩

theorem objectInput_silent (host : Host) (s : PyConnectStub) (id : Int) (t : Option PyConnectMsg)
    (c : Cursor) (data : List UInt8) (broadcast : Bool) :
    .dispatch data broadcast ∉ (objectInput host s id t c).effects := by
  have hall := forall_objectInput (P := (· ≠ .dispatch data broadcast)) host s id t c ⟨nofun, nofun⟩
    (fun _ _ _ => nofun) ⟨nofun, nofun⟩
  exact fun he => hall _ he rfl

theorem objectMessage_id (scope : CallbackScope) (obj : PyConnectObject) (t : Option PyConnectMsg) :
    Yields (objectMessage host scope obj t) fun h => h.obj.id = obj.id :=
  fun c => congrArg Prod.fst (objectMessage_fixed host scope obj t c)

theorem update_others {id : Int} (hobj : obj.id = id) (hfind : (findModuleByID s id).isSome) :
    (PyConnectStub.update s id obj).modules.filter (·.id ≠ id) = s.modules.filter (·.id ≠ id) := by
  rw [findModuleByID, List.find?_isSome] at hfind
  simp only [PyConnectStub.update]
  generalize s.modules = modules at hfind
  induction modules with
  | nil => rfl
  | cons x xs ih =>
      by_cases hx : x.id = id
      · simp [List.findIdx_cons, hx, hobj]
      · have hxs : ∃ y ∈ xs, decide (y.id = id) = true := by
          obtain ⟨y, hy, he⟩ := hfind
          rcases List.mem_cons.mp hy with rfl | hy
          · exact absurd (of_decide_eq_true he) hx
          · exact ⟨y, hy, he⟩
        simpa [List.findIdx_cons, hx] using ih hxs

theorem deleteModuleByID_modules (id : Int) :
    (deleteModuleByID s id).1.modules = s.modules.eraseP (·.id = id) := by
  rw [deleteModuleByID]
  split
  next h =>
    rw [List.eraseP_of_forall_not]
    intro x hx
    exact (List.find?_eq_none.mp h) x hx
  next => rfl

theorem eraseP_others {modules : List PyConnectObject} (id : Int) :
    (modules.eraseP (·.id = id)).filter (·.id ≠ id) = modules.filter (·.id ≠ id) := by
  induction modules with
  | nil => rfl
  | cons x xs ih =>
      by_cases hx : x.id = id
      · simp [hx]
      · simpa [hx] using ih

end PyConnect.StubMessage

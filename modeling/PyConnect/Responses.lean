import PyConnect.MirrorMessage
import PyConnect.WrapperSends

namespace PyConnect.Responses

open Bytes Decoding Common Values ValueCodec Stub StubInput Wrapper Mirror MirrorMessage
open WrapperSends

/-- What a response or an update tells of an element: its value, that a method
without one is done, or why there is none. -/
inductive Answer
  | value (v : Value)
  | nothing
  | error (err : Nat)

def Answer.Fits (t : PyConnectType) : Answer → Prop
  | value v => v.dataType.pyType = t ∧ v.Portable
  | nothing => t = .pyVoid
  | error err => 1 ≤ err ∧ err ≤ 15

/-- postAttrMetdData where there is a value, sendAttrMetdResponse where there is none. -/
def Answer.post (b : Build) (w : PyConnectWrapper) (index : Int) (serverId : Int)
    (msgType : PyConnectMsg) : Answer → PyConnectWrapper × List Wrapper.Effect
  | value v => postAttrMetdData b w index v .noErrors serverId msgType
  | nothing => sendAttrMetdResponse b w 0 index 0 [] serverId msgType
  | error err => sendAttrMetdResponse b w err index 0 [] serverId msgType

def Answer.arg (host : Host) : Answer → PyObject
  | value v => v.toPy host
  | nothing => .none
  | error err => .int err

def Answer.failed : Answer → Bool
  | error _ => true
  | _ => false

def Answer.err : Answer → Nat
  | error err => err
  | _ => 0

def Answer.data (host : Host) : Answer → List UInt8
  | value v => encode host v
  | _ => []

def Answer.received (host : Host) : Answer → PyObject
  | value v => ValueCodec.received host v
  | answer => answer.arg host

def attributeCallback (msgType : PyConnectMsg) (name : List UInt8) (failed : Bool) : List UInt8 :=
  if msgType = .attrMetdResp then
    if failed then text "onSet" ++ name ++ text "Failed" else text "onSet" ++ name
  else text "on" ++ name ++ (if failed then text "UpdateFailed" else text "Update")

def methodCallback (name : List UInt8) (failed : Bool) : List UInt8 :=
  text "on" ++ name ++ (if failed then text "Failed" else text "Completed")

/-- What an answer with this argument makes of the proxy, and whom it calls back:
the element at the index, the attributes first. -/
def answered (msgType : PyConnectMsg) (obj : PyConnectObject) (index : Nat) (answer : Answer)
    (arg : PyObject) : Option (PyConnectObject × Callback) :=
  match obj.pPyAttrs[index]? with
  | some attr => some (if answer.failed then obj else obj.setValue index arg,
      ⟨attributeCallback msgType attr.name answer.failed, [arg]⟩)
  | none => (obj.pPyMetds[index - obj.pPyAttrs.length]?).map fun metd =>
      (obj, ⟨methodCallback metd.name answer.failed, [arg]⟩)

def elementType (m : PyConnectModule) (index : Nat) : Option PyConnectType :=
  match m.attributes.toList[index]? with
  | some x => some x.2.type
  | none => (m.methods.toList[index - m.attributes.toList.length]?).map (·.2.type)

/-- The messages that tell of the element at an index: responses of any, and
updates of an attribute. -/
def Tells (m : PyConnectModule) (index : Nat) (msgType : PyConnectMsg) : Prop :=
  msgType = .attrMetdResp ∨ msgType = .attrValueUpdate ∧ index < m.attributes.toList.length

/-- One message is sent, it is read up to its end marker, and the proxy and the
callback are those for the answer. -/
def RoundTrips (b : Build) (w : PyConnectWrapper) (serverId : Int) (host : Host) (scope : CallbackScope)
    (obj : PyConnectObject) (msgType : PyConnectMsg) (index : Nat) (answer : Answer) (remaining : Int) :
    Prop :=
  ∃ h i body handled k obj' callback,
    (answer.post b w index serverId msgType).2 = [.dispatch (h :: i :: body) false] ∧
    objectMessage host scope obj (PyConnectMsg.ofCode (msgTypeOf h)) (startAt body remaining) =
      (handled, ⟨[msgEnd], 0, k⟩) ∧
    answered msgType obj index answer (answer.arg host) = some (obj', callback) ∧
    handled.known = true ∧ handled.obj = obj' ∧
    handled.effects = [.invokeCallback (.object obj.id) callback.fnName callback.arg]

variable {b : Build} {w : PyConnectWrapper} {m : PyConnectModule} {host : Host}
  {obj : PyConnectObject} {answer : Answer} {t : PyConnectType} {index : Nat}

def responseBytes (host : Host) (err index : Nat) (data : List UInt8) : List UInt8 :=
  toByte err :: (packLEInt host.bigEndian (data.length + packedIntLen index) ++
    (packIntToStr index ++ (data ++ [msgEnd])))

theorem sendAttrMetdResponse_effects (b : Build) (w : PyConnectWrapper) (err index : Nat)
    {data : List UInt8} (hlen : data.length ≤ 32769) (serverId : Int) (msgType : PyConnectMsg) :
    (sendAttrMetdResponse b w err index data.length data serverId msgType).2 =
      [.dispatch (header msgType serverId :: toByte (w.serverEntry serverId).2.assignedModuleID ::
        responseBytes b.host err index data) false] := by
  have hn := packIntToStr_length index
  have hdata := Packet.data_eq (p := responsePacket b.host msgType serverId
    (w.serverEntry serverId).2.assignedModuleID err index data.length data) (by
      simp only [responsePacket, List.length_cons, List.length_append, List.length_nil, packLEInt,
        packNumber_length, Int.toNat_natCast, List.take_length]
      omega)
  rw [sendAttrMetdResponse]
  dsimp only
  rw [send_response _ _ _ _ _ _ _ (by omega), responseData, hdata]
  simp [responsePacket, responseBytes]

theorem Answer.data_length_le (host : Host) (hfits : answer.Fits t) :
    (answer.data host).length ≤ 32769 := by
  cases answer with
  | value v => exact encode_length_le host (sized_of_portable hfits.2)
  | nothing | error err => exact Nat.zero_le _

theorem Answer.post_effects (b : Build) (w : PyConnectWrapper) (index : Nat) (hfits : answer.Fits t)
    (serverId : Int) (msgType : PyConnectMsg) :
    (answer.post b w index serverId msgType).2 =
      [.dispatch (header msgType serverId :: toByte (w.serverEntry serverId).2.assignedModuleID ::
        responseBytes b.host answer.err index (answer.data b.host)) false] := by
  have hlen := Answer.data_length_le b.host hfits
  have h := sendAttrMetdResponse_effects b w answer.err index hlen serverId msgType
  cases answer with
  | value v =>
      rw [Answer.post, postAttrMetdData, setData_sized b.host (sized_of_portable hfits.2)]
      exact h
  | nothing => exact h
  | error err => exact h

theorem responseHeader_responseBytes (host whost : Host) {err : Nat} (herr : err ≤ 15)
    (hindex : index < 32768) {data : List UInt8} (hlen : data.length ≤ 32769) (overrun : Nat)
    (remaining : Int) :
    responseHeader host ⟨responseBytes whost err index data, overrun, remaining⟩ =
      ((index, err), ⟨data ++ [msgEnd], overrun, data.length⟩) := by
  have hnibble : lowNibble (toByte err) = err := by
    rw [lowNibble_eq, toByte_toNat]
    omega
  have hbyte := decodes_byte (toByte err) (packLEInt whost.bigEndian (data.length + packedIntLen index) ++
    (packIntToStr index ++ (data ++ [msgEnd]))) overrun remaining
  rw [List.singleton_append] at hbyte
  rw [responseHeader, bind_apply, responseBytes, hbyte]
  dsimp only
  rw [hnibble, sizeAndIndex_apply whost.bigEndian host.bigEndian (by rfl) hindex (by omega)]
  rfl

theorem Answer.decodes_data (whost host : Host) (hfits : answer.Fits t) (hok : answer.failed = false) :
    ∃ k, Decodes (unpackStr host t) (answer.data whost) (answer.received host) k := by
  cases answer with
  | value v =>
      obtain ⟨rfl, hv⟩ := hfits
      exact ⟨_, decodes_received whost host (sized_of_portable hv)⟩
  | nothing =>
      obtain rfl : t = .pyVoid := hfits
      exact ⟨0, Decodes.pure PyObject.none⟩
  | error err => cases hok

theorem Answer.err_le (hfits : answer.Fits t) : answer.err ≤ 15 := by
  cases answer with
  | error err => exact hfits.2
  | _ => exact Nat.zero_le _

theorem Answer.err_ne_zero (hfits : answer.Fits t) : answer.err ≠ 0 ↔ answer.failed = true := by
  cases answer with
  | error err => exact iff_of_true (Nat.one_le_iff_ne_zero.mp hfits.1) rfl
  | _ => exact iff_of_false (not_not.mpr rfl) Bool.false_ne_true

theorem Answer.data_failed (hfailed : answer.failed = true) : answer.data host = [] := by
  cases answer with
  | error err => rfl
  | _ => cases hfailed

theorem Answer.received_failed (hfailed : answer.failed = true) :
    answer.received host = .int answer.err := by
  cases answer with
  | error err => rfl
  | _ => cases hfailed

/-- The type by which the proxy reads a value for the element at an index. -/
def proxyType (obj : PyConnectObject) (index : Nat) : Option PyConnectType :=
  match obj.pPyAttrs[index]? with
  | some attr => some attr.type
  | none => (obj.pPyMetds[index - obj.pPyAttrs.length]?).map (·.type)

theorem proxyType_eq (hobj : Mirrors host m obj) (index : Nat) :
    proxyType obj index = elementType m index := by
  rw [proxyType, elementType, hobj.attributes, hobj.methods, List.getElem?_map, List.length_map,
    List.getElem?_mapIdx]
  cases m.attributes.toList[index]? with
  | some x => rfl
  | none =>
      dsimp only [Option.map_none]
      rw [Option.map_map]
      rfl

/-- The callback is called if there is an object for its argument, and the process
ends if there is none. -/
def Reports (obj : PyConnectObject) (callback : Callback) (effects : List Stub.Effect) : Prop :=
  if .null ∈ callback.arg then .crash ∈ effects
  else effects = [.invokeCallback (.object obj.id) callback.fnName callback.arg]

theorem reports_invoke (obj : PyConnectObject) (fnName : List UInt8) (arg : List PyObject) :
    Reports obj ⟨fnName, arg⟩ (obj.invoke fnName arg) := by
  rw [Reports, PyConnectObject.invoke, Stub.invoke]
  split
  · exact List.mem_cons_of_mem _ (List.mem_singleton_self _)
  · rfl

theorem reports_result (obj : PyConnectObject) (fnName : List UInt8) (retVal : PyObject) :
    Reports obj ⟨fnName, [retVal]⟩
      (if retVal = .null then [.crash] else obj.invoke fnName [retVal]) := by
  split
  next h => simp [Reports, h]
  · exact reports_invoke obj fnName [retVal]

/-- An answer has been read to its end, and its element has been told. -/
def Heard (msgType : PyConnectMsg) (obj : PyConnectObject) (index : Nat) (answer : Answer)
    (arg : PyObject) (r : (PyConnectObject × List Stub.Effect) × Cursor) : Prop :=
  ∃ callback k, answered msgType obj index answer arg = some (r.1.1, callback) ∧
    Reports obj callback r.1.2 ∧ r.2 = ⟨[msgEnd], 0, k⟩

theorem Answer.heard_data (host whost : Host) (hfits : answer.Fits t) {msgType : PyConnectMsg}
    {obj' : PyConnectObject} {callback : Callback}
    {rejected : PyConnectObject × List Stub.Effect}
    {done : PyObject → PyConnectObject × List Stub.Effect}
    (hans : answered msgType obj index answer (answer.received host) = some (obj', callback))
    (hrejected : answer.failed = true → rejected.1 = obj' ∧ Reports obj callback rejected.2)
    (hdone : answer.failed = false →
      (done (answer.received host)).1 = obj' ∧ Reports obj callback (done (answer.received host)).2)
    (remaining : Int) :
    Heard msgType obj index answer (answer.received host)
      ((if answer.err ≠ 0 then pure rejected else unpackStr host t >>= fun v => pure (done v))
        ⟨answer.data whost ++ [msgEnd], 0, remaining⟩) := by
  cases hfailed : answer.failed with
  | true =>
      obtain ⟨hobj, hreports⟩ := hrejected hfailed
      rw [if_pos ((Answer.err_ne_zero hfits).mpr hfailed), Answer.data_failed hfailed]
      exact ⟨callback, remaining, hobj ▸ hans, hreports, rfl⟩
  | false =>
      have herr : ¬ answer.err ≠ 0 := by
        rw [Answer.err_ne_zero hfits, hfailed]
        exact Bool.false_ne_true
      obtain ⟨k, hdec⟩ := Answer.decodes_data whost host hfits hfailed
      obtain ⟨hobj, hreports⟩ := hdone hfailed
      rw [if_neg herr, bind_apply, hdec [msgEnd] 0 remaining]
      exact ⟨callback, _, hobj ▸ hans, hreports, rfl⟩

theorem onSetAttrMetdResp_heard (host whost : Host) (hfits : answer.Fits t)
    (ht : proxyType obj index = some t) (remaining : Int) :
    Heard .attrMetdResp obj index answer (answer.received host)
      (obj.onSetAttrMetdResp host index answer.err ⟨answer.data whost ++ [msgEnd], 0, remaining⟩) := by
  rw [PyConnectObject.onSetAttrMetdResp]
  rw [proxyType] at ht
  cases hattr : obj.pPyAttrs[index]? with
  | some attr =>
      rw [hattr] at ht
      obtain rfl := Option.some.inj ht
      refine Answer.heard_data host whost hfits (by rw [answered, hattr]) ?_ ?_ remaining
      · intro hfailed
        rw [Answer.received_failed hfailed, hfailed]
        exact ⟨rfl, reports_invoke obj _ _⟩
      · intro hfailed
        rw [hfailed]
        exact ⟨rfl, reports_invoke obj _ _⟩
  | none =>
      rw [hattr] at ht
      obtain ⟨metd, hmetd, rfl⟩ := Option.map_eq_some_iff.mp ht
      dsimp only
      rw [hmetd]
      refine Answer.heard_data host whost hfits (by rw [answered, hattr, hmetd]; rfl) ?_ ?_ remaining
      · intro hfailed
        rw [Answer.received_failed hfailed, hfailed]
        exact ⟨rfl, reports_invoke obj _ _⟩
      · intro hfailed
        rw [hfailed]
        exact ⟨rfl, reports_result obj _ _⟩

theorem onGetAttrResp_heard (host whost : Host) (hfits : answer.Fits t)
    (ht : proxyType obj index = some t) (hattr : index < obj.pPyAttrs.length) (remaining : Int) :
    Heard .attrValueUpdate obj index answer (answer.received host)
      (obj.onGetAttrResp host index answer.err ⟨answer.data whost ++ [msgEnd], 0, remaining⟩) := by
  rw [PyConnectObject.onGetAttrResp]
  rw [proxyType, List.getElem?_eq_getElem hattr] at ht
  obtain rfl := Option.some.inj ht
  rw [List.getElem?_eq_getElem hattr]
  refine Answer.heard_data host whost hfits
    (by rw [answered, List.getElem?_eq_getElem hattr]) ?_ ?_ remaining
  · intro hfailed
    rw [Answer.received_failed hfailed, hfailed]
    exact ⟨rfl, reports_invoke obj _ _⟩
  · intro hfailed
    rw [hfailed]
    exact ⟨rfl, reports_invoke obj _ _⟩

theorem objectMessage_answer (host whost : Host) (scope : CallbackScope) (hfits : answer.Fits t)
    (ht : proxyType obj index = some t) (hindex : index < 32768) {msgType : PyConnectMsg}
    (htype : msgType = .attrMetdResp ∨ msgType = .attrValueUpdate ∧ index < obj.pPyAttrs.length)
    (remaining : Int) :
    ∃ obj' callback effects k,
      answered msgType obj index answer (answer.received host) = some (obj', callback) ∧
      Reports obj callback effects ∧
      objectMessage host scope obj (some msgType)
        (startAt (responseBytes whost answer.err index (answer.data whost)) remaining) =
          (⟨obj', effects, true⟩, ⟨[msgEnd], 0, k⟩) := by
  have hheader := responseHeader_responseBytes host whost (Answer.err_le hfits) hindex
    (Answer.data_length_le whost hfits) 0 remaining
  obtain rfl | ⟨rfl, hattr⟩ := htype
  · obtain ⟨callback, k, hans, hreports, hcursor⟩ :=
      onSetAttrMetdResp_heard host whost hfits ht (answer.data whost).length
    refine ⟨_, callback, _, k, hans, hreports, ?_⟩
    rw [objectMessage, startAt, bind_apply, hheader]
    dsimp only
    rw [bind_apply, ← hcursor]
    rfl
  · obtain ⟨callback, k, hans, hreports, hcursor⟩ :=
      onGetAttrResp_heard host whost hfits ht hattr (answer.data whost).length
    refine ⟨_, callback, _, k, hans, hreports, ?_⟩
    rw [objectMessage, startAt, bind_apply, hheader]
    dsimp only
    rw [bind_apply, ← hcursor]
    rfl

/-- A text that Python can make an object of; any other answer is. -/
def Answer.Legible : Answer → Prop
  | value v => v.PyPortable
  | _ => True

theorem Answer.arg_ne_null (host : Host) : answer.arg host ≠ .null := by
  cases answer with
  | value v => cases v <;> exact PyObject.noConfusion
  | nothing | error err => exact PyObject.noConfusion

theorem Answer.Legible.received_ne_null (h : answer.Legible) (host : Host) :
    answer.received host ≠ .null := by
  have hreceived : answer.received host = answer.arg host := by
    cases answer with
    | value v => exact received_eq host h
    | nothing | error err => rfl
  rw [hreceived]
  exact Answer.arg_ne_null host

theorem received_eq_iff {v : Value} (hv : v.Portable) :
    ValueCodec.received host v = v.toPy host ↔ ∀ str, v = .string str → validUtf8 str = true := by
  cases v with
  | string str =>
      rw [ValueCodec.received, cString_eq hv.1, unicodeFromString]
      split
      next h => exact ⟨fun _ str' he => Value.string.inj he ▸ h, fun _ => rfl⟩
      next h =>
        refine ⟨fun he => ?_, fun hall => absurd (hall str rfl) h⟩
        cases he
  | int v | float v | double v | bool v => exact ⟨fun _ str he => (by cases he), fun _ => rfl⟩

theorem Answer.received_eq_iff (hfits : answer.Fits t) :
    answer.received host = answer.arg host ↔
      ∀ str, answer = .value (.string str) → validUtf8 str = true := by
  cases answer with
  | value v =>
      refine (Responses.received_eq_iff hfits.2).trans ?_
      exact ⟨fun h str he => h str (Answer.value.inj he), fun h str he => h str (congrArg Answer.value he)⟩
  | nothing | error err => exact ⟨fun _ str he => (by cases he), fun _ => rfl⟩

theorem answered_arg {msgType : PyConnectMsg} {arg : PyObject} {obj' : PyConnectObject}
    {callback : Callback} (h : answered msgType obj index answer arg = some (obj', callback)) :
    callback.arg = [arg] := by
  rw [answered] at h
  cases hattr : obj.pPyAttrs[index]? with
  | some attr =>
      rw [hattr] at h
      obtain ⟨-, rfl⟩ := Prod.mk.inj (Option.some.inj h)
      rfl
  | none =>
      rw [hattr] at h
      obtain ⟨metd, -, he⟩ := Option.map_eq_some_iff.mp h
      obtain ⟨-, rfl⟩ := Prod.mk.inj he
      rfl

/-- The message is read to its end; it does what it should when the value that
the server makes of it is the one that was sent. -/
theorem roundTrips_iff_received (b : Build) (w : PyConnectWrapper) (serverId : Int)
    (scope : CallbackScope) {msgType : PyConnectMsg} (remaining : Int) (hobj : Mirrors host m obj)
    (hindex : index ≤ 32767) (ht : elementType m index = some t) (htells : Tells m index msgType)
    (hfits : answer.Fits t) :
    RoundTrips b w serverId host scope obj msgType index answer remaining ↔
      answer.received host = answer.arg host := by
  have hsent := Answer.post_effects b w index hfits serverId msgType
  have hlen : obj.pPyAttrs.length = m.attributes.toList.length := by
    rw [hobj.attributes, List.length_map]
  have htells' : msgType = .attrMetdResp ∨
      msgType = .attrValueUpdate ∧ index < obj.pPyAttrs.length := by
    rw [hlen]
    exact htells
  obtain ⟨obj', callback, effects, k, hans, hreports, hmsg⟩ := objectMessage_answer host b.host scope
    hfits ((proxyType_eq hobj index).trans ht) (by omega) htells' remaining
  have harg := answered_arg hans
  constructor
  · rintro ⟨h, i, body, handled, k', obj'', callback', hsent', hmsg', hans', -, -, heffects⟩
    rw [hsent'] at hsent
    simp only [List.cons.injEq, Wrapper.Effect.dispatch.injEq, and_true] at hsent
    obtain ⟨rfl, -, rfl⟩ := hsent
    rw [msgTypeOf_header, PyConnectMsg.ofCode_code, hmsg] at hmsg'
    obtain ⟨rfl, -⟩ := Prod.mk.inj hmsg'
    dsimp only at heffects
    rw [Reports, heffects] at hreports
    split at hreports
    · simp at hreports
    · simp only [List.cons.injEq, Stub.Effect.invokeCallback.injEq, and_true, true_and] at hreports
      rw [harg, answered_arg hans', List.cons.injEq] at hreports
      exact hreports.2.1.symm
  · intro hreceived
    have hnull : .null ∉ callback.arg := by
      rw [harg, hreceived, List.mem_singleton]
      exact Ne.symm (Answer.arg_ne_null host)
    rw [Reports, if_neg hnull] at hreports
    rw [hreceived] at hans
    refine ⟨_, _, _, ⟨obj', effects, true⟩, k, obj', callback, hsent, ?_, hans, rfl, rfl, hreports⟩
    rw [msgTypeOf_header, PyConnectMsg.ofCode_code]
    exact hmsg

/-- A response or an update tells a mirror image of an element what there is to
tell, unless that is a string that is not UTF-8. -/
theorem roundTrips_iff (b : Build) (w : PyConnectWrapper) (serverId : Int) (host : Host)
    (scope : CallbackScope) (m : PyConnectModule) (obj : PyConnectObject) (msgType : PyConnectMsg)
    (index : Nat) (t : PyConnectType) (answer : Answer) (remaining : Int) (hobj : Mirrors host m obj)
    (hindex : index ≤ 32767) (ht : elementType m index = some t) (htells : Tells m index msgType)
    (hfits : answer.Fits t) :
    RoundTrips b w serverId host scope obj msgType index answer remaining ↔
      ∀ str, answer = .value (.string str) → validUtf8 str = true :=
  (roundTrips_iff_received b w serverId scope remaining hobj hindex ht htells hfits).trans
    (Answer.received_eq_iff hfits)

def labelled : PyConnectModule :=
  (⟨[108], [], ∅, ∅⟩ : PyConnectModule).addNewAttribute [110] [] (.string [120]) true

def labelledProxy : PyConnectObject :=
  { PyConnectObject.create [108] 1 none 0 with
    pPyAttrs := labelled.attributes.toList.map (mirrorAttribute .little)
    pPyMetds := labelled.methods.toList.mapIdx mirrorMethod }

theorem fits_latin1 : (Answer.value (.string [0xe9])).Fits .string := ⟨rfl, by decide, by decide⟩

theorem roundTrips_iff_ascii :
    RoundTrips ⟨.little, false, false⟩ ⟨some labelled, ∅, false⟩ 3 .little .mainScript labelledProxy
      .attrValueUpdate 0 (.value (.string [120, 121])) 0 :=
  (roundTrips_iff _ _ 3 _ _ labelled labelledProxy _ 0 .string (.value (.string [120, 121])) 0
    ⟨rfl, rfl⟩ (by decide) rfl (.inr ⟨rfl, by decide⟩) ⟨rfl, by decide, by decide⟩).mpr
    fun str he => by
      obtain rfl := Value.string.inj (Answer.value.inj he)
      decide

/-- A text in Latin-1 arrives as no object at all, and ends the process. -/
theorem not_roundTrips_latin1 :
    ¬ RoundTrips ⟨.little, false, false⟩ ⟨some labelled, ∅, false⟩ 3 .little .mainScript
      labelledProxy .attrValueUpdate 0 (.value (.string [0xe9])) 0 := by
  intro h
  have hreceived := (roundTrips_iff_received _ _ 3 _ 0 ⟨rfl, rfl⟩ (by decide) rfl
    (.inr ⟨rfl, by decide⟩) fits_latin1).mp h
  exact absurd hreceived (by decide)

end PyConnect.Responses

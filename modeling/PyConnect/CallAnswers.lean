import PyConnect.CallElements
import PyConnect.Maps

namespace PyConnect.CallAnswers

open Bytes Decoding Common Values Wrapper WrapperInput WrapperSends MethodCall CallElements Mirror

variable {b : Build} {w : PyConnectWrapper} {m : PyConnectModule} {sid : Int} {metd : Method}

def isAnswer : Effect → Bool
  | .dispatch data _ => PyConnectMsg.ofCode (msgTypeOf (data.headD 0)) = some .attrMetdResp
  | _ => false

def answers (effects : List Effect) : Nat := effects.countP isAnswer

@[simp] theorem answers_nil : answers [] = 0 := rfl

@[simp] theorem answers_append (xs ys : List Effect) :
    answers (xs ++ ys) = answers xs + answers ys := List.countP_append

@[simp] theorem answers_invoke (name : List UInt8) (args : List Value) (xs : List Effect) :
    answers (.invoke name args :: xs) = answers xs := List.countP_cons_of_neg Bool.false_ne_true

/-- What a function of this return type can do. -/
def Fits : MethodResult → Option DataType → Prop
  | .returns v, some t => v.dataType = t
  | .returnsVoid, none => True
  | .throws, _ => True
  | _, _ => False

/-- What EXPORT_PYCONNECT_METHOD makes of a function. -/
def Exported (metd : Method) : Prop :=
  ∃ returnType : Option DataType, metd.type = returnType.elim .pyVoid DataType.pyType ∧
    metd.isVoid = returnType.isNone ∧ metd.args = metd.params.map (fun t => ⟨t.pyType, false⟩) ∧
    ∀ args, Fits (metd.body args) returnType

theorem exported_exportMethod {metdName desc : List UInt8} {params : List DataType}
    {returnType : Option DataType} {body : List Value → MethodResult}
    (hm : ∀ x ∈ m.methods.toList, Exported x.2) (hbody : ∀ args, Fits (body args) returnType) :
    ∀ x ∈ (m.exportMethod metdName desc params returnType body).methods.toList, Exported x.2 := by
  intro x hx
  rw [PyConnectModule.exportMethod, PyConnectModule.addNewMethod] at hx
  split at hx
  · exact hm x hx
  · split at hx
    · exact hm x hx
    · have hget : _ = some x.2 := Std.ExtTreeMap.mem_toList_iff_getElem?_eq_some.mp hx
      rw [Maps.get_insert] at hget
      split at hget
      · rw [← Option.some.inj hget]
        exact ⟨returnType, rfl, rfl, rfl, hbody⟩
      · exact hm x (Std.ExtTreeMap.mem_toList_iff_getElem?_eq_some.mpr hget)

/-- Bytes that are read as these arguments, no more and no less of them. -/
structure WellFormed (b : Build) (params : List DataType) (values : List UInt8)
    (args : List Value) : Prop where
  size : values.length ≤ 2147483645
  decodes : DecodesWithin (customBind b params .noErrors) values (args, .noErrors) values.length

theorem wellFormed_packArgs (sender : Host) (b : Build) (xs : List Passing)
    (hx : ∀ x ∈ xs, x.Valid sender) (hlen : xs.length ≤ 15) :
    WellFormed b (xs.map (·.type))
      (StubCall.packArgs sender b.evalLeftToRight (xs.map (·.declared))) (xs.map (·.value)) where
  size := by
    have h := bytes_length_le xs hx
    rw [length_packArgs]
    omega
  decodes := decodes_customBind b xs hx

theorem answers_response {info : ServerInfo} (hw : w.serverMap[sid]? = some info) (err index : Int)
    {length : Int} (h0 : 0 ≤ length) (hl : length ≤ 2147483637) (data : List UInt8) :
    (sendAttrMetdResponse b w err index length data sid .attrMetdResp).1 = w ∧
      answers (sendAttrMetdResponse b w err index length data sid .attrMetdResp).2 = 1 := by
  obtain ⟨tail, hd⟩ := responseData_header b.host .attrMetdResp sid info.assignedModuleID err index
    data h0
  rw [sendAttrMetdResponse_registered hw _ _ _ _ hl, hd]
  refine ⟨rfl, List.countP_eq_length.mpr ?_⟩
  intro e he
  obtain rfl := List.mem_singleton.mp he
  simp only [isAnswer, List.headD_cons, msgTypeOf_header, PyConnectMsg.ofCode_code, decide_true]

theorem answers_value {info : ServerInfo} (hw : w.serverMap[sid]? = some info) (index : Int)
    (v : Value) (status : PyConnectMsgStatus) :
    (postAttrMetdData b w index v status sid .attrMetdResp).1 = w ∧
      answers (postAttrMetdData b w index v status sid .attrMetdResp).2 = 1 := by
  have hl := setData_length_le b.host v status
  exact answers_response hw _ _ (ModuleRouting.dataLength_nonneg b.host v status) (by omega) _

/-- The answers add up to those of the four places that send one: the value,
the exception, and for a void function the completion. -/
theorem answers_answerCall {info : ServerInfo} (hw : w.serverMap[sid]? = some info)
    (hexp : Exported metd) (index : Int) (args : List Value) :
    answers (answerCall b w index sid metd args).2 =
      (if metd.body args = .throws then 1
        else if metd.isVoid = false ∧ w.noResponse = false then 1 else 0) +
        if metd.isVoid = true ∧ w.noResponse = false then 1 else 0 := by
  obtain ⟨returnType, -, hvoid, -, hfits⟩ := hexp
  have hbody := hfits args
  have hexn := answers_response (b := b) hw PyConnectMsgStatus.metdException.code index
    (Int.le_refl 0) (by decide) []
  have hdone := answers_response (b := b) hw PyConnectMsgStatus.noErrors.code index
    (Int.le_refl 0) (by decide) []
  rw [answerCall]
  cases hb : metd.body args with
  | throws =>
      dsimp only
      rw [hexn.1, if_pos rfl]
      cases metd.isVoid <;> cases w.noResponse <;> simp [hexn.2, hdone.2]
  | returns v =>
      cases returnType with
      | none => rw [hb] at hbody; exact hbody.elim
      | some t =>
          have hval := answers_value (b := b) hw index v .noErrors
          rw [hvoid]
          cases w.noResponse <;> simp [hval.2]
  | returnsVoid =>
      cases returnType with
      | some t => rw [hb] at hbody; exact hbody.elim
      | none =>
          rw [hvoid]
          cases hn : w.noResponse <;> simp [hn, hdone.2]

/-- Exactly one answer for a call with callback, none for one without. -/
def OneAnswer (t : PyConnectMsg) (effects : List Effect) : Prop :=
  answers effects = if t = .callAttrMetd then 1 else 0

instance (t : PyConnectMsg) (effects : List Effect) : Decidable (OneAnswer t effects) :=
  inferInstanceAs (Decidable (_ = _))

/-- A call is answered as it should be exactly when the method does not throw,
or it is one that returns a value and the call is with callback. -/
theorem oneAnswer_iff (b : Build) (decrypt : List UInt8 → Option (List UInt8))
    {w : PyConnectWrapper} {m : PyConnectModule} {sid : Int} {idByte : UInt8} {i : Nat}
    {name : List UInt8} {metd : Method} {t : PyConnectMsg} {sender : Host} {values : List UInt8}
    {args : List Value} {recData : List UInt8} (hreg : Registered w m (sid % 16) idByte)
    (hi : m.methods.toList[i]? = some (name, metd)) (hexp : Exported metd)
    (hindex : m.attributes.size + i ≤ 32767) (hargs : WellFormed b metd.params values args)
    (ht : t = .callAttrMetd ∨ t = .callAttrMetdNocb) (hrec : 1 ≤ recData.length)
    (hdec : decrypt recData =
      some (header t sid :: idByte :: callBytes sender (m.attributes.size + i) values)) :
    OneAnswer t (processInput b decrypt w recData false).effects ↔
      metd.body args ≠ .throws ∨ (t = .callAttrMetd ∧ metd.isVoid = false) := by
  obtain ⟨info, hinfo, -⟩ := hreg.entry
  have hdir : Directed t := by obtain rfl | rfl := ht <;> exact trivial
  have hserve : (serving w t).serverMap[sid % 16]? = some info := hinfo
  have hcount := answers_answerCall (b := b) hserve hexp (m.attributes.size + i) args
  have heffects : (processInput b decrypt w recData false).effects =
      .invoke name args ::
        (answerCall b (serving w t) (m.attributes.size + i) (sid % 16) metd args).2 := by
    rw [processInput_decrypted hrec hdec, processMessage_registered hdir hreg]
    dsimp only
    rw [moduleMessage_element ht]
    dsimp only [startAt]
    rw [callAttrMetd_callBytes (by omega) hargs.size, callElement_method hi]
    obtain ⟨status, hcall⟩ := methodCall_invokes (b := b) (w := serving w t) (sid % 16) hi
      ⟨values ++ [msgEnd], 0, values.length⟩
    rw [hcall, hargs.decodes _ _ _ (Int.le_refl _)]
  rw [OneAnswer, heffects, answers_invoke, hcount]
  obtain rfl | rfl := ht
  · by_cases hb : metd.body args = .throws <;> cases metd.isVoid <;> simp [hb, serving]
  · by_cases hb : metd.body args = .throws <;> simp [hb, serving]

def actor (isVoid : Bool) (result : MethodResult) : PyConnectWrapper where
  pyConnectModule := some ((⟨[97], [], ∅, ∅⟩ : PyConnectModule).exportMethod [103] [] []
    (if isVoid then none else some .bool) fun _ => result)
  serverMap := (∅ : Std.ExtTreeMap Int ServerInfo).insert 1 ⟨1, true⟩
  noResponse := false

theorem oneAnswer_iff_void : OneAnswer .callAttrMetd
      (processInput ⟨.little, true, true⟩ some (actor true .returnsVoid)
        (header .callAttrMetd 1 :: 1 :: callBytes .little 0 []) false).effects ↔
    MethodResult.returnsVoid ≠ .throws ∨ (PyConnectMsg.callAttrMetd = .callAttrMetd ∧ true = false) :=
  have hi : (actor true .returnsVoid).pyConnectModule.map (·.methods.toList[0]?) = some (some
      ([103], ⟨[], .pyVoid, [], [], true, fun _ => .returnsVoid⟩)) := rfl
  oneAnswer_iff ⟨.little, true, true⟩ some (i := 0)
    ⟨rfl, ⟨1, true⟩, by simp [actor], rfl⟩ (Option.some.inj hi)
    ⟨none, rfl, rfl, rfl, fun _ => trivial⟩ (by decide)
    (wellFormed_packArgs .little _ [] (by simp) (by decide)) (.inl rfl) (by decide) rfl

/-- A void method that throws is answered twice, and a method that throws is
answered once where it should not be answered at all. -/
theorem not_oneAnswer_throwing :
    Exported ⟨[], .pyVoid, [], [], true, fun _ => .throws⟩ ∧
      ¬ OneAnswer .callAttrMetd (processInput ⟨.little, true, true⟩ some (actor true .throws)
        (header .callAttrMetd 1 :: 1 :: callBytes .little 0 []) false).effects ∧
      ¬ OneAnswer .callAttrMetdNocb (processInput ⟨.little, true, true⟩ some (actor false .throws)
        (header .callAttrMetdNocb 1 :: 1 :: callBytes .little 0 []) false).effects :=
  ⟨⟨none, rfl, rfl, rfl, fun _ => trivial⟩, by decide, by decide⟩

end PyConnect.CallAnswers

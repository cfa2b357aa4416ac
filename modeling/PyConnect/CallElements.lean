import PyConnect.WrapperSends
import PyConnect.MethodCall

namespace PyConnect.CallElements

open Bytes Decoding Common Values Wrapper WrapperInput WrapperSends MethodCall Mirror

variable {b : Build} {w : PyConnectWrapper} {m : PyConnectModule} {sid : Int} {index : Nat}

def callElement (b : Build) (w : PyConnectWrapper) (m : PyConnectModule) (serverId : Int)
    (attrId : Nat) : Decoder Call :=
  if attrId < m.attributes.size then
    match m.attributes.toList[attrId]? with
    | some (name, attr) => setAttrValue b w m attrId name attr
    | none => pure ⟨w, [.stray], .noErrors⟩
  else
    let metdId := attrId - m.attributes.size
    match m.methods.toList[metdId]? with
    | some (name, metd) => methodCall b w m metdId name metd serverId
    | none => pure ⟨w, [.stray], .noErrors⟩

def describeElement (b : Build) (w : PyConnectWrapper) (m : PyConnectModule) (serverId : Int)
    (attrId : Nat) : Call :=
  let answer (index : Int) (desc : List UInt8) : Call :=
    let (w, effects) := sendAttrMetdResponse b w PyConnectMsgStatus.noErrors.code index desc.length
      desc serverId .attrMetdResp
    ⟨w, effects, .noErrors⟩
  if attrId < m.attributes.size then
    match m.attributes.toList[attrId]? with
    | some (_, attr) => answer attrId attr.desc
    | none => ⟨w, [.stray], .noErrors⟩
  else
    let metdId := attrId - m.attributes.size
    match m.methods.toList[metdId]? with
    | some (_, metd) => answer metdId metd.desc
    | none => ⟨w, [.stray], .noErrors⟩

def getElement (b : Build) (w : PyConnectWrapper) (m : PyConnectModule) (serverId : Int)
    (attrId : Nat) : Call :=
  match m.attributes.toList[attrId]? with
  | some (name, attr) =>
      let (w, effects) := getAttrValue b w m attrId name attr serverId
      ⟨w, effects, .noErrors⟩
  | none => ⟨w, [], .noErrors⟩

theorem decodes_unpackLEInt (bigEndian : Bool) {size : List UInt8} (hs : size.length = 4) :
    ∃ n, Decodes (unpackLEInt bigEndian) size n 4 :=
  ⟨_, (decodes_unpackLENumber bigEndian hs).map fun n => (BitVec.ofNat 32 n).toInt⟩

theorem callAttrMetd_read (w : PyConnectWrapper) (m : PyConnectModule) (sid : Int)
    {size : List UInt8} (hs : size.length = 4) (hi : index < 32768) (rest : List UInt8) (overrun : Nat)
    (remaining : Int) :
    ∃ k, callAttrMetd b w m sid ⟨size ++ (packIntToStr index ++ rest), overrun, remaining⟩ =
      callElement b w m sid index ⟨rest, overrun, k⟩ := by
  obtain ⟨n, hn⟩ := decodes_unpackLEInt b.host.bigEndian hs
  refine ⟨n - (packIntToStr index).length, ?_⟩
  rw [callAttrMetd, bind_apply, hn]
  dsimp only
  rw [bind_apply, setRemaining, bind_apply, decodes_packIntToStr hi]
  rfl

theorem callAttrMetd_callBytes {sender : Host} {values : List UInt8} (hi : index < 32768)
    (hv : values.length ≤ 2147483645) (overrun : Nat) (remaining : Int) :
    callAttrMetd b w m sid ⟨callBytes sender index values, overrun, remaining⟩ =
      callElement b w m sid index ⟨values ++ [msgEnd], overrun, values.length⟩ := by
  rw [callAttrMetd, callBytes, sizeAndIndex_apply sender.bigEndian b.host.bigEndian
    (Int.add_comm _ _) hi hv]
  rfl

def requestedIndex (b : Build) (c : Cursor) : Nat :=
  (unpackStrToInt (setRemaining (unpackLEInt b.host.bigEndian c).1
    (unpackLEInt b.host.bigEndian c).2).2).1

theorem attrValueUpdate_element (w : PyConnectWrapper) (m : PyConnectModule) (sid : Int)
    (c : Cursor) :
    (attrValueUpdate b w m sid c).1 = getElement b w m sid (requestedIndex b c) := by
  rw [attrValueUpdate, bind_apply, bind_apply, bind_apply, ← requestedIndex, getElement]
  cases m.attributes.toList[requestedIndex b c]? <;> rfl

theorem attrValueUpdate_read {size : List UInt8} (hs : size.length = 4) (hi : index < 32768)
    (rest : List UInt8) (overrun : Nat) (remaining : Int) :
    (attrValueUpdate b w m sid ⟨size ++ (packIntToStr index ++ rest), overrun, remaining⟩).1 =
      getElement b w m sid index := by
  obtain ⟨n, hn⟩ := decodes_unpackLEInt b.host.bigEndian hs
  rw [attrValueUpdate_element, requestedIndex, hn]
  dsimp only
  rw [setRemaining, decodes_packIntToStr hi]

theorem getAttrMetdDesc_element (w : PyConnectWrapper) (m : PyConnectModule) (sid : Int)
    (c : Cursor) :
    (getAttrMetdDesc b w m sid c).1 =
      describeElement b w m sid (unpackStrToInt (setRemaining 1 c).2).1 := by
  rw [getAttrMetdDesc, bind_apply, bind_apply, describeElement]
  generalize (unpackStrToInt (setRemaining 1 c).2).1 = index
  dsimp only
  by_cases h : index < m.attributes.size
  · rw [if_pos h, if_pos h]
    cases m.attributes.toList[index]? <;> rfl
  · rw [if_neg h, if_neg h]
    cases m.methods.toList[index - m.attributes.size]? <;> rfl

theorem getAttrMetdDesc_read (hi : index < 32768) (rest : List UInt8) (overrun : Nat)
    (remaining : Int) :
    (getAttrMetdDesc b w m sid ⟨packIntToStr index ++ rest, overrun, remaining⟩).1 =
      describeElement b w m sid index := by
  rw [getAttrMetdDesc_element, setRemaining, decodes_packIntToStr hi]

theorem lt_size_of_getElem {β : Type} {map : Std.ExtTreeMap (List UInt8) β} {i : Nat}
    {x : List UInt8 × β} (hi : map.toList[i]? = some x) : i < map.size := by
  rw [← Std.ExtTreeMap.length_toList]
  exact (List.getElem?_eq_some_iff.mp hi).1

theorem callElement_attribute {x : List UInt8 × Attribute} (hx : m.attributes.toList[index]? = some x) :
    callElement b w m sid index = setAttrValue b w m index x.1 x.2 := by
  rw [callElement, if_pos (lt_size_of_getElem hx), hx]

theorem callElement_method {x : List UInt8 × Method} (hx : m.methods.toList[index]? = some x) :
    callElement b w m sid (m.attributes.size + index) = methodCall b w m index x.1 x.2 sid := by
  rw [callElement, if_neg (by omega), Nat.add_sub_cancel_left]
  dsimp only
  rw [hx]

theorem callElement_none (h : m.attributes.size + m.methods.size ≤ index) :
    callElement b w m sid index = pure ⟨w, [.stray], .noErrors⟩ := by
  have hn : m.methods.toList[index - m.attributes.size]? = none := by
    rw [List.getElem?_eq_none_iff, Std.ExtTreeMap.length_toList]
    omega
  rw [callElement, if_neg (by omega)]
  dsimp only
  rw [hn]

theorem element_cases (m : PyConnectModule) (index : Nat) :
    (∃ x, m.attributes.toList[index]? = some x) ∨
      (∃ i x, index = m.attributes.size + i ∧ m.methods.toList[i]? = some x) ∨
      m.attributes.size + m.methods.size ≤ index := by
  by_cases ha : index < m.attributes.size
  · rw [← Std.ExtTreeMap.length_toList] at ha
    exact .inl ⟨_, List.getElem?_eq_getElem ha⟩
  · by_cases hm : index - m.attributes.size < m.methods.size
    · rw [← Std.ExtTreeMap.length_toList (t := m.methods)] at hm
      exact .inr (.inl ⟨index - m.attributes.size, _, by omega, List.getElem?_eq_getElem hm⟩)
    · exact .inr (.inr (by omega))

theorem setAttrValue_sets {x : List UInt8 × Attribute} (hx : m.attributes.toList[index]? = some x)
    (hw : x.2.isWritable = true) (c : Cursor) :
    ∃ status, (setAttrValue b w m index x.1 x.2 c).1 =
      ⟨(setValue b w x.1 (getData b.host x.2.value.dataType .noErrors c).1.1).1,
        (setValue b w x.1 (getData b.host x.2.value.dataType .noErrors c).1.1).2, status⟩ := by
  rw [setAttrValue, if_pos hw, validateAttribute_self hx, bind_apply]
  exact ⟨_, rfl⟩

theorem methodCall_invokes (sid : Int) {x : List UInt8 × Method} (hx : m.methods.toList[index]? = some x)
    (c : Cursor) :
    ∃ status, (methodCall b w m index x.1 x.2 sid c).1 =
      ⟨(answerCall b w (m.attributes.size + index) sid x.2
          (customBind b x.2.params .noErrors c).1.1).1,
        .invoke x.1 (customBind b x.2.params .noErrors c).1.1 ::
          (answerCall b w (m.attributes.size + index) sid x.2
            (customBind b x.2.params .noErrors c).1.1).2, status⟩ := by
  rw [methodCall, validateMethod_self hx, if_pos rfl, bind_apply]
  exact ⟨_, rfl⟩

/-- The wrapper with which a call of this kind is served. -/
def serving (w : PyConnectWrapper) (t : PyConnectMsg) : PyConnectWrapper :=
  { w with noResponse := decide (t = .callAttrMetdNocb) }

theorem moduleMessage_element {t : PyConnectMsg} (ht : t = .callAttrMetd ∨ t = .callAttrMetdNocb)
    (c : Cursor) :
    (moduleMessage b w m sid (some t) c).1 =
      ({ (callAttrMetd b (serving w t) m sid c).1 with wrapper.noResponse := false }, .processedOk) :=
  congrArg Prod.fst (moduleMessage_call ht rfl)

theorem moduleMessage_update (c : Cursor) :
    (moduleMessage b w m sid (some .attrValueUpdate) c).1 =
      ((attrValueUpdate b w m sid c).1, .processedOk) := rfl

theorem moduleMessage_describe (c : Cursor) :
    (moduleMessage b w m sid (some .getAttrMetdDesc) c).1 =
      ((getAttrMetdDesc b w m sid c).1, .processedOk) := rfl

/-- What serving a message of a registered server can do: it runs the method
that the message calls, answers the server, or tells others of a change to the
attribute that the message calls. -/
inductive Serves (w : PyConnectWrapper) (m : PyConnectModule) (sid : Int) (called : Option Nat) :
    Effect → Prop
  | invoke (i : Nat) (x : List UInt8 × Method) (args : List Value) :
      called = some (m.attributes.size + i) → m.methods.toList[i]? = some x →
      Serves w m sid called (.invoke x.1 args)
  | stray : Serves w m sid called .stray
  | response (info : ServerInfo) (tail : List UInt8) : w.serverMap[sid]? = some info →
      Serves w m sid called
        (.dispatch (header .attrMetdResp sid :: toByte info.assignedModuleID :: tail) false)
  | update (index : Nat) (y : List UInt8 × Attribute) (x : Int × ServerInfo) (tail : List UInt8) :
      called = some index → m.attributes.toList[index]? = some y → y.2.isWritable = true →
      x ∈ told w → Serves w m sid called
        (.dispatch (header .attrValueUpdate x.1 :: toByte x.2.assignedModuleID :: tail) false)

def Answers (w : PyConnectWrapper) (sid : Int) (info : ServerInfo)
    (r : PyConnectWrapper × List Effect) : Prop :=
  r.1 = w ∧ ∀ e ∈ r.2, ∃ tail,
    e = .dispatch (header .attrMetdResp sid :: toByte info.assignedModuleID :: tail) false

theorem answers_sendAttrMetdResponse {info : ServerInfo} (hw : w.serverMap[sid]? = some info)
    (err index : Int) {length : Int} (h0 : 0 ≤ length) (hl : length ≤ 2147483637)
    (data : List UInt8) :
    Answers w sid info (sendAttrMetdResponse b w err index length data sid .attrMetdResp) := by
  obtain ⟨tail, hd⟩ := responseData_header b.host .attrMetdResp sid info.assignedModuleID err index
    data h0
  rw [sendAttrMetdResponse_registered hw _ _ _ _ hl, hd]
  exact ⟨rfl, fun e he => ⟨_, List.mem_singleton.mp he⟩⟩

theorem answers_postAttrMetdData {info : ServerInfo} (hw : w.serverMap[sid]? = some info)
    (amId : Int) (v : Value) (status : PyConnectMsgStatus) :
    Answers w sid info (postAttrMetdData b w amId v status sid .attrMetdResp) := by
  have hl := setData_length_le b.host v status
  exact answers_sendAttrMetdResponse hw _ _ (ModuleRouting.dataLength_nonneg b.host v status)
    (by omega) _

theorem answerCall_sends {info : ServerInfo} (hw : w.serverMap[sid]? = some info) (index : Int)
    (metd : Method) (args : List Value) :
    (answerCall b w index sid metd args).1 = w ∧
      ∀ e ∈ (answerCall b w index sid metd args).2,
        (∃ err, e ∈ (sendAttrMetdResponse b w err index 0 [] sid .attrMetdResp).2) ∨
          ∃ v, e ∈ (postAttrMetdData b w index v .noErrors sid .attrMetdResp).2 := by
  have hkeeps (err : Int) : (sendAttrMetdResponse b w err index 0 [] sid .attrMetdResp).1 = w :=
    (answers_sendAttrMetdResponse hw err index (Int.le_refl 0) (by decide) []).1
  -- what is sent for the result, and then the completion of a void function
  have hboth : ∀ sent : List Effect, (∀ e ∈ sent,
      (∃ err, e ∈ (sendAttrMetdResponse b w err index 0 [] sid .attrMetdResp).2) ∨
        ∃ v, e ∈ (postAttrMetdData b w index v .noErrors sid .attrMetdResp).2) →
      let r := if metd.isVoid && !w.noResponse then
        ((sendAttrMetdResponse b w PyConnectMsgStatus.noErrors.code index 0 [] sid
          .attrMetdResp).1, sent ++ (sendAttrMetdResponse b w PyConnectMsgStatus.noErrors.code
            index 0 [] sid .attrMetdResp).2) else (w, sent)
      r.1 = w ∧ ∀ e ∈ r.2,
        (∃ err, e ∈ (sendAttrMetdResponse b w err index 0 [] sid .attrMetdResp).2) ∨
          ∃ v, e ∈ (postAttrMetdData b w index v .noErrors sid .attrMetdResp).2 := by
    intro sent hsent
    dsimp only
    split
    · refine ⟨hkeeps PyConnectMsgStatus.noErrors.code, fun e he => ?_⟩
      rcases List.mem_append.mp he with he | he
      · exact hsent e he
      · exact .inl ⟨_, he⟩
    · exact ⟨rfl, hsent⟩
  have hnone := hboth [] fun e he => absurd he List.not_mem_nil
  rw [answerCall]
  cases metd.body args with
  | throws =>
      dsimp only
      rw [hkeeps]
      exact hboth _ fun e he => .inl ⟨_, he⟩
  | returns v =>
      dsimp only
      split
      · exact hnone
      · have hval := answers_postAttrMetdData (b := b) hw index v .noErrors
        rw [hval.1]
        exact hboth _ fun e he => .inr ⟨v, he⟩
  | returnsVoid => exact hnone

theorem answers_answerCall {info : ServerInfo} (hw : w.serverMap[sid]? = some info) (index : Int)
    (metd : Method) (args : List Value) :
    Answers w sid info (answerCall b w index sid metd args) := by
  obtain ⟨hkeeps, hsends⟩ := answerCall_sends (b := b) hw index metd args
  refine ⟨hkeeps, fun e he => ?_⟩
  rcases hsends e he with ⟨err, hsent⟩ | ⟨v, hsent⟩
  · exact (answers_sendAttrMetdResponse hw err index (Int.le_refl 0) (by decide) []).2 e hsent
  · exact (answers_postAttrMetdData hw index v .noErrors).2 e hsent

/-- What a message to the module leaves of it: its elements, and all values
but the one that it sets. -/
def Keeps (m : PyConnectModule) (called : Option Nat) (m' : Option PyConnectModule) : Prop :=
  m' = some m ∨ ∃ (index : Nat) (x : List UInt8 × Attribute) (v : Value), called = some index ∧
    m.attributes.toList[index]? = some x ∧ x.2.isWritable = true ∧ m' = some (m.assign x.1 v)

structure Served (w : PyConnectWrapper) (m : PyConnectModule) (sid : Int) (called : Option Nat)
    (w' : PyConnectWrapper) (effects : List Effect) : Prop where
  servers : w'.serverMap = w.serverMap
  module : Keeps m called w'.pyConnectModule
  effects : ∀ e ∈ effects, Serves w m sid called e

variable {called : Option Nat} {info : ServerInfo}

theorem Served.idle (hw : w.pyConnectModule = some m) : Served w m sid called w [] :=
  ⟨rfl, .inl hw, fun _ he => absurd he List.not_mem_nil⟩

theorem Served.stray (hw : w.pyConnectModule = some m) : Served w m sid called w [.stray] :=
  ⟨rfl, .inl hw, fun _ he => by rw [List.mem_singleton.mp he]; exact .stray⟩

theorem Answers.served (hinfo : w.serverMap[sid]? = some info) (hw : w.pyConnectModule = some m)
    {r : PyConnectWrapper × List Effect} (h : Answers w sid info r) :
    Served w m sid called r.1 r.2 := by
  refine ⟨by rw [h.1], .inl (by rw [h.1, hw]), fun e he => ?_⟩
  obtain ⟨tail, rfl⟩ := h.2 e he
  exact .response info tail hinfo

theorem served_set {x : List UInt8 × Attribute} (hw : w.pyConnectModule = some m)
    (hx : m.attributes.toList[index]? = some x) (hwrite : x.2.isWritable = true) (v : Value) :
    Served w m sid (some index) (setValue b w x.1 v).1 (setValue b w x.1 v).2 := by
  rw [setValue_registered hw (mem_of_toList (List.mem_of_getElem? hx))]
  refine ⟨rfl, .inr ⟨index, x, v, rfl, hx, hwrite, rfl⟩, fun e he => ?_⟩
  obtain ⟨y, hy, rfl⟩ := List.mem_map.mp he
  obtain ⟨tail, hd⟩ := valueData_header b.host .attrValueUpdate y.1 y.2.assignedModuleID
    (distance (m.assign x.1 v).attributes x.1) v .noErrors
  rw [updateEffect, hd]
  exact .update index x y _ rfl hx hwrite hy

theorem served_callElement (hinfo : w.serverMap[sid]? = some info)
    (hw : w.pyConnectModule = some m) (index : Nat) (c : Cursor) :
    let r := (callElement b w m sid index c).1
    Served w m sid (some index) r.wrapper r.effects := by
  obtain ⟨x, hx⟩ | ⟨i, x, rfl, hx⟩ | hn := element_cases m index
  · rw [callElement_attribute hx]
    by_cases hwrite : x.2.isWritable = true
    · obtain ⟨status, hset⟩ := setAttrValue_sets (b := b) (w := w) hx hwrite c
      rw [hset]
      exact served_set hw hx hwrite _
    · rw [setAttrValue, if_neg hwrite]
      exact Served.stray hw
  · obtain ⟨status, hcall⟩ := methodCall_invokes (b := b) (w := w) sid hx c
    rw [callElement_method hx, hcall]
    have h : Served w m sid (some (m.attributes.size + i)) _ _ :=
      (answers_answerCall (b := b) hinfo (m.attributes.size + i) x.2
        (customBind b x.2.params .noErrors c).1.1).served hinfo hw
    refine ⟨h.servers, h.module, fun e he => ?_⟩
    rcases List.mem_cons.mp he with rfl | he
    · exact .invoke i x _ rfl hx
    · exact h.effects e he
  · rw [callElement_none hn]
    exact Served.stray hw

theorem served_getElement (hinfo : w.serverMap[sid]? = some info)
    (hw : w.pyConnectModule = some m) (index : Nat) : Served w m sid called
      (getElement b w m sid index).wrapper (getElement b w m sid index).effects := by
  rw [getElement]
  cases m.attributes.toList[index]? with
  | none => exact Served.idle hw
  | some x => exact (answers_postAttrMetdData hinfo _ _ _).served hinfo hw

theorem served_description (hinfo : w.serverMap[sid]? = some info)
    (hw : w.pyConnectModule = some m) (err index : Int) (desc : List UInt8) : Served w m sid called
      (sendAttrMetdResponse b w err index desc.length desc sid .attrMetdResp).1
      (sendAttrMetdResponse b w err index desc.length desc sid .attrMetdResp).2 := by
  rw [sendAttrMetdResponse, serverEntry_eq hinfo]
  refine ⟨rfl, .inl hw, fun e he => ?_⟩
  obtain ⟨tail, hd⟩ := responseData_header b.host .attrMetdResp sid info.assignedModuleID err index
    desc (Int.natCast_nonneg desc.length)
  rw [List.mem_singleton.mp he, send]
  split
  · rw [← responseData, hd]
    exact .response info _ hinfo
  · exact .stray

theorem served_describeElement (hinfo : w.serverMap[sid]? = some info)
    (hw : w.pyConnectModule = some m) (index : Nat) : Served w m sid called
      (describeElement b w m sid index).wrapper (describeElement b w m sid index).effects := by
  rw [describeElement]
  dsimp only
  split
  · split
    · exact served_description hinfo hw _ _ _
    · exact Served.stray hw
  · split
    · exact served_description hinfo hw _ _ _
    · exact Served.stray hw

def calledElement (b : Build) (t : Option PyConnectMsg) (c : Cursor) : Option Nat :=
  if t = some .callAttrMetd ∨ t = some .callAttrMetdNocb then some (requestedIndex b c) else none

theorem served_moduleMessage (hinfo : w.serverMap[sid]? = some info)
    (hw : w.pyConnectModule = some m) (t : Option PyConnectMsg) (c : Cursor) :
    let r := (moduleMessage b w m sid t c).1.1
    Served w m sid (calledElement b t c) r.wrapper r.effects := by
  have hcall : ∀ t : PyConnectMsg, (t = .callAttrMetd ∨ t = .callAttrMetdNocb) →
      let r := (moduleMessage b w m sid (some t) c).1.1
      Served w m sid (calledElement b (some t) c) r.wrapper r.effects := by
    intro t ht
    obtain ⟨c', h⟩ : ∃ c', callAttrMetd b (serving w t) m sid c =
        callElement b (serving w t) m sid (requestedIndex b c) c' := ⟨_, rfl⟩
    have hserved := served_callElement (b := b) (w := serving w t) hinfo hw (requestedIndex b c) c'
    have hcalled : calledElement b (some t) c = some (requestedIndex b c) :=
      if_pos (ht.imp (congrArg some) (congrArg some))
    rw [moduleMessage_element ht, h, hcalled]
    exact ⟨hserved.servers, hserved.module, fun e he => by
      cases hserved.effects e he with
      | invoke i x args hc hx => exact .invoke i x args hc hx
      | stray => exact .stray
      | response info tail hi => exact .response info tail hi
      | update i y x tail hc hy hwrite hx => exact .update i y x tail hc hy hwrite hx⟩
  rw [moduleMessage.eq_def]
  split
  · exact hcall .callAttrMetd (.inl rfl)
  · exact hcall .callAttrMetdNocb (.inr rfl)
  · have h := attrValueUpdate_element (b := b) w m sid c
    change Served w m sid _ (attrValueUpdate b w m sid c).1.wrapper
      (attrValueUpdate b w m sid c).1.effects
    rw [h]
    exact served_getElement hinfo hw _
  · have h := getAttrMetdDesc_element (b := b) w m sid c
    change Served w m sid _ (getAttrMetdDesc b w m sid c).1.wrapper
      (getAttrMetdDesc b w m sid c).1.effects
    rw [h]
    exact served_describeElement hinfo hw _
  · exact Served.idle hw

end PyConnect.CallElements

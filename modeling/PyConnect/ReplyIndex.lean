import PyConnect.CallAnswers
import PyConnect.ElementBounds
import PyConnect.StubInput

namespace PyConnect.ReplyIndex

open Bytes Decoding Common Values Wrapper WrapperInput WrapperSends MethodCall CallElements
  CallAnswers ElementBounds Mirror
open StubInput (responseHeader)

variable {b : Build} {w : PyConnectWrapper} {m : PyConnectModule} {sid : Int} {index : Nat}
  {info : ServerInfo}

/-- The branch of a generated accessor for a module without an object. -/
def noObject (b : Build) (w : PyConnectWrapper) (index serverId : Int) : Call :=
  let (w, effects) := sendAttrMetdResponse b w PyConnectMsgStatus.noPyConnectObject.code index 0 []
    serverId .attrMetdResp
  ⟨w, effects, .noErrors⟩

def callWithoutObject (b : Build) (w : PyConnectWrapper) (m : PyConnectModule) (serverId : Int)
    (attrId : Nat) : Call :=
  if attrId < m.attributes.size then
    match m.attributes.toList[attrId]? with
    | some (_, attr) =>
        if attr.isWritable then noObject b w attrId serverId else ⟨w, [.stray], .noErrors⟩
    | none => ⟨w, [.stray], .noErrors⟩
  else
    let metdId := attrId - m.attributes.size
    match m.methods.toList[metdId]? with
    | some _ => noObject b w (m.attributes.size + metdId) serverId
    | none => ⟨w, [.stray], .noErrors⟩

def updateWithoutObject (b : Build) (w : PyConnectWrapper) (m : PyConnectModule) (serverId : Int)
    (attrId : Nat) : Call :=
  match m.attributes.toList[attrId]? with
  | some _ => noObject b w attrId serverId
  | none => ⟨w, [], .noErrors⟩

def sizeAndIndex (bigEndian : Bool) : Decoder Nat := do
  let rDataSize ← unpackLEInt bigEndian
  setRemaining rDataSize
  unpackStrToInt

/-- The messages to a registered module whose object is null. -/
def moduleMessageWithout (b : Build) (w : PyConnectWrapper) (m : PyConnectModule) (serverId : Int) :
    Option PyConnectMsg → Decoder (Call × MesgProcessResult)
  | some .callAttrMetd => do
      let attrId ← sizeAndIndex b.host.bigEndian
      let r := callWithoutObject b { w with noResponse := false } m serverId attrId
      pure ({ r with wrapper.noResponse := false }, .processedOk)
  | some .callAttrMetdNocb => do
      let attrId ← sizeAndIndex b.host.bigEndian
      let r := callWithoutObject b { w with noResponse := true } m serverId attrId
      pure ({ r with wrapper.noResponse := false }, .processedOk)
  | some .attrValueUpdate => do
      let attrId ← sizeAndIndex b.host.bigEndian
      pure (updateWithoutObject b w m serverId attrId, .processedOk)
  | some .getAttrMetdDesc => do
      let r ← getAttrMetdDesc b w m serverId
      pure (r, .processedOk)
  | _ => pure (⟨w, [], .noErrors⟩, .processedFailed)

def handler (b : Build) (hasObject : Bool) :
    PyConnectWrapper → PyConnectModule → Int → Option PyConnectMsg →
      Decoder (Call × MesgProcessResult) :=
  if hasObject then moduleMessage b else moduleMessageWithout b

def processInputOf (b : Build) (hasObject : Bool) (decrypt : List UInt8 → Option (List UInt8))
    (w : PyConnectWrapper) (recData : List UInt8) (skipdecrypt : Bool) : Outcome :=
  (decrypted decrypt recData skipdecrypt).elim ⟨w, .processedFailed, [], startAt [] 0, .noErrors⟩
    (processMessageWith (handler b hasObject) b w)

theorem processInputOf_object (b : Build) (decrypt : List UInt8 → Option (List UInt8))
    (w : PyConnectWrapper) (recData : List UInt8) (skipdecrypt : Bool) :
    processInputOf b true decrypt w recData skipdecrypt =
      processInput b decrypt w recData skipdecrypt :=
  (processInput_eq b decrypt w recData skipdecrypt).symm

/-- The index that a server of either byte order reads from a message. -/
def Carries (index : Nat) : Effect → Prop
  | .dispatch data _ => ∀ host, (responseHeader host (startAt (data.drop 2) 0)).1.1 = index
  | _ => True

def RepliesCarry (index : Nat) (effects : List Effect) : Prop :=
  ∀ e ∈ effects, isAnswer e = true → Carries index e

/-- Every reply but the description of a method that comes behind attributes, unless
that is so long that nothing is sent. -/
def KeepsIndex (m : PyConnectModule) (index : Nat) (t : PyConnectMsg) : Prop :=
  t = .getAttrMetdDesc → m.attributes.size ≤ index → m.attributes.size = 0 ∨
    ∃ desc, descAt m index = some desc ∧
      2 ^ 31 ≤ 8 + (desc.length + packedIntLen (index - m.attributes.size : Nat))

theorem responseData_index (host : Host) (t : PyConnectMsg) (sid modId err : Int) (index : Nat)
    {length : Int} (h0 : 0 ≤ length) (data : List UInt8) :
    ∃ tail, responseData host t sid modId err index length data =
      header t sid :: toByte modId :: toByte err ::
        (packLEInt host.bigEndian (length + packedIntLen index) ++ (packIntToStr index ++ tail)) := by
  have hp := packIntToStr_length index
  have hle : (packLEInt host.bigEndian (length + packedIntLen index)).length = 4 :=
    ValueCodec.packNumber_length _ 4 _
  obtain ⟨n, hn⟩ : ∃ n, (responsePacket host t sid modId err index length data).totalMsgSize.toNat =
      4 + (packIntToStr index).length + n + 3 :=
    ⟨(responsePacket host t sid modId err index length data).totalMsgSize.toNat -
      (4 + (packIntToStr index).length + 3), by simp only [responsePacket]; omega⟩
  rw [responseData, Packet.data, hn]
  simp only [responsePacket, List.append_assoc, List.take_succ_cons]
  refine ⟨(data.take length.toNat ++ [msgEnd]).take n, ?_⟩
  rw [Nat.add_assoc, ← hle, List.take_length_add_append, List.take_length_add_append]

theorem responseHeader_index (host : Host) (err : UInt8) {size : List UInt8} (hsize : size.length = 4)
    (hi : index < 32768) (tail : List UInt8) :
    (responseHeader host (startAt (err :: (size ++ (packIntToStr index ++ tail))) 0)).1.1 = index := by
  obtain ⟨n, hn⟩ := decodes_unpackLEInt host.bigEndian hsize
  rw [responseHeader, bind_apply, byte_cons]
  dsimp only
  rw [bind_apply, startAt, hn]
  dsimp only
  rw [bind_apply, setRemaining, bind_apply, decodes_packIntToStr hi]
  rfl

theorem carries_response (host : Host) (sid modId err : Int) (hi : index < 32768) {length : Int}
    (h0 : 0 ≤ length) (data : List UInt8) :
    Carries index
      (.dispatch (responseData host .attrMetdResp sid modId err index length data) false) := by
  obtain ⟨tail, htail⟩ := responseData_index host .attrMetdResp sid modId err index h0 data
  intro reader
  rw [htail]
  exact responseHeader_index reader _ (ValueCodec.packNumber_length _ 4 _) hi tail

theorem carries_send (host : Host) (sid modId err : Int) (hi : index < 32768) {length : Int}
    (h0 : 0 ≤ length) (data : List UInt8) :
    Carries index (send (responsePacket host .attrMetdResp sid modId err index length data) false) := by
  rw [send]
  split_ifs
  · exact carries_response host sid modId err hi h0 data
  · trivial

theorem repliesCarry_response (hw : w.serverMap[sid]? = some info) (err : Int) (hi : index < 32768)
    {length : Int} (h0 : 0 ≤ length) (data : List UInt8) :
    RepliesCarry index (sendAttrMetdResponse b w err index length data sid .attrMetdResp).2 := by
  intro e he _
  rw [sendAttrMetdResponse, serverEntry_eq hw] at he
  rw [List.mem_singleton.mp he]
  exact carries_send _ _ _ _ hi h0 data

theorem repliesCarry_value (hw : w.serverMap[sid]? = some info) (hi : index < 32768) (v : Value)
    (status : PyConnectMsgStatus) :
    RepliesCarry index (postAttrMetdData b w index v status sid .attrMetdResp).2 :=
  repliesCarry_response hw _ hi (ModuleRouting.dataLength_nonneg b.host v status) _

theorem repliesCarry_answerCall (hw : w.serverMap[sid]? = some info) (hi : index < 32768)
    (metd : Method) (args : List Value) :
    RepliesCarry index (answerCall b w index sid metd args).2 := by
  intro e he hanswer
  obtain ⟨err, he⟩ | ⟨v, he⟩ := (answerCall_sends hw index metd args).2 e he
  · exact repliesCarry_response hw err hi (Int.le_refl 0) [] e he hanswer
  · exact repliesCarry_value hw hi v .noErrors e he hanswer

theorem repliesCarry_stray : RepliesCarry index [.stray] := by
  intro e he hanswer
  rw [List.mem_singleton.mp he] at hanswer
  cases hanswer

theorem repliesCarry_setValue (hw : w.pyConnectModule = some m) {name : List UInt8}
    (hname : name ∈ m.attributes) (v : Value) : RepliesCarry index (setValue b w name v).2 := by
  intro e he hanswer
  rw [setValue_registered hw hname] at he
  obtain ⟨x, -, rfl⟩ := List.mem_map.mp he
  obtain ⟨tail, htail⟩ := valueData_header b.host .attrValueUpdate x.1 x.2.assignedModuleID
    (distance (m.assign name v).attributes name) v .noErrors
  rw [updateEffect, isAnswer, htail, List.headD_cons, msgTypeOf_header] at hanswer
  exact absurd hanswer (by decide)

theorem repliesCarry_callElement (hinfo : w.serverMap[sid]? = some info)
    (hw : w.pyConnectModule = some m) (hi : index < 32768) (c : Cursor) :
    RepliesCarry index (callElement b w m sid index c).1.effects := by
  obtain ⟨x, hx⟩ | ⟨i, x, rfl, hx⟩ | hn := element_cases m index
  · rw [callElement_attribute hx]
    by_cases hwrite : x.2.isWritable = true
    · obtain ⟨status, hset⟩ := setAttrValue_sets (b := b) (w := w) hx hwrite c
      rw [hset]
      exact repliesCarry_setValue hw (mem_of_toList (List.mem_of_getElem? hx)) _
    · rw [setAttrValue, if_neg hwrite]
      exact repliesCarry_stray
  · obtain ⟨status, hcall⟩ := methodCall_invokes (b := b) (w := w) sid hx c
    rw [callElement_method hx, hcall]
    intro e he hanswer
    rcases List.mem_cons.mp he with rfl | he
    · cases hanswer
    · exact repliesCarry_answerCall hinfo hi x.2 _ e he hanswer
  · rw [callElement_none hn]
    exact repliesCarry_stray

theorem repliesCarry_noObject (hinfo : w.serverMap[sid]? = some info) (hi : index < 32768) :
    RepliesCarry index (noObject b w index sid).effects :=
  repliesCarry_response hinfo _ hi (Int.le_refl 0) []

theorem repliesCarry_callWithoutObject (hinfo : w.serverMap[sid]? = some info) (hi : index < 32768) :
    RepliesCarry index (callWithoutObject b w m sid index).effects := by
  rw [callWithoutObject]
  by_cases h : index < m.attributes.size
  · rw [if_pos h]
    cases m.attributes.toList[index]? with
    | none => exact repliesCarry_stray
    | some x =>
        dsimp only
        split_ifs
        · exact repliesCarry_noObject hinfo hi
        · exact repliesCarry_stray
  · rw [if_neg h]
    dsimp only
    cases m.methods.toList[index - m.attributes.size]? with
    | none => exact repliesCarry_stray
    | some x =>
        have hsum : (m.attributes.size + (index - m.attributes.size : Nat) : Int) = index := by omega
        dsimp only
        rw [hsum]
        exact repliesCarry_noObject hinfo hi

theorem repliesCarry_getElement (hinfo : w.serverMap[sid]? = some info) (hi : index < 32768) :
    RepliesCarry index (getElement b w m sid index).effects := by
  rw [getElement]
  cases m.attributes.toList[index]? with
  | none => exact fun e he => absurd he List.not_mem_nil
  | some x => exact repliesCarry_value hinfo hi _ _

theorem repliesCarry_updateWithoutObject (hinfo : w.serverMap[sid]? = some info)
    (hi : index < 32768) : RepliesCarry index (updateWithoutObject b w m sid index).effects := by
  rw [updateWithoutObject]
  cases m.attributes.toList[index]? with
  | none => exact fun e he => absurd he List.not_mem_nil
  | some x => exact repliesCarry_noObject hinfo hi

theorem isAnswer_response (host : Host) (sid modId err index : Int) {length : Int} (h0 : 0 ≤ length)
    (data : List UInt8) :
    isAnswer (.dispatch (responseData host .attrMetdResp sid modId err index length data) false) =
      true := by
  obtain ⟨tail, htail⟩ := responseData_header host .attrMetdResp sid modId err index data h0
  rw [htail, isAnswer, List.headD_cons, msgTypeOf_header, PyConnectMsg.ofCode_code]
  rfl

/-- The description of a method goes out under its number among the methods. -/
theorem repliesCarry_describeMethod (hinfo : w.serverMap[sid]? = some info) {i : Nat}
    {x : List UInt8 × Method} (hx : m.methods.toList[i]? = some x)
    (hi : m.attributes.size + i < 32768) :
    RepliesCarry (m.attributes.size + i) (describeElement b w m sid (m.attributes.size + i)).effects ↔
      m.attributes.size = 0 ∨ 2 ^ 31 ≤ 8 + (x.2.desc.length + packedIntLen i) := by
  have heffects : (describeElement b w m sid (m.attributes.size + i)).effects =
      (sendAttrMetdResponse b w PyConnectMsgStatus.noErrors.code i x.2.desc.length x.2.desc sid
        .attrMetdResp).2 := by
    rw [describeElement]
    dsimp only
    rw [if_neg (by omega), Nat.add_sub_cancel_left, hx]
  have hlen : (0 : Int) ≤ x.2.desc.length := Int.natCast_nonneg _
  have hown : i < 32768 := by omega
  rw [heffects]
  constructor
  · intro h
    by_contra hneither
    rw [not_or] at hneither
    have hsend := send_eq (p := responsePacket b.host .attrMetdResp sid info.assignedModuleID
      PyConnectMsgStatus.noErrors.code i x.2.desc.length x.2.desc)
      (by simp only [responsePacket]; omega) false
    rw [sendAttrMetdResponse, serverEntry_eq hinfo] at h
    dsimp only at h
    rw [hsend] at h
    have hread := h _ List.mem_cons_self (isAnswer_response _ _ _ _ _ hlen _) b.host
    have hnumber := carries_response b.host sid info.assignedModuleID
      PyConnectMsgStatus.noErrors.code hown hlen x.2.desc b.host
    have heq : m.attributes.size + i = i := hread.symm.trans hnumber
    omega
  · rintro (hz | hlong)
    · rw [hz, Nat.zero_add]
      exact repliesCarry_response hinfo _ hown hlen _
    · intro e he hanswer
      rw [sendAttrMetdResponse, serverEntry_eq hinfo] at he
      rw [List.mem_singleton.mp he, send, if_neg (by simp only [responsePacket]; omega)] at hanswer
      cases hanswer

theorem repliesCarry_describeElement (hinfo : w.serverMap[sid]? = some info)
    (hexists : index < m.attributes.size + m.methods.size) (hi : index < 32768) :
    RepliesCarry index (describeElement b w m sid index).effects ↔
      KeepsIndex m index .getAttrMetdDesc := by
  have hkeeps : KeepsIndex m index .getAttrMetdDesc ↔ (m.attributes.size ≤ index →
      m.attributes.size = 0 ∨ ∃ desc, descAt m index = some desc ∧
        2 ^ 31 ≤ 8 + (desc.length + packedIntLen (index - m.attributes.size : Nat))) :=
    forall_prop_of_true rfl
  rw [hkeeps]
  obtain ⟨x, hx⟩ | ⟨i, x, rfl, hx⟩ | hn := element_cases m index
  · have hlt := lt_size_of_getElem hx
    refine iff_of_true ?_ fun hle => by omega
    rw [describeElement]
    dsimp only
    rw [if_pos hlt, hx]
    exact repliesCarry_response hinfo _ hi (Int.natCast_nonneg _) _
  · have hdesc : descAt m (m.attributes.size + i) = some x.2.desc := by
      rw [descAt, if_neg (by omega), Nat.add_sub_cancel_left, hx]
      rfl
    rw [repliesCarry_describeMethod hinfo hx hi, hdesc, Nat.add_sub_cancel_left]
    simp
  · omega

theorem sizeAndIndex_read (bigEndian : Bool) {size : List UInt8} (hsize : size.length = 4)
    (hi : index < 32768) (rest : List UInt8) :
    (sizeAndIndex bigEndian (startAt (size ++ (packIntToStr index ++ rest)) 0)).1 = index := by
  obtain ⟨n, hn⟩ := decodes_unpackLEInt bigEndian hsize
  rw [sizeAndIndex, bind_apply, startAt, hn]
  dsimp only
  rw [bind_apply, setRemaining, decodes_packIntToStr hi]

theorem repliesCarry_call (hasObject : Bool) (hinfo : w.serverMap[sid]? = some info)
    (hw : w.pyConnectModule = some m) {t : PyConnectMsg}
    (ht : t = .callAttrMetd ∨ t = .callAttrMetdNocb) {size : List UInt8} (hsize : size.length = 4)
    (hi : index < 32768) (rest : List UInt8) :
    RepliesCarry index (handler b hasObject w m sid (some t)
      (startAt (size ++ (packIntToStr index ++ rest)) 0)).1.1.effects := by
  have hserve : (serving w t).serverMap[sid]? = some info := hinfo
  cases hasObject with
  | true =>
      obtain ⟨k, hk⟩ := callAttrMetd_read (b := b) (serving w t) m sid hsize hi rest 0 0
      change RepliesCarry index (moduleMessage b w m sid (some t) _).1.1.effects
      rw [moduleMessage_element ht, startAt, hk]
      exact repliesCarry_callElement hserve hw hi ⟨rest, 0, k⟩
  | false =>
      have hread := sizeAndIndex_read b.host.bigEndian hsize hi rest
      have heffects : (handler b false w m sid (some t)
          (startAt (size ++ (packIntToStr index ++ rest)) 0)).1.1.effects =
            (callWithoutObject b (serving w t) m sid
              (sizeAndIndex b.host.bigEndian
                (startAt (size ++ (packIntToStr index ++ rest)) 0)).1).effects := by
        obtain rfl | rfl := ht <;> rfl
      rw [heffects, hread]
      exact repliesCarry_callWithoutObject hserve hi

theorem repliesCarry_update (hasObject : Bool) (hinfo : w.serverMap[sid]? = some info)
    {size : List UInt8} (hsize : size.length = 4) (hi : index < 32768) (rest : List UInt8) :
    RepliesCarry index (handler b hasObject w m sid (some .attrValueUpdate)
      (startAt (size ++ (packIntToStr index ++ rest)) 0)).1.1.effects := by
  cases hasObject with
  | true =>
      change RepliesCarry index (moduleMessage b w m sid (some .attrValueUpdate) _).1.1.effects
      rw [moduleMessage_update, startAt]
      dsimp only
      rw [attrValueUpdate_read hsize hi]
      exact repliesCarry_getElement hinfo hi
  | false =>
      have hread := sizeAndIndex_read b.host.bigEndian hsize hi rest
      change RepliesCarry index (updateWithoutObject b w m sid
        (sizeAndIndex b.host.bigEndian
          (startAt (size ++ (packIntToStr index ++ rest)) 0)).1).effects
      rw [hread]
      exact repliesCarry_updateWithoutObject hinfo hi

theorem repliesCarry_describe (hasObject : Bool) (hinfo : w.serverMap[sid]? = some info)
    (hexists : index < m.attributes.size + m.methods.size) (hi : index < 32768) (rest : List UInt8) :
    RepliesCarry index (handler b hasObject w m sid (some .getAttrMetdDesc)
        (startAt (packIntToStr index ++ rest) 0)).1.1.effects ↔
      KeepsIndex m index .getAttrMetdDesc := by
  have heffects : (handler b hasObject w m sid (some .getAttrMetdDesc)
      (startAt (packIntToStr index ++ rest) 0)).1.1.effects =
        (describeElement b w m sid index).effects := by
    have hread : (getAttrMetdDesc b w m sid (startAt (packIntToStr index ++ rest) 0)).1 = _ :=
      getAttrMetdDesc_read hi rest 0 0
    cases hasObject with
    | true => exact congrArg Call.effects hread
    | false => exact congrArg Call.effects hread
  rw [heffects]
  exact repliesCarry_describeElement hinfo hexists hi

theorem repliesCarry_iff (b : Build) (hasObject : Bool) (decrypt : List UInt8 → Option (List UInt8))
    (skipdecrypt : Bool) {w : PyConnectWrapper} {m : PyConnectModule} {sid : Int} {idByte : UInt8}
    {index : Nat} {t : PyConnectMsg} {size rest recData : List UInt8}
    (hreg : Registered w m (sid % 16) idByte) (ht : Indexed t)
    (hexists : index < m.attributes.size + m.methods.size) (hindex : index ≤ 32767)
    (hsize : size.length = 4) (hrec : 1 ≤ recData.length)
    (hdec : (if skipdecrypt then some recData else decrypt recData) =
      some (header t sid :: idByte :: indexedBody t size index rest)) :
    RepliesCarry index (processInputOf b hasObject decrypt w recData skipdecrypt).effects ↔
      KeepsIndex m index t := by
  obtain ⟨info, hinfo, -⟩ := hreg.entry
  have hi : index < 32768 := by omega
  have hdir : Directed t := by cases t <;> trivial
  have heffects : (processInputOf b hasObject decrypt w recData skipdecrypt).effects =
      (handler b hasObject w m (sid % 16) (some t)
        (startAt (indexedBody t size index rest) 0)).1.1.effects := by
    rw [processInputOf, decrypted_eq skipdecrypt hrec hdec]
    exact congrArg Outcome.effects (processMessageWith_registered (handler b hasObject) hdir hreg _)
  rw [heffects]
  cases t with
  | callAttrMetd =>
      rw [indexedBody, if_neg (by decide)]
      refine iff_of_true ?_ fun h => by cases h
      exact repliesCarry_call hasObject hinfo hreg.module (.inl rfl) hsize hi rest
  | callAttrMetdNocb =>
      rw [indexedBody, if_neg (by decide)]
      refine iff_of_true ?_ fun h => by cases h
      exact repliesCarry_call hasObject hinfo hreg.module (.inr rfl) hsize hi rest
  | attrValueUpdate =>
      rw [indexedBody, if_neg (by decide)]
      refine iff_of_true ?_ fun h => by cases h
      exact repliesCarry_update hasObject hinfo hsize hi rest
  | getAttrMetdDesc =>
      rw [indexedBody, if_pos rfl, List.nil_append]
      exact repliesCarry_describe hasObject hinfo hexists hi rest
  | _ => exact ht.elim

def panel : PyConnectModule :=
  ((⟨[97], [], ∅, ∅⟩ : PyConnectModule).addNewAttribute [102] [] (.bool true) false).exportMethod
    [103] [104] [] none fun _ => .returnsVoid

def mounted : PyConnectWrapper where
  pyConnectModule := some panel
  serverMap := (∅ : Std.ExtTreeMap Int ServerInfo).insert 1 ⟨1, true⟩
  noResponse := false

theorem registered_mounted : Registered mounted panel 1 1 :=
  ⟨rfl, ⟨1, true⟩, by simp [mounted], rfl⟩

theorem repliesCarry_iff_call :
    RepliesCarry 1 (processInputOf ⟨.little, true, true⟩ true some mounted
      (header .callAttrMetd 1 :: 1 :: indexedBody .callAttrMetd [1, 0, 0, 0] 1 [msgEnd]) false).effects ↔
    KeepsIndex panel 1 .callAttrMetd :=
  repliesCarry_iff ⟨.little, true, true⟩ true some false (t := .callAttrMetd) registered_mounted
    trivial (by decide) (by decide) rfl (by decide) rfl

/-- Asked to describe the method, which has index 1, the wrapper answers for index 0. -/
theorem not_repliesCarry_describe :
    ¬ RepliesCarry 1 (processInputOf ⟨.little, true, true⟩ true some mounted
      (header .getAttrMetdDesc 1 :: 1 :: indexedBody .getAttrMetdDesc [] 1 [msgEnd]) false).effects := by
  intro h
  have hmem : Effect.dispatch [header .attrMetdResp 1, 1, 0, 2, 0, 0, 0, 0, 104, msgEnd] false ∈
      (processInputOf ⟨.little, true, true⟩ true some mounted
        (header .getAttrMetdDesc 1 :: 1 :: indexedBody .getAttrMetdDesc [] 1 [msgEnd]) false).effects := by
    decide +kernel
  have hread : (responseHeader .little (startAt [0, 2, 0, 0, 0, 0, 104, msgEnd] 0)).1.1 = 1 :=
    h _ hmem (by decide) .little
  exact absurd hread (by decide)

end PyConnect.ReplyIndex

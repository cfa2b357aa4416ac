import PyConnect.CallElements
import PyConnect.Maps

namespace PyConnect.AttributeUpdate

open Bytes Decoding Common Values ValueCodec Stub StubInput StubCall Wrapper WrapperInput Mirror
open MethodCall WrapperSends CallElements

variable {b : Build} {w : PyConnectWrapper} {m : PyConnectModule} {obj : PyConnectObject}
  {host sender : Host} {v : Value}

def updateBytes (host : Host) (i : Nat) (v : Value) : List UInt8 :=
  packLEInt host.bigEndian ((encode host v).length + packedIntLen i) ++
    (packIntToStr i ++ (encode host v ++ [msgEnd]))

def updateData (host : Host) (sid modId : Int) (i : Nat) (v : Value) : List UInt8 :=
  header .attrValueUpdate sid :: toByte modId :: 0 :: updateBytes host i v

theorem valueData_update (host : Host) (sid modId : Int) (i : Nat) (hv : v.Portable) :
    valueData host .attrValueUpdate sid modId i v .noErrors = updateData host sid modId i v := by
  have hn := packIntToStr_length i
  have hdata := Packet.data_eq (p := responsePacket host .attrValueUpdate sid modId
    PyConnectMsgStatus.noErrors.code i (encode host v).length (encode host v)) (by
      simp only [responsePacket, List.length_cons, List.length_append, List.length_nil, packLEInt,
        packNumber_length, Int.toNat_natCast, List.take_length]
      omega)
  rw [valueData, setData_sized host (sized_of_portable hv)]
  dsimp only
  rw [responseData, hdata]
  simp [responsePacket, updateData, updateBytes, PyConnectMsgStatus.code, toByte]

theorem toList_assign (m : PyConnectModule) (name : List UInt8) (v : Value) :
    (m.assign name v).attributes.toList =
      m.attributes.toList.map fun x => if x.1 = name then (x.1, { x.2 with value := v }) else x :=
  Maps.toList_modify m.attributes name _

theorem getElem_assign {i : Nat} {x : List UInt8 × Attribute} (hi : m.attributes.toList[i]? = some x)
    (v : Value) :
    (m.assign x.1 v).attributes.toList[i]? = some (x.1, { x.2 with value := v }) := by
  rw [toList_assign, List.getElem?_map, hi, Option.map_some, if_pos rfl]

theorem setValue_eq {i : Nat} {x : List UInt8 × Attribute} (hw : w.pyConnectModule = some m)
    (hi : m.attributes.toList[i]? = some x) (hv : v.Portable)
    (hs : ∀ y ∈ w.serverMap.toList, y.2.attributeUpdate = true) :
    setValue b w x.1 v = ({ w with pyConnectModule := some (m.assign x.1 v) },
      w.serverMap.toList.map fun y =>
        .dispatch (updateData b.host y.1 y.2.assignedModuleID i v) false) := by
  have hd := distance_getElem (getElem_assign hi v)
  have htold : told w = w.serverMap.toList := List.filter_eq_self.mpr hs
  dsimp only at hd
  rw [setValue_registered hw (mem_of_toList (List.mem_of_getElem? hi)), hd, htold]
  refine Prod.ext rfl (List.map_congr_left fun y _ => ?_)
  rw [updateEffect, valueData_update b.host y.1 y.2.assignedModuleID i hv]

theorem responseHeader_update (whost : Host) {i : Nat} (hi : i < 32768) (hv : v.Portable)
    (overrun : Nat) (remaining : Int) :
    responseHeader host ⟨0 :: updateBytes whost i v, overrun, remaining⟩ =
      ((i, 0), ⟨encode whost v ++ [msgEnd], overrun, (encode whost v).length⟩) := by
  have hl := encode_length_le whost (sized_of_portable hv)
  have hbyte := decodes_byte 0 (updateBytes whost i v) overrun remaining
  rw [List.singleton_append] at hbyte
  rw [responseHeader, bind_apply, hbyte]
  dsimp only
  rw [updateBytes, sizeAndIndex_apply whost.bigEndian host.bigEndian (by rfl) hi (by omega)]
  rfl

theorem objectMessage_update (whost : Host) (scope : CallbackScope) {i : Nat}
    {attr : PyConnectAttribute} (hattr : obj.pPyAttrs[i]? = some attr)
    (ht : attr.type = v.dataType.pyType) (hi : i < 32768) (hv : v.PyPortable) (remaining : Int) :
    let handled := (objectMessage host scope obj (some .attrValueUpdate)
      (startAt (0 :: updateBytes whost i v) remaining)).1
    handled.obj = obj.setValue i (v.toPy host) ∧ .crash ∉ handled.effects := by
  have hd := decodes_unpackStr whost host hv
  have hnull : PyObject.null ∉ [v.toPy host] := by cases v <;> simp [Value.toPy]
  rw [objectMessage, bind_apply, startAt, responseHeader_update whost hi (portable_of_pyPortable hv)]
  dsimp only
  rw [PyConnectObject.onGetAttrResp, hattr]
  dsimp only
  rw [if_neg (not_not.mpr rfl), ht, bind_apply, bind_apply, hd]
  refine ⟨rfl, ?_⟩
  change .crash ∉ obj.invoke _ _
  rw [PyConnectObject.invoke, invoke_eq hnull]
  simp

def Sendable : PyObject → Prop
  | .str utf8 => validUtf8 (cString utf8) = true ∧ (cString utf8).length ≤ maxStrLength
  | _ => True

theorem sentValue_of_validate (sender : Host) {t : DataType} {value : PyObject} (hs : Sendable value)
    (h : validateTypeAndSize value t.pyType ≠ 0) :
    ∃ v, sentValue sender t value = some v ∧ v.PyPortable ∧ v.dataType = t := by
  cases t with
  | int =>
      cases value with
      | int n | bool c => exact ⟨_, rfl, trivial, rfl⟩
      | _ => exact absurd rfl h
  | float | double =>
      cases value with
      | float x => exact ⟨_, rfl, trivial, rfl⟩
      | _ => exact absurd rfl h
  | string =>
      cases value with
      | str utf8 =>
          refine ⟨.string (cString utf8), ?_, ⟨not_mem_cString utf8, hs.2, hs.1⟩, rfl⟩
          rw [sentValue, if_pos hs.2]
      | _ => exact absurd rfl h
  | bool =>
      cases value with
      | bool c => exact ⟨_, rfl, trivial, rfl⟩
      | _ => exact absurd rfl h

theorem callAttrMetd_sets (sid : Int) {i : Nat} {x : List UInt8 × Attribute} {value : PyObject}
    (hx : m.attributes.toList[i]? = some x) (hwrite : x.2.isWritable = true) (hi : i < 32768)
    (hv : sentValue sender x.2.value.dataType value = some v) (overrun : Nat) (remaining : Int) :
    callAttrMetd b w m sid ⟨callBytes sender i (packToStr sender value x.2.type), overrun,
        remaining⟩ =
      (⟨(setValue b w x.1 v).1, (setValue b w x.1 v).2, .noErrors⟩, ⟨[msgEnd], overrun, 0⟩) := by
  obtain ⟨hget, -, -⟩ := packToStr_sent b.host hv
  have hlen := packToStr_length_le hv
  change DecodesWithin _ (packToStr sender value x.2.type) _
    ((packToStr sender value x.2.type).length : Int) at hget
  change (packToStr sender value x.2.type).length ≤ _ at hlen
  generalize packToStr sender value x.2.type = args at *
  rw [callAttrMetd_callBytes hi (by omega), callElement_attribute hx, setAttrValue, if_pos hwrite,
    validateAttribute_self hx, bind_apply, hget _ _ _ le_rfl, Int.sub_self]
  rfl

theorem moduleMessage_sets {t : PyConnectMsg} (ht : t = .callAttrMetd ∨ t = .callAttrMetdNocb)
    (sid : Int) {i : Nat} {x : List UInt8 × Attribute} {value : PyObject}
    (hx : m.attributes.toList[i]? = some x) (hwrite : x.2.isWritable = true) (hi : i < 32768)
    (hv : sentValue sender x.2.value.dataType value = some v) (remaining : Int) :
    ∃ c, let r := (moduleMessage b w m sid (some t)
        (startAt (callBytes sender i (packToStr sender value x.2.type)) remaining)).1.1
      r.wrapper = { (setValue b { w with noResponse := c } x.1 v).1 with noResponse := false } ∧
        r.effects = (setValue b { w with noResponse := c } x.1 v).2 := by
  have hcall := fun w => callAttrMetd_sets (b := b) (w := w) sid hx hwrite hi hv 0 remaining
  refine ⟨decide (t = .callAttrMetdNocb), ?_⟩
  dsimp only [startAt]
  rw [moduleMessage_call ht (hcall _)]
  exact ⟨rfl, rfl⟩

end PyConnect.AttributeUpdate

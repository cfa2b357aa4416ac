import PyConnect.CallElements

namespace PyConnect.CorruptedCall

open Bytes Decoding Common Values Wrapper WrapperInput WrapperSends MethodCall CallElements Mirror

variable {b : Build} {w : PyConnectWrapper} {m : PyConnectModule} {sid : Int} {index : Nat}

/-- How many bytes the next value takes, as far as the bytes tell. -/
def valueSize : DataType → List UInt8 → Nat
  | .int, _ => 4
  | .float, _ => 4
  | .double, _ => 8
  | .bool, _ => 1
  | .string, [] => 1
  | .string, x :: xs =>
      if x &&& 0x80 ≠ 0 then
        match xs with
        | [] => 2
        | y :: _ => 2 + (y.toNat <<< 7 ||| x.toNat &&& 0x7f)
      else 1 + x.toNat

/-- The bytes end before the last of these values does. -/
def EndsEarly : List DataType → List UInt8 → Prop
  | [], _ => False
  | t :: ts, values =>
      values.length < valueSize t values ∨ EndsEarly ts (values.drop (valueSize t values))

/-- The values that a call at this index is to bring, in the order in which
they are read. -/
inductive Takes (b : Build) (m : PyConnectModule) : Nat → List DataType → Prop
  | attr {i : Nat} {x : List UInt8 × Attribute} : m.attributes.toList[i]? = some x →
      x.2.isWritable = true → Takes b m i [x.2.value.dataType]
  | metd {i : Nat} {x : List UInt8 × Method} : m.methods.toList[i]? = some x →
      x.2.params ≠ [] → Takes b m (m.attributes.size + i)
        (if b.evalLeftToRight then x.2.params else x.2.params.reverse)

/-- The call is turned down: no method runs, no attribute changes, and an error
goes back. -/
structure TurnedDown (w : PyConnectWrapper) (o : Outcome) : Prop where
  uncalled : ∀ name args, .invoke name args ∉ o.effects
  unchanged : o.wrapper.pyConnectModule.map (·.attributes) = w.pyConnectModule.map (·.attributes)
  answered : ∃ data, .dispatch data false ∈ o.effects ∧
    PyConnectMsg.ofCode (msgTypeOf (data.headD 0)) = some .attrMetdResp ∧ lowNibble (data.getD 2 0) ≠ 0

theorem setValue_unanswered {name : List UInt8} (hw : w.pyConnectModule = some m)
    (hname : name ∈ m.attributes) (v : Value) {data : List UInt8} {broadcast : Bool}
    (h : .dispatch data broadcast ∈ (setValue b w name v).2) :
    PyConnectMsg.ofCode (msgTypeOf (data.headD 0)) = some .attrValueUpdate := by
  rw [setValue_registered hw hname, List.mem_map] at h
  obtain ⟨x, -, he⟩ := h
  obtain ⟨rfl, -⟩ := Effect.dispatch.inj he
  obtain ⟨tail, hd⟩ := valueData_header b.host .attrValueUpdate x.1 x.2.assignedModuleID
    (distance (m.assign name v).attributes name) v .noErrors
  rw [hd, List.headD_cons, msgTypeOf_header, PyConnectMsg.ofCode_code]

/-- The element that a call is for acts: the setter of an attribute stores a value,
or the method runs. -/
def Acts (m : PyConnectModule) (index : Nat) (m' : Option PyConnectModule) (effects : List Effect) :
    Prop :=
  match m.attributes.toList[index]? with
  | some x => ∃ v, m' = some (m.assign x.1 v)
  | none => ∃ name args, .invoke name args ∈ effects

theorem callElement_acts (sid : Int) {types : List DataType} (hw : w.pyConnectModule = some m)
    (htakes : Takes b m index types) (c : Cursor) :
    let r := (callElement b w m sid index c).1
    Acts m index r.wrapper.pyConnectModule r.effects ∧
      ((∃ name args, .invoke name args ∈ r.effects) ∨
        ∀ data broadcast, .dispatch data broadcast ∈ r.effects →
          PyConnectMsg.ofCode (msgTypeOf (data.headD 0)) ≠ some .attrMetdResp) := by
  cases htakes with
  | attr hx hwrite =>
      have hname := mem_of_toList (List.mem_of_getElem? hx)
      obtain ⟨status, hset⟩ := setAttrValue_sets (b := b) (w := w) hx hwrite c
      rw [callElement_attribute hx, hset]
      dsimp only
      rw [Acts, hx]
      refine ⟨⟨_, congrArg (·.1.pyConnectModule) (setValue_registered hw hname _)⟩, .inr ?_⟩
      intro data broadcast hd
      rw [setValue_unanswered hw hname _ hd]
      decide
  | @metd i x hx hparams =>
      have hnone : m.attributes.toList[m.attributes.size + i]? = none := by
        rw [List.getElem?_eq_none_iff, Std.ExtTreeMap.length_toList]
        exact Nat.le_add_right _ _
      obtain ⟨status, hcall⟩ := methodCall_invokes (b := b) (w := w) sid hx c
      rw [callElement_method hx, hcall]
      dsimp only
      rw [Acts, hnone]
      exact ⟨⟨_, _, List.mem_cons_self⟩, .inl ⟨_, _, List.mem_cons_self⟩⟩

/-- No call is turned down, whether its values end early or not: the setter or the
method runs. -/
theorem not_turnedDown (b : Build) (decrypt : List UInt8 → Option (List UInt8))
    {w : PyConnectWrapper} {m : PyConnectModule} {sid : Int} {idByte : UInt8} {index : Nat}
    {types : List DataType} {sender : Host} {declared : Int} {rest recData : List UInt8}
    (hreg : Registered w m (sid % 16) idByte) (htakes : Takes b m index types)
    (hindex : index ≤ 32767) (hrec : 1 ≤ recData.length)
    (hdec : decrypt recData = some (header .callAttrMetd sid :: idByte ::
      (packLEInt sender.bigEndian declared ++ (packIntToStr index ++ rest)))) :
    let o := processInput b decrypt w recData false
    ¬ TurnedDown w o ∧ Acts m index o.wrapper.pyConnectModule o.effects := by
  have hsize : (packLEInt sender.bigEndian declared).length = 4 := by
    rw [packLEInt, ValueCodec.packNumber_length]
  obtain ⟨k, hk⟩ := callAttrMetd_read (b := b) (serving w .callAttrMetd) m (sid % 16) hsize
    (by omega : index < 32768) rest 0 0
  let r := (callElement b (serving w .callAttrMetd) m (sid % 16) index ⟨rest, 0, k⟩).1
  have hserved : (processInput b decrypt w recData false).wrapper.pyConnectModule =
        r.wrapper.pyConnectModule ∧
      (processInput b decrypt w recData false).effects = r.effects := by
    rw [processInput_decrypted hrec hdec, processMessage_registered (t := .callAttrMetd) trivial hreg]
    dsimp only
    rw [moduleMessage_element (.inl rfl)]
    dsimp only [startAt]
    rw [hk]
    exact ⟨rfl, rfl⟩
  obtain ⟨hmodule, heffects⟩ := hserved
  obtain ⟨hacts, hunanswered⟩ := callElement_acts (w := serving w .callAttrMetd)
    (sid % 16) hreg.module htakes ⟨rest, 0, k⟩
  dsimp only
  rw [hmodule, heffects]
  refine ⟨fun h => ?_, hacts⟩
  obtain ⟨data, hd, ht, -⟩ := h.answered
  have huncalled := h.uncalled
  rw [heffects] at hd huncalled
  obtain ⟨name, args, hi⟩ | hn := hunanswered
  · exact huncalled name args hi
  · exact hn data false hd ht

def switch : PyConnectWrapper where
  pyConnectModule := some (((⟨[97], [], ∅, ∅⟩ : PyConnectModule).addNewAttribute [102] []
    (.bool true) true).exportMethod [103] [] [.bool] none fun _ => .returnsVoid)
  serverMap := (∅ : Std.ExtTreeMap Int ServerInfo).insert 1 ⟨1, true⟩
  noResponse := false

theorem not_turnedDown_switch :
    let o := processInput ⟨.little, true, true⟩ some switch
      (header .callAttrMetd 1 :: 1 :: (packLEInt false 1 ++ (packIntToStr 0 ++ [msgEnd]))) false
    ¬ TurnedDown switch o ∧ ∃ m, switch.pyConnectModule = some m ∧
      Acts m 0 o.wrapper.pyConnectModule o.effects := by
  have hdec : some (header .callAttrMetd 1 :: 1 ::
      (packLEInt Host.little.bigEndian 1 ++ (packIntToStr 0 ++ [msgEnd]))) = some _ := rfl
  obtain ⟨hno, hacts⟩ := not_turnedDown ⟨.little, true, true⟩ some
    (⟨rfl, ⟨1, true⟩, by simp [switch], rfl⟩ : Registered switch _ (1 % 16) 1)
    (.attr (i := 0) rfl rfl) (by decide) (by decide) hdec
  exact ⟨hno, _, rfl, hacts⟩

/-- Without the byte of the flag the attribute becomes false, and the method is
called with false. -/
theorem switch_acts :
    EndsEarly [.bool] [] ∧
      (processInput ⟨.little, true, true⟩ some switch
        (header .callAttrMetd 1 :: 1 :: callBytes .little 0 []) false).wrapper.pyConnectModule.map
          (fun m => m.attributes.toList.map fun x => x.2.value) = some [.bool false] ∧
      .invoke [103] [.bool false] ∈ (processInput ⟨.little, true, true⟩ some switch
        (header .callAttrMetd 1 :: 1 :: callBytes .little 1 []) false).effects ∧
      ¬ TurnedDown switch (processInput ⟨.little, true, true⟩ some switch
        (header .callAttrMetd 1 :: 1 :: callBytes .little 1 []) false) := by
  have h : .invoke [103] [.bool false] ∈ (processInput ⟨.little, true, true⟩ some switch
      (header .callAttrMetd 1 :: 1 :: callBytes .little 1 []) false).effects := by decide
  exact ⟨.inl (by decide), by decide, h, fun hn => hn.uncalled _ _ h⟩

end PyConnect.CorruptedCall

import PyConnect.CallElements

namespace PyConnect.ElementBounds

open Bytes Decoding Common Values Wrapper WrapperInput WrapperSends MethodCall CallElements Mirror

variable {b : Build} {w : PyConnectWrapper} {m : PyConnectModule} {sid : Int} {index : Nat}
  {t : PyConnectMsg}

/-- The messages that name an attribute or a method by its index. -/
def Indexed : PyConnectMsg → Prop
  | .callAttrMetd | .callAttrMetdNocb | .attrValueUpdate | .getAttrMetdDesc => True
  | _ => False

/-- Such a message after its type and id. All but one have a size before the
index. -/
def indexedBody (t : PyConnectMsg) (size : List UInt8) (index : Nat) (rest : List UInt8) :
    List UInt8 :=
  (if t = .getAttrMetdDesc then [] else size) ++ (packIntToStr index ++ rest)

def descAt (m : PyConnectModule) (index : Nat) : Option (List UInt8) :=
  if index < m.attributes.size then m.attributes.toList[index]?.map (·.2.desc)
  else m.methods.toList[index - m.attributes.size]?.map (·.2.desc)

/-- The wrapper touches the element at this index or none: nothing is left
undefined but the size of an answer with a description that is too long for an
int, a method that runs is the one at the index, and so is an attribute that is
set, which is writable. -/
structure InBounds (t : PyConnectMsg) (m : PyConnectModule) (index : Nat) (w' : PyConnectWrapper)
    (effects : List Effect) : Prop where
  defined : .stray ∈ effects → t = .getAttrMetdDesc ∧
    ∃ desc, descAt m index = some desc ∧ 2147483637 < desc.length
  calls : ∀ name args, .invoke name args ∈ effects → ∃ i metd, index = m.attributes.size + i ∧
    m.methods.toList[i]? = some (name, metd)
  sets : w'.pyConnectModule = some m ∨ ∃ (x : List UInt8 × Attribute) (v : Value),
    m.attributes.toList[index]? = some x ∧ x.2.isWritable = true ∧
      w'.pyConnectModule = some (m.assign x.1 v)

/-- A call is for a writable attribute or a method, a request for a description
for any element; a request for an update is checked by the code. -/
def Allowed (m : PyConnectModule) (index : Nat) : PyConnectMsg → Prop
  | .callAttrMetd | .callAttrMetdNocb =>
      (∃ x, m.attributes.toList[index]? = some x ∧ x.2.isWritable = true) ∨
        (m.attributes.size ≤ index ∧ index < m.attributes.size + m.methods.size)
  | .getAttrMetdDesc => index < m.attributes.size + m.methods.size
  | _ => True

theorem inBounds_dispatches {w' : PyConnectWrapper} {effects : List Effect}
    (he : ∀ e ∈ effects, ∃ data, e = .dispatch data false)
    (hsets : w'.pyConnectModule = some m ∨ ∃ (x : List UInt8 × Attribute) (v : Value),
      m.attributes.toList[index]? = some x ∧ x.2.isWritable = true ∧
        w'.pyConnectModule = some (m.assign x.1 v)) : InBounds t m index w' effects := by
  refine ⟨fun h => ?_, fun name args h => ?_, hsets⟩
  · obtain ⟨data, hd⟩ := he _ h
    cases hd
  · obtain ⟨data, hd⟩ := he _ h
    cases hd

theorem not_inBounds_stray (ht : t ≠ .getAttrMetdDesc) {w' : PyConnectWrapper} :
    ¬ InBounds t m index w' [.stray] :=
  fun h => ht (h.defined List.mem_cons_self).1

theorem inBounds_callElement (index : Nat) {info : ServerInfo} (hinfo : w.serverMap[sid]? = some info)
    (hw : w.pyConnectModule = some m) (ht : t = .callAttrMetd ∨ t = .callAttrMetdNocb) (c : Cursor) :
    let r := (callElement b w m sid index c).1
    InBounds t m index r.wrapper r.effects ↔ Allowed m index t := by
  have hne : t ≠ .getAttrMetdDesc := by obtain rfl | rfl := ht <;> decide
  have hallowed : Allowed m index t ↔
      (∃ x, m.attributes.toList[index]? = some x ∧ x.2.isWritable = true) ∨
        (m.attributes.size ≤ index ∧ index < m.attributes.size + m.methods.size) := by
    obtain rfl | rfl := ht <;> exact Iff.rfl
  rw [hallowed]
  obtain ⟨x, hx⟩ | ⟨i, x, rfl, hx⟩ | hn := element_cases m index
  · have hlt := lt_size_of_getElem hx
    rw [callElement_attribute hx]
    by_cases hwrite : x.2.isWritable = true
    · obtain ⟨status, hset⟩ := setAttrValue_sets (b := b) (w := w) hx hwrite c
      rw [hset, setValue_registered hw (mem_of_toList (List.mem_of_getElem? hx))]
      refine ⟨fun _ => .inl ⟨x, hx, hwrite⟩, fun _ => inBounds_dispatches (fun e he => ?_)
        (.inr ⟨x, _, hx, hwrite, rfl⟩)⟩
      obtain ⟨y, -, rfl⟩ := List.mem_map.mp he
      exact ⟨_, rfl⟩
    · rw [setAttrValue, if_neg hwrite]
      refine ⟨fun h => absurd h (not_inBounds_stray hne), fun h => ?_⟩
      rcases h with ⟨y, hy, hyw⟩ | h
      · rw [hx] at hy
        obtain rfl := Option.some.inj hy
        exact absurd hyw hwrite
      · omega
  · have hlt := lt_size_of_getElem hx
    obtain ⟨status, hcall⟩ := methodCall_invokes (b := b) (w := w) sid hx c
    rw [callElement_method hx, hcall]
    refine ⟨fun _ => .inr ⟨by omega, by omega⟩, fun _ => ?_⟩
    obtain ⟨hsame, hanswers⟩ := answers_answerCall (b := b) hinfo (m.attributes.size + i) x.2
      (customBind b x.2.params .noErrors c).1.1
    refine ⟨fun h => ?_, fun name args h => ?_, .inl (by dsimp only; rw [hsame, hw])⟩
    · rcases List.mem_cons.mp h with h | h
      · cases h
      · obtain ⟨tail, hd⟩ := hanswers _ h
        cases hd
    · rcases List.mem_cons.mp h with h | h
      · obtain ⟨rfl, -⟩ := Effect.invoke.inj h
        exact ⟨i, x.2, rfl, hx⟩
      · obtain ⟨tail, hd⟩ := hanswers _ h
        cases hd
  · rw [callElement_none hn]
    refine ⟨fun h => absurd h (not_inBounds_stray hne), fun h => ?_⟩
    rcases h with ⟨x, hx, -⟩ | h
    · have hlt := lt_size_of_getElem hx
      omega
    · omega

theorem inBounds_getElement {info : ServerInfo} (hinfo : w.serverMap[sid]? = some info)
    (hw : w.pyConnectModule = some m) :
    InBounds t m index (getElement b w m sid index).wrapper (getElement b w m sid index).effects := by
  rw [getElement]
  cases m.attributes.toList[index]? with
  | none => exact inBounds_dispatches (fun e he => absurd he List.not_mem_nil) (.inl hw)
  | some x =>
      obtain ⟨hsame, hanswers⟩ := answers_postAttrMetdData (b := b) hinfo index x.2.value
        (validateAttribute m index x.1)
      refine inBounds_dispatches (fun e he => ?_) (.inl (by
        change (getAttrValue b w m index x.1 x.2 sid).1.pyConnectModule = _
        rw [getAttrValue, hsame, hw]))
      obtain ⟨tail, hd⟩ := hanswers e he
      exact ⟨_, hd⟩

theorem inBounds_description {info : ServerInfo} (hinfo : w.serverMap[sid]? = some info)
    (hw : w.pyConnectModule = some m) {desc : List UInt8} (hdesc : descAt m index = some desc)
    (i : Int) :
    InBounds .getAttrMetdDesc m index
      (sendAttrMetdResponse b w PyConnectMsgStatus.noErrors.code i desc.length desc sid
        .attrMetdResp).1
      (sendAttrMetdResponse b w PyConnectMsgStatus.noErrors.code i desc.length desc sid
        .attrMetdResp).2 := by
  rw [sendAttrMetdResponse, serverEntry_eq hinfo]
  dsimp only
  refine ⟨fun h => ⟨rfl, desc, hdesc, ?_⟩, fun name args h => ?_, .inl hw⟩
  · by_contra hl
    rw [send_response _ _ _ _ _ _ _ (by omega), List.mem_singleton] at h
    cases h
  · rw [List.mem_singleton, send] at h
    split at h <;> cases h

theorem inBounds_describeElement {info : ServerInfo} (hinfo : w.serverMap[sid]? = some info)
    (hw : w.pyConnectModule = some m) :
    InBounds .getAttrMetdDesc m index (describeElement b w m sid index).wrapper
        (describeElement b w m sid index).effects ↔
      Allowed m index .getAttrMetdDesc := by
  rw [Allowed]
  obtain ⟨x, hx⟩ | ⟨i, x, rfl, hx⟩ | hn := element_cases m index
  · have hlt := lt_size_of_getElem hx
    have hdesc : descAt m index = some x.2.desc := by rw [descAt, if_pos hlt, hx]; rfl
    rw [describeElement]
    dsimp only
    rw [if_pos hlt, hx]
    exact ⟨fun _ => by omega, fun _ => inBounds_description hinfo hw hdesc _⟩
  · have hlt := lt_size_of_getElem hx
    have hdesc : descAt m (m.attributes.size + i) = some x.2.desc := by
      rw [descAt, if_neg (by omega), Nat.add_sub_cancel_left, hx]
      rfl
    rw [describeElement]
    dsimp only
    rw [if_neg (by omega), Nat.add_sub_cancel_left, hx]
    exact ⟨fun _ => by omega, fun _ => inBounds_description hinfo hw hdesc _⟩
  · have hm : m.methods.toList[index - m.attributes.size]? = none := by
      rw [List.getElem?_eq_none_iff, Std.ExtTreeMap.length_toList]
      omega
    have hdesc : descAt m index = none := by rw [descAt, if_neg (by omega), hm]; rfl
    rw [describeElement]
    dsimp only
    rw [if_neg (by omega), hm]
    refine ⟨fun h => ?_, fun h => by omega⟩
    obtain ⟨-, desc, hd, -⟩ := h.defined List.mem_cons_self
    rw [hdesc] at hd
    cases hd

/-- The wrapper stays in bounds exactly when a call is for a writable attribute
or a method, and a request for a description for an element that exists. -/
theorem inBounds_iff (b : Build) (decrypt : List UInt8 → Option (List UInt8))
    {w : PyConnectWrapper} {m : PyConnectModule} {sid : Int} {idByte : UInt8} {index : Nat}
    {t : PyConnectMsg} {size rest recData : List UInt8} (hreg : Registered w m (sid % 16) idByte)
    (ht : Indexed t) (hindex : index ≤ 32767) (hsize : size.length = 4) (hrec : 1 ≤ recData.length)
    (hdec : decrypt recData = some (header t sid :: idByte :: indexedBody t size index rest)) :
    InBounds t m index (processInput b decrypt w recData false).wrapper
        (processInput b decrypt w recData false).effects ↔ Allowed m index t := by
  obtain ⟨info, hinfo, -⟩ := hreg.entry
  have hlt : index < 32768 := by omega
  have hcall : ∀ t : PyConnectMsg, (t = .callAttrMetd ∨ t = .callAttrMetdNocb) →
      let r := (moduleMessage b w m (sid % 16) (some t)
        (startAt (size ++ (packIntToStr index ++ rest)) 0)).1.1
      InBounds t m index r.wrapper r.effects ↔ Allowed m index t := by
    intro t ht
    have hserve : (serving w t).serverMap[sid % 16]? = some info := hinfo
    obtain ⟨k, hk⟩ := callAttrMetd_read (b := b) (serving w t) m (sid % 16) hsize hlt rest 0 0
    have h := inBounds_callElement (b := b) index hserve hreg.module ht ⟨rest, 0, k⟩
    rw [moduleMessage_element ht, startAt, hk]
    exact ⟨fun hb => h.mp ⟨hb.defined, hb.calls, hb.sets⟩, fun ha => by
      have hb := h.mpr ha
      exact ⟨hb.defined, hb.calls, hb.sets⟩⟩
  rw [processInput_decrypted hrec hdec]
  cases t with
  | callAttrMetd =>
      rw [processMessage_registered (t := .callAttrMetd) trivial hreg]
      exact hcall .callAttrMetd (.inl rfl)
  | callAttrMetdNocb =>
      rw [processMessage_registered (t := .callAttrMetdNocb) trivial hreg]
      exact hcall .callAttrMetdNocb (.inr rfl)
  | attrValueUpdate =>
      rw [processMessage_registered (t := .attrValueUpdate) trivial hreg]
      dsimp only
      rw [moduleMessage_update, indexedBody, if_neg (by decide), startAt]
      dsimp only
      rw [attrValueUpdate_read hsize hlt]
      exact iff_true_intro (inBounds_getElement hinfo hreg.module)
  | getAttrMetdDesc =>
      rw [processMessage_registered (t := .getAttrMetdDesc) trivial hreg]
      dsimp only
      rw [moduleMessage_describe, indexedBody, if_pos rfl, List.nil_append, startAt]
      dsimp only
      rw [getAttrMetdDesc_read hlt]
      exact inBounds_describeElement hinfo hreg.module
  | _ => exact ht.elim

def reader : PyConnectModule :=
  (⟨[97], [], ∅, ∅⟩ : PyConnectModule).addNewAttribute [102] [] (.bool true) false

def reading : PyConnectWrapper where
  pyConnectModule := some reader
  serverMap := (∅ : Std.ExtTreeMap Int ServerInfo).insert 1 ⟨1, true⟩
  noResponse := false

theorem registered_reading : Registered reading reader 1 1 :=
  ⟨rfl, ⟨1, true⟩, by simp [reading], rfl⟩

theorem inBounds_iff_described :
    let o := processInput ⟨.little, true, true⟩ some reading
      (header .getAttrMetdDesc 1 :: 1 :: indexedBody .getAttrMetdDesc [0, 0, 0, 0] 0 [msgEnd]) false
    InBounds .getAttrMetdDesc reader 0 o.wrapper o.effects ↔ Allowed reader 0 .getAttrMetdDesc :=
  inBounds_iff ⟨.little, true, true⟩ some (t := .getAttrMetdDesc) registered_reading trivial
    (by decide) rfl (by decide) rfl

/-- A call of the read-only attribute is a call of a null function, and one of
index 1 uses an iterator past the end, as does a request to describe it. -/
theorem not_inBounds_reading :
    let after (t : PyConnectMsg) (index : Nat) := processInput ⟨.little, true, true⟩ some reading
      (header t 1 :: 1 :: indexedBody t [2, 0, 0, 0] index [0, msgEnd]) false
    ¬ InBounds .callAttrMetd reader 0 (after .callAttrMetd 0).wrapper (after .callAttrMetd 0).effects ∧
      ¬ InBounds .callAttrMetd reader 1 (after .callAttrMetd 1).wrapper
        (after .callAttrMetd 1).effects ∧
      ¬ InBounds .getAttrMetdDesc reader 1 (after .getAttrMetdDesc 1).wrapper
        (after .getAttrMetdDesc 1).effects := by
  refine ⟨fun h => ?_, fun h => ?_, fun h => ?_⟩
  · exact absurd (h.defined (by decide)).1 (by decide)
  · exact absurd (h.defined (by decide)).1 (by decide)
  · obtain ⟨-, desc, hd, -⟩ := h.defined (by decide)
    exact absurd hd (by rw [show descAt reader 1 = none by decide]; simp)

end PyConnect.ElementBounds

import PyConnect.MessageSize
import PyConnect.CallElements

namespace PyConnect.CallSize

open Decoding Common Values Extents MessageSize Wrapper WrapperInput CallElements

/-- A value of a call while so many bytes of it are left, and what is left after
it; a flag for which nothing is left ends the reading. -/
def callValue (t : DataType) (left : Int) : Extent (Option Int) :=
  if t = .bool ∧ left < 1 then pure none
  else do
    let x ← sized (value t.pyType)
    pure (some (left - x.2))

def callValues : List DataType → Option Int → Extent Unit
  | t :: ts, some left => do
      let left ← callValue t left
      callValues ts left
  | _, _ => pure ()

theorem spans_getData (host : Host) (t : DataType) :
    SpansFrom (getData host t .noErrors) (callValue t) fun x left =>
      if x.2 = .noErrors then some left else none := by
  have hnumber : ∀ (w : Nat) (make : Nat → Value) (zero : Value),
      SpansFrom (getNumber host w make zero .noErrors) (fun left => do
        let x ← sized (skip w)
        pure (some (left - x.2))) fun x left => if x.2 = .noErrors then some left else none := by
    intro w make zero c
    exact ⟨rfl, (spans_unpackLENumber host.bigEndian w c).moved⟩
  cases t with
  | int => exact hnumber 4 _ _
  | float => exact hnumber 4 _ _
  | double => exact hnumber 8 _ _
  | string =>
      intro c
      have hleft := remaining_unpackString c
      refine ⟨?_, (spans_unpackString true c).moved⟩
      change some (unpackString true c).2.remaining = some (c.remaining - (packedString true).size c.rest)
      rw [hleft]
  | bool =>
      intro c
      rw [getData, getBool, if_neg (fun h => h rfl), bind_apply, callValue]
      have hleft : (getRemaining c).1 - 1 < 0 ↔ c.remaining < 1 := by
        change c.remaining - 1 < 0 ↔ _
        omega
      by_cases h : c.remaining < 1
      · rw [if_pos (hleft.mpr h), if_pos ⟨rfl, h⟩]
        exact ⟨rfl, .still rfl rfl⟩
      · rw [if_neg (hleft.not.mpr h), if_neg (fun hb => h hb.2)]
        have hmoved : Moved c (byte c).2 1 := (spans_byte c).moved
        exact ⟨rfl, ⟨hmoved.rest, hmoved.overrun⟩⟩

theorem getData_corrupted (host : Host) (t : DataType) {status : PyConnectMsgStatus}
    (h : status ≠ .noErrors) (c : Cursor) : ∃ v, getData host t status c = ((v, status), c) := by
  have hnumber : ∀ (w : Nat) (make : Nat → Value) (zero : Value),
      getNumber host w make zero status c = ((zero, status), c) := by
    intro w make zero
    rw [getNumber, if_pos h]
    rfl
  cases t with
  | int => exact ⟨_, hnumber 4 _ _⟩
  | float => exact ⟨_, hnumber 4 _ _⟩
  | double => exact ⟨_, hnumber 8 _ _⟩
  | string =>
      rw [getData, getString, if_pos h]
      exact ⟨_, rfl⟩
  | bool =>
      rw [getData, getBool, if_pos h]
      exact ⟨_, rfl⟩

theorem callValues_nil (left : Option Int) : callValues [] left = pure () := by
  cases left <;> rfl

theorem callValues_none (params : List DataType) : callValues params none = pure () := by
  cases params <;> rfl

theorem spans_getArgs (host : Host) (params : List DataType) (status : PyConnectMsgStatus) :
    SpansFrom (getArgs host params status)
      (fun left => callValues params (if status = .noErrors then some left else none)) fun _ _ => () := by
  induction params generalizing status with
  | nil =>
      intro c
      dsimp only
      rw [callValues_nil]
      exact ⟨rfl, .still rfl rfl⟩
  | cons t ts ih =>
      by_cases h : status = .noErrors
      · subst h
        exact SpansFrom.bind (spans_getData host t) fun x c => ⟨rfl, (ih x.2 c).moved⟩
      · intro c
        obtain ⟨v, hv⟩ := getData_corrupted host t h c
        have hih := (ih status c).moved
        dsimp only at hih ⊢
        rw [getArgs, bind_apply, hv, if_neg h, callValues_none]
        rw [if_neg h, callValues_none] at hih
        exact ⟨rfl, hih⟩

/-- The types of the values that a call of this element is read with, in the
order of reading. -/
def parameters (b : Build) (m : PyConnectModule) (attrId : Nat) : List DataType :=
  if attrId < m.attributes.size then
    match m.attributes.toList[attrId]? with
    | some (_, attr) => if attr.isWritable then [attr.value.dataType] else []
    | none => []
  else
    match m.methods.toList[attrId - m.attributes.size]? with
    | some (_, metd) => if b.evalLeftToRight then metd.params else metd.params.reverse
    | none => []

def call (b : Build) (m : PyConnectModule) : Extent Unit := do
  let rDataSize ← leInt
  let attrId ← sized packedInt
  callValues (parameters b m attrId.1) (some (rDataSize - attrId.2))

/-- A message to the registered module after its id. -/
def moduleContents (b : Build) (m : PyConnectModule) : Option PyConnectMsg → Extent Unit
  | some .callAttrMetd => call b m
  | some .callAttrMetdNocb => call b m
  | some .attrValueUpdate => do
      let _ ← leInt
      let _ ← packedInt
      pure ()
  | some .getAttrMetdDesc => do
      let _ ← packedInt
      pure ()
  | _ => pure ()

/-- The types of the messages that the module looks for the end marker of. -/
def wrapperSwitch : Option PyConnectMsg → Bool
  | some .callAttrMetd => true
  | some .callAttrMetdNocb => true
  | some .attrValueUpdate => true
  | some .getAttrMetdDesc => true
  | _ => false

/-- All that a message to the module declares, the end marker included. -/
def wrapperContents (b : Build) (w : PyConnectWrapper) (m : PyConnectModule) : Extent Unit := do
  let first ← one
  let msgType := PyConnectMsg.ofCode (msgTypeOf first)
  if msgTypeOf first = 0 then pure ()
  else if msgType = some .moduleDiscovery then pure ()
  else if msgType = some .serverShutdown then pure ()
  else if msgType = some .moduleAssignId then do
    let _ ← one
    let _ ← packedString false
    pure ()
  else match w.serverMap[(lowNibble first : Int)]? with
    | none => pure ()
    | some info => do
        let modId ← one
        if info.assignedModuleID ≠ modId.toNat then pure ()
        else do
          moduleContents b m msgType
          endMarker (wrapperSwitch msgType)

theorem spans_customBind (b : Build) (params : List DataType) :
    SpansFrom (customBind b params .noErrors)
      (fun left => callValues (if b.evalLeftToRight then params else params.reverse) (some left))
      fun _ _ => () := by
  rw [customBind]
  split
  · exact spans_getArgs b.host params .noErrors
  · exact fun c => ⟨rfl, (spans_getArgs b.host params.reverse .noErrors c).moved⟩

variable {b : Build} {w : PyConnectWrapper} {m : PyConnectModule}

theorem spans_callElement (sid : Int) (index : Nat) :
    SpansFrom (callElement b w m sid index)
      (fun left => callValues (parameters b m index) (some left)) fun _ _ => () := by
  obtain ⟨x, hx⟩ | ⟨i, x, rfl, hx⟩ | hn := element_cases m index
  · have hparams : parameters b m index = if x.2.isWritable then [x.2.value.dataType] else [] := by
      rw [parameters, if_pos (lt_size_of_getElem hx), hx]
    rw [callElement_attribute hx, setAttrValue, hparams, validateAttribute_self hx]
    split
    · refine SpansFrom.bind (q := callValues []) (spans_getData b.host x.2.value.dataType) fun y c => ?_
      dsimp only
      rw [callValues_nil]
      exact ⟨rfl, .still rfl rfl⟩
    · exact SpansFrom.pure _ fun _ _ => ()
  · have hparams : parameters b m (m.attributes.size + i) =
        if b.evalLeftToRight then x.2.params else x.2.params.reverse := by
      rw [parameters, if_neg (by omega), Nat.add_sub_cancel_left, hx]
    rw [callElement_method hx, methodCall, hparams, validateMethod_self hx, if_pos rfl]
    exact fun c => ⟨rfl, (spans_customBind b x.2.params c).moved⟩
  · have hparams : parameters b m index = [] := by
      have hm : m.methods.toList[index - m.attributes.size]? = none := by
        rw [List.getElem?_eq_none_iff, Std.ExtTreeMap.length_toList]
        omega
      rw [parameters, if_neg (by omega), hm]
    rw [callElement_none hn, hparams]
    exact SpansFrom.pure _ fun _ _ => ()

theorem spans_callAttrMetd (sid : Int) : Spans (callAttrMetd b w m sid) (call b m) fun _ => () := by
  refine (spans_unpackLEInt b.host.bigEndian).bind fun rDataSize => ?_
  refine SpansFrom.afterSet rDataSize (m := fun left => do
    let attrId ← sized packedInt
    callValues (parameters b m attrId.1) (some (left - attrId.2))) ?_
  exact SpansFrom.bind (q := fun x => callValues (parameters b m x.1) (some x.2))
    (spans_unpackStrToInt.spends remaining_unpackStrToInt) fun attrId => spans_callElement sid attrId

theorem spans_attrValueUpdate (sid : Int) : Spans (attrValueUpdate b w m sid) (do
      let _ ← leInt
      let _ ← packedInt
      pure ()) fun _ => () := by
  refine (spans_unpackLEInt b.host.bigEndian).bind fun rDataSize =>
    (spans_setRemaining rDataSize).after fun _ => spans_unpackStrToInt.bind fun attrId => ?_
  cases m.attributes.toList[attrId]? with
  | some x => exact Spans.pure _ fun _ => ()
  | none => exact Spans.pure _ fun _ => ()

theorem spans_getAttrMetdDesc (sid : Int) : Spans (getAttrMetdDesc b w m sid) (do
      let _ ← packedInt
      pure ()) fun _ => () := by
  refine (spans_setRemaining 1).after fun _ => spans_unpackStrToInt.bind fun attrId => ?_
  dsimp only
  split
  · cases m.attributes.toList[attrId]? with
    | some x => exact Spans.pure _ fun _ => ()
    | none => exact Spans.pure _ fun _ => ()
  · cases m.methods.toList[attrId - m.attributes.size]? with
    | some x => exact Spans.pure _ fun _ => ()
    | none => exact Spans.pure _ fun _ => ()

theorem spans_moduleMessage (sid : Int) (t : Option PyConnectMsg) :
    Spans (moduleMessage b w m sid t) (moduleContents b m t) fun _ => () := by
  have hother : Spans (pure ((⟨w, [], .noErrors⟩ : Call), MesgProcessResult.processedFailed))
      (pure ()) fun _ => () := Spans.pure _ fun _ => ()
  rcases t with - | t
  · exact hother
  cases t with
  | callAttrMetd => exact (spans_callAttrMetd sid).map fun _ => rfl
  | callAttrMetdNocb => exact (spans_callAttrMetd sid).map fun _ => rfl
  | attrValueUpdate => exact (spans_attrValueUpdate sid).map fun _ => rfl
  | getAttrMetdDesc => exact (spans_getAttrMetdDesc sid).map fun _ => rfl
  | _ => exact hother

theorem result_moduleMessage (sid : Int) (t : Option PyConnectMsg) (c : Cursor) :
    (moduleMessage b w m sid t c).1.2 =
      if wrapperSwitch t then .processedOk else .processedFailed := by
  rcases t with - | t
  · rfl
  · cases t <;> rfl

theorem spans_moduleAssignId (sid : Int) :
    Spans (moduleAssignId b w sid) (do
      let _ ← one
      let _ ← packedString false
      pure ()) fun _ => () := by
  refine spans_byte.bind fun modId => (spans_setRemaining 0).after fun _ =>
    (spans_unpackString false).bind fun mName => ?_
  cases w.pyConnectModule with
  | none => exact Spans.pure _ fun _ => ()
  | some m =>
      dsimp only
      split
      · exact Spans.pure _ fun _ => ()
      · exact Spans.pure _ fun _ => ()

end PyConnect.CallSize

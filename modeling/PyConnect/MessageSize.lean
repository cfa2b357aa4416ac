import PyConnect.Extents
import PyConnect.StubInput

namespace PyConnect.MessageSize

open Bytes Decoding Common Values Extents Stub StubInput

def leNumber (w : Nat) : Extent Nat := do
  let data ← many w
  pure (ofLeBytes data)

def leInt : Extent Int := do
  let val ← leNumber 4
  pure (BitVec.ofNat 32 val).toInt

def packedInt : Extent Nat := do
  let b ← one
  if b &&& 0x80 ≠ 0 then
    let e ← one
    pure ((e.toNat <<< 7) ||| (b.toNat &&& 0x7f))
  else pure b.toNat

def stringLength (extendSize : Bool) : Extent Nat :=
  if extendSize then packedInt
  else do
    let b ← one
    pure b.toNat

def packedString (extendSize : Bool) : Extent (List UInt8) := do
  let strLen ← stringLength extendSize
  let str ← many strLen
  pure (cString str)

def value : PyConnectType → Extent Unit
  | .int => skip 4
  | .float => skip 4
  | .double => skip 8
  | .string => do
      let _ ← packedString true
      pure ()
  | .bool => skip 1
  | _ => pure ()

theorem spans_unpackLENumber (bigEndian : Bool) (w : Nat) :
    Spans (unpackLENumber bigEndian w) (leNumber w) id := by
  refine ((spans_bytes w).bindOf (P := fun data => data.length = w) ?_ fun data _ => ?_)
  · intro c
    rw [bytes, List.length_append, List.length_take, List.length_replicate]
    omega
  · refine (spans_spend w).after fun _ => ?_
    have he : hostValue bigEndian (if bigEndian then data.reverse else data) = ofLeBytes data := by
      cases bigEndian <;> simp [hostValue]
    rw [he]
    exact Spans.pure _ id

theorem spans_unpackLEInt (bigEndian : Bool) : Spans (unpackLEInt bigEndian) leInt id :=
  (spans_unpackLENumber bigEndian 4).bind fun _ => Spans.pure _ id

theorem spans_unpackStrToInt : Spans unpackStrToInt packedInt id := by
  refine spans_byte.bind fun b => ?_
  dsimp only [id]
  split
  · exact spans_byte.bind fun e => (spans_spend 2).after fun _ => Spans.pure _ id
  · exact (spans_spend 1).after fun _ => Spans.pure _ id

theorem spans_unpackString_body {d : Decoder Nat} {m : Extent Nat} (hd : Spans d m id) :
    Spans (do
      let strLen ← d
      if strLen = 0 then pure []
      else
        let str ← bytes strLen
        spend strLen
        pure (cString str)) (do
      let strLen ← m
      let str ← many strLen
      pure (cString str)) id := by
  refine hd.bind fun strLen => ?_
  dsimp only [id]
  split
  · next hz =>
      subst hz
      intro c
      have hnone : (many 0).content c.rest = [] := by simp [Extent.content, many]
      refine ⟨?_, .still rfl rfl⟩
      change [] = cString ((many 0).content c.rest)
      rw [hnone]
      rfl
  · exact (spans_bytes strLen).bind fun str => (spans_spend strLen).after fun _ => Spans.pure _ id

theorem spans_unpackString (extendSize : Bool) :
    Spans (unpackString extendSize) (packedString extendSize) id := by
  cases extendSize with
  | true => exact spans_unpackString_body spans_unpackStrToInt
  | false =>
      have hlen : Spans (do
          let b ← byte
          pure b.toNat) (stringLength false) id := spans_byte.bind fun _ => Spans.pure _ id
      exact spans_unpackString_body hlen

theorem spans_string : Spans (unpackString true) (value .string) fun _ => () :=
  (spans_unpackString true).observe (Yields.trivial _) fun _ _ => rfl

theorem remaining_unpackStrToInt (c : Cursor) :
    (unpackStrToInt c).2.remaining = c.remaining - packedInt.size c.rest := by
  rw [unpackStrToInt, bind_apply]
  by_cases h : (byte c).1 &&& 0x80 ≠ 0
  · have hsize : packedInt.size c.rest = 2 := by
      change 1 + ((if (byte c).1 &&& 0x80 ≠ 0 then _ else _ : Extent Nat) _).2 = 2
      rw [if_pos h]
      rfl
    rw [if_pos h, hsize]
    rfl
  · have hsize : packedInt.size c.rest = 1 := by
      change 1 + ((if (byte c).1 &&& 0x80 ≠ 0 then _ else _ : Extent Nat) _).2 = 1
      rw [if_neg h]
      rfl
    rw [if_neg h, hsize]
    rfl

theorem remaining_unpackString (c : Cursor) :
    (unpackString true c).2.remaining = c.remaining - (packedString true).size c.rest := by
  have hint := remaining_unpackStrToInt c
  have hlen : (unpackStrToInt c).1 = packedInt.content c.rest := (spans_unpackStrToInt c).content
  have hsize : (packedString true).size c.rest = packedInt.size c.rest + packedInt.content c.rest := rfl
  have hstring : unpackString true c =
      (if (unpackStrToInt c).1 = 0 then pure []
        else do
          let str ← bytes (unpackStrToInt c).1
          spend (unpackStrToInt c).1
          pure (cString str) : Decoder (List UInt8)) (unpackStrToInt c).2 := rfl
  rw [hstring, hsize, ← hlen]
  split
  · next hz =>
      rw [hz]
      change (unpackStrToInt c).2.remaining = _
      rw [hint, Nat.add_zero]
  · change (unpackStrToInt c).2.remaining - ((unpackStrToInt c).1 : Int) = _
    rw [hint]
    omega

theorem spans_unpackStr (host : Host) (t : PyConnectType) :
    Spans (unpackStr host t) (value t) fun _ => () := by
  have hnumber : ∀ (w : Nat) (make : Nat → PyObject), Spans (do
      let ret ← unpackLENumber host.bigEndian w
      pure (make ret)) (skip w) fun _ => () :=
    fun w _ c => ⟨rfl, (spans_unpackLENumber host.bigEndian w c).moved⟩
  cases t with
  | int => exact hnumber 4 _
  | float => exact hnumber 4 _
  | double => exact hnumber 8 _
  | string => exact spans_string.map fun _ => rfl
  | bool => exact fun c => ⟨rfl, (spans_byte c).moved⟩
  | _ => exact Spans.pure _ fun _ => ()

def attributeEntry : Extent Unit := do
  let flag ← one
  let _ ← packedString false
  value (PyConnectType.ofCode (flag.toNat &&& 0x3f))

def methodEntry : Extent Unit := do
  let _ ← one
  let _ ← packedString false
  let nofargs ← one
  times (nofargs.toNat &&& 0xf) (skip 1)

def exposition : Extent Unit := do
  let nofattrs ← packedInt
  times nofattrs attributeEntry
  let nofmetds ← packedInt
  times nofmetds methodEntry

/-- The index and the error code of a response or update. -/
def response : Extent (Nat × Nat) := do
  let err ← one
  let _ ← leInt
  let amind ← packedInt
  pure (amind, lowNibble err)

/-- What follows them: a value, if there is no error and the index is known. -/
def result (err : Nat) : Option PyConnectType → Extent Unit
  | some type => if err ≠ 0 then pure () else value type
  | none => pure ()

def attrType (obj : PyConnectObject) (index : Nat) : Option PyConnectType :=
  obj.pPyAttrs[index]?.map (·.type)

def metdType (obj : PyConnectObject) (index : Nat) : Option PyConnectType :=
  obj.pPyMetds[index - obj.pPyAttrs.length]?.map (·.type)

/-- ATTR_METD_DESC, and whether the object has all that it describes. -/
def descriptions (obj : PyConnectObject) : Extent Bool := do
  let nofattrs ← packedInt
  times nofattrs (value .string)
  let nofmetds ← packedInt
  times nofmetds (value .string)
  pure (decide (nofattrs ≤ obj.pPyAttrs.length) && decide (nofmetds ≤ obj.pPyMetds.length))

/-- A message to a registered object after its id, and whether the object has
all elements that it is said to have. -/
def objectContents (obj : PyConnectObject) : Option PyConnectMsg → Extent Bool
  | some .attrMetdExpose => do
      exposition
      pure true
  | some .attrMetdResp => do
      let (amind, err) ← response
      result err ((attrType obj amind).or (metdType obj amind))
      pure true
  | some .attrValueUpdate => do
      let (amind, err) ← response
      result err (attrType obj amind)
      pure true
  | some .attrMetdDesc => descriptions obj
  | _ => pure true

/-- The types of the messages that the server looks for the end marker of. -/
def stubSwitch : Option PyConnectMsg → Bool
  | some .attrMetdExpose => true
  | some .attrMetdResp => true
  | some .attrValueUpdate => true
  | some .attrMetdDesc => true
  | _ => false

def endMarker (switched : Bool) : Extent Unit := if switched then skip 1 else pure ()

/-- MODULE_DECLARE. The description of a module that is known is not looked at. -/
def declaration (s : PyConnectStub) : Extent Bool := do
  let _ ← one
  let mName ← packedString false
  match findModuleByName s mName with
  | none => do
      value .string
      pure true
  | some _ => pure true

/-- All that a message to the server declares, the end marker included, and
whether the object that it is for has all that it describes. -/
def stubContents (s : PyConnectStub) : Extent Bool := do
  let first ← one
  let msgType := PyConnectMsg.ofCode (msgTypeOf first)
  if msgTypeOf first = 0 then pure true
  else if msgType = some .moduleDeclare then declaration s
  else if msgType = some .moduleShutdown then do
    let _ ← one
    pure true
  else if msgType = some .peerServerMsg then do
    value .string
    pure true
  else if msgType = some .peerServerDiscovery then pure true
  else do
    let idByte ← one
    match findModuleByID s (lowNibble idByte) with
    | none => pure true
    | some obj => do
        let described ← objectContents obj msgType
        endMarker (stubSwitch msgType)
        pure described

theorem spans_exposeAttribute (host : Host) (obj : PyConnectObject) :
    Spans (exposeAttribute host obj) attributeEntry fun _ => () :=
  spans_byte.bind fun _ => (spans_unpackString false).bind fun _ =>
    (spans_unpackStr host _).map fun _ => rfl

theorem spans_exposeArgument (args : List PyConnectArgument) :
    Spans (exposeArgument args) (skip 1) fun _ => () :=
  fun c => ⟨rfl, (spans_byte c).moved⟩

theorem spans_exposeMethod (obj : PyConnectObject) :
    Spans (exposeMethod obj) methodEntry fun _ => () :=
  spans_byte.bind fun _ => (spans_unpackString false).bind fun _ => spans_byte.bind fun _ =>
    (Spans.forCount (fun _ => spans_exposeArgument) 0 _ []).map fun _ => rfl

theorem spans_attrMetdExpose (host : Host) (obj : PyConnectObject) :
    Spans (attrMetdExpose host obj) exposition fun _ => () :=
  spans_unpackStrToInt.bind fun nofattrs =>
    (Spans.forCount (fun _ => spans_exposeAttribute host) 0 nofattrs obj).bind fun obj =>
      spans_unpackStrToInt.bind fun nofmetds =>
        Spans.forCount (fun _ => spans_exposeMethod) 0 nofmetds obj

theorem spans_responseHeader (host : Host) : Spans (responseHeader host) response id :=
  spans_byte.bind fun _ => (spans_unpackLEInt host.bigEndian).bind fun datalen =>
    (spans_setRemaining datalen).after fun _ => spans_unpackStrToInt.bind fun _ => Spans.pure _ id

theorem spans_result (host : Host) (t : PyConnectType) (err : Nat) (failed : γ) (done : PyObject → γ) :
    Spans (if err ≠ 0 then pure failed
      else do
        let retVal ← unpackStr host t
        pure (done retVal)) (result err (some t)) fun _ => () := by
  rw [result]
  split
  · exact Spans.pure failed fun _ => ()
  · exact (spans_unpackStr host t).map fun _ => rfl

theorem spans_onGetAttrResp (host : Host) (obj : PyConnectObject) (index err : Nat) :
    Spans (obj.onGetAttrResp host index err) (result err (attrType obj index)) fun _ => () := by
  rw [PyConnectObject.onGetAttrResp, attrType]
  cases obj.pPyAttrs[index]? with
  | some attr => exact spans_result host attr.type err _ _
  | none => exact Spans.pure _ fun _ => ()

theorem spans_onSetAttrMetdResp (host : Host) (obj : PyConnectObject) (index err : Nat) :
    Spans (obj.onSetAttrMetdResp host index err)
      (result err ((attrType obj index).or (metdType obj index))) fun _ => () := by
  rw [PyConnectObject.onSetAttrMetdResp, attrType, metdType]
  cases obj.pPyAttrs[index]? with
  | some attr => exact spans_result host attr.type err _ _
  | none =>
      cases obj.pPyMetds[index - obj.pPyAttrs.length]? with
      | some metd => exact spans_result host metd.type err _ _
      | none => exact Spans.pure _ fun _ => ()

/-- After a number of rounds, a round has strayed if that number is larger than
the list. -/
structure Rounds (obj : PyConnectObject) (strayed : Bool) (length n : Nat) (d : Described) : Prop where
  stray : d.stray = (strayed || decide (length < n))
  attrs : d.obj.pPyAttrs.length = obj.pPyAttrs.length
  metds : d.obj.pPyMetds.length = obj.pPyMetds.length

theorem rounds_zero {obj : PyConnectObject} {d : Described} {length : Nat}
    (hattrs : d.obj.pPyAttrs.length = obj.pPyAttrs.length)
    (hmetds : d.obj.pPyMetds.length = obj.pPyMetds.length) : Rounds obj d.stray length 0 d :=
  ⟨by simp, hattrs, hmetds⟩

theorem stray_succ (strayed : Bool) (length n : Nat) :
    ((strayed || decide (length < n)) || decide (length ≤ n)) = (strayed || decide (length < n + 1)) := by
  rw [Bool.or_assoc, ← Bool.decide_or]
  congr 1
  exact decide_eq_decide.mpr (by omega)

theorem rounds_describeAttribute {obj : PyConnectObject} {strayed : Bool} (i : Nat) (d : Described)
    (h : Rounds obj strayed obj.pPyAttrs.length i d) :
    Yields (describeAttribute i d) (Rounds obj strayed obj.pPyAttrs.length (i + 1)) := by
  refine .after fun desc => .pure ⟨?_, ?_, h.metds⟩
  · rw [h.stray, h.attrs, stray_succ]
  · rw [List.length_modify, h.attrs]

theorem rounds_describeMethod {obj : PyConnectObject} {strayed : Bool} (i : Nat) (d : Described)
    (h : Rounds obj strayed obj.pPyMetds.length i d) :
    Yields (describeMethod i d) (Rounds obj strayed obj.pPyMetds.length (i + 1)) := by
  refine .after fun desc => .pure ⟨?_, h.attrs, ?_⟩
  · rw [h.stray, h.metds, stray_succ]
  · rw [List.length_modify, h.metds]

theorem spans_describeAttribute (i : Nat) (d : Described) :
    Spans (describeAttribute i d) (value .string) fun _ => () :=
  spans_string.map fun _ => rfl

theorem spans_describeMethod (i : Nat) (d : Described) :
    Spans (describeMethod i d) (value .string) fun _ => () :=
  spans_string.map fun _ => rfl

theorem spans_onSetAttrMetdDesc (obj : PyConnectObject) :
    Spans obj.onSetAttrMetdDesc (descriptions obj) fun d => !d.stray := by
  refine spans_unpackStrToInt.bind fun nofattrs => ?_
  refine (Spans.forCount spans_describeAttribute 0 nofattrs _).bindOf
    (Yields.forCountFrom rounds_describeAttribute 0 nofattrs (rounds_zero rfl rfl)) fun d hd => ?_
  refine spans_unpackStrToInt.bind fun nofmetds => ?_
  rw [Nat.zero_add] at hd
  refine (Spans.forCount spans_describeMethod 0 nofmetds d).observe
    (Yields.forCountFrom rounds_describeMethod 0 nofmetds (rounds_zero hd.attrs hd.metds))
    fun d' hd' => ?_
  rw [Nat.zero_add] at hd'
  rw [hd'.stray, hd.stray, Bool.false_or, Bool.not_or, ← decide_not, ← decide_not]
  simp only [Nat.not_lt, id]

/-- No index has gone past the end of a vector. -/
def inVectors (effects : List Effect) : Bool := decide (.stray ∉ effects)

theorem spans_objectMessage (host : Host) (scope : CallbackScope) (obj : PyConnectObject)
    (t : Option PyConnectMsg) :
    Spans (objectMessage host scope obj t) (objectContents obj t) fun h => inVectors h.effects := by
  have hidle : Spans (pure (⟨obj, [], false⟩ : Handled)) (pure true) fun h => inVectors h.effects :=
    Spans.pure _ fun h : Handled => inVectors h.effects
  have hpure : ∀ h : Handled, (∀ e ∈ h.effects, e ≠ .stray) →
      Spans (pure h) (pure true) fun h => inVectors h.effects := fun h hnone c =>
    ⟨decide_eq_true fun hmem => hnone _ hmem rfl, .still rfl rfl⟩
  have hcall : ∀ scope fnName arg, Effect.invokeCallback scope fnName arg ≠ .stray := nofun
  have hcrash : Effect.crash ≠ .stray := nofun
  rcases t with - | t
  · exact hidle
  cases t with
  | attrMetdExpose =>
      refine (spans_attrMetdExpose host obj).bind fun obj' => hpure _ ?_
      dsimp only
      split
      · exact List.forall_mem_singleton.mpr hcrash
      · exact forall_invoke _ (fun _ => hcall _ _ _) hcrash
  | attrMetdResp =>
      refine (spans_responseHeader host).bind fun x =>
        (spans_onSetAttrMetdResp host obj x.1 x.2).bindOf
          (forall_onSetAttrMetdResp host obj x.1 x.2 (hcall _) hcrash) fun y hy => hpure _ hy
  | attrValueUpdate =>
      refine (spans_responseHeader host).bind fun x =>
        (spans_onGetAttrResp host obj x.1 x.2).bindOf
          (forall_onGetAttrResp host obj x.1 x.2 (hcall _) hcrash) fun y hy => hpure _ hy
  | attrMetdDesc =>
      refine (spans_onSetAttrMetdDesc obj).map fun d => ?_
      cases hd : d.stray <;> simp [inVectors]
  | _ => exact hidle

theorem known_objectMessage (host : Host) (scope : CallbackScope) (obj : PyConnectObject)
    (t : Option PyConnectMsg) :
    Yields (objectMessage host scope obj t) fun h => h.known = stubSwitch t := by
  rcases t with - | t
  · exact .pure rfl
  cases t with
  | attrMetdExpose => exact .after fun _ => .pure rfl
  | attrMetdResp => exact .after fun _ => .after fun _ => .pure rfl
  | attrValueUpdate => exact .after fun _ => .after fun _ => .pure rfl
  | attrMetdDesc => exact .after fun _ => .pure rfl
  | _ => exact .pure rfl

end PyConnect.MessageSize

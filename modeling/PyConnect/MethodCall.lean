import PyConnect.MirrorMessage
import PyConnect.StubCall
import PyConnect.StubMessage
import PyConnect.WrapperInput

namespace PyConnect.MethodCall

open Bytes Decoding Common Values ValueCodec Stub StubCall StubInput StubMessage Wrapper
  WrapperInput Mirror MirrorMessage

variable {sender : Host} {b : Build} {m : PyConnectModule} {obj : PyConnectObject}

/-- A module's proxy as registration made it; the values it shows may have
changed since. A description carries at most 15 arguments of a method. -/
structure Proxy (b : Build) (m : PyConnectModule) (obj : PyConnectObject) : Prop where
  id : 0 ≤ obj.id
  order : obj.argEvalReversed = b.clang
  attributes : obj.pPyAttrs.length = m.attributes.size
  methods : obj.pPyMetds = m.methods.toList.mapIdx mirrorMethod
  arity : ∀ x ∈ m.methods.toList, x.2.args.length ≤ 15

theorem Proxy.of_mirrors {host : Host} (hm : Exportable m) (h : Mirrors host m obj)
    (hid : 0 ≤ obj.id) (horder : obj.argEvalReversed = b.clang) : Proxy b m obj where
  id := hid
  order := horder
  attributes := by rw [h.attributes, List.length_map, Std.ExtTreeMap.length_toList]
  methods := h.methods
  arity := hm.arity

theorem create_order (b : Build) (name : List UInt8) (id : Int) (desc : Option (List UInt8)) :
    (PyConnectObject.create name id desc (if b.clang then 1 else 0)).argEvalReversed = b.clang := by
  cases h : b.clang <;> simp [PyConnectObject.create]

/-- What addNewModule creates is a proxy once the two description messages
have made it mirror the module. -/
theorem Proxy.of_described {host : Host} {scope : CallbackScope} {t t' : Option PyConnectMsg}
    {c c' : Cursor} {name : List UInt8} {id : Int} {desc : Option (List UInt8)}
    (hobj : obj = PyConnectObject.create name id desc (if b.clang then 1 else 0))
    (hm : Exportable m) (hid : 0 ≤ id)
    (hmirrors : Mirrors host m
      (objectMessage host scope (objectMessage host scope obj t c).1.obj t' c').1.obj) :
    Proxy b m (objectMessage host scope (objectMessage host scope obj t c).1.obj t' c').1.obj := by
  have hfixed := (objectMessage_fixed host scope
    (objectMessage host scope obj t c).1.obj t' c').trans (objectMessage_fixed host scope obj t c)
  simp only [fixed, Prod.mk.injEq] at hfixed
  obtain ⟨hid', -, horder⟩ := hfixed
  apply Proxy.of_mirrors hm hmirrors
  · rw [hid', hobj]
    exact hid
  · rw [horder, hobj]
    exact create_order b name id desc

theorem Proxy.setValue (h : Proxy b m obj) (index : Nat) (value : PyObject) :
    Proxy b m (obj.setValue index value) :=
  ⟨h.id, h.order, (List.length_modify ..).trans h.attributes, h.methods, h.arity⟩

theorem Proxy.assign (h : Proxy b m obj) (name : List UInt8) (value : Value) :
    Proxy b (m.assign name value) obj :=
  ⟨h.id, h.order, h.attributes.trans Std.ExtTreeMap.size_modify.symm, h.methods, h.arity⟩

def argValues (host : Host) : List DataType → List PyObject → Option (List Value)
  | [], [] => some []
  | t :: ts, arg :: args => do
      let v ← argValue host t arg
      let vs ← argValues host ts args
      some (v :: vs)
  | _, _ => none

/-- A parameter, what is passed for it and what it is to receive. -/
structure Passing where
  type : DataType
  arg : PyObject
  value : Value

def Passing.Valid (host : Host) (x : Passing) : Prop := argValue host x.type x.arg = some x.value

def Passing.bytes (host : Host) (x : Passing) : List UInt8 := packToStr host x.arg x.type.pyType

def Passing.declared (x : Passing) : PyObject × PyConnectArgument := (x.arg, ⟨x.type.pyType, false⟩)

theorem passings_of_argValues {ts : List DataType} {args : List PyObject} {vs : List Value}
    (h : argValues sender ts args = some vs) :
    ∃ xs : List Passing, (∀ x ∈ xs, x.Valid sender) ∧ xs.map (·.type) = ts ∧
      xs.map (·.arg) = args ∧ xs.map (·.value) = vs := by
  induction ts generalizing args vs with
  | nil =>
      cases args with
      | nil =>
          obtain rfl := Option.some.inj h
          exact ⟨[], by simp⟩
      | cons arg args => cases h
  | cons t ts ih =>
      cases args with
      | nil => cases h
      | cons arg args =>
          simp only [argValues, Option.bind_eq_bind, Option.bind_eq_some_iff] at h
          obtain ⟨v, hv, vs', hvs, he⟩ := h
          obtain rfl := Option.some.inj he
          obtain ⟨xs, hx, rfl, rfl, rfl⟩ := ih hvs
          exact ⟨⟨t, arg, v⟩ :: xs, by simpa [Passing.Valid, hv] using hx, rfl, rfl, rfl⟩

theorem decodes_getArgs (xs : List Passing) (hx : ∀ x ∈ xs, x.Valid sender) :
    DecodesWithin (getArgs b.host (xs.map (·.type)) .noErrors) (xs.flatMap (·.bytes sender))
      (xs.map (·.value), .noErrors) (xs.flatMap (·.bytes sender)).length := by
  induction xs with
  | nil => exact (Decodes.pure _).within
  | cons x xs ih =>
      have hhead := (packToStr_getData b.host (hx x List.mem_cons_self)).1
      have htail := (ih fun y hy => hx y (List.mem_cons_of_mem x hy)).map
        fun r : List Value × PyConnectMsgStatus => (x.value :: r.1, r.2)
      have h := hhead.bind (f := fun r : Value × PyConnectMsgStatus => do
        let s ← getArgs b.host (xs.map (·.type)) r.2
        pure (r.1 :: s.1, s.2)) htail (Int.natCast_nonneg _)
      rw [← Int.natCast_add, ← List.length_append] at h
      exact h

theorem packArgs_declared (reversed : Bool) (xs : List Passing) :
    packArgs sender reversed (xs.map (·.declared)) =
      (if reversed then xs else xs.reverse).flatMap (·.bytes sender) := by
  rw [packArgs]
  cases reversed with
  | true => exact List.flatMap_map _ _ _
  | false =>
      rw [if_neg Bool.false_ne_true, if_neg Bool.false_ne_true, ← List.map_reverse]
      exact List.flatMap_map _ _ _

theorem decodes_customBind (b : Build) (xs : List Passing) (hx : ∀ x ∈ xs, x.Valid sender) :
    DecodesWithin (customBind b (xs.map (·.type)) .noErrors)
      (packArgs sender b.evalLeftToRight (xs.map (·.declared))) (xs.map (·.value), .noErrors)
      (packArgs sender b.evalLeftToRight (xs.map (·.declared))).length := by
  rw [packArgs_declared, customBind]
  cases b.evalLeftToRight with
  | true => exact decodes_getArgs xs hx
  | false =>
      have h := (decodes_getArgs (b := b) xs.reverse (by simpa using hx)).map
        fun r : List Value × PyConnectMsgStatus => (r.1.reverse, r.2)
      rw [List.map_reverse, List.map_reverse, List.reverse_reverse] at h
      exact h

theorem argsSize_declared (xs : List Passing) (hx : ∀ x ∈ xs, x.Valid sender) (i : Nat) :
    argsSize i (xs.map (·.declared)) = .ok ((xs.flatMap (·.bytes sender)).length : Int) := by
  induction xs generalizing i with
  | nil => rfl
  | cons x xs ih =>
      obtain ⟨-, hsize, hpos⟩ := packToStr_getData sender (hx x List.mem_cons_self)
      have hdecl : validateTypeAndSize x.declared.1 x.declared.2.type =
          ((x.bytes sender).length : Int) := hsize
      have hne : validateTypeAndSize x.declared.1 x.declared.2.type ≠ 0 := by
        rw [hdecl, Passing.bytes]
        omega
      have hxs := ih (fun y hy => hx y (List.mem_cons_of_mem x hy)) (i + 1)
      rw [List.map_cons, argsSize, if_neg hne, hxs, hdecl, List.flatMap_cons, List.length_append,
        Int.natCast_add]
      rfl

theorem length_packArgs (sender : Host) (reversed : Bool) (xs : List Passing) :
    (packArgs sender reversed (xs.map (·.declared))).length =
      (xs.flatMap (·.bytes sender)).length := by
  rw [packArgs_declared]
  cases reversed with
  | true => rfl
  | false =>
      rw [if_neg Bool.false_ne_true, List.length_flatMap, List.length_flatMap, List.map_reverse,
        List.sum_reverse]

theorem packToStr_length_le {t : DataType} {arg : PyObject} {v : Value}
    (h : sentValue sender t arg = some v) : (packToStr sender arg t.pyType).length ≤ 32769 := by
  obtain ⟨-, hsize, -⟩ := packToStr_sent sender h
  cases t with
  | string =>
      cases arg with
      | str utf8 =>
          rw [sentValue, Option.ite_none_right_eq_some] at h
          obtain ⟨hl, -⟩ := h
          have hp := packedIntLen_le (cString utf8).length
          rw [maxStrLength] at hl
          rw [DataType.pyType, validateTypeAndSize_str (by omega)] at hsize
          rw [DataType.pyType]
          omega
      | _ => cases h
  | bool => exact Nat.le_of_ble_eq_true rfl
  | int | float | double =>
      simp only [packToStr, DataType.pyType, packNumber_length]
      decide

theorem bytes_length_le (xs : List Passing) (hx : ∀ x ∈ xs, x.Valid sender) :
    (xs.flatMap (·.bytes sender)).length ≤ xs.length * 32769 := by
  induction xs with
  | nil => simp
  | cons x xs ih =>
      have hhead := packToStr_length_le (sentValue_of_argValue (hx x List.mem_cons_self))
      have htail := ih fun y hy => hx y (List.mem_cons_of_mem x hy)
      rw [List.flatMap_cons, List.length_append, List.length_cons, Passing.bytes]
      omega

def callBytes (host : Host) (index : Nat) (argStr : List UInt8) : List UInt8 :=
  packLEInt host.bigEndian (packedIntLen index + argStr.length) ++
    (packIntToStr index ++ (argStr ++ [msgEnd]))

theorem callPacket_send {s : PyConnectStub} {objID : Int} {index : Nat} {argStr : List UInt8}
    (t : PyConnectMsg) (hargs : argStr.length ≤ 491535) :
    Stub.send (callPacket sender s objID index argStr t) =
      .dispatch (header t s.serverID :: toByte objID :: callBytes sender index argStr) false := by
  have hp := packedIntLen_le index
  have hn := packIntToStr_length index
  have hdata := Packet.data_eq (p := callPacket sender s objID index argStr t) (by
    simp only [callPacket, List.length_cons, List.length_append, List.length_nil, packLEInt,
      packNumber_length]
    omega)
  rw [Stub.send_eq (by simp only [callPacket]; omega), hdata]
  simp [callPacket, callBytes]

theorem pyCall_dispatches {s : PyConnectStub} {i : Nat} {x : List UInt8 × Method}
    {xs : List Passing} (hobj : Proxy b m obj) (hi : m.methods.toList[i]? = some x)
    (hx : ∀ y ∈ xs, y.Valid sender) (hparams : xs.map (·.type) = x.2.params)
    (hargs : x.2.args = x.2.params.map fun t => ⟨t.pyType, false⟩) :
    pyCall sender s obj (mirrorMethod i x) (xs.map (·.arg)) =
      ⟨obj, [.dispatch (header (if obj.noCallback then .callAttrMetdNocb else .callAttrMetd)
        s.serverID :: toByte obj.id :: callBytes sender (m.attributes.size + i)
          (packArgs sender b.clang (xs.map (·.declared)))) false], none, false⟩ := by
  have hmirror : mirrorArgs x.2.args = xs.map fun y => ⟨y.type.pyType, false⟩ := by
    rw [hargs, ← hparams, mirrorArgs, List.map_map, List.map_map]
    rfl
  have hopt : (x.2.args.filter (·.isOptional)).length = 0 := by
    rw [hargs]
    simp
  have hzip : (xs.map (·.arg)).zip (xs.map fun y => (⟨y.type.pyType, false⟩ : PyConnectArgument)) =
      xs.map (·.declared) := List.zip_map'
  have hlen : xs.length ≤ 15 := by
    have h := hobj.arity x (List.mem_of_getElem? hi)
    rwa [hargs, ← hparams, List.length_map, List.length_map] at h
  have hsize := bytes_length_le xs hx
  have hpack := length_packArgs sender b.clang xs
  have hid : ¬ obj.id < 0 := Int.not_lt.mpr hobj.id
  have hcount : ¬ (xs.length < xs.length - 0 ∨ xs.length > xs.length - 0 + 0) := by omega
  have hlong : (xs.map (·.declared)).any (fun x => overflows x.1 x.2.type) = false := by
    rw [List.any_map, List.any_eq_false]
    intro x hmem
    exact Bool.eq_false_iff.mp (overflows_of_argValue (hx x hmem))
  simp only [pyCall, mirrorMethod, hmirror, hopt, List.length_map, if_neg hcount, hzip,
    argsSize_declared xs hx, hobj.order, Int.toNat_natCast, ← hpack, List.take_length,
    remoteAttrMethodCall, if_neg hid, hobj.attributes, hlong]
  rw [callPacket_send _ (by omega)]

theorem callAttrMetd_invokes {w : PyConnectWrapper} {i : Nat} {x : List UInt8 × Method}
    {xs : List Passing} (serverId : Int) (hi : m.methods.toList[i]? = some x)
    (hindex : m.attributes.size + i < 32768) (hx : ∀ y ∈ xs, y.Valid sender)
    (hparams : xs.map (·.type) = x.2.params) (hlen : xs.length ≤ 15) (overrun : Nat)
    (remaining : Int) :
    callAttrMetd b w m serverId ⟨callBytes sender (m.attributes.size + i)
        (packArgs sender b.evalLeftToRight (xs.map (·.declared))), overrun, remaining⟩ =
      (⟨(answerCall b w (m.attributes.size + i) serverId x.2 (xs.map (·.value))).1,
        .invoke x.1 (xs.map (·.value)) ::
          (answerCall b w (m.attributes.size + i) serverId x.2 (xs.map (·.value))).2,
        .noErrors⟩, ⟨[msgEnd], overrun, 0⟩) := by
  have hsize := bytes_length_le xs hx
  have hpack := length_packArgs sender b.evalLeftToRight xs
  generalize hargs : packArgs sender b.evalLeftToRight (xs.map (·.declared)) = args at *
  have hbind := decodes_customBind b xs hx
  rw [hargs, hparams] at hbind
  rw [callAttrMetd, callBytes, sizeAndIndex_apply sender.bigEndian b.host.bigEndian (Int.add_comm _ _)
    hindex (by omega)]
  rw [if_neg (by omega), Nat.add_sub_cancel_left, hi]
  dsimp only
  rw [methodCall, validateMethod_self hi, if_pos rfl, bind_apply, hbind _ _ _ (by omega), Int.sub_self]
  rfl

theorem moduleMessage_call {w : PyConnectWrapper} {serverId : Int} {t : PyConnectMsg}
    (ht : t = .callAttrMetd ∨ t = .callAttrMetdNocb) {c c' : Cursor} {r : Call}
    (h : callAttrMetd b { w with noResponse := decide (t = .callAttrMetdNocb) } m serverId c =
      (r, c')) :
    moduleMessage b w m serverId (some t) c =
      (({ r with wrapper.noResponse := false }, .processedOk), c') := by
  obtain rfl | rfl := ht
  · change callAttrMetd b { w with noResponse := false } m serverId c = (r, c') at h
    rw [moduleMessage, bind_apply, h]
    rfl
  · change callAttrMetd b { w with noResponse := true } m serverId c = (r, c') at h
    rw [moduleMessage, bind_apply, h]
    rfl

theorem moduleMessage_invokes {w : PyConnectWrapper} {i : Nat} {x : List UInt8 × Method}
    {xs : List Passing} {t : PyConnectMsg} (ht : t = .callAttrMetd ∨ t = .callAttrMetdNocb)
    (serverId : Int) (hi : m.methods.toList[i]? = some x) (hindex : m.attributes.size + i < 32768)
    (hx : ∀ y ∈ xs, y.Valid sender) (hparams : xs.map (·.type) = x.2.params)
    (hlen : xs.length ≤ 15) (remaining : Int) :
    ∃ call answers, moduleMessage b w m serverId (some t)
        (startAt (callBytes sender (m.attributes.size + i)
          (packArgs sender b.evalLeftToRight (xs.map (·.declared)))) remaining) =
        ((call, .processedOk), ⟨[msgEnd], 0, 0⟩) ∧
      call.effects = .invoke x.1 (xs.map (·.value)) :: answers ∧ call.status = .noErrors := by
  have hcall := fun w => callAttrMetd_invokes (b := b) (w := w) serverId hi hindex hx hparams hlen 0
    remaining
  exact ⟨_, _, moduleMessage_call ht (hcall _), rfl, rfl⟩

theorem pyCall_invokes {s : PyConnectStub} {name : List UInt8} {metd : Method}
    {proxy : PyConnectMethod} {args : List PyObject} {values : List Value} (hobj : Proxy b m obj)
    (heval : b.evalLeftToRight = b.clang) (hcount : m.attributes.size + m.methods.size ≤ 32768)
    (hmetd : m.methods[name]? = some metd)
    (hnone : metd.args = metd.params.map fun t => ⟨t.pyType, false⟩) (hproxy : proxy ∈ obj.pPyMetds)
    (hname : proxy.name = name) (hargs : argValues sender metd.params args = some values) :
    ∃ t body, (t = .callAttrMetd ∨ t = .callAttrMetdNocb) ∧
      pyCall sender s obj proxy args =
        ⟨obj, [.dispatch (header t s.serverID :: toByte obj.id :: body) false], none, false⟩ ∧
      ∀ (w : PyConnectWrapper) (serverId remaining : Int), ∃ call answers,
        moduleMessage b w m serverId (some t) (startAt body remaining) =
          ((call, .processedOk), ⟨[msgEnd], 0, 0⟩) ∧
        call.effects = .invoke name values :: answers ∧ call.status = .noErrors := by
  rw [hobj.methods, List.mem_mapIdx] at hproxy
  obtain ⟨i, hlt, rfl⟩ := hproxy
  generalize hx : m.methods.toList[i] = x at *
  have hi : m.methods.toList[i]? = some x := hx ▸ List.getElem?_eq_getElem hlt
  have hentry : m.methods[x.1]? = some x.2 :=
    Std.ExtTreeMap.mem_toList_iff_getElem?_eq_some.mp (List.mem_of_getElem? hi)
  have hx1 : x.1 = name := hname
  rw [hx1, hmetd] at hentry
  obtain rfl := Option.some.inj hentry
  obtain ⟨xs, hvalid, hparams, rfl, rfl⟩ := passings_of_argValues hargs
  have hindex : m.attributes.size + i < 32768 := by
    rw [Std.ExtTreeMap.length_toList] at hlt
    omega
  have hlen : xs.length ≤ 15 := by
    have h := hobj.arity x (List.mem_of_getElem? hi)
    rwa [hnone, ← hparams, List.length_map, List.length_map] at h
  have ht : (if obj.noCallback then PyConnectMsg.callAttrMetdNocb else .callAttrMetd) =
      .callAttrMetd ∨ (if obj.noCallback then PyConnectMsg.callAttrMetdNocb else .callAttrMetd) =
        .callAttrMetdNocb := by
    cases obj.noCallback <;> simp
  refine ⟨_, _, ht, pyCall_dispatches hobj hi hvalid hparams hnone, fun w serverId remaining => ?_⟩
  rw [← hx1, ← heval]
  exact moduleMessage_invokes ht serverId hi hindex hvalid hparams hlen remaining

/-- A call of a mirrored method reaches that method of the module, with the
arguments in their places, where the wrapper reads them in the order that it
declared. -/
theorem call_arrives {s : PyConnectStub} {w : PyConnectWrapper} (serverId remaining : Int)
    {name : List UInt8} {metd : Method} {proxy : PyConnectMethod} {args : List PyObject}
    {values : List Value} (hobj : Proxy b m obj) (heval : b.evalLeftToRight = b.clang)
    (hcount : m.attributes.size + m.methods.size ≤ 32768) (hmetd : m.methods[name]? = some metd)
    (hnone : metd.args = metd.params.map fun t => ⟨t.pyType, false⟩) (hproxy : proxy ∈ obj.pPyMetds)
    (hname : proxy.name = name) (hargs : argValues sender metd.params args = some values) :
    ∃ h i body call answers,
      pyCall sender s obj proxy args = ⟨obj, [.dispatch (h :: i :: body) false], none, false⟩ ∧
      moduleMessage b w m serverId (PyConnectMsg.ofCode (msgTypeOf h)) (startAt body remaining) =
        ((call, .processedOk), ⟨[msgEnd], 0, 0⟩) ∧
      call.effects = .invoke name values :: answers ∧ call.status = .noErrors := by
  obtain ⟨t, body, -, hsent, hcalled⟩ :=
    pyCall_invokes (s := s) hobj heval hcount hmetd hnone hproxy hname hargs
  obtain ⟨call, answers, hmsg, heffects, hstatus⟩ := hcalled w serverId remaining
  refine ⟨_, _, body, call, answers, hsent, ?_, heffects, hstatus⟩
  rw [msgTypeOf_header, PyConnectMsg.ofCode_code]
  exact hmsg

def adder : PyConnectModule :=
  (⟨[97], [], ∅, ∅⟩ : PyConnectModule).exportMethod [43] [] [.int, .string] none
    fun _ => .returnsVoid

theorem adder_methods : adder.methods.toList = [([43], ⟨[], .pyVoid,
    [⟨.int, false⟩, ⟨.string, false⟩], [.int, .string], true, fun _ => .returnsVoid⟩)] := rfl

def adderProxy : PyConnectObject :=
  { PyConnectObject.create [97] 1 none 1 with
    pPyMetds := [⟨[43], .pyVoid, [⟨.int, false⟩, ⟨.string, false⟩], 0, 0, []⟩] }

theorem proxy_adder : Proxy ⟨.little, true, true⟩ adder adderProxy where
  id := by decide
  order := rfl
  attributes := rfl
  methods := by
    rw [adder_methods]
    rfl
  arity := by
    rw [adder_methods]
    decide

theorem call_arrives_adder : ∃ h i body call answers,
    pyCall .little ⟨false, [], 2, [], 5⟩ adderProxy
        ⟨[43], .pyVoid, [⟨.int, false⟩, ⟨.string, false⟩], 0, 0, []⟩ [.int (-2), .str [120]] =
      ⟨adderProxy, [.dispatch (h :: i :: body) false], none, false⟩ ∧
    moduleMessage ⟨.little, true, true⟩ ⟨some adder, ∅, false⟩ adder 5
        (PyConnectMsg.ofCode (msgTypeOf h)) (startAt body 0) =
      ((call, .processedOk), ⟨[msgEnd], 0, 0⟩) ∧
    call.effects = .invoke [43] [.int (-2), .string [120]] :: answers ∧ call.status = .noErrors :=
  call_arrives 5 0 proxy_adder rfl (by decide) (by rfl) rfl List.mem_cons_self rfl rfl

end PyConnect.MethodCall

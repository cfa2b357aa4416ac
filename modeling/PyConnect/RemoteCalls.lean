import PyConnect.AttributeWrites
import PyConnect.CallAnswers
import PyConnect.Convergence
import PyConnect.Dialogue
import PyConnect.Responses

namespace PyConnect.RemoteCalls

open Relation Bytes Decoding Common Values ValueCodec Stub StubInput StubMessage StubCall Wrapper
open WrapperInput WrapperSends Mirror MirrorMessage MethodCall AttributeUpdate Replicas Responses
open AttributeWrites ModuleRouting CallAnswers

structure Invocation where
  name : List UInt8
  args : List Value
  noResponse : Bool

/-- A server with its proxy of the module, the calls that its scripts have made
and the callbacks that responses have brought. -/
structure Client extends Peer where
  made : List Invocation
  heard : List Callback

/-- The module, the methods that each server's messages have run, and the
servers. -/
structure System where
  wrapper : PyConnectWrapper
  invoked : Int → List Invocation
  clients : Int → Option Client

def invocations (t : Option PyConnectMsg) (effects : List Wrapper.Effect) : List Invocation :=
  effects.filterMap fun e => match e with
    | .invoke name args => some ⟨name, args, decide (t = some .callAttrMetdNocb)⟩
    | _ => none

def callbacks (effects : List Stub.Effect) : List Callback :=
  effects.filterMap fun e => match e with
    | .invokeCallback _ fnName arg => some ⟨fnName, arg⟩
    | _ => none

/-- The messages that go to a server: they carry its id. -/
def routed (sid : Int) (effects : List Wrapper.Effect) : List (List UInt8) :=
  (dispatched effects).filter fun data => senderOf data = sid

def System.post (S : System) (r : PyConnectWrapper × List Wrapper.Effect) : System where
  wrapper := r.1
  invoked := S.invoked
  clients sid := (S.clients sid).map fun c => { c with down := c.down ++ routed sid r.2 }

def System.withClient (S : System) (sid : Int) (c : Client) : System :=
  { S with clients := Function.update S.clients sid (some c) }

def System.invoke (S : System) (sid : Int) (calls : List Invocation) : System :=
  { S with invoked := Function.update S.invoked sid (S.invoked sid ++ calls) }

def responses (t : Option PyConnectMsg) (effects : List Stub.Effect) : List Callback :=
  if t = some .attrMetdResp then callbacks effects else []

/-- One step of the whole: a change by the module's own program, a write or a
call by a server's script, or a message read at either end. -/
inductive Step (b : Build) (hosts : Int → Host) : System → System → Prop
  | change (S : System) (m : PyConnectModule) (name : List UInt8) (attr : Attribute) (v : Value) :
      S.wrapper.pyConnectModule = some m → m.attributes[name]? = some attr →
      v.dataType = attr.value.dataType → v.PyPortable →
      Step b hosts S (S.post (setValue b S.wrapper name v))
  | write (S : System) (sid : Int) (c : Client) (name : List UInt8) (value : PyObject) :
      S.clients sid = some c → Sendable value →
      Step b hosts S (S.withClient sid { c with
        obj := (setAttribute (hosts sid) c.stub c.obj name value).obj
        up := c.up ++ sent (setAttribute (hosts sid) c.stub c.obj name value).effects })
  | call (S : System) (sid : Int) (c : Client) (m : PyConnectModule) (proxy : PyConnectMethod)
      (metd : Method) (args : List PyObject) (values : List Value) :
      S.clients sid = some c → proxy ∈ c.obj.pPyMetds → S.wrapper.pyConnectModule = some m →
      m.methods[proxy.name]? = some metd → argValues (hosts sid) metd.params args = some values →
      Step b hosts S (S.withClient sid { c with
        obj := (pyCall (hosts sid) c.stub c.obj proxy args).obj
        up := c.up ++ sent (pyCall (hosts sid) c.stub c.obj proxy args).effects
        made := c.made ++ [⟨proxy.name, values, c.obj.noCallback⟩] })
  | serve (S : System) (sid : Int) (c : Client) (m : PyConnectModule) (h i : UInt8)
      (body : List UInt8) (up : List (List UInt8)) (r : Call) :
      S.clients sid = some c → c.up = (h :: i :: body) :: up → S.wrapper.pyConnectModule = some m →
      r = (moduleMessage b S.wrapper m sid (PyConnectMsg.ofCode (msgTypeOf h)) (startAt body 0)).1.1 →
      Step b hosts S (((S.withClient sid { c with up := up }).invoke sid
        (invocations (PyConnectMsg.ofCode (msgTypeOf h)) r.effects)).post (r.wrapper, r.effects))
  | hear (S : System) (sid : Int) (c : Client) (h i : UInt8) (body : List UInt8)
      (down : List (List UInt8)) (handled : Handled) :
      S.clients sid = some c → c.down = (h :: i :: body) :: down →
      handled = (objectMessage (hosts sid) c.stub.scope c.obj (PyConnectMsg.ofCode (msgTypeOf h))
        (startAt body 0)).1 → .crash ∉ handled.effects →
      Step b hosts S (S.withClient sid { c with
        obj := handled.obj
        down := down
        heard := c.heard ++ responses (PyConnectMsg.ofCode (msgTypeOf h)) handled.effects })

/-- What there is to answer to a call, in the order in which the generated
function sends it: an exception is answered before the completion. -/
def answersOf (metd : Method) (call : Invocation) : List Answer :=
  (match metd.body call.args with
    | .throws => [.error PyConnectMsgStatus.metdException.code.toNat]
    | .returns v => if call.noResponse || metd.isVoid then [] else [.value v]
    | .returnsVoid => []) ++
  if metd.isVoid && !call.noResponse then [.nothing] else []

/-- The callbacks that a server owes its scripts for a call. -/
def owed (host : Host) (m : PyConnectModule) (call : Invocation) : List Callback :=
  match m.methods[call.name]? with
  | none => []
  | some metd => (answersOf metd call).map fun answer =>
      ⟨methodCallback call.name answer.failed, [answer.received host]⟩

structure Like (m m' : PyConnectModule) : Prop where
  attributes : layout m' = layout m
  methods : m'.methods = m.methods

/-- A proxy of the module, whatever values it shows. -/
structure Image (b : Build) (m : PyConnectModule) (obj : PyConnectObject) : Prop where
  proxy : Proxy b m obj
  attributes : obj.pPyAttrs.map (fun a => (a.name, a.type, !a.readonly)) = layout m

/-- A module whose methods can be called, and whose results can be sent. -/
structure Callable (b : Build) (m : PyConnectModule) : Prop where
  order : b.evalLeftToRight = b.clang
  count : m.attributes.size + m.methods.size ≤ 32768
  exported : ∀ x ∈ m.methods.toList, Exported x.2
  portable : ∀ x ∈ m.methods.toList, ∀ args v, x.2.body args = .returns v → v.PyPortable

/-- A message that makes the module run the call and answer it. -/
def Invokes (b : Build) (m : PyConnectModule) (data : List UInt8) (call : Invocation) : Prop :=
  ∃ h i body j metd, data = h :: i :: body ∧ m.methods.toList[j]? = some (call.name, metd) ∧
    call.noResponse = decide (PyConnectMsg.ofCode (msgTypeOf h) = some .callAttrMetdNocb) ∧
    ∀ w m' sid, Like m m' →
      let answered := answerCall b { w with noResponse := call.noResponse } (m.attributes.size + j : Nat)
        sid metd call.args
      (moduleMessage b w m' sid (PyConnectMsg.ofCode (msgTypeOf h)) (startAt body 0)).1.1 =
        ⟨{ answered.1 with noResponse := false }, .invoke call.name call.args :: answered.2, .noErrors⟩

/-- A message to the module: a call, or the write of an attribute. -/
def Asks (b : Build) (m : PyConnectModule) (data : List UInt8) : Option Invocation → Prop
  | some call => Invokes b m data call
  | none => ∃ r, Requests b (layout m) data r

/-- A message to a proxy that brings this callback for a call, or none. The server
lives through it. -/
def Brings (b : Build) (host : Host) (m : PyConnectModule) (data : List UInt8)
    (callback : Option Callback) : Prop :=
  ∃ h i body, data = h :: i :: body ∧ ∀ scope obj, Image b m obj →
    let handled := (objectMessage host scope obj (PyConnectMsg.ofCode (msgTypeOf h)) (startAt body 0)).1
    Image b m handled.obj ∧ .crash ∉ handled.effects ∧
      responses (PyConnectMsg.ofCode (msgTypeOf h)) handled.effects = callback.toList

variable {b : Build} {hosts : Int → Host} {host whost : Host} {m m' : PyConnectModule}
  {obj : PyConnectObject} {w : PyConnectWrapper} {sid : Int} {info : ServerInfo} {metd : Method}
  {call : Invocation} {data : List UInt8} {effects : List Wrapper.Effect}

theorem Like.size (h : Like m m') : m'.attributes.size = m.attributes.size := by
  have hlen := congrArg List.length h.attributes
  rw [layout, layout, List.length_map, List.length_map] at hlen
  simpa only [Std.ExtTreeMap.length_toList] using hlen

theorem dispatched_map {α : Type} (f : α → List UInt8) (xs : List α) :
    dispatched (xs.map fun x => .dispatch (f x) false) = xs.map f := by
  rw [dispatched, List.filterMap_map]
  exact congrFun (List.filterMap_eq_map (f := f)) xs

theorem Image.setValue (h : Image b m obj) (i : Nat) (value : PyObject) :
    Image b m (obj.setValue i value) := by
  refine ⟨h.proxy.setValue i value, ?_⟩
  rw [← h.attributes]
  apply Maps.map_modify
  exact fun _ => rfl

theorem Image.attr (h : Image b m obj) {i : Nat} {x : List UInt8 × PyConnectType × Bool}
    (hx : (layout m)[i]? = some x) :
    ∃ a, obj.pPyAttrs[i]? = some a ∧ (a.name, a.type, !a.readonly) = x := by
  rw [← h.attributes, List.getElem?_map, Option.map_eq_some_iff] at hx
  exact hx

theorem answerCall_posts (hw : w.serverMap[sid]? = some info) (hexp : Exported metd) (index : Nat)
    (hcall : call.noResponse = w.noResponse) :
    answerCall b w index sid metd call.args =
      (w, (answersOf metd call).flatMap fun a => (a.post b w index sid .attrMetdResp).2) := by
  obtain ⟨returnType, -, hvoid, -, hfits⟩ := hexp
  have hbody := hfits call.args
  have hexn := sendAttrMetdResponse_registered (b := b) hw PyConnectMsgStatus.metdException.code index []
    .attrMetdResp (by decide : (0 : Int) ≤ _)
  have hdone := sendAttrMetdResponse_registered (b := b) hw PyConnectMsgStatus.noErrors.code index []
    .attrMetdResp (by decide : (0 : Int) ≤ _)
  have hpost : (Answer.error PyConnectMsgStatus.metdException.code.toNat).post b w index sid .attrMetdResp =
      sendAttrMetdResponse b w PyConnectMsgStatus.metdException.code index 0 [] sid .attrMetdResp := rfl
  have hnothing : Answer.nothing.post b w index sid .attrMetdResp =
      sendAttrMetdResponse b w PyConnectMsgStatus.noErrors.code index 0 [] sid .attrMetdResp := rfl
  rw [answerCall, answersOf, hcall]
  cases hb : metd.body call.args with
  | throws =>
      dsimp only
      rw [hexn]
      cases metd.isVoid <;> cases w.noResponse <;> simp [hpost, hexn, hnothing, hdone]
  | returns v =>
      cases returnType with
      | none => rw [hb] at hbody; exact hbody.elim
      | some t =>
          have hval := postAttrMetdData_registered (b := b) hw index v .noErrors .attrMetdResp
          rw [hvoid]
          cases hn : w.noResponse <;> simp [Answer.post, hval]
  | returnsVoid =>
      cases metd.isVoid <;> cases hn : w.noResponse <;> simp [hnothing, hdone, hn]

theorem answersOf_fits (hexp : Exported metd)
    (hportable : ∀ args v, metd.body args = .returns v → v.PyPortable) {a : Answer}
    (ha : a ∈ answersOf metd call) : a.Fits metd.type ∧ a.Legible := by
  obtain ⟨returnType, htype, hvoid, -, hfits⟩ := hexp
  have hbody := hfits call.args
  rw [answersOf] at ha
  rcases List.mem_append.mp ha with ha | ha
  · cases hb : metd.body call.args with
    | throws =>
        rw [hb] at ha
        rw [List.mem_singleton.mp ha]
        exact ⟨⟨by decide, by decide⟩, trivial⟩
    | returns v =>
        rw [hb] at ha hbody
        dsimp only at ha
        split at ha
        · cases ha
        · rw [List.mem_singleton.mp ha, htype]
          cases returnType with
          | none => exact hbody.elim
          | some t =>
              have hv := hportable call.args v hb
              exact ⟨⟨congrArg DataType.pyType hbody, portable_of_pyPortable hv⟩, hv⟩
    | returnsVoid =>
        rw [hb] at ha
        cases ha
  · split at ha
    next hdone =>
      rw [List.mem_singleton.mp ha]
      rw [hvoid, Bool.and_eq_true, Option.isNone_iff_eq_none] at hdone
      rw [Answer.Fits, htype, hdone.1]
      exact ⟨rfl, trivial⟩
    next => cases ha

theorem Image.method (h : Image b m obj) {j : Nat} {x : List UInt8 × Method}
    (hx : m.methods.toList[j]? = some x) : obj.pPyAttrs[m.attributes.size + j]? = none ∧
      obj.pPyMetds[m.attributes.size + j - obj.pPyAttrs.length]? = some (mirrorMethod j x) := by
  have hlen := h.proxy.attributes
  constructor
  · apply List.getElem?_eq_none
    omega
  · rw [hlen, Nat.add_sub_cancel_left, h.proxy.methods, List.getElem?_mapIdx, hx]
    rfl

theorem brings_answer (hm : Callable b m) (host : Host) (sid : Int) (i : UInt8) {j : Nat}
    {name : List UInt8} (hx : m.methods.toList[j]? = some (name, metd)) {a : Answer}
    (ha : a.Fits metd.type) (hlegible : a.Legible) :
    Brings b host m (header .attrMetdResp sid :: i ::
        responseBytes b.host a.err (m.attributes.size + j) (a.data b.host))
      (some ⟨methodCallback name a.failed, [a.received host]⟩) := by
  refine ⟨_, i, _, rfl, fun scope obj hobj => ?_⟩
  obtain ⟨hattr, hmetd⟩ := hobj.method hx
  have htype : proxyType obj (m.attributes.size + j) = some metd.type := by
    rw [proxyType, hattr]
    dsimp only
    rw [hmetd]
    rfl
  have hlt : m.attributes.size + j < 32768 := by
    have hj := (List.getElem?_eq_some_iff.mp hx).1
    have hcount := hm.count
    rw [Std.ExtTreeMap.length_toList] at hj
    omega
  obtain ⟨obj', callback, effects, k, hanswered, hreports, hread⟩ :=
    objectMessage_answer host b.host scope ha htype hlt (.inl rfl) 0
  rw [answered, hattr] at hanswered
  dsimp only at hanswered
  rw [hmetd] at hanswered
  obtain ⟨rfl, rfl⟩ := Prod.mk.inj (Option.some.inj hanswered)
  have hnull : PyObject.null ∉ [a.received host] := by
    rw [List.mem_singleton]
    exact Ne.symm (hlegible.received_ne_null host)
  rw [Reports, if_neg hnull] at hreports
  dsimp only
  rw [msgTypeOf_header, PyConnectMsg.ofCode_code, hread, hreports]
  exact ⟨hobj, by simp, rfl⟩

theorem brings_update (host whost : Host) (sid modId : Int) {i : Nat} {v : Value} {name : List UInt8}
    {c : Bool} (hL : (layout m)[i]? = some (name, v.dataType.pyType, c)) (hi : i < 32768)
    (hv : v.PyPortable) : Brings b host m (updateData whost sid modId i v) none := by
  refine ⟨_, _, _, rfl, fun scope obj hobj => ?_⟩
  obtain ⟨a, ha, he⟩ := hobj.attr hL
  rw [Prod.mk.injEq, Prod.mk.injEq] at he
  dsimp only
  obtain ⟨hupdated, hlives⟩ := objectMessage_update whost scope ha he.2.1 hi hv 0
  rw [msgTypeOf_header, PyConnectMsg.ofCode_code, hupdated]
  exact ⟨hobj.setValue i _, hlives, rfl⟩

/-- What a script's call sends makes the module run just this call. -/
theorem invokes_pyCall (hm : Callable b m) (hobj : Image b m obj) {s : PyConnectStub}
    {proxy : PyConnectMethod} {args : List PyObject} {values : List Value} (hproxy : proxy ∈ obj.pPyMetds)
    (hmetd : m.methods[proxy.name]? = some metd)
    (hargs : argValues host metd.params args = some values) :
    (pyCall host s obj proxy args).obj = obj ∧ ∃ data, sent (pyCall host s obj proxy args).effects = [data] ∧
      Invokes b m data ⟨proxy.name, values, obj.noCallback⟩ := by
  rw [hobj.proxy.methods, List.mem_mapIdx] at hproxy
  obtain ⟨j, hlt, rfl⟩ := hproxy
  generalize hx : m.methods.toList[j] = x at *
  have hj : m.methods.toList[j]? = some x := hx ▸ List.getElem?_eq_getElem hlt
  have hentry : m.methods[x.1]? = some x.2 :=
    Std.ExtTreeMap.mem_toList_iff_getElem?_eq_some.mp (List.mem_of_getElem? hj)
  have hsame : m.methods[x.1]? = some metd := hmetd
  rw [hentry] at hsame
  obtain rfl := Option.some.inj hsame
  obtain ⟨-, -, -, hnone, -⟩ := hm.exported x (List.mem_of_getElem? hj)
  obtain ⟨xs, hvalid, hparams, rfl, rfl⟩ := passings_of_argValues hargs
  have hindex : m.attributes.size + j < 32768 := by
    have hcount := hm.count
    rw [Std.ExtTreeMap.length_toList] at hlt
    omega
  have hlen : xs.length ≤ 15 := by
    have h := hobj.proxy.arity x (List.mem_of_getElem? hj)
    rwa [hnone, ← hparams, List.length_map, List.length_map] at h
  rw [pyCall_dispatches hobj.proxy hj hvalid hparams hnone]
  refine ⟨rfl, _, rfl, _, _, _, j, x.2, rfl, hj, ?_, fun w m' sid hlike => ?_⟩
  · rw [msgTypeOf_header, PyConnectMsg.ofCode_code]
    cases obj.noCallback <;> rfl
  · have ht : (if obj.noCallback then PyConnectMsg.callAttrMetdNocb else .callAttrMetd) =
        .callAttrMetd ∨ (if obj.noCallback then PyConnectMsg.callAttrMetdNocb else .callAttrMetd) =
          .callAttrMetdNocb := by
      cases obj.noCallback <;> simp
    have hj' : m'.methods.toList[j]? = some x := by rw [hlike.methods, hj]
    have hcall := fun w => callAttrMetd_invokes (b := b) (w := w) sid hj' (by rw [hlike.size]; exact hindex)
      hvalid hparams hlen 0 0
    dsimp only
    rw [msgTypeOf_header, PyConnectMsg.ofCode_code, startAt, ← hm.order, ← hlike.size,
      moduleMessage_call ht (hcall _)]
    cases obj.noCallback <;> rfl

theorem asks_write (hm : Callable b m) (hobj : Image b m obj) (s : PyConnectStub)
    (name : List UInt8) {value : PyObject} (hvalue : Sendable value) :
    Image b m (setAttribute host s obj name value).obj ∧
      ∀ data ∈ sent (setAttribute host s obj name value).effects, Asks b m data none := by
  have horder : (setAttribute host s obj name value).obj.argEvalReversed = b.clang :=
    (congrArg (·.2.2) (setAttribute_fixed host s obj name value)).trans hobj.proxy.order
  have hlocal : ∀ a : Attempt, Local obj a → a.obj.argEvalReversed = b.clang →
      Image b m a.obj ∧ ∀ data ∈ sent a.effects, Asks b m data none := by
    intro a ha ho
    refine ⟨⟨⟨?_, ho, ?_, ?_, hobj.proxy.arity⟩, ?_⟩, ?_⟩
    · rw [ha.id]
      exact hobj.proxy.id
    · rw [ha.attrs, hobj.proxy.attributes]
    · rw [ha.metds, hobj.proxy.methods]
    · rw [ha.attrs, hobj.attributes]
    · rw [ha.sent]
      exact fun _ h => absurd h List.not_mem_nil
  rcases setAttribute_writes host s obj name value with ⟨c, i, attr, hattr, he⟩ | hl
  · have hobj' : Image b m { obj with noCallback := c } :=
      ⟨⟨hobj.proxy.id, hobj.proxy.order, hobj.proxy.attributes, hobj.proxy.methods, hobj.proxy.arity⟩,
        hobj.attributes⟩
    have hL : (layout m)[i]? = some (attr.name, attr.type, !attr.readonly) := by
      rw [← hobj.attributes, List.getElem?_map, hattr]
      rfl
    obtain ⟨x, hx, hxe⟩ : ∃ x, m.attributes.toList[i]? = some x ∧
        (x.1, x.2.type, x.2.isWritable) = (attr.name, attr.type, !attr.readonly) := by
      rw [layout, List.getElem?_map, Option.map_eq_some_iff] at hL
      exact hL
    have hlt : i < 32768 := by
      have hi := (List.getElem?_eq_some_iff.mp hx).1
      have hcount := hm.count
      rw [Std.ExtTreeMap.length_toList] at hi
      omega
    have ht : attr.type = x.2.value.dataType.pyType := (Prod.mk.inj (Prod.mk.inj hxe).2).1.symm
    rw [he] at horder ⊢
    rcases setRemote_cases (s := s) (i := i) hobj'.proxy.id ht hvalue with
      hl | ⟨v, t, hs, hv, hdt, hro, hmsg, hsent, hset⟩
    · exact hlocal _ ⟨hl.attrs, hl.metds, hl.id, hl.sent⟩ horder
    · rw [ht, hro, ← hdt] at hL
      rw [← hdt] at hs hsent
      constructor
      · rcases hset with hset | hset
        · rw [hset]
          exact hobj'
        · rw [hset]
          exact hobj'.setValue i value
      · rw [hsent]
        intro data hdata
        rw [List.mem_singleton.mp hdata]
        exact ⟨(i, v), requests_write hmsg s.serverID obj.id hL hlt hv hs⟩
  · exact hlocal _ hl horder

theorem setValue_tells (hm : Callable b m) (hlike : Like m m') (hw : w.pyConnectModule = some m') {i : Nat}
    {name : List UInt8} {v : Value} {c : Bool}
    (hL : (layout m)[i]? = some (name, v.dataType.pyType, c)) (hv : v.PyPortable) :
    (∃ m'', Like m m'' ∧ (setValue b w name v).1 = { w with pyConnectModule := some m'' }) ∧
      (∀ t, invocations t (setValue b w name v).2 = []) ∧
      ∀ host, ∀ data ∈ dispatched (setValue b w name v).2, Brings b host m data none := by
  have hL' := hL
  rw [← hlike.attributes] at hL'
  obtain ⟨x, hx, rfl, hdt, -⟩ := layout_getElem hL'
  have hlt : i < 32768 := by
    have hi := (List.getElem?_eq_some_iff.mp hx).1
    have hcount := hm.count
    rw [Std.ExtTreeMap.length_toList, hlike.size] at hi
    omega
  have hd := distance_getElem (getElem_assign hx v)
  dsimp only at hd
  rw [setValue_registered hw (mem_of_toList (List.mem_of_getElem? hx)), hd]
  refine ⟨⟨m'.assign x.1 v, ⟨?_, hlike.methods⟩, rfl⟩, fun t => ?_, fun host data hdata => ?_⟩
  · rw [Convergence.layout_assign hx hdt.symm, hlike.attributes]
  · rw [invocations, List.filterMap_eq_nil_iff]
    intro e he
    obtain ⟨y, -, rfl⟩ := List.mem_map.mp he
    rfl
  · have hmap := dispatched_map (fun y : Int × ServerInfo =>
      valueData b.host .attrValueUpdate y.1 y.2.assignedModuleID i v .noErrors) (told w)
    obtain ⟨y, -, rfl⟩ := List.mem_map.mp (hmap ▸ hdata)
    rw [valueData_update b.host y.1 y.2.assignedModuleID i (portable_of_pyPortable hv)]
    exact brings_update host b.host _ _ hL hlt hv

/-- A server as a client in a dialogue. -/
structure Refines (b : Build) (host : Host) (m : PyConnectModule) (invoked : List Invocation) (c : Client)
    (n : Dialogue.Node Invocation Callback) : Prop where
  image : Image b m c.obj
  asked : n.asked = c.made
  served : n.served = invoked
  heard : n.heard = c.heard
  up : List.Forall₂ (Asks b m) c.up n.up
  down : List.Forall₂ (Brings b host m) c.down n.down

/-- The module owes the client nothing but what is on its way. -/
def InOrder (b : Build) (host : Host) (m : PyConnectModule) (invoked : List Invocation) (c : Client) : Prop :=
  ∃ n, Refines b host m invoked c n ∧ Dialogue.Balanced (owed host m) n

structure Inv (b : Build) (hosts : Int → Host) (m : PyConnectModule) (S : System) : Prop where
  module : ∃ m', S.wrapper.pyConnectModule = some m' ∧ Like m m'
  registered : ∀ sid c, S.clients sid = some c → sid % 16 = sid ∧
    ∃ info, S.wrapper.serverMap[sid]? = some info
  clients : ∀ sid c, S.clients sid = some c → InOrder b (hosts sid) m (S.invoked sid) c

variable {S S' : System} {c : Client} {invoked : List Invocation} {up down : List (List UInt8)}
  {messages : List (List UInt8)}

theorem forall₂_replicate {α β : Type} {R : α → β → Prop} {xs : List α} {y : β} (h : ∀ x ∈ xs, R x y) :
    List.Forall₂ R xs (List.replicate xs.length y) := by
  induction xs with
  | nil => exact .nil
  | cons x xs ih =>
      exact .cons (h x List.mem_cons_self) (ih fun x' hx => h x' (List.mem_cons_of_mem x hx))

theorem InOrder.tell (h : InOrder b host m invoked c)
    (hmessages : ∀ data ∈ messages, Brings b host m data none) :
    InOrder b host m invoked { c with down := c.down ++ messages } := by
  obtain ⟨n, hn, hbalanced⟩ := h
  have hstep := Dialogue.balanced_step hbalanced (.tell n messages.length)
  refine ⟨_, ?_, hstep⟩
  refine ⟨hn.image, hn.asked, hn.served, hn.heard, hn.up, ?_⟩
  exact List.rel_append hn.down (forall₂_replicate hmessages)

theorem InOrder.image (h : InOrder b host m invoked c) : Image b m c.obj := by
  obtain ⟨n, hn, -⟩ := h
  exact hn.image

theorem InOrder.ask (h : InOrder b host m invoked c) {r : Option Invocation} (hdata : Asks b m data r) :
    InOrder b host m invoked { c with up := c.up ++ [data], made := c.made ++ r.toList } := by
  obtain ⟨n, hn, hbalanced⟩ := h
  have hstep := Dialogue.balanced_step hbalanced (.ask n r)
  refine ⟨_, ?_, hstep⟩
  refine ⟨hn.image, ?_, hn.served, hn.heard, ?_, hn.down⟩
  · dsimp only
    rw [hn.asked]
  · exact List.rel_append hn.up (.cons hdata .nil)

theorem InOrder.write (h : InOrder b host m invoked c)
    (hmessages : ∀ data ∈ messages, Asks b m data none) :
    InOrder b host m invoked { c with up := c.up ++ messages } := by
  induction messages generalizing c with
  | nil =>
      rw [List.append_nil]
      exact h
  | cons data messages ih =>
      have hask := h.ask (hmessages data List.mem_cons_self)
      rw [Option.toList_none, List.append_nil] at hask
      have hrest := ih hask fun data' hdata' => hmessages data' (List.mem_cons_of_mem data hdata')
      rw [List.append_assoc, List.singleton_append] at hrest
      exact hrest

theorem InOrder.withObj (h : InOrder b host m invoked c) (hobj : Image b m obj) :
    InOrder b host m invoked { c with obj := obj } := by
  obtain ⟨n, hn, hbalanced⟩ := h
  exact ⟨n, ⟨hobj, hn.asked, hn.served, hn.heard, hn.up, hn.down⟩, hbalanced⟩

theorem InOrder.serve (h : InOrder b host m invoked c) (hup : c.up = data :: up) :
    ∃ r, Asks b m data r ∧ ∀ messages,
      List.Forall₂ (Brings b host m) messages ((r.toList.flatMap (owed host m)).map some) →
      InOrder b host m (invoked ++ r.toList) { c with up := up, down := c.down ++ messages } := by
  obtain ⟨n, hn, hbalanced⟩ := h
  have hups := hn.up
  rw [hup] at hups
  cases hnup : n.up with
  | nil =>
      rw [hnup] at hups
      cases hups
  | cons r rest =>
      rw [hnup] at hups
      obtain ⟨hasks, hrest⟩ := List.forall₂_cons.mp hups
      refine ⟨r, hasks, fun messages hmessages => ?_⟩
      have hstep := Dialogue.balanced_step hbalanced (.serve n r rest hnup)
      refine ⟨_, ?_, hstep⟩
      refine ⟨hn.image, hn.asked, ?_, hn.heard, hrest, ?_⟩
      · dsimp only
        rw [hn.served]
      · exact List.rel_append hn.down hmessages

theorem InOrder.hear (h : InOrder b host m invoked c) (hdown : c.down = data :: down) :
    ∃ a, Brings b host m data a ∧ ∀ obj, Image b m obj → InOrder b host m invoked { c with
      obj := obj, down := down, heard := c.heard ++ a.toList } := by
  obtain ⟨n, hn, hbalanced⟩ := h
  have hdowns := hn.down
  rw [hdown] at hdowns
  cases hndown : n.down with
  | nil =>
      rw [hndown] at hdowns
      cases hdowns
  | cons a rest =>
      rw [hndown] at hdowns
      obtain ⟨hbrings, hrest⟩ := List.forall₂_cons.mp hdowns
      refine ⟨a, hbrings, fun obj hobj => ?_⟩
      have hstep := Dialogue.balanced_step hbalanced (.hear n a rest hndown)
      refine ⟨_, ?_, hstep⟩
      refine ⟨hobj, hn.asked, hn.served, ?_, hn.up, hrest⟩
      dsimp only
      rw [hn.heard]

theorem inv_withClient (h : Inv b hosts m S) (hc : S.clients sid = some c) {c' : Client}
    (hc' : InOrder b (hosts sid) m (S.invoked sid) c') : Inv b hosts m (S.withClient sid c') := by
  have hclients : ∀ sid' c₁, (S.withClient sid c').clients sid' = some c₁ →
      (sid' = sid ∧ c₁ = c') ∨ (sid' ≠ sid ∧ S.clients sid' = some c₁) := by
    intro sid' c₁ hc₁
    rw [System.withClient] at hc₁
    dsimp only at hc₁
    by_cases hsid : sid' = sid
    · subst hsid
      rw [Function.update_self] at hc₁
      exact .inl ⟨rfl, (Option.some.inj hc₁).symm⟩
    · rw [Function.update_of_ne hsid] at hc₁
      exact .inr ⟨hsid, hc₁⟩
  refine ⟨h.module, fun sid' c₁ hc₁ => ?_, fun sid' c₁ hc₁ => ?_⟩
  · rcases hclients sid' c₁ hc₁ with ⟨rfl, -⟩ | ⟨-, hc₁⟩
    · exact h.registered sid' c hc
    · exact h.registered sid' c₁ hc₁
  · rcases hclients sid' c₁ hc₁ with ⟨rfl, rfl⟩ | ⟨-, hc₁⟩
    · exact hc'
    · exact h.clients sid' c₁ hc₁

theorem inv_served (h : Inv b hosts m S) (hc : S.clients sid = some c) {calls : List Invocation}
    {w' : PyConnectWrapper} (hmod : ∃ m', w'.pyConnectModule = some m' ∧ Like m m')
    (hmap : w'.serverMap = S.wrapper.serverMap)
    (hself : InOrder b (hosts sid) m (S.invoked sid ++ calls)
      { c with up := up, down := c.down ++ routed sid effects })
    (hothers : ∀ sid', sid' ≠ sid → ∀ data ∈ routed sid' effects, Brings b (hosts sid') m data none) :
    Inv b hosts m (((S.withClient sid { c with up := up }).invoke sid calls).post (w', effects)) := by
  have hclients : ∀ sid' c₁,
      (((S.withClient sid { c with up := up }).invoke sid calls).post (w', effects)).clients sid' =
        some c₁ → (sid' = sid ∧ c₁ = { c with up := up, down := c.down ++ routed sid effects }) ∨
          (sid' ≠ sid ∧ ∃ c₀, S.clients sid' = some c₀ ∧
            c₁ = { c₀ with down := c₀.down ++ routed sid' effects }) := by
    intro sid' c₁ hc₁
    obtain ⟨c₀, hc₀, rfl⟩ := Option.map_eq_some_iff.mp hc₁
    rw [System.invoke, System.withClient] at hc₀
    dsimp only at hc₀
    by_cases hsid : sid' = sid
    · subst hsid
      rw [Function.update_self] at hc₀
      obtain rfl := Option.some.inj hc₀
      exact .inl ⟨rfl, rfl⟩
    · rw [Function.update_of_ne hsid] at hc₀
      exact .inr ⟨hsid, c₀, hc₀, rfl⟩
  refine ⟨hmod, fun sid' c₁ hc₁ => ?_, fun sid' c₁ hc₁ => ?_⟩
  · rw [System.post, hmap]
    rcases hclients sid' c₁ hc₁ with ⟨rfl, -⟩ | ⟨-, c₀, hc₀, -⟩
    · exact h.registered sid' c hc
    · exact h.registered sid' c₀ hc₀
  · rw [System.post, System.invoke]
    dsimp only
    rcases hclients sid' c₁ hc₁ with ⟨rfl, rfl⟩ | ⟨hsid, c₀, hc₀, rfl⟩
    · rw [Function.update_self]
      exact hself
    · rw [Function.update_of_ne hsid]
      exact (h.clients sid' c₀ hc₀).tell (hothers sid' hsid)

theorem inv_post (h : Inv b hosts m S) {w' : PyConnectWrapper}
    (hmod : ∃ m', w'.pyConnectModule = some m' ∧ Like m m')
    (hmap : w'.serverMap = S.wrapper.serverMap)
    (heffects : ∀ host, ∀ data ∈ dispatched effects, Brings b host m data none) :
    Inv b hosts m (S.post (w', effects)) := by
  refine ⟨hmod, fun sid c hc => ?_, fun sid c hc => ?_⟩
  · obtain ⟨c₀, hc₀, -⟩ := Option.map_eq_some_iff.mp hc
    rw [System.post, hmap]
    exact h.registered sid c₀ hc₀
  · obtain ⟨c₀, hc₀, rfl⟩ := Option.map_eq_some_iff.mp hc
    exact (h.clients sid c₀ hc₀).tell fun data hdata => heffects _ data (List.mem_of_mem_filter hdata)

theorem answers_routed (hm : Callable b m) (hw : w.serverMap[sid]? = some info) {j : Nat}
    (hj : m.methods.toList[j]? = some (call.name, metd)) (hcall : call.noResponse = w.noResponse) :
    let sends := (answerCall b w (m.attributes.size + j : Nat) sid metd call.args).2
    (answerCall b w (m.attributes.size + j : Nat) sid metd call.args).1 = w ∧
      (∀ t, invocations t sends = []) ∧ (∀ data ∈ dispatched sends, senderOf data = sid % 16) ∧
      ∀ host, List.Forall₂ (Brings b host m) (dispatched sends) ((owed host m call).map some) := by
  have hmem := List.mem_of_getElem? hj
  have hexp := hm.exported _ hmem
  have hentry : m.methods[call.name]? = some metd :=
    Std.ExtTreeMap.mem_toList_iff_getElem?_eq_some.mp hmem
  have hfits : ∀ a ∈ answersOf metd call, a.Fits metd.type ∧ a.Legible :=
    fun a ha => answersOf_fits hexp (hm.portable _ hmem) ha
  have hpost : (answersOf metd call).flatMap (fun a =>
      (a.post b w (m.attributes.size + j : Nat) sid .attrMetdResp).2) =
        (answersOf metd call).map fun a => .dispatch (header .attrMetdResp sid ::
          toByte (w.serverEntry sid).2.assignedModuleID ::
            responseBytes b.host a.err (m.attributes.size + j) (a.data b.host)) false := by
    rw [List.map_eq_flatMap]
    exact List.flatMap_congr fun a ha => Answer.post_effects b w _ (hfits a ha).1 sid .attrMetdResp
  have hmap := dispatched_map (fun a => header .attrMetdResp sid ::
    toByte (w.serverEntry sid).2.assignedModuleID ::
      responseBytes b.host a.err (m.attributes.size + j) (a.data b.host)) (answersOf metd call)
  rw [answerCall_posts hw hexp _ hcall]
  dsimp only
  rw [hpost, hmap]
  refine ⟨rfl, fun t => ?_, fun data hdata => ?_, fun host => ?_⟩
  · rw [invocations, List.filterMap_eq_nil_iff]
    intro e he
    obtain ⟨a, -, rfl⟩ := List.mem_map.mp he
    rfl
  · obtain ⟨a, -, rfl⟩ := List.mem_map.mp hdata
    exact senderOf_header ..
  · rw [owed, hentry]
    dsimp only
    rw [List.map_map]
    apply List.forall₂_map_left_iff.mpr
    apply List.forall₂_map_right_iff.mpr
    exact List.forall₂_same.mpr fun a ha =>
      brings_answer hm host sid _ hj (hfits a ha).1 (hfits a ha).2

theorem inv_step (hm : Callable b m) (h : Inv b hosts m S) (hstep : Step b hosts S S') :
    Inv b hosts m S' := by
  obtain ⟨m', hw, hlike⟩ := h.module
  cases hstep with
  | change m₁ name attr v hmod hattr hdt hv =>
      obtain rfl := Option.some.inj (hmod.symm.trans hw)
      have hmem := Std.ExtTreeMap.mem_toList_iff_getElem?_eq_some.mpr hattr
      obtain ⟨i, hi⟩ := List.mem_iff_getElem?.mp hmem
      have hL : (layout m)[i]? = some (name, v.dataType.pyType, attr.isWritable) := by
        rw [← hlike.attributes, layout, List.getElem?_map, hi, hdt]
        rfl
      obtain ⟨⟨m'', hlike'', hset⟩, -, htells⟩ := setValue_tells hm hlike hw hL hv
      have hmod'' : (setValue b S.wrapper name v).1.pyConnectModule = some m'' := by rw [hset]
      have hmap : (setValue b S.wrapper name v).1.serverMap = S.wrapper.serverMap := by rw [hset]
      exact inv_post h ⟨m'', hmod'', hlike''⟩ hmap htells
  | write sid c name value hc hvalue =>
      have hclient := h.clients sid c hc
      obtain ⟨hobj, hasks⟩ := asks_write hm hclient.image c.stub name hvalue
      exact inv_withClient h hc ((hclient.write hasks).withObj hobj)
  | call sid c m₁ proxy metd args values hc hproxy hmod hmetd hargs =>
      obtain rfl := Option.some.inj (hmod.symm.trans hw)
      have hclient := h.clients sid c hc
      rw [hlike.methods] at hmetd
      obtain ⟨hobj, data, hsent, hinvokes⟩ :=
        invokes_pyCall hm hclient.image (s := c.stub) hproxy hmetd hargs
      rw [hobj, hsent]
      exact inv_withClient h hc (hclient.ask (r := some _) hinvokes)
  | serve sid c m₁ x i body up r hc hup hmod hr =>
      obtain rfl := Option.some.inj (hmod.symm.trans hw)
      obtain ⟨hsid, info, hinfo⟩ := h.registered sid c hc
      obtain ⟨request, hasks, hnext⟩ := (h.clients sid c hc).serve hup
      cases request with
      | some call =>
          obtain ⟨x', i', body', j, metd, hdata, hj, hno, hmsg⟩ := hasks
          rw [List.cons.injEq, List.cons.injEq] at hdata
          obtain ⟨rfl, rfl, rfl⟩ := hdata
          have hw' : ({ S.wrapper with noResponse := call.noResponse } : PyConnectWrapper).serverMap[sid]? =
              some info := hinfo
          obtain ⟨hkept, hnone, hfrom, hbrings⟩ := answers_routed hm hw' hj rfl
          rw [hmsg S.wrapper _ sid hlike, hkept] at hr
          generalize hsends : (answerCall b { S.wrapper with noResponse := call.noResponse }
            (m.attributes.size + j : Nat) sid metd call.args).2 = sends at *
          have hcalls : invocations (PyConnectMsg.ofCode (msgTypeOf x))
              (.invoke call.name call.args :: sends) = [call] := by
            have hcons : invocations (PyConnectMsg.ofCode (msgTypeOf x))
                (.invoke call.name call.args :: sends) = ⟨call.name, call.args, _⟩ ::
                  invocations (PyConnectMsg.ofCode (msgTypeOf x)) sends := rfl
            rw [hcons, hnone, ← hno]
          have hself : routed sid (.invoke call.name call.args :: sends) = dispatched sends :=
            List.filter_eq_self.mpr fun data hdata => by rw [hfrom data hdata, hsid, decide_eq_true rfl]
          have hother : ∀ sid', sid' ≠ sid → routed sid' (.invoke call.name call.args :: sends) = [] :=
            fun sid' hne => List.filter_eq_nil_iff.mpr fun data hdata => by
              rw [hfrom data hdata, hsid, decide_eq_true_eq]
              exact hne.symm
          subst hr
          dsimp only
          rw [hcalls]
          refine inv_served h hc ⟨_, hw, hlike⟩ rfl ?_ fun sid' hne data hdata => ?_
          · rw [hself]
            exact hnext _ (by simpa using hbrings (hosts sid))
          · rw [hother sid' hne] at hdata
            cases hdata
      | none =>
          obtain ⟨⟨k, v⟩, x', i', body', name, hdata, hL, hv, hmsg⟩ := hasks
          rw [List.cons.injEq, List.cons.injEq] at hdata
          obtain ⟨rfl, rfl, rfl⟩ := hdata
          obtain ⟨noResponse, hwrapper, heffects⟩ := hmsg S.wrapper _ sid hlike.attributes
          have hw' : ({ S.wrapper with noResponse := noResponse } : PyConnectWrapper).pyConnectModule =
              some _ := hw
          obtain ⟨⟨m'', hlike'', hset⟩, hnone, htells⟩ := setValue_tells hm hlike hw' hL hv
          subst hr
          rw [hwrapper, heffects, hnone]
          dsimp only
          rw [hset]
          refine inv_served h hc ⟨m'', rfl, hlike''⟩ rfl ?_ fun sid' _ data hdata =>
            htells _ data (List.mem_of_mem_filter hdata)
          have hserved := hnext [] .nil
          rw [List.append_nil] at hserved ⊢
          have htold := hserved.tell fun data (hdata : data ∈ routed sid _) =>
            htells _ data (List.mem_of_mem_filter hdata)
          rw [Option.toList_none, List.append_nil] at htold
          exact htold
  | hear sid c x i body down handled hc hdown hhandled hlives =>
      have hclient := h.clients sid c hc
      obtain ⟨a, ⟨x', i', body', hdata, hread⟩, hnext⟩ := hclient.hear hdown
      rw [List.cons.injEq, List.cons.injEq] at hdata
      obtain ⟨rfl, rfl, rfl⟩ := hdata
      obtain ⟨hobj, -, hresponses⟩ := hread c.stub.scope c.obj hclient.image
      rw [hhandled, hresponses]
      exact inv_withClient h hc (hnext _ hobj)

/-- The servers have their proxies, and nothing has been said. -/
structure Fresh (b : Build) (m : PyConnectModule) (S : System) : Prop where
  module : S.wrapper.pyConnectModule = some m
  invoked : ∀ sid, S.invoked sid = []
  registered : ∀ sid c, S.clients sid = some c → sid % 16 = sid ∧
    ∃ info, S.wrapper.serverMap[sid]? = some info
  image : ∀ sid c, S.clients sid = some c → Image b m c.obj
  quiet : ∀ sid c, S.clients sid = some c → c.up = [] ∧ c.down = [] ∧ c.made = [] ∧ c.heard = []

theorem inv_reach (hm : Callable b m) (h : Inv b hosts m S) (hrun : ReflTransGen (Step b hosts) S S') :
    Inv b hosts m S' := by
  induction hrun with
  | refl => exact h
  | tail _ hstep ih => exact inv_step hm ih hstep

theorem Asks.cons {r : Option Invocation} (h : Asks b m data r) : ∃ x i body, data = x :: i :: body := by
  cases r with
  | none =>
      obtain ⟨-, x, i, body, -, hdata, -⟩ := h
      exact ⟨x, i, body, hdata⟩
  | some call =>
      obtain ⟨x, i, body, -, -, hdata, -⟩ := h
      exact ⟨x, i, body, hdata⟩

end PyConnect.RemoteCalls

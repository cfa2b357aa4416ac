import PyConnect.AttributeUpdate
import PyConnect.DeclaredMirror
import PyConnect.Replication

namespace PyConnect.Replicas

open Bytes Decoding Common Values ValueCodec Stub StubInput StubMessage StubCall Wrapper
open WrapperInput Mirror MirrorMessage DeclaredMirror MethodCall AttributeUpdate

variable {b : Build} {hosts : Int → Host} {m : PyConnectModule} {obj : PyConnectObject}

def sent (effects : List Stub.Effect) : List (List UInt8) :=
  effects.filterMap fun e => match e with
    | .dispatch data _ => some data
    | _ => none

def dispatched (effects : List Wrapper.Effect) : List (List UInt8) :=
  effects.filterMap fun e => match e with
    | .dispatch data _ => some data
    | _ => none

/-- A server that the module is connected to, its proxy of the module, and
what is on its way on the connection, each way. -/
structure Peer where
  stub : PyConnectStub
  obj : PyConnectObject
  up : List (List UInt8)
  down : List (List UInt8)

structure System where
  wrapper : PyConnectWrapper
  peers : Int → Option Peer

def System.start (m : PyConnectModule) : System := ⟨⟨some m, ∅, false⟩, fun _ => none⟩

def targets (w : PyConnectWrapper) : List Int :=
  (w.serverMap.toList.filter (·.2.attributeUpdate)).map (·.1)

/-- What of the messages of an update is for one of the servers. -/
def addressed (sid : Int) (w : PyConnectWrapper) (effects : List Wrapper.Effect) :
    List (List UInt8) :=
  dispatched (((targets w).zip effects).filterMap fun x => if x.1 = sid then some x.2 else none)

def System.post (S : System) (r : PyConnectWrapper × List Wrapper.Effect) : System where
  wrapper := r.1
  peers sid := (S.peers sid).map fun p => { p with down := p.down ++ addressed sid r.1 r.2 }

def System.withPeer (S : System) (sid : Int) (p : Peer) : System :=
  { S with peers := Function.update S.peers sid (some p) }

@[simp] theorem System.withPeer_self (S : System) (sid : Int) (p : Peer) :
    (S.withPeer sid p).peers sid = some p := Function.update_self ..

theorem System.withPeer_of_ne (S : System) {sid sid' : Int} (h : sid' ≠ sid) (p : Peer) :
    (S.withPeer sid p).peers sid' = S.peers sid' := Function.update_of_ne h ..

@[simp] theorem System.withPeer_withPeer (S : System) (sid : Int) (p p' : Peer) :
    (S.withPeer sid p).withPeer sid p' = S.withPeer sid p' := by
  rw [System.withPeer, System.withPeer, Function.update_idem, System.withPeer]

/-- One step of the whole: a change by the module's own program, a write by a
server's script, a message read at either end, or a server that is assigned
its id. Reading takes the oldest message of a connection, and what it says is
applied to the proxy of this very module. -/
inductive Step (b : Build) (hosts : Int → Host) : System → System → Prop
  | change (S : System) (m : PyConnectModule) (name : List UInt8) (attr : Attribute) (v : Value) :
      S.wrapper.pyConnectModule = some m → m.attributes[name]? = some attr →
      v.dataType = attr.value.dataType → v.PyPortable →
      Step b hosts S (S.post (setValue b S.wrapper name v))
  | write (S : System) (sid : Int) (p : Peer) (name : List UInt8) (value : PyObject) :
      S.peers sid = some p → Sendable value →
      Step b hosts S (S.withPeer sid { p with
        obj := (setAttribute (hosts sid) p.stub p.obj name value).obj
        up := p.up ++ sent (setAttribute (hosts sid) p.stub p.obj name value).effects })
  | serve (S : System) (sid : Int) (p : Peer) (m : PyConnectModule) (h i : UInt8)
      (body : List UInt8) (up : List (List UInt8)) (call : Call) :
      S.peers sid = some p → p.up = (h :: i :: body) :: up → S.wrapper.pyConnectModule = some m →
      call = (moduleMessage b S.wrapper m sid (PyConnectMsg.ofCode (msgTypeOf h))
        (startAt body 0)).1.1 →
      Step b hosts S ((S.withPeer sid { p with up := up }).post (call.wrapper, call.effects))
  | hear (S : System) (sid : Int) (p : Peer) (h i : UInt8) (body : List UInt8)
      (down : List (List UInt8)) :
      S.peers sid = some p → p.down = (h :: i :: body) :: down →
      Step b hosts S (S.withPeer sid { p with
        obj := (objectMessage (hosts sid) p.stub.scope p.obj (PyConnectMsg.ofCode (msgTypeOf h))
          (startAt body 0)).1.obj
        down := down })
  | join (S : System) (sid : Int) (stub : PyConnectStub) (obj : PyConnectObject) (modId : Int) :
      S.peers sid = none → obj.pPyAttrs = [] → obj.pPyMetds = [] → 0 ≤ obj.id →
      Step b hosts S ({ S with wrapper := (moduleAssigned b S.wrapper sid modId).1 }.withPeer sid
        ⟨stub, obj, [], dispatched (moduleAssigned b S.wrapper sid modId).2⟩)

/-- What an attribute keeps whatever its value. -/
def layout (m : PyConnectModule) : List (List UInt8 × PyConnectType × Bool) :=
  m.attributes.toList.map fun x => (x.1, x.2.type, x.2.isWritable)

structure Shows (L : List (List UInt8 × PyConnectType × Bool)) (cache : Nat → PyObject)
    (obj : PyConnectObject) : Prop where
  layout : obj.pPyAttrs.map (fun a => (a.name, a.type, !a.readonly)) = L
  values : ∀ i a, obj.pPyAttrs[i]? = some a → a.value = cache i

def Fresh (obj : PyConnectObject) : Prop := obj.pPyAttrs = [] ∧ obj.pPyMetds = []

/-- A message that brings these values to a proxy that has the attributes. -/
def Carries (host : Host) (L : List (List UInt8 × PyConnectType × Bool)) (data : List UInt8)
    (msg : Nat → Option Value) : Prop :=
  ∃ h i body, data = h :: i :: body ∧ ∀ scope obj cache, Shows L cache obj →
    Shows L (Replication.receive (Value.toPy host) msg cache)
      (objectMessage host scope obj (PyConnectMsg.ofCode (msgTypeOf h)) (startAt body 0)).1.obj

/-- A message that brings them to a proxy that has no attributes yet. -/
def Introduces (host : Host) (L : List (List UInt8 × PyConnectType × Bool)) (data : List UInt8)
    (msg : Nat → Option Value) : Prop :=
  ∃ h i body, data = h :: i :: body ∧ ∀ scope obj cache, Fresh obj →
    Shows L (Replication.receive (Value.toPy host) msg cache)
      (objectMessage host scope obj (PyConnectMsg.ofCode (msgTypeOf h)) (startAt body 0)).1.obj

/-- A message that makes the wrapper set the attribute at this place. -/
def Requests (b : Build) (L : List (List UInt8 × PyConnectType × Bool)) (data : List UInt8)
    (r : Nat × Value) : Prop :=
  ∃ h i body name, data = h :: i :: body ∧ L[r.1]? = some (name, r.2.dataType.pyType, true) ∧
    r.2.PyPortable ∧ ∀ w m sid, layout m = L → ∃ c,
      let call := (moduleMessage b w m sid (PyConnectMsg.ofCode (msgTypeOf h)) (startAt body 0)).1.1
      call.wrapper =
          { (setValue b { w with noResponse := c } name r.2).1 with noResponse := false } ∧
        call.effects = (setValue b { w with noResponse := c } name r.2).2

theorem shows_setValue {L : List (List UInt8 × PyConnectType × Bool)} {cache : Nat → PyObject}
    (h : Shows L cache obj) (i : Nat) (val : PyObject) :
    Shows L (Function.update cache i val) (obj.setValue i val) := by
  constructor
  · rw [← h.layout]
    apply Maps.map_modify
    exact fun _ => rfl
  · intro j a hj
    rw [PyConnectObject.setValue, List.getElem?_modify, Option.map_eq_map,
      Option.map_eq_some_iff] at hj
    obtain ⟨a', ha, rfl⟩ := hj
    by_cases hij : i = j
    · subst hij
      rw [if_pos rfl, Function.update_self]
    · rw [if_neg hij, Function.update_of_ne (Ne.symm hij)]
      exact h.values j a' ha

theorem shows_attr {L : List (List UInt8 × PyConnectType × Bool)} {cache : Nat → PyObject}
    (h : Shows L cache obj) {i : Nat} {x : List UInt8 × PyConnectType × Bool} (hx : L[i]? = some x) :
    ∃ a, obj.pPyAttrs[i]? = some a ∧ (a.name, a.type, !a.readonly) = x := by
  rw [← h.layout, List.getElem?_map, Option.map_eq_some_iff] at hx
  exact hx

theorem carries_update {L : List (List UInt8 × PyConnectType × Bool)} (host whost : Host)
    (sid modId : Int) {i : Nat} {v : Value} {name : List UInt8} {c : Bool}
    (hL : L[i]? = some (name, v.dataType.pyType, c)) (hi : i < 32768) (hv : v.PyPortable) :
    Carries host L (updateData whost sid modId i v) (Replication.single i v) := by
  refine ⟨_, _, _, rfl, fun scope obj cache hobj => ?_⟩
  obtain ⟨a, ha, he⟩ := shows_attr hobj hL
  rw [Prod.mk.injEq, Prod.mk.injEq] at he
  rw [msgTypeOf_header, PyConnectMsg.ofCode_code, (objectMessage_update whost scope ha he.2.1 hi hv 0).1,
    Replication.receive_single]
  exact shows_setValue hobj i _

theorem onSetAttrMetdDesc_shows {L : List (List UInt8 × PyConnectType × Bool)}
    {cache : Nat → PyObject} (h : Shows L cache obj) :
    Yields obj.onSetAttrMetdDesc fun d => Shows L cache d.obj := by
  have hattr : ∀ (i : Nat) (d : Described), Shows L cache d.obj →
      Yields (describeAttribute i d) fun d => Shows L cache d.obj := by
    intro i d hd
    refine .after fun desc => .pure ⟨?_, ?_⟩
    · rw [← hd.layout]
      apply Maps.map_modify
      exact fun _ => rfl
    · intro j a hj
      rw [List.getElem?_modify, Option.map_eq_map, Option.map_eq_some_iff] at hj
      obtain ⟨a', ha, rfl⟩ := hj
      split <;> exact hd.values j a' ha
  have hmetd : ∀ (i : Nat) (d : Described), Shows L cache d.obj →
      Yields (describeMethod i d) fun d => Shows L cache d.obj := by
    intro i d hd
    exact .after fun desc => .pure ⟨hd.layout, hd.values⟩
  exact .after fun n => (Yields.forCount hattr 0 n h).bind fun _ hd =>
    .after fun n' => .forCount hmetd 0 n' hd

theorem carries_desc {L : List (List UInt8 × PyConnectType × Bool)} (host : Host) (sid : Int)
    (i : UInt8) (body : List UInt8) :
    Carries host L (header .attrMetdDesc sid :: i :: body) fun _ => none := by
  refine ⟨_, _, _, rfl, fun scope obj cache hobj => ?_⟩
  rw [msgTypeOf_header, PyConnectMsg.ofCode_code, objectMessage]
  exact (onSetAttrMetdDesc_shows hobj).bind (fun d hd => .pure hd) _

theorem introduces_expose (host whost : Host) (sid modId : Int) {master : Nat → Value}
    (hm : Exposable m) (hna : ∀ k ∈ m.attributes, Named k) (hnm : ∀ k ∈ m.methods, Named k)
    (hmaster : ∀ i x, m.attributes.toList[i]? = some x → master i = x.2.value) :
    Introduces host (layout m)
      (header .attrMetdExpose sid :: toByte modId :: (exposeBytes whost m ++ [msgEnd]))
      (Replication.snapshot master) := by
  refine ⟨_, _, _, rfl, fun scope obj cache hobj => ?_⟩
  obtain ⟨obj', k, hd, he⟩ := exposed_attrMetdExpose host whost hm hna hnm hobj.1 hobj.2
  rw [msgTypeOf_header, PyConnectMsg.ofCode_code, objectMessage_expose, startAt, hd]
  constructor
  · dsimp only
    rw [he.attributes, List.map_map, layout]
    apply List.map_congr_left
    intro x _
    simp [undescribed, mirrorAttribute]
  · intro i a hi
    dsimp only at hi
    rw [he.attributes, List.getElem?_map, Option.map_eq_some_iff] at hi
    obtain ⟨x, hx, rfl⟩ := hi
    rw [Replication.receive, Replication.snapshot, hmaster i x hx]
    rfl

theorem pyType_injective : Function.Injective DataType.pyType := by
  intro s t h
  cases s <;> cases t <;> first | rfl | cases h

theorem layout_getElem {i : Nat} {name : List UInt8} {t : DataType} {c : Bool}
    (h : (layout m)[i]? = some (name, t.pyType, c)) :
    ∃ x, m.attributes.toList[i]? = some x ∧ x.1 = name ∧ x.2.value.dataType = t ∧
      x.2.isWritable = c := by
  rw [layout, List.getElem?_map, Option.map_eq_some_iff] at h
  obtain ⟨x, hx, he⟩ := h
  rw [Prod.mk.injEq, Prod.mk.injEq] at he
  exact ⟨x, hx, he.1, pyType_injective he.2.1, he.2.2⟩

theorem requests_write {L : List (List UInt8 × PyConnectType × Bool)} {sender : Host}
    {t : PyConnectMsg} (ht : t = .callAttrMetd ∨ t = .callAttrMetdNocb) (sid objID : Int) {i : Nat}
    {name : List UInt8} {value : PyObject} {v : Value}
    (hL : L[i]? = some (name, v.dataType.pyType, true)) (hi : i < 32768) (hv : v.PyPortable)
    (hs : sentValue sender v.dataType value = some v) :
    Requests b L (header t sid :: toByte objID ::
      callBytes sender i (packToStr sender value v.dataType.pyType)) (i, v) := by
  refine ⟨_, _, _, name, rfl, hL, hv, fun w m sid hm => ?_⟩
  rw [← hm] at hL
  obtain ⟨x, hx, rfl, hdt, hw⟩ := layout_getElem hL
  have h := moduleMessage_sets (b := b) (w := w) ht sid hx hw hi (by rw [hdt]; exact hs) 0
  rw [Attribute.type, hdt] at h
  rw [msgTypeOf_header, PyConnectMsg.ofCode_code]
  exact h

/-- What a script does to a proxy without the module taking notice. -/
structure Local (obj : PyConnectObject) (a : Attempt) : Prop where
  attrs : a.obj.pPyAttrs = obj.pPyAttrs
  metds : a.obj.pPyMetds = obj.pPyMetds
  id : a.obj.id = obj.id
  sent : sent a.effects = []

/-- A script's write is a write of one of the attributes, or nothing that the
module notices. -/
def Writes (host : Host) (s : PyConnectStub) (obj : PyConnectObject) (value : PyObject)
    (a : Attempt) : Prop :=
  (∃ c i attr, obj.pPyAttrs[i]? = some attr ∧
    a = setRemote host s { obj with noCallback := c } i attr value) ∨ Local obj a

theorem setNamed_writes (host : Host) (s : PyConnectStub) (obj : PyConnectObject) (c : Bool)
    (name : List UInt8) (value : PyObject) :
    Writes host s obj value (setNamed host s { obj with noCallback := c } name value) := by
  rw [setNamed]
  split
  next attr ha => exact .inl ⟨c, _, attr, ha, rfl⟩
  next =>
    right
    split
    · exact ⟨rfl, rfl, rfl, rfl⟩
    · split <;> exact ⟨rfl, rfl, rfl, rfl⟩

theorem setAttribute_writes (host : Host) (s : PyConnectStub) (obj : PyConnectObject)
    (name : List UInt8) (value : PyObject) :
    Writes host s obj value (setAttribute host s obj name value) := by
  unfold setAttribute
  split
  · cases value with
    | bool c => exact setNamed_writes host s obj c name _
    | _ => exact .inr ⟨rfl, rfl, rfl, rfl⟩
  · split
    · exact .inr ⟨rfl, rfl, rfl, rfl⟩
    · split
      · cases value with
        | str utf8 => exact .inr ⟨rfl, rfl, rfl, rfl⟩
        | _ => exact .inr ⟨rfl, rfl, rfl, rfl⟩
      · exact setNamed_writes host s obj obj.noCallback name value

/-- A write that is not refused is one message to the wrapper; without callback
the proxy shows the value at once. -/
theorem setRemote_cases {host : Host} {s : PyConnectStub} {i : Nat} {attr : PyConnectAttribute}
    {t : DataType} {value : PyObject} (hid : 0 ≤ obj.id) (ht : attr.type = t.pyType)
    (hv : Sendable value) :
    Local obj (setRemote host s obj i attr value) ∨
      ∃ v msgType, sentValue host t value = some v ∧ v.PyPortable ∧ v.dataType = t ∧
        attr.readonly = false ∧ (msgType = .callAttrMetd ∨ msgType = .callAttrMetdNocb) ∧
        sent (setRemote host s obj i attr value).effects = [header msgType s.serverID ::
          toByte obj.id :: callBytes host i (packToStr host value t.pyType)] ∧
        ((setRemote host s obj i attr value).obj = obj ∨
          (setRemote host s obj i attr value).obj = obj.setValue i value) := by
  rw [setRemote]
  split
  · exact .inl ⟨rfl, rfl, rfl, rfl⟩
  next hro =>
    dsimp only
    rw [ht]
    split
    · exact .inl ⟨rfl, rfl, rfl, rfl⟩
    next hne =>
      right
      obtain ⟨v, hs, hp, hdt⟩ := sentValue_of_validate host hv hne
      obtain ⟨-, hsize, -⟩ := packToStr_sent host hs
      have hlen := packToStr_length_le hs
      have hsend : ∀ k, Stub.send (callPacket host s obj.id i (packToStr host value t.pyType) k) = _ :=
        fun k => callPacket_send k (by omega)
      have hid' : ¬ obj.id < 0 := Int.not_lt.mpr hid
      rw [hsize, Int.toNat_natCast, List.take_length, remoteAttrMethodCall, if_neg hid',
        remoteAttrMethodCall, if_neg hid', hsend, hsend]
      have hro' : attr.readonly = false := by simpa using hro
      split
      · exact ⟨v, _, hs, hp, hdt, hro', .inr rfl, rfl, .inr rfl⟩
      · exact ⟨v, _, hs, hp, hdt, hro', .inl rfl, rfl, .inl rfl⟩

end PyConnect.Replicas

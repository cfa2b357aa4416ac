import PyConnect.Replicas
import PyConnect.ModuleRouting
import Mathlib.Data.List.Forall2

namespace PyConnect.Convergence

open Relation Bytes Decoding Common Values ValueCodec Stub StubInput StubMessage StubCall Wrapper
open WrapperInput Mirror MirrorMessage DeclaredMirror MethodCall AttributeUpdate Replicas ModuleRouting

variable {b : Build} {hosts : Int → Host} {host : Host} {m : PyConnectModule} {S S' : System}
  {A : Replication.State Int Nat Value PyObject} {p : Peer} {n : Replication.Node Nat Value PyObject}
  {L : List (List UInt8 × PyConnectType × Bool)}

/-- A server as a replica of the module's values: before its proxy has the
attributes, the message that brings them is the next to be read. -/
structure PeerRefines (b : Build) (host : Host) (L : List (List UInt8 × PyConnectType × Bool))
    (p : Peer) (n : Replication.Node Nat Value PyObject) : Prop where
  id : 0 ≤ p.obj.id
  up : List.Forall₂ (Requests b L) p.up n.up
  replica : (Shows L n.cache p.obj ∧ List.Forall₂ (Carries host L) p.down n.down) ∨
    (Fresh p.obj ∧ ∃ data msg rest more, p.down = data :: rest ∧ n.down = msg :: more ∧
      Introduces host L data msg ∧ List.Forall₂ (Carries host L) rest more)

structure Refines (b : Build) (hosts : Int → Host) (m : PyConnectModule) (S : System)
    (A : Replication.State Int Nat Value PyObject) : Prop where
  module : S.wrapper.pyConnectModule = some m
  exposable : Exposable m
  attrNames : ∀ k ∈ m.attributes, Named k
  metdNames : ∀ k ∈ m.methods, Named k
  master : ∀ (i : Nat) (x : List UInt8 × Attribute),
    m.attributes.toList[i]? = some x → A.master i = x.2.value
  updates : ∀ y ∈ S.wrapper.serverMap.toList, y.2.attributeUpdate = true
  servers : ∀ sid : Int, sid ∈ S.wrapper.serverMap ↔ (S.peers sid).isSome
  peers : ∀ sid, (S.peers sid = none ∧ A.nodes sid = none) ∨
    ∃ p n, S.peers sid = some p ∧ A.nodes sid = some n ∧ PeerRefines b (hosts sid) (layout m) p n

theorem PeerRefines.tell (h : PeerRefines b host L p n) {data : List UInt8}
    {msg : Nat → Option Value} (hd : Carries host L data msg) :
    PeerRefines b host L { p with down := p.down ++ [data] } { n with down := n.down ++ [msg] } := by
  refine ⟨h.id, h.up, ?_⟩
  rcases h.replica with ⟨hshows, hdown⟩ | ⟨hfresh, data', msg', rest, more, hp, hn, hintro, hrest⟩
  · exact .inl ⟨hshows, List.rel_append hdown (.cons hd .nil)⟩
  · refine .inr ⟨hfresh, data', msg', rest ++ [data], more ++ [msg], ?_, ?_, hintro,
      List.rel_append hrest (.cons hd .nil)⟩
    · rw [hp, List.cons_append]
    · rw [hn, List.cons_append]

theorem addressed_update {w : PyConnectWrapper} {sid : Int} {info : ServerInfo}
    (hs : ∀ y ∈ w.serverMap.toList, y.2.attributeUpdate = true)
    (hsid : w.serverMap[sid]? = some info) (g : Int × ServerInfo → List UInt8) :
    addressed sid w (w.serverMap.toList.map fun y => .dispatch (g y) false) = [g (sid, info)] := by
  have hpick := Maps.filterMap_toList w.serverMap hsid
    fun y => (Wrapper.Effect.dispatch (g y) false)
  rw [addressed, targets, List.filter_eq_self.mpr hs, List.zip_map', List.filterMap_map]
  have he : (fun x : Int × Wrapper.Effect => if x.1 = sid then some x.2 else none) ∘
      (fun y : Int × ServerInfo => (y.1, Wrapper.Effect.dispatch (g y) false)) =
      fun y => if y.1 = sid then some (.dispatch (g y) false) else none := rfl
  rw [he, hpick]
  rfl

theorem layout_assign {i : Nat} {x : List UInt8 × Attribute} {v : Value}
    (hx : m.attributes.toList[i]? = some x) (hv : v.dataType = x.2.value.dataType) :
    layout (m.assign x.1 v) = layout m := by
  rw [layout, toList_assign, List.map_map, layout]
  apply List.map_congr_left
  intro y hy
  by_cases he : y.1 = x.1
  · have hxy : y.2 = x.2 := by
      have h1 := Std.ExtTreeMap.mem_toList_iff_getElem?_eq_some.mp hy
      have h2 := Std.ExtTreeMap.mem_toList_iff_getElem?_eq_some.mp (List.mem_of_getElem? hx)
      rw [he, h2] at h1
      exact (Option.some.inj h1).symm
    dsimp only [Function.comp]
    rw [if_pos he, hxy, Attribute.type, Attribute.type, hv]
  · dsimp only [Function.comp]
    rw [if_neg he]

theorem exposable_assign {v : Value} (hm : Exposable m) (hv : v.PyPortable) (name : List UInt8) :
    Exposable (m.assign name v) := by
  constructor
  · intro y hy
    rw [toList_assign, List.mem_map] at hy
    obtain ⟨y, hy, rfl⟩ := hy
    split
    · exact hv
    · exact hm.values y hy
  · exact hm.types
  · exact hm.arity
  · exact (Std.ExtTreeMap.size_modify (t := m.attributes)).trans_le hm.attrCount
  · exact hm.metdCount

theorem master_assign {i : Nat} {x : List UInt8 × Attribute} {master : Nat → Value}
    (hx : m.attributes.toList[i]? = some x)
    (hmaster : ∀ (j : Nat) (y : List UInt8 × Attribute),
      m.attributes.toList[j]? = some y → master j = y.2.value) (v : Value)
    {j : Nat} {y : List UInt8 × Attribute} (hy : (m.assign x.1 v).attributes.toList[j]? = some y) :
    Function.update master i v j = y.2.value := by
  rw [toList_assign, List.getElem?_map, Option.map_eq_some_iff] at hy
  obtain ⟨y, hy, rfl⟩ := hy
  by_cases hj : j = i
  · subst hj
    rw [hx] at hy
    obtain rfl := Option.some.inj hy
    rw [Function.update_self, if_pos rfl]
  · rw [Function.update_of_ne hj, hmaster j y hy, if_neg]
    intro he
    apply hj
    have h1 := distance_getElem hy
    rw [he, distance_getElem hx] at h1
    exact h1.symm

theorem index_lt (h : Exposable m) {i : Nat} {x : List UInt8 × Attribute}
    (hx : m.attributes.toList[i]? = some x) : i < 32768 := by
  have hi := (List.getElem?_eq_some_iff.mp hx).1
  have hcount := h.attrCount
  rw [Std.ExtTreeMap.length_toList] at hi
  omega

theorem refines_post (h : Refines b hosts m S A) {i : Nat} {x : List UInt8 × Attribute} {v : Value}
    (hx : m.attributes.toList[i]? = some x) (hv : v.PyPortable)
    (hdt : v.dataType = x.2.value.dataType) {w : PyConnectWrapper} {effects : List Wrapper.Effect}
    (hmod : w.pyConnectModule = some (m.assign x.1 v)) (hmap : w.serverMap = S.wrapper.serverMap)
    (heffects : effects = S.wrapper.serverMap.toList.map fun y =>
      .dispatch (updateData b.host y.1 y.2.assignedModuleID i v) false) :
    Refines b hosts (m.assign x.1 v) (S.post (w, effects)) (A.set i v) := by
  have hlt : i < 32768 := index_lt h.exposable hx
  have hL : (layout m)[i]? = some (x.1, v.dataType.pyType, x.2.isWritable) := by
    rw [layout, List.getElem?_map, hx, hdt]
    rfl
  have hlayout := layout_assign hx hdt
  constructor
  · exact hmod
  · exact exposable_assign h.exposable hv x.1
  · intro k hk
    exact h.attrNames k (Std.ExtTreeMap.mem_modify.mp hk)
  · exact h.metdNames
  · intro j y hy
    exact master_assign hx h.master v hy
  · simpa only [System.post, hmap] using h.updates
  · intro sid
    rw [System.post, hmap, h.servers sid, Option.isSome_map]
  · intro sid
    rw [hlayout]
    rcases h.peers sid with ⟨hp, hn⟩ | ⟨p, n, hp, hn, hpn⟩
    · left
      dsimp only [System.post, Replication.State.set]
      rw [hp, hn]
      exact ⟨rfl, rfl⟩
    · right
      have hmem : sid ∈ S.wrapper.serverMap := (h.servers sid).mpr (by rw [hp]; rfl)
      rw [Std.ExtTreeMap.mem_iff_isSome_getElem?, Option.isSome_iff_exists] at hmem
      obtain ⟨info, hinfo⟩ := hmem
      have hadd : addressed sid w effects =
          [updateData b.host sid info.assignedModuleID i v] := by
        rw [heffects, ← hmap]
        apply addressed_update
        · rw [hmap]
          exact h.updates
        · rw [hmap]
          exact hinfo
      refine ⟨_, _, ?_, ?_, hpn.tell (carries_update (hosts sid) b.host sid info.assignedModuleID
        hL hlt hv)⟩
      · dsimp only [System.post]
        rw [hp, Option.map_some, hadd]
      · dsimp only [Replication.State.set]
        rw [hn, Option.map_some]

theorem moduleAssigned_joins {w : PyConnectWrapper} {sid : Int} (hw : w.pyConnectModule = some m)
    (hm : Exposable m) (hna : ∀ k ∈ m.attributes, Named k) (hnm : ∀ k ∈ m.methods, Named k)
    (hsid : w.serverMap[sid]? = none) (modId : Int) :
    (moduleAssigned b w sid modId).1 = { w with serverMap := w.serverMap.insert sid ⟨modId, true⟩ } ∧
      ∃ more, dispatched (moduleAssigned b w sid modId).2 = (header .attrMetdExpose sid ::
          toByte modId :: (exposeBytes b.host m ++ [msgEnd])) :: more ∧
        (more = [] ∨ ∃ i body, more = [header .attrMetdDesc sid :: i :: body]) := by
  have hsize := attrMetdPacket_sized b.host hm.fits hna hnm sid modId
  have hexpose := Packet.data_eq (attrMetdPacket_written b.host hm.fits.values sid modId)
  obtain ⟨body, hdesc⟩ := data_of_written (p := attrMetdDescPacket m sid modId) rfl
    (Int.le_of_lt (attrMetdDescPacket_size m sid modId))
  rw [moduleAssigned_eq b hw, Wrapper.send_eq hsize, hexpose]
  refine ⟨?_, ?_⟩
  · rw [assignEntry, hsid]
  · rw [Wrapper.send]
    split
    · refine ⟨_, rfl, .inr ⟨toByte modId, body, ?_⟩⟩
      rw [hdesc]
      rfl
    · exact ⟨_, rfl, .inl rfl⟩

theorem refines_withPeer (h : Refines b hosts m S A) {sid : Int} (hsid : (S.peers sid).isSome)
    (hpn : PeerRefines b (hosts sid) (layout m) p n) :
    Refines b hosts m (S.withPeer sid p) (A.withNode sid n) := by
  refine { h with servers := ?_, peers := ?_ }
  · intro sid'
    by_cases he : sid' = sid
    · subst he
      rw [System.withPeer_self]
      exact ⟨fun _ => rfl, fun _ => (h.servers sid').mpr hsid⟩
    · rw [System.withPeer_of_ne S he]
      exact h.servers sid'
  · intro sid'
    by_cases he : sid' = sid
    · subst he
      exact .inr ⟨p, n, System.withPeer_self .., Function.update_self .., hpn⟩
    · have hn : (A.withNode sid n).nodes sid' = A.nodes sid' := Function.update_of_ne he ..
      rw [System.withPeer_of_ne S he, hn]
      exact h.peers sid'

theorem refines_peer (h : Refines b hosts m S A) {sid : Int} (hp : S.peers sid = some p) :
    ∃ n, A.nodes sid = some n ∧ PeerRefines b (hosts sid) (layout m) p n := by
  rcases h.peers sid with ⟨hp', -⟩ | ⟨p', n, hp', hn, hpn⟩
  · rw [hp] at hp'
    cases hp'
  · rw [hp] at hp'
    obtain rfl := Option.some.inj hp'
    exact ⟨n, hn, hpn⟩

def Simulated (b : Build) (hosts : Int → Host) (A : Replication.State Int Nat Value PyObject)
    (S' : System) : Prop :=
  ∃ m' A', ReflTransGen (Replication.Step fun sid => Value.toPy (hosts sid)) A A' ∧
    Refines b hosts m' S' A'

theorem simulated_change (h : Refines b hosts m S A) {name : List UInt8} {attr : Attribute}
    {v : Value} (hattr : m.attributes[name]? = some attr) (hdt : v.dataType = attr.value.dataType)
    (hv : v.PyPortable) : Simulated b hosts A (S.post (setValue b S.wrapper name v)) := by
  have hmem := Std.ExtTreeMap.mem_toList_iff_getElem?_eq_some.mpr hattr
  obtain ⟨i, hi⟩ := List.mem_iff_getElem?.mp hmem
  have hset := setValue_eq (b := b) h.module hi (portable_of_pyPortable hv) h.updates
  dsimp only at hset
  rw [hset]
  exact ⟨_, _, .single (.change A i v), refines_post h hi hv hdt rfl rfl rfl⟩

theorem simulated_serve (h : Refines b hosts m S A) {sid : Int} {hd i : UInt8} {body : List UInt8}
    {up : List (List UInt8)} {call : Call} (hp : S.peers sid = some p)
    (hup : p.up = (hd :: i :: body) :: up)
    (hcall : call = (moduleMessage b S.wrapper m sid (PyConnectMsg.ofCode (msgTypeOf hd))
      (startAt body 0)).1.1) :
    Simulated b hosts A ((S.withPeer sid { p with up := up }).post (call.wrapper, call.effects)) := by
  obtain ⟨n, hn, hpn⟩ := refines_peer h hp
  have hups := hpn.up
  rw [hup, List.forall₂_cons_left_iff] at hups
  obtain ⟨⟨k, v⟩, nup, hreq, hrest, hnup⟩ := hups
  obtain ⟨hd', i', body', name, hdata, hL, hv, hsets⟩ := hreq
  obtain ⟨rfl, rfl, rfl⟩ : hd = hd' ∧ i = i' ∧ body = body' := by
    simpa using hdata
  obtain ⟨x, hx, rfl, hdt, -⟩ := layout_getElem hL
  obtain ⟨c, hw, heffects⟩ := hsets S.wrapper m sid rfl
  rw [← hcall] at hw heffects
  have hset := setValue_eq (b := b) (w := { S.wrapper with noResponse := c }) h.module hx
    (portable_of_pyPortable hv) h.updates
  dsimp only at hw heffects hset
  rw [hset] at hw heffects
  have hS : Refines b hosts m (S.withPeer sid { p with up := up })
      (A.withNode sid { n with up := nup }) :=
    refines_withPeer h (by rw [hp]; rfl) ⟨hpn.id, hrest, hpn.replica⟩
  refine ⟨_, _, .single (.serve A sid n k v nup hn hnup), refines_post hS hx hv hdt.symm ?_ ?_ heffects⟩
  · rw [hw]
  · rw [hw]
    rfl

theorem simulated_hear (h : Refines b hosts m S A) {sid : Int} {hd i : UInt8} {body : List UInt8}
    {down : List (List UInt8)} (hp : S.peers sid = some p)
    (hdown : p.down = (hd :: i :: body) :: down) :
    Simulated b hosts A (S.withPeer sid { p with
      obj := (objectMessage (hosts sid) p.stub.scope p.obj (PyConnectMsg.ofCode (msgTypeOf hd))
        (startAt body 0)).1.obj
      down := down }) := by
  obtain ⟨n, hn, hpn⟩ := refines_peer h hp
  have hid : 0 ≤ (objectMessage (hosts sid) p.stub.scope p.obj (PyConnectMsg.ofCode (msgTypeOf hd))
      (startAt body 0)).1.obj.id := by
    rw [objectMessage_id]
    exact hpn.id
  rcases hpn.replica with ⟨hshows, hdowns⟩ | ⟨hfresh, data, msg, rest, more, hp', hn', hintro, hrest⟩
  · rw [hdown, List.forall₂_cons_left_iff] at hdowns
    obtain ⟨msg, ndown, hcarries, hrest, hndown⟩ := hdowns
    obtain ⟨hd', i', body', hdata, hshows'⟩ := hcarries
    obtain ⟨rfl, rfl, rfl⟩ : hd = hd' ∧ i = i' ∧ body = body' := by
      simpa using hdata
    exact ⟨m, _, .single (.hear A sid n msg ndown hn hndown), refines_withPeer h (by rw [hp]; rfl)
      ⟨hid, hpn.up, .inl ⟨hshows' _ _ _ hshows, hrest⟩⟩⟩
  · rw [hdown, List.cons.injEq] at hp'
    obtain ⟨rfl, rfl⟩ := hp'
    obtain ⟨hd', i', body', hdata, hshows'⟩ := hintro
    obtain ⟨rfl, rfl, rfl⟩ : hd = hd' ∧ i = i' ∧ body = body' := by
      simpa using hdata
    exact ⟨m, _, .single (.hear A sid n msg more hn hn'), refines_withPeer h (by rw [hp]; rfl)
      ⟨hid, hpn.up, .inl ⟨hshows' _ _ _ hfresh, hrest⟩⟩⟩

theorem withNode_self {sid : Int} (hn : A.nodes sid = some n) : A.withNode sid n = A := by
  rw [Replication.State.withNode, ← hn, Function.update_eq_self]

/-- A script's attempt that the module does not notice changes no replica. -/
theorem PeerRefines.attempt (h : PeerRefines b host L p n) {a : Attempt} (ha : Local p.obj a) :
    PeerRefines b host L { p with obj := a.obj, up := p.up ++ sent a.effects } n := by
  refine ⟨ha.id ▸ h.id, ?_, ?_⟩
  · dsimp only
    rw [ha.sent, List.append_nil]
    exact h.up
  · rcases h.replica with ⟨hshows, hdown⟩ | ⟨hfresh, hdown⟩
    · exact .inl ⟨⟨ha.attrs ▸ hshows.layout, ha.attrs ▸ hshows.values⟩, hdown⟩
    · exact .inr ⟨⟨ha.attrs ▸ hfresh.1, ha.metds ▸ hfresh.2⟩, hdown⟩

theorem shown_attribute {cache : Nat → PyObject} {obj : PyConnectObject}
    (h : Shows (layout m) cache obj) {i : Nat} {attr : PyConnectAttribute}
    (hattr : obj.pPyAttrs[i]? = some attr) :
    ∃ x, m.attributes.toList[i]? = some x ∧ attr.type = x.2.value.dataType.pyType ∧
      (layout m)[i]? = some (attr.name, attr.type, !attr.readonly) := by
  have hlay : (layout m)[i]? = some (attr.name, attr.type, !attr.readonly) := by
    rw [← h.layout, List.getElem?_map, hattr]
    rfl
  obtain ⟨x, hx, he⟩ := Option.map_eq_some_iff.mp ((List.getElem?_map ..).symm.trans hlay)
  exact ⟨x, hx, (congrArg (·.2.1) he).symm, hlay⟩

theorem simulated_write (h : Refines b hosts m S A) {sid : Int} (name : List UInt8)
    {value : PyObject} (hp : S.peers sid = some p) (hvalue : Sendable value) :
    Simulated b hosts A (S.withPeer sid { p with
      obj := (setAttribute (hosts sid) p.stub p.obj name value).obj
      up := p.up ++ sent (setAttribute (hosts sid) p.stub p.obj name value).effects }) := by
  obtain ⟨n, hn, hpn⟩ := refines_peer h hp
  have hpeer : (S.peers sid).isSome := by rw [hp]; rfl
  generalize ha : setAttribute (hosts sid) p.stub p.obj name value = a
  have hlocal : Local p.obj a → Simulated b hosts A
      (S.withPeer sid { p with obj := a.obj, up := p.up ++ sent a.effects }) := by
    intro hl
    refine ⟨m, A, .refl, ?_⟩
    have hR := refines_withPeer h hpeer (hpn.attempt hl)
    rw [withNode_self hn] at hR
    exact hR
  rcases ha ▸ setAttribute_writes (hosts sid) p.stub p.obj name value with
    ⟨c, i, attr, hattr, rfl⟩ | hl
  · rcases hpn.replica with ⟨hshows, hdown⟩ | ⟨hfresh, -⟩
    · obtain ⟨x, hx, ht, hlay⟩ := shown_attribute hshows hattr
      have hlt : i < 32768 := index_lt h.exposable hx
      have hid : 0 ≤ ({ p.obj with noCallback := c } : PyConnectObject).id := hpn.id
      have hshows' : Shows (layout m) n.cache ({ p.obj with noCallback := c } : PyConnectObject) :=
        ⟨hshows.layout, hshows.values⟩
      rcases setRemote_cases (s := p.stub) (i := i) hid ht hvalue with
        hl | ⟨v, t, hs, hv, hdt, hro, hmsg, hsent, hobj⟩
      · exact hlocal ⟨hl.attrs, hl.metds, hl.id, hl.sent⟩
      · rw [ht, hro] at hlay
        rw [← hdt] at hlay hs hsent
        have hreq := requests_write (b := b) hmsg p.stub.serverID p.obj.id hlay hlt hv hs
        rw [hsent]
        have hup := List.rel_append hpn.up (List.Forall₂.cons hreq .nil)
        rcases hobj with hobj | hobj
        · rw [hobj]
          exact ⟨m, _, .single (.write A sid n i v n.cache hn fun _ _ => rfl),
            refines_withPeer h hpeer ⟨hpn.id, hup, .inl ⟨hshows', hdown⟩⟩⟩
        · rw [hobj]
          exact ⟨m, _, .single (.write A sid n i v (Function.update n.cache i value) hn
            fun j hj => Function.update_of_ne hj ..),
            refines_withPeer h hpeer ⟨hpn.id, hup, .inl ⟨shows_setValue hshows' i value, hdown⟩⟩⟩
    · rw [hfresh.1] at hattr
      cases hattr
  · exact hlocal hl

theorem simulated_join (h : Refines b hosts m S A) {sid : Int} (stub : PyConnectStub)
    {obj : PyConnectObject} (modId : Int) (hp : S.peers sid = none) (hfresh : Fresh obj)
    (hid : 0 ≤ obj.id) :
    Simulated b hosts A ({ S with wrapper := (moduleAssigned b S.wrapper sid modId).1 }.withPeer sid
      ⟨stub, obj, [], dispatched (moduleAssigned b S.wrapper sid modId).2⟩) := by
  have hmap : S.wrapper.serverMap[sid]? = none := by
    apply Std.ExtTreeMap.getElem?_eq_none
    rw [h.servers sid, hp]
    simp
  have hn : A.nodes sid = none := by
    rcases h.peers sid with ⟨-, hn⟩ | ⟨p, n, hp', -, -⟩
    · exact hn
    · rw [hp] at hp'
      cases hp'
  obtain ⟨hw, more, heffects, hmore⟩ := moduleAssigned_joins (b := b) h.module h.exposable h.attrNames
    h.metdNames hmap modId
  rw [hw, heffects]
  have hintro := introduces_expose (hosts sid) b.host sid modId h.exposable h.attrNames h.metdNames
    h.master
  obtain ⟨msgs, hmsgs, hcarries⟩ : ∃ msgs : List (Nat → Option Value),
      (∀ msg ∈ msgs, ∀ k, msg k = none) ∧
        List.Forall₂ (Carries (hosts sid) (layout m)) more msgs := by
    rcases hmore with rfl | ⟨i, body, rfl⟩
    · exact ⟨[], by simp, .nil⟩
    · refine ⟨[fun _ => none], ?_, .cons (carries_desc (hosts sid) sid i body) .nil⟩
      intro msg hmsg k
      rw [List.mem_singleton.mp hmsg]
  have hjoin : Replication.Step (fun sid => Value.toPy (hosts sid)) A _ :=
    .join A sid (fun _ => PyObject.none) msgs hn hmsgs
  refine ⟨m, _, .single hjoin, ?_⟩
  refine { h with updates := ?_, servers := ?_, peers := ?_ }
  · intro y hy
    have hy' := Std.ExtTreeMap.mem_toList_iff_getElem?_eq_some.mp hy
    dsimp only [System.withPeer] at hy'
    rw [Std.ExtTreeMap.getElem?_insert] at hy'
    split at hy'
    · rw [← Option.some.inj hy']
    · exact h.updates y (Std.ExtTreeMap.mem_toList_iff_getElem?_eq_some.mpr hy')
  · intro sid'
    dsimp only [System.withPeer]
    rw [Std.ExtTreeMap.mem_insert, Std.compare_eq_iff_eq]
    by_cases he : sid' = sid
    · subst he
      rw [Function.update_self]
      simp
    · rw [Function.update_of_ne he, h.servers sid']
      simp [Ne.symm he]
  · intro sid'
    dsimp only [System.withPeer, Replication.State.withNode]
    by_cases he : sid' = sid
    · subst he
      rw [Function.update_self, Function.update_self]
      exact .inr ⟨_, _, rfl, rfl, hid, .nil, .inr ⟨hfresh, _, _, _, _, rfl, rfl, hintro, hcarries⟩⟩
    · rw [Function.update_of_ne he, Function.update_of_ne he]
      exact h.peers sid'

theorem refines_step {S' : System} (h : Refines b hosts m S A) (hstep : Step b hosts S S') :
    Simulated b hosts A S' := by
  cases hstep with
  | change m' name attr v hm hattr hdt hv =>
      rw [h.module] at hm
      obtain rfl := Option.some.inj hm
      exact simulated_change h hattr hdt hv
  | write sid p name value hp hvalue => exact simulated_write h name hp hvalue
  | serve sid p m' hd i body up call hp hup hm hcall =>
      rw [h.module] at hm
      obtain rfl := Option.some.inj hm
      exact simulated_serve h hp hup hcall
  | hear sid p hd i body down hp hdown => exact simulated_hear h hp hdown
  | join sid stub obj modId hp hattrs hmetds hid =>
      exact simulated_join h stub modId hp ⟨hattrs, hmetds⟩ hid

theorem refines_start (hm : Exposable m) (hna : ∀ k ∈ m.attributes, Named k)
    (hnm : ∀ k ∈ m.methods, Named k) (v : Value) :
    Refines b hosts m (System.start m)
      ⟨fun i => (m.attributes.toList[i]?).elim v fun x => x.2.value, fun _ => none⟩ := by
  constructor
  · rfl
  · exact hm
  · exact hna
  · exact hnm
  · intro i x hx
    dsimp only
    rw [hx]
    rfl
  · intro y hy
    have hy' := Std.ExtTreeMap.mem_toList_iff_getElem?_eq_some.mp hy
    simp [System.start] at hy'
  · intro sid
    simp [System.start]
  · exact fun _ => .inl ⟨rfl, rfl⟩

theorem refines_reach {S' : System} (h : Refines b hosts m S A)
    (hrun : ReflTransGen (Step b hosts) S S') : Simulated b hosts A S' := by
  induction hrun with
  | refl => exact ⟨m, A, .refl, h⟩
  | tail _ hstep ih =>
      obtain ⟨m₁, A₁, hA₁, h₁⟩ := ih
      obtain ⟨m₂, A₂, hA₂, h₂⟩ := refines_step h₁ hstep
      exact ⟨m₂, A₂, hA₁.trans hA₂, h₂⟩

theorem shows_master {master : Nat → Value} {obj : PyConnectObject}
    (hshows : Shows (layout m) (Value.toPy host ∘ master) obj)
    (hmaster : ∀ (i : Nat) (x : List UInt8 × Attribute),
      m.attributes.toList[i]? = some x → master i = x.2.value) :
    obj.pPyAttrs.map (fun a => (a.name, a.value)) =
      m.attributes.toList.map fun x => (x.1, x.2.value.toPy host) := by
  apply List.ext_getElem?
  intro i
  have hi : (obj.pPyAttrs.map fun a => (a.name, a.type, !a.readonly))[i]? = (layout m)[i]? := by
    rw [hshows.layout]
  rw [layout, List.getElem?_map, List.getElem?_map] at hi
  rw [List.getElem?_map, List.getElem?_map]
  cases hx : m.attributes.toList[i]? with
  | none =>
      rw [hx, Option.map_none, Option.map_eq_none_iff] at hi
      rw [hi]
      rfl
  | some x =>
      rw [hx, Option.map_some, Option.map_eq_some_iff] at hi
      obtain ⟨a, ha, he⟩ := hi
      rw [ha, Option.map_some, Option.map_some, hshows.values i a ha, Function.comp, hmaster i x hx,
        (Prod.mk.inj he).1]

/-- Whatever the interleaving, once nothing is on its way every server shows
the values of the module's attributes. -/
theorem values_converge (b : Build) (hosts : Int → Host) {name desc : List UInt8}
    {rs : List Registration} {S : System} (hm : Exposable (register name desc rs))
    (hrun : ReflTransGen (Step b hosts) (System.start (register name desc rs)) S)
    (hquiet : ∀ sid p, S.peers sid = some p → p.up = [] ∧ p.down = []) :
    ∃ m, S.wrapper.pyConnectModule = some m ∧ ∀ sid p, S.peers sid = some p →
      p.obj.pPyAttrs.map (fun a => (a.name, a.value)) =
        m.attributes.toList.map fun x => (x.1, x.2.value.toPy (hosts sid)) := by
  obtain ⟨hna, hnm⟩ := register_named name desc rs
  obtain ⟨m, A, hA, h⟩ := refines_reach (refines_start hm hna hnm (.int 0)) hrun
  refine ⟨m, h.module, fun sid p hp => ?_⟩
  obtain ⟨hup, hdown⟩ := hquiet sid p hp
  obtain ⟨n, hn, hpn⟩ := refines_peer h hp
  have hsettled : Replication.Settled (fun sid => Value.toPy (hosts sid)) A := by
    apply Replication.settled_reach hA
    intro _ _ hnone
    cases hnone
  have hnup : n.up = [] := List.forall₂_nil_left_iff.mp (hup ▸ hpn.up)
  rcases hpn.replica with ⟨hshows, hdowns⟩ | ⟨-, data, msg, rest, more, hcons, -⟩
  · rw [hdown, List.forall₂_nil_left_iff] at hdowns
    rw [Replication.converged hsettled hn hnup hdowns] at hshows
    exact shows_master hshows h.master
  · rw [hdown] at hcons
    cases hcons

def oneServer (w : PyConnectWrapper) (sid : Int) (p : Peer) : System :=
  ⟨w, Function.update (fun _ => none) sid (some p)⟩

def listened (host : Host) (scope : CallbackScope) (obj : PyConnectObject) (down : List (List UInt8)) :
    PyConnectObject :=
  down.foldl (fun obj data => (objectMessage host scope obj
    (PyConnectMsg.ofCode (msgTypeOf (data.headD 0))) (startAt (data.drop 2) 0)).1.obj) obj

section OneServer

variable (w : PyConnectWrapper) (sid : Int) (stub : PyConnectStub)

theorem peers_oneServer (p : Peer) : (oneServer w sid p).peers sid = some p := by
  rw [oneServer]
  dsimp only
  rw [Function.update_self]

theorem of_peers_oneServer {w : PyConnectWrapper} {sid sid' : Int} {p q : Peer}
    (h : (oneServer w sid p).peers sid' = some q) : q = p := by
  by_cases he : sid' = sid
  · subst he
    exact Option.some.inj (h.symm.trans (peers_oneServer w sid' p))
  · rw [oneServer] at h
    dsimp only at h
    rw [Function.update_of_ne he] at h
    cases h

theorem oneServer_withPeer (p p' : Peer) : (oneServer w sid p).withPeer sid p' = oneServer w sid p' := by
  rw [oneServer, System.withPeer, Function.update_idem, oneServer]

theorem oneServer_post (p : Peer) (r : PyConnectWrapper × List Wrapper.Effect) :
    (oneServer w sid p).post r =
      oneServer r.1 sid { p with down := p.down ++ addressed sid r.1 r.2 } := by
  rw [oneServer, System.post, oneServer]
  congr 1
  funext sid'
  dsimp only
  by_cases he : sid' = sid
  · subst he
    rw [Function.update_self, Function.update_self]
    rfl
  · rw [Function.update_of_ne he, Function.update_of_ne he]
    rfl

theorem listens (hosts : Int → Host) (obj : PyConnectObject) (up : List (List UInt8))
    {down : List (List UInt8)} (hdown : ∀ data ∈ down, 2 ≤ data.length) :
    ReflTransGen (Step b hosts) (oneServer w sid ⟨stub, obj, up, down⟩)
      (oneServer w sid ⟨stub, listened (hosts sid) stub.scope obj down, up, []⟩) := by
  induction down generalizing obj with
  | nil => exact .refl
  | cons data down ih =>
      match data, hdown data List.mem_cons_self with
      | h :: i :: body, _ =>
          have hstep : Step b hosts (oneServer w sid ⟨stub, obj, up, (h :: i :: body) :: down⟩) _ :=
            .hear _ sid _ h i body down (peers_oneServer ..) rfl
          rw [oneServer_withPeer] at hstep
          exact .head hstep (ih _ fun x hx => hdown x (List.mem_cons_of_mem _ hx))

variable (b) (hosts)

theorem joins (m : PyConnectModule) (name : List UInt8) (modId : Int) :
    Step b hosts (System.start m) (oneServer (moduleAssigned b ⟨some m, ∅, false⟩ sid modId).1 sid
      ⟨stub, PyConnectObject.create name 1 none 0, [],
        dispatched (moduleAssigned b ⟨some m, ∅, false⟩ sid modId).2⟩) :=
  .join _ sid stub (PyConnectObject.create name 1 none 0) modId rfl rfl rfl Int.one_nonneg

theorem writes (obj : PyConnectObject) (name : List UInt8) {value : PyObject} (hvalue : Sendable value)
    {up : List (List UInt8)}
    (hsent : sent (setAttribute (hosts sid) stub obj name value).effects = up) :
    ∃ obj', Step b hosts (oneServer w sid ⟨stub, obj, [], []⟩)
      (oneServer w sid ⟨stub, obj', up, []⟩) := by
  have hstep : Step b hosts (oneServer w sid ⟨stub, obj, [], []⟩) _ :=
    .write _ sid _ name value (peers_oneServer ..) hvalue
  rw [oneServer_withPeer, List.nil_append, hsent] at hstep
  exact ⟨_, hstep⟩

theorem changes (p : Peer) {m : PyConnectModule} {name : List UInt8} {attr : Attribute} {v : Value}
    (hw : w.pyConnectModule = some m) (hattr : m.attributes[name]? = some attr)
    (hdt : v.dataType = attr.value.dataType) (hv : v.PyPortable) :
    Step b hosts (oneServer w sid p) (oneServer (setValue b w name v).1 sid
      { p with down := p.down ++ addressed sid (setValue b w name v).1 (setValue b w name v).2 }) := by
  rw [← oneServer_post]
  exact .change _ m name attr v hw hattr hdt hv

theorem serves (p : Peer) {m : PyConnectModule} {h i : UInt8} {body : List UInt8}
    (hup : p.up = [h :: i :: body]) (hw : w.pyConnectModule = some m) :
    let call := (moduleMessage b w m sid (PyConnectMsg.ofCode (msgTypeOf h)) (startAt body 0)).1.1
    Step b hosts (oneServer w sid p) (oneServer call.wrapper sid
      { p with up := [], down := p.down ++ addressed sid call.wrapper call.effects }) := by
  have hstep : Step b hosts (oneServer w sid p) _ :=
    .serve _ sid p m h i body [] _ (peers_oneServer ..) hup hw rfl
  rw [oneServer_withPeer, oneServer_post] at hstep
  exact hstep

end OneServer

def sensing : PyConnectModule := register [115] [] sensors

def sensingServer : PyConnectStub := ⟨false, [], 2, [], 3⟩

def joined : PyConnectWrapper where
  pyConnectModule := some sensing
  serverMap := (∅ : Std.ExtTreeMap Int ServerInfo).insert 3 ⟨1, true⟩
  noResponse := false

def changed : PyConnectWrapper :=
  { joined with pyConnectModule := some (sensing.assign [99] (.int 9)) }

def introduction : List (List UInt8) :=
  [[67, 1, 2, 0, 1, 99, 7, 0, 0, 0, 67, 1, 110, 1, 120, 1, 6, 1, 109, 2, 0, 68, 64],
    [163, 1, 2, 0, 2, 104, 105, 1, 0, 64]]

theorem joins_sensing : Step ⟨.little, false, false⟩ (fun _ => .little)
    (System.start (register [115] [] sensors))
    (oneServer joined 3 ⟨sensingServer, PyConnectObject.create [115] 1 none 0, [], introduction⟩) := by
  obtain ⟨hna, hnm⟩ := register_named [115] [] sensors
  have hjoined : (moduleAssigned ⟨.little, false, false⟩ ⟨some sensing, ∅, false⟩ 3 1).1 = joined :=
    (moduleAssigned_joins rfl exportable_sensors.toExposable hna hnm Std.ExtTreeMap.getElem?_empty 1).1
  have htold : dispatched (moduleAssigned ⟨.little, false, false⟩ ⟨some sensing, ∅, false⟩ 3 1).2 =
      introduction := by decide +kernel
  have hjoin := joins ⟨.little, false, false⟩ (fun _ => .little) 3 sensingServer sensing [115] 1
  rw [hjoined, htold, sensing] at hjoin
  exact hjoin

theorem module_joined : joined.pyConnectModule = some sensing := rfl

theorem sensing_number : sensing.attributes[([99] : List UInt8)]? = some ⟨[], .int 7, false⟩ := by
  decide +kernel

theorem changes_sensing (obj : PyConnectObject) (up : List (List UInt8)) :
    Step ⟨.little, false, false⟩ (fun _ => .little) (oneServer joined 3 ⟨sensingServer, obj, up, []⟩)
      (oneServer changed 3 ⟨sensingServer, obj, up, [[131, 1, 0, 5, 0, 0, 0, 0, 9, 0, 0, 0, 64]]⟩) := by
  have hset : (setValue ⟨.little, false, false⟩ joined [99] (.int 9)).1 = changed :=
    congrArg Prod.fst (WrapperSends.setValue_registered module_joined
      (Std.ExtTreeMap.mem_iff_isSome_getElem?.mpr (by rw [sensing_number]; rfl)) (.int 9))
  have htold : addressed 3 changed (setValue ⟨.little, false, false⟩ joined [99] (.int 9)).2 =
      [[131, 1, 0, 5, 0, 0, 0, 0, 9, 0, 0, 0, 64]] := by decide +kernel
  have hchange := changes ⟨.little, false, false⟩ (fun _ => .little) joined 3
    ⟨sensingServer, obj, up, []⟩ module_joined sensing_number (v := .int 9) rfl trivial
  rw [hset, htold] at hchange
  exact hchange

def served : Call :=
  (moduleMessage ⟨.little, false, false⟩ changed (sensing.assign [99] (.int 9)) 3
    (PyConnectMsg.ofCode (msgTypeOf 83)) (startAt [3, 0, 0, 0, 1, 1, 121, 64] 0)).1.1

theorem serves_changed (obj : PyConnectObject) (down : List (List UInt8)) :
    Step ⟨.little, false, false⟩ (fun _ => .little)
      (oneServer changed 3 ⟨sensingServer, obj, [[83, 1, 3, 0, 0, 0, 1, 1, 121, 64]], down⟩)
      (oneServer served.wrapper 3
        ⟨sensingServer, obj, [], down ++ [[131, 1, 0, 3, 0, 0, 0, 1, 1, 121, 64]]⟩) := by
  have htold : addressed 3 served.wrapper served.effects = [[131, 1, 0, 3, 0, 0, 0, 1, 1, 121, 64]] := by
    decide +kernel
  have hserve := serves ⟨.little, false, false⟩ (fun _ => .little) changed 3
    ⟨sensingServer, obj, [[83, 1, 3, 0, 0, 0, 1, 1, 121, 64]], down⟩ rfl
    (m := sensing.assign [99] (.int 9)) rfl
  dsimp only at hserve
  rw [← served, htold] at hserve
  exact hserve

/-- A server joins, its script writes the text, the module's program changes the
number, and all that is sent is read. -/
theorem values_converge_one_server : ∃ S p m,
    ReflTransGen (Step ⟨.little, false, false⟩ fun _ => .little)
      (System.start (register [115] [] sensors)) S ∧
    S.peers 3 = some p ∧ S.wrapper.pyConnectModule = some m ∧
    m.attributes.toList.map (fun x => (x.1, x.2.value)) = [([99], .int 9), ([110], .string [121])] ∧
    p.obj.pPyAttrs.map (fun a => (a.name, a.value)) = [([99], .int 9), ([110], .str [121])] := by
  have hlisten := listens joined 3 sensingServer (b := ⟨.little, false, false⟩) (fun _ => .little)
    (PyConnectObject.create [115] 1 none 0) [] (show ∀ data ∈ introduction, 2 ≤ data.length by decide)
  obtain ⟨obj, hwrite⟩ := writes ⟨.little, false, false⟩ (fun _ => .little) joined 3 sensingServer
    (listened .little sensingServer.scope (PyConnectObject.create [115] 1 none 0) introduction) [110]
    (show Sendable (.str [121]) from ⟨by decide, by decide⟩)
    (show _ = [[83, 1, 3, 0, 0, 0, 1, 1, 121, 64]] by decide +kernel)
  have htold : ∀ data ∈ ([[131, 1, 0, 5, 0, 0, 0, 0, 9, 0, 0, 0, 64]] : List (List UInt8)) ++
      [[131, 1, 0, 3, 0, 0, 0, 1, 1, 121, 64]], 2 ≤ data.length := by decide
  have hread := listens served.wrapper 3 sensingServer (b := ⟨.little, false, false⟩) (fun _ => .little)
    obj [] htold
  have hrun := ((((ReflTransGen.single joins_sensing).trans hlisten).tail hwrite).tail
    (changes_sensing obj _)).tail (serves_changed obj _)
  have hrun' := hrun.trans hread
  obtain ⟨m, hmod, hvalues⟩ := values_converge _ _ exportable_sensors.toExposable hrun'
    fun sid q hq => by
      rw [of_peers_oneServer hq]
      exact ⟨rfl, rfl⟩
  have hserved : served.wrapper.pyConnectModule.map
      (fun m => m.attributes.toList.map fun x => (x.1, x.2.value)) =
        some [([99], .int 9), ([110], .string [121])] := by decide +kernel
  have hmod' : served.wrapper.pyConnectModule = some m := hmod
  rw [hmod', Option.map_some, Option.some.injEq] at hserved
  refine ⟨_, _, m, hrun', peers_oneServer .., hmod, hserved, ?_⟩
  have hshown := congrArg (List.map fun x : List UInt8 × Value => (x.1, x.2.toPy .little)) hserved
  rw [List.map_map] at hshown
  exact (hvalues 3 _ (peers_oneServer ..)).trans hshown

end PyConnect.Convergence

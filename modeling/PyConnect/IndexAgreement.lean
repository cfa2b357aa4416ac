import PyConnect.ElementListing

namespace PyConnect.IndexAgreement

open Bytes Decoding Common Values ValueCodec Stub StubInput StubMessage StubCall Wrapper
open WrapperInput WrapperSends CallElements Mirror MirrorMessage DeclaredMirror Replicas ElementListing

variable {b : Build} {hosts : Int → Host} {m : PyConnectModule}

/-- A server's proxy of the module, and what is on its way on the connection,
each way. `told` records the listing that the module exposed to it, and each
message up is with the name of the element that it is meant for. -/
structure Peer where
  stub : PyConnectStub
  obj : PyConnectObject
  told : List (List UInt8)
  up : List (List UInt8 × List UInt8)
  down : List (List UInt8)

structure System where
  wrapper : PyConnectWrapper
  peers : Int → Option Peer

def System.start (name desc : List UInt8) : System := ⟨Wrapper.init name desc, fun _ => none⟩

def System.withPeer (S : System) (sid : Int) (p : Peer) : System :=
  { S with peers := Function.update S.peers sid (some p) }

/-- What is dispatched goes down to the server whose id it carries. -/
def System.post (S : System) (r : PyConnectWrapper × List Wrapper.Effect) : System where
  wrapper := r.1
  peers sid := (S.peers sid).map fun p =>
    { p with down := p.down ++ (dispatched r.2).filter (senderOf · = sid) }

/-- The steps of the wrapper that a run may restrict. -/
inductive Event
  | register (r : Registration)
  | expose

inductive Step (b : Build) (hosts : Int → Host) (allowed : System → Event → Prop) :
    System → System → Prop
  | register (S : System) (m : PyConnectModule) (r : Registration) :
      S.wrapper.pyConnectModule = some m → allowed S (.register r) →
      Step b hosts allowed S
        { S with wrapper := { S.wrapper with pyConnectModule := some (r.apply m) } }
  | expose (S : System) (m : PyConnectModule) (sid modId : Int) (stub : PyConnectStub)
      (obj : PyConnectObject) :
      S.wrapper.pyConnectModule = some m → 0 ≤ sid ∧ sid < 16 → Fresh obj → allowed S .expose →
      Step b hosts allowed S ((S.withPeer sid ⟨stub, obj, names m, [], []⟩).post
        (moduleAssigned b S.wrapper sid modId))
  | write (S : System) (sid : Int) (p : Peer) (name : List UInt8) (value : PyObject) (a : Attempt) :
      S.peers sid = some p → a = setAttribute (hosts sid) p.stub p.obj name value →
      Step b hosts allowed S (S.withPeer sid
        { p with obj := a.obj, up := p.up ++ (sent a.effects).map (name, ·) })
  | call (S : System) (sid : Int) (p : Peer) (metd : PyConnectMethod) (args : List PyObject)
      (a : Attempt) :
      S.peers sid = some p → metd ∈ p.obj.pPyMetds →
      a = pyCall (hosts sid) p.stub p.obj metd args →
      Step b hosts allowed S (S.withPeer sid
        { p with obj := a.obj, up := p.up ++ (sent a.effects).map (metd.name, ·) })
  | serve (S : System) (sid : Int) (p : Peer) (name data : List UInt8)
      (up : List (List UInt8 × List UInt8)) (o : WrapperInput.Outcome) :
      S.peers sid = some p → p.up = (name, data) :: up →
      o = WrapperInput.processMessage b S.wrapper data →
      Step b hosts allowed S ((S.withPeer sid { p with up := up }).post (o.wrapper, o.effects))
  | hear (S : System) (sid : Int) (p : Peer) (data : List UInt8) (down : List (List UInt8)) :
      S.peers sid = some p → p.down = data :: down →
      Step b hosts allowed S (S.withPeer sid { p with
        obj := (objectMessage (hosts sid) p.stub.scope p.obj (typeOf data)
          (startAt (data.drop 2) 0)).1.obj
        down := down })

inductive Reach (b : Build) (hosts : Int → Host) (allowed : System → Event → Prop)
    (name desc : List UInt8) : System → Prop
  | start : Reach b hosts allowed name desc (.start name desc)
  | step {S S' : System} : Reach b hosts allowed name desc S → Step b hosts allowed S S' →
      Reach b hosts allowed name desc S'

/-- The message was applied to no element but the one with this name, and was
answered with INDEX_MISMATCH if that is not the element at its index. -/
structure AppliedTo (b : Build) (m : PyConnectModule) (name data : List UInt8)
    (o : WrapperInput.Outcome) : Prop where
  invokes : ∀ metdName args, Wrapper.Effect.invoke metdName args ∈ o.effects → metdName = name
  sets : o.wrapper.pyConnectModule = some m ∨
    ∃ v, o.wrapper.pyConnectModule = some (m.assign name v)
  stale : (names m)[requestedIndex b (byte (byte (startAt data 0)).2).2]? ≠ some name →
    ∃ sid id tail, Wrapper.Effect.dispatch (header .attrMetdResp sid :: id ::
      toByte PyConnectMsgStatus.indexMismatch.code :: tail) false ∈ o.effects

/-- A registration leaves every element that a server has been told of at its
index, and the module is exposed only while its description can be read. -/
def Stable (S : System) : Event → Prop
  | .register r => ∀ m, S.wrapper.pyConnectModule = some m → ∀ sid p, S.peers sid = some p →
      ∀ (i : Nat) (name : List UInt8), p.told[i]? = some name → (names (r.apply m))[i]? = some name
  | .expose => ∀ m, S.wrapper.pyConnectModule = some m → Fits m ∧ (names m).length ≤ 32768

def Quiet (down : List (List UInt8)) : Prop := ∀ data ∈ down, typeOf data ≠ some .attrMetdExpose

def Tells (data : List UInt8) (told : List (List UInt8)) : Prop :=
  ∀ host scope obj, Fresh obj →
    Lists (objectMessage host scope obj (typeOf data) (startAt (data.drop 2) 0)).1.obj told

/-- A proxy that has heard what it was told, or is still fresh and about to. -/
def Informed (p : Peer) : Prop :=
  (Lists p.obj p.told ∧ Quiet p.down) ∨
    (Fresh p.obj ∧ ∃ data down, p.down = data :: down ∧ Tells data p.told ∧ Quiet down)

/-- A server whose calls mean what the module takes them to mean. -/
structure Agrees (m : PyConnectModule) (p : Peer) : Prop where
  kept : ∀ (i : Nat) (name : List UInt8), p.told[i]? = some name → (names m)[i]? = some name
  short : p.told.length ≤ 32768
  informed : Informed p
  up : ∀ x ∈ p.up, ∃ i : Nat, p.told[i]? = some x.1 ∧ Calls x.2 i

structure Inv (m : PyConnectModule) (S : System) : Prop where
  module : S.wrapper.pyConnectModule = some m
  attributes : ∀ k ∈ m.attributes, Named k
  methods : ∀ k ∈ m.methods, Named k
  peers : ∀ sid p, S.peers sid = some p → Agrees m p

theorem Quiet.append {down sent : List (List UInt8)} (hd : Quiet down) (hs : Quiet sent) :
    Quiet (down ++ sent) := fun data h =>
  (List.mem_append.mp h).elim (hd data) (hs data)

theorem Informed.post {p : Peer} (h : Informed p) {sent : List (List UInt8)} (hs : Quiet sent) :
    Informed { p with down := p.down ++ sent } := by
  obtain ⟨hlists, hq⟩ | ⟨hfresh, data, down, hd, htells, hq⟩ := h
  · exact .inl ⟨hlists, hq.append hs⟩
  · exact .inr ⟨hfresh, data, down ++ sent, by rw [hd]; rfl, htells, hq.append hs⟩

theorem Informed.attempt {p : Peer} (h : Informed p) {obj : PyConnectObject}
    (hobj : listed obj = listed p.obj) (up : List (List UInt8 × List UInt8)) :
    Informed { p with obj := obj, up := up } := by
  obtain ⟨hlists, hq⟩ | ⟨hfresh, hdown⟩ := h
  · exact .inl ⟨hlists.congr hobj, hq⟩
  · exact .inr ⟨fresh_iff.mpr (hobj.trans (fresh_iff.mp hfresh)), hdown⟩

theorem Informed.hear {p : Peer} (h : Informed p) {data : List UInt8} {down : List (List UInt8)}
    (hdown : p.down = data :: down) (host : Host) (scope : CallbackScope) :
    Informed { p with
      obj := (objectMessage host scope p.obj (typeOf data) (startAt (data.drop 2) 0)).1.obj
      down := down } := by
  obtain ⟨hlists, hq⟩ | ⟨hfresh, data', down', hd, htells, hq⟩ := h
  · rw [hdown] at hq
    have hkeeps := objectMessage_listed host scope p.obj (hq data List.mem_cons_self)
      (startAt (data.drop 2) 0)
    exact .inl ⟨hlists.congr hkeeps, fun d hd => hq d (List.mem_cons_of_mem data hd)⟩
  · rw [hdown, List.cons.injEq] at hd
    obtain ⟨rfl, rfl⟩ := hd
    exact .inl ⟨htells host scope p.obj hfresh, hq⟩

theorem Agrees.attempt {p : Peer} (h : Agrees m p) {name : List UInt8} {a : Attempt}
    (ha : CallsNamed p.obj name a) :
    Agrees m { p with obj := a.obj, up := p.up ++ (sent a.effects).map (name, ·) } := by
  refine ⟨h.kept, h.short, h.informed.attempt ha.keeps _, fun x hx => ?_⟩
  rcases List.mem_append.mp hx with hx | hx
  · exact h.up x hx
  · obtain ⟨data, hdata, rfl⟩ := List.mem_map.mp hx
    obtain ⟨hlists, -⟩ | ⟨hfresh, -⟩ := h.informed
    · exact ha.calls p.told hlists h.short data hdata
    · -- a proxy that lists nothing has nothing to call
      have hnone : Lists p.obj [] := by
        have hf := fresh_iff.mp hfresh
        exact ⟨by rw [hf]; rfl, fun i x hx => by rw [hf] at hx; cases hx⟩
      obtain ⟨i, hi, -⟩ := ha.calls [] hnone (Nat.zero_le _) data hdata
      cases hi

theorem Agrees.post {p : Peer} (h : Agrees m p) {sent : List (List UInt8)} (hs : Quiet sent) :
    Agrees m { p with down := p.down ++ sent } :=
  ⟨h.kept, h.short, h.informed.post hs, h.up⟩

theorem mem_dispatched {effects : List Wrapper.Effect} {data : List UInt8} :
    data ∈ dispatched effects ↔ ∃ broadcast, .dispatch data broadcast ∈ effects := by
  rw [dispatched, List.mem_filterMap]
  constructor
  · rintro ⟨e, he, hd⟩
    cases e with
    | dispatch data' broadcast =>
        obtain rfl := Option.some.inj hd
        exact ⟨broadcast, he⟩
    | _ => cases hd
  · rintro ⟨broadcast, he⟩
    exact ⟨_, he, rfl⟩

/-- A call whose index is that of the element it is meant for is applied to
this element, if at all. -/
theorem processes_call {w w' : PyConnectWrapper} {data name : List UInt8} {i : Nat}
    {result : MesgProcessResult} {effects : List Wrapper.Effect} (hw : w.pyConnectModule = some m)
    (hcalls : Calls data i) (hi : (names m)[i]? = some name)
    (h : Processes b w data w' result effects) :
    (∀ metdName args, Wrapper.Effect.invoke metdName args ∈ effects → metdName = name) ∧
      (w'.pyConnectModule = some m ∨ ∃ v, w'.pyConnectModule = some (m.assign name v)) ∧
      Quiet (dispatched effects) := by
  have hne : ∀ t : PyConnectMsg, typeOf data = some t → t = .callAttrMetd ∨ t = .callAttrMetdNocb := by
    intro t ht
    have htype := hcalls.type
    rw [ht] at htype
    exact htype.imp Option.some.inj Option.some.inj
  cases h with
  | refused =>
      exact ⟨fun _ _ he => absurd he List.not_mem_nil, .inl hw, fun _ hd => absurd hd List.not_mem_nil⟩
  | discovery ht => rcases hne _ ht with h | h <;> cases h
  | serverShutdown ht => rcases hne _ ht with h | h <;> cases h
  | assign r ht => rcases hne _ ht with h | h <;> cases h
  | absent hnone =>
      rw [hw] at hnone
      cases hnone
  | served m' info r _ hw' hinfo _ hr =>
      rw [hw] at hw'
      obtain rfl := Option.some.inj hw'
      have hserved := served_moduleMessage (b := b) hinfo hw (typeOf data)
        (byte (byte (startAt data 0)).2).2
      rw [hcalls.called b] at hserved
      rw [hr]
      refine ⟨fun metdName args he => ?_, ?_, fun d hd => ?_⟩
      · cases hserved.effects _ he with
        | invoke i' x args hcalled hx =>
            rw [Option.some.inj hcalled, names_method hx] at hi
            exact Option.some.inj hi
      · rcases hserved.module with hsame | ⟨index, x, v, hcalled, hx, -, hset⟩
        · exact .inl hsame
        · rw [Option.some.inj hcalled, names_attribute hx] at hi
          rw [Option.some.inj hi] at hset
          exact .inr ⟨v, hset⟩
      · obtain ⟨broadcast, he⟩ := mem_dispatched.mp hd
        cases hserved.effects _ he with
        | response | update =>
            rw [typeOf_header]
            decide

theorem applied_of_processes {w : PyConnectWrapper} {data name : List UInt8} {i : Nat}
    (hw : w.pyConnectModule = some m) (hcalls : Calls data i) (hi : (names m)[i]? = some name) :
    AppliedTo b m name data (WrapperInput.processMessage b w data) := by
  obtain ⟨hinvokes, hsets, -⟩ :=
    processes_call hw hcalls hi (processMessage_processes b w data)
  refine ⟨hinvokes, hsets, fun hstale => ?_⟩
  rw [hcalls.index b] at hstale
  exact absurd hi hstale

theorem exposes {w : PyConnectWrapper} (hw : w.pyConnectModule = some m) (hm : Fits m)
    (hna : ∀ k ∈ m.attributes, Named k) (hnm : ∀ k ∈ m.methods, Named k) {sid : Int}
    (hsid : 0 ≤ sid ∧ sid < 16) (modId : Int) :
    ∃ data rest, dispatched (moduleAssigned b w sid modId).2 = data :: rest ∧
      senderOf data = sid ∧ Tells data (names m) ∧ Quiet rest := by
  have hsize := attrMetdPacket_sized b.host hm hna hnm sid modId
  have hdata := Packet.data_eq (attrMetdPacket_written b.host hm.values sid modId)
  refine ⟨(attrMetdPacket b.host m sid modId).data,
    dispatched [send (attrMetdDescPacket m sid modId) false], ?_, ?_,
    fun host scope obj hfresh => ?_, fun d hd => ?_⟩
  · rw [moduleAssigned_eq b hw, Wrapper.send_eq hsize]
    rfl
  · rw [hdata]
    exact (lowNibble_header .attrMetdExpose sid).trans (Int.emod_eq_of_lt hsid.1 hsid.2)
  · obtain ⟨obj', k, hd, hlists⟩ := decodes_listing host b.host hm hna hnm hfresh
    have hrun : (attrMetdExpose host obj (startAt (exposeBytes b.host m ++ [msgEnd]) 0)).1 = obj' := by
      rw [startAt, hd]
    have hbody : (attrMetdPacket b.host m sid modId).written.drop 2 =
        exposeBytes b.host m ++ [msgEnd] := rfl
    have htype : typeOf (attrMetdPacket b.host m sid modId).written = some .attrMetdExpose :=
      typeOf_header .attrMetdExpose sid _
    rw [hdata, hbody, htype, objectMessage_expose, hrun]
    exact hlists
  · obtain ⟨broadcast, he⟩ := mem_dispatched.mp hd
    have hdesc := ModuleRouting.attrMetdDescPacket_size m sid modId
    obtain ⟨tail, ht⟩ := ModuleRouting.data_of_written (p := attrMetdDescPacket m sid modId) rfl
      (by omega)
    rw [data_of_mem_send he, ht, typeOf_header]
    decide

variable {S S' : System}

theorem agrees_withPeer (h : ∀ k q, S.peers k = some q → Agrees m q) {p : Peer} (hp : Agrees m p)
    (sid : Int) : ∀ k q, (S.withPeer sid p).peers k = some q → Agrees m q := by
  intro k q hq
  rw [System.withPeer] at hq
  dsimp only at hq
  by_cases hk : k = sid
  · rw [hk, Function.update_self] at hq
    rw [← Option.some.inj hq]
    exact hp
  · rw [Function.update_of_ne hk] at hq
    exact h k q hq

theorem agrees_post (h : ∀ k q, S.peers k = some q → Agrees m q)
    {r : PyConnectWrapper × List Wrapper.Effect} (hr : Quiet (dispatched r.2)) :
    ∀ k q, (S.post r).peers k = some q → Agrees m q := by
  intro k q hq
  obtain ⟨p, hp, rfl⟩ := Option.map_eq_some_iff.mp hq
  exact (h k p hp).post fun d hd => hr d (List.mem_filter.mp hd).1

theorem Agrees.congr {m' : PyConnectModule} {p : Peer} (h : Agrees m p) (hn : names m' = names m) :
    Agrees m' p := ⟨by rw [hn]; exact h.kept, h.short, h.informed, h.up⟩

theorem agrees_expose {w : PyConnectWrapper} (hw : w.pyConnectModule = some m) (hm : Fits m)
    (hcount : (names m).length ≤ 32768) (hna : ∀ k ∈ m.attributes, Named k)
    (hnm : ∀ k ∈ m.methods, Named k) (h : ∀ k q, S.peers k = some q → Agrees m q) {sid : Int}
    (hsid : 0 ≤ sid ∧ sid < 16) (modId : Int) (stub : PyConnectStub) {obj : PyConnectObject}
    (hfresh : Fresh obj) :
    ∀ k q, ((S.withPeer sid ⟨stub, obj, names m, [], []⟩).post
      (moduleAssigned b w sid modId)).peers k = some q → Agrees m q := by
  obtain ⟨data, rest, hsent, hsender, htells, hquiet⟩ := exposes (b := b) hw hm hna hnm hsid modId
  have hrest : ∀ k : Int, Quiet (rest.filter (senderOf · = k)) := fun k d hd =>
    hquiet d (List.mem_filter.mp hd).1
  intro k q hq
  obtain ⟨p, hp, rfl⟩ := Option.map_eq_some_iff.mp hq
  rw [System.withPeer] at hp
  dsimp only at hp
  rw [hsent]
  by_cases hk : k = sid
  · subst hk
    rw [Function.update_self] at hp
    obtain rfl := Option.some.inj hp
    refine ⟨fun i name hi => hi, hcount, .inr ⟨hfresh, data, _, ?_, htells, hrest k⟩,
      fun x hx => absurd hx List.not_mem_nil⟩
    rw [List.filter_cons_of_pos (by simpa using hsender)]
    rfl
  · rw [Function.update_of_ne hk] at hp
    rw [List.filter_cons_of_neg (by rw [hsender]; simpa using Ne.symm hk)]
    exact (h k p hp).post (hrest k)

theorem inv_step (h : Inv m S) (hs : Step b hosts Stable S S') : ∃ m', Inv m' S' := by
  cases hs with
  | register m' r hw hstable =>
      rw [h.module] at hw
      obtain rfl := Option.some.inj hw
      obtain ⟨hna, hnm⟩ := apply_named r h.attributes h.methods
      exact ⟨r.apply m, rfl, hna, hnm, fun sid p hp =>
        ⟨hstable m h.module sid p hp, (h.peers sid p hp).short, (h.peers sid p hp).informed,
          (h.peers sid p hp).up⟩⟩
  | expose m' sid modId stub obj hw hsid hfresh hstable =>
      rw [h.module] at hw
      obtain rfl := Option.some.inj hw
      obtain ⟨hm, hcount⟩ := hstable m h.module
      refine ⟨m, ?_, h.attributes, h.methods,
        agrees_expose h.module hm hcount h.attributes h.methods h.peers hsid modId stub hfresh⟩
      rw [moduleAssigned_eq b h.module]
      exact (assignEntry_module S.wrapper sid modId).trans h.module
  | write sid p name value a hp ha =>
      have hnamed := setAttribute_named (hosts sid) p.stub p.obj name value
      rw [← ha] at hnamed
      exact ⟨m, h.module, h.attributes, h.methods,
        agrees_withPeer h.peers ((h.peers sid p hp).attempt hnamed) sid⟩
  | call sid p metd args a hp hmetd ha =>
      have hnamed := pyCall_named (hosts sid) p.stub hmetd args
      rw [← ha] at hnamed
      exact ⟨m, h.module, h.attributes, h.methods,
        agrees_withPeer h.peers ((h.peers sid p hp).attempt hnamed) sid⟩
  | serve sid p name data up o hp hup ho =>
      have hagrees := h.peers sid p hp
      obtain ⟨i, hi, hcalls⟩ := hagrees.up (name, data) (by rw [hup]; exact List.mem_cons_self)
      obtain ⟨-, hsets, hquiet⟩ := processes_call h.module hcalls (hagrees.kept i name hi)
        (processMessage_processes b S.wrapper data)
      have hpeers := agrees_withPeer h.peers (p := { p with up := up }) ⟨hagrees.kept,
        hagrees.short, hagrees.informed, fun x hx =>
          hagrees.up x (by rw [hup]; exact List.mem_cons_of_mem _ hx)⟩ sid
      rw [ho]
      rcases hsets with hsame | ⟨v, hset⟩
      · exact ⟨m, hsame, h.attributes, h.methods, agrees_post hpeers hquiet⟩
      · exact ⟨m.assign name v, hset, fun k hk => h.attributes k (mem_assign.mp hk), h.methods,
          fun k q hq => (agrees_post hpeers hquiet k q hq).congr (names_assign m name v)⟩
  | hear sid p data down hp hdown =>
      have hagrees := h.peers sid p hp
      refine ⟨m, h.module, h.attributes, h.methods, agrees_withPeer h.peers ?_ sid⟩
      exact ⟨hagrees.kept, hagrees.short, hagrees.informed.hear hdown _ _, hagrees.up⟩

theorem inv_reach {name desc : List UInt8} (h : Reach b hosts Stable name desc S) :
    ∃ m, Inv m S := by
  induction h with
  | start =>
      exact ⟨⟨name, desc, ∅, ∅⟩, rfl, fun k hk => absurd hk Std.ExtTreeMap.not_mem_empty,
        fun k hk => absurd hk Std.ExtTreeMap.not_mem_empty, fun sid p hp => by cases hp⟩
  | step _ hs ih =>
      obtain ⟨m, hm⟩ := ih
      exact inv_step hm hs

/-- In a run whose registrations leave the indices that servers have been told
of, the wrapper applies a proxy's call to no element but the one that the
proxy lists under the name it means. -/
theorem calls_agree (b : Build) (hosts : Int → Host) {moduleName desc : List UInt8} {S : System}
    (h : Reach b hosts Stable moduleName desc S) {sid : Int} {p : Peer} (hp : S.peers sid = some p)
    {name data : List UInt8} {up : List (List UInt8 × List UInt8)} (hup : p.up = (name, data) :: up) :
    ∃ m, S.wrapper.pyConnectModule = some m ∧
      AppliedTo b m name data (WrapperInput.processMessage b S.wrapper data) := by
  obtain ⟨m, hm⟩ := inv_reach h
  have hagrees := hm.peers sid p hp
  obtain ⟨i, hi, hcalls⟩ := hagrees.up (name, data) (by rw [hup]; exact List.mem_cons_self)
  exact ⟨m, hm.module, applied_of_processes hm.module hcalls (hagrees.kept i name hi)⟩

def flag (name : UInt8) : Registration := .attr [name] [] (.bool false) true

def little : Build := ⟨.little, true, true⟩

def server : PyConnectStub := ⟨false, [], 2, [], 1⟩

def freshProxy : PyConnectObject := PyConnectObject.create [97] 1 none 1

/-- A module registers the flag b, and a server is told and sets it. -/
theorem calls_agree_flag : ∃ S p data m,
    Reach little (fun _ => .little) Stable [97] [] S ∧ S.peers 1 = some p ∧
      p.up = [([98], data)] ∧ S.wrapper.pyConnectModule = some m ∧
      AppliedTo little m [98] data (WrapperInput.processMessage little S.wrapper data) := by
  have s0 : Reach little (fun _ => .little) Stable [97] [] (.start [97] []) := .start
  have s1 := s0.step (.register _ _ (flag 98) rfl fun _ _ sid p hp => by cases hp)
  have s2 := s1.step (.expose _ _ 1 1 server freshProxy rfl ⟨by decide, by decide⟩ ⟨rfl, rfl⟩
    fun m hm => by
      obtain rfl := Option.some.inj hm
      refine ⟨⟨fun x hx => ?_, fun x hx => ?_, by decide, by decide⟩, by decide⟩
      · rw [List.mem_singleton.mp hx]
        exact trivial
      · cases hx)
  have s3 := s2.step (.hear _ 1 _ _ _ rfl rfl)
  have s4 := s3.step (.write _ 1 _ [98] (.bool true) _ rfl rfl)
  obtain ⟨m, hm, happlied⟩ :=
    @calls_agree little (fun _ => .little) [97] [] _ s4 1 _ rfl [98] _ [] rfl
  exact ⟨_, _, _, m, s4, rfl, rfl, hm, happlied⟩

def shownValue (name : List UInt8) (m : PyConnectModule) : Option Value :=
  m.attributes[name]?.map (·.value)

/-- Another flag, registered after the server is told and before b in the
order of names, is set in its place. -/
theorem not_calls_agree_late : ¬ ∀ (S : System) (p : Peer) (name data : List UInt8),
    Reach little (fun _ => .little) (fun _ _ => True) [97] [] S → S.peers 1 = some p →
      p.up = [(name, data)] → ∃ m, S.wrapper.pyConnectModule = some m ∧
        AppliedTo little m name data (WrapperInput.processMessage little S.wrapper data) := by
  intro h
  have s0 : Reach little (fun _ => .little) (fun _ _ => True) [97] [] (.start [97] []) := .start
  have s1 := s0.step (.register _ _ (flag 98) rfl trivial)
  have s2 := s1.step (.expose _ _ 1 1 server freshProxy rfl ⟨by decide, by decide⟩ ⟨rfl, rfl⟩ trivial)
  have s3 := s2.step (.hear _ 1 _ _ _ rfl rfl)
  have s4 := s3.step (.register _ _ (flag 97) rfl trivial)
  have s5 := s4.step (.write _ 1 _ [98] (.bool true) _ rfl rfl)
  obtain ⟨m, hm, happlied⟩ := h _ _ _ _ s5 rfl rfl
  have hbefore : shownValue [97] m = some (.bool false) := by
    obtain rfl := Option.some.inj hm
    rfl
  rcases happlied.sets with hsame | ⟨v, hset⟩
  · have hafter := congrArg (Option.map (shownValue [97])) hsame
    rw [Option.map_some, hbefore] at hafter
    exact absurd hafter (by decide)
  · have hafter := congrArg (Option.map (shownValue [97])) hset
    have hother : shownValue [97] (m.assign [98] v) = shownValue [97] m := by
      rw [shownValue, PyConnectModule.assign, Maps.get_modify, if_neg (by decide)]
      rfl
    rw [Option.map_some, hother, hbefore] at hafter
    exact absurd hafter (by decide)

end PyConnect.IndexAgreement

import PyConnect.CallElements
import PyConnect.Handshake

namespace PyConnect.AssignedIds

open Bytes Decoding Common Values StubMessage Wrapper WrapperInput WrapperSends ModuleRouting
open CallElements Handshake Mirror

variable {b : Build} {decrypt : List UInt8 → Option (List UInt8)} {w : PyConnectWrapper}
  {m : PyConnectModule} {assigned : Int → Option UInt8} {data : List UInt8}

/-- The messages in which the module speaks under its id. -/
def Speaks : PyConnectMsg → Prop
  | .attrMetdExpose | .attrMetdResp | .attrValueUpdate | .attrMetdDesc | .moduleShutdown => True
  | _ => False

inductive Action
  | receive (recData : List UInt8) (skipdecrypt : Bool)
  | updateAttribute (attrName : List UInt8) (attrValue : Value)
  | moduleShutdown

def react (b : Build) (decrypt : List UInt8 → Option (List UInt8)) (w : PyConnectWrapper) :
    Action → PyConnectWrapper × List Effect
  | .receive recData skipdecrypt =>
      let o := processInput b decrypt w recData skipdecrypt
      (o.wrapper, o.effects)
  | .updateAttribute attrName attrValue => updateAttribute b w attrName attrValue
  | .moduleShutdown => moduleShutdown w

def received (decrypt : List UInt8 → Option (List UInt8)) : Action → Option (List UInt8)
  | .receive recData skipdecrypt =>
      if recData.length < 1 then none
      else if skipdecrypt then some recData else decrypt recData
  | _ => none

/-- The id that a message gives to the wrapper's module. A MODULE_ASSIGN_ID
with another module's name gives it none. -/
def givenId (w : PyConnectWrapper) (data : List UInt8) : Option UInt8 :=
  if typeOf data = some .moduleAssignId ∧
      w.pyConnectModule.map (·.name) = some (carriedName (data.drop 2)) then
    some (data.getD 1 0)
  else none

/-- The ids that the servers have assigned, after one more message. -/
def assign (w : PyConnectWrapper) (assigned : Int → Option UInt8) (data : List UInt8) :
    Int → Option UInt8 :=
  match givenId w data with
  | some id => Function.update assigned (senderOf data) (some id)
  | none => assigned

/-- A wrapper in its run. `assigned` and `said` record what each server has
assigned last, and every message dispatched with what its server had assigned
by then. -/
structure Session where
  wrapper : PyConnectWrapper
  assigned : Int → Option UInt8
  said : List (List UInt8 × Option UInt8)

def saying (assigned : Int → Option UInt8) : Effect → Option (List UInt8 × Option UInt8)
  | .dispatch data _ => some (data, assigned (senderOf data))
  | _ => none

def Session.step (b : Build) (decrypt : List UInt8 → Option (List UInt8)) (s : Session)
    (a : Action) : Session :=
  let r := react b decrypt s.wrapper a
  let assigned := (received decrypt a).elim s.assigned (assign s.wrapper s.assigned)
  ⟨r.1, assigned, s.said ++ r.2.filterMap (saying assigned)⟩

def start (m : PyConnectModule) : Session := ⟨⟨some m, ∅, false⟩, fun _ => none, []⟩

inductive Reach (b : Build) (decrypt : List UInt8 → Option (List UInt8)) (m : PyConnectModule)
    (allowed : PyConnectWrapper → Action → Prop) : Session → Prop
  | start : Reach b decrypt m allowed (start m)
  | step {s : Session} (a : Action) : Reach b decrypt m allowed s → allowed s.wrapper a →
      Reach b decrypt m allowed (s.step b decrypt a)

def Authorised (x : List UInt8 × Option UInt8) : Prop :=
  ∀ t, typeOf x.1 = some t → Speaks t → x.2 = some (x.1.getD 1 0)

structure Sets (b : Build) (w : PyConnectWrapper) (m : PyConnectModule) (data : List UInt8) (index : Nat)
    (x : List UInt8 × Attribute) : Prop where
  module : w.pyConnectModule = some m
  entry : ∃ info, w.serverMap[senderOf data]? = some info ∧
    info.assignedModuleID = (data.getD 1 0).toNat
  called : calledElement b (typeOf data) (byte (byte (startAt data 0)).2).2 = some index
  element : m.attributes.toList[index]? = some x
  writable : x.2.isWritable = true

/-- What the wrapper announces to every server it knows. -/
def Announces (b : Build) (decrypt : List UInt8 → Option (List UInt8)) (w : PyConnectWrapper) :
    Action → Prop
  | .receive recData skipdecrypt => ∃ data m index x,
      received decrypt (.receive recData skipdecrypt) = some data ∧ Sets b w m data index x
  | .updateAttribute attrName _ => ∃ m, w.pyConnectModule = some m ∧ attrName ∈ m.attributes
  | .moduleShutdown => True

/-- A server that has been discovered and has not assigned an id yet. -/
def Awaits (w : PyConnectWrapper) : Prop :=
  ∃ (sid : Int) (info : ServerInfo), w.serverMap[sid]? = some info ∧ info.assignedModuleID = -1

/-- Nothing is announced while an id is awaited. -/
def Timely (b : Build) (decrypt : List UInt8 → Option (List UInt8)) (w : PyConnectWrapper)
    (a : Action) : Prop := Announces b decrypt w a → ¬ Awaits w

structure Inv (w : PyConnectWrapper) (assigned : Int → Option UInt8) : Prop where
  keys : ∀ sid ∈ w.serverMap, 0 ≤ sid ∧ sid < 16
  entries : ∀ (sid : Int) (info : ServerInfo), w.serverMap[sid]? = some info → (info.assignedModuleID = -1 ∨
    ∃ id : UInt8, assigned sid = some id ∧ info.assignedModuleID = id.toNat)

def Sound (assigned : Int → Option UInt8) (e : Effect) : Prop :=
  ∀ x, saying assigned e = some x → Authorised x

theorem toByte_self (id : UInt8) : toByte id.toNat = id := by
  have hid := id.toNat_lt
  apply UInt8.toNat.inj
  rw [toByte_toNat]
  omega

theorem sound_own (t : PyConnectMsg) {sid : Int} {id : UInt8} (hsid : 0 ≤ sid ∧ sid < 16)
    (hid : assigned sid = some id) (tail : List UInt8) (toBroadcast : Bool) :
    Sound assigned (.dispatch (header t sid :: toByte id.toNat :: tail) toBroadcast) := by
  intro x hx t' _ _
  obtain rfl := Option.some.inj hx
  dsimp only
  rw [senderOf_header, Int.emod_eq_of_lt hsid.1 hsid.2, hid, toByte_self]
  rfl

theorem sound_other {t : PyConnectMsg} (ht : ¬ Speaks t) (sid : Int) (tail : List UInt8)
    (toBroadcast : Bool) : Sound assigned (.dispatch (header t sid :: tail) toBroadcast) := by
  intro x hx t' ht' hspeaks
  obtain rfl := Option.some.inj hx
  rw [typeOf_header] at ht'
  obtain rfl := Option.some.inj ht'
  exact absurd hspeaks ht

theorem sound_send {p : Packet} {t : PyConnectMsg} {sid : Int} {id : UInt8} {tail : List UInt8}
    (hsid : 0 ≤ sid ∧ sid < 16) (hid : assigned sid = some id)
    (hp : p.written = header t sid :: toByte id.toNat :: tail) (hsize : 2 ≤ p.totalMsgSize) :
    Sound assigned (send p false) := by
  rw [send]
  split
  · obtain ⟨tail', hd⟩ := data_of_written hp hsize
    rw [hd]
    exact sound_own t hsid hid tail' false
  · exact fun x hx => by cases hx

theorem Inv.entry (h : Inv w assigned) (hw : ¬ Awaits w) {sid : Int} {info : ServerInfo}
    (hinfo : w.serverMap[sid]? = some info) :
    (0 ≤ sid ∧ sid < 16) ∧ ∃ id : UInt8, assigned sid = some id ∧ info.assignedModuleID = id.toNat := by
  refine ⟨h.keys sid (Std.ExtTreeMap.mem_iff_isSome_getElem?.mpr (by rw [hinfo]; rfl)), ?_⟩
  exact (h.entries sid info hinfo).resolve_left fun hi => hw ⟨sid, info, hinfo, hi⟩

theorem Inv.matched (h : Inv w assigned) {sid : Int} {info : ServerInfo} {i : UInt8}
    (hinfo : w.serverMap[sid]? = some info) (hi : info.assignedModuleID = i.toNat) :
    assigned sid = some i := by
  obtain hn | ⟨id, hid, he⟩ := h.entries sid info hinfo
  · omega
  · rw [hid, UInt8.toNat.inj (by omega : id.toNat = i.toNat)]

theorem moduleAssignId_read (hw : w.pyConnectModule = some m) (sid : Int) (data : List UInt8) :
    (moduleAssignId b w sid (startAt data.tail 0)).1 =
      if carriedName (data.drop 2) = m.name then
        ((moduleAssigned b w sid (data.getD 1 0).toNat).1, .processedOk,
          (moduleAssigned b w sid (data.getD 1 0).toNat).2)
      else (w, .processedOk, []) := by
  -- behind the end of the message stands a zero, and then no name
  have hshort : (moduleAssignId b w sid (startAt [] 0)).1 =
      if carriedName [] = m.name then
        ((moduleAssigned b w sid 0).1, .processedOk, (moduleAssigned b w sid 0).2)
      else (w, .processedOk, []) := by
    rw [moduleAssignId, bind_apply, bind_apply, bind_apply, hw]
    have hname : (unpackString false (setRemaining 0 (byte (startAt [] 0)).2).2).1 = carriedName [] :=
      rfl
    dsimp only
    rw [hname]
    split <;> rfl
  rcases data with - | ⟨a, - | ⟨i, body⟩⟩
  · exact hshort
  · exact hshort
  · exact moduleAssignId_eq hw sid i body

theorem assignEntry_entries {sid modId k : Int} {info : ServerInfo}
    (h : (assignEntry w sid modId).serverMap[k]? = some info) :
    (k = sid ∧ info.assignedModuleID = modId) ∨ (k ≠ sid ∧ w.serverMap[k]? = some info) := by
  obtain ⟨new, hnew, hentry⟩ : ∃ new : ServerInfo, new.assignedModuleID = modId ∧
      (assignEntry w sid modId).serverMap = w.serverMap.insert sid new := by
    rw [assignEntry]
    split
    · exact ⟨_, rfl, rfl⟩
    · exact ⟨_, rfl, rfl⟩
  rw [hentry, Maps.get_insert] at h
  split at h
  · next hk => exact .inl ⟨hk, by rw [← Option.some.inj h, hnew]⟩
  · next hk => exact .inr ⟨hk, h⟩

theorem assigned_sound (hw : w.pyConnectModule = some m) (hinv : Inv w assigned) {sid : Int}
    (hsid : 0 ≤ sid ∧ sid < 16) (id : UInt8) :
    Inv (moduleAssigned b w sid id.toNat).1 (Function.update assigned sid (some id)) ∧
      ∀ e ∈ (moduleAssigned b w sid id.toNat).2,
        Sound (Function.update assigned sid (some id)) e := by
  have hid : Function.update assigned sid (some id) sid = some id := Function.update_self ..
  rw [moduleAssigned_eq b hw]
  refine ⟨⟨fun k hk => ?_, fun k info hinfo => ?_⟩, fun e he => ?_⟩
  · obtain ⟨info, hinfo⟩ := Option.isSome_iff_exists.mp
      (Std.ExtTreeMap.mem_iff_isSome_getElem?.mp hk)
    obtain ⟨rfl, -⟩ | ⟨-, hold⟩ := assignEntry_entries hinfo
    · exact hsid
    · exact hinv.keys k (Std.ExtTreeMap.mem_iff_isSome_getElem?.mpr (by rw [hold]; rfl))
  · obtain ⟨rfl, hnew⟩ | ⟨hk, hold⟩ := assignEntry_entries hinfo
    · exact .inr ⟨id, hid, hnew⟩
    · rw [Function.update_of_ne hk]
      exact hinv.entries k info hold
  · have hexpose := attrMetdPacket_size b.host m sid id.toNat
    have hdesc := attrMetdDescPacket_size m sid id.toNat
    rcases List.mem_cons.mp he with he | he
    · rw [he]
      exact fun x hx => by cases hx
    rcases List.mem_cons.mp he with he | he
    · rw [he]
      exact sound_send (t := .attrMetdExpose) hsid hid rfl (by omega)
    · rw [List.mem_singleton.mp he]
      exact sound_send (t := .attrMetdDesc) hsid hid rfl (by omega)

theorem assign_other (h : typeOf data ≠ some .moduleAssignId) : assign w assigned data = assigned := by
  rw [assign, givenId, if_neg fun hg => h hg.1]

theorem discovery_sound (hinv : Inv w assigned) {sid : Int} (hsid : 0 ≤ sid ∧ sid < 16) :
    Inv (moduleDiscovery b w sid).1 assigned ∧
      ∀ e ∈ (moduleDiscovery b w sid).2.2, Sound assigned e := by
  rw [moduleDiscovery]
  split
  · exact ⟨hinv, fun e he => absurd he List.not_mem_nil⟩
  · refine ⟨⟨fun k hk => ?_, fun k info hinfo => ?_⟩, fun e he => ?_⟩
    · rcases Std.ExtTreeMap.mem_insert.mp hk with hk | hk
      · rw [← Std.compare_eq_iff_eq.mp hk]
        exact hsid
      · exact hinv.keys k hk
    · dsimp only at hinfo
      rw [Maps.get_insert] at hinfo
      split at hinfo
      · exact .inl (by rw [← Option.some.inj hinfo])
      · exact hinv.entries k info hinfo
    · dsimp only at he
      rw [declarePyConnectModule.eq_def] at he
      split at he
      · exact absurd he List.not_mem_nil
      · rw [List.mem_singleton.mp he, send]
        split
        · rw [declarePacket_data]
          exact sound_other (t := .moduleDeclare) (fun h => h) _ _ _
        · exact fun x hx => by cases hx

theorem shutdown_sound (hinv : Inv w assigned) (sid : Int) :
    Inv (serverShutdown w sid).1 assigned ∧
      ∀ e ∈ (serverShutdown w sid).2.2, Sound assigned e := by
  rw [serverShutdown]
  split
  · refine ⟨⟨fun k hk => ?_, fun k info hinfo => ?_⟩, fun e he => ?_⟩
    · exact hinv.keys k (Std.ExtTreeMap.mem_of_mem_erase hk)
    · dsimp only at hinfo
      rw [Maps.get_erase] at hinfo
      split at hinfo
      · cases hinfo
      · exact hinv.entries k info hinfo
    · dsimp only at he
      split at he
      all_goals
        rw [List.mem_singleton.mp he]
        exact fun x hx => by cases hx
  · exact ⟨hinv, fun e he => absurd he List.not_mem_nil⟩

/-- Whatever the module answers to a registered server, it says under the id
that the server has assigned; and what it tells others of a change, under
theirs. -/
theorem served_sound (hinv : Inv w assigned) {sid : Int} {i : UInt8} {info : ServerInfo}
    {called : Option Nat} {w' : PyConnectWrapper} {effects : List Effect}
    (hinfo : w.serverMap[sid]? = some info) (hi : info.assignedModuleID = i.toNat)
    (h : Served w m sid called w' effects)
    (hcalm : ∀ index x, called = some index → m.attributes.toList[index]? = some x →
      x.2.isWritable = true → ¬ Awaits w) :
    Inv w' assigned ∧ ∀ e ∈ effects, Sound assigned e := by
  have hkey : ∀ {k : Int} {y : ServerInfo}, w.serverMap[k]? = some y → 0 ≤ k ∧ k < 16 :=
    fun hy => hinv.keys _ (Std.ExtTreeMap.mem_iff_isSome_getElem?.mpr (by rw [hy]; rfl))
  refine ⟨⟨fun k hk => hinv.keys k (by rwa [← h.servers]), fun k y hy =>
    hinv.entries k y (by rwa [← h.servers])⟩, fun e he => ?_⟩
  cases h.effects e he with
  | invoke | stray => exact fun x hx => by cases hx
  | response y tail hy =>
      rw [hinfo] at hy
      obtain rfl := Option.some.inj hy
      rw [hi]
      exact sound_own _ (hkey hinfo) (hinv.matched hinfo hi) _ _
  | update index y x tail hcalled hy hwrite hx =>
      obtain ⟨hmem, -⟩ := List.mem_filter.mp hx
      have hentry := Std.ExtTreeMap.mem_toList_iff_getElem?_eq_some.mp hmem
      obtain ⟨hrange, id, hid, he⟩ := hinv.entry (hcalm index y hcalled hy hwrite) hentry
      rw [he]
      exact sound_own _ hrange hid _ _

theorem assign_without_module (hw : w.pyConnectModule = none) : assign w assigned data = assigned := by
  have hgiven : givenId w data = none := if_neg fun h => by
    rw [hw] at h
    cases h.2
  rw [assign, hgiven]

theorem sound_stray : ∀ e ∈ [Effect.stray], Sound assigned e := by
  intro e he
  rw [List.mem_singleton.mp he]
  exact fun x hx => by cases hx

theorem message_sound (hinv : Inv w assigned)
    (htimely : ∀ m index x, Sets b w m data index x → ¬ Awaits w) {w' : PyConnectWrapper}
    {result : MesgProcessResult} {effects : List Effect} (h : Processes b w data w' result effects) :
    Inv w' (assign w assigned data) ∧ ∀ e ∈ effects, Sound (assign w assigned data) e := by
  have hother : ∀ {t : PyConnectMsg}, typeOf data = some t → t ≠ .moduleAssignId →
      assign w assigned data = assigned :=
    fun ht hne => assign_other (by rw [ht]; simpa using hne)
  cases h with
  | refused ht =>
      rw [assign_other ht]
      exact ⟨hinv, fun e he => absurd he List.not_mem_nil⟩
  | discovery ht =>
      rw [hother ht (by decide)]
      exact discovery_sound hinv (senderOf_range data)
  | serverShutdown ht =>
      rw [hother ht (by decide)]
      exact shutdown_sound hinv _
  | absent hw =>
      rw [assign_without_module hw]
      exact ⟨hinv, sound_stray⟩
  | served m info r ht hw hinfo hi hr =>
      rw [assign_other ht]
      have hserved := served_moduleMessage (b := b) hinfo hw (typeOf data)
        (byte (byte (startAt data 0)).2).2
      rw [hr]
      exact served_sound hinv hinfo hi hserved fun index x hcalled hx hwrite =>
        htimely m index x ⟨hw, ⟨info, hinfo, hi⟩, hcalled, hx, hwrite⟩
  | assign r ht hr =>
      rw [hr]
      cases hw : w.pyConnectModule with
      | none =>
          have hnone : (moduleAssignId b w (senderOf data) (startAt data.tail 0)).1 =
              (w, .processedOk, [.stray]) := by
            rw [moduleAssignId, bind_apply, bind_apply, bind_apply, hw]
            rfl
          rw [hnone, assign_without_module hw]
          exact ⟨hinv, sound_stray⟩
      | some m =>
          rw [moduleAssignId_read hw]
          by_cases hname : carriedName (data.drop 2) = m.name
          · have hgiven : givenId w data = some (data.getD 1 0) := if_pos ⟨ht, by rw [hw, hname]; rfl⟩
            rw [if_pos hname, assign, hgiven]
            exact assigned_sound hw hinv (senderOf_range data) _
          · have hgiven : givenId w data = none := if_neg fun h => by
              rw [hw] at h
              exact hname (Option.some.inj h.2).symm
            rw [if_neg hname, assign, hgiven]
            exact ⟨hinv, fun e he => absurd he List.not_mem_nil⟩

theorem processInput_received (b : Build) (decrypt : List UInt8 → Option (List UInt8))
    (w : PyConnectWrapper) (recData : List UInt8) (skipdecrypt : Bool) :
    (processInput b decrypt w recData skipdecrypt).wrapper =
        (received decrypt (.receive recData skipdecrypt)).elim w
          (fun data => (processMessage b w data).wrapper) ∧
      (processInput b decrypt w recData skipdecrypt).effects =
        (received decrypt (.receive recData skipdecrypt)).elim []
          (fun data => (processMessage b w data).effects) := by
  have hreceived : received decrypt (.receive recData skipdecrypt) =
      decrypted decrypt recData skipdecrypt := rfl
  rw [processInput_eq, hreceived]
  cases decrypted decrypt recData skipdecrypt with
  | none => exact ⟨rfl, rfl⟩
  | some message => exact ⟨rfl, rfl⟩

theorem update_sound (hinv : Inv w assigned) (hw : w.pyConnectModule = some m)
    {attrName : List UInt8} (hname : attrName ∈ m.attributes) (hcalm : ¬ Awaits w) (v : Value) :
    Inv (updateAttribute b w attrName v).1 assigned ∧
      ∀ e ∈ (updateAttribute b w attrName v).2, Sound assigned e := by
  rw [updateAttribute_registered hw hname]
  refine ⟨hinv, fun e he => ?_⟩
  obtain ⟨x, hx, rfl⟩ := List.mem_map.mp he
  obtain ⟨hmem, -⟩ := List.mem_filter.mp hx
  obtain ⟨hrange, id, hid, hi⟩ :=
    hinv.entry hcalm (Std.ExtTreeMap.mem_toList_iff_getElem?_eq_some.mp hmem)
  obtain ⟨tail, hd⟩ := valueData_header b.host .attrValueUpdate x.1 x.2.assignedModuleID
    (distance m.attributes attrName) v .noErrors
  rw [updateEffect, hd, hi]
  exact sound_own _ hrange hid _ _

theorem moduleShutdown_sound (hinv : Inv w assigned) (hcalm : ¬ Awaits w) :
    Inv (moduleShutdown w).1 assigned ∧ ∀ e ∈ (moduleShutdown w).2, Sound assigned e := by
  refine ⟨⟨fun k hk => absurd hk Std.ExtTreeMap.not_mem_empty, fun k info hinfo => ?_⟩,
    fun e he => ?_⟩
  · rw [moduleShutdown] at hinfo
    dsimp only at hinfo
    rw [Std.ExtTreeMap.getElem?_empty] at hinfo
    cases hinfo
  · obtain ⟨x, hx, rfl⟩ := List.mem_map.mp he
    obtain ⟨hrange, id, hid, hi⟩ :=
      hinv.entry hcalm (Std.ExtTreeMap.mem_toList_iff_getElem?_eq_some.mp hx)
    rw [hi]
    exact sound_own _ hrange hid _ _

theorem react_sound (hinv : Inv w assigned) {a : Action} (htimely : Timely b decrypt w a) :
    let assigned' := (received decrypt a).elim assigned (assign w assigned)
    Inv (react b decrypt w a).1 assigned' ∧ ∀ e ∈ (react b decrypt w a).2, Sound assigned' e := by
  cases a with
  | receive recData skipdecrypt =>
      obtain ⟨hwrapper, heffects⟩ := processInput_received b decrypt w recData skipdecrypt
      intro assigned'
      rw [react, hwrapper, heffects]
      cases hdata : received decrypt (.receive recData skipdecrypt) with
      | none =>
          rw [show assigned' = assigned from by simp only [assigned', hdata, Option.elim_none]]
          exact ⟨hinv, fun e he => absurd he List.not_mem_nil⟩
      | some data =>
          rw [show assigned' = assign w assigned data from by
            simp only [assigned', hdata, Option.elim_some]]
          exact message_sound hinv (fun m index x hsets => htimely ⟨data, m, index, x, hdata, hsets⟩)
            (processMessage_processes b w data)
  | updateAttribute attrName v =>
      cases hw : w.pyConnectModule with
      | none =>
          rw [react, updateAttribute, hw]
          refine ⟨hinv, fun e he => ?_⟩
          rw [List.mem_singleton.mp he]
          exact fun x hx => by cases hx
      | some m =>
          by_cases hname : attrName ∈ m.attributes
          · exact update_sound hinv hw hname (htimely ⟨m, hw, hname⟩) v
          · rw [react, updateAttribute, hw]
            dsimp only
            rw [if_neg hname]
            exact ⟨hinv, fun e he => absurd he List.not_mem_nil⟩
  | moduleShutdown => exact moduleShutdown_sound hinv (htimely trivial)

theorem reach_sound {s : Session} (h : Reach b decrypt m (Timely b decrypt) s) :
    Inv s.wrapper s.assigned ∧ ∀ x ∈ s.said, Authorised x := by
  induction h with
  | start =>
      refine ⟨⟨fun k hk => absurd hk Std.ExtTreeMap.not_mem_empty, fun k info hinfo => ?_⟩,
        fun x hx => absurd hx List.not_mem_nil⟩
      rw [start, Std.ExtTreeMap.getElem?_empty] at hinfo
      cases hinfo
  | step a _ htimely ih =>
      obtain ⟨hinv, heffects⟩ := react_sound ih.1 htimely
      refine ⟨hinv, fun x hx => ?_⟩
      rcases List.mem_append.mp hx with hx | hx
      · exact ih.2 x hx
      · obtain ⟨e, he, hsaid⟩ := List.mem_filterMap.mp hx
        exact heffects e he x hsaid

/-- In a run that announces nothing while an id is awaited, the wrapper speaks
to each server under the id from that server's latest MODULE_ASSIGN_ID, and
not at all to a server that has sent none. -/
theorem said_authorised (b : Build) (decrypt : List UInt8 → Option (List UInt8))
    (m : PyConnectModule) {s : Session} (h : Reach b decrypt m (Timely b decrypt) s) :
    ∀ x ∈ s.said, Authorised x := (reach_sound h).2

def beacon : PyConnectModule :=
  (⟨[97], [], ∅, ∅⟩ : PyConnectModule).addNewAttribute [102] [] (.bool true) false

def discovery : Action := .receive [header .moduleDiscovery 1] true

def assignment : Action :=
  .receive (header .moduleAssignId 1 :: 7 :: (packString [97] false ++ [msgEnd])) false

def ran (actions : List Action) : Session :=
  actions.foldl (Session.step ⟨.little, true, true⟩ some) (start beacon)

theorem said_authorised_beacon :
    (∀ x ∈ (ran [discovery, assignment, .updateAttribute [102] (.bool true)]).said,
      Authorised x) ∧
    (ran [discovery, assignment, .updateAttribute [102] (.bool true)]).said.length = 4 := by
  refine ⟨said_authorised ⟨.little, true, true⟩ some beacon
    (.step _ (.step _ (.step _ .start ?_) ?_) ?_), by decide⟩
  · rintro - ⟨sid, info, hinfo, -⟩
    rw [start, Std.ExtTreeMap.getElem?_empty] at hinfo
    cases hinfo
  · rintro ⟨data, m, index, x, hdata, hsets⟩
    obtain rfl := Option.some.inj hdata
    have hcalled := hsets.called
    cases hcalled
  · rintro - ⟨sid, info, hinfo, hi⟩
    have hmap : (ran [discovery, assignment]).wrapper.serverMap =
        ((∅ : Std.ExtTreeMap Int ServerInfo).insert 1 ⟨-1, true⟩).insert 1 ⟨7, true⟩ := rfl
    change (ran [discovery, assignment]).wrapper.serverMap[sid]? = some info at hinfo
    rw [hmap, Maps.get_insert, Maps.get_insert, Std.ExtTreeMap.getElem?_empty] at hinfo
    split at hinfo
    · rw [← Option.some.inj hinfo] at hi
      exact absurd hi (by decide)
    · cases hinfo

/-- A server that has only been discovered is told of changes, and of the end,
under the id 255. -/
theorem not_authorised_awaiting :
    ¬ ∀ s, Reach ⟨.little, true, true⟩ some beacon (fun _ _ => True) s →
      ∀ x ∈ s.said, Authorised x := by
  intro h
  have hsaid := h (ran [discovery, .moduleShutdown]) (.step _ (.step _ .start trivial) trivial)
    ([header .moduleShutdown 1, 255, msgEnd], none) (by decide)
  exact absurd (hsaid .moduleShutdown rfl trivial) (by decide)

end PyConnect.AssignedIds

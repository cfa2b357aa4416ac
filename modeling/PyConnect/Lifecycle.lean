import PyConnect.ClientLifecycle
import PyConnect.Registration
import PyConnect.ScriptCallbacks

namespace PyConnect.Lifecycle

open Bytes Decoding Common Values Stub StubInput StubMessage ScriptCallbacks ModuleTable Registration
open WrapperSends (typeOf)
open Handshake (entry)

variable {host : Host} {s : PyConnectStub} {k : Int} {called calls : List Callback}

def createdId (c : Callback) : Option Int :=
  if c.fnName = text "onModuleCreated" then
    match c.arg with
    | [.connectObject id] => some id
    | _ => none
  else none

def destroyedId (c : Callback) : Option Int :=
  if c.fnName = text "onModuleDestroyed" then
    match c.arg with
    | [_, .int id] => some id
    | _ => none
  else none

def exposedBy (s : PyConnectStub) : Action → Option Int
  | .receive data _ =>
      if typeOf data = some .attrMetdExpose then
        (findModuleByID s (lowNibble (data.getD 1 0))).map (·.id)
      else none
  | _ => none

def removedBy (s : PyConnectStub) : Action → Option Int
  | .receive data _ =>
      if typeOf data = some .moduleShutdown then
        (findModuleByID s (lowNibble (data.getD 1 0))).map (·.id)
      else none
  | .deleteModuleByID id => (findModuleByID s id).map (·.id)
  | .shutdownModuleByRef id => (findModuleByID s id).map (·.id)

/-- A server in its run, with the modules that have exposed themselves, in the
order of their messages, and the calls of the application. -/
structure ModuleSession where
  stub : PyConnectStub
  exposed : List Int
  called : List Callback

def ModuleSession.step (host : Host) (M : ModuleSession) (a : Action) : ModuleSession where
  stub := (act host M.stub a).1
  exposed := M.exposed ++ (exposedBy M.stub a).toList
  called := M.called ++ scriptCallbacks (act host M.stub a).2

/-- No module goes that has not exposed itself just once. -/
def Orderly (M : ModuleSession) (a : Action) : Prop :=
  ∀ k ∈ removedBy M.stub a, M.exposed.count k = 1

inductive ModuleRun (host : Host) (pow : Bool) (builtins : PyDict) (serverID : Int)
    (allowed : ModuleSession → Action → Prop) : ModuleSession → Prop
  | start : ModuleRun host pow builtins serverID allowed ⟨⟨pow, builtins, 1, [], serverID⟩, [], []⟩
  | step {M : ModuleSession} {a : Action} : ModuleRun host pow builtins serverID allowed M →
      .crash ∉ (act host M.stub a).2 → allowed M a → ModuleRun host pow builtins serverID allowed (M.step host a)

/-- onModuleDestroyed comes at most once for the module, and behind exactly one
onModuleCreated. -/
structure Paired (k : Int) (called : List Callback) : Prop where
  once : (called.filterMap destroyedId).count k ≤ 1
  created : ∀ before c after, called = before ++ c :: after → destroyedId c = some k →
    (before.filterMap createdId).count k = 1

inductive Ids (s s' : PyConnectStub) : Option Int → Prop
  | same : s'.modules.map (·.id) = s.modules.map (·.id) → s'.nextObjId = s.nextObjId → Ids s s' none
  | added : s'.modules.map (·.id) = s.modules.map (·.id) ++ [s.nextObjId] →
      s'.nextObjId = s.nextObjId + 1 → Ids s s' none
  | removed (id : Int) : id ∈ s.modules.map (·.id) →
      s'.modules.map (·.id) = (s.modules.map (·.id)).erase id → s'.nextObjId = s.nextObjId →
      Ids s s' (some id)

theorem map_id_eraseP (modules : List PyConnectObject) (id : Int) :
    (modules.eraseP (·.id = id)).map (·.id) = (modules.map (·.id)).erase id := by
  induction modules with
  | nil => rfl
  | cons x xs ih =>
      rw [List.map_cons, List.erase_cons]
      by_cases hx : x.id = id
      · simp [hx]
      · simp [hx, ih]

theorem ids_entries {s' : PyConnectStub} (h : s'.modules.map entry = s.modules.map entry) :
    s'.modules.map (·.id) = s.modules.map (·.id) := by
  have hids := congrArg (List.map Prod.fst) h
  rw [List.map_map, List.map_map] at hids
  exact hids

theorem ids_deleteModuleByID (s : PyConnectStub) (id : Int) :
    Ids s (deleteModuleByID s id).1 ((findModuleByID s id).map (·.id)) := by
  rw [deleteModuleByID]
  cases hfind : findModuleByID s id with
  | none => exact .same rfl rfl
  | some obj =>
      have hid : obj.id = id := by simpa using List.find?_some hfind
      have hmem := List.mem_map_of_mem (f := (·.id)) (List.mem_of_find?_eq_some hfind)
      rw [hid] at hmem
      rw [Option.map_some, hid]
      exact .removed id hmem (map_id_eraseP _ _) rfl

theorem ids_declareInput (s : PyConnectStub) (cAddr : SockAddr) (c : Cursor) :
    Ids s (declareInput s cAddr c).stub none := by
  rcases declareInput_cases s cAddr c with ⟨hstub, -⟩ | ⟨desc, options, hcreates, hutf, hstub, -⟩
  · rw [hstub]
    exact .same rfl rfl
  · obtain ⟨hentries, hnext, -⟩ := addNewModule_creates hcreates hutf
      (Handshake.unpackString_named (byte c).2).2 desc options cAddr
    have hids := congrArg (List.map Prod.fst) hentries
    rw [List.map_append, List.map_map, List.map_map] at hids
    rw [hstub]
    exact .added hids hnext

theorem ids_objectInput (host : Host) (s : PyConnectStub) (id : Int) (t : Option PyConnectMsg)
    (c : Cursor) : Ids s (objectInput host s id t c).stub none := by
  rw [objectInput]
  cases hfind : findModuleByID s id with
  | none => exact .same rfl rfl
  | some obj =>
      have hfixed := objectMessage_fixed host s.scope obj t c
      exact .same (ids_entries (Handshake.update_entries hfind
        (congrArg (fun x => (x.1, x.2.1)) hfixed))) rfl

theorem ids_act (host : Host) (s : PyConnectStub) (a : Action) :
    Ids s (act host s a).1 (removedBy s a) := by
  cases a with
  | receive data cAddr =>
      rw [act, removedBy, typeOf]
      refine processMessage_cases host s data cAddr ?unknown ?declare ?shutdown ?peer ?discovery ?object
      case unknown =>
        intro h0
        rw [h0]
        exact .same rfl rfl
      case declare =>
        intro ht
        rw [ht]
        exact ids_declareInput s cAddr _
      case shutdown =>
        intro ht c
        rw [ht]
        exact ids_deleteModuleByID s _
      case peer =>
        intro ht
        rw [ht]
        exact .same rfl rfl
      case discovery =>
        intro ht
        rw [ht]
        exact .same rfl rfl
      case object =>
        intro _ ht c
        simp only [List.mem_cons, List.not_mem_nil, or_false, not_or] at ht
        rw [if_neg ht.2.1]
        exact ids_objectInput host s _ _ c
  | deleteModuleByID id => exact ids_deleteModuleByID s id
  | shutdownModuleByRef id =>
      rw [act, shutdownModuleByRef_stub]
      exact ids_deleteModuleByID s id

/-- What an action does to the modules, and the calls that go with it: one for
a module that goes, or one for a module that exposes itself. -/
structure Changes (s s' : PyConnectStub) (exposed removed : Option Int) (calls : List Callback) :
    Prop where
  ids : Ids s s' removed
  created : calls.filterMap createdId = exposed.toList
  destroyed : calls.filterMap destroyedId = removed.toList
  apart : removed.isSome → exposed = none

theorem ids_removed {id : Int} (found : Option PyConnectObject) (hid : ∀ obj ∈ found, obj.id = id) :
    ((found.map fun obj => onModuleDestroyed obj.name id).toList).filterMap createdId = [] ∧
      ((found.map fun obj => onModuleDestroyed obj.name id).toList).filterMap destroyedId =
        (found.map (·.id)).toList := by
  cases found with
  | none => exact ⟨rfl, rfl⟩
  | some obj =>
      obtain rfl := hid obj rfl
      exact ⟨rfl, rfl⟩

theorem changes_act (host : Host) (s : PyConnectStub) (a : Action) (hlives : .crash ∉ (act host s a).2) :
    Changes s (act host s a).1 (exposedBy s a) (removedBy s a) (scriptCallbacks (act host s a).2) := by
  have hid : ∀ id, ∀ obj ∈ findModuleByID s id, obj.id = id :=
    fun id obj hfind => by simpa using List.find?_some hfind
  have hids := ids_act host s a
  cases a with
  | receive data cAddr =>
      have hcalls := scriptCallbacks_processMessage host s data cAddr hlives
      have htype : PyConnectMsg.ofCode (msgTypeOf (data.headD 0)) = typeOf data := rfl
      rw [told, htype] at hcalls
      dsimp only [act] at hids ⊢
      rw [hcalls]
      rw [removedBy] at hids ⊢
      rw [exposedBy]
      generalize typeOf data = t at hids ⊢
      by_cases hshutdown : t = some .moduleShutdown
      · subst hshutdown
        obtain ⟨hcreated, hdestroyed⟩ := ids_removed _ (hid (lowNibble (data.getD 1 0)))
        exact ⟨hids, hcreated, hdestroyed, fun _ => rfl⟩
      rw [if_neg hshutdown] at hids ⊢
      rw [if_neg hshutdown]
      by_cases hpeer : t = some .peerServerMsg
      · subst hpeer
        exact ⟨hids, rfl, rfl, fun _ => rfl⟩
      rw [if_neg hpeer]
      by_cases hexpose : t = some .attrMetdExpose
      · rw [if_pos hexpose, if_pos hexpose]
        cases findModuleByID s (lowNibble (data.getD 1 0)) with
        | none => exact ⟨hids, rfl, rfl, fun _ => rfl⟩
        | some obj => exact ⟨hids, rfl, rfl, fun h => by cases h⟩
      · rw [if_neg hexpose, if_neg hexpose]
        exact ⟨hids, rfl, rfl, fun _ => rfl⟩
  | deleteModuleByID id =>
      obtain ⟨hcreated, hdestroyed⟩ := ids_removed _ (hid id)
      rw [act, scriptCallbacks_deleteModuleByID s id hlives]
      exact ⟨hids, hcreated, hdestroyed, fun _ => rfl⟩
  | shutdownModuleByRef id =>
      obtain ⟨hcreated, hdestroyed⟩ := ids_removed _ (hid id)
      rw [act, scriptCallbacks_shutdownModuleByRef s id hlives]
      exact ⟨hids, hcreated, hdestroyed, fun _ => rfl⟩

/-- What a run keeps: ids go up, so a module that is gone never comes back, and
the application has been told of the exposures. -/
structure Inv (M : ModuleSession) : Prop where
  created : M.called.filterMap createdId = M.exposed
  ids : (M.stub.modules.map (·.id)).Nodup
  below : ∀ i ∈ M.stub.modules.map (·.id), i < M.stub.nextObjId
  gone : ∀ i ∈ M.called.filterMap destroyedId, i < M.stub.nextObjId ∧ i ∉ M.stub.modules.map (·.id)
  once : (M.called.filterMap destroyedId).Nodup

section Step

variable {M M' : ModuleSession} (h : Inv M)
  (hcreated : M'.called.filterMap createdId = M'.exposed)

include h hcreated

theorem Inv.of_same
    (hlog : M'.called.filterMap destroyedId = M.called.filterMap destroyedId)
    (hsame : M'.stub.modules.map (·.id) = M.stub.modules.map (·.id))
    (hnext : M'.stub.nextObjId = M.stub.nextObjId) : Inv M' := by
  refine ⟨hcreated, ?_, ?_, ?_, ?_⟩
  · rw [hsame]
    exact h.ids
  · rw [hsame, hnext]
    exact h.below
  · rw [hlog, hsame, hnext]
    exact h.gone
  · rw [hlog]
    exact h.once

theorem Inv.of_added
    (hlog : M'.called.filterMap destroyedId = M.called.filterMap destroyedId)
    (hadded : M'.stub.modules.map (·.id) = M.stub.modules.map (·.id) ++ [M.stub.nextObjId])
    (hnext : M'.stub.nextObjId = M.stub.nextObjId + 1) : Inv M' := by
  refine ⟨hcreated, ?_, ?_, ?_, ?_⟩
  · rw [hadded, List.nodup_append]
    refine ⟨h.ids, List.nodup_singleton _, fun i hi j hj => ?_⟩
    have := h.below i hi
    obtain rfl := List.mem_singleton.mp hj
    omega
  · rw [hadded, hnext]
    intro i hi
    rcases List.mem_append.mp hi with hi | hi
    · have := h.below i hi
      omega
    · rw [List.mem_singleton.mp hi]
      omega
  · rw [hlog, hadded, hnext]
    intro i hi
    obtain ⟨hlt, hnot⟩ := h.gone i hi
    refine ⟨by omega, fun hmem => ?_⟩
    rcases List.mem_append.mp hmem with hmem | hmem
    · exact hnot hmem
    · have := List.mem_singleton.mp hmem
      omega
  · rw [hlog]
    exact h.once

theorem Inv.of_removed {id : Int} (hid : id ∈ M.stub.modules.map (·.id))
    (hlog : M'.called.filterMap destroyedId = M.called.filterMap destroyedId ++ [id])
    (hremoved : M'.stub.modules.map (·.id) = (M.stub.modules.map (·.id)).erase id)
    (hnext : M'.stub.nextObjId = M.stub.nextObjId) : Inv M' := by
  refine ⟨hcreated, ?_, ?_, ?_, ?_⟩
  · rw [hremoved]
    exact h.ids.erase id
  · rw [hremoved, hnext]
    exact fun i hi => h.below i (List.mem_of_mem_erase hi)
  · rw [hlog, hremoved, hnext]
    intro i hi
    rcases List.mem_append.mp hi with hi | hi
    · obtain ⟨hlt, hnot⟩ := h.gone i hi
      exact ⟨hlt, fun hmem => hnot (List.mem_of_mem_erase hmem)⟩
    · obtain rfl := List.mem_singleton.mp hi
      exact ⟨h.below i hid, h.ids.not_mem_erase⟩
  · rw [hlog, List.nodup_append]
    refine ⟨h.once, List.nodup_singleton _, fun i hi j hj => ?_⟩
    obtain rfl := List.mem_singleton.mp hj
    rintro rfl
    exact (h.gone i hi).2 hid

end Step

theorem Inv.step {M : ModuleSession} (h : Inv M) {s' : PyConnectStub} {exposed removed : Option Int}
    {calls : List Callback} (hc : Changes M.stub s' exposed removed calls) :
    Inv ⟨s', M.exposed ++ exposed.toList, M.called ++ calls⟩ := by
  have hlog : (M.called ++ calls).filterMap destroyedId =
      M.called.filterMap destroyedId ++ removed.toList := by
    rw [List.filterMap_append, hc.destroyed]
  have hcreated : (M.called ++ calls).filterMap createdId = M.exposed ++ exposed.toList := by
    rw [List.filterMap_append, h.created, hc.created]
  have hids := hc.ids
  cases hids with
  | same hsame hnext =>
      rw [Option.toList_none, List.append_nil] at hlog
      exact h.of_same hcreated hlog hsame hnext
  | added hadded hnext =>
      rw [Option.toList_none, List.append_nil] at hlog
      exact h.of_added hcreated hlog hadded hnext
  | removed id hid hremoved hnext =>
      rw [Option.toList_some] at hlog
      exact h.of_removed hcreated hid hlog hremoved hnext

theorem Paired.step {M : ModuleSession} (h : Inv M) (hp : Paired k M.called) {s' : PyConnectStub}
    {exposed removed : Option Int} {calls : List Callback}
    (hc : Changes M.stub s' exposed removed calls) (hin : ∀ k ∈ removed, M.exposed.count k = 1) :
    Paired k (M.called ++ calls) := by
  have hafter := (h.step hc).once
  refine ⟨List.nodup_iff_count_le_one.mp hafter k, fun before e after hsplit he => ?_⟩
  rcases List.append_eq_append_iff.mp hsplit with ⟨before', rfl, hcalls⟩ | ⟨rest, hlog, hrest⟩
  · have hmem : k ∈ calls.filterMap destroyedId := by
      rw [hcalls]
      exact List.mem_filterMap.mpr ⟨e, List.mem_append_right _ List.mem_cons_self, he⟩
    rw [hc.destroyed, Option.mem_toList] at hmem
    have hnone : before'.filterMap createdId = [] := by
      have hall := hc.created
      rw [hc.apart (by rw [hmem]; rfl), hcalls, List.filterMap_append] at hall
      exact (List.append_eq_nil_iff.mp hall).1
    rw [List.filterMap_append, hnone, List.append_nil, h.created]
    exact hin k hmem
  · cases rest with
    | nil =>
        rw [List.append_nil] at hlog
        rw [List.nil_append] at hrest
        have hmem : k ∈ calls.filterMap destroyedId := by
          rw [← hrest]
          exact List.mem_filterMap.mpr ⟨e, List.mem_cons_self, he⟩
        rw [hc.destroyed, Option.mem_toList] at hmem
        rw [← hlog, h.created]
        exact hin k hmem
    | cons x rest =>
        obtain ⟨rfl, -⟩ := List.cons_eq_cons.mp hrest
        exact hp.created before e rest hlog he

theorem paired_run {pow : Bool} {builtins : PyDict} {serverID : Int} {M : ModuleSession}
    (h : ModuleRun host pow builtins serverID Orderly M) : Inv M ∧ ∀ k, Paired k M.called := by
  induction h with
  | start =>
      refine ⟨⟨rfl, List.nodup_nil, fun i hi => absurd hi List.not_mem_nil,
        fun i hi => absurd hi List.not_mem_nil, List.nodup_nil⟩, fun k => ⟨Nat.zero_le 1, ?_⟩⟩
      intro before e after hsplit
      exact absurd hsplit.symm (by simp)
  | @step M a _ hlives hin ih =>
      have hc := changes_act host M.stub a hlives
      exact ⟨ih.1.step hc, fun k => (ih.2 k).step ih.1 hc hin⟩

/-- The server 1 comes to the wrapper of the module "a", assigns it an id and
shuts down. -/
theorem visited_run : ∃ C, ClientLifecycle.ClientRun ⟨.little, true, true⟩ some ⟨[97], [], ∅, ∅⟩
    (ClientLifecycle.InTurn some) C ∧ C.log.filterMap (ClientLifecycle.clientEvent 1) = [true, false] := by
  have c0 : ClientLifecycle.ClientRun ⟨.little, true, true⟩ some ⟨[97], [], ∅, ∅⟩
    (ClientLifecycle.InTurn some) ⟨_, []⟩ := .start
  have c1 := c0.step (a := .receive [header .moduleDiscovery 1, msgEnd] true) (by
    constructor
    · intro data hd h
      obtain rfl := Option.some.inj hd
      exact absurd h (by decide)
    · intro data hd h
      obtain rfl := Option.some.inj hd
      exact absurd h (by decide))
  have c2 := c1.step
    (a := .receive (header .moduleAssignId 1 :: 1 :: (packString [97] false ++ [msgEnd])) true) (by
    constructor
    · rintro data hd - ⟨info, hinfo, hid⟩
      obtain rfl := Option.some.inj hd
      obtain rfl := Option.some.inj hinfo
      exact hid rfl
    · intro data hd h
      obtain rfl := Option.some.inj hd
      exact absurd h (by decide))
  have c3 := c2.step (a := .receive [header .serverShutdown 1, 1, msgEnd] true) (by
    constructor
    · intro data hd h
      obtain rfl := Option.some.inj hd
      exact absurd h (by decide)
    · intro data hd _ _
      obtain rfl := Option.some.inj hd
      exact ⟨_, rfl, by decide⟩)
  exact ⟨_, c3, by decide⟩

/-- The module "a" declares itself, exposes itself and shuts down. -/
theorem visiting_run : ∃ M, ModuleRun .little false [] 5 Orderly M ∧
    M.called = [onModuleCreated 1, onModuleDestroyed [97] 1] := by
  have m0 : ModuleRun .little false [] 5 Orderly ⟨_, [], []⟩ := .start
  have m1 := m0.step (a := .receive declaration ⟨false, 0, []⟩) (by decide) nofun
  have m2 := m1.step (a := .receive [header .attrMetdExpose 5, 1, 0, 0, msgEnd] ⟨false, 0, []⟩)
    (by decide) nofun
  have m3 := m2.step (a := .receive [header .moduleShutdown 5, 1, msgEnd] ⟨false, 0, []⟩)
    (by decide) fun k hk => by
      obtain rfl := Option.some.inj hk
      decide
  exact ⟨_, m3, by decide⟩

/-- In the runs in which the servers and the modules keep to their order, the
callbacks come in pairs: on the wrapper onClientConnected and
onClientDisconnected alternate for each server, and on the server
onModuleDestroyed comes once for a module, behind one onModuleCreated. -/
theorem callbacks_paired (b : Wrapper.Build) (decrypt : List UInt8 → Option (List UInt8))
    (m : Wrapper.PyConnectModule) (C : ClientLifecycle.ClientSession)
    (hC : ClientLifecycle.ClientRun b decrypt m (ClientLifecycle.InTurn decrypt) C) (host : Host) (pow : Bool) (builtins : PyDict)
    (serverID : Int) (M : ModuleSession) (hM : ModuleRun host pow builtins serverID Orderly M) :
    (∀ sid, Alternation.Alternating true (C.log.filterMap (ClientLifecycle.clientEvent sid))) ∧
      ∀ k, Paired k M.called :=
  ⟨fun sid => (ClientLifecycle.told_run hC sid).alternating, (paired_run hM).2⟩

theorem callbacks_paired_visit : ∃ (C : ClientLifecycle.ClientSession) (M : ModuleSession),
    C.log.filterMap (ClientLifecycle.clientEvent 1) = [true, false] ∧
      M.called = [onModuleCreated 1, onModuleDestroyed [97] 1] ∧
      (∀ sid, Alternation.Alternating true (C.log.filterMap (ClientLifecycle.clientEvent sid))) ∧
      ∀ k, Paired k M.called := by
  obtain ⟨C, hC, hlog⟩ := visited_run
  obtain ⟨M, hM, hcalled⟩ := visiting_run
  exact ⟨C, M, hlog, hcalled, callbacks_paired ⟨.little, true, true⟩ some ⟨[97], [], ∅, ∅⟩ C hC .little
    false [] 5 M hM⟩

/-- A server that shuts down before it has assigned an id is reported gone
without having come, and a module that is disconnected before it has exposed
itself is reported destroyed without having been created. -/
theorem not_callbacks_paired :
    (¬ ∀ C : ClientLifecycle.ClientSession, ClientLifecycle.ClientRun ⟨.little, true, true⟩ some
        ⟨text "m", [], ∅, ∅⟩ (fun _ _ => True) C →
      ∀ sid, Alternation.Alternating true (C.log.filterMap (ClientLifecycle.clientEvent sid))) ∧
    ¬ ∀ M : ModuleSession, ModuleRun .little false [] 5 (fun _ _ => True) M → ∀ k, Paired k M.called := by
  constructor
  · intro h
    have c0 : ClientLifecycle.ClientRun ⟨.little, true, true⟩ some ⟨text "m", [], ∅, ∅⟩
      (fun _ _ => True) ⟨_, []⟩ := .start
    have c1 := c0.step (a := .receive [header .moduleDiscovery 1, msgEnd] true) trivial
    have c2 := c1.step (a := .receive [header .serverShutdown 1, 0, msgEnd] true) trivial
    have halt := h _ c2 1
    exact absurd halt (by decide)
  · intro h
    have m0 : ModuleRun .little false [] 5 (fun _ _ => True) ⟨_, [], []⟩ := .start
    have m1 := m0.step (a := .receive declaration ⟨false, 0, []⟩) (by decide) trivial
    have m2 := m1.step (a := .shutdownModuleByRef 1) (by decide) trivial
    have hcreated := (h _ m2 1).created [] (onModuleDestroyed [97] 1) [] (by decide) (by decide)
    exact absurd hcreated (by decide)

end PyConnect.Lifecycle

import PyConnect.Handshake

namespace PyConnect.ModuleTable

open Bytes Decoding Common Values Stub StubInput StubMessage Handshake

variable {host : Host} {s : PyConnectStub} {builtins : PyDict}

theorem getItemString_cons (x : List UInt8 × PyObject) (dict : PyDict) (k : List UInt8) :
    getItemString (x :: dict) k = if x.1 = k then some x.2 else getItemString dict k := by
  rw [getItemString, List.find?_cons]
  by_cases hx : x.1 = k
  · simp [hx]
  · simp [hx, getItemString]

theorem getItemString_append (dict : PyDict) (key k : List UInt8) (value : PyObject) :
    getItemString (dict ++ [(key, value)]) k =
      (getItemString dict k).or (if key = k then some value else none) := by
  induction dict with
  | nil => exact getItemString_cons _ _ _
  | cons x dict ih =>
      rw [List.cons_append, getItemString_cons, getItemString_cons, ih]
      split <;> rfl

theorem getItemString_replace (dict : PyDict) (key k : List UInt8) (value : PyObject) :
    getItemString (dict.map fun x => if x.1 = key then (key, value) else x) k =
      if k = key then (getItemString dict key).map fun _ => value else getItemString dict k := by
  induction dict with
  | nil => simp [getItemString]
  | cons x dict ih =>
      rw [List.map_cons, getItemString_cons, ih, getItemString_cons, getItemString_cons]
      by_cases hx : x.1 = key
      · subst hx
        by_cases hk : k = x.1
        · subst hk
          simp
        · simp [hk, Ne.symm hk]
      · by_cases hk : k = key
        · subst hk
          simp [hx]
        · simp [hx, hk]

theorem getItemString_isNone (dict : PyDict) (key : List UInt8) :
    dict.any (·.1 = key) = (getItemString dict key).isSome := by
  induction dict with
  | nil => rfl
  | cons x dict ih =>
      rw [List.any_cons, getItemString_cons, ih]
      by_cases hx : x.1 = key <;> simp [hx]

theorem getItemString_set {dict : PyDict} {key : List UInt8} (hkey : validUtf8 key = true)
    (value : PyObject) (k : List UInt8) :
    getItemString (setItemString dict key value) k =
      if k = key then some value else getItemString dict k := by
  rw [setItemString, if_pos hkey, getItemString_isNone]
  cases hv : getItemString dict key with
  | none =>
      rw [Option.isSome_none, if_neg Bool.false_ne_true, getItemString_append]
      by_cases hk : k = key
      · rw [hk, hv]
        simp
      · rw [if_neg (Ne.symm hk), if_neg hk, Option.or_none]
  | some old =>
      rw [Option.isSome_some, if_pos rfl, getItemString_replace, hv]
      rfl

theorem getItemString_del (dict : PyDict) (key k : List UInt8) :
    getItemString (delItemString dict key) k =
      if k = key then none else getItemString dict k := by
  rw [delItemString]
  induction dict with
  | nil => simp [getItemString]
  | cons x dict ih =>
      rw [List.filter_cons, getItemString_cons]
      by_cases hx : x.1 = key
      · simp only [hx, ne_eq, not_true_eq_false, decide_false, Bool.false_eq_true, if_false, ih]
        by_cases hk : k = key
        · simp [hk]
        · simp [hk, Ne.symm hk]
      · simp only [hx, ne_eq, not_false_eq_true, decide_true, if_true, getItemString_cons, ih]
        by_cases hk : k = key
        · subst hk
          simp [hx]
        · simp [hk]

/-- The modules of a server, and the attributes of PyConnect that stand for
them beside the built-in ones. -/
structure Table (builtins : PyDict) (s : PyConnectStub) : Prop where
  ids : (s.modules.map (·.id)).Nodup
  range : ∀ obj ∈ s.modules, 1 ≤ obj.id ∧ obj.id ≤ 255 ∧ obj.id < s.nextObjId
  names : (s.modules.map (·.name)).Nodup
  named : ∀ obj ∈ s.modules, obj.name ≠ []
  bound : ∀ key, key ∉ builtins.map (·.1) → getItemString s.pyConnect key =
    (findModuleByName s key).map fun obj => .connectObject obj.id

/-- The same of the entries of the modules, with what keeps it so. -/
structure Inv (builtins : PyDict) (s : PyConnectStub) (entries : List (Int × List UInt8)) : Prop where
  entries_eq : s.modules.map entry = entries
  next : 1 ≤ s.nextObjId ∧ s.nextObjId ≤ 256
  ids : (entries.map (·.1)).Nodup
  names : (entries.map (·.2)).Nodup
  range : ∀ x ∈ entries, 1 ≤ x.1 ∧ x.1 < s.nextObjId
  named : ∀ x ∈ entries, x.2 ≠ [] ∧ x.2 ∉ builtins.map (·.1)
  bound : ∀ key, key ∉ builtins.map (·.1) → getItemString s.pyConnect key =
    (entries.find? (·.2 = key)).map fun x => .connectObject x.1

theorem Inv.table {entries : List (Int × List UInt8)} (h : Inv builtins s entries) :
    Table builtins s := by
  obtain rfl := h.entries_eq
  have hmem : ∀ {obj}, obj ∈ s.modules → entry obj ∈ s.modules.map entry := List.mem_map_of_mem
  refine ⟨?_, fun obj hobj => ?_, ?_, fun obj hobj => (h.named _ (hmem hobj)).1, fun key hkey => ?_⟩
  · have hids := h.ids
    rwa [List.map_map] at hids
  · have hrange : 1 ≤ obj.id ∧ obj.id < s.nextObjId := h.range _ (hmem hobj)
    have hnext := h.next
    exact ⟨hrange.1, by omega, hrange.2⟩
  · have hnames := h.names
    rwa [List.map_map] at hnames
  · rw [h.bound key hkey, findModuleByName, List.find?_map, Option.map_map]
    rfl

theorem Inv.add {entries : List (Int × List UInt8)} (h : Inv builtins s entries) {name : List UInt8}
    (hname : name ≠ []) (hbuiltin : name ∉ builtins.map (·.1)) (hutf : validUtf8 name = true)
    (hnew : findModuleByName s name = none) (hid : s.nextObjId ≤ 255) {obj : PyConnectObject}
    (hobj : entry obj = (s.nextObjId, name)) :
    Inv builtins { s with
      pyConnect := setItemString s.pyConnect name (.connectObject s.nextObjId)
      modules := s.modules ++ [obj]
      nextObjId := s.nextObjId + 1 } (entries ++ [(s.nextObjId, name)]) := by
  obtain ⟨heq, ⟨hnext, -⟩, hids, hnames, hrange, hnamed, hbound⟩ := h
  have hfresh : name ∉ entries.map (·.2) := by
    rw [← heq, List.map_map]
    intro hmem
    obtain ⟨obj, hobj, he⟩ := List.mem_map.mp hmem
    rw [findModuleByName, List.find?_eq_none] at hnew
    exact hnew obj hobj (decide_eq_true he)
  refine ⟨?_, ⟨by dsimp only; omega, by dsimp only; omega⟩, ?_, ?_, fun x hx => ?_, fun x hx => ?_,
    fun key hkey => ?_⟩
  · rw [List.map_append, heq, List.map_singleton, hobj]
  · rw [List.map_append, List.nodup_append]
    refine ⟨hids, List.nodup_singleton _, fun a ha b hb => ?_⟩
    obtain ⟨x, hx, rfl⟩ := List.mem_map.mp ha
    obtain rfl := List.mem_singleton.mp hb
    exact Int.ne_of_lt (hrange x hx).2
  · rw [List.map_append, List.nodup_append]
    refine ⟨hnames, List.nodup_singleton _, fun a ha b hb => ?_⟩
    obtain rfl := List.mem_singleton.mp hb
    rintro rfl
    exact hfresh ha
  · rcases List.mem_append.mp hx with hx | hx
    · have := hrange x hx
      exact ⟨this.1, by dsimp only; omega⟩
    · obtain rfl := List.mem_singleton.mp hx
      exact ⟨hnext, by dsimp only; omega⟩
  · rcases List.mem_append.mp hx with hx | hx
    · exact hnamed x hx
    · obtain rfl := List.mem_singleton.mp hx
      exact ⟨hname, hbuiltin⟩
  · rw [getItemString_set hutf, List.find?_append]
    by_cases hk : key = name
    · subst hk
      have hnone : entries.find? (·.2 = key) = none := List.find?_eq_none.mpr fun x hx he =>
        hfresh (List.mem_map.mpr ⟨x, hx, of_decide_eq_true he⟩)
      rw [if_pos rfl, hnone]
      simp
    · rw [if_neg hk, hbound key hkey]
      simp [Ne.symm hk]

theorem Inv.delete {entries : List (Int × List UInt8)} (h : Inv builtins s entries) {id : Int}
    {obj : PyConnectObject} (hfind : findModuleByID s id = some obj) :
    ∃ entries', Inv builtins { s with
      pyConnect := delItemString s.pyConnect obj.name
      modules := s.modules.eraseP (·.id = id) } entries' := by
  obtain ⟨rfl, hnext, hids, hnames, hrange, hnamed, hbound⟩ := h
  obtain ⟨hid, before, after, hsplit, hbefore⟩ := List.find?_eq_some_iff_append.mp hfind
  have herase : s.modules.eraseP (·.id = id) = before ++ after := by
    rw [hsplit, List.eraseP_append_right _ fun x hx => by simpa using hbefore x hx]
    congr 1
    exact List.eraseP_cons_of_pos (p := fun x : PyConnectObject => decide (x.id = id)) hid
  rw [herase]
  rw [hsplit, List.map_append, List.map_cons] at hids hnames hrange hnamed hbound
  have hsub : ∀ x ∈ (before ++ after).map entry,
      x ∈ before.map entry ++ entry obj :: after.map entry := by
    intro x hx
    rw [List.map_append] at hx
    rcases List.mem_append.mp hx with hx | hx
    · exact List.mem_append_left _ hx
    · exact List.mem_append_right _ (List.mem_cons_of_mem _ hx)
  have hsublist : ((before ++ after).map entry).Sublist
      (before.map entry ++ entry obj :: after.map entry) := by
    rw [List.map_append]
    exact (List.Sublist.refl _).append (List.sublist_cons_self _ _)
  refine ⟨(before ++ after).map entry, rfl, hnext, hids.sublist (hsublist.map _),
    hnames.sublist (hsublist.map _), fun x hx => hrange x (hsub x hx),
    fun x hx => hnamed x (hsub x hx), fun key hkey => ?_⟩
  rw [getItemString_del, hbound key hkey, List.map_append, List.find?_append, List.find?_append,
    List.find?_cons]
  by_cases hk : key = obj.name
  · -- no other module has the name
    have hunique := hnames
    rw [List.map_append, List.map_cons] at hunique
    have hother := (List.nodup_cons.mp (List.nodup_middle.mp hunique)).1
    rw [← List.map_append] at hother
    have hnone : ∀ l : List PyConnectObject, (∀ x ∈ l, x ∈ before ++ after) →
        (l.map entry).find? (·.2 = key) = none := by
      intro l hl
      refine List.find?_eq_none.mpr fun x hx he => hother (List.mem_map.mpr ⟨x, ?_, ?_⟩)
      · obtain ⟨y, hy, rfl⟩ := List.mem_map.mp hx
        rw [← List.map_append]
        exact List.mem_map_of_mem (hl y hy)
      · rw [of_decide_eq_true he, hk]
        rfl
    rw [if_pos hk, hnone before fun x hx => List.mem_append_left _ hx,
      hnone after fun x hx => List.mem_append_right _ hx]
    rfl
  · have hne : decide ((entry obj).2 = key) = false := decide_eq_false (Ne.symm hk)
    rw [if_neg hk, hne]

/-- The id that an effect assigns, if it dispatches a MODULE_ASSIGN_ID. -/
def assignedId : Effect → Option UInt8
  | .dispatch data _ =>
      if PyConnectMsg.ofCode (msgTypeOf (data.headD 0)) = some .moduleAssignId then
        some (data.getD 1 0)
      else none
  | _ => none

structure Session where
  stub : PyConnectStub
  log : List Effect

def Session.assigned (S : Session) : List UInt8 := S.log.filterMap assignedId

def Session.start (pow : Bool) (builtins : PyDict) (serverID : Int) : Session :=
  ⟨⟨pow, builtins, 1, [], serverID⟩, []⟩

def declaredName (data : List UInt8) : Option (List UInt8) :=
  if PyConnectMsg.ofCode (msgTypeOf (data.headD 0)) = some .moduleDeclare then
    some (unpackString false (byte (byte (startAt data 0)).2).2).1
  else none

structure Creates (s : PyConnectStub) (name : List UInt8) : Prop where
  unknown : findModuleByName s name = none
  named : name ≠ []
  room : s.nextObjId ≤ 0xff

/-- The modules' comings and goings, and all other messages beside. An object
whose name is not UTF-8 is never made: its constructor passes on the null that
PyUnicode_FromString returns, which is the end of the process. -/
inductive Step (host : Host) (builtins : PyDict) : Session → Session → Prop
  | receive (S : Session) (data : List UInt8) (cAddr : SockAddr) (o : Outcome) :
      o = processMessage host S.stub data cAddr →
      (∀ name, declaredName data = some name → name ∉ builtins.map (·.1)) →
      (∀ name, declaredName data = some name → Creates S.stub name → validUtf8 name = true) →
      Step host builtins S ⟨o.stub, S.log ++ o.effects⟩
  | deleteModuleByID (S : Session) (id : Int) :
      Step host builtins S ⟨(deleteModuleByID S.stub id).1, S.log ++ (deleteModuleByID S.stub id).2⟩
  | shutdownModuleByRef (S : Session) (id : Int) : Step host builtins S
      ⟨(shutdownModuleByRef S.stub id).1, S.log ++ (shutdownModuleByRef S.stub id).2⟩

inductive Reach (host : Host) (pow : Bool) (builtins : PyDict) (serverID : Int) : Session → Prop
  | start : Reach host pow builtins serverID (.start pow builtins serverID)
  | step {S S' : Session} : Reach host pow builtins serverID S → Step host builtins S S' →
      Reach host pow builtins serverID S'

/-- What processInput makes of a message, as far as the table goes. -/
inductive Receives (host : Host) (s : PyConnectStub) (data : List UInt8) (cAddr : SockAddr) :
    PyConnectStub → List Effect → Prop
  | idle (effects : List Effect) : effects.filterMap assignedId = [] →
      Receives host s data cAddr s effects
  | create (name desc : List UInt8) (options : UInt8) : declaredName data = some name →
      Creates s name → validUtf8 name = true → Receives host s data cAddr (addNewModule s name desc options cAddr).1
        (addNewModule s name desc options cAddr).2
  | delete (id : Int) :
      Receives host s data cAddr (deleteModuleByID s id).1 (deleteModuleByID s id).2
  | update (id : Int) (obj obj' : PyConnectObject) (effects : List Effect) :
      findModuleByID s id = some obj → entry obj' = entry obj →
      effects.filterMap assignedId = [] →
      Receives host s data cAddr (PyConnectStub.update s id obj') effects

theorem addNewModule_idle {name : List UInt8} (desc : List UInt8) (options : UInt8) (cAddr : SockAddr)
    (h : name = [] ∨ s.nextObjId > 0xff) : addNewModule s name desc options cAddr = (s, []) := by
  rw [addNewModule]
  by_cases hname : name = []
  · rw [if_pos hname]
  · rw [if_neg hname, if_pos (h.resolve_left hname)]

theorem addNewModule_null {name : List UInt8} (desc : List UInt8) (options : UInt8) (cAddr : SockAddr)
    (hc : Creates s name) (hutf : validUtf8 name = false) :
    addNewModule s name desc options cAddr = (s, [.gilEnsure, .crash]) := by
  have hroom := hc.room
  rw [addNewModule, if_neg hc.named, if_neg (by omega),
    if_pos ((unicodeFromString_eq_null name).mpr hutf)]

theorem addNewModule_eq {name : List UInt8} (desc : List UInt8) (options : UInt8) (cAddr : SockAddr)
    (hc : Creates s name) (hutf : validUtf8 name = true) :
    addNewModule s name desc options cAddr =
      ({ s with
          pyConnect := setItemString s.pyConnect name (.connectObject s.nextObjId)
          modules := s.modules ++ [(PyConnectObject.create name s.nextObjId
            (if desc = [] then none else some desc) options).setNetworkAddress cAddr]
          nextObjId := s.nextObjId + 1 },
        [.gilEnsure, .gilRelease, Stub.send (assignPacket s name s.nextObjId)]) := by
  have hroom := hc.room
  have hnull : unicodeFromString name ≠ .null := fun h => by
    rw [unicodeFromString_eq_null, hutf] at h
    cases h
  rw [addNewModule, if_neg hc.named, if_neg (by omega), if_neg hnull]

/-- A declaration registers a module, or nothing comes of it but the end of the
process. -/
theorem declareInput_cases (s : PyConnectStub) (cAddr : SockAddr) (c : Cursor) :
    ((declareInput s cAddr c).stub = s ∧ ((declareInput s cAddr c).effects = [] ∨
        (declareInput s cAddr c).effects = [.gilEnsure, .crash])) ∨
      ∃ desc options, Creates s (unpackString false (byte c).2).1 ∧
        validUtf8 (unpackString false (byte c).2).1 = true ∧
        (declareInput s cAddr c).stub =
          (addNewModule s (unpackString false (byte c).2).1 desc options cAddr).1 ∧
        (declareInput s cAddr c).effects =
          (addNewModule s (unpackString false (byte c).2).1 desc options cAddr).2 := by
  rw [declareInput, moduleDeclare, bind_apply, bind_apply]
  cases hfind : findModuleByName s (unpackString false (byte c).2).1 with
  | some obj => exact .inl ⟨rfl, .inl rfl⟩
  | none =>
      dsimp only
      rw [bind_apply]
      dsimp only [pure_apply]
      by_cases hroom : (unpackString false (byte c).2).1 = [] ∨ s.nextObjId > 0xff
      · rw [addNewModule_idle _ _ _ hroom]
        exact .inl ⟨rfl, .inl rfl⟩
      rw [not_or, not_lt] at hroom
      have hcreates : Creates s (unpackString false (byte c).2).1 := ⟨hfind, hroom.1, hroom.2⟩
      cases hutf : validUtf8 (unpackString false (byte c).2).1 with
      | true => exact .inr ⟨_, _, hcreates, rfl, rfl, rfl⟩
      | false =>
          rw [addNewModule_null _ _ _ hcreates hutf]
          exact .inl ⟨rfl, .inr rfl⟩

theorem declareInput_receives (host : Host) (s : PyConnectStub) {x : UInt8} {rest : List UInt8}
    (cAddr : SockAddr) (hx : PyConnectMsg.ofCode (msgTypeOf x) = some .moduleDeclare) :
    Receives host s (x :: rest) cAddr (declareInput s cAddr (startAt rest 0)).stub
      (declareInput s cAddr (startAt rest 0)).effects := by
  have hdeclared : declaredName (x :: rest) =
      some (unpackString false (byte (startAt rest 0)).2).1 := by
    rw [declaredName, List.headD_cons, if_pos hx, byte_cons]
  rcases declareInput_cases s cAddr (startAt rest 0) with
    ⟨hstub, heffects⟩ | ⟨desc, options, hcreates, hutf, hstub, heffects⟩
  · rw [hstub]
    refine .idle _ ?_
    rcases heffects with heffects | heffects <;> rw [heffects] <;> rfl
  · rw [hstub, heffects]
    exact .create _ _ _ hdeclared hcreates hutf

theorem objectInput_receives (host : Host) (s : PyConnectStub) (data : List UInt8) (cAddr : SockAddr)
    (id : Int) (t : Option PyConnectMsg) (c : Cursor) :
    Receives host s data cAddr (objectInput host s id t c).stub (objectInput host s id t c).effects := by
  have hsilent := objectInput_silent host s id t c
  rw [objectInput] at hsilent ⊢
  cases hfind : findModuleByID s id with
  | none => exact .idle [] rfl
  | some obj =>
      rw [hfind] at hsilent
      have hfixed := objectMessage_fixed host s.scope obj t c
      refine .update id obj _ _ hfind (congrArg (fun x => (x.1, x.2.1)) hfixed) ?_
      rw [List.filterMap_eq_nil_iff]
      intro e he
      cases e with
      | dispatch msg broadcast => exact (hsilent msg broadcast he).elim
      | _ => rfl

theorem assigned_invoke (s : PyConnectStub) (fnName : List UInt8) (arg : List PyObject) :
    (locked (Stub.invoke s.scope fnName arg)).filterMap assignedId = [] := by
  rw [filterMap_locked rfl rfl]
  exact filterMap_invoke arg (fun _ => rfl) rfl

theorem processMessage_receives (host : Host) (s : PyConnectStub) (data : List UInt8)
    (cAddr : SockAddr) : Receives host s data cAddr (processMessage host s data cAddr).stub
      (processMessage host s data cAddr).effects := by
  refine processMessage_cases host s data cAddr (fun _ => .idle [] rfl) (fun hdeclare => ?_)
    (fun _ _ => .delete _) (fun _ => .idle _ (assigned_invoke s _ _)) (fun _ => .idle [] rfl)
    fun _ _ c => objectInput_receives host s data cAddr _ _ c
  cases data with
  | nil => cases hdeclare
  | cons x rest =>
      rw [byte_cons]
      exact declareInput_receives host s cAddr hdeclare

theorem assigned_addNewModule {name : List UInt8} (desc : List UInt8) (options : UInt8) (cAddr : SockAddr)
    (hc : Creates s name) (hutf : validUtf8 name = true) :
    (addNewModule s name desc options cAddr).2.filterMap assignedId = [] ∨
      (addNewModule s name desc options cAddr).2.filterMap assignedId = [toByte s.nextObjId] := by
  rw [addNewModule_eq _ _ _ hc hutf]
  dsimp only
  rcases send_assign s name s.nextObjId with he | he
  · rw [he]
    exact .inl rfl
  · obtain ⟨-, htype⟩ := msgType_header .moduleAssignId s.serverID
    have hid : assignedId (.dispatch (assignData s.serverID name s.nextObjId) false) =
        some (toByte s.nextObjId) := by
      rw [assignedId, assignData, List.headD_cons, if_pos htype]
      rfl
    right
    rw [he, List.filterMap_cons, List.filterMap_cons, List.filterMap_cons, hid]
    rfl

theorem assigned_deleteModuleByID (s : PyConnectStub) (id : Int) :
    (deleteModuleByID s id).2.filterMap assignedId = [] := by
  rw [deleteModuleByID]
  split
  · rfl
  · exact assigned_invoke s _ _

theorem assigned_shutdownModuleByRef (s : PyConnectStub) (id : Int) :
    (shutdownModuleByRef s id).2.filterMap assignedId = [] := by
  rw [shutdownModuleByRef]
  split
  · rfl
  · obtain ⟨-, htype⟩ := msgType_header .serverShutdown s.serverID
    rw [List.filterMap_cons, assignedId, List.headD_cons, htype]
    exact assigned_invoke s _ _

structure Sound (builtins : PyDict) (S : Session) : Prop where
  table : ∃ entries, Inv builtins S.stub entries
  nodup : S.assigned.Nodup
  below : ∀ i ∈ S.assigned, (i.toNat : Int) < S.stub.nextObjId

theorem Inv.create {entries : List (Int × List UInt8)} (h : Inv builtins s entries)
    {name : List UInt8} (hc : Creates s name) (hbuiltin : name ∉ builtins.map (·.1))
    (hutf : validUtf8 name = true) (desc : List UInt8) (options : UInt8) (cAddr : SockAddr) :
    (∃ entries', Inv builtins (addNewModule s name desc options cAddr).1 entries') ∧
      (addNewModule s name desc options cAddr).1.nextObjId = s.nextObjId + 1 := by
  have hroom := hc.room
  rw [addNewModule_eq _ _ _ hc hutf]
  refine ⟨⟨_, h.add hc.named hbuiltin hutf hc.unknown hroom ?_⟩, rfl⟩
  rw [entry_setNetworkAddress]
  rfl

theorem Inv.deleteModuleByID {entries : List (Int × List UInt8)} (h : Inv builtins s entries)
    (id : Int) : (∃ entries', Inv builtins (deleteModuleByID s id).1 entries') ∧
      (Stub.deleteModuleByID s id).1.nextObjId = s.nextObjId := by
  rw [Stub.deleteModuleByID]
  cases hfind : findModuleByID s id with
  | none => exact ⟨⟨entries, h⟩, rfl⟩
  | some obj => exact ⟨h.delete hfind, rfl⟩

theorem shutdownModuleByRef_stub (s : PyConnectStub) (id : Int) :
    (shutdownModuleByRef s id).1 = (deleteModuleByID s id).1 := by
  rw [shutdownModuleByRef, deleteModuleByID]
  split <;> rfl

theorem Sound.append {S : Session} (h : Sound builtins S) {stub : PyConnectStub}
    {effects : List Effect} (ht : ∃ entries, Inv builtins stub entries)
    (hnext : stub.nextObjId = S.stub.nextObjId) (hnone : effects.filterMap assignedId = []) :
    Sound builtins ⟨stub, S.log ++ effects⟩ := by
  have hsame : Session.assigned ⟨stub, S.log ++ effects⟩ = S.assigned := by
    rw [Session.assigned, List.filterMap_append, hnone, List.append_nil]
    rfl
  refine ⟨ht, ?_, ?_⟩
  · rw [hsame]
    exact h.nodup
  · rw [hsame]
    dsimp only
    rw [hnext]
    exact h.below

theorem Sound.create {S : Session} (h : Sound builtins S) {name : List UInt8}
    (hc : Creates S.stub name) (hbuiltin : name ∉ builtins.map (·.1))
    (hutf : validUtf8 name = true) (desc : List UInt8) (options : UInt8) (cAddr : SockAddr) :
    Sound builtins ⟨(addNewModule S.stub name desc options cAddr).1,
      S.log ++ (addNewModule S.stub name desc options cAddr).2⟩ := by
  obtain ⟨entries, hinv⟩ := h.table
  obtain ⟨htable, hnext⟩ := hinv.create hc hbuiltin hutf desc options cAddr
  have hfirst := hinv.next.1
  have hroom := hc.room
  have hbyte : ((toByte S.stub.nextObjId).toNat : Int) = S.stub.nextObjId := by
    rw [toByte_toNat]
    omega
  have hassigned : Session.assigned ⟨(addNewModule S.stub name desc options cAddr).1,
      S.log ++ (addNewModule S.stub name desc options cAddr).2⟩ =
      S.assigned ++ (addNewModule S.stub name desc options cAddr).2.filterMap assignedId :=
    List.filterMap_append
  refine ⟨htable, ?_, ?_⟩
  · rw [hassigned]
    rcases assigned_addNewModule desc options cAddr hc hutf with he | he
    · rw [he, List.append_nil]
      exact h.nodup
    · rw [he, List.nodup_append]
      refine ⟨h.nodup, List.nodup_singleton _, fun i hi j hj => ?_⟩
      obtain rfl := List.mem_singleton.mp hj
      rintro rfl
      have := h.below _ hi
      omega
  · rw [hassigned]
    dsimp only
    rw [hnext]
    intro i hi
    rcases List.mem_append.mp hi with hi | hi
    · have := h.below i hi
      omega
    · rcases assigned_addNewModule desc options cAddr hc hutf with he | he
      · rw [he] at hi
        cases hi
      · rw [he] at hi
        obtain rfl := List.mem_singleton.mp hi
        omega

theorem sound_step {S S' : Session} (h : Sound builtins S) (hs : Step host builtins S S') :
    Sound builtins S' := by
  obtain ⟨entries, hinv⟩ := h.table
  cases hs with
  | receive data cAddr o ho hbuiltin hutf =>
      have hreceives := processMessage_receives host S.stub data cAddr
      rw [ho]
      generalize (processMessage host S.stub data cAddr).stub = stub at hreceives
      generalize (processMessage host S.stub data cAddr).effects = effects at hreceives
      cases hreceives with
      | idle effects hnone => exact h.append ⟨entries, hinv⟩ rfl hnone
      | create name desc options hname hc hvalid =>
          exact h.create hc (hbuiltin name hname) hvalid desc options cAddr
      | delete id =>
          obtain ⟨htable, hnext⟩ := hinv.deleteModuleByID id
          exact h.append htable hnext (assigned_deleteModuleByID S.stub id)
      | update id obj obj' effects hfind he hnone =>
          have hentries := update_entries hfind he
          exact h.append ⟨entries, hentries.trans hinv.entries_eq, hinv.next, hinv.ids, hinv.names,
            hinv.range, hinv.named, hinv.bound⟩ rfl hnone
  | deleteModuleByID id =>
      obtain ⟨htable, hnext⟩ := hinv.deleteModuleByID id
      exact h.append htable hnext (assigned_deleteModuleByID S.stub id)
  | shutdownModuleByRef id =>
      obtain ⟨htable, hnext⟩ := hinv.deleteModuleByID id
      rw [← shutdownModuleByRef_stub] at htable hnext
      exact h.append htable hnext (assigned_shutdownModuleByRef S.stub id)

theorem sound_reach {pow : Bool} {serverID : Int} {S : Session}
    (h : Reach host pow builtins serverID S) : Sound builtins S := by
  induction h with
  | start =>
      refine ⟨⟨[], rfl, ⟨(by decide : (1 : Int) ≤ 1), (by decide : (1 : Int) ≤ 256)⟩,
        List.nodup_nil, List.nodup_nil,
        fun x hx => absurd hx List.not_mem_nil, fun x hx => absurd hx List.not_mem_nil,
        fun key hkey => ?_⟩, List.nodup_nil, fun i hi => absurd hi List.not_mem_nil⟩
      have hnone : builtins.find? (·.1 = key) = none := List.find?_eq_none.mpr fun x hx he =>
        hkey (List.mem_map.mpr ⟨x, hx, of_decide_eq_true he⟩)
      rw [Session.start, getItemString, hnone]
      rfl
  | step _ hs ih => exact sound_step ih hs

/-- In every state that a server reaches, the modules have ids and names of
their own and are the attributes of PyConnect under their names; and no id is
assigned twice. -/
theorem table_reach (host : Host) (pow : Bool) (builtins : PyDict) (serverID : Int) {S : Session}
    (h : Reach host pow builtins serverID S) : Table builtins S.stub ∧ S.assigned.Nodup := by
  have hsound := sound_reach h
  obtain ⟨entries, hinv⟩ := hsound.table
  exact ⟨hinv.table, hsound.nodup⟩

/-- A module declares itself twice, and is shut down in between. -/
theorem table_reach_again : ∃ S : Session,
    Reach .little false [(text "ServerID", .int 5)] 5 S ∧ S.assigned = [1, 2] ∧
      Table [(text "ServerID", .int 5)] S.stub ∧ S.assigned.Nodup := by
  let declaration : List UInt8 :=
    header .moduleDeclare 5 :: 0 :: (packString [97] false ++ packString [] true ++ [msgEnd])
  have hname : declaredName declaration = some [97] := by decide
  have hbuiltin : ∀ name, declaredName declaration = some name →
      name ∉ [(text "ServerID", PyObject.int 5)].map (·.1) := by
    intro name hn
    rw [hname] at hn
    obtain rfl := Option.some.inj hn
    decide
  have hutf : ∀ (s : PyConnectStub) name, declaredName declaration = some name →
      Creates s name → validUtf8 name = true := by
    intro s name hn _
    rw [hname] at hn
    obtain rfl := Option.some.inj hn
    decide
  have s0 : Reach .little false [(text "ServerID", .int 5)] 5 (.start _ _ _) := .start
  have s1 := s0.step (.receive _ declaration ⟨false, 0, []⟩ _ rfl hbuiltin (hutf _))
  have s2 := s1.step (.shutdownModuleByRef _ 1)
  have s3 := s2.step (.receive _ declaration ⟨false, 0, []⟩ _ rfl hbuiltin (hutf _))
  exact ⟨_, s3, by decide, table_reach .little false _ 5 s3⟩

end PyConnect.ModuleTable

import PyConnect.ModuleTable

namespace PyConnect.Registration

open Bytes Decoding Common Values Stub StubInput StubMessage ModuleTable
open Handshake hiding declaredName

variable {host : Host} {s : PyConnectStub} {data name : List UInt8} {cAddr : SockAddr}

inductive Action
  | receive (data : List UInt8) (cAddr : SockAddr)
  | deleteModuleByID (id : Int)
  | shutdownModuleByRef (id : Int)

def act (host : Host) (s : PyConnectStub) : Action → PyConnectStub × List Effect
  | .receive data cAddr =>
      ((processMessage host s data cAddr).stub, (processMessage host s data cAddr).effects)
  | .deleteModuleByID id => deleteModuleByID s id
  | .shutdownModuleByRef id => shutdownModuleByRef s id

/-- The constructor of a PyConnectObject ends the process where the name that
it is made for is not UTF-8. -/
def Survives (s : PyConnectStub) : Action → Prop
  | .receive data _ => ∀ name, declaredName data = some name → Creates s name → validUtf8 name = true
  | _ => True

inductive Run (host : Host) (pow : Bool) (builtins : PyDict) (serverID : Int) : Session → Prop
  | start : Run host pow builtins serverID (.start pow builtins serverID)
  | step {S : Session} {a : Action} : Run host pow builtins serverID S → Survives S.stub a →
      Run host pow builtins serverID ⟨(act host S.stub a).1, S.log ++ (act host S.stub a).2⟩

/-- A MODULE_DECLARE with a name that is not registered reaches a server with
less than 255 modules. -/
structure Declares (s : PyConnectStub) (data name : List UInt8) : Prop where
  declared : declaredName data = some name
  named : name ≠ []
  unknown : findModuleByName s name = none
  room : s.modules.length < 255

def Registers (host : Host) (s : PyConnectStub) (data : List UInt8) (cAddr : SockAddr)
    (name : List UInt8) : Prop :=
  Survives s (.receive data cAddr) ∧ ∃ id,
    (processMessage host s data cAddr).stub.modules.map entry = s.modules.map entry ++ [(id, name)] ∧
    .dispatch (assignData s.serverID name id) false ∈ (processMessage host s data cAddr).effects

theorem length_of_declaredName (h : declaredName data = some name) : name.length ≤ 255 := by
  rw [declaredName] at h
  split at h
  · rw [← Option.some.inj h]
    exact (unpackString_named _).2
  · cases h

theorem declaredName_cons (h : declaredName data = some name) : ∃ x rest, data = x :: rest ∧
    PyConnectMsg.ofCode (msgTypeOf x) = some .moduleDeclare ∧
    name = (unpackString false (byte (startAt rest 0)).2).1 := by
  rw [declaredName] at h
  split at h
  next htype =>
    cases data with
    | nil => exact absurd htype (by decide)
    | cons x rest =>
        refine ⟨x, rest, rfl, htype, ?_⟩
        rw [byte_cons] at h
        exact (Option.some.inj h).symm
  next => cases h

theorem processMessage_declared (host : Host) (cAddr : SockAddr) (hname : declaredName data = some name)
    (hnew : findModuleByName s name = none) : ∃ desc options,
      (processMessage host s data cAddr).stub = (addNewModule s name desc options cAddr).1 ∧
      (processMessage host s data cAddr).effects = (addNewModule s name desc options cAddr).2 ∧
      (processMessage host s data cAddr).result = .processedOk := by
  obtain ⟨x, rest, rfl, htype, rfl⟩ := declaredName_cons hname
  have h0 : msgTypeOf x ≠ 0 := fun h0 => by
    rw [h0] at htype
    cases htype
  rw [processMessage, byte_cons]
  dsimp only
  rw [if_neg h0, if_pos htype, declareInput, moduleDeclare, bind_apply, bind_apply, hnew]
  exact ⟨_, _, rfl, rfl, rfl⟩

theorem send_assigned (s : PyConnectStub) (hl : name.length ≤ 255) (id : Int) :
    send (assignPacket s name id) = .dispatch (assignData s.serverID name id) false := by
  rw [send_eq, assignPacket_data]
  have : (assignPacket s name id).totalMsgSize = 4 + name.length := rfl
  omega

theorem addNewModule_creates (hc : Creates s name) (hutf : validUtf8 name = true)
    (hl : name.length ≤ 255) (desc : List UInt8) (options : UInt8) (cAddr : SockAddr) :
    (addNewModule s name desc options cAddr).1.modules.map entry =
        s.modules.map entry ++ [(s.nextObjId, name)] ∧
      (addNewModule s name desc options cAddr).1.nextObjId = s.nextObjId + 1 ∧
      (addNewModule s name desc options cAddr).2 = [.gilEnsure, .gilRelease,
        .dispatch (assignData s.serverID name s.nextObjId) false] := by
  rw [addNewModule_eq desc options cAddr hc hutf, send_assigned s hl]
  refine ⟨?_, rfl, rfl⟩
  dsimp only
  rw [List.map_append, List.map_singleton, entry_setNetworkAddress]
  rfl

theorem assignedId_assign (serverID : Int) (name : List UInt8) (id : Int) :
    assignedId (.dispatch (assignData serverID name id) false) = some (toByte id) := by
  obtain ⟨-, htype⟩ := msgType_header .moduleAssignId serverID
  rw [assignedId, assignData, List.headD_cons, if_pos htype]
  rfl

theorem nextObjId_deleteModuleByID (s : PyConnectStub) (id : Int) :
    (deleteModuleByID s id).1.nextObjId = s.nextObjId := by
  rw [deleteModuleByID]
  split <;> rfl

theorem act_counts (host : Host) (s : PyConnectStub) (a : Action) :
    (act host s a).1.nextObjId = s.nextObjId + ((act host s a).2.filterMap assignedId).length := by
  cases a with
  | receive data cAddr =>
      have hreceives := processMessage_receives host s data cAddr
      dsimp only [act]
      generalize (processMessage host s data cAddr).stub = stub at *
      generalize (processMessage host s data cAddr).effects = effects at *
      cases hreceives with
      | idle effects hnone => rw [hnone, List.length_nil, Nat.cast_zero, add_zero]
      | create name desc options hname hc hutf =>
          obtain ⟨-, hnext, heffects⟩ :=
            addNewModule_creates hc hutf (length_of_declaredName hname) desc options cAddr
          rw [hnext, heffects]
          simp only [List.filterMap_cons, List.filterMap_nil, assignedId_assign]
          rfl
      | delete id =>
          rw [nextObjId_deleteModuleByID, assigned_deleteModuleByID, List.length_nil, Nat.cast_zero, add_zero]
      | update id obj obj' effects hfind he hnone =>
          rw [hnone, List.length_nil, Nat.cast_zero, add_zero]
          rfl
  | deleteModuleByID id =>
      rw [act, nextObjId_deleteModuleByID, assigned_deleteModuleByID, List.length_nil, Nat.cast_zero, add_zero]
  | shutdownModuleByRef id =>
      rw [act, shutdownModuleByRef_stub, nextObjId_deleteModuleByID, assigned_shutdownModuleByRef, List.length_nil,
        Nat.cast_zero, add_zero]

/-- Over a whole history the counter is one ahead of the ids that it has given
away, whatever has become of their modules. -/
theorem run_counts {pow : Bool} {builtins : PyDict} {serverID : Int} {S : Session}
    (h : Run host pow builtins serverID S) : S.stub.nextObjId = S.assigned.length + 1 := by
  induction h with
  | start => rfl
  | step _ _ ih =>
      rw [act_counts, ih, Session.assigned, Session.assigned, List.filterMap_append,
        List.length_append]
      push_cast
      omega

def declaration : List UInt8 :=
  header .moduleDeclare 5 :: 0 :: (packString [97] false ++ packString [] true ++ [msgEnd])

theorem run_again (n : Nat) (hn : n ≤ 255) : ∃ S, Run .little false [] 5 S ∧
    S.stub.modules = [] ∧ S.stub.nextObjId = n + 1 := by
  induction n with
  | zero => exact ⟨_, .start, rfl, rfl⟩
  | succ n ih =>
      obtain ⟨S, hrun, hmodules, hnext⟩ := ih (by omega)
      have hname : declaredName declaration = some [97] := by decide
      have hnew : findModuleByName S.stub [97] = none := by
        rw [findModuleByName, hmodules]
        rfl
      have hc : Creates S.stub [97] := ⟨hnew, by decide, by omega⟩
      obtain ⟨desc, options, hstub, -, -⟩ :=
        processMessage_declared .little ⟨false, 0, []⟩ hname hnew
      obtain ⟨hadded, hmoved, -⟩ := addNewModule_creates hc (by decide) (by decide) desc options ⟨false, 0, []⟩
      have hjoined := hrun.step (a := .receive declaration ⟨false, 0, []⟩) (fun name hn _ => by
        rw [← Option.some.inj (hname.symm.trans hn)]
        decide)
      have hleft := hjoined.step (a := .deleteModuleByID S.stub.nextObjId) trivial
      refine ⟨_, hleft, ?_, ?_⟩
      · dsimp only [act]
        rw [hstub, deleteModuleByID]
        rw [hmodules, List.map_nil, List.nil_append] at hadded
        generalize (addNewModule S.stub [97] desc options ⟨false, 0, []⟩).1 = s' at *
        obtain ⟨obj, hobj, he⟩ := List.map_eq_singleton_iff.mp hadded
        have hid : obj.id = S.stub.nextObjId := congrArg Prod.fst he
        rw [findModuleByID, hobj, List.find?_cons, decide_eq_true hid]
        dsimp only
        exact List.eraseP_cons_of_pos (p := fun x : PyConnectObject => decide (x.id = S.stub.nextObjId))
          (decide_eq_true hid)
      · dsimp only [act]
        rw [nextObjId_deleteModuleByID, hstub, hmoved, hnext]
        push_cast
        rfl

/-- Whatever has come and gone before, a new name is registered exactly when
less than 255 ids have been given away and Python takes the name. -/
theorem registers_iff (host : Host) (pow : Bool) (builtins : PyDict) (serverID : Int) (S : Session)
    (h : Run host pow builtins serverID S) (data name : List UInt8)
    (cAddr : SockAddr) (hd : Declares S.stub data name) :
    Registers host S.stub data cAddr name ↔ S.assigned.length < 255 ∧ validUtf8 name = true := by
  have hcount := run_counts h
  obtain ⟨desc, options, hstub, heffects, -⟩ :=
    processMessage_declared host cAddr hd.declared hd.unknown
  rw [Registers, hstub, heffects]
  constructor
  · rintro ⟨hlives, id, -, hassigned⟩
    by_cases hroom : S.stub.nextObjId > 0xff
    · rw [addNewModule_idle desc options cAddr (.inr hroom)] at hassigned
      cases hassigned
    · have hc : Creates S.stub name := ⟨hd.unknown, hd.named, by omega⟩
      exact ⟨by omega, hlives name hd.declared hc⟩
  · rintro ⟨hfew, hutf⟩
    have hc : Creates S.stub name := ⟨hd.unknown, hd.named, by omega⟩
    obtain ⟨hadded, -, hsent⟩ :=
      addNewModule_creates hc hutf (length_of_declaredName hd.declared) desc options cAddr
    refine ⟨fun name' hname' _ => ?_, S.stub.nextObjId, hadded, ?_⟩
    · rw [← Option.some.inj (hd.declared.symm.trans hname')]
      exact hutf
    · rw [hsent]
      exact List.mem_cons_of_mem _ (List.mem_cons_of_mem _ (List.mem_singleton_self _))

/-- After one module that has come and gone, the same one gets in. -/
theorem registers_iff_again : ∃ S, Run .little false [] 5 S ∧ S.assigned.length = 1 ∧
    Registers .little S.stub declaration ⟨false, 0, []⟩ [97] := by
  obtain ⟨S, hrun, hmodules, hnext⟩ := run_again 1 (by decide)
  have hassigned : S.assigned.length = 1 := by
    have hcount := run_counts hrun
    omega
  have hnew : findModuleByName S.stub [97] = none := by
    rw [findModuleByName, hmodules]
    rfl
  refine ⟨S, hrun, hassigned, (registers_iff .little false [] 5 S hrun declaration [97] ⟨false, 0, []⟩
    ⟨by decide, by decide, hnew, by rw [hmodules]; decide⟩).mpr ⟨?_, by decide⟩⟩
  rw [hassigned]
  decide

/-- After 255 modules that have come and gone, no module gets in again. -/
theorem not_registers_worn :
    ¬ ∀ (S : Session), Run .little false [] 5 S →
      ∀ (data name : List UInt8) (cAddr : SockAddr), Declares S.stub data name →
        validUtf8 name = true → Registers .little S.stub data cAddr name := by
  intro h
  obtain ⟨S, hrun, hmodules, hnext⟩ := run_again 255 (le_refl _)
  have hname : declaredName declaration = some [97] := by decide
  have hnew : findModuleByName S.stub [97] = none := by
    rw [findModuleByName, hmodules]
    rfl
  have hd : Declares S.stub declaration [97] :=
    ⟨hname, by decide, hnew, by rw [hmodules]; decide⟩
  obtain ⟨-, id, -, hassigned⟩ := h S hrun declaration [97] ⟨false, 0, []⟩ hd (by decide)
  obtain ⟨desc, options, -, heffects, -⟩ :=
    processMessage_declared .little ⟨false, 0, []⟩ hname hnew
  rw [heffects, addNewModule_idle desc options _ (.inr (by omega))] at hassigned
  cases hassigned

end PyConnect.Registration

import PyConnect.Disconnection
import PyConnect.Registration

namespace PyConnect.DeclareDatagram

open Decoding Common ObjComm Stub StubInput CommLayer Disconnection ModuleTable Registration Maps
open NetComm (verifyNegotiationMsg restoreMessage opensTalker)
open Handshake hiding declaredName

variable {L L' : PyConnectNetComm PyConnectStub} {host : Values.Host}
  {decrypt : List UInt8 → Option (List UInt8)} {b : Wrapper.Build} {o : Opened} {cAddr : SockAddr}
  {message name : List UInt8}

/-- The module is registered behind the others, its id leads to the connection
made for the datagram, and that connection is in the list. -/
structure Accepted (L L' : PyConnectNetComm PyConnectStub) (talker : Option Opened)
    (name : List UInt8) : Prop where
  connected : ∃ o ∈ talker, ∃ client ∈ L'.clientFDList, client.fd = o.fd
  registered : ∃ o ∈ talker, ∃ id : Int,
    L'.program.modules.map entry = L.program.modules.map entry ++ [(id, name)] ∧
      L'.comm.objCommMap[id]? = some o.fd

structure Refused (L L' : PyConnectNetComm PyConnectStub) : Prop where
  clients : L'.clientFDList = L.clientFDList
  channels : L'.comm.objCommMap = L.comm.objCommMap
  modules : L'.program.modules = L.program.modules

/-- A datagram with a MODULE_DECLARE is handled: it decrypts to a message that
ends as it should and declares a module in front of the port, a connection can
be made or not, and the process lives. The counter of the ids starts at 1. -/
structure Handles (b : Wrapper.Build) (host : Values.Host) (decrypt : List UInt8 → Option (List UInt8))
    (L L' : PyConnectNetComm PyConnectStub) (talker : Option Opened) (cAddr : SockAddr)
    (recBuffer name : List UInt8) : Prop where
  message : ∃ message ∈ decrypt recBuffer, verifyNegotiationMsg message = some .moduleDeclare ∧
    declaredName (restoreMessage message) = some name ∧
    Survives L.program (.receive (restoreMessage message) cAddr)
  counter : 1 ≤ L.program.nextObjId
  unused : ∀ o ∈ talker, Unused L o.fd
  processed : ∃ results, processUDPInput (processor b host decrypt .server) L talker cAddr recBuffer =
    some (L', results)

/-- Either there is no connection to make, or the name is known and the
descriptor free of ids, or there is a name and an id left for it. -/
def Settled (L : PyConnectNetComm PyConnectStub) (talker : Option Opened) (name : List UInt8) : Prop :=
  ∀ o ∈ talker,
    if (findModuleByName L.program name).isSome then ∀ i : Int, L.comm.objCommMap[i]? ≠ some o.fd
    else name ≠ [] ∧ L.program.nextObjId ≤ 255

theorem processMessage_known (host : Values.Host) (cAddr : SockAddr) {s : PyConnectStub} {data : List UInt8}
    (hname : declaredName data = some name) (hknown : (findModuleByName s name).isSome) :
    (processMessage host s data cAddr).stub = s ∧
      (processMessage host s data cAddr).effects = [] ∧
      (processMessage host s data cAddr).result = .toShutdown := by
  obtain ⟨x, rest, rfl, htype, rfl⟩ := declaredName_cons hname
  obtain ⟨obj, hobj⟩ := Option.isSome_iff_exists.mp hknown
  have h0 : msgTypeOf x ≠ 0 := fun h0 => by
    rw [h0] at htype
    cases htype
  rw [processMessage, byte_cons]
  dsimp only
  rw [if_neg h0, if_pos htype, declareInput, moduleDeclare, bind_apply, bind_apply, hobj]
  exact ⟨rfl, rfl, rfl⟩

theorem processor_declared (s : PyConnectStub) (hname : declaredName message = some name) :
    (processor b host decrypt .server).processInput s message cAddr true =
      stubReaction (processMessage host s message cAddr) := by
  obtain ⟨x, rest, rfl, -, -⟩ := declaredName_cons hname
  rfl

theorem not_mem_eraseP_new (hunused : Unused L o.fd) (client : ClientFD) (hfd : client.fd = o.fd) :
    (L.clientFDList ++ [client]).eraseP (·.fd = o.fd) = L.clientFDList := by
  rw [List.eraseP_append_right _ fun x hx => by simpa using hunused.2 x hx]
  rw [List.eraseP_cons_of_pos (by simpa using hfd), List.append_nil]

theorem channelShutdown_map_iff (L : PyConnectNetComm PyConnectStub)
    (P : Processor PyConnectStub) (fd : Int) :
    (channelShutdown P L fd false).comm.objCommMap = L.comm.objCommMap ↔
      ∀ i : Int, L.comm.objCommMap[i]? ≠ some fd := by
  rw [channelShutdown, objCommChannelShutdown]
  cases hfind : findMapping L.comm fd with
  | none => exact iff_of_true rfl (findMapping_none hfind)
  | some id =>
      have hid := findMapping_some hfind
      refine iff_of_false (fun h => ?_) fun h => h id hid
      dsimp only at h
      rw [← h, get_erase, if_pos rfl] at hid
      cases hid

theorem program_channelShutdown (L : PyConnectNetComm PyConnectStub) (P : Processor PyConnectStub)
    (fd : Int) : (channelShutdown P L fd false).program = L.program := by
  rw [channelShutdown, objCommChannelShutdown]
  cases findMapping L.comm fd with
  | none => rfl
  | some id => rfl

theorem talkerInput_reaction {P : Processor PyConnectStub} {r : NetComm.Reaction PyConnectStub}
    (hr : P.processInput L.program message cAddr true = some r) :
    talkerInput P L cAddr message =
      let L₁ := r.dispatches.foldl (fun L x => dataPacketSender P L x.1 x.2) { L with program := r.program }
      if r.result = .toShutdown then
        let (comm, fd) := getLastUsedCommChannel L₁.comm
        some (destroyCurrentClient (channelShutdown P { L₁ with comm := comm } fd false) fd, r.result)
      else some (L₁, r.result) := by
  rw [talkerInput, input, hr]
  rfl

theorem talker_known (hunused : Unused L o.fd) (hname : declaredName message = some name)
    (hknown : (findModuleByName L.program name).isSome) {result : MesgProcessResult}
    (h : talkerInput (processor b host decrypt .server) (addFdToClientList L o cAddr) cAddr message =
      some (L', result)) :
    L'.clientFDList = L.clientFDList ∧ L'.program = L.program ∧
      (L'.comm.objCommMap = L.comm.objCommMap ↔ ∀ i : Int, L.comm.objCommMap[i]? ≠ some o.fd) := by
  obtain ⟨hstub, heffects, hresult⟩ := processMessage_known host cAddr hname hknown
  have hreaction : (processor b host decrypt .server).processInput
      (addFdToClientList L o cAddr).program message cAddr true = some ⟨L.program, .toShutdown, []⟩ := by
    refine (processor_declared L.program hname).trans ?_
    rw [stubReaction, heffects, hstub, hresult]
    rfl
  rw [talkerInput_reaction hreaction] at h
  obtain ⟨rfl, -⟩ := Prod.mk.inj (Option.some.inj h)
  refine ⟨?_, program_channelShutdown _ _ _, channelShutdown_map_iff _ _ _⟩
  exact not_mem_eraseP_new hunused _ rfl

theorem talker_idle (hname : declaredName message = some name)
    (hnew : findModuleByName L.program name = none) (hidle : name = [] ∨ L.program.nextObjId > 0xff)
    {result : MesgProcessResult}
    (h : talkerInput (processor b host decrypt .server) (addFdToClientList L o cAddr) cAddr message =
      some (L', result)) :
    L'.clientFDList = (addFdToClientList L o cAddr).clientFDList ∧ L'.program = L.program := by
  obtain ⟨desc, options, hstub, heffects, hresult⟩ := processMessage_declared host cAddr hname hnew
  rw [addNewModule_idle desc options cAddr hidle] at hstub heffects
  have hreaction : (processor b host decrypt .server).processInput
      (addFdToClientList L o cAddr).program message cAddr true = some ⟨L.program, .processedOk, []⟩ := by
    refine (processor_declared L.program hname).trans ?_
    rw [stubReaction, heffects, hstub, hresult]
    rfl
  rw [talkerInput_reaction hreaction] at h
  obtain ⟨rfl, -⟩ := Prod.mk.inj (Option.some.inj h)
  exact ⟨rfl, rfl⟩

theorem clientDataSend_assign {P : Processor PyConnectStub} (hP : P.side = .server)
    (L : PyConnectNetComm PyConnectStub) (serverID : Int) (name : List UInt8) (id : Int) :
    clientDataSend P L (assignData serverID name id) =
      if L.comm.activeCommChannel = invalidSocket then
        { L with comm := ⟨L.comm.objCommMap, invalidSocket⟩ }
      else { L with
        comm := ⟨L.comm.objCommMap.insert (toByte id).toNat L.comm.activeCommChannel, invalidSocket⟩
        written := L.written ++ [(L.comm.activeCommChannel, assignData serverID name id)] } := by
  obtain ⟨-, htype⟩ := StubMessage.msgType_header .moduleAssignId serverID
  have hmaps : mapsChannel P.side (PyConnectMsg.ofCode (msgTypeOf
      ((assignData serverID name id).getD 0 0))) = true := by
    rw [hP, assignData, List.getD_cons_zero, htype]
    rfl
  have hid : objID P.side (assignData serverID name id) = (toByte id).toNat := by
    rw [hP]
    rfl
  rw [clientDataSend, findOrAddCommChanByMsgID, if_pos hmaps, getLastUsedCommChannel]
  dsimp only
  by_cases hactive : L.comm.activeCommChannel = invalidSocket
  · rw [if_pos hactive, if_neg (not_not.mpr hactive)]
    exact if_pos hactive
  · rw [if_neg hactive, if_pos hactive, hid]
    exact if_neg hactive

theorem dataPacketSender_assign {P : Processor PyConnectStub} (hP : P.side = .server)
    (L : PyConnectNetComm PyConnectStub) (hactive : L.comm.activeCommChannel ≠ invalidSocket)
    (name : List UInt8) (id : Int) :
    (dataPacketSender P L (assignData L.program.serverID name id) false).comm.objCommMap =
      L.comm.objCommMap.insert (toByte id).toNat L.comm.activeCommChannel := by
  rw [dataPacketSender, if_neg Bool.false_ne_true, clientDataSend_assign hP, if_neg hactive]

theorem talker_creates (hunused : Unused L o.fd) (hname : declaredName message = some name)
    (hc : Creates L.program name) (hutf : Values.validUtf8 name = true) {result : MesgProcessResult}
    (h : talkerInput (processor b host decrypt .server) (addFdToClientList L o cAddr) cAddr message =
      some (L', result)) :
    L'.clientFDList = (addFdToClientList L o cAddr).clientFDList ∧
      L'.program.modules.map entry = L.program.modules.map entry ++ [(L.program.nextObjId, name)] ∧
      L'.comm.objCommMap = L.comm.objCommMap.insert (toByte L.program.nextObjId).toNat o.fd := by
  obtain ⟨desc, options, hstub, heffects, hresult⟩ :=
    processMessage_declared host cAddr hname hc.unknown
  obtain ⟨hmodules, -, hsent⟩ :=
    addNewModule_creates hc hutf (length_of_declaredName hname) desc options cAddr
  have hreaction : (processor b host decrypt .server).processInput
      (addFdToClientList L o cAddr).program message cAddr true =
        some ⟨(addNewModule L.program name desc options cAddr).1, .processedOk,
          [(assignData L.program.serverID name L.program.nextObjId, false)]⟩ := by
    refine (processor_declared L.program hname).trans ?_
    rw [stubReaction, heffects, hsent, hstub, hresult]
    rfl
  have hserver : (addNewModule L.program name desc options cAddr).1.serverID = L.program.serverID := by
    rw [addNewModule_eq desc options cAddr hc hutf]
  have hfd : o.fd ≠ invalidSocket := by
    have := hunused.1
    rw [invalidSocket]
    omega
  have hmap := dataPacketSender_assign (P := processor b host decrypt .server) rfl
    { addFdToClientList L o cAddr with program := (addNewModule L.program name desc options cAddr).1 }
    hfd name L.program.nextObjId
  rw [talkerInput_reaction hreaction] at h
  obtain ⟨rfl, -⟩ := Prod.mk.inj (Option.some.inj h)
  dsimp only [List.foldl_cons, List.foldl_nil]
  rw [clientFDList_dataPacketSender, program_dataPacketSender, hmodules]
  dsimp only at hmap
  rw [hserver] at hmap
  exact ⟨rfl, rfl, hmap⟩

theorem processUDPInput_declare {talker : Option Opened} {recBuffer : List UInt8}
    {results : List MesgProcessResult} (hdec : decrypt recBuffer = some message)
    (htype : verifyNegotiationMsg message = some .moduleDeclare)
    (h : processUDPInput (processor b host decrypt .server) L talker cAddr recBuffer =
      some (L', results)) :
    match talker with
    | none => L' = L
    | some o => ∃ cAddr result, talkerInput (processor b host decrypt .server)
        (addFdToClientList L o cAddr) cAddr (restoreMessage message) = some (L', result) := by
  have hdec' : (processor b host decrypt .server).decrypt recBuffer = some message := hdec
  rw [processUDPInput, hdec'] at h
  dsimp only at h
  have hopens : opensTalker (processor b host decrypt .server).side (some .moduleDeclare) = true := rfl
  rw [htype, if_neg (by simp), if_pos hopens] at h
  split at h
  · cases h
  · cases talker with
    | none => exact (Prod.mk.inj (Option.some.inj h)).1.symm
    | some o =>
        obtain ⟨r, hr, he⟩ := Option.map_eq_some_iff.mp h
        obtain ⟨rfl, -⟩ := Prod.mk.inj he
        exact ⟨_, _, hr⟩

/-- A declaration is all or nothing unless an id was left on the descriptor of
a refused one, or the server has no name or no id for the module: it then keeps
the connection and nothing else. -/
theorem allOrNothing_iff (b : Wrapper.Build) (host : Values.Host)
    (decrypt : List UInt8 → Option (List UInt8)) (L L' : PyConnectNetComm PyConnectStub)
    (talker : Option Opened) (cAddr : SockAddr) (recBuffer name : List UInt8)
    (h : Handles b host decrypt L L' talker cAddr recBuffer name) :
    (Accepted L L' talker name ∨ Refused L L') ↔ Settled L talker name := by
  obtain ⟨⟨message, hdec, htype, hname, hlives⟩, hcounter, hunused, results, hp⟩ := h
  have hcase := processUDPInput_declare hdec htype hp
  cases talker with
  | none =>
      obtain rfl : L' = L := hcase
      exact iff_of_true (.inr ⟨rfl, rfl, rfl⟩) fun o ho => by cases ho
  | some o =>
      obtain ⟨cAddr, result, htalker⟩ := hcase
      have hfree := hunused o rfl
      have hlonger : (addFdToClientList L o cAddr).clientFDList ≠ L.clientFDList := by
        intro he
        have hlen := congrArg List.length he
        simp [addFdToClientList] at hlen
      have hsettled : Settled L (some o) name ↔
          if (findModuleByName L.program name).isSome then
            ∀ i : Int, L.comm.objCommMap[i]? ≠ some o.fd
          else name ≠ [] ∧ L.program.nextObjId ≤ 255 :=
        ⟨fun h => h o rfl, fun h o' ho => by obtain rfl := Option.some.inj ho; exact h⟩
      have hnotAdded : L'.program.modules.map entry = L.program.modules.map entry →
          ¬ Accepted L L' (some o) name := by
        rintro he ⟨-, -, -, id, hadded, -⟩
        have hlen := congrArg List.length (he.symm.trans hadded)
        simp at hlen
      rw [hsettled]
      by_cases hknown : (findModuleByName L.program name).isSome
      · obtain ⟨hclients, hprogram, hmap⟩ := talker_known hfree hname hknown htalker
        rw [if_pos hknown, ← hmap, or_iff_right (hnotAdded (by rw [hprogram]))]
        exact ⟨fun h => h.channels, fun h => ⟨hclients, h, by rw [hprogram]⟩⟩
      · rw [if_neg hknown]
        have hnew : findModuleByName L.program name = none := by simpa using hknown
        by_cases hidle : name = [] ∨ L.program.nextObjId > 0xff
        · obtain ⟨hclients, hprogram⟩ := talker_idle hname hnew hidle htalker
          refine iff_of_false ?_ ?_
          · rw [or_iff_right (hnotAdded (by rw [hprogram]))]
            exact fun h => hlonger (hclients.symm.trans h.clients)
          · rintro ⟨hne, hle⟩
            rcases hidle with hidle | hidle
            · exact hne hidle
            · omega
        · rw [not_or, not_lt] at hidle
          have hc : Creates L.program name := ⟨hnew, hidle.1, hidle.2⟩
          obtain ⟨hclients, hmodules, hmap⟩ :=
            talker_creates hfree hname hc (hlives name hname hc) htalker
          have hid : ((toByte L.program.nextObjId).toNat : Int) = L.program.nextObjId := by
            rw [toByte_toNat]
            omega
          refine iff_of_true (.inl ⟨⟨o, rfl, ⟨o.fd, cAddr, Reassembly.addFdToClientList o.bufferedData⟩,
            ?_, rfl⟩, o, rfl, L.program.nextObjId, hmodules, ?_⟩) hidle
          · rw [hclients]
            exact List.mem_append_right _ (List.mem_singleton_self _)
          · rw [hmap, get_insert, if_pos hid.symm]

def serving (serverID : Int) : PyConnectNetComm PyConnectStub :=
  ⟨ObjComm.init, [], ⟨false, [], 1, [], serverID⟩, []⟩

def declaring : List UInt8 :=
  header .moduleDeclare 5 :: 0 :: (packString [97] false ++ packString [] true ++ [1, 2, msgEnd])

def talking : Opened := ⟨7, default⟩

def served : PyConnectNetComm PyConnectStub where
  comm := ⟨ObjComm.init.objCommMap.insert 1 7, invalidSocket⟩
  clientFDList := (addFdToClientList (serving 5) talking ⟨true, 513, []⟩).clientFDList
  program := (addNewModule (serving 5).program [97] [] 0 ⟨true, 513, []⟩).1
  written := [(7, assignData 5 [97] 1)]

theorem allOrNothing_iff_registered : Accepted (serving 5) served (some talking) [97] := by
  have hname : declaredName (restoreMessage declaring) = some [97] := by decide
  have hhandles : Handles ⟨.little, true, true⟩ .little some (serving 5) served (some talking)
      ⟨true, 0, []⟩ declaring [97] := by
    refine ⟨⟨_, rfl, by decide, hname, fun name hn _ => ?_⟩, by decide, fun o ho => ?_, _, rfl⟩
    · rw [← Option.some.inj (hname.symm.trans hn)]
      decide
    · obtain rfl := Option.some.inj ho
      exact ⟨by decide, by decide⟩
  have hsettled : Settled (serving 5) (some talking) [97] := by
    intro o ho
    exact ⟨by decide, by decide⟩
  refine ((allOrNothing_iff _ _ _ _ _ _ _ _ _ hhandles).mpr hsettled).resolve_right fun h => ?_
  exact absurd (congrArg List.length h.clients) (by decide)

/-- A module that declares itself without a name keeps its connection. -/
theorem not_allOrNothing_nameless :
    ¬ ∀ (L L' : PyConnectNetComm PyConnectStub) (talker : Option Opened) (cAddr : SockAddr)
      (recBuffer name : List UInt8),
      Handles ⟨.little, true, true⟩ .little some L L' talker cAddr recBuffer name →
      Accepted L L' talker name ∨ Refused L L' := by
  intro h
  have hname : declaredName (restoreMessage (header .moduleDeclare 5 :: 0 ::
    (packString [] false ++ packString [] true ++ [1, 2, msgEnd]))) = some [] := by decide
  have hor := h (serving 5) (addFdToClientList (serving 5) ⟨7, default⟩ ⟨true, 513, []⟩)
    (some ⟨7, default⟩) ⟨true, 0, []⟩ (header .moduleDeclare 5 :: 0 ::
      (packString [] false ++ packString [] true ++ [1, 2, msgEnd])) []
    ⟨⟨_, rfl, by decide, hname, fun name hn hc => by
      rw [← Option.some.inj (hname.symm.trans hn)] at hc
      exact absurd rfl hc.named⟩, by decide, fun o ho => by
        obtain rfl := Option.some.inj ho
        exact ⟨by decide, fun client hmem => absurd hmem List.not_mem_nil⟩, [.processedOk], rfl⟩
  rcases hor with ⟨-, -, -, id, hadded, -⟩ | hrefused
  · exact absurd hadded (by simp [serving, CommLayer.addFdToClientList])
  · exact absurd (congrArg List.length hrefused.clients) (by decide)

end PyConnect.DeclareDatagram

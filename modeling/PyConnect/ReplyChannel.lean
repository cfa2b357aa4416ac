import PyConnect.DeclareDatagram
import PyConnect.Runs

namespace PyConnect.ReplyChannel

open Decoding Common ObjComm Values Stub StubInput StubMessage CommLayer ModuleTable Registration Runs
open NetComm (Reaction verifyNegotiationMsg restoreMessage opensTalker)
open Reassembly (processRead deliveries)
open Handshake hiding declaredName

/-- What the I/O thread is in the middle of. `channel` is the connection that
the messages have come from; a message of another server has none. `rest` are
the messages that are still to be processed, `sending` is what the last one has
made the server send, and `registered` the module that it has registered.
`touched` remembers that the last used channel has been taken or set again since
the first message was received; the code does not know. -/
structure Processing where
  channel : Option Int
  cAddr : SockAddr
  skipdecrypt : Bool
  rest : List (List UInt8)
  sending : List (List UInt8 × Bool)
  registered : Option (Int × List UInt8)
  result : MesgProcessResult
  touched : Bool

/-- The server with its two threads. `connecting` tells that PyConnect.connect
has made its connection and has not sent the discovery yet. -/
structure System where
  layer : PyConnectNetComm PyConnectStub
  io : Option Processing
  connecting : Bool

/-- What the threads do between two locks. The I/O thread's are up to `finish`,
the Python thread's are the last two. -/
inductive Event
  | read (fd : Int) (chunk : List UInt8)
  | datagram (talker : Option Opened) (cAddr : SockAddr) (recBuffer : List UInt8)
  | accept (o : Opened) (cAddr : SockAddr)
  | close (fd : Int)
  | processInput
  | clientDataSend
  | finish
  | connect (o : Opened) (cAddr : SockAddr)
  | sendDiscoveryMsg

structure Program where
  host : Host
  decrypt : List UInt8 → Option (List UInt8)

def Program.processor (P : Program) : Processor PyConnectStub where
  side := .server
  bigEndian := P.host.bigEndian
  decrypt := P.decrypt
  processInput s recData cAddr skipdecrypt :=
    stubReaction (StubInput.processInput P.host P.decrypt s recData cAddr skipdecrypt)

/-- The beginning of a round on messages that have been received. -/
def received (channel : Option Int) (cAddr : SockAddr) (skipdecrypt : Bool)
    (messages : List (List UInt8)) : Processing where
  channel := channel
  cAddr := cAddr
  skipdecrypt := skipdecrypt
  rest := messages
  sending := []
  registered := none
  result := .processedOk
  touched := false

def Processing.touch (p : Processing) : Processing := { p with touched := true }

/-- A read of a connection, up to where its first message is processed. -/
def read (P : Program) (L : PyConnectNetComm PyConnectStub) (fd : Int) (chunk : List UInt8) :
    Option (PyConnectNetComm PyConnectStub × Option Processing) := do
  let client ← L.clientFDList.find? (·.fd = fd)
  let (its, info) ← processRead P.host.bigEndian client.dataInfo chunk
  let clientFDList := L.clientFDList.map fun x => if x.fd = fd then { x with dataInfo := info } else x
  some ({ L with comm := setLastUsedCommChannel L.comm fd, clientFDList := clientFDList },
    some (received (some fd) client.cAddr false (deliveries its)))

/-- processUDPInput, up to where the message is processed. -/
def datagram (P : Program) (L : PyConnectNetComm PyConnectStub) (talker : Option Opened) (cAddr : SockAddr)
    (recBuffer : List UInt8) : Option (PyConnectNetComm PyConnectStub × Option Processing) :=
  match P.decrypt recBuffer with
  | none => some (L, none)
  | some message =>
      if verifyNegotiationMsg message = some .peerServerMsg then
        some (L, some (received none cAddr false [List.replicate message.length 0]))
      else if opensTalker .server (verifyNegotiationMsg message) then
        if message.length < 3 then none
        else match talker with
          | none => some (L, none)
          | some o =>
              let cAddr := talkerAddr P.host.bigEndian cAddr message
              some (CommLayer.addFdToClientList L o cAddr,
                some (received (some o.fd) cAddr true [restoreMessage message]))
      else some (L, none)

/-- processInput on the next message. The module that it registers is behind
the others. -/
def processInput (P : Program) (L : PyConnectNetComm PyConnectStub) (p : Processing) :
    Option (PyConnectNetComm PyConnectStub × Processing) :=
  match p.sending, p.rest with
  | [], recData :: rest =>
      (P.processor.processInput L.program recData p.cAddr p.skipdecrypt).map fun r =>
        ({ L with program := r.program },
          { p with
            rest := rest
            sending := r.dispatches
            registered := (r.program.modules.map entry)[L.program.modules.length]?
            result := r.result })
  | _, _ => none

/-- The end of a round. A datagram's connection goes where the message wants it
to; it is looked up as the last used one. -/
def finish (P : Program) (L : PyConnectNetComm PyConnectStub) (p : Processing) :
    Option (PyConnectNetComm PyConnectStub) :=
  if p.sending = [] ∧ p.rest = [] then
    if p.skipdecrypt ∧ p.result = .toShutdown then
      let (comm, fd) := getLastUsedCommChannel L.comm
      some (destroyCurrentClient (channelShutdown P.processor { L with comm := comm } fd false) fd)
    else some L
  else none

def sendNext (P : Program) (L : PyConnectNetComm PyConnectStub) (p : Processing) :
    Option (PyConnectNetComm PyConnectStub × Processing) :=
  match p.sending with
  | [] => none
  | x :: sending =>
      some (dataPacketSender P.processor L x.1 x.2, { p.touch with sending := sending, registered := none })

def step (P : Program) (S : System) : Event → Option System
  | .read fd chunk =>
      if S.io.isSome ∨ chunk = [] then none
      else (read P S.layer fd chunk).map fun x => { S with layer := x.1, io := x.2 }
  | .datagram talker cAddr recBuffer =>
      if S.io.isSome ∨ ¬ ∀ o ∈ talker, Unused S.layer o.fd then none
      else (datagram P S.layer talker cAddr recBuffer).map fun x => { S with layer := x.1, io := x.2 }
  | .accept o cAddr =>
      if S.io.isSome ∨ ¬ Unused S.layer o.fd then none
      else some { S with layer := CommLayer.addFdToClientList S.layer o cAddr }
  | .close fd =>
      if S.io.isSome ∨ (S.layer.clientFDList.find? (·.fd = fd)).isNone then none
      else some { S with layer := socketClosed P.processor S.layer fd }
  | .processInput =>
      (S.io.bind (processInput P S.layer)).map fun x => { S with layer := x.1, io := some x.2 }
  | .clientDataSend =>
      (S.io.bind (sendNext P S.layer)).map fun x => { S with layer := x.1, io := some x.2 }
  | .finish => (S.io.bind (finish P S.layer)).map fun L => { S with layer := L, io := none }
  | .connect o cAddr =>
      if S.connecting ∨ ¬ Unused S.layer o.fd then none
      else some ⟨CommLayer.addFdToClientList S.layer o cAddr, S.io.map Processing.touch, true⟩
  | .sendDiscoveryMsg =>
      if S.connecting then
        some ⟨clientDataSend P.processor S.layer (discoveryData S.layer.program.serverID),
          S.io.map Processing.touch, false⟩
      else none

def start (pow : Bool) (builtins : PyDict) (serverID : Int) : System where
  layer := ⟨ObjComm.init, [], (Session.start pow builtins serverID).stub, []⟩
  io := none
  connecting := false

/-- An assignment that is sent is written to the connection that the
declaration came from, and that is where its id leads to. -/
def Answered (S : System) (e : Event) (S' : System) : Prop :=
  e = .clientDataSend → ∀ p ∈ S.io, ∀ c ∈ p.channel, ∀ x ∈ p.registered,
    S'.layer.written =
        S.layer.written ++ [(c, assignData S.layer.program.serverID x.2 x.1)] ∧
      S'.layer.comm.objCommMap[x.1]? = some c

/-- When an assignment is sent, the last used channel has been left alone since
its declaration was received. -/
def Steady (S : System) (e : Event) (_ : System) : Prop :=
  e = .clientDataSend → ∀ p ∈ S.io, p.channel.isSome → p.registered.isSome → p.touched = false

structure Held (L : PyConnectNetComm PyConnectStub) (p : Processing) : Prop where
  silent : p.registered = none → p.sending = []
  answers : ∀ x ∈ p.registered, (1 ≤ x.1 ∧ x.1 ≤ 255) ∧
    p.sending = [(assignData L.program.serverID x.2 x.1, false)]
  channel : ∀ c ∈ p.channel, (∃ client ∈ L.clientFDList, client.fd = c) ∧
    (L.comm.activeCommChannel = c ↔ p.touched = false)

structure Inv (S : System) : Prop where
  fds : ∀ client ∈ S.layer.clientFDList, 0 ≤ client.fd
  counter : 1 ≤ S.layer.program.nextObjId
  held : ∀ p ∈ S.io, Held S.layer p

variable {P : Program} {S S' : System} {L L' : PyConnectNetComm PyConnectStub} {p p' : Processing}
  {s : PyConnectStub} {message : List UInt8} {cAddr : SockAddr} {o : Opened}

/-- What processInput makes the server send: nothing, or the id of the module
that it has registered. -/
inductive Sends (s : PyConnectStub) : PyConnectStub → List (List UInt8 × Bool) → Prop
  | nothing (stub : PyConnectStub) : stub.nextObjId = s.nextObjId → stub.serverID = s.serverID →
      stub.modules.length ≤ s.modules.length → Sends s stub []
  | assignment (stub : PyConnectStub) (name : List UInt8) : s.nextObjId ≤ 255 →
      stub.nextObjId = s.nextObjId + 1 → stub.serverID = s.serverID →
      stub.modules.map entry = s.modules.map entry ++ [(s.nextObjId, name)] →
      Sends s stub [(assignData s.serverID name s.nextObjId, false)]

theorem sends_deleteModuleByID (s : PyConnectStub) (id : Int) :
    Sends s (deleteModuleByID s id).1 (stubDispatches (deleteModuleByID s id).2) := by
  rw [Handshake.stubDispatches_deleteModuleByID, deleteModuleByID]
  cases findModuleByID s id with
  | none => exact .nothing s rfl rfl le_rfl
  | some obj => exact .nothing _ rfl rfl (List.eraseP_sublist.length_le)

theorem sends_declareInput (s : PyConnectStub) (cAddr : SockAddr) (c : Cursor) :
    Sends s (declareInput s cAddr c).stub (stubDispatches (declareInput s cAddr c).effects) := by
  rcases declareInput_cases s cAddr c with
    ⟨hstub, heffects⟩ | ⟨desc, options, hcreates, hutf, hstub, heffects⟩
  · rw [hstub]
    rcases heffects with heffects | heffects <;> rw [heffects] <;> exact .nothing s rfl rfl le_rfl
  · obtain ⟨hmodules, hnext, hsent⟩ :=
      addNewModule_creates hcreates hutf (unpackString_named (byte c).2).2 desc options cAddr
    rw [hstub, heffects, hsent]
    refine .assignment _ _ hcreates.room hnext ?_ hmodules
    rw [addNewModule]
    split_ifs <;> rfl

theorem sends_objectInput (host : Host) (s : PyConnectStub) (id : Int) (t : Option PyConnectMsg)
    (c : Cursor) :
    Sends s (objectInput host s id t c).stub (stubDispatches (objectInput host s id t c).effects) := by
  rw [Handshake.stubDispatches_objectInput, objectInput]
  cases findModuleByID s id with
  | none => exact .nothing s rfl rfl le_rfl
  | some obj => exact .nothing _ rfl rfl (List.length_modify ..).le

theorem sends_processMessage (host : Host) (s : PyConnectStub) (message : List UInt8)
    (cAddr : SockAddr) : Sends s (processMessage host s message cAddr).stub
      (stubDispatches (processMessage host s message cAddr).effects) := by
  refine processMessage_cases host s message cAddr ?unknown ?declare ?shutdown ?peer ?discovery ?object
  case unknown => exact fun _ => .nothing s rfl rfl le_rfl
  case declare => exact fun _ => sends_declareInput s cAddr _
  case shutdown => exact fun _ _ => sends_deleteModuleByID s _
  case peer =>
    intro _
    dsimp only
    rw [peerServerMsg, bind_apply, pure_apply, Handshake.stubDispatches_invoke]
    exact .nothing s rfl rfl le_rfl
  case discovery => exact fun _ => .nothing s rfl rfl le_rfl
  case object => exact fun _ _ c => sends_objectInput host s _ _ c

theorem sends_processInput {recData : List UInt8} {skipdecrypt : Bool} {r : Reaction PyConnectStub}
    (h : P.processor.processInput s recData cAddr skipdecrypt = some r) :
    Sends s r.program r.dispatches := by
  obtain rfl := of_stubReaction h
  dsimp only
  rw [StubInput.processInput_eq]
  cases decrypted P.decrypt recData skipdecrypt with
  | none => exact .nothing s rfl rfl le_rfl
  | some message => exact sends_processMessage P.host s message cAddr

theorem Sends.counter {stub : PyConnectStub} {dispatches : List (List UInt8 × Bool)}
    (h : Sends s stub dispatches) : s.nextObjId ≤ stub.nextObjId := by
  cases h with
  | nothing hnext => exact hnext.ge
  | assignment name hroom hnext => omega

theorem ne_of_unused {c : Int} (hunused : Unused L o.fd)
    (hc : ∃ client ∈ L.clientFDList, client.fd = c) : o.fd ≠ c := by
  obtain ⟨client, hclient, rfl⟩ := hc
  exact (hunused.2 client hclient).symm

theorem fds_addFdToClientList (h : ∀ client ∈ L.clientFDList, 0 ≤ client.fd) (hfd : 0 ≤ o.fd)
    (cAddr : SockAddr) :
    ∀ client ∈ (CommLayer.addFdToClientList L o cAddr).clientFDList, 0 ≤ client.fd := by
  intro client hclient
  rcases List.mem_append.mp hclient with hclient | hclient
  · exact h client hclient
  · rw [List.mem_singleton.mp hclient]
    exact hfd

theorem held_received {c : Int} (skipdecrypt : Bool) (messages : List (List UInt8))
    (hc : ∃ client ∈ L.clientFDList, client.fd = c) (hactive : L.comm.activeCommChannel = c) :
    Held L (received (some c) cAddr skipdecrypt messages) where
  silent _ := rfl
  answers _ hx := absurd hx (Option.not_mem_none _)
  channel c' hc' := by
    obtain rfl := Option.some.inj hc'
    exact ⟨hc, iff_of_true hactive rfl⟩

theorem held_unconnected (messages : List (List UInt8)) :
    Held L (received none cAddr false messages) where
  silent _ := rfl
  answers _ hx := absurd hx (Option.not_mem_none _)
  channel _ hc := absurd hc (Option.not_mem_none _)

theorem inv_read {fd : Int} {chunk : List UInt8} {x : PyConnectNetComm PyConnectStub × Option Processing}
    (h : Inv S) (hr : read P S.layer fd chunk = some x) :
    Inv { S with layer := x.1, io := x.2 } := by
  simp only [read, Option.bind_eq_bind, Option.bind_eq_some_iff, Prod.exists] at hr
  obtain ⟨client, hclient, its, info, -, he⟩ := hr
  obtain rfl := Option.some.inj he
  have hfd : client.fd = fd := by simpa using List.find?_some hclient
  have hmem := List.mem_of_find?_eq_some hclient
  refine ⟨?_, h.counter, ?_⟩
  · intro client' hclient'
    obtain ⟨y, hy, rfl⟩ := List.mem_map.mp hclient'
    split <;> exact h.fds y hy
  · intro p hp
    obtain rfl := Option.some.inj hp
    refine held_received false _ ⟨{ client with dataInfo := info }, ?_, hfd⟩ rfl
    exact List.mem_map.mpr ⟨client, hmem, if_pos hfd⟩

theorem inv_datagram {talker : Option Opened} {recBuffer : List UInt8}
    {x : PyConnectNetComm PyConnectStub × Option Processing} (h : Inv S)
    (hunused : ∀ o ∈ talker, Unused S.layer o.fd)
    (hx : datagram P S.layer talker cAddr recBuffer = some x) :
    Inv { S with layer := x.1, io := x.2 } := by
  have hidle : Inv { S with layer := S.layer, io := none } :=
    ⟨h.fds, h.counter, fun _ hp => absurd hp (Option.not_mem_none _)⟩
  rw [datagram] at hx
  cases hdec : P.decrypt recBuffer with
  | none =>
      rw [hdec] at hx
      obtain rfl := Option.some.inj hx
      exact hidle
  | some message =>
      rw [hdec] at hx
      dsimp only at hx
      by_cases hpeer : verifyNegotiationMsg message = some .peerServerMsg
      · rw [if_pos hpeer] at hx
        obtain rfl := Option.some.inj hx
        refine ⟨h.fds, h.counter, fun p hp => ?_⟩
        obtain rfl := Option.some.inj hp
        exact held_unconnected _
      rw [if_neg hpeer] at hx
      by_cases hopens : opensTalker .server (verifyNegotiationMsg message) = true
      · rw [if_pos hopens] at hx
        by_cases hshort : message.length < 3
        · rw [if_pos hshort] at hx
          cases hx
        rw [if_neg hshort] at hx
        cases talker with
        | none =>
            obtain rfl := Option.some.inj hx
            exact hidle
        | some o =>
            obtain rfl := Option.some.inj hx
            refine ⟨fds_addFdToClientList h.fds (hunused o rfl).1 _, h.counter, fun p hp => ?_⟩
            obtain rfl := Option.some.inj hp
            refine held_received true _ ⟨_, List.mem_append_right _ (List.mem_singleton_self _), rfl⟩ rfl
      · rw [if_neg hopens] at hx
        obtain rfl := Option.some.inj hx
        exact hidle

theorem inv_socketClosed {fd : Int} (h : Inv S) (hio : S.io = none) :
    Inv { S with layer := socketClosed P.processor S.layer fd } := by
  refine ⟨fun client hclient => h.fds client (List.eraseP_sublist.subset hclient), ?_, ?_⟩
  · refine h.counter.trans ?_
    dsimp only [socketClosed, destroyCurrentClient, channelShutdown]
    rw [objCommChannelShutdown]
    cases findMapping S.layer.comm fd with
    | none => exact le_rfl
    | some id =>
        dsimp only
        rw [if_pos rfl]
        cases hr : P.processor.processInput S.layer.program (shutdownMessage P.processor.side id)
            dummyAddr true with
        | none => exact le_rfl
        | some r => exact (sends_processInput hr).counter
  · rw [hio]
    exact fun _ hp => absurd hp (Option.not_mem_none _)

theorem held_sends {stub : PyConnectStub} {dispatches : List (List UInt8 × Bool)}
    (h : Sends L.program stub dispatches) (hcounter : 1 ≤ L.program.nextObjId) (hheld : Held L p)
    (rest : List (List UInt8)) (result : MesgProcessResult) :
    Held { L with program := stub } { p with
      rest := rest
      sending := dispatches
      registered := (stub.modules.map entry)[L.program.modules.length]?
      result := result } := by
  cases h with
  | nothing hnext hserver hlen =>
      have hnone : (stub.modules.map entry)[L.program.modules.length]? = none := by
        rw [List.getElem?_eq_none_iff, List.length_map]
        exact hlen
      refine ⟨fun _ => rfl, fun x hx => ?_, hheld.channel⟩
      rw [Option.mem_def, hnone] at hx
      cases hx
  | assignment name hroom hnext hserver hmodules =>
      have hnew : (stub.modules.map entry)[L.program.modules.length]? =
          some (L.program.nextObjId, name) := by
        rw [hmodules, List.getElem?_append_right (List.length_map ..).le, List.length_map, Nat.sub_self]
        rfl
      refine ⟨fun hnone => ?_, fun x hx => ?_, hheld.channel⟩
      · rw [hnew] at hnone
        cases hnone
      · rw [Option.mem_def, hnew] at hx
        obtain rfl := Option.some.inj hx
        refine ⟨⟨hcounter, hroom⟩, ?_⟩
        dsimp only
        rw [hserver]

theorem inv_processInput {x : PyConnectNetComm PyConnectStub × Processing} (h : Inv S)
    (hio : S.io = some p) (hx : processInput P S.layer p = some x) :
    Inv { S with layer := x.1, io := some x.2 } := by
  rw [processInput] at hx
  split at hx
  next recData rest hsending hrest =>
    obtain ⟨r, hr, rfl⟩ := Option.map_eq_some_iff.mp hx
    have hsends := sends_processInput hr
    refine ⟨h.fds, h.counter.trans hsends.counter, fun p' hp' => ?_⟩
    obtain rfl := Option.some.inj hp'
    exact held_sends hsends h.counter (h.held p hio) rest r.result
  next => cases hx

theorem inv_finish (h : Inv S) (hx : finish P S.layer p = some L) :
    Inv { S with layer := L, io := none } := by
  rw [finish] at hx
  split at hx
  · split at hx
    · obtain rfl := Option.some.inj hx
      refine ⟨fun client hclient => h.fds client (List.eraseP_sublist.subset hclient), ?_,
        fun _ hp => absurd hp (Option.not_mem_none _)⟩
      refine h.counter.trans (le_of_eq ?_)
      exact (congrArg PyConnectStub.nextObjId (DeclareDatagram.program_channelShutdown
        { S.layer with comm := (getLastUsedCommChannel S.layer.comm).1 } P.processor _)).symm
    · obtain rfl := Option.some.inj hx
      exact ⟨h.fds, h.counter, fun _ hp => absurd hp (Option.not_mem_none _)⟩
  · cases hx

/-- The Python thread puts another channel in place of the last used one. -/
theorem held_touch (hheld : Held L p) (hfds : ∀ client ∈ L.clientFDList, 0 ≤ client.fd)
    (hprogram : L'.program = L.program)
    (hlist : ∀ client ∈ L.clientFDList, client ∈ L'.clientFDList)
    (hactive : ∀ c, 0 ≤ c → (∃ client ∈ L.clientFDList, client.fd = c) →
      L'.comm.activeCommChannel ≠ c) : Held L' p.touch where
  silent := hheld.silent
  answers := by
    rw [hprogram]
    exact hheld.answers
  channel c hc := by
    obtain ⟨hopen, -⟩ := hheld.channel c hc
    obtain ⟨client, hclient, hfd⟩ := hopen
    refine ⟨⟨client, hlist client hclient, hfd⟩, iff_of_false ?_ Bool.noConfusion⟩
    exact hactive c (hfd ▸ hfds client hclient) ⟨client, hclient, hfd⟩

theorem clientDataSend_discovery (L : PyConnectNetComm PyConnectStub) (serverID : Int) :
    (clientDataSend P.processor L (discoveryData serverID)).comm.activeCommChannel = invalidSocket ∧
      (clientDataSend P.processor L (discoveryData serverID)).program = L.program ∧
      (clientDataSend P.processor L (discoveryData serverID)).clientFDList = L.clientFDList := by
  have hsend := program_dataPacketSender (P := P.processor) (L := L) (discoveryData serverID) false
  have hlist := clientFDList_dataPacketSender (P := P.processor) (L := L) (discoveryData serverID) false
  obtain ⟨-, htype⟩ := StubMessage.msgType_header .moduleDiscovery serverID
  have hfind : findOrAddCommChanByMsgID P.processor.side L.comm (discoveryData serverID) =
      getLastUsedCommChannel L.comm := by
    have hd : (discoveryData serverID).getD 0 0 = header .moduleDiscovery serverID := rfl
    rw [findOrAddCommChanByMsgID, hd, htype]
    rfl
  refine ⟨?_, hsend, hlist⟩
  rw [clientDataSend, hfind, getLastUsedCommChannel]
  dsimp only
  split <;> rfl

theorem toByte_id {id : Int} (hid : 1 ≤ id ∧ id ≤ 255) : ((toByte id).toNat : Int) = id := by
  rw [toByte_toNat]
  omega

/-- The connection of the declaration gets the assignment exactly when it is
the last used channel. -/
theorem written_assign_iff {c : Int} (hc : 0 ≤ c) {x : Int × List UInt8} (hid : 1 ≤ x.1 ∧ x.1 ≤ 255) :
    (clientDataSend P.processor L (assignData L.program.serverID x.2 x.1)).written =
          L.written ++ [(c, assignData L.program.serverID x.2 x.1)] ∧
        (clientDataSend P.processor L
          (assignData L.program.serverID x.2 x.1)).comm.objCommMap[x.1]? = some c ↔
      L.comm.activeCommChannel = c := by
  rw [DeclareDatagram.clientDataSend_assign rfl]
  by_cases hactive : L.comm.activeCommChannel = invalidSocket
  · rw [if_pos hactive, hactive]
    have hne : invalidSocket ≠ c := by
      rw [invalidSocket]
      omega
    refine iff_of_false (fun h => ?_) hne
    have hlen := congrArg List.length h.1
    simp at hlen
  · rw [if_neg hactive, toByte_id hid]
    constructor
    · intro h
      exact congrArg Prod.fst (List.cons.inj (List.append_cancel_left h.1)).1
    · rintro rfl
      exact ⟨rfl, Std.ExtTreeMap.getElem?_insert_self⟩

theorem sendNext_spec {x : PyConnectNetComm PyConnectStub × Processing} (h : Inv S) (hio : S.io = some p)
    (hx : sendNext P S.layer p = some x) : ∃ y, p.registered = some y ∧ (1 ≤ y.1 ∧ y.1 ≤ 255) ∧
      x = (clientDataSend P.processor S.layer (assignData S.layer.program.serverID y.2 y.1),
        { p.touch with sending := [], registered := none }) := by
  have hheld := h.held p hio
  rw [sendNext] at hx
  cases hsending : p.sending with
  | nil =>
      rw [hsending] at hx
      cases hx
  | cons z sending =>
      rw [hsending] at hx
      obtain rfl := Option.some.inj hx
      obtain ⟨y, hy⟩ : ∃ y, p.registered = some y := by
        rw [← Option.isSome_iff_exists, Option.isSome_iff_ne_none]
        intro hnone
        rw [hheld.silent hnone] at hsending
        cases hsending
      obtain ⟨hid, hanswer⟩ := hheld.answers y hy
      rw [hsending] at hanswer
      obtain ⟨rfl, rfl⟩ := List.cons.inj hanswer
      exact ⟨y, hy, hid, rfl⟩

theorem Inv.of_sent (h : Inv S) (hlist : S'.layer.clientFDList = S.layer.clientFDList)
    (hprogram : S'.layer.program = S.layer.program) (hheld : ∀ p ∈ S'.io, Held S'.layer p) :
    Inv S' := by
  refine ⟨?_, ?_, hheld⟩
  · rw [hlist]
    exact h.fds
  · rw [hprogram]
    exact h.counter

theorem inv_sendNext {y : Int × List UInt8} (h : Inv S) (hio : S.io = some p) :
    Inv { S with
      layer := clientDataSend P.processor S.layer (assignData S.layer.program.serverID y.2 y.1)
      io := some { p.touch with sending := [], registered := none } } := by
  have hlist := clientFDList_dataPacketSender (P := P.processor) (L := S.layer)
    (assignData S.layer.program.serverID y.2 y.1) false
  have hprogram := program_dataPacketSender (P := P.processor) (L := S.layer)
    (assignData S.layer.program.serverID y.2 y.1) false
  have hactive : (clientDataSend P.processor S.layer
      (assignData S.layer.program.serverID y.2 y.1)).comm.activeCommChannel = invalidSocket := by
    rw [DeclareDatagram.clientDataSend_assign rfl]
    split <;> rfl
  rw [dataPacketSender, if_neg Bool.false_ne_true] at hlist hprogram
  refine h.of_sent hlist hprogram fun p' hp' => ?_
  obtain rfl := Option.some.inj hp'
  refine ⟨fun _ => rfl, fun _ hx => absurd hx (Option.not_mem_none _), fun c hc => ?_⟩
  obtain ⟨⟨client, hclient, hfd⟩, -⟩ := (h.held p hio).channel c hc
  have hpos := h.fds client hclient
  dsimp only
  rw [hlist, hactive]
  refine ⟨⟨client, hclient, hfd⟩, iff_of_false ?_ Bool.noConfusion⟩
  rw [invalidSocket]
  omega

theorem answered_iff_steady (h : Inv S) (hs : step P S .clientDataSend = some S') :
    Inv S' ∧ (Answered S .clientDataSend S' ↔ Steady S .clientDataSend S') := by
  obtain ⟨x, hx, rfl⟩ := Option.map_eq_some_iff.mp hs
  obtain ⟨p, hio, hnext⟩ := Option.bind_eq_some_iff.mp hx
  obtain ⟨y, hy, hid, rfl⟩ := sendNext_spec h hio hnext
  refine ⟨inv_sendNext h hio, ?_⟩
  simp only [Answered, Steady, hio, hy, Option.mem_def, Option.some.injEq, forall_eq', forall_const,
    Option.isSome_iff_exists, forall_exists_index]
  refine forall₂_congr fun c hc => ?_
  obtain ⟨⟨client, hclient, hfd⟩, hiff⟩ := (h.held p hio).channel c hc
  rw [← hiff]
  exact written_assign_iff (hfd ▸ h.fds client hclient) hid

theorem idle_iff {e : Event} (he : e ≠ .clientDataSend) : Answered S e S' ↔ Steady S e S' :=
  iff_of_true (fun h => absurd h he) fun h => absurd h he

theorem inv_accept (h : Inv S) (hio : S.io = none) (hunused : Unused S.layer o.fd)
    (cAddr : SockAddr) : Inv { S with layer := CommLayer.addFdToClientList S.layer o cAddr } := by
  refine ⟨fds_addFdToClientList h.fds hunused.1 cAddr, h.counter, fun p hp => ?_⟩
  rw [Option.mem_def, hio] at hp
  cases hp

theorem inv_connect (h : Inv S) (hunused : Unused S.layer o.fd) (cAddr : SockAddr) :
    Inv ⟨CommLayer.addFdToClientList S.layer o cAddr, S.io.map Processing.touch, true⟩ := by
  refine ⟨fds_addFdToClientList h.fds hunused.1 cAddr, h.counter, fun p' hp' => ?_⟩
  obtain ⟨p, hp, rfl⟩ := Option.map_eq_some_iff.mp hp'
  refine held_touch (h.held p hp) h.fds rfl (fun client hclient => List.mem_append_left _ hclient) ?_
  exact fun c _ hc => ne_of_unused hunused hc

theorem inv_sendDiscoveryMsg (h : Inv S) :
    Inv ⟨clientDataSend P.processor S.layer (discoveryData S.layer.program.serverID),
      S.io.map Processing.touch, false⟩ := by
  obtain ⟨hactive, hprogram, hlist⟩ :=
    clientDataSend_discovery (P := P) S.layer S.layer.program.serverID
  refine h.of_sent hlist hprogram fun p' hp' => ?_
  obtain ⟨p, hp, rfl⟩ := Option.map_eq_some_iff.mp hp'
  refine held_touch (h.held p hp) h.fds hprogram (fun client hclient => by rwa [hlist]) ?_
  intro c hc _
  dsimp only
  rw [hactive, invalidSocket]
  omega

theorem inv_step (h : Inv S) {e : Event} (he : e ≠ .clientDataSend) (hs : step P S e = some S') :
    Inv S' := by
  cases e with
  | read fd chunk =>
      rw [step] at hs
      split at hs
      · cases hs
      obtain ⟨x, hx, rfl⟩ := Option.map_eq_some_iff.mp hs
      exact inv_read h hx
  | datagram talker cAddr recBuffer =>
      rw [step] at hs
      split at hs
      next => cases hs
      next hguard =>
        obtain ⟨x, hx, rfl⟩ := Option.map_eq_some_iff.mp hs
        exact inv_datagram h (not_not.mp (not_or.mp hguard).2) hx
  | accept o cAddr =>
      rw [step] at hs
      split at hs
      next => cases hs
      next hguard =>
        obtain rfl := Option.some.inj hs
        obtain ⟨hio, hunused⟩ := not_or.mp hguard
        exact inv_accept h (Option.not_isSome_iff_eq_none.mp hio) (not_not.mp hunused) cAddr
  | close fd =>
      rw [step] at hs
      split at hs
      next => cases hs
      next hguard =>
        obtain rfl := Option.some.inj hs
        exact inv_socketClosed h (Option.not_isSome_iff_eq_none.mp (not_or.mp hguard).1)
  | processInput =>
      obtain ⟨x, hx, rfl⟩ := Option.map_eq_some_iff.mp hs
      obtain ⟨p, hio, hnext⟩ := Option.bind_eq_some_iff.mp hx
      exact inv_processInput h hio hnext
  | clientDataSend => exact absurd rfl he
  | finish =>
      obtain ⟨L, hL, rfl⟩ := Option.map_eq_some_iff.mp hs
      obtain ⟨p, hio, hfinish⟩ := Option.bind_eq_some_iff.mp hL
      exact inv_finish h hfinish
  | connect o cAddr =>
      rw [step] at hs
      split at hs
      next => cases hs
      next hguard =>
        obtain rfl := Option.some.inj hs
        exact inv_connect h (not_not.mp (not_or.mp hguard).2) cAddr
  | sendDiscoveryMsg =>
      rw [step] at hs
      split at hs
      next =>
        obtain rfl := Option.some.inj hs
        exact inv_sendDiscoveryMsg h
      next => cases hs

theorem step_spec (h : Inv S) {e : Event} (hs : step P S e = some S') :
    Inv S' ∧ (Answered S e S' ↔ Steady S e S') := by
  by_cases he : e = .clientDataSend
  · subst he
    exact answered_iff_steady h hs
  · exact ⟨inv_step h he hs, idle_iff he⟩

theorem inv_start (pow : Bool) (builtins : PyDict) (serverID : Int) :
    Inv (start pow builtins serverID) :=
  ⟨fun _ hclient => absurd hclient List.not_mem_nil, (by decide : (1 : Int) ≤ 1),
    fun _ hp => absurd hp (Option.not_mem_none _)⟩

/-- In every run, the assignments of ids go back where their declarations came
from exactly when each finds the last used channel as its declaration set it. -/
theorem answered_iff (P : Program) (pow : Bool) (builtins : PyDict) (serverID : Int)
    (events : List Event) :
    Always (step P) Answered events (start pow builtins serverID) ↔
      Always (step P) Steady events (start pow builtins serverID) := by
  apply always_iff _ events (inv_start pow builtins serverID)
  exact fun S e S' hS hs => step_spec hS hs

def plain : Program := ⟨.little, some⟩

def declaring (name : String) : List UInt8 :=
  header .moduleDeclare 0 :: 0 :: (packString (text name) false ++ [0, msgEnd])

def underWay (events : List Event) : Option (Option Int × Option (Int × List UInt8) × Bool) :=
  (run (step plain) events (start false [] 1)).bind fun S =>
    S.io.map fun p => (p.channel, p.registered, p.touched)

def sharing : List Event :=
  [.accept ⟨7, default⟩ dummyAddr,
    .read 7 (Framing.frame false (declaring "a") ++ Framing.frame false (declaring "b")),
    .processInput, .clientDataSend, .processInput]

/-- The script connects to somewhere else while a declaration is processed. -/
def overtaking : List Event :=
  [.accept ⟨7, default⟩ dummyAddr, .read 7 (Framing.frame false (declaring "a")), .processInput,
    .connect ⟨8, default⟩ dummyAddr]

theorem not_answered_touched {events : List Event} {c : Int} {y : Int × List UInt8}
    (h : underWay events = some (some c, some y, true)) :
    ¬ Always (step plain) Answered (events ++ [.clientDataSend]) (start false [] 1) := by
  obtain ⟨S, hrun, hS⟩ := Option.bind_eq_some_iff.mp h
  obtain ⟨p, hio, hp⟩ := Option.map_eq_some_iff.mp hS
  obtain ⟨hchannel, hp'⟩ := Prod.mk.inj hp
  obtain ⟨hregistered, htouched⟩ := Prod.mk.inj hp'
  have hinv : Inv S := run_keeps (fun _ _ _ hS hs => (step_spec hS hs).1) (inv_start false [] 1) hrun
  obtain ⟨-, hsending⟩ := (hinv.held p hio).answers y hregistered
  obtain ⟨S', hlast⟩ : ∃ S', step plain S .clientDataSend = some S' := by
    rw [step, hio, Option.bind_some, sendNext, hsending]
    exact ⟨_, rfl⟩
  intro hall
  have hsteady := (answered_iff_steady hinv hlast).2.mp (always_last hrun hlast hall)
  have hfree := hsteady rfl p hio (by rw [hchannel]; rfl) (by rw [hregistered]; rfl)
  rw [htouched] at hfree
  cases hfree

/-- Neither the second of two modules in one read, nor a module whose
declaration the Python thread gets in the way of, is answered. -/
theorem not_answered :
    ¬ Always (step plain) Answered (sharing ++ [.clientDataSend]) (start false [] 1) ∧
      ¬ Always (step plain) Answered (overtaking ++ [.clientDataSend]) (start false [] 1) := by
  have hsharing : underWay sharing = some (some 7, some (2, text "b"), true) := by decide +kernel
  have hovertaking : underWay overtaking = some (some 7, some (1, text "a"), true) := by decide +kernel
  exact ⟨not_answered_touched hsharing, not_answered_touched hovertaking⟩

end PyConnect.ReplyChannel

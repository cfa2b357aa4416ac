import PyConnect.ByteRefinement
import PyConnect.CallElements
import PyConnect.Discovery
import PyConnect.PeerMessage
import PyConnect.ReplyChannel
import PyConnect.ServerIsolation

namespace PyConnect.ByteDiscovery

open Relation Bytes Decoding Common Values ObjComm NetComm Channels Stub StubMessage Wrapper WrapperInput
open Handshake Agreement Discovery PeerMessage CommLayer ByteNetwork ByteRefinement Runs
open CallElements (Served Serves served_moduleMessage)
open ReplyChannel (Sends sends_processMessage)
open ServerIsolation (mem_wrapperDispatches)
open WrapperSends (Processes processMessage_processes)

variable {b : Build} {host : Host} {port : Side → UInt8 × UInt8} {W : Wire} {w : PyConnectWrapper}
  {m : PyConnectModule} {data : List UInt8} {broadcast : Bool}

theorem unicast_of_sends {s stub : PyConnectStub} {dispatches : List (List UInt8 × Bool)}
    (h : Sends s stub dispatches) (hdata : (data, broadcast) ∈ dispatches) : broadcast = false := by
  cases h with
  | nothing => cases hdata
  | assignment => exact (Prod.mk.inj (List.mem_singleton.mp hdata)).2

theorem unicast_of_send {p : Packet} (h : .dispatch data broadcast = Wrapper.send p false) :
    broadcast = false := by
  rw [Wrapper.send] at h
  split at h
  · exact (Wrapper.Effect.dispatch.inj h).2
  · cases h

theorem unicast_of_discovery {sid : Int}
    (h : .dispatch data broadcast ∈ (moduleDiscovery b w sid).2.2) : broadcast = false := by
  rw [moduleDiscovery] at h
  split at h
  · cases h
  · dsimp only at h
    rw [declarePyConnectModule] at h
    split at h
    · cases h
    · exact unicast_of_send (List.mem_singleton.mp h)

theorem unicast_of_shutdown {sid : Int}
    (h : .dispatch data broadcast ∈ (serverShutdown w sid).2.2) : broadcast = false := by
  rw [serverShutdown] at h
  split at h
  · dsimp only at h
    split at h
    · cases List.mem_singleton.mp h
    · cases List.mem_singleton.mp h
  · cases h

theorem unicast_of_assign {sid : Int} {c : Cursor}
    (h : .dispatch data broadcast ∈ (moduleAssignId b w sid c).1.2.2) : broadcast = false := by
  rw [moduleAssignId, bind_apply, bind_apply, bind_apply] at h
  cases hw : w.pyConnectModule with
  | none =>
      rw [hw] at h
      cases List.mem_singleton.mp h
  | some m =>
      rw [hw] at h
      dsimp only at h
      split at h
      · rw [moduleAssigned_eq b hw] at h
        rcases List.mem_cons.mp h with h | h
        · cases h
        · rcases List.mem_cons.mp h with h | h
          · exact unicast_of_send h
          · exact unicast_of_send (List.mem_singleton.mp h)
      · cases h

theorem unicast_of_processes {message : List UInt8} {w' : PyConnectWrapper}
    {result : MesgProcessResult} {effects : List Wrapper.Effect}
    (h : Processes b w message w' result effects) (hdata : .dispatch data broadcast ∈ effects) :
    broadcast = false := by
  cases h with
  | refused => cases hdata
  | discovery => exact unicast_of_discovery hdata
  | serverShutdown => exact unicast_of_shutdown hdata
  | assign r _ hr =>
      rw [hr] at hdata
      exact unicast_of_assign hdata
  | absent => cases List.mem_singleton.mp hdata
  | served m info r ht hw hinfo hid hr =>
      rw [hr] at hdata
      have hserved := served_moduleMessage (b := b) hinfo hw (WrapperSends.typeOf message)
        (byte (byte (startAt message 0)).2).2
      cases hserved.effects _ hdata with
      | response => rfl
      | update => rfl

theorem announces_header {t : PyConnectMsg} {sid : Int} (rest : List UInt8)
    (ht : t = .moduleDiscovery ∨ t = .moduleDeclare) :
    Announces (header t sid :: (rest ++ [msgEnd])) := by
  rw [Announces, verifyNegotiationMsg_eq, (StubMessage.msgType_header t sid).2]
  rcases ht with rfl | rfl
  · exact .inl rfl
  · exact .inr rfl

theorem announcing_programs (b : Build) (host : Host) (port : Side → UInt8 × UInt8) :
    Announcing (programs b host port) where
  announcements side st data hdata := by
    cases side with
    | server =>
        rw [List.mem_singleton.mp hdata]
        exact announces_header [] (.inl rfl)
    | wrapper =>
        cases hmod : st.pyConnectModule with
        | none =>
            dsimp only [programs] at hdata
            rw [declarePyConnectModule, hmod] at hdata
            cases hdata
        | some m =>
            rw [announcement_wrapper hmod hdata, declareData, declareBody, ← List.cons_append]
            exact announces_header _ (.inr rfl)
  dispatches side st cAddr message r hr x hx hbroadcast := by
    cases side with
    | server =>
        rw [of_stubReaction hr] at hx
        cases (unicast_of_sends (sends_processMessage host st message cAddr) hx).symm.trans hbroadcast
    | wrapper =>
        rw [(of_wrapperReaction hr).2] at hx
        have hmem := mem_wrapperDispatches.mp hx
        cases (unicast_of_processes (processMessage_processes b st message) hmem).symm.trans hbroadcast

theorem bytes_refine (b : Build) (host : Host) (port : Side → UInt8 × UInt8) {W : Wire}
    (hcipher : Cipher W.encrypt W.decrypt) (parties : (side : Side) → Party (State side))
    {es : List Event} (hes : ∀ e ∈ es, e.Whole) {N : ByteNetwork.Network State}
    (hrun : run (ByteNetwork.step (programs b host port) W) es (quiet parties) = some N) :
    ∃ M, ReflTransGen (Step (programs b host port)) ⟨parties, fun _ => none, []⟩ M ∧
      Abstracts W nothing N M :=
  run_simulates (announcing_programs b host port) hcipher hes (abstracts_quiet W parties) hrun

/-- The wrapper has this id from the server, and the descriptors that each has
for the other are the two ends of one connection. -/
def Linked (serverID : Int) (N : ByteNetwork.Network State) (id : Int) : Prop :=
  ∃ info fd fd', ∃ k ∈ N.conns,
    (N.parties .wrapper).program.serverMap[serverID % 16]? = some info ∧ info.assignedModuleID = id ∧
      (N.parties .wrapper).comm.objCommMap[serverID % 16]? = some fd ∧
      (N.parties .server).comm.objCommMap[id]? = some fd' ∧
      k.sockets .wrapper = .client fd ∧ k.sockets .server = .client fd'

theorem linked_of_agreed {N : ByteNetwork.Network State} {M : NetComm.Network State} {serverID id : Int}
    (h : Abstracts W nothing N M) (hagreed : Agreed serverID M id) : Linked serverID N id := by
  obtain ⟨info, fd, fd', c, k', hinfo, hid, hwrapper, hserver, hk', hfd, hfd'⟩ := hagreed
  rw [wrapper, h.parties] at hinfo hwrapper
  rw [server, h.parties] at hserver
  rcases rel_cases (h.conns c) with ⟨-, hnone⟩ | ⟨k, k₁, hk, hk₁, hrel⟩
  · cases hnone.symm.trans hk'
  · obtain rfl := Option.some.inj (hk₁.symm.trans hk')
    rw [hrel.sockets] at hfd hfd'
    exact ⟨info, fd, fd', k, List.mem_of_getElem? hk, hinfo, hid, hwrapper, hserver, hfd, hfd'⟩

/-- However the bytes are cut into reads and the datagrams are lost, repeated
or reordered, the handshake runs at most once and ends in one agreement. -/
theorem bytes_agree (b : Build) (host : Host) (port : Side → UInt8 × UInt8) {W : Wire}
    (hcipher : Cipher W.encrypt W.decrypt) {pow : Bool} {pyConnect : PyDict} {serverID : Int}
    {m : PyConnectModule} {es : List Event} (hes : ∀ e ∈ es, e.Whole) {N : ByteNetwork.Network State}
    (hrun : run (ByteNetwork.step (programs b host port) W) es
      (quiet (Discovery.start pow pyConnect serverID m).parties) = some N) :
    (N.parties .server).program.modules.length ≤ 1 ∧
      ((N.parties .server).sent.filter fun data => typeOf data = some .moduleAssignId).length ≤ 1 ∧
      ((N.parties .wrapper).sent.filter fun data => typeOf data = some .attrMetdExpose).length ≤ 1 ∧
      ∀ data ∈ (N.parties .wrapper).processed, typeOf data = some .moduleAssignId →
        data = assignment b m serverID ∧ (declaredName b m = m.name → Linked serverID N 1) := by
  obtain ⟨M, hreach, habstracts⟩ :=
    run_simulates (announcing_programs b host port) hcipher hes (abstracts_quiet W _) hrun
  have hinv : Inv b host port m serverID M := inv_reach hreach (inv_start pow pyConnect)
  rw [← habstracts.parties]
  refine ⟨hinv.registered_once.1, hinv.registered_once.2, hinv.exposed_once, fun data hdata ht => ?_⟩
  obtain ⟨heq, hagreed⟩ := hinv.agreed hdata ht
  exact ⟨heq, fun hname => linked_of_agreed habstracts (hagreed hname)⟩

def crossingBytes (P : Programs State) (declaration discovery : List UInt8) : List Event :=
  [.broadcast .wrapper declaration, .broadcast .server discovery,
    .datagram .wrapper ⟨7, default⟩ ⟨true, 9, []⟩ (Delivery.padded (broadcastForm P .server discovery)),
    .datagram .server ⟨5, default⟩ ⟨true, 9, []⟩ (Delivery.padded (broadcastForm P .wrapper declaration)),
    .accept .wrapper 1 ⟨8, default⟩, .read .wrapper 1 ⟨true, 9, []⟩ 4, .read .wrapper 1 ⟨true, 9, []⟩ 8]

def paddedWire : Wire := ⟨Delivery.padded, unpadded, false⟩

def smallPrograms : Programs State := programs ⟨.little, false, false⟩ .little fun _ => (0x26, 0x11)

def smallCrossing : List Event :=
  crossingBytes smallPrograms (declareData ⟨.little, false, false⟩ ⟨[116], [], ∅, ∅⟩ 0) (discoveryData 3)

theorem smallCrossing_whole : ∀ e ∈ smallCrossing, e.Whole := by decide +kernel

theorem run_smallCrossing : ∃ N,
    run (ByteNetwork.step smallPrograms paddedWire) smallCrossing (quiet (encounter [116]).parties) =
      some N ∧ (N.parties .wrapper).processed = [[19, 64], [51, 1, 1, 116, 64]] := by
  have hrun : (run (ByteNetwork.step smallPrograms paddedWire) smallCrossing
      (quiet (encounter [116]).parties)).map (fun N => (N.parties .wrapper).processed) =
        some [[19, 64], [51, 1, 1, 116, 64]] := by decide +kernel
  exact Option.map_eq_some_iff.mp hrun

theorem bytes_refine_crossing : ∃ N M,
    run (ByteNetwork.step smallPrograms paddedWire) smallCrossing (quiet (encounter [116]).parties) =
      some N ∧
    (N.parties .wrapper).processed = [[19, 64], [51, 1, 1, 116, 64]] ∧
    ReflTransGen (Step smallPrograms) ⟨(encounter [116]).parties, fun _ => none, []⟩ M ∧
    Abstracts paddedWire nothing N M := by
  obtain ⟨N, hrun, hprocessed⟩ := run_smallCrossing
  obtain ⟨M, hM, habstracts⟩ := bytes_refine ⟨.little, false, false⟩ .little (fun _ => (0x26, 0x11))
    (W := paddedWire) cipher_padded _ smallCrossing_whole hrun
  exact ⟨N, M, hrun, hprocessed, hM, habstracts⟩

theorem bytes_agree_crossing : ∃ N,
    run (ByteNetwork.step smallPrograms paddedWire) smallCrossing (quiet (encounter [116]).parties) =
      some N ∧
    [51, 1, 1, 116, 64] ∈ (N.parties .wrapper).processed ∧ Linked 3 N 1 := by
  obtain ⟨N, hrun, hprocessed⟩ := run_smallCrossing
  have hdata : [51, 1, 1, 116, 64] ∈ (N.parties .wrapper).processed := by
    rw [hprocessed]
    decide
  obtain ⟨-, -, -, hagrees⟩ := bytes_agree ⟨.little, false, false⟩ .little (fun _ => (0x26, 0x11))
    (W := paddedWire) cipher_padded smallCrossing_whole hrun
  exact ⟨N, hrun, hdata, (hagrees _ hdata (by decide)).2 (by decide)⟩

end PyConnect.ByteDiscovery

import PyConnect.CommLayer
import PyConnect.CallElements
import PyConnect.Handshake

namespace PyConnect.Disconnection

open Decoding Common ObjComm Stub CommLayer StubMessage Wrapper WrapperInput WrapperSends
open Handshake Maps

variable {σ : Type} {P : Processor σ} {L L' : PyConnectNetComm σ} {results : List MesgProcessResult}

/-- What comes in on a connection: the datagram that it is made for, or bytes
to read. -/
inductive Arrival
  | datagram (talker : Opened) (cAddr : SockAddr) (recBuffer : List UInt8)
  | read (fd : Int) (chunk : List UInt8)

def Arrival.fd : Arrival → Int
  | datagram talker _ _ => talker.fd
  | read fd _ => fd

/-- The comm layer afterwards, with what processInput has returned for the
messages that arrived. -/
def receive (P : Processor σ) (L : PyConnectNetComm σ) :
    Arrival → Option (PyConnectNetComm σ × List MesgProcessResult)
  | .datagram talker cAddr recBuffer =>
      if Unused L talker.fd then processUDPInput P L (some talker) cAddr recBuffer else none
  | .read fd chunk => processIncomingData P L fd chunk

structure Disconnected (L : PyConnectNetComm σ) (fd : Int) : Prop where
  unlisted : ∀ client ∈ L.clientFDList, client.fd ≠ fd
  unmapped : ∀ i : Int, L.comm.objCommMap[i]? ≠ some fd

/-- What ends a session as the code means to: the datagram that a connection
has been made for, where no two ids are left on the descriptor. -/
def Ends (L : PyConnectNetComm σ) : Arrival → Prop
  | .datagram talker _ _ => ∀ i j : Int, L.comm.objCommMap[i]? = some talker.fd →
      L.comm.objCommMap[j]? = some talker.fd → i = j
  | .read _ _ => False

/-- A processor that ends a session has nothing to say to the peer. -/
def Silent (P : Processor σ) : Prop :=
  ∀ st recData cAddr skipdecrypt r, P.processInput st recData cAddr skipdecrypt = some r →
    r.result = .toShutdown → r.dispatches = []

theorem not_disconnected_read {fd : Int} {chunk : List UInt8}
    (h : processIncomingData P L fd chunk = some (L', results)) : ¬ Disconnected L' fd := by
  obtain ⟨client, its, info, clientFDList, hclient, -, hmap, hin⟩ := of_processIncomingData h
  have hmem := List.mem_of_find?_eq_some hclient
  have hfd : client.fd = fd := by simpa using List.find?_some hclient
  have hlist : L'.clientFDList.map (·.fd) = L.clientFDList.map (·.fd) := by
    rw [clientFDList_inputs hin, hmap]
  have hfd' : fd ∈ L'.clientFDList.map (·.fd) := by
    rw [hlist, ← hfd]
    exact List.mem_map_of_mem hmem
  obtain ⟨client', hmem', he⟩ := List.mem_map.mp hfd'
  exact fun hd => hd.unlisted client' hmem' he

theorem erased_iff (processInput : σ → List UInt8 → σ) (side : Side) (c : ObjectComm) (st : σ)
    (fd : Int) (notifyMesgProc : Bool) :
    (∀ i : Int, (objCommChannelShutdown side processInput c st fd notifyMesgProc).1.objCommMap[i]? ≠
        some fd) ↔
      ∀ i j : Int, c.objCommMap[i]? = some fd → c.objCommMap[j]? = some fd → i = j := by
  rw [objCommChannelShutdown]
  cases hfind : findMapping c fd with
  | none =>
      have hnone := findMapping_none hfind
      exact iff_of_true hnone fun i _ hi => absurd hi (hnone i)
  | some id =>
      have hid := findMapping_some hfind
      dsimp only
      constructor
      · intro h
        have honly : ∀ i : Int, c.objCommMap[i]? = some fd → i = id := by
          intro i hi
          by_contra hne
          refine h i ?_
          rw [get_erase, if_neg hne, hi]
        exact fun i j hi hj => (honly i hi).trans (honly j hj).symm
      · intro h i hi
        rw [get_erase] at hi
        split at hi
        · cases hi
        next hne => exact hne (h i id hi hid)

/-- What a refused message of a new connection leaves: the channel that is
shut down is the new one, since nothing has been sent on it. -/
theorem talkerInput_toShutdown (hP : Silent P) {talker : Opened} {cAddr : SockAddr}
    {message : List UInt8}
    (h : talkerInput P (addFdToClientList L talker cAddr) cAddr message = some (L', .toShutdown)) :
    ∃ r, P.processInput L.program message cAddr true = some r ∧ r.dispatches = [] ∧
      L' = destroyCurrentClient (channelShutdown P ⟨⟨L.comm.objCommMap, invalidSocket⟩,
        (addFdToClientList L talker cAddr).clientFDList, r.program, L.written⟩ talker.fd false)
        talker.fd := by
  simp only [talkerInput, Option.bind_eq_bind, Option.bind_eq_some_iff, Prod.exists] at h
  obtain ⟨L₁, result, hin, h⟩ := h
  by_cases hshut : result = .toShutdown
  · subst hshut
    rw [if_pos rfl] at h
    obtain ⟨r, hr, he⟩ := Option.map_eq_some_iff.mp hin
    obtain ⟨rfl, hresult⟩ := Prod.mk.inj he
    have hsilent := hP _ _ _ _ r hr hresult
    rw [hsilent] at h
    exact ⟨r, hr, hsilent, (Prod.mk.inj (Option.some.inj h)).1.symm⟩
  · rw [if_neg hshut] at h
    exact absurd (Prod.mk.inj (Option.some.inj h)).2 hshut

theorem disconnected_talker_iff (hP : Silent P) {talker : Opened} (hunused : Unused L talker.fd)
    {cAddr : SockAddr} {message : List UInt8}
    (h : talkerInput P (addFdToClientList L talker cAddr) cAddr message =
      some (L', .toShutdown)) :
    Disconnected L' talker.fd ↔ ∀ i j : Int, L.comm.objCommMap[i]? = some talker.fd →
      L.comm.objCommMap[j]? = some talker.fd → i = j := by
  obtain ⟨r, -, -, rfl⟩ := talkerInput_toShutdown hP h
  have hlist : ∀ client ∈ (L.clientFDList ++ [(⟨talker.fd, cAddr,
      Reassembly.addFdToClientList talker.bufferedData⟩ : ClientFD)]).eraseP (·.fd = talker.fd),
      client.fd ≠ talker.fd := by
    rw [List.eraseP_append_right]
    · rw [List.eraseP_cons_of_pos (by simp), List.append_nil]
      exact hunused.2
    · intro client hmem
      simpa using hunused.2 client hmem
  have hmap := erased_iff
    (fun st data => ((P.processInput st data dummyAddr true).map (·.program)).getD st) P.side
    ⟨L.comm.objCommMap, invalidSocket⟩ r.program talker.fd false
  exact ⟨fun hd => hmap.mp hd.unmapped, fun hone => ⟨hlist, hmap.mpr hone⟩⟩

theorem disconnected_iff_ends (hP : Silent P) {a : Arrival}
    (h : receive P L a = some (L', results)) (hr : .toShutdown ∈ results) :
    Disconnected L' a.fd ↔ Ends L a := by
  cases a with
  | read fd chunk => exact iff_of_false (not_disconnected_read h) id
  | datagram talker cAddr recBuffer =>
      rw [receive] at h
      by_cases hunused : Unused L talker.fd
      · rw [if_pos hunused, processUDPInput] at h
        cases hdec : P.decrypt recBuffer with
        | none =>
            rw [hdec] at h
            obtain ⟨-, rfl⟩ := Prod.mk.inj (Option.some.inj h)
            cases hr
        | some message =>
            rw [hdec] at h
            dsimp only at h
            split at h
            · obtain ⟨r, -, he⟩ := Option.map_eq_some_iff.mp h
              obtain ⟨-, rfl⟩ := Prod.mk.inj he
              cases hr
            · split at h
              · split at h
                · cases h
                · obtain ⟨r, htalker, he⟩ := Option.map_eq_some_iff.mp h
                  obtain ⟨rfl, rfl⟩ := Prod.mk.inj he
                  have hres : r = (r.1, .toShutdown) :=
                    Prod.ext rfl (List.mem_singleton.mp hr).symm
                  rw [hres] at htalker
                  exact disconnected_talker_iff hP hunused htalker
              · obtain ⟨-, rfl⟩ := Prod.mk.inj (Option.some.inj h)
                cases hr
      · rw [if_neg hunused] at h
        cases h

/-- The two programs behind their comm layers. -/
def processor (b : Build) (host : Values.Host) (decrypt : List UInt8 → Option (List UInt8)) :
    (side : Side) → Processor (State side)
  | .server => ⟨.server, host.bigEndian, decrypt, fun s recData cAddr skipdecrypt =>
      stubReaction (StubInput.processInput host decrypt s recData cAddr skipdecrypt)⟩
  | .wrapper => ⟨.wrapper, b.host.bigEndian, decrypt, fun w recData _ skipdecrypt =>
      wrapperReaction (WrapperInput.processInput b decrypt w recData skipdecrypt)⟩

theorem stubDispatches_declareInput (s : PyConnectStub) (cAddr : SockAddr) (c : Cursor)
    (h : (StubInput.declareInput s cAddr c).result = .toShutdown) :
    stubDispatches (StubInput.declareInput s cAddr c).effects = [] := by
  rw [StubInput.declareInput, StubInput.moduleDeclare, bind_apply, bind_apply] at *
  cases hfind : findModuleByName s (unpackString false (byte c).2).1 with
  | some obj => rfl
  | none =>
      rw [hfind] at h
      cases h

theorem stubDispatches_toShutdown (host : Values.Host) (s : PyConnectStub) (message : List UInt8)
    (cAddr : SockAddr) (h : (StubInput.processMessage host s message cAddr).result = .toShutdown) :
    stubDispatches (StubInput.processMessage host s message cAddr).effects = [] := by
  revert h
  refine processMessage_cases host s message cAddr ?unknown ?declare ?shutdown ?peer ?discovery ?object
  case unknown => exact fun _ => MesgProcessResult.noConfusion
  case declare => exact fun _ => stubDispatches_declareInput s cAddr _
  case shutdown => exact fun _ _ _ => stubDispatches_deleteModuleByID s _
  case peer => exact fun _ => MesgProcessResult.noConfusion
  case discovery => exact fun _ => MesgProcessResult.noConfusion
  case object => exact fun _ _ _ _ => stubDispatches_objectInput host s _ _ _

theorem moduleMessage_result (b : Build) (w : PyConnectWrapper) (m : PyConnectModule) (sid : Int)
    (t : Option PyConnectMsg) (c : Cursor) : (moduleMessage b w m sid t c).1.2 ≠ .toShutdown := by
  rw [moduleMessage.eq_def]
  split <;> exact MesgProcessResult.noConfusion

theorem wrapperDispatches_toShutdown (b : Build) (w : PyConnectWrapper) (message : List UInt8)
    (h : (processMessage b w message).result = .toShutdown) :
    wrapperDispatches (processMessage b w message).effects = [] := by
  have hp := processMessage_processes b w message
  generalize (processMessage b w message).wrapper = w', (processMessage b w message).result = result,
    (processMessage b w message).effects = effects at *
  cases hp with
  | refused => rfl
  | assign => cases h
  | absent => rfl
  | discovery ht =>
      rw [moduleDiscovery] at *
      split at h
      next hmem => rw [if_pos hmem]; rfl
      next => cases h
  | serverShutdown ht =>
      rw [WrapperInput.serverShutdown]
      split
      · dsimp only
        split <;> rfl
      · rfl
  | served m info r ht hm hinfo hid hr =>
      rw [hr] at h
      exact (moduleMessage_result _ _ _ _ _ _ h).elim

theorem silent_processor (b : Build) (host : Values.Host) (decrypt : List UInt8 → Option (List UInt8))
    (side : Side) : Silent (processor b host decrypt side) := by
  intro st recData cAddr skipdecrypt r h
  cases side with
  | server =>
      rw [of_stubReaction h, StubInput.processInput_eq]
      cases decrypted decrypt recData skipdecrypt with
      | none => exact MesgProcessResult.noConfusion
      | some message => exact stubDispatches_toShutdown host st message cAddr
  | wrapper =>
      rw [(of_wrapperReaction h).2, WrapperInput.processInput_eq]
      cases decrypted decrypt recData skipdecrypt with
      | none => exact MesgProcessResult.noConfusion
      | some message => exact wrapperDispatches_toShutdown b st message

/-- Where a message ends its session, the connection that it came in on is gone
exactly when the message is a datagram, for which the connection was made, and
no two ids were left on the descriptor. -/
theorem disconnected_iff (b : Build) (host : Values.Host) (decrypt : List UInt8 → Option (List UInt8))
    (side : Side) (L L' : PyConnectNetComm (State side)) (a : Arrival)
    (results : List MesgProcessResult)
    (h : receive (processor b host decrypt side) L a = some (L', results))
    (hr : .toShutdown ∈ results) : Disconnected L' a.fd ↔ Ends L a :=
  disconnected_iff_ends (silent_processor b host decrypt side) h hr

def discovered : PyConnectNetComm PyConnectWrapper where
  comm := ObjComm.init
  clientFDList := []
  program := { Wrapper.init (text "m") [] with serverMap := Std.ExtTreeMap.empty.insert 1 ⟨5, true⟩ }
  written := []

theorem disconnected_iff_rediscovery :
    Disconnected discovered 7 ↔ Ends discovered (.datagram ⟨7, default⟩ dummyAddr
      [header .moduleDiscovery 1, 0, 0, msgEnd]) :=
  disconnected_iff ⟨.little, true, true⟩ .little some .wrapper discovered discovered
    (.datagram ⟨7, default⟩ dummyAddr [header .moduleDiscovery 1, 0, 0, msgEnd]) [.toShutdown] rfl
    (List.mem_singleton_self _)

def listening : PyConnectNetComm PyConnectStub where
  comm := ObjComm.init
  clientFDList := [⟨5, dummyAddr, Reassembly.addFdToClientList default⟩]
  program := ⟨false, [], 4, [PyConnectObject.create (text "m") 3 none 0], 1⟩
  written := []

/-- A module that has shut down stays connected. -/
theorem not_disconnected_shutdown :
    ¬ ∀ (L L' : PyConnectNetComm PyConnectStub) (a : Arrival) (results : List MesgProcessResult),
      receive (processor ⟨.little, true, true⟩ .little some .server) L a = some (L', results) →
      .toShutdown ∈ results → Disconnected L' a.fd := by
  intro h
  have hd := h listening { listening with
      comm := setLastUsedCommChannel ObjComm.init 5
      program := (deleteModuleByID listening.program 3).1 }
    (.read 5 (Framing.frame false [header .moduleShutdown 0, 3, msgEnd])) [.toShutdown] rfl
    (List.mem_singleton_self _)
  exact hd.unlisted _ (List.mem_singleton_self _) rfl

end PyConnect.Disconnection

import PyConnect.AssignedIds
import PyConnect.ChannelShutdown
import PyConnect.Disconnection
import Mathlib.Data.Set.Function

namespace PyConnect.ServerIsolation

open Decoding Common ObjComm Stub CommLayer Wrapper WrapperInput ModuleRouting WrapperSends CallElements
open Handshake Disconnection Maps

variable {b : Build} {decrypt : List UInt8 → Option (List UInt8)} {servers : Set Int}

def FromServer (x : Int) (message : List UInt8) : Prop := ∃ t tail, message = header t x :: tail

/-- A wrapper behind its comm layer, and whom each descriptor connects it to. -/
structure System where
  layer : PyConnectNetComm PyConnectWrapper
  owner : Int → Int

/-- What the module does of itself, sent over its comm layer. -/
def act (P : Processor PyConnectWrapper) (L : PyConnectNetComm PyConnectWrapper)
    (r : PyConnectWrapper × List Wrapper.Effect) : PyConnectNetComm PyConnectWrapper :=
  (wrapperDispatches r.2).foldl (fun L x => dataPacketSender P L x.1 x.2) { L with program := r.1 }

/-- One event at the wrapper that a server causes. A datagram carries the port
before its end marker. -/
inductive Step (b : Build) (decrypt : List UInt8 → Option (List UInt8)) (servers : Set Int) :
    System → Int → System → Prop
  | datagram (S : System) (x : Int) (o : Opened) (connected : Bool) (cAddr : SockAddr)
      (recBuffer : List UInt8) (layer : PyConnectNetComm PyConnectWrapper)
      (results : List MesgProcessResult) : x ∈ servers → Unused S.layer o.fd →
      (∀ message, decrypt recBuffer = some message →
        ∃ t body p q, message = header t x :: (body ++ [p, q, msgEnd])) →
      processUDPInput (processor b b.host decrypt .wrapper) S.layer (if connected then some o else none)
        cAddr recBuffer = some (layer, results) →
      Step b decrypt servers S x ⟨layer, Function.update S.owner o.fd x⟩
  | connect (S : System) (x : Int) (o : Opened) (cAddr : SockAddr) : x ∈ servers →
      Unused S.layer o.fd →
      Step b decrypt servers S x
        ⟨addFdToClientList S.layer o cAddr, Function.update S.owner o.fd x⟩
  | read (S : System) (fd : Int) (client : ClientFD) (chunk : List UInt8)
      (its : List Reassembly.Iteration) (info : Reassembly.SocketDataBufferInfo)
      (layer : PyConnectNetComm PyConnectWrapper) (results : List MesgProcessResult) :
      S.layer.clientFDList.find? (·.fd = fd) = some client →
      Reassembly.processRead b.host.bigEndian client.dataInfo chunk = some (its, info) →
      (∀ recData ∈ Reassembly.deliveries its, ∀ message, decrypt recData = some message →
        FromServer (S.owner fd) message) →
      processIncomingData (processor b b.host decrypt .wrapper) S.layer fd chunk =
        some (layer, results) →
      Step b decrypt servers S (S.owner fd) ⟨layer, S.owner⟩
  | close (S : System) (client : ClientFD) : client ∈ S.layer.clientFDList →
      Step b decrypt servers S (S.owner client.fd)
        ⟨socketClosed (processor b b.host decrypt .wrapper) S.layer client.fd, S.owner⟩

inductive Own (b : Build) (decrypt : List UInt8 → Option (List UInt8)) : System → System → Prop
  | updateAttribute (S : System) (attrName : List UInt8) (attrValue : Values.Value) :
      Own b decrypt S ⟨act (processor b b.host decrypt .wrapper) S.layer
        (updateAttribute b S.layer.program attrName attrValue), S.owner⟩
  | moduleShutdown (S : System) :
      Own b decrypt S ⟨act (processor b b.host decrypt .wrapper) S.layer
        (moduleShutdown S.layer.program), S.owner⟩

inductive Reach (b : Build) (decrypt : List UInt8 → Option (List UInt8)) (servers : Set Int) :
    System → Prop
  | start (w : PyConnectWrapper) (owner : Int → Int) : w.serverMap = ∅ →
      Reach b decrypt servers ⟨⟨ObjComm.init, [], w, []⟩, owner⟩
  | server {S S' : System} {x : Int} : Reach b decrypt servers S → Step b decrypt servers S x S' →
      Reach b decrypt servers S'
  | own {S S' : System} : Reach b decrypt servers S → Own b decrypt S S' → Reach b decrypt servers S'

def fds (L : PyConnectNetComm PyConnectWrapper) : List Int := L.clientFDList.map (·.fd)

/-- An event that `x` causes leaves `y` its entry and its channel, and whatever
the wrapper says in answer, it says to `x`: while `x` is registered, there is a
connection to `x` to say it on. A change of an attribute is told to all
servers. -/
structure Isolated (S S' : System) (x y : Int) : Prop where
  entry : S'.layer.program.serverMap[y % 16]? = S.layer.program.serverMap[y % 16]?
  channel : S'.layer.comm.objCommMap[y % 16]? = S.layer.comm.objCommMap[y % 16]?
  answers : ∃ new, S'.layer.written = S.layer.written ++ new ∧
    ∀ p ∈ new, typeOf p.2 ≠ some .attrValueUpdate → S'.owner p.1 = x
  reply : S'.layer.program.pyConnectModule ≠ none → x % 16 ∈ S'.layer.program.serverMap →
    ∃ d, S'.layer.comm.objCommMap[x % 16]? = some d ∧ d ∈ fds S'.layer ∧ S'.owner d = x

/-- No server's event reaches another, in any run. -/
def Separate (b : Build) (decrypt : List UInt8 → Option (List UInt8)) (servers : Set Int) : Prop :=
  ∀ S S' x y, y ∈ servers → x ≠ y → Reach b decrypt servers S → Step b decrypt servers S x S' →
    Isolated S S' x y

/-- What a message makes the wrapper do concerns the server that it names,
except that updates go to all. A new entry is announced in a message that
claims the channel. -/
structure Confined (w : PyConnectWrapper) (sid : Int) (w' : PyConnectWrapper)
    (effects : List Wrapper.Effect) : Prop where
  others : ∀ i : Int, i ≠ sid → w'.serverMap[i]? = w.serverMap[i]?
  dispatches : ∀ data broadcast, .dispatch data broadcast ∈ effects →
    typeOf data = some .attrValueUpdate ∨ senderOf data = sid
  module : w'.pyConnectModule = none ↔ w.pyConnectModule = none
  registers : sid ∈ w'.serverMap → sid ∈ w.serverMap ∨ w.pyConnectModule = none ∨ .stray ∈ effects ∨
    ∃ data, .dispatch data false ∈ effects ∧ mapsChannel .wrapper (typeOf data) = true

variable {w w' : PyConnectWrapper} {m : PyConnectModule} {sid : Int} {effects : List Wrapper.Effect}

theorem Confined.nothing (hd : ∀ data broadcast, .dispatch data broadcast ∉ effects) :
    Confined w sid w effects :=
  ⟨fun _ _ => rfl, fun data broadcast h => absurd h (hd data broadcast), Iff.rfl, .inl⟩

theorem header_of_send {p : Packet} {t : PyConnectMsg} {i : UInt8} {tail data : List UInt8}
    {toBroadcast broadcast : Bool} (hsid : sid % 16 = sid) (hp : p.written = header t sid :: i :: tail)
    (hsize : 2 ≤ p.totalMsgSize) (h : .dispatch data broadcast = Wrapper.send p toBroadcast) :
    typeOf data = some t ∧ senderOf data = sid := by
  obtain ⟨tail', hd⟩ := data_of_written hp hsize
  rw [data_of_mem_send (List.mem_singleton.mpr h), hd, senderOf_header, hsid]
  exact ⟨typeOf_header .., rfl⟩

theorem claims_of_send {p : Packet} {t : PyConnectMsg} {i : UInt8} {tail : List UInt8}
    (hsid : sid % 16 = sid) (hp : p.written = header t sid :: i :: tail) (hsize : 2 ≤ p.totalMsgSize)
    (ht : mapsChannel .wrapper (some t) = true) (hmem : Wrapper.send p false ∈ effects) :
    .stray ∈ effects ∨
      ∃ data, .dispatch data false ∈ effects ∧ mapsChannel .wrapper (typeOf data) = true := by
  cases hsend : Wrapper.send p false with
  | dispatch data broadcast =>
      obtain rfl : broadcast = false := by
        rw [Wrapper.send] at hsend
        split at hsend
        · exact (Wrapper.Effect.dispatch.inj hsend).2.symm
        · cases hsend
      refine .inr ⟨data, hsend ▸ hmem, ?_⟩
      rw [(header_of_send hsid hp hsize hsend.symm).1]
      exact ht
  | stray => exact .inl (hsend ▸ hmem)
  | _ =>
      rw [Wrapper.send] at hsend
      split at hsend <;> cases hsend

theorem confined_moduleDiscovery (hsid : sid % 16 = sid) :
    Confined w sid (moduleDiscovery b w sid).1 (moduleDiscovery b w sid).2.2 := by
  rw [moduleDiscovery]
  split
  · exact .nothing fun _ _ => List.not_mem_nil
  next hnew =>
    dsimp only
    obtain hw | ⟨m, hw⟩ := Option.eq_none_or_eq_some w.pyConnectModule
    · have hnone : declarePyConnectModule b
          { w with serverMap := w.serverMap.insert sid ⟨-1, true⟩ } sid false = [] := by
        rw [declarePyConnectModule, hw]
      refine ⟨fun i hi => ?_, fun data broadcast h => ?_, Iff.rfl, fun _ => .inr (.inl hw)⟩
      · exact (get_insert ..).trans (if_neg hi)
      · rw [hnone] at h
        cases h
    · have hsome : declarePyConnectModule b
          { w with serverMap := w.serverMap.insert sid ⟨-1, true⟩ } sid false =
            [Wrapper.send (declarePacket b m sid) false] := by
        rw [declarePyConnectModule, hw]
      have hsize : 2 ≤ (declarePacket b m sid).totalMsgSize := by
        have hlen := packedIntLen_nonneg m.desc.length
        simp only [declarePacket]
        omega
      refine ⟨fun i hi => ?_, fun data broadcast h => .inr ?_, Iff.rfl, fun _ => .inr (.inr ?_)⟩
      · exact (get_insert ..).trans (if_neg hi)
      · rw [hsome] at h
        exact (header_of_send hsid rfl hsize (List.mem_singleton.mp h)).2
      · rw [hsome]
        exact claims_of_send (t := .moduleDeclare) hsid rfl hsize rfl (List.mem_singleton_self _)

theorem confined_serverShutdown :
    Confined w sid (serverShutdown w sid).1 (serverShutdown w sid).2.2 := by
  rw [serverShutdown]
  split
  · refine ⟨fun i hi => ?_, fun data broadcast h => ?_, Iff.rfl, fun h => ?_⟩
    · exact (get_erase ..).trans (if_neg hi)
    · dsimp only at h
      split at h
      · cases List.mem_singleton.mp h
      · cases List.mem_singleton.mp h
    · exact absurd h (by simp)
  · exact .nothing fun _ _ => List.not_mem_nil

theorem confined_moduleAssigned (hw : w.pyConnectModule = some m) (hsid : sid % 16 = sid)
    (modId : Int) :
    Confined w sid (moduleAssigned b w sid modId).1 (moduleAssigned b w sid modId).2 := by
  have hexpose := attrMetdPacket_size b.host m sid modId
  have hdesc := attrMetdDescPacket_size m sid modId
  rw [moduleAssigned_eq b hw]
  refine ⟨fun i hi => ?_, fun data broadcast h => .inr ?_, by rw [assignEntry_module],
    fun _ => .inr (.inr ?_)⟩
  · dsimp only
    rw [assignEntry]
    split
    · exact (get_insert ..).trans (if_neg hi)
    · exact (get_insert ..).trans (if_neg hi)
  · rcases List.mem_cons.mp h with h | h
    · cases h
    rcases List.mem_cons.mp h with h | h
    · exact (header_of_send hsid rfl (by omega) h).2
    · exact (header_of_send hsid rfl (by omega) (List.mem_singleton.mp h)).2
  · exact claims_of_send (t := .attrMetdExpose) hsid rfl (by omega) rfl
      (List.mem_cons_of_mem _ List.mem_cons_self)

theorem confined_served {called : Option Nat} (hsid : sid % 16 = sid)
    (hw : w.pyConnectModule = some m) (h : Served w m sid called w' effects) :
    Confined w sid w' effects := by
  refine ⟨fun i _ => by rw [h.servers], fun data broadcast he => ?_, ?_, fun hmem => .inl ?_⟩
  · cases h.effects _ he with
    | response info tail hinfo => exact .inr (by rw [senderOf_header, hsid])
    | update index y x tail => exact .inl (typeOf_header ..)
  · rw [hw]
    rcases h.module with hm | ⟨_, _, _, _, _, _, hm⟩
    · rw [hm]
    · rw [hm]
      simp
  · rwa [h.servers] at hmem

theorem confined_moduleAssignId (hsid : sid % 16 = sid) (c : Cursor) :
    Confined w sid (moduleAssignId b w sid c).1.1 (moduleAssignId b w sid c).1.2.2 := by
  rw [moduleAssignId, bind_apply, bind_apply, bind_apply]
  cases hw : w.pyConnectModule with
  | none =>
      refine .nothing fun data broadcast h => ?_
      cases List.mem_singleton.mp h
  | some m =>
      dsimp only
      split
      · exact confined_moduleAssigned hw hsid _
      · exact .nothing fun _ _ => List.not_mem_nil

theorem senderOf_emod (data : List UInt8) : senderOf data % 16 = senderOf data := by
  have h := senderOf_range data
  omega

theorem confined_processes {data : List UInt8} {result : MesgProcessResult}
    (h : Processes b w data w' result effects) : Confined w (senderOf data) w' effects := by
  cases h with
  | refused ht => exact .nothing fun _ _ => List.not_mem_nil
  | discovery ht => exact confined_moduleDiscovery (senderOf_emod data)
  | serverShutdown ht => exact confined_serverShutdown
  | assign r ht hr =>
      rw [hr]
      exact confined_moduleAssignId (senderOf_emod data) _
  | absent hw =>
      refine .nothing fun data broadcast h => ?_
      cases List.mem_singleton.mp h
  | served m info r ht hw hinfo hi hr =>
      rw [hr]
      exact confined_served (senderOf_emod data) hw (served_moduleMessage hinfo hw (typeOf data) _)

def Mapped (x : Int) (L : PyConnectNetComm PyConnectWrapper) : Prop :=
  ∃ d, L.comm.objCommMap[x % 16]? = some d

/-- The last used channel is the one that is read, unless the server's messages
have taken it. -/
def Held (x fd : Int) (L : PyConnectNetComm PyConnectWrapper) : Prop :=
  L.comm.activeCommChannel = fd ∨ L.comm.activeCommChannel = invalidSocket ∧ Mapped x L

/-- What the messages of `x` on `fd` leave as it was. -/
structure Kept (x fd : Int) (L L' : PyConnectNetComm PyConnectWrapper) : Prop where
  held : Held x fd L'
  list : L'.clientFDList = L.clientFDList
  module : L'.program.pyConnectModule = none ↔ L.program.pyConnectModule = none
  entries : ∀ i : Int, i ≠ x % 16 → L'.program.serverMap[i]? = L.program.serverMap[i]?
  channels : ∀ i : Int, i ≠ x % 16 → L'.comm.objCommMap[i]? = L.comm.objCommMap[i]?
  own : ∀ c, L'.comm.objCommMap[x % 16]? = some c → c = fd ∨ L.comm.objCommMap[x % 16]? = some c
  mapped : Mapped x L → Mapped x L'
  registers : x % 16 ∈ L'.program.serverMap → x % 16 ∈ L.program.serverMap ∨
    L.program.pyConnectModule = none ∨ Mapped x L'
  answers : ∃ new, L'.written = L.written ++ new ∧ ∀ p ∈ new,
    typeOf p.2 ≠ some .attrValueUpdate → p.1 = fd ∨ L.comm.objCommMap[x % 16]? = some p.1

variable {P : Processor PyConnectWrapper} {L L' : PyConnectNetComm PyConnectWrapper} {x fd : Int}

theorem Kept.refl (h : Held x fd L) : Kept x fd L L where
  held := h
  list := rfl
  module := Iff.rfl
  entries _ _ := rfl
  channels _ _ := rfl
  own _ := .inr
  mapped := id
  registers := .inl
  answers := ⟨[], (List.append_nil _).symm, fun _ h => absurd h List.not_mem_nil⟩

theorem Kept.trans {L₁ L₂ L₃ : PyConnectNetComm PyConnectWrapper} (h : Kept x fd L₁ L₂)
    (h' : Kept x fd L₂ L₃) : Kept x fd L₁ L₃ where
  held := h'.held
  list := h'.list.trans h.list
  module := h'.module.trans h.module
  entries i hi := (h'.entries i hi).trans (h.entries i hi)
  channels i hi := (h'.channels i hi).trans (h.channels i hi)
  own c hc := (h'.own c hc).elim .inl (h.own c)
  mapped hm := h'.mapped (h.mapped hm)
  registers hmem := by
    rcases h'.registers hmem with hmem | hnone | hmapped
    · exact (h.registers hmem).imp id (.imp id h'.mapped)
    · exact .inr (.inl (h.module.mp hnone))
    · exact .inr (.inr hmapped)
  answers := by
    obtain ⟨new, hnew, hanswers⟩ := h.answers
    obtain ⟨new', hnew', hanswers'⟩ := h'.answers
    refine ⟨new ++ new', ?_, fun p hp ht => ?_⟩
    · rw [hnew', hnew, List.append_assoc]
    · rcases List.mem_append.mp hp with hp | hp
      · exact hanswers p hp ht
      · exact (hanswers' p hp ht).elim .inl (h.own p.1)

theorem typeOf_getD (data : List UInt8) :
    PyConnectMsg.ofCode (msgTypeOf (data.getD 0 0)) = typeOf data := by
  cases data <;> rfl

theorem objID_senderOf (data : List UInt8) : objID .wrapper data = senderOf data := by
  cases data <;> rfl

theorem clientDataSend_maps (hP : P.side = .wrapper) {data : List UInt8}
    (ht : mapsChannel .wrapper (typeOf data) = true) :
    clientDataSend P L data =
      if L.comm.activeCommChannel = invalidSocket then
        { L with comm := ⟨L.comm.objCommMap, invalidSocket⟩ }
      else
        { L with
          comm := ⟨L.comm.objCommMap.insert (senderOf data) L.comm.activeCommChannel, invalidSocket⟩
          written := L.written ++ [(L.comm.activeCommChannel, data)] } := by
  rw [clientDataSend, hP, findOrAddCommChanByMsgID, typeOf_getD, objID_senderOf]
  dsimp only
  rw [if_pos ht, getLastUsedCommChannel]
  dsimp only
  by_cases hactive : L.comm.activeCommChannel = invalidSocket
  · rw [if_neg (not_not.mpr hactive), if_pos hactive]
    dsimp only
    rw [if_pos hactive]
  · rw [if_pos hactive, if_neg hactive]
    dsimp only
    rw [if_neg hactive]

theorem clientDataSend_finds (hP : P.side = .wrapper) {data : List UInt8}
    (ht : mapsChannel .wrapper (typeOf data) = false) :
    ∃ new, clientDataSend P L data = { L with written := L.written ++ new } ∧
      ∀ p ∈ new, p.2 = data ∧ L.comm.objCommMap[senderOf data]? = some p.1 := by
  have hmaps : ¬ mapsChannel .wrapper (typeOf data) = true := by rw [ht]; decide
  have hside : ¬ (Side.wrapper = .server ∧ typeOf data = some .moduleDiscovery) :=
    fun h => Side.noConfusion h.1
  rw [clientDataSend, hP, findOrAddCommChanByMsgID, typeOf_getD, objID_senderOf]
  dsimp only
  rw [if_neg hmaps, if_neg hside]
  dsimp only
  cases hchan : L.comm.objCommMap[senderOf data]? with
  | none => exact ⟨[], by simp [invalidSocket], fun p hp => absurd hp List.not_mem_nil⟩
  | some c =>
      rw [Option.getD_some]
      split
      · exact ⟨[], by simp, fun p hp => absurd hp List.not_mem_nil⟩
      · refine ⟨[(c, data)], rfl, fun p hp => ?_⟩
        obtain rfl := List.mem_singleton.mp hp
        exact ⟨rfl, rfl⟩

theorem typeOf_mapsChannel {data : List UInt8} (ht : mapsChannel .wrapper (typeOf data) = true) :
    typeOf data ≠ some .attrValueUpdate := by
  intro h
  rw [h] at ht
  cases ht

theorem kept_clientDataSend (hP : P.side = .wrapper) (hfd : fd ≠ invalidSocket) (hL : Held x fd L)
    {data : List UInt8} (hdata : typeOf data = some .attrValueUpdate ∨ senderOf data = x % 16) :
    Kept x fd L (clientDataSend P L data) ∧
      (mapsChannel .wrapper (typeOf data) = true → Mapped x (clientDataSend P L data)) := by
  cases ht : mapsChannel .wrapper (typeOf data) with
  | true =>
      have hx := hdata.resolve_left (typeOf_mapsChannel ht)
      rw [clientDataSend_maps hP ht]
      rcases hL with hactive | ⟨hactive, hmapped⟩
      · have hget : ∀ i : Int, (L.comm.objCommMap.insert (x % 16) fd)[i]? =
            if i = x % 16 then some fd else L.comm.objCommMap[i]? := fun i => get_insert _ _ i _
        have hown : (L.comm.objCommMap.insert (x % 16) fd)[x % 16]? = some fd :=
          (hget _).trans (if_pos rfl)
        rw [hactive, if_neg hfd, hx]
        refine ⟨⟨.inr ⟨rfl, fd, hown⟩, rfl, Iff.rfl, fun _ _ => rfl,
          fun i hi => (hget i).trans (if_neg hi), fun c hc => .inl ?_, fun _ => ⟨fd, hown⟩, .inl, _,
          rfl, fun p hp _ => .inl ?_⟩, fun _ => ⟨fd, hown⟩⟩
        · exact (Option.some.inj (hown.symm.trans hc)).symm
        · rw [List.mem_singleton.mp hp]
      · rw [if_pos hactive]
        exact ⟨⟨.inr ⟨rfl, hmapped⟩, rfl, Iff.rfl, fun _ _ => rfl, fun _ _ => rfl, fun _ => .inr, id,
          .inl, [], (List.append_nil _).symm, fun _ h => absurd h List.not_mem_nil⟩, fun _ => hmapped⟩
  | false =>
      obtain ⟨new, he, hnew⟩ := clientDataSend_finds hP (L := L) ht
      rw [he]
      refine ⟨⟨hL, rfl, Iff.rfl, fun _ _ => rfl, fun _ _ => rfl, fun _ => .inr, id, .inl, new, rfl,
        fun p hp hanswer => .inr ?_⟩, fun h => absurd h (by decide)⟩
      obtain ⟨rfl, hchan⟩ := hnew p hp
      rwa [hdata.resolve_left hanswer] at hchan

theorem kept_dispatches (hP : P.side = .wrapper) (hfd : fd ≠ invalidSocket)
    {dispatches : List (List UInt8 × Bool)}
    (hd : ∀ d ∈ dispatches, typeOf d.1 = some .attrValueUpdate ∨ senderOf d.1 = x % 16)
    (hL : Held x fd L) :
    Kept x fd L (dispatches.foldl (fun L d => dataPacketSender P L d.1 d.2) L) ∧
      ((∃ data, (data, false) ∈ dispatches ∧ mapsChannel .wrapper (typeOf data) = true) →
        Mapped x (dispatches.foldl (fun L d => dataPacketSender P L d.1 d.2) L)) := by
  induction dispatches generalizing L with
  | nil =>
      refine ⟨.refl hL, ?_⟩
      rintro ⟨_, h, _⟩
      exact absurd h List.not_mem_nil
  | cons d dispatches ih =>
      have hone : Kept x fd L (dataPacketSender P L d.1 d.2) ∧
          (d.2 = false → mapsChannel .wrapper (typeOf d.1) = true →
            Mapped x (dataPacketSender P L d.1 d.2)) := by
        rw [dataPacketSender]
        by_cases hb : d.2 = true
        · rw [if_pos hb]
          exact ⟨.refl hL, fun h => absurd (hb.symm.trans h) (by decide)⟩
        · rw [if_neg hb]
          obtain ⟨hkept, hmapped⟩ := kept_clientDataSend hP hfd hL (hd d List.mem_cons_self)
          exact ⟨hkept, fun _ => hmapped⟩
      have hrest := ih (fun d' h => hd d' (List.mem_cons_of_mem d h)) hone.1.held
      rw [List.foldl_cons]
      refine ⟨hone.1.trans hrest.1, ?_⟩
      rintro ⟨data, hmem, ht⟩
      rcases List.mem_cons.mp hmem with rfl | hmem
      · exact hrest.1.mapped (hone.2 rfl ht)
      · exact hrest.2 ⟨data, hmem, ht⟩

theorem mem_wrapperDispatches {data : List UInt8} {broadcast : Bool} :
    (data, broadcast) ∈ wrapperDispatches effects ↔ .dispatch data broadcast ∈ effects := by
  rw [wrapperDispatches, List.mem_filterMap]
  constructor
  · rintro ⟨e, he, hd⟩
    cases e with
    | dispatch data' broadcast' =>
        cases hd
        exact he
    | _ => cases hd
  · exact fun h => ⟨_, h, rfl⟩

theorem senderOf_fromServer {message : List UInt8} (h : FromServer x message) :
    senderOf message = x % 16 := by
  obtain ⟨t, tail, rfl⟩ := h
  exact senderOf_header t x tail

theorem confined_processInput {recData : List UInt8} {skipdecrypt : Bool}
    (hx : ∀ message, AssignedIds.received decrypt (.receive recData skipdecrypt) = some message →
      senderOf message = x % 16) :
    Confined w (x % 16) (processInput b decrypt w recData skipdecrypt).wrapper
      (processInput b decrypt w recData skipdecrypt).effects := by
  obtain ⟨hwrapper, heffects⟩ := AssignedIds.processInput_received b decrypt w recData skipdecrypt
  rw [hwrapper, heffects]
  cases hrec : AssignedIds.received decrypt (.receive recData skipdecrypt) with
  | none => exact .nothing fun _ _ => List.not_mem_nil
  | some message =>
      rw [← hx message hrec]
      exact confined_processes (processMessage_processes b w message)

theorem kept_input (hfd : fd ≠ invalidSocket) (hL : Held x fd L) {cAddr : SockAddr}
    {recData : List UInt8} {skipdecrypt : Bool} {result : MesgProcessResult}
    (hx : ∀ message, AssignedIds.received decrypt (.receive recData skipdecrypt) = some message →
      senderOf message = x % 16)
    (h : input (processor b b.host decrypt .wrapper) L cAddr recData skipdecrypt =
      some (L', result)) : Kept x fd L L' := by
  obtain ⟨r, hr, he⟩ := Option.map_eq_some_iff.mp h
  obtain ⟨rfl, -⟩ := Prod.mk.inj he
  obtain ⟨hstray, rfl⟩ := of_wrapperReaction hr
  have hconf := confined_processInput (b := b) (w := L.program) hx
  have hd : ∀ d ∈ wrapperDispatches (processInput b decrypt L.program recData skipdecrypt).effects,
      typeOf d.1 = some .attrValueUpdate ∨ senderOf d.1 = x % 16 :=
    fun d hd => hconf.dispatches d.1 d.2 (mem_wrapperDispatches.mp hd)
  obtain ⟨hkept, hmapped⟩ := kept_dispatches (P := processor b b.host decrypt .wrapper)
    (L := { L with program := (processInput b decrypt L.program recData skipdecrypt).wrapper }) rfl hfd
    hd hL
  have hprogram := program_dispatches (P := processor b b.host decrypt .wrapper)
    (L := { L with program := (processInput b decrypt L.program recData skipdecrypt).wrapper })
    (wrapperDispatches (processInput b decrypt L.program recData skipdecrypt).effects)
  refine ⟨hkept.held, hkept.list, hkept.module.trans hconf.module,
    fun i hi => (hkept.entries i hi).trans (hconf.others i hi), hkept.channels, hkept.own,
    hkept.mapped, fun hmem => ?_, hkept.answers⟩
  change x % 16 ∈ (List.foldl _ _ _ : PyConnectNetComm PyConnectWrapper).program.serverMap at hmem
  rw [hprogram] at hmem
  rcases hconf.registers hmem with hmem | hnone | hs | ⟨data, hmem, ht⟩
  · exact .inl hmem
  · exact .inr (.inl hnone)
  · exact absurd hs hstray
  · exact .inr (.inr (hmapped ⟨data, mem_wrapperDispatches.mpr hmem, ht⟩))

theorem kept_inputs (hfd : fd ≠ invalidSocket) (hL : Held x fd L) {cAddr : SockAddr}
    {rest : List (List UInt8)} {results : List MesgProcessResult}
    (hx : ∀ recData ∈ rest, ∀ message, decrypt recData = some message → FromServer x message)
    (h : inputs (processor b b.host decrypt .wrapper) cAddr rest L = some (L', results)) :
    Kept x fd L L' := by
  induction rest generalizing L results with
  | nil =>
      obtain ⟨rfl, -⟩ := Prod.mk.inj (Option.some.inj h)
      exact .refl hL
  | cons recData rest ih =>
      obtain ⟨L₁, result, results', h₁, h₂, -⟩ := inputs_cons h
      have hone : Kept x fd L L₁ := by
        refine kept_input hfd hL (fun message hrec => ?_) h₁
        rw [AssignedIds.received] at hrec
        split at hrec
        · cases hrec
        · exact senderOf_fromServer (hx recData List.mem_cons_self message hrec)
      exact hone.trans (ih hone.held (fun y hy => hx y (List.mem_cons_of_mem recData hy)) h₂)

/-- Every channel is a connection of the client list, to a server with the id
under which it is found; and every registered server has one. -/
structure Inv (servers : Set Int) (S : System) : Prop where
  channels : ∀ i d : Int, S.layer.comm.objCommMap[i]? = some d → S.owner d % 16 = i ∧ d ∈ fds S.layer
  owners : ∀ d ∈ fds S.layer, S.owner d ∈ servers
  nonneg : ∀ d ∈ fds S.layer, 0 ≤ d
  replies : S.layer.program.pyConnectModule ≠ none → ∀ i ∈ S.layer.program.serverMap,
    ∃ d, S.layer.comm.objCommMap[i]? = some d

/-- What an event of `x` on `fd` has changed concerns `x`. -/
structure Concerns (x fd : Int) (L L' : PyConnectNetComm PyConnectWrapper) : Prop where
  module : L'.program.pyConnectModule = none ↔ L.program.pyConnectModule = none
  entries : ∀ i : Int, i ≠ x % 16 → L'.program.serverMap[i]? = L.program.serverMap[i]?
  channels : ∀ i : Int, i ≠ x % 16 → L'.comm.objCommMap[i]? = L.comm.objCommMap[i]?
  own : ∀ c, L'.comm.objCommMap[x % 16]? = some c → c = fd ∨ L.comm.objCommMap[x % 16]? = some c
  replies : L'.program.pyConnectModule ≠ none → x % 16 ∈ L'.program.serverMap → Mapped x L'
  answers : ∃ new, L'.written = L.written ++ new ∧ ∀ p ∈ new,
    typeOf p.2 ≠ some .attrValueUpdate → p.1 = fd ∨ L.comm.objCommMap[x % 16]? = some p.1

variable {S S' : System}

theorem mem_of_getElem? {map map' : Std.ExtTreeMap Int ServerInfo} {i : Int}
    (h : map'[i]? = map[i]?) : i ∈ map' ↔ i ∈ map := by
  rw [Std.ExtTreeMap.mem_iff_isSome_getElem?, Std.ExtTreeMap.mem_iff_isSome_getElem?, h]

theorem Concerns.mapped (h : Concerns x fd S.layer L') {i d : Int}
    (hd : L'.comm.objCommMap[i]? = some d) :
    (i = x % 16 ∧ d = fd) ∨ S.layer.comm.objCommMap[i]? = some d := by
  by_cases hi : i = x % 16
  · rw [hi] at hd ⊢
    exact (h.own d hd).imp (⟨rfl, ·⟩) id
  · rw [h.channels i hi] at hd
    exact .inr hd

theorem Kept.concerns (h : Kept x fd L L') (hinv : Inv servers S)
    (hprogram : L.program = S.layer.program) (hcomm : L.comm.objCommMap = S.layer.comm.objCommMap)
    (hwritten : L.written = S.layer.written) : Concerns x fd S.layer L' := by
  have hreplies : L'.program.pyConnectModule ≠ none → x % 16 ∈ L'.program.serverMap → Mapped x L' := by
    intro hmod hmem
    rcases h.registers hmem with hmem | hnone | hmapped
    · refine h.mapped ?_
      rw [Mapped, hcomm]
      rw [hprogram] at hmem
      exact hinv.replies (fun hn => hmod (h.module.mpr (by rw [hprogram, hn]))) _ hmem
    · exact absurd (h.module.mpr hnone) hmod
    · exact hmapped
  refine ⟨?_, fun i hi => ?_, fun i hi => ?_, fun c hc => ?_, hreplies, ?_⟩
  · rw [h.module, hprogram]
  · rw [h.entries i hi, hprogram]
  · rw [h.channels i hi, hcomm]
  · rw [← hcomm]
    exact h.own c hc
  · rw [← hcomm, ← hwritten]
    exact h.answers

theorem Concerns.idle (hinv : Inv servers S) (hprogram : L'.program = S.layer.program)
    (hcomm : L'.comm.objCommMap = S.layer.comm.objCommMap) (hwritten : L'.written = S.layer.written) :
    Concerns x fd S.layer L' := by
  refine ⟨by rw [hprogram], fun _ _ => by rw [hprogram], fun _ _ => by rw [hcomm],
    fun c hc => .inr (by rwa [hcomm] at hc), fun hmod hmem => ?_, [], ?_,
    fun _ h => absurd h List.not_mem_nil⟩
  · rw [hprogram] at hmod hmem
    rw [Mapped, hcomm]
    exact hinv.replies hmod _ hmem
  · rw [hwritten, List.append_nil]

/-- The invariant is kept, and the others notice nothing. -/
theorem Inv.concerns (hinv : Inv servers S) {owner : Int → Int} (hx : x ∈ servers) (h0 : 0 ≤ fd)
    (h : Concerns x fd S.layer L') (howner : ∀ d ∈ fds S.layer, owner d = S.owner d)
    (hfd : owner fd = x) (hlist : ∀ d ∈ fds L', d = fd ∨ d ∈ fds S.layer)
    (hmapped : ∀ i d : Int, L'.comm.objCommMap[i]? = some d → d ∈ fds L') :
    Inv servers ⟨L', owner⟩ ∧ ∀ y, x % 16 ≠ y % 16 →
      (∀ z ∈ servers, z % 16 = x % 16 → z = x) → Isolated S ⟨L', owner⟩ x y := by
  have hinv' : Inv servers ⟨L', owner⟩ := by
    refine ⟨fun i d hd => ⟨?_, hmapped i d hd⟩, fun d hd => ?_, fun d hd => ?_, fun hmod i hi => ?_⟩
    · rcases h.mapped hd with ⟨rfl, rfl⟩ | hd
      · exact congrArg (· % 16) hfd
      · obtain ⟨hi, hmem⟩ := hinv.channels i d hd
        exact (congrArg (· % 16) (howner d hmem)).trans hi
    · dsimp only
      rcases hlist d hd with rfl | hd
      · rw [hfd]
        exact hx
      · rw [howner d hd]
        exact hinv.owners d hd
    · rcases hlist d hd with rfl | hd
      · exact h0
      · exact hinv.nonneg d hd
    · by_cases hix : i = x % 16
      · rw [hix] at hi ⊢
        exact h.replies hmod hi
      · dsimp only
        rw [h.channels i hix]
        exact hinv.replies (fun hn => hmod (h.module.mpr hn)) i ((mem_of_getElem? (h.entries i hix)).mp hi)
  refine ⟨hinv', fun y hy hinj => ⟨h.entries _ (Ne.symm hy), h.channels _ (Ne.symm hy), ?_,
    fun hmod hmem => ?_⟩⟩
  · obtain ⟨new, hnew, hanswers⟩ := h.answers
    refine ⟨new, hnew, fun p hp ht => ?_⟩
    rcases hanswers p hp ht with he | hd
    · rw [he]
      exact hfd
    · obtain ⟨hi, hmem⟩ := hinv.channels _ _ hd
      exact (howner _ hmem).trans (hinj _ (hinv.owners _ hmem) hi)
  · obtain ⟨d, hd⟩ := h.replies hmod hmem
    obtain ⟨hi, hmem⟩ := hinv'.channels _ d hd
    exact ⟨d, hd, hmem, hinj _ (hinv'.owners d hmem) hi⟩

/-- A step keeps the invariant and concerns only the server that takes it. -/
def Isolates (servers : Set Int) (S : System) (x : Int) (S' : System) : Prop :=
  x ∈ servers ∧ Inv servers S' ∧ ∀ y, x % 16 ≠ y % 16 →
    (∀ z ∈ servers, z % 16 = x % 16 → z = x) → Isolated S S' x y

theorem valid_of_nonneg {d : Int} (h : 0 ≤ d) : d ≠ invalidSocket := by
  rw [invalidSocket]
  omega

theorem isolates_read (hinv : Inv servers S) {client : ClientFD} {chunk : List UInt8}
    {its : List Reassembly.Iteration} {info : Reassembly.SocketDataBufferInfo}
    {results : List MesgProcessResult}
    (hclient : S.layer.clientFDList.find? (·.fd = fd) = some client)
    (hread : Reassembly.processRead b.host.bigEndian client.dataInfo chunk = some (its, info))
    (hfrom : ∀ recData ∈ Reassembly.deliveries its, ∀ message, decrypt recData = some message →
      FromServer (S.owner fd) message)
    (h : processIncomingData (processor b b.host decrypt .wrapper) S.layer fd chunk =
      some (L', results)) :
    Isolates servers S (S.owner fd) ⟨L', S.owner⟩ := by
  obtain ⟨client', its', info', clientFDList, hclient', hread', hlist, hin⟩ :=
    of_processIncomingData h
  obtain rfl := Option.some.inj (hclient.symm.trans hclient')
  obtain ⟨rfl, rfl⟩ := Prod.mk.inj (Option.some.inj (hread.symm.trans hread'))
  have hfd : fd ∈ fds S.layer := by
    have he : client.fd = fd := by simpa using List.find?_some hclient
    rw [← he]
    exact List.mem_map_of_mem (List.mem_of_find?_eq_some hclient)
  have h0 := hinv.nonneg fd hfd
  have hkept := kept_inputs (x := S.owner fd) (valid_of_nonneg h0) (.inl rfl) hfrom hin
  have hfds : fds L' = fds S.layer := by
    rw [fds, hkept.list]
    exact hlist
  have hconcerns := hkept.concerns hinv rfl rfl rfl
  refine ⟨hinv.owners fd hfd, hinv.concerns (hinv.owners fd hfd) h0 hconcerns (fun _ _ => rfl) rfl
    (fun d hd => .inr (by rwa [hfds] at hd)) (fun i d hd => ?_)⟩
  rw [hfds]
  rcases hconcerns.mapped hd with ⟨-, rfl⟩ | hd
  · exact hfd
  · exact (hinv.channels i d hd).2

theorem not_mem_of_unused {d : Int} (h : Unused L d) : d ∉ fds L := by
  intro hmem
  obtain ⟨client, hclient, he⟩ := List.mem_map.mp hmem
  exact h.2 client hclient he

theorem owner_update {d : Int} (h : d ∉ fds L) {owner : Int → Int} :
    ∀ e ∈ fds L, Function.update owner d x e = owner e := by
  intro e he
  refine Function.update_of_ne ?_ ..
  rintro rfl
  exact h he

theorem mem_fds_add {o : Opened} {cAddr : SockAddr} {d : Int} :
    d ∈ fds (addFdToClientList L o cAddr) ↔ d = o.fd ∨ d ∈ fds L := by
  rw [fds, addFdToClientList, List.map_append, List.mem_append, or_comm]
  exact or_congr List.mem_singleton Iff.rfl

theorem isolates_connect (hinv : Inv servers S) (hx : x ∈ servers) {o : Opened}
    (hunused : Unused S.layer o.fd) (cAddr : SockAddr) :
    Isolates servers S x ⟨addFdToClientList S.layer o cAddr, Function.update S.owner o.fd x⟩ := by
  have hconcerns : Concerns x o.fd S.layer (addFdToClientList S.layer o cAddr) :=
    .idle hinv rfl rfl rfl
  exact ⟨hx, hinv.concerns hx hunused.1 hconcerns (owner_update (not_mem_of_unused hunused))
    (Function.update_self ..) (fun d hd => mem_fds_add.mp hd)
    fun i d hd => mem_fds_add.mpr (.inr (hinv.channels i d hd).2)⟩

theorem unmapped_of_unused (hinv : Inv servers S) {d : Int} (hd : d ∉ fds S.layer) (i : Int) :
    S.layer.comm.objCommMap[i]? ≠ some d := fun hi => hd (hinv.channels i d hi).2

theorem findMapping_unmapped {c : ObjectComm} {d : Int} (h : ∀ i : Int, c.objCommMap[i]? ≠ some d) :
    findMapping c d = none := by
  cases hf : findMapping c d with
  | none => rfl
  | some i => exact absurd (findMapping_some hf) (h i)

theorem channelShutdown_unmapped {d : Int} (h : ∀ i : Int, L.comm.objCommMap[i]? ≠ some d)
    (notifyMesgProc : Bool) : channelShutdown P L d notifyMesgProc = L := by
  rw [channelShutdown, objCommChannelShutdown, findMapping_unmapped h]

theorem fds_destroyCurrentClient {d e : Int} (hne : e ≠ d) :
    e ∈ fds (destroyCurrentClient L d) ↔ e ∈ fds L := by
  rw [fds, fds, destroyCurrentClient, List.mem_map, List.mem_map]
  constructor
  · rintro ⟨client, hmem, rfl⟩
    exact ⟨client, List.mem_of_mem_eraseP hmem, rfl⟩
  · rintro ⟨client, hmem, rfl⟩
    exact ⟨client, (List.mem_eraseP_of_neg (by simpa using hne)).mpr hmem, rfl⟩

theorem mem_fds_of_destroy {d e : Int} (h : e ∈ fds (destroyCurrentClient L d)) : e ∈ fds L := by
  obtain ⟨client, hmem, rfl⟩ := List.mem_map.mp h
  exact List.mem_map_of_mem (List.mem_of_mem_eraseP hmem)

variable (decrypt) in
theorem received_skip {x : Int} {message : List UInt8} (hfrom : FromServer x message) :
    ∀ message', AssignedIds.received decrypt (.receive message true) = some message' →
      senderOf message' = x % 16 := by
  intro message' hrec
  rw [AssignedIds.received] at hrec
  split at hrec
  · cases hrec
  · obtain rfl := Option.some.inj hrec
    exact senderOf_fromServer hfrom

theorem isolates_refused (hinv : Inv servers S) (hx : x ∈ servers) {o : Opened}
    (hunused : Unused S.layer o.fd) {cAddr : SockAddr} {message : List UInt8}
    (hfrom : FromServer x message)
    (h : talkerInput (processor b b.host decrypt .wrapper) (addFdToClientList S.layer o cAddr) cAddr
      message = some (L', .toShutdown)) :
    Isolates servers S x ⟨L', Function.update S.owner o.fd x⟩ := by
  have hne := not_mem_of_unused hunused
  obtain ⟨r, hr, hsilent, rfl⟩ :=
    talkerInput_toShutdown (silent_processor b b.host decrypt .wrapper) h
  have hconf := confined_processInput (b := b) (w := S.layer.program)
    (received_skip decrypt hfrom)
  obtain ⟨hstray, rfl⟩ := of_wrapperReaction hr
  dsimp only at hsilent
  rw [channelShutdown_unmapped (P := processor b b.host decrypt .wrapper)
    (L := ⟨⟨S.layer.comm.objCommMap, invalidSocket⟩,
      (addFdToClientList S.layer o cAddr).clientFDList,
      (processInput b decrypt S.layer.program message true).wrapper, S.layer.written⟩)
    (unmapped_of_unused hinv hne) false]
  refine ⟨hx, hinv.concerns hx hunused.1 ⟨hconf.module, hconf.others, fun _ _ => rfl, fun _ => .inr,
    fun hmod hmem => ?_, [], (List.append_nil _).symm, fun _ h => absurd h List.not_mem_nil⟩
    (owner_update hne) (Function.update_self ..) (fun d hd => ?_) (fun i d hd => ?_)⟩
  · rcases hconf.registers hmem with hmem | hnone | hs | ⟨data, hd, -⟩
    · exact hinv.replies (fun hn => hmod (hconf.module.mpr hn)) _ hmem
    · exact absurd (hconf.module.mpr hnone) hmod
    · exact absurd hs hstray
    · have hd := mem_wrapperDispatches.mpr hd
      rw [hsilent] at hd
      cases hd
  · exact mem_fds_add.mp (mem_fds_of_destroy hd)
  · have hmem := (hinv.channels i d hd).2
    have hother : d ≠ o.fd := by
      rintro rfl
      exact hne hmem
    exact (fds_destroyCurrentClient hother).mpr (mem_fds_add.mpr (.inr hmem))

theorem isolates_talker (hinv : Inv servers S) (hx : x ∈ servers) {o : Opened}
    (hunused : Unused S.layer o.fd) {cAddr : SockAddr} {message : List UInt8}
    {result : MesgProcessResult} (hfrom : FromServer x message)
    (h : talkerInput (processor b b.host decrypt .wrapper) (addFdToClientList S.layer o cAddr) cAddr
      message = some (L', result)) :
    Isolates servers S x ⟨L', Function.update S.owner o.fd x⟩ := by
  by_cases hshut : result = .toShutdown
  · subst hshut
    exact isolates_refused hinv hx hunused hfrom h
  · simp only [talkerInput, Option.bind_eq_bind, Option.bind_eq_some_iff, Prod.exists] at h
    obtain ⟨L₁, result₁, hin, h⟩ := h
    have hkept : Kept x o.fd (addFdToClientList S.layer o cAddr) L₁ :=
      kept_input (valid_of_nonneg hunused.1) (.inl rfl) (received_skip decrypt hfrom) hin
    have hconcerns := hkept.concerns hinv rfl rfl rfl
    have hlist : fds L₁ = fds (addFdToClientList S.layer o cAddr) := by
      rw [fds, fds, hkept.list]
    have hkeep : L' = L₁ := by
      split at h
      next hresult => exact absurd ((Prod.mk.inj (Option.some.inj h)).2.symm.trans hresult) hshut
      next => exact (Prod.mk.inj (Option.some.inj h)).1.symm
    subst hkeep
    refine ⟨hx, hinv.concerns hx hunused.1 hconcerns (owner_update (not_mem_of_unused hunused))
      (Function.update_self ..) (fun d hd => ?_) (fun i d hd => ?_)⟩
    · rw [hlist] at hd
      exact mem_fds_add.mp hd
    · rw [hlist]
      exact mem_fds_add.mpr ((hconcerns.mapped hd).imp And.right fun hd => (hinv.channels i d hd).2)

theorem restoreMessage_header {t : PyConnectMsg} {body : List UInt8} {p q : UInt8} :
    NetComm.restoreMessage (header t x :: (body ++ [p, q, msgEnd])) =
      header t x :: (body ++ [msgEnd]) := by
  have hlen : (header t x :: (body ++ [p, q, msgEnd])).length - 3 = body.length + 1 := by
    rw [List.length_cons, List.length_append]
    rfl
  rw [NetComm.restoreMessage, hlen, List.take_succ_cons, List.take_left, List.cons_append]

theorem isolates_datagram (hinv : Inv servers S) (hx : x ∈ servers) {o : Opened} {connected : Bool}
    {cAddr : SockAddr} {recBuffer : List UInt8} {results : List MesgProcessResult}
    (hunused : Unused S.layer o.fd)
    (hfrom : ∀ message, decrypt recBuffer = some message →
      ∃ t body p q, message = header t x :: (body ++ [p, q, msgEnd]))
    (h : processUDPInput (processor b b.host decrypt .wrapper) S.layer
      (if connected then some o else none) cAddr recBuffer = some (L', results)) :
    Isolates servers S x ⟨L', Function.update S.owner o.fd x⟩ := by
  -- a datagram that makes no connection changes nothing
  have hidle : Isolates servers S x ⟨S.layer, Function.update S.owner o.fd x⟩ := by
    exact ⟨hx, hinv.concerns hx hunused.1 (.idle hinv rfl rfl rfl)
      (owner_update (not_mem_of_unused hunused)) (Function.update_self ..) (fun d hd => .inr hd)
      fun i d hd => (hinv.channels i d hd).2⟩
  have hprocessor : (processor b b.host decrypt .wrapper).decrypt = decrypt := rfl
  rw [processUDPInput, hprocessor] at h
  cases hdec : decrypt recBuffer with
  | none =>
      rw [hdec] at h
      obtain ⟨rfl, -⟩ := Prod.mk.inj (Option.some.inj h)
      exact hidle
  | some message =>
      obtain ⟨t, body, p, q, rfl⟩ := hfrom message hdec
      rw [hdec] at h
      dsimp only at h
      rw [if_neg fun hside => Side.noConfusion hside.1] at h
      split at h
      · rw [if_neg (by simp)] at h
        cases connected with
        | false =>
            obtain ⟨rfl, -⟩ := Prod.mk.inj (Option.some.inj h)
            exact hidle
        | true =>
            obtain ⟨r, htalker, he⟩ := Option.map_eq_some_iff.mp h
            obtain ⟨rfl, -⟩ := Prod.mk.inj he
            rw [restoreMessage_header] at htalker
            exact isolates_talker hinv hx hunused ⟨t, _, rfl⟩ htalker
      · obtain ⟨rfl, -⟩ := Prod.mk.inj (Option.some.inj h)
        exact hidle

theorem module_of_stray_shutdown
    (h : .stray ∈ (processInput b decrypt w (shutdownMessage .wrapper sid) true).effects) :
    w.pyConnectModule = none := by
  obtain ⟨h0, ht⟩ := StubMessage.msgType_header .serverShutdown sid
  have heffects : (processInput b decrypt w (shutdownMessage .wrapper sid) true).effects =
      (serverShutdown w (sid % 16)).2.2 := by
    simp [processInput, shutdownMessage, processMessage, Decoding.byte, Decoding.startAt, h0, ht,
      lowNibble_header]
  rw [heffects, serverShutdown] at h
  split at h
  · dsimp only at h
    split at h
    · cases List.mem_singleton.mp h
    next hmod => simpa using hmod
  · cases h

variable (b decrypt) in
theorem shutdownMessage_program (hsid : sid % 16 = sid) :
    let w' := ((processor b b.host decrypt .wrapper).processInput w (shutdownMessage .wrapper sid)
      dummyAddr true).map (·.program) |>.getD w
    (w'.pyConnectModule = none ↔ w.pyConnectModule = none) ∧
      (∀ i : Int, i ≠ sid → w'.serverMap[i]? = w.serverMap[i]?) ∧
      (w'.pyConnectModule ≠ none → sid ∉ w'.serverMap) := by
  have hgone := ChannelShutdown.wrapper_shutdown b decrypt w sid
  have hconf := confined_processInput (b := b) (w := w)
    (received_skip decrypt (x := sid) ⟨.serverShutdown, [0, msgEnd], rfl⟩)
  rw [hsid] at hgone
  cases hr : (processor b b.host decrypt .wrapper).processInput w (shutdownMessage .wrapper sid)
      dummyAddr true with
  | none =>
      have hstray : .stray ∈ (processInput b decrypt w (shutdownMessage .wrapper sid) true).effects := by
        by_contra hno
        exact Option.some_ne_none _ ((if_neg hno).symm.trans hr)
      exact ⟨Iff.rfl, fun _ _ => rfl, fun hmod => absurd (module_of_stray_shutdown hstray) hmod⟩
  | some r =>
      obtain ⟨hstray, rfl⟩ := of_wrapperReaction hr
      refine ⟨hconf.module, fun i hi => (hgone i).trans (if_neg hi), fun _ hmem => ?_⟩
      rw [Std.ExtTreeMap.mem_iff_isSome_getElem?] at hmem
      change ((processInput b decrypt w (shutdownMessage .wrapper sid) true).wrapper.serverMap[sid]?).isSome
        = true at hmem
      rw [hgone, if_pos rfl] at hmem
      cases hmem

theorem isolates_close (hinv : Inv servers S) {client : ClientFD}
    (hmem : client ∈ S.layer.clientFDList) :
    Isolates servers S (S.owner client.fd)
      ⟨socketClosed (processor b b.host decrypt .wrapper) S.layer client.fd, S.owner⟩ := by
  have hfd : client.fd ∈ fds S.layer := List.mem_map_of_mem hmem
  have hx := hinv.owners _ hfd
  have h0 := hinv.nonneg _ hfd
  have hlist : ∀ L : PyConnectNetComm PyConnectWrapper, L.clientFDList = S.layer.clientFDList →
      ∀ d ∈ fds (destroyCurrentClient L client.fd), d = client.fd ∨ d ∈ fds S.layer := by
    intro L hL d hd
    have hmem := mem_fds_of_destroy hd
    rw [fds, hL] at hmem
    exact .inr hmem
  have hmapped : ∀ (L : PyConnectNetComm PyConnectWrapper) (d : Int),
      L.clientFDList = S.layer.clientFDList → d ∈ fds S.layer → d ≠ client.fd →
      d ∈ fds (destroyCurrentClient L client.fd) := by
    intro L d hL hd hne
    exact (fds_destroyCurrentClient hne).mpr (by rwa [fds, hL])
  rw [socketClosed]
  cases hfind : findMapping S.layer.comm client.fd with
  | none =>
      have hunmapped := findMapping_none hfind
      rw [channelShutdown_unmapped hunmapped]
      refine ⟨hx, hinv.concerns hx h0 (.idle hinv rfl rfl rfl) (fun _ _ => rfl) rfl (hlist _ rfl)
        fun i d hd => hmapped _ d rfl (hinv.channels i d hd).2 ?_⟩
      rintro rfl
      exact hunmapped i hd
  | some id =>
      obtain ⟨hid, -⟩ := hinv.channels id _ (findMapping_some hfind)
      have hsid : id % 16 = id := by omega
      rw [channelShutdown, objCommChannelShutdown, hfind]
      dsimp only
      rw [if_pos rfl]
      obtain ⟨hmodule, hothers, hgone⟩ := shutdownMessage_program b decrypt
        (w := S.layer.program) hsid
      refine ⟨hx, hinv.concerns hx h0 ⟨hmodule, fun i hi => ?_, fun i hi => ?_, fun c hc => ?_,
        fun hmod hmem => ?_, [], (List.append_nil _).symm, fun _ h => absurd h List.not_mem_nil⟩
        (fun _ _ => rfl) rfl (hlist _ rfl) fun i d hd => ?_⟩
      · rw [hid] at hi
        exact hothers i hi
      · rw [hid] at hi
        exact (get_erase ..).trans (if_neg hi)
      · change (S.layer.comm.objCommMap.erase id)[S.owner client.fd % 16]? = some c at hc
        rw [get_erase, if_pos hid] at hc
        cases hc
      · rw [hid] at hmem
        exact absurd hmem (hgone hmod)
      · change (S.layer.comm.objCommMap.erase id)[i]? = some d at hd
        rw [get_erase] at hd
        split at hd
        · cases hd
        next hne =>
          obtain ⟨hi, hmem⟩ := hinv.channels i d hd
          refine hmapped _ d rfl hmem ?_
          rintro rfl
          exact hne (hi.symm.trans hid)

theorem step_isolates (hinv : Inv servers S) (h : Step b decrypt servers S x S') :
    Isolates servers S x S' := by
  cases h with
  | datagram _ o connected cAddr recBuffer layer results hx hunused hfrom h =>
      exact isolates_datagram hinv hx hunused hfrom h
  | connect _ o cAddr hx hunused => exact isolates_connect hinv hx hunused cAddr
  | read fd client chunk its info layer results hclient hread hfrom h =>
      exact isolates_read hinv hclient hread hfrom h
  | close client hmem => exact isolates_close hinv hmem

theorem channels_dispatches (hP : P.side = .wrapper) {dispatches : List (List UInt8 × Bool)}
    (hd : ∀ d ∈ dispatches, mapsChannel .wrapper (typeOf d.1) = false) :
    (dispatches.foldl (fun L d => dataPacketSender P L d.1 d.2) L).comm = L.comm := by
  induction dispatches generalizing L with
  | nil => rfl
  | cons d dispatches ih =>
      rw [List.foldl_cons, ih fun d' h => hd d' (List.mem_cons_of_mem d h), dataPacketSender]
      split
      · rfl
      · obtain ⟨new, he, -⟩ := clientDataSend_finds hP (L := L) (hd d List.mem_cons_self)
        rw [he]

theorem Inv.act (hinv : Inv servers S) {r : PyConnectWrapper × List Wrapper.Effect}
    (hr : ∀ data broadcast, .dispatch data broadcast ∈ r.2 →
      mapsChannel .wrapper (typeOf data) = false)
    (hmod : r.1.pyConnectModule ≠ none → S.layer.program.pyConnectModule ≠ none)
    (hmem : ∀ i ∈ r.1.serverMap, i ∈ S.layer.program.serverMap) :
    Inv servers ⟨act (processor b b.host decrypt .wrapper) S.layer r, S.owner⟩ := by
  have hcomm : (ServerIsolation.act (processor b b.host decrypt .wrapper) S.layer r).comm =
      S.layer.comm :=
    channels_dispatches rfl fun d hd => hr d.1 d.2 (mem_wrapperDispatches.mp hd)
  have hfds : fds (ServerIsolation.act (processor b b.host decrypt .wrapper) S.layer r) =
      fds S.layer := by
    rw [fds, ServerIsolation.act, clientFDList_dispatches]
    rfl
  have hprogram : (ServerIsolation.act (processor b b.host decrypt .wrapper) S.layer r).program =
      r.1 := program_dispatches _
  refine ⟨fun i d hd => ?_, fun d hd => ?_, fun d hd => ?_, fun hm i hi => ?_⟩
  · dsimp only at hd ⊢
    rw [hcomm] at hd
    rw [hfds]
    exact hinv.channels i d hd
  · dsimp only at hd
    rw [hfds] at hd
    exact hinv.owners d hd
  · dsimp only at hd
    rw [hfds] at hd
    exact hinv.nonneg d hd
  · dsimp only at hm hi ⊢
    rw [hprogram] at hm hi
    rw [hcomm]
    exact hinv.replies (hmod hm) i (hmem i hi)

theorem updateAttribute_wrapper (w : PyConnectWrapper) (name : List UInt8) (v : Values.Value) :
    (updateAttribute b w name v).1 = w ∧
      ∀ data broadcast, .dispatch data broadcast ∈ (updateAttribute b w name v).2 →
        typeOf data = some .attrValueUpdate := by
  obtain hw | ⟨m, hw⟩ := Option.eq_none_or_eq_some w.pyConnectModule
  · rw [updateAttribute, hw]
    refine ⟨rfl, fun data broadcast hd => ?_⟩
    cases List.mem_singleton.mp hd
  · by_cases hname : name ∈ m.attributes
    · rw [updateAttribute_registered hw hname]
      refine ⟨rfl, fun data broadcast hd => ?_⟩
      obtain ⟨y, -, he⟩ := List.mem_map.mp hd
      obtain ⟨tail, hdata⟩ := valueData_header b.host .attrValueUpdate y.1 y.2.assignedModuleID
        (distance m.attributes name) v .noErrors
      rw [← (Wrapper.Effect.dispatch.inj he).1, hdata, typeOf_header]
    · rw [updateAttribute, hw]
      dsimp only
      rw [if_neg hname]
      exact ⟨rfl, fun data broadcast hd => absurd hd List.not_mem_nil⟩

theorem inv_own (hinv : Inv servers S) (h : Own b decrypt S S') : Inv servers S' := by
  cases h with
  | updateAttribute name v =>
      obtain ⟨hwrapper, htype⟩ := updateAttribute_wrapper (b := b) S.layer.program name v
      refine hinv.act (fun data broadcast hd => ?_) ?_ ?_
      · rw [htype data broadcast hd]
        rfl
      · rw [hwrapper]
        exact id
      · rw [hwrapper]
        exact fun _ => id
  | moduleShutdown =>
      refine hinv.act (fun data broadcast hd => ?_) (fun h => absurd rfl h)
        fun i hi => absurd hi Std.ExtTreeMap.not_mem_empty
      obtain ⟨y, -, he⟩ := List.mem_map.mp hd
      rw [← (Wrapper.Effect.dispatch.inj he).1, typeOf_header]
      rfl

theorem inv_reach (h : Reach b decrypt servers S) : Inv servers S := by
  induction h with
  | start w owner hw =>
      refine ⟨fun i d hd => ?_, fun d hd => absurd hd List.not_mem_nil,
        fun d hd => absurd hd List.not_mem_nil, fun _ i hi => ?_⟩
      · change (∅ : Std.ExtTreeMap Int Int)[i]? = some d at hd
        rw [Std.ExtTreeMap.getElem?_empty] at hd
        cases hd
      · dsimp only at hi
        rw [hw] at hi
        exact absurd hi Std.ExtTreeMap.not_mem_empty
  | server hreach hstep ih => exact (step_isolates ih hstep).2.1
  | own hreach hown ih => exact inv_own ih hown

def lonely : PyConnectWrapper := Wrapper.init (text "m") []

variable (b decrypt) in
theorem processInput_discovery (cAddr : SockAddr) (x : Int) :
    ∃ r, (processor b b.host decrypt .wrapper).processInput lonely (discoveryData x) cAddr true =
      some r ∧ r.result = .processedOk ∧ r.program.serverMap[x % 16]? = some ⟨-1, true⟩ := by
  have hnew : ¬ x % 16 ∈ lonely.serverMap := Std.ExtTreeMap.not_mem_empty
  have hinput : processInput b decrypt lonely (discoveryData x) true =
      processMessage b lonely (discoveryData x) := rfl
  have hsize : (declarePacket b ⟨text "m", [], ∅, ∅⟩ (x % 16)).totalMsgSize = 6 := rfl
  have hsend := Wrapper.send_eq (p := declarePacket b ⟨text "m", [], ∅, ∅⟩ (x % 16))
    (by rw [hsize]; decide) false
  change ∃ r, wrapperReaction (processInput b decrypt lonely (discoveryData x) true) = some r ∧ _
  rw [hinput, processMessage_discovery, moduleDiscovery, if_neg hnew]
  dsimp only
  rw [declarePyConnectModule.eq_def]
  change ∃ r, wrapperReaction ⟨_, _, [Wrapper.send _ false], _, _⟩ = some r ∧ _
  rw [hsend]
  exact ⟨_, rfl, rfl, (get_insert ..).trans (if_pos rfl)⟩

theorem processUDPInput_discovery {encrypt : List UInt8 → List UInt8}
    (hdecrypt : ∀ message, decrypt (encrypt message) = some message)
    {L : PyConnectNetComm PyConnectWrapper} (hL : L.program = lonely) (o : Opened) (cAddr : SockAddr)
    (x : Int) :
    ∃ L' results, processUDPInput (processor b b.host decrypt .wrapper) L (some o) cAddr
        (encrypt [header .moduleDiscovery x, 0, 0, msgEnd]) = some (L', results) ∧
      L'.program.serverMap[x % 16]? = some ⟨-1, true⟩ := by
  have hverify : NetComm.verifyNegotiationMsg [header .moduleDiscovery x, 0, 0, msgEnd] =
      some .moduleDiscovery := by
    rw [NetComm.verifyNegotiationMsg, if_pos (by rfl)]
    exact (StubMessage.msgType_header .moduleDiscovery x).2
  have hrestore : NetComm.restoreMessage [header .moduleDiscovery x, 0, 0, msgEnd] =
      discoveryData x := rfl
  have haddr : ∀ c, ∃ L', talkerInput (processor b b.host decrypt .wrapper) (addFdToClientList L o c)
      c (discoveryData x) = some (L', .processedOk) ∧
        L'.program.serverMap[x % 16]? = some ⟨-1, true⟩ := by
    intro c
    obtain ⟨r, hr, hresult, hentry⟩ := processInput_discovery b decrypt c x
    obtain ⟨L', hin, hprogram⟩ : ∃ L', input (processor b b.host decrypt .wrapper)
        (addFdToClientList L o c) c (discoveryData x) true = some (L', .processedOk) ∧
        L'.program = r.program := by
      rw [input]
      change ∃ L', ((processor b b.host decrypt .wrapper).processInput L.program _ _ _).map _ = _ ∧ _
      rw [hL, hr, ← hresult]
      exact ⟨_, rfl, program_dispatches _⟩
    refine ⟨L', ?_, by rw [hprogram, hentry]⟩
    rw [talkerInput, hin]
    rfl
  obtain ⟨L', htalker, hentry⟩ := haddr (talkerAddr (processor b b.host decrypt .wrapper).bigEndian
    cAddr [header .moduleDiscovery x, 0, 0, msgEnd])
  refine ⟨L', [.processedOk], ?_, hentry⟩
  have hprocessor : (processor b b.host decrypt .wrapper).decrypt = decrypt := rfl
  rw [processUDPInput, hprocessor, hdecrypt]
  dsimp only
  rw [if_neg fun hside => Side.noConfusion hside.1, hverify, if_pos (by rfl), if_neg (by simp), hrestore]
  rw [htalker]
  rfl

/-- Servers that share the low four bits of their ids share an entry. -/
theorem not_separate {encrypt : List UInt8 → List UInt8}
    (hdecrypt : ∀ message, decrypt (encrypt message) = some message) {x y : Int} (hx : x ∈ servers)
    (hy : y ∈ servers) (hne : x ≠ y) (hxy : x % 16 = y % 16) : ¬ Separate b decrypt servers := by
  intro h
  obtain ⟨L', results, hL', hentry⟩ := processUDPInput_discovery (b := b) hdecrypt
    (L := ⟨ObjComm.init, [], lonely, []⟩) rfl ⟨0, default⟩ dummyAddr x
  have hreach : Reach b decrypt servers ⟨⟨ObjComm.init, [], lonely, []⟩, fun _ => 0⟩ :=
    .start _ _ rfl
  have hstep : Step b decrypt servers ⟨⟨ObjComm.init, [], lonely, []⟩, fun _ => 0⟩ x
      ⟨L', Function.update (fun _ => 0) 0 x⟩ := by
    refine .datagram _ x ⟨0, default⟩ true dummyAddr _ L' results hx ⟨Int.le_refl 0,
      fun _ h => absurd h List.not_mem_nil⟩ (fun message hm => ?_) hL'
    obtain rfl := Option.some.inj ((hdecrypt _).symm.trans hm)
    exact ⟨.moduleDiscovery, [], 0, 0, rfl⟩
  have hsame := (h _ _ x y hy hne hreach hstep).entry
  have hempty : lonely.serverMap[y % 16]? = none := Std.ExtTreeMap.getElem?_empty
  change L'.program.serverMap[y % 16]? = lonely.serverMap[y % 16]? at hsame
  rw [← hxy, hentry, hxy, hempty] at hsame
  cases hsame

theorem separate_of_injOn (h : Set.InjOn (· % 16) servers) : Separate b decrypt servers := by
  intro S S' x y hy hne hreach hstep
  obtain ⟨hx, -, hisolated⟩ := step_isolates (inv_reach hreach) hstep
  exact hisolated y (fun hxy => hne (h hx hy hxy)) fun z hz hzx => h hz hx hzx

/-- Servers leave one another alone at the module in every run exactly when no
two of them have ids with the same low four bits, which are all that a message
carries. -/
theorem separate_iff (b : Build) (encrypt : List UInt8 → List UInt8)
    (decrypt : List UInt8 → Option (List UInt8))
    (hdecrypt : ∀ message, decrypt (encrypt message) = some message) (servers : Set Int) :
    Separate b decrypt servers ↔ Set.InjOn (· % 16) servers := by
  refine ⟨fun h x hx y hy hxy => ?_, separate_of_injOn⟩
  by_contra hne
  exact not_separate hdecrypt hx hy hne hxy h

theorem separate_iff_two :
    Separate ⟨.little, true, true⟩ some {1, 2} ↔ Set.InjOn (· % 16) ({1, 2} : Set Int) :=
  separate_iff ⟨.little, true, true⟩ id some (fun _ => rfl) {1, 2}

/-- Servers 1 and 17 are one to the module. -/
theorem not_separate_octets : ¬ Separate ⟨.little, true, true⟩ some {1, 17} :=
  not_separate (fun message => (rfl : some (id message) = some message)) (Set.mem_insert 1 {17})
    (Set.mem_insert_of_mem 1 rfl)
    (by decide) (by decide)

end PyConnect.ServerIsolation

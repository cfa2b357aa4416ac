import PyConnect.Handshake

namespace PyConnect.Agreement

open Relation Bytes Common Values ObjComm NetComm Channels Stub StubMessage Wrapper Handshake

variable {b : Build} {host : Host} {port : Side → UInt8 × UInt8} {m : PyConnectModule}
  {serverID : Int} {N N' : Network State} {c : Nat} {k k' : Connection} {fd fd' : Int}
  {cAddr : SockAddr} {data : List UInt8}

abbrev server (N : Network State) : Party PyConnectStub := N.parties .server

abbrev wrapper (N : Network State) : Party PyConnectWrapper := N.parties .wrapper

def typeOf (data : List UInt8) : Option PyConnectMsg :=
  PyConnectMsg.ofCode (msgTypeOf (data.getD 0 0))

def assignment (b : Build) (m : PyConnectModule) (serverID : Int) : List UInt8 :=
  assignData serverID (declaredName b m) 1

/-- The wrapper has neither processed a MODULE_ASSIGN_ID nor exposed the
module. -/
structure Unassigned (N : Network State) : Prop where
  processed : ∀ data ∈ (wrapper N).processed, typeOf data ≠ some .moduleAssignId
  exposed : ∀ data ∈ (wrapper N).sent, typeOf data ≠ some .attrMetdExpose

structure Unregistered (N : Network State) : Prop extends Unassigned N where
  modules : (server N).program.modules = []
  nextObjId : (server N).program.nextObjId = 1
  sent : (server N).sent = []
  inbox : ∀ c k, N.conns c = some k → k.inbox .wrapper = []

/-- The wrapper has processed the assignment and, if it is for its module,
uses the connection that it came on. -/
structure Assigned (b : Build) (m : PyConnectModule) (serverID : Int) (N : Network State)
    (k : Connection) : Prop where
  processed : ∀ data ∈ (wrapper N).processed,
    typeOf data = some .moduleAssignId → data = assignment b m serverID
  exposed : ((wrapper N).sent.filter fun data => typeOf data = some .attrMetdExpose).length ≤ 1
  agreed : declaredName b m = m.name → ∃ info fd,
    (wrapper N).program.serverMap[serverID % 16]? = some info ∧ info.assignedModuleID = 1 ∧
      (wrapper N).comm.objCommMap[serverID % 16]? = some fd ∧ k.sockets .wrapper = .client fd

/-- The server has registered the module and sent it its id on this
connection, where it still is or from where the wrapper has read it. -/
structure Registered (b : Build) (m : PyConnectModule) (serverID : Int) (N : Network State)
    (c : Nat) (k : Connection) (fd : Int) : Prop where
  modules : (server N).program.modules.map entry = [(1, declaredName b m)]
  sent : (server N).sent = [assignment b m serverID]
  mapped : (server N).comm.objCommMap[(1 : Int)]? = some fd
  conn : N.conns c = some k
  socket : k.sockets .server = .client fd
  live : k.sockets .wrapper ≠ .closed
  others : ∀ c' k', N.conns c' = some k' → c' ≠ c → k'.inbox .wrapper = []
  flow : (k.inbox .wrapper = [assignment b m serverID] ∧ Unassigned N) ∨
    (k.inbox .wrapper = [] ∧ Assigned b m serverID N k)

def FromWrapper (b : Build) (m : PyConnectModule) (data : List UInt8) : Prop :=
  (∃ serverId, data = declareData b m serverId) ∨ Describes data

structure Inv (b : Build) (host : Host) (port : Side → UInt8 × UInt8) (m : PyConnectModule)
    (serverID : Int) (N : Network State) : Prop where
  wired : Wired N
  module : (wrapper N).program.pyConnectModule = some m
  id : (server N).program.serverID = serverID
  air : ∀ data ∈ N.air, data = broadcastForm (programs b host port) .wrapper (declareData b m 0) ∨
    data = broadcastForm (programs b host port) .server (discoveryData serverID)
  toServer : ∀ c k, N.conns c = some k → ∀ data ∈ k.inbox .server, FromWrapper b m data
  stage : Unregistered N ∨ ∃ c k fd, Registered b m serverID N c k fd

theorem server_ne_wrapper : Side.server ≠ Side.wrapper := by decide

theorem wrapper_withServer (N : Network State) (p : Party PyConnectStub) :
    wrapper (N.withParty .server p) = wrapper N := withParty_of_ne N server_ne_wrapper.symm p

theorem server_withWrapper (N : Network State) (p : Party PyConnectWrapper) :
    server (N.withParty .wrapper p) = server N := withParty_of_ne N server_ne_wrapper p

theorem server_withServer (N : Network State) (p : Party PyConnectStub) :
    server (N.withParty .server p) = p := withParty_self N .server p

theorem wrapper_withWrapper (N : Network State) (p : Party PyConnectWrapper) :
    wrapper (N.withParty .wrapper p) = p := withParty_self N .wrapper p

theorem server_withConn (N : Network State) (c : Nat) (k : Connection) :
    server (N.withConn c k) = server N := rfl

theorem wrapper_withConn (N : Network State) (c : Nat) (k : Connection) :
    wrapper (N.withConn c k) = wrapper N := rfl

theorem Unassigned.congr (h : Unassigned N) (hw : wrapper N' = wrapper N) : Unassigned N' :=
  ⟨hw ▸ h.processed, hw ▸ h.exposed⟩

theorem Assigned.congr (h : Assigned b m serverID N k) (hw : wrapper N' = wrapper N)
    (hk : ∀ fd, k.sockets .wrapper = .client fd → k'.sockets .wrapper = .client fd) :
    Assigned b m serverID N' k' := by
  refine ⟨hw ▸ h.processed, hw ▸ h.exposed, fun hname => ?_⟩
  obtain ⟨info, fd, hinfo, hid, hmap, hfd⟩ := h.agreed hname
  exact ⟨info, fd, hw ▸ hinfo, hid, hw ▸ hmap, hk fd hfd⟩

theorem Registered.flow_congr (h : Registered b m serverID N c k fd)
    (hw : wrapper N' = wrapper N) (hinbox : k'.inbox .wrapper = k.inbox .wrapper)
    (hk : ∀ fd, k.sockets .wrapper = .client fd → k'.sockets .wrapper = .client fd) :
    (k'.inbox .wrapper = [assignment b m serverID] ∧ Unassigned N') ∨
      (k'.inbox .wrapper = [] ∧ Assigned b m serverID N' k') :=
  h.flow.imp (fun ⟨hin, hu⟩ => ⟨hinbox.trans hin, hu.congr hw⟩)
    fun ⟨hin, ha⟩ => ⟨hinbox.trans hin, ha.congr hw hk⟩

theorem Inv.withConn (h : Inv b host port m serverID N) (hwired : Wired (N.withConn c k'))
    (hserver : ∀ data ∈ k'.inbox .server, FromWrapper b m data)
    (hnew : N.conns c = none → k'.inbox .wrapper = [])
    (hold : ∀ k, N.conns c = some k → k'.inbox .wrapper = k.inbox .wrapper ∧
      ((∃ id fd : Int, (server N).comm.objCommMap[id]? = some fd ∧ k.sockets .server = .client fd) →
        (∀ side, k.sockets side ≠ .closed) → (∀ side, k'.sockets side ≠ .closed) ∧
          ∀ side fd, k.sockets side = .client fd → k'.sockets side = .client fd)) :
    Inv b host port m serverID (N.withConn c k') := by
  constructor
  · exact hwired
  · exact h.module
  · exact h.id
  · exact h.air
  · intro c' k₁ hc' data hdata
    rcases withConn_cases hc' with ⟨rfl, rfl⟩ | ⟨-, hc'⟩
    · exact hserver data hdata
    · exact h.toServer c' k₁ hc' data hdata
  · rcases h.stage with hu | ⟨c₀, k₀, fd, hr⟩
    · left
      refine ⟨hu.toUnassigned.congr rfl, hu.modules, hu.nextObjId, hu.sent, ?_⟩
      intro c' k₁ hc'
      rcases withConn_cases hc' with ⟨rfl, rfl⟩ | ⟨-, hc'⟩
      · cases hc : N.conns c' with
        | none => exact hnew hc
        | some k => exact (hold k hc).1.trans (hu.inbox c' k hc)
      · exact hu.inbox c' k₁ hc'
    · right
      by_cases he : c₀ = c
      · subst he
        obtain ⟨hinbox, hkeep⟩ := hold k₀ hr.conn
        have hlive : ∀ side, k₀.sockets side ≠ .closed := by
          intro side
          cases side with
          | server => exact hr.socket ▸ Socket.noConfusion
          | wrapper => exact hr.live
        obtain ⟨hlive', hclient⟩ := hkeep ⟨1, fd, hr.mapped, hr.socket⟩ hlive
        refine ⟨c₀, k', fd, hr.modules, hr.sent, hr.mapped, withConn_self .., hclient _ _ hr.socket,
          hlive' _, ?_, hr.flow_congr rfl hinbox (hclient _)⟩
        intro c' k₁ hc' hne
        rw [withConn_of_ne N hne] at hc'
        exact hr.others c' k₁ hc' hne
      · refine ⟨c₀, k₀, fd, hr.modules, hr.sent, hr.mapped, (withConn_of_ne N he k').trans hr.conn,
          hr.socket, hr.live, ?_, hr.flow_congr rfl rfl fun _ hfd => hfd⟩
        intro c' k₁ hc' hne
        rcases withConn_cases hc' with ⟨rfl, rfl⟩ | ⟨-, hc'⟩
        · cases hc : N.conns c' with
          | none => exact hnew hc
          | some k => exact (hold k hc).1.trans (hr.others c' k hc hne)
        · exact hr.others c' k₁ hc' hne

theorem Inv.withServer (h : Inv b host port m serverID N) {p : Party PyConnectStub}
    (hentries : p.program.modules.map entry = (server N).program.modules.map entry)
    (hnext : p.program.nextObjId = (server N).program.nextObjId)
    (hid : p.program.serverID = (server N).program.serverID) (hsent : p.sent = (server N).sent)
    (hmap : p.comm.objCommMap = (server N).comm.objCommMap) :
    Inv b host port m serverID (N.withParty .server p) := by
  have hs : server (N.withParty .server p) = p := server_withServer N p
  have hw := wrapper_withServer N p
  constructor
  · exact h.wired.sameMap hmap
  · rw [hw]
    exact h.module
  · rw [hs, hid]
    exact h.id
  · exact h.air
  · exact h.toServer
  · refine h.stage.imp (fun hu => ?_) fun ⟨c, k, fd, hr⟩ => ⟨c, k, fd, ?_⟩
    · refine ⟨hu.toUnassigned.congr hw, ?_, ?_, ?_, hu.inbox⟩
      · rw [hs]
        rw [hu.modules] at hentries
        exact List.map_eq_nil_iff.mp hentries
      · rw [hs, hnext]
        exact hu.nextObjId
      · rw [hs, hsent]
        exact hu.sent
    · refine ⟨?_, ?_, ?_, hr.conn, hr.socket, hr.live, hr.others,
        hr.flow_congr hw rfl fun _ hfd => hfd⟩
      · rw [hs, hentries]
        exact hr.modules
      · rw [hs, hsent]
        exact hr.sent
      · rw [hs, hmap]
        exact hr.mapped

/-- From `N` to `N'` the wrapper has neither processed a MODULE_ASSIGN_ID nor
exposed the module, and keeps the entry and the channel that the server has. -/
structure Quiet (serverID : Int) (N N' : Network State) : Prop where
  processed : ∀ data ∈ (wrapper N').processed, typeOf data = some .moduleAssignId →
    data ∈ (wrapper N).processed
  exposed : (wrapper N').sent.filter (fun data => typeOf data = some .attrMetdExpose) =
    (wrapper N).sent.filter fun data => typeOf data = some .attrMetdExpose
  kept : ∀ info, (wrapper N).program.serverMap[serverID % 16]? = some info →
    (wrapper N').program.serverMap[serverID % 16]? = some info ∧
      (wrapper N').comm.objCommMap[serverID % 16]? = (wrapper N).comm.objCommMap[serverID % 16]?

theorem Unassigned.quiet (h : Unassigned N) (hq : Quiet serverID N N') : Unassigned N' := by
  constructor
  · intro data hdata ht
    exact h.processed data (hq.processed data hdata ht) ht
  · intro data hdata ht
    have hmem : data ∈ (wrapper N).sent.filter fun data => typeOf data = some .attrMetdExpose := by
      rw [← hq.exposed, List.mem_filter]
      exact ⟨hdata, decide_eq_true ht⟩
    exact h.exposed data (List.mem_filter.mp hmem).1 ht

theorem Assigned.quiet (h : Assigned b m serverID N k) (hq : Quiet serverID N N') :
    Assigned b m serverID N' k := by
  constructor
  · intro data hdata ht
    exact h.processed data (hq.processed data hdata ht) ht
  · rw [hq.exposed]
    exact h.exposed
  · intro hname
    obtain ⟨info, fd, hinfo, hid, hfd, hk⟩ := h.agreed hname
    obtain ⟨hinfo', hmap⟩ := hq.kept info hinfo
    exact ⟨info, fd, hinfo', hid, hmap.trans hfd, hk⟩

theorem Inv.withWrapper (h : Inv b host port m serverID N) {p : Party PyConnectWrapper}
    (hwired : Wired (N.withParty .wrapper p))
    (hmod : p.program.pyConnectModule = (wrapper N).program.pyConnectModule)
    (hq : Quiet serverID N (N.withParty .wrapper p)) :
    Inv b host port m serverID (N.withParty .wrapper p) := by
  have hs := server_withWrapper N p
  have hw : wrapper (N.withParty .wrapper p) = p := wrapper_withWrapper N p
  constructor
  · exact hwired
  · rw [hw, hmod]
    exact h.module
  · rw [hs]
    exact h.id
  · exact h.air
  · exact h.toServer
  · refine h.stage.imp (fun hu => ?_) fun ⟨c, k, fd, hr⟩ => ⟨c, k, fd, ?_⟩
    · refine ⟨hu.toUnassigned.quiet hq, ?_, ?_, ?_, hu.inbox⟩
      · rw [hs]
        exact hu.modules
      · rw [hs]
        exact hu.nextObjId
      · rw [hs]
        exact hu.sent
    · refine ⟨?_, ?_, ?_, hr.conn, hr.socket, hr.live, hr.others, hr.flow.imp
        (fun ⟨hin, hu⟩ => ⟨hin, hu.quiet hq⟩) fun ⟨hin, ha⟩ => ⟨hin, ha.quiet hq⟩⟩
      · rw [hs]
        exact hr.modules
      · rw [hs]
        exact hr.sent
      · rw [hs]
        exact hr.mapped

theorem Inv.withComm (h : Inv b host port m serverID N) (side : Side) {comm : ObjectComm}
    (hmap : comm.objCommMap = (N.parties side).comm.objCommMap) :
    Inv b host port m serverID (N.withComm side comm) := by
  cases side with
  | server => exact h.withServer rfl rfl rfl rfl hmap
  | wrapper =>
      refine h.withWrapper ?_ ?_ ⟨?_, ?_, ?_⟩
      · exact h.wired.sameMap hmap
      · rfl
      · rw [wrapper_withWrapper]
        exact fun _ hdata _ => hdata
      · rw [wrapper_withWrapper]
      · rw [wrapper_withWrapper]
        exact fun info hinfo => ⟨hinfo, by rw [hmap]⟩

theorem Inv.broadcast (h : Inv b host port m serverID N) {side : Side}
    (hdata : data ∈ (programs b host port).announcements side (N.parties side).program) :
    Inv b host port m serverID (dataPacketSender (programs b host port) N side data true) := by
  constructor
  · exact ⟨h.wired.nonneg, h.wired.distinct, h.wired.idle, h.wired.mapped⟩
  · exact h.module
  · exact h.id
  · intro packet hpacket
    rcases List.mem_append.mp hpacket with hpacket | hpacket
    · exact h.air packet hpacket
    · rw [List.mem_singleton] at hpacket
      cases side with
      | server =>
          right
          rw [← h.id, ← List.mem_singleton.mp hdata]
          exact hpacket
      | wrapper =>
          left
          rw [← announcement_wrapper h.module hdata]
          exact hpacket
  · exact h.toServer
  · rcases h.stage with hu | ⟨c, k, fd, hr⟩
    · exact .inl ⟨hu.toUnassigned.congr rfl, hu.modules, hu.nextObjId, hu.sent, hu.inbox⟩
    · exact .inr ⟨c, k, fd, hr.modules, hr.sent, hr.mapped, hr.conn, hr.socket, hr.live, hr.others,
        hr.flow_congr rfl rfl fun _ hfd => hfd⟩

theorem typeOf_assignment (b : Build) (m : PyConnectModule) (serverID : Int) :
    typeOf (assignment b m serverID) = some .moduleAssignId := by
  obtain ⟨-, ht⟩ := msgType_header .moduleAssignId serverID
  exact ht

theorem live_of {k : Connection} {side : Side} (hk : k.sockets side = .client fd)
    (hother : k.sockets side.other ≠ .closed) : ∀ side, k.sockets side ≠ .closed := by
  intro side'
  cases side <;> cases side' <;> first | exact hk ▸ Socket.noConfusion | exact hother

theorem Inv.register (h : Inv b host port m serverID N) (hu : Unregistered N)
    (hc : N.conns c = some k) (hk : k.sockets .server = .client fd)
    (hother : k.sockets .wrapper ≠ .closed) {p : Party PyConnectStub}
    (hentries : p.program.modules.map entry = [(1, declaredName b m)])
    (hid : p.program.serverID = serverID) (hsent : p.sent = [assignment b m serverID])
    (hmap : p.comm.objCommMap = (server N).comm.objCommMap.insert 1 fd) :
    Inv b host port m serverID
      ((N.withParty .server p).withConn c (k.write .server (assignment b m serverID))) := by
  have hlive := live_of hk hother
  have hs : server (N.withParty .server p) = p := server_withServer N p
  have hw := wrapper_withServer N p
  have hwired : Wired (N.withParty .server p) := h.wired.claim hc hk hlive hmap
  constructor
  · exact hwired.write hc hlive .server _
  · rw [wrapper_withConn, hw]
    exact h.module
  · rw [server_withConn, hs]
    exact hid
  · exact h.air
  · intro c' k' hc' data hdata
    rcases withConn_cases hc' with ⟨rfl, rfl⟩ | ⟨-, hc'⟩
    · rw [write_inbox_self] at hdata
      exact h.toServer c' k hc data hdata
    · exact h.toServer c' k' hc' data hdata
  · right
    refine ⟨c, _, fd, ?_, ?_, ?_, withConn_self .., hk, hother, ?_, .inl ⟨?_, ?_⟩⟩
    · rw [server_withConn, hs]
      exact hentries
    · rw [server_withConn, hs]
      exact hsent
    · rw [server_withConn, hs, hmap]
      exact Std.ExtTreeMap.getElem?_insert_self
    · intro c' k' hc' hne
      rw [withConn_of_ne _ hne] at hc'
      exact hu.inbox c' k' hc'
    · change (k.write .server _).inbox Side.server.other = _
      rw [write_inbox]
      change k.inbox .wrapper ++ _ = _
      rw [hu.inbox c k hc, List.nil_append]
    · exact hu.toUnassigned.congr hw

theorem Inv.known (h : Inv b host port m serverID N) :
    (Unregistered N ∧ findModuleByName (server N).program (declaredName b m) = none) ∨
      ((server N).program.modules ≠ [] ∧
        (findModuleByName (server N).program (declaredName b m)).isSome) := by
  rcases h.stage with hu | ⟨c, k, fd, hr⟩
  · left
    rw [findModuleByName, hu.modules]
    exact ⟨hu, rfl⟩
  · right
    obtain ⟨obj, hobj, he⟩ := List.map_eq_singleton_iff.mp hr.modules
    rw [findModuleByName, hobj]
    refine ⟨List.cons_ne_nil _ _, ?_⟩
    have hname : obj.name = declaredName b m := congrArg Prod.snd he
    simp [hname]

/-- What is left of the last used channel while the server handles what came
on it: it is free for the assignment unless that was sent. -/
def ServerReady (N : Network State) (fd : Int) : Prop :=
  (server N).comm.activeCommChannel = fd ∨ (server N).program.modules ≠ []

theorem deliver_declare_new (h : Inv b host port m serverID N) (hu : Unregistered N)
    (hc : N.conns c = some k) (hk : k.sockets .server = .client fd)
    (hother : k.sockets .wrapper ≠ .closed) (hactive : (server N).comm.activeCommChannel = fd)
    (hfind : findModuleByName (server N).program (declaredName b m) = none)
    (hname : declaredName b m ≠ []) {serverId : Int} {r : Network State × MesgProcessResult}
    (hr : deliver (programs b host port) N .server cAddr (declareData b m serverId) = some r) :
    r.2 = .processedOk ∧ Inv b host port m serverID r.1 ∧ ServerReady r.1 fd ∧
      ∃ k', r.1.conns c = some k' ∧ k'.sockets = k.sockets := by
  obtain ⟨reaction, hreaction, rfl⟩ := of_deliver hr
  have hid : (server N).program.nextObjId ≤ 255 := by
    rw [hu.nextObjId]
    decide
  obtain ⟨hok, hdispatches, hentries, hserverID⟩ :=
    reaction_declare_new serverId hfind hname hid hreaction
  rw [hu.modules, hu.nextObjId] at hentries
  rw [hu.nextObjId, h.id, ← assignment] at hdispatches
  have hmaps : mapsChannel .server (typeOf (assignment b m serverID)) = true := by
    rw [typeOf_assignment]
    rfl
  let p : Party PyConnectStub := { server N with
    program := reaction.program
    processed := (server N).processed ++ [declareData b m serverId] }
  have hp : (N.withParty .server p).parties .server = p := withParty_self N .server p
  have hsend := clientDataSend_claims (N := N.withParty .server p) (h.wired.sameMap rfl) hc hk
    ((congrArg (·.comm.activeCommChannel) hp).trans hactive) hmaps
  rw [withParty_withParty, hp] at hsend
  dsimp only
  rw [hdispatches, List.foldl_cons, List.foldl_nil, dataPacketSender, if_neg Bool.false_ne_true]
  change _ ∧ Inv b host port m serverID (clientDataSend (N.withParty .server p) .server _) ∧
    ServerReady (clientDataSend (N.withParty .server p) .server _) fd ∧
    ∃ k', (clientDataSend (N.withParty .server p) .server _).conns c = some k' ∧ _
  rw [hsend]
  refine ⟨hok, h.register hu hc hk hother hentries (hserverID.trans h.id) ?_ rfl, .inr ?_, _,
    withConn_self .., rfl⟩
  · exact (congrArg (· ++ _) hu.sent).trans (List.nil_append _)
  · rw [server, withConn_parties, withParty_self]
    intro hnil
    rw [hnil] at hentries
    cases hentries

theorem deliver_declare (h : Inv b host port m serverID N) (hc : N.conns c = some k)
    (hk : k.sockets .server = .client fd) (hother : k.sockets .wrapper ≠ .closed)
    (hready : ServerReady N fd) {serverId : Int} {r : Network State × MesgProcessResult}
    (hr : deliver (programs b host port) N .server cAddr (declareData b m serverId) = some r) :
    (Inv b host port m serverID r.1 ∧ ServerReady r.1 fd ∧
      ∃ k', r.1.conns c = some k' ∧ k'.sockets = k.sockets) ∧
    (r.2 = .toShutdown → ∃ processed,
      r.1 = N.withParty .server { server N with processed := processed }) := by
  rcases h.known with ⟨hu, hfind⟩ | ⟨hne, hfind⟩
  · have hactive : (server N).comm.activeCommChannel = fd :=
      hready.resolve_right fun hne => hne hu.modules
    by_cases hname : declaredName b m = []
    · obtain ⟨reaction, hreaction, rfl⟩ := of_deliver hr
      rw [reaction_declare_nameless serverId hfind hname] at hreaction
      obtain rfl := Option.some.inj hreaction
      refine ⟨⟨h.withServer rfl rfl rfl rfl rfl, ?_, k, hc, rfl⟩, fun hr => by cases hr⟩
      left
      exact (congrArg (·.comm.activeCommChannel) (withParty_self N .server _)).trans hactive
    · obtain ⟨hok, hnew⟩ := deliver_declare_new h hu hc hk hother hactive hfind hname hr
      refine ⟨hnew, fun hshut => ?_⟩
      rw [hok] at hshut
      cases hshut
  · obtain ⟨reaction, hreaction, rfl⟩ := of_deliver hr
    rw [reaction_declare_known serverId hfind] at hreaction
    obtain rfl := Option.some.inj hreaction
    refine ⟨⟨h.withServer rfl rfl rfl rfl rfl, .inr ?_, k, hc, rfl⟩, fun _ => ⟨_, rfl⟩⟩
    exact (congrArg (·.program.modules) (withParty_self N .server _)).trans_ne hne

theorem deliver_object (h : Inv b host port m serverID N) (hc : N.conns c = some k)
    (hready : ServerReady N fd) (hdata : Describes data) {r : Network State × MesgProcessResult}
    (hr : deliver (programs b host port) N .server cAddr data = some r) :
    Inv b host port m serverID r.1 ∧ ServerReady r.1 fd ∧
      ∃ k', r.1.conns c = some k' ∧ k'.sockets = k.sockets := by
  obtain ⟨reaction, hreaction, rfl⟩ := of_deliver hr
  obtain ⟨hdispatches, hentries, hnext, hid⟩ := reaction_object hdata hreaction
  dsimp only
  rw [hdispatches, List.foldl_nil]
  refine ⟨h.withServer hentries hnext hid rfl rfl, ?_, k, hc, rfl⟩
  rw [ServerReady, server, withParty_self]
  refine hready.imp id fun hne hnil => hne ?_
  dsimp only at hnil
  rw [hnil] at hentries
  exact List.map_eq_nil_iff.mp hentries.symm

theorem deliver_server (h : Inv b host port m serverID N) (hc : N.conns c = some k)
    (hk : k.sockets .server = .client fd) (hother : k.sockets .wrapper ≠ .closed)
    (hready : ServerReady N fd) (hdata : FromWrapper b m data) {r : Network State × MesgProcessResult}
    (hr : deliver (programs b host port) N .server cAddr data = some r) :
    Inv b host port m serverID r.1 ∧ ServerReady r.1 fd ∧
      ∃ k', r.1.conns c = some k' ∧ k'.sockets = k.sockets := by
  rcases hdata with ⟨serverId, rfl⟩ | hdata
  · exact (deliver_declare h hc hk hother hready hr).1
  · exact deliver_object h hc hready hdata hr

theorem read_server {n : Nat} : ∀ {N : Network State} {k : Connection},
    Inv b host port m serverID N → N.conns c = some k → k.sockets .server = .client fd →
    k.sockets .wrapper ≠ .closed → ServerReady N fd →
    processMessages (programs b host port) .server c cAddr n N = some N' →
    Inv b host port m serverID N' := by
  induction n with
  | zero =>
      intro N k h _ _ _ _ hr
      exact Option.some.inj hr ▸ h
  | succ n ih =>
      intro N k h hc hk hother hready hr
      rw [processMessages, hc] at hr
      dsimp only at hr
      split at hr
      next => cases hr
      next message inbox hinbox =>
        have hmem : message ∈ k.inbox .server := by rw [hinbox]; exact List.mem_cons_self
        have hpop : Inv b host port m serverID (N.withConn c (k.setInbox .server inbox)) := by
          apply h.withConn
          · exact h.wired.setInbox hc .server inbox fun hnil => by rw [hnil] at hinbox; cases hinbox
          · intro data hdata
            rw [setInbox_self] at hdata
            exact h.toServer c k hc data (by rw [hinbox]; exact List.mem_cons_of_mem _ hdata)
          · intro hnone
            rw [hc] at hnone
            cases hnone
          · intro k₀ hk₀
            rw [hc] at hk₀
            obtain rfl := Option.some.inj hk₀
            exact ⟨setInbox_of_ne k server_ne_wrapper.symm inbox, fun _ hlive => ⟨hlive, fun _ _ h => h⟩⟩
        split at hr
        next => cases hr
        next r hdeliver =>
          obtain ⟨hinv, hready', k', hc', hk'⟩ := deliver_server hpop (withConn_self ..) hk hother
            hready (h.toServer c k hc message hmem) hdeliver
          exact ih hinv hc' (hk' ▸ hk) (hk' ▸ hother) hready' hr

theorem Inv.assign (h : Inv b host port m serverID N) (hr : Registered b m serverID N c k fd)
    {p : Party PyConnectWrapper} (hwired : Wired ((N.withParty .wrapper p).withConn c k'))
    (hmod : p.program.pyConnectModule = some m) (hsockets : k'.sockets = k.sockets)
    (hinbox : k'.inbox .wrapper = []) (hserver : ∀ data ∈ k'.inbox .server, FromWrapper b m data)
    (ha : Assigned b m serverID (N.withParty .wrapper p) k) :
    Inv b host port m serverID ((N.withParty .wrapper p).withConn c k') := by
  have hs := server_withWrapper N p
  have hw : wrapper (N.withParty .wrapper p) = p := wrapper_withWrapper N p
  constructor
  · exact hwired
  · rw [wrapper_withConn, hw]
    exact hmod
  · rw [server_withConn, hs]
    exact h.id
  · exact h.air
  · intro c' k₁ hc' data hdata
    rcases withConn_cases hc' with ⟨rfl, rfl⟩ | ⟨-, hc'⟩
    · exact hserver data hdata
    · exact h.toServer c' k₁ hc' data hdata
  · refine .inr ⟨c, k', fd, ?_, ?_, ?_, withConn_self .., hsockets ▸ hr.socket, hsockets ▸ hr.live,
      ?_, .inr ⟨hinbox, ha.processed, ha.exposed, hsockets ▸ ha.agreed⟩⟩
    · rw [server_withConn, hs]
      exact hr.modules
    · rw [server_withConn, hs]
      exact hr.sent
    · rw [server_withConn, hs]
      exact hr.mapped
    · intro c' k₁ hc' hne
      rw [withConn_of_ne _ hne] at hc'
      exact hr.others c' k₁ hc' hne

theorem typeOf_header (t : PyConnectMsg) (serverId : Int) (rest : List UInt8) :
    typeOf (header t serverId :: rest) = some t := (msgType_header t serverId).2

theorem objID_header (t : PyConnectMsg) (serverID : Int) (rest : List UInt8) :
    objID .wrapper (header t (serverID % 16) :: rest) = serverID % 16 := by
  change (lowNibble (header t (serverID % 16)) : Int) = _
  rw [lowNibble_header]
  omega

theorem Inv.pending (h : Inv b host port m serverID N) (hc : N.conns c = some k)
    {message : List UInt8} {inbox : List (List UInt8)} (hinbox : k.inbox .wrapper = message :: inbox) :
    ∃ fd, Registered b m serverID N c k fd ∧ Unassigned N ∧ message = assignment b m serverID ∧
      inbox = [] := by
  rcases h.stage with hu | ⟨c₀, k₀, fd, hr⟩
  · rw [hu.inbox c k hc] at hinbox
    cases hinbox
  · by_cases he : c = c₀
    · subst he
      obtain rfl := Option.some.inj (hc.symm.trans hr.conn)
      rcases hr.flow with ⟨hin, hu⟩ | ⟨hin, -⟩
      · rw [hin, List.cons.injEq] at hinbox
        exact ⟨fd, hr, hu, hinbox.1.symm, hinbox.2.symm⟩
      · rw [hin] at hinbox
        cases hinbox
    · rw [hr.others c k hc he] at hinbox
      cases hinbox

theorem send_description (P : Programs State) (h : Wired N) (hc : N.conns c = some k)
    (hk : k.sockets .wrapper = .client fd) (hlive : ∀ side, k.sockets side ≠ .closed)
    (hactive : (wrapper N).comm.activeCommChannel = fd) {id : Int} {expose desc : List UInt8}
    (hexpose : typeOf expose = some .attrMetdExpose) (hdesc : typeOf desc = some .attrMetdDesc)
    (hid : objID .wrapper expose = id) (hid' : objID .wrapper desc = id) :
    let N' := (N.withParty .wrapper { wrapper N with
      comm := ⟨(wrapper N).comm.objCommMap.insert id fd, invalidSocket⟩
      sent := (wrapper N).sent ++ [expose] ++ [desc] }).withConn c
        ((k.write .wrapper expose).write .wrapper desc)
    Wired N' ∧ [(expose, false), (desc, false)].foldl
      (fun N x => dataPacketSender P N .wrapper x.1 x.2) N = N' := by
  have hsend := clientDataSend_claims h hc hk hactive
    (show mapsChannel .wrapper (typeOf expose) = true by rw [hexpose]; rfl)
  rw [hid] at hsend
  let p : Party PyConnectWrapper := { wrapper N with
    comm := ⟨(wrapper N).comm.objCommMap.insert id fd, invalidSocket⟩
    sent := (wrapper N).sent ++ [expose] }
  have hp : ((N.withParty .wrapper p).withConn c (k.write .wrapper expose)).parties .wrapper = p :=
    withParty_self N .wrapper p
  have hwired : Wired ((N.withParty .wrapper p).withConn c (k.write .wrapper expose)) :=
    (h.claim hc hk hlive rfl).write hc hlive .wrapper expose
  have hmap : (((N.withParty .wrapper p).withConn c (k.write .wrapper expose)).parties
      .wrapper).comm.objCommMap[objID .wrapper desc]? = some fd := by
    rw [hp, hid']
    exact Std.ExtTreeMap.getElem?_insert_self
  have hsend' := clientDataSend_mapped hwired (withConn_self ..) hk hmap
    (show mapsChannel .wrapper (typeOf desc) = false by rw [hdesc]; rfl)
    (fun hs => server_ne_wrapper hs.1.symm)
  have hwired' : Wired (((N.withParty .wrapper p).withConn c (k.write .wrapper expose)).withParty
      .wrapper { p with sent := p.sent ++ [desc] }) := hwired.sameMap (congrArg (·.comm.objCommMap) hp.symm)
  have hfinal := hwired'.write (withConn_self ..) hlive .wrapper desc
  rw [hp] at hsend'
  rw [withConn_withParty, withConn_withConn, withParty_withParty] at hsend' hfinal
  exact ⟨hfinal, (congrArg (clientDataSend · .wrapper desc) hsend).trans hsend'⟩

theorem Unassigned.exposed_nil (h : Unassigned N) :
    (wrapper N).sent.filter (fun data => typeOf data = some .attrMetdExpose) = [] := by
  rw [List.filter_eq_nil_iff]
  intro data hdata ht
  exact h.exposed data hdata (of_decide_eq_true ht)

theorem Unassigned.processed_append (h : Unassigned N) :
    ∀ data ∈ (wrapper N).processed ++ [assignment b m serverID],
      typeOf data = some .moduleAssignId → data = assignment b m serverID := by
  intro data hdata ht
  rcases List.mem_append.mp hdata with hdata | hdata
  · exact absurd ht (h.processed data hdata)
  · exact List.mem_singleton.mp hdata

theorem Inv.popped (h : Inv b host port m serverID N) (hc : N.conns c = some k) :
    Wired (N.withConn c (k.setInbox .wrapper [])) ∧
      ∀ data ∈ (k.setInbox .wrapper []).inbox .server, FromWrapper b m data := by
  refine ⟨h.wired.setInbox hc .wrapper [] fun _ => rfl, fun data hdata => ?_⟩
  rw [setInbox_of_ne k server_ne_wrapper] at hdata
  exact h.toServer c k hc data hdata

theorem deliver_assigned (h : Inv b host port m serverID N) (hreg : Registered b m serverID N c k fd')
    (hu : Unassigned N) (hk : k.sockets .wrapper = .client fd)
    (hactive : (wrapper N).comm.activeCommChannel = fd) (hname : declaredName b m = m.name)
    {r : Network State × MesgProcessResult}
    (hr : deliver (programs b host port) (N.withConn c (k.setInbox .wrapper [])) .wrapper cAddr
      (assignment b m serverID) = some r) : Inv b host port m serverID r.1 := by
  obtain ⟨reaction, hreaction, rfl⟩ := of_deliver hr
  obtain ⟨hmod, ⟨info, hinfo, hid⟩, expose, desc, hdispatches⟩ := reaction_assign (b := b) (m := m)
    h.module (by rw [carriedName_assign]; exact hname) hreaction
  obtain ⟨hpopped, hserver⟩ := h.popped hreg.conn
  have hother : k.sockets .server ≠ .closed := hreg.socket ▸ Socket.noConfusion
  have hlive : ∀ side, (k.setInbox .wrapper []).sockets side ≠ .closed := live_of hk hother
  let p : Party PyConnectWrapper := { wrapper N with
    program := reaction.program
    processed := (wrapper N).processed ++ [assignment b m serverID] }
  have hp : wrapper ((N.withParty .wrapper p).withConn c (k.setInbox .wrapper [])) = p :=
    withParty_self N .wrapper p
  have hwired : Wired ((N.withParty .wrapper p).withConn c (k.setInbox .wrapper [])) :=
    hpopped.sameMap rfl
  have hsend := send_description (programs b host port) hwired (withConn_self ..) hk hlive
    ((congrArg (·.comm.activeCommChannel) hp).trans hactive)
    (typeOf_header .attrMetdExpose (serverID % 16) (toByte ((toByte 1).toNat : Int) :: expose))
    (typeOf_header .attrMetdDesc (serverID % 16) (toByte ((toByte 1).toNat : Int) :: desc))
    (objID_header ..) (objID_header ..)
  rw [hp, withConn_withParty, withConn_withConn, withParty_withParty] at hsend
  obtain ⟨hwired', hsend⟩ := hsend
  dsimp only
  rw [hdispatches, withConn_withParty]
  change Inv b host port m serverID (List.foldl _ ((N.withParty .wrapper p).withConn c _) _)
  rw [hsend]
  apply h.assign hreg hwired' hmod rfl
  · rw [write_inbox_self, write_inbox_self, setInbox_self]
  · intro data hdata
    change data ∈ (k.setInbox .wrapper []).inbox .server ++ [_] ++ [_] at hdata
    rw [List.mem_append, List.mem_append, List.mem_singleton, List.mem_singleton] at hdata
    rcases hdata with (hdata | rfl) | rfl
    · exact hserver data hdata
    · exact .inr ⟨.attrMetdExpose, serverID % 16, _, _, .inl rfl, rfl⟩
    · exact .inr ⟨.attrMetdDesc, serverID % 16, _, _, .inr rfl, rfl⟩
  · constructor
    · rw [wrapper_withWrapper]
      exact hu.processed_append
    · rw [wrapper_withWrapper]
      change (List.filter _ ((wrapper N).sent ++ [_] ++ [_])).length ≤ 1
      rw [List.filter_append, List.filter_append, hu.exposed_nil]
      simp [typeOf_header]
    · intro _
      rw [wrapper_withWrapper]
      exact ⟨info, fd, hinfo, hid, Std.ExtTreeMap.getElem?_insert_self, hk⟩

theorem deliver_unassigned (h : Inv b host port m serverID N)
    (hreg : Registered b m serverID N c k fd') (hu : Unassigned N)
    (hname : declaredName b m ≠ m.name) {r : Network State × MesgProcessResult}
    (hr : deliver (programs b host port) (N.withConn c (k.setInbox .wrapper [])) .wrapper cAddr
      (assignment b m serverID) = some r) : Inv b host port m serverID r.1 := by
  obtain ⟨reaction, hreaction, rfl⟩ := of_deliver hr
  obtain ⟨hpopped, hserver⟩ := h.popped hreg.conn
  have hother : (programs b host port).processInput .wrapper (wrapper N).program cAddr
      (assignment b m serverID) = some ⟨(wrapper N).program, .processedOk, []⟩ :=
    reaction_assign_other h.module (toByte 1) (by rw [carriedName_assign]; exact hname)
  obtain rfl := Option.some.inj (hother.symm.trans hreaction)
  dsimp only
  rw [List.foldl_nil, withConn_withParty]
  refine h.assign hreg ?_ h.module rfl (setInbox_self ..) hserver ?_
  · exact hpopped.sameMap rfl
  constructor
  · rw [wrapper_withWrapper]
    exact hu.processed_append
  · rw [wrapper_withWrapper]
    dsimp only
    rw [withConn_parties, hu.exposed_nil]
    exact Nat.zero_le 1
  · exact fun he => absurd he hname

theorem Inv.drained (h : Inv b host port m serverID N)
    (hdata : assignment b m serverID ∈ (wrapper N).processed) {c' : Nat} {k' : Connection}
    (hc' : N.conns c' = some k') : k'.inbox .wrapper = [] := by
  rcases h.stage with hu | ⟨c, k, fd, hr⟩
  · exact absurd (typeOf_assignment b m serverID) (hu.processed _ hdata)
  · rcases hr.flow with ⟨-, hu⟩ | ⟨hin, -⟩
    · exact absurd (typeOf_assignment b m serverID) (hu.processed _ hdata)
    · by_cases he : c' = c
      · subst he
        obtain rfl := Option.some.inj (hr.conn.symm.trans hc')
        exact hin
      · exact hr.others c' k' hc' he

theorem processMessages_empty (P : Programs State) {n : Nat}
    (hempty : ∀ c k, N.conns c = some k → k.inbox .wrapper = [])
    (hr : processMessages P .wrapper c cAddr n N = some N') : N' = N := by
  cases n with
  | zero => exact (Option.some.inj hr).symm
  | succ n =>
      rw [processMessages] at hr
      cases hc : N.conns c with
      | none =>
          rw [hc] at hr
          cases hr
      | some k =>
          rw [hc] at hr
          dsimp only at hr
          rw [hempty c k hc] at hr
          cases hr

theorem read_wrapper {n : Nat} (h : Inv b host port m serverID N) (hc : N.conns c = some k)
    (hk : k.sockets .wrapper = .client fd) (hactive : (wrapper N).comm.activeCommChannel = fd)
    (hr : processMessages (programs b host port) .wrapper c cAddr n N = some N') :
    Inv b host port m serverID N' := by
  cases n with
  | zero => exact Option.some.inj hr ▸ h
  | succ n =>
      rw [processMessages, hc] at hr
      dsimp only at hr
      split at hr
      next => cases hr
      next message inbox hinbox =>
        split at hr
        next => cases hr
        next r hdeliver =>
          obtain ⟨fd', hreg, hu, rfl, rfl⟩ := h.pending hc hinbox
          have hinv : Inv b host port m serverID r.1 := by
            by_cases hname : declaredName b m = m.name
            · exact deliver_assigned h hreg hu hk hactive hname hdeliver
            · exact deliver_unassigned h hreg hu hname hdeliver
          have hdata := (extends_deliver hdeliver).2
          rw [processMessages_empty _ (fun _ _ => hinv.drained hdata) hr]
          exact hinv

theorem Inv.listed (h : Inv b host port m serverID N) {side : Side} (hfd : Unused N side fd)
    (hk : N.conns c = some k ∨ N.conns c = none ∧ k = .fresh) (hside : k.sockets side = .backlog) :
    Inv b host port m serverID (addFdToClientList N side c k fd) := by
  have hconn : Inv b host port m serverID (N.withConn c (k.setSocket side (.client fd))) := by
    apply h.withConn
    · exact h.wired.listed hfd hk hside
    · intro data hdata
      rcases hk with hk | ⟨-, rfl⟩
      · exact h.toServer c k hk data hdata
      · cases hdata
    · intro hnone
      rcases hk with hk | ⟨-, rfl⟩
      · rw [hnone] at hk
        cases hk
      · rfl
    · intro k₀ hk₀
      refine ⟨?_, fun _ hlive => setSocket_listed hside hk hk₀ hlive⟩
      rcases hk with hk | ⟨hk, -⟩
      · rw [hk] at hk₀
        obtain rfl := Option.some.inj hk₀
        rfl
      · rw [hk] at hk₀
        cases hk₀
  exact hconn.withComm side rfl

theorem Inv.close (h : Inv b host port m serverID N) {side : Side} (hc : N.conns c = some k)
    (hk : k.sockets side = .client fd) (hinbox : ∀ side, k.inbox side = [])
    (hunmapped : ∀ side' (id fd : Int), (N.parties side').comm.objCommMap[id]? = some fd →
      k.sockets side' ≠ .client fd) :
    Inv b host port m serverID (destroyCurrentClient N side fd) := by
  have hclose : destroyCurrentClient N side fd = N.withConn c (k.setSocket side .closed) :=
    onSocket_eq hc hk (fun _ _ => h.wired.only hc hk) _
  rw [hclose]
  apply h.withConn
  · exact h.wired.close hc hinbox hunmapped side
  · intro data hdata
    rw [setSocket_inbox, hinbox] at hdata
    cases hdata
  · exact fun _ => hinbox .wrapper
  · intro k₀ hk₀
    obtain rfl := Option.some.inj (hc.symm.trans hk₀)
    refine ⟨rfl, ?_⟩
    rintro ⟨id, fd', hmap, hfd'⟩
    exact absurd hfd' (hunmapped .server id fd' hmap)

theorem Inv.eof (h : Inv b host port m serverID N) {side : Side} (hc : N.conns c = some k)
    (hk : k.sockets side = .client fd) (hother : k.sockets side.other = .closed) :
    Inv b host port m serverID
      (destroyCurrentClient (channelShutdown (programs b host port) N side cAddr fd true) side fd) := by
  have hunmapped : ∀ side' (id fd' : Int), (N.parties side').comm.objCommMap[id]? = some fd' →
      k.sockets side' ≠ .client fd' := by
    intro side' id fd' hmap hk'
    obtain ⟨c', k', hc', hk'', hlive⟩ := h.wired.mapped side' id fd' hmap
    obtain rfl := h.wired.distinct side' c c' k k' fd' hc hc' hk' hk''
    obtain rfl := Option.some.inj (hc.symm.trans hc')
    exact hlive side.other hother
  rw [channelShutdown_eq]
  · exact h.close hc hk (h.wired.idle c k hc ⟨side.other, hother⟩) hunmapped
  · intro id hmap
    exact hunmapped side id fd hmap hk

theorem Inv.reject (h : Inv b host port m serverID N) {side : Side} (hc : N.conns c = some k)
    (hk : k.sockets side = .client fd) (hinbox : ∀ side, k.inbox side = [])
    (hactive : (N.parties side).comm.activeCommChannel = fd)
    (hunmapped : ∀ side' (id fd : Int), (N.parties side').comm.objCommMap[id]? = some fd →
      k.sockets side' ≠ .client fd) :
    Inv b host port m serverID (rejectTalker (programs b host port) N side cAddr) := by
  have hmap : ∀ side', ((N.withComm side (getLastUsedCommChannel (N.parties side).comm).1).parties
      side').comm.objCommMap = (N.parties side').comm.objCommMap := by
    intro side'
    by_cases he : side' = side
    · subst he
      rw [Network.withComm, withParty_self]
      rfl
    · rw [Network.withComm, withParty_of_ne N he]
  have hlast : (getLastUsedCommChannel (N.parties side).comm).2 = fd := hactive
  have hinv : Inv b host port m serverID
      (N.withComm side (getLastUsedCommChannel (N.parties side).comm).1) := h.withComm side rfl
  rw [rejectTalker]
  dsimp only
  rw [hlast, channelShutdown_eq]
  · apply hinv.close hc hk hinbox
    intro side' id fd' hfd'
    rw [hmap] at hfd'
    exact hunmapped side' id fd' hfd'
  · intro id hfd'
    rw [hmap] at hfd'
    exact hunmapped side id fd hfd' hk

theorem listed_conn (N : Network State) (side : Side) (c : Nat) (k : Connection) (fd : Int) :
    (addFdToClientList N side c k fd).conns c = some (k.setSocket side (.client fd)) :=
  withConn_self ..

theorem listed_party (N : Network State) (side : Side) (c : Nat) (k : Connection) (fd : Int) :
    (addFdToClientList N side c k fd).parties side =
      { N.parties side with comm := ⟨(N.parties side).comm.objCommMap, fd⟩ } := withParty_self ..

theorem listed_map (N : Network State) (side side' : Side) (c : Nat) (k : Connection) (fd : Int) :
    ((addFdToClientList N side c k fd).parties side').comm.objCommMap =
      (N.parties side').comm.objCommMap := by
  by_cases he : side' = side
  · subst he
    rw [listed_party]
  · rw [addFdToClientList, Network.withComm, withParty_of_ne _ he]
    rfl

theorem fresh_unmapped (h : Wired N) {side : Side} (hfd : Unused N side fd) (side' : Side)
    (id fd' : Int) (hmap : (N.parties side').comm.objCommMap[id]? = some fd') :
    (Connection.fresh.setSocket side (.client fd)).sockets side' ≠ .client fd' := by
  intro hk
  by_cases he : side' = side
  · subst he
    rw [setSocket_self] at hk
    obtain rfl := Socket.client.inj hk
    exact h.unmapped hfd id hmap
  · rw [setSocket_of_ne _ he] at hk
    cases hk

theorem Inv.refused (hwired : Wired N) {side : Side} (hfd : Unused N side fd)
    {processed : List (List UInt8)} (hr : N' = (createTCPTalker N side c fd).withParty side
      { (createTCPTalker N side c fd).parties side with processed := processed })
    (h : Inv b host port m serverID N') :
    Inv b host port m serverID (rejectTalker (programs b host port) N' side cAddr) := by
  have hparty : N'.parties side =
      { (createTCPTalker N side c fd).parties side with processed := processed } := by
    rw [hr, withParty_self]
  apply h.reject (c := c) (k := Connection.fresh.setSocket side (.client fd))
  · rw [hr]
    exact listed_conn ..
  · exact setSocket_self ..
  · exact fun _ => rfl
  · rw [hparty]
    exact congrArg (·.comm.activeCommChannel) (listed_party N side c .fresh fd)
  · intro side' id fd' hmap
    apply fresh_unmapped hwired hfd side' id fd'
    by_cases he : side' = side
    · subst he
      rw [hparty] at hmap
      rw [← listed_map N side' side' c .fresh fd]
      exact hmap
    · rw [hr, withParty_of_ne _ he] at hmap
      rw [← listed_map N side side' c .fresh fd]
      exact hmap

theorem datagram_declare (h : Inv b host port m serverID N) (side : Side) (hc : N.conns c = none)
    (hfd : Unused N side fd)
    (hr : processUDPInput (programs b host port) N side c fd cAddr
      (broadcastForm (programs b host port) .wrapper (declareData b m 0)) = some N') :
    Inv b host port m serverID N' := by
  obtain ⟨-, ht⟩ := msgType_header .moduleDeclare 0
  have heq := processUDPInput_eq (programs b host port) N side .wrapper c fd cAddr
    (header .moduleDeclare 0)
    ((if b.clang then 1 else 0) :: (packString m.name false ++ packString m.desc true)) ht (.inr rfl)
  rw [List.cons_append] at heq
  rw [declareData, declareBody, heq, ← declareBody, ← declareData] at hr
  cases side with
  | wrapper => exact Option.some.inj hr ▸ h
  | server =>
      rw [if_pos (by decide), Option.map_eq_some_iff] at hr
      obtain ⟨r, hdeliver, rfl⟩ := hr
      have hlisted := h.listed hfd (.inr ⟨hc, rfl⟩) rfl
      have hready : ServerReady (createTCPTalker N .server c fd) fd :=
        .inl (congrArg (·.comm.activeCommChannel) (listed_party N .server c .fresh fd))
      obtain ⟨⟨hinv, -, -⟩, hreject⟩ := deliver_declare hlisted (listed_conn ..) (setSocket_self ..)
        Socket.noConfusion hready hdeliver
      split
      next htoShutdown =>
        obtain ⟨processed, hr⟩ := hreject htoShutdown
        exact Inv.refused h.wired hfd hr hinv
      next => exact hinv

theorem declare_back (h : Inv b host port m serverID N) (hc : N.conns c = some k)
    (hk : k.sockets .wrapper = .client fd) (hlive : ∀ side, k.sockets side ≠ .closed)
    (hactive : (wrapper N).comm.activeCommChannel = fd)
    (hunknown : serverID % 16 ∉ (wrapper N).program.serverMap) {processed : List (List UInt8)}
    (hprocessed : ∀ data ∈ processed, typeOf data = some .moduleAssignId →
      data ∈ (wrapper N).processed) {info : ServerInfo} :
    Inv b host port m serverID (clientDataSend (N.withParty .wrapper { wrapper N with
      program := { (wrapper N).program with
        serverMap := (wrapper N).program.serverMap.insert (serverID % 16) info }
      processed := processed }) .wrapper (declareData b m (serverID % 16))) := by
  have htype := typeOf_header .moduleDeclare (serverID % 16) (declareBody b m)
  let p : Party PyConnectWrapper := { wrapper N with
    program := { (wrapper N).program with
      serverMap := (wrapper N).program.serverMap.insert (serverID % 16) info }
    processed := processed }
  have hp : (N.withParty .wrapper p).parties .wrapper = p := withParty_self N .wrapper p
  have hsend := clientDataSend_claims (N := N.withParty .wrapper p) (h.wired.sameMap rfl) hc hk
    ((congrArg (·.comm.activeCommChannel) hp).trans hactive)
    (show mapsChannel .wrapper (typeOf (declareData b m (serverID % 16))) = true by
      rw [declareData, htype]
      rfl)
  rw [withParty_withParty, hp] at hsend
  rw [hsend]
  have hsent : Inv b host port m serverID (N.withParty .wrapper { p with
      comm := ⟨p.comm.objCommMap.insert (objID .wrapper (declareData b m (serverID % 16))) fd,
        invalidSocket⟩
      sent := p.sent ++ [declareData b m (serverID % 16)] }) := by
    refine h.withWrapper ?_ ?_ ⟨?_, ?_, ?_⟩
    · exact h.wired.claim hc hk hlive rfl
    · rfl
    · rw [wrapper_withWrapper]
      exact hprocessed
    · rw [wrapper_withWrapper, List.filter_append, declareData, List.filter_singleton, htype]
      exact List.append_nil _
    · intro info' hinfo'
      apply absurd _ hunknown
      rw [Std.ExtTreeMap.mem_iff_isSome_getElem?, hinfo']
      rfl
  apply hsent.withConn
  · exact hsent.wired.write hc hlive .wrapper _
  · intro data hdata
    change data ∈ k.inbox .server ++ [_] at hdata
    rcases List.mem_append.mp hdata with hdata | hdata
    · exact h.toServer c k hc data hdata
    · exact .inl ⟨serverID % 16, List.mem_singleton.mp hdata⟩
  · intro hnone
    exact absurd (hc.symm.trans hnone) (by simp)
  · intro k₀ hk₀
    obtain rfl := Option.some.inj (hc.symm.trans hk₀)
    exact ⟨write_inbox_self .., fun _ hlive => ⟨hlive, fun _ _ h => h⟩⟩

theorem datagram_discovery (h : Inv b host port m serverID N) (side : Side) (hc : N.conns c = none)
    (hfd : Unused N side fd)
    (hr : processUDPInput (programs b host port) N side c fd cAddr
      (broadcastForm (programs b host port) .server (discoveryData serverID)) = some N') :
    Inv b host port m serverID N' := by
  obtain ⟨-, ht⟩ := msgType_header .moduleDiscovery serverID
  have heq := processUDPInput_eq (programs b host port) N side .server c fd cAddr
    (header .moduleDiscovery serverID) [] ht (.inl rfl)
  rw [List.nil_append] at heq
  rw [discoveryData, heq, ← discoveryData] at hr
  cases side with
  | server => exact Option.some.inj hr ▸ h
  | wrapper =>
      rw [if_pos (by decide), Option.map_eq_some_iff] at hr
      obtain ⟨r, hdeliver, rfl⟩ := hr
      have hlisted := h.listed hfd (.inr ⟨hc, rfl⟩) rfl
      have htype : typeOf (discoveryData serverID) ≠ some .moduleAssignId := by
        rw [discoveryData, typeOf_header]
        decide
      obtain ⟨reaction, hreaction, rfl⟩ := of_deliver hdeliver
      have hprocessed : ∀ data ∈ (wrapper (createTCPTalker N .wrapper c fd)).processed ++
          [discoveryData serverID], typeOf data = some .moduleAssignId →
            data ∈ (wrapper (createTCPTalker N .wrapper c fd)).processed := by
        intro data hdata ht
        rcases List.mem_append.mp hdata with hdata | hdata
        · exact hdata
        · rw [List.mem_singleton.mp hdata] at ht
          exact absurd ht htype
      by_cases hknown : serverID % 16 ∈ (wrapper (createTCPTalker N .wrapper c fd)).program.serverMap
      · rw [reaction_discovery_known hknown] at hreaction
        obtain rfl := Option.some.inj hreaction
        rw [if_pos rfl]
        apply Inv.refused h.wired hfd rfl
        refine hlisted.withWrapper ?_ ?_ ⟨?_, ?_, ?_⟩
        · exact hlisted.wired.sameMap rfl
        · rfl
        · rw [wrapper_withWrapper]
          exact hprocessed
        · rw [wrapper_withWrapper]
          rfl
        · rw [wrapper_withWrapper]
          exact fun _ hinfo => ⟨hinfo, rfl⟩
      · obtain rfl := reaction_discovery_new (m := m) hlisted.module hknown hreaction
        exact declare_back hlisted (listed_conn ..) (setSocket_self ..)
          (live_of (setSocket_self ..) Socket.noConfusion)
          (congrArg (·.comm.activeCommChannel) (listed_party N .wrapper c .fresh fd)) hknown hprocessed

/-- The wrapper has this id from the server, and the channels that each has
for the other are the two ends of one connection. -/
def Agreed (serverID : Int) (N : Network State) (k : Int) : Prop :=
  ∃ info fd fd' c conn, (wrapper N).program.serverMap[serverID % 16]? = some info ∧
    info.assignedModuleID = k ∧ (wrapper N).comm.objCommMap[serverID % 16]? = some fd ∧
    (server N).comm.objCommMap[k]? = some fd' ∧ N.conns c = some conn ∧
    conn.sockets .wrapper = .client fd ∧ conn.sockets .server = .client fd'

theorem Inv.registered_once (h : Inv b host port m serverID N) :
    (server N).program.modules.length ≤ 1 ∧
      ((server N).sent.filter fun data => typeOf data = some .moduleAssignId).length ≤ 1 := by
  rcases h.stage with hu | ⟨c, k, fd, hr⟩
  · rw [hu.modules, hu.sent]
    exact ⟨Nat.zero_le 1, Nat.zero_le 1⟩
  · constructor
    · rw [← List.length_map entry, hr.modules]
      exact Nat.le_refl 1
    · rw [hr.sent]
      exact List.length_filter_le ..

theorem Inv.exposed_once (h : Inv b host port m serverID N) :
    ((wrapper N).sent.filter fun data => typeOf data = some .attrMetdExpose).length ≤ 1 := by
  have hun : Unassigned N →
      ((wrapper N).sent.filter fun data => typeOf data = some .attrMetdExpose).length ≤ 1 := by
    intro hu
    rw [hu.exposed_nil]
    exact Nat.zero_le 1
  rcases h.stage with hu | ⟨c, k, fd, hr⟩
  · exact hun hu.toUnassigned
  · rcases hr.flow with ⟨-, hu⟩ | ⟨-, ha⟩
    · exact hun hu
    · exact ha.exposed

/-- Whatever MODULE_ASSIGN_ID the wrapper has processed is the one that was
sent, and both sides stand by it. -/
theorem Inv.agreed (h : Inv b host port m serverID N) (hdata : data ∈ (wrapper N).processed)
    (ht : typeOf data = some .moduleAssignId) :
    data = assignment b m serverID ∧ (declaredName b m = m.name → Agreed serverID N 1) := by
  rcases h.stage with hu | ⟨c, k, fd, hr⟩
  · exact absurd ht (hu.processed data hdata)
  · rcases hr.flow with ⟨-, hu⟩ | ⟨-, ha⟩
    · exact absurd ht (hu.processed data hdata)
    · refine ⟨ha.processed data hdata ht, fun hname => ?_⟩
      obtain ⟨info, fd', hinfo, hid, hmap, hk⟩ := ha.agreed hname
      exact ⟨info, fd', fd, c, k, hinfo, hid, hmap, hr.mapped, hr.conn, hk, hr.socket⟩

end PyConnect.Agreement

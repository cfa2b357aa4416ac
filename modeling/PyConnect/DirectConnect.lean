import PyConnect.Concealment
import PyConnect.ListenerPort

namespace PyConnect.DirectConnect

open Relation Bytes Common Values ObjComm NetComm Channels Stub StubMessage Wrapper Handshake Agreement
open Schedule Discovery Concealment
open ListenerPort (netCommPort commPortRange)

/-- CommObjectStat, the bits that connectTo puts together. -/
abbrev CommObjectStat := Nat

def notSupported : CommObjectStat := 1

def invalidAddrPort : CommObjectStat := 2

def commFailed : CommObjectStat := 4

def commSuccess : CommObjectStat := 8

inductive PyErr
  | ioError (message : List UInt8)
  | valueError (message : List UInt8)
  | notImplementedError (message : List UInt8)
  deriving DecidableEq, Repr

/-- The host names and addresses that the system knows, and what becomes of connecting to
an address and a port: the connection that is made and its descriptor. -/
structure System where
  gethostbyname : List UInt8 → Option UInt32
  inetPton : List UInt8 → Option UInt32
  connect : UInt32 → UInt16 → Option (Nat × Int)

/-- Who answers at the address is the wrapper. -/
def createTalker (S : System) (host : List UInt8) (port : Int) (N : Network State) :
    Network State × CommObjectStat :=
  match S.gethostbyname host <|> S.inetPton host with
  | none => (N, invalidAddrPort)
  | some saddr =>
      if port ≠ 0 ∧ (port < 1000 ∨ port > netCommPort.toNat + commPortRange) then (N, invalidAddrPort)
      else
        match S.connect saddr (if port = 0 then netCommPort else UInt16.ofNat port.toNat) with
        | none => (N, commFailed)
        | some (c, fd) => (createTCPTalker N .server c fd, commSuccess)

/-- MessageProcessor::connectTo, over the createTalker of each comm object. -/
def connectTo {σ : Type} : List (σ → σ × CommObjectStat) → CommObjectStat → σ → σ × CommObjectStat
  | [], retVal, s => (s, retVal)
  | createTalker :: commObjList, retVal, s =>
      let (s, val) := createTalker s
      if val = commSuccess then (s, val) else connectTo commObjList (retVal ||| val) s

/-- PyConnectStub::PyConnect_connect, with what it raises. Nothing comes between the
making of the connection and the sending over it; ReplyChannel has the two as steps. -/
def pyConnectConnect (P : Programs State) (S : System) (addr : List UInt8) (port : Int)
    (N : Network State) : Network State × Option PyErr :=
  let (N, ret) := connectTo [createTalker S addr port] notSupported N
  if ret &&& commFailed ≠ 0 then
    (N, some (.ioError (text "PyConnect.connect: unable to connect PyConnect component on " ++ addr ++
      text "!")))
  else if ret &&& invalidAddrPort ≠ 0 then
    (N, some (.valueError (text "PyConnect.connect: invalid PyConnect component address:port!")))
  else if ret &&& notSupported ≠ 0 then
    (N, some (.notImplementedError (text "PyConnect.connect: No underlying comm object support!")))
  else (dataPacketSender P N .server (discoveryData (server N).program.serverID) false, none)

/-- What happens when the server's scripts may connect to the module, too. -/
inductive Happens (P : Programs State) : Network State → Network State → Prop
  | step {N N' : Network State} : Step P N N' → Happens P N N'
  | connect (N : Network State) (S : System) (addr : List UInt8) (port : Int) :
      (∀ saddr port c fd, S.connect saddr port = some (c, fd) →
        N.conns c = none ∧ Unused N .server fd) →
      Happens P N (pyConnectConnect P S addr port N).1

variable {b : Build} {host : Host} {port : Side → UInt8 × UInt8} {m : PyConnectModule}
  {serverID : Int} {P : Programs State} {H : Nat → Option Connection} {A N N' : Network State}
  {side : Side} {c : Nat} {k : Connection} {fd fd' : Int} {cAddr : SockAddr} {data : List UInt8}

def connected (N : Network State) (c : Nat) (fd : Int) : Network State :=
  (N.withParty .server { server N with
    comm := ⟨(server N).comm.objCommMap, invalidSocket⟩
    sent := (server N).sent ++ [discoveryData (server N).program.serverID] }).withConn c
      ((Connection.fresh.setSocket .server (.client fd)).write .server
        (discoveryData (server N).program.serverID))

theorem clientDataSend_discovery (h : Wired N) (hc : N.conns c = none) (hfd : Unused N .server fd) :
    clientDataSend (createTCPTalker N .server c fd) .server
      (discoveryData (server N).program.serverID) = connected N c fd := by
  have hwired : Wired (createTCPTalker N .server c fd) := (h.listed hfd (.inr ⟨hc, rfl⟩) rfl).sameMap rfl
  have hne : fd ≠ invalidSocket := by
    have := hfd.1
    rw [invalidSocket]
    omega
  have htype : PyConnectMsg.ofCode (msgTypeOf ((discoveryData (server N).program.serverID).getD 0 0)) =
      some .moduleDiscovery := typeOf_header ..
  have hparty := listed_party N .server c .fresh fd
  have hmaps : mapsChannel .server (some .moduleDiscovery) = false := rfl
  have hfind : findOrAddCommChanByMsgID .server ((createTCPTalker N .server c fd).parties .server).comm
      (discoveryData (server N).program.serverID) =
        (⟨(server N).comm.objCommMap, invalidSocket⟩, fd) := by
    rw [findOrAddCommChanByMsgID, htype, hmaps, createTCPTalker, hparty]
    rfl
  rw [clientDataSend, hfind]
  dsimp only
  rw [if_neg hne]
  refine (onSocket_eq (N := (createTCPTalker N .server c fd).withParty .server _) (c := c)
    (listed_conn N .server c .fresh fd) (setSocket_self ..)
    (fun c' k' => hwired.only (listed_conn N .server c .fresh fd) (setSocket_self ..)) _).trans ?_
  rw [createTCPTalker, hparty, addFdToClientList, Network.withComm, withParty_withParty,
    withConn_withParty, withConn_withConn]
  rfl

theorem connectTo_one {σ : Type} (f : σ → σ × CommObjectStat) (retVal : CommObjectStat) (s : σ) :
    connectTo [f] retVal s =
      if (f s).2 = commSuccess then f s else ((f s).1, retVal ||| (f s).2) := rfl

theorem pyConnectConnect_cases (P : Programs State) (S : System) (addr : List UInt8) (port : Int)
    (N : Network State) :
    (∃ e, pyConnectConnect P S addr port N = (N, some e)) ∨
    ∃ saddr p c fd, S.connect saddr p = some (c, fd) ∧
      1000 ≤ p.toNat ∧ p.toNat ≤ netCommPort.toNat + commPortRange ∧
      pyConnectConnect P S addr port N = (clientDataSend (createTCPTalker N .server c fd) .server
        (discoveryData (server N).program.serverID), none) := by
  have hport : netCommPort.toNat = 37251 := rfl
  have hrange : commPortRange = 100 := rfl
  have hfails : ∀ val, createTalker S addr port N = (N, val) → val = invalidAddrPort ∨ val = commFailed →
      ∃ e, pyConnectConnect P S addr port N = (N, some e) := by
    intro val htalker hval
    rw [pyConnectConnect, connectTo_one, htalker]
    dsimp only
    rcases hval with rfl | rfl
    · rw [if_neg (show invalidAddrPort ≠ commSuccess by decide)]
      dsimp only
      rw [if_neg (show ¬ (notSupported ||| invalidAddrPort) &&& commFailed ≠ 0 by decide),
        if_pos (show (notSupported ||| invalidAddrPort) &&& invalidAddrPort ≠ 0 by decide)]
      exact ⟨_, rfl⟩
    · rw [if_neg (show commFailed ≠ commSuccess by decide)]
      dsimp only
      rw [if_pos (show (notSupported ||| commFailed) &&& commFailed ≠ 0 by decide)]
      exact ⟨_, rfl⟩
  cases hhost : S.gethostbyname addr <|> S.inetPton addr with
  | none => exact .inl (hfails _ (by rw [createTalker, hhost]) (.inl rfl))
  | some saddr =>
      by_cases hvalid : port ≠ 0 ∧ (port < 1000 ∨ port > netCommPort.toNat + commPortRange)
      · exact .inl (hfails _ (by rw [createTalker, hhost]; exact if_pos hvalid) (.inl rfl))
      cases hconnect : S.connect saddr (if port = 0 then netCommPort else UInt16.ofNat port.toNat) with
      | none =>
          refine .inl (hfails commFailed ?_ (.inr rfl))
          rw [createTalker, hhost]
          dsimp only
          rw [if_neg hvalid, hconnect]
      | some talker =>
          have htalker : createTalker S addr port N =
              (createTCPTalker N .server talker.1 talker.2, commSuccess) := by
            rw [createTalker, hhost]
            dsimp only
            rw [if_neg hvalid, hconnect]
          have hprogram : (server (createTCPTalker N .server talker.1 talker.2)).program =
              (server N).program := congrArg (·.program) (listed_party N .server talker.1 .fresh talker.2)
          have hp : 1000 ≤ (if port = 0 then netCommPort else UInt16.ofNat port.toNat).toNat ∧
              (if port = 0 then netCommPort else UInt16.ofNat port.toNat).toNat ≤ 37351 := by
            split
            · decide
            · rw [UInt16.toNat_ofNat']
              omega
          refine .inr ⟨saddr, _, talker.1, talker.2, hconnect, hp.1, hp.2, ?_⟩
          rw [pyConnectConnect, connectTo_one, htalker]
          dsimp only
          rw [if_pos rfl]
          dsimp only
          rw [if_neg (show ¬ commSuccess &&& commFailed ≠ 0 by decide),
            if_neg (show ¬ commSuccess &&& invalidAddrPort ≠ 0 by decide),
            if_neg (show ¬ commSuccess &&& notSupported ≠ 0 by decide), hprogram]
          rfl

def met (b : Build) (m : PyConnectModule) (serverID : Int) (p : Party PyConnectWrapper) (fd : Int) :
    Party PyConnectWrapper where
  comm := ⟨p.comm.objCommMap.insert (serverID % 16) fd, invalidSocket⟩
  program := { p.program with serverMap := p.program.serverMap.insert (serverID % 16) ⟨-1, true⟩ }
  sent := p.sent ++ [declareData b m (serverID % 16)]
  processed := p.processed ++ [discoveryData serverID]

/-- The network after the wrapper has answered a discovery over this connection. -/
def introduced (b : Build) (m : PyConnectModule) (serverID : Int) (N : Network State) (c : Nat)
    (k : Connection) (fd : Int) : Network State :=
  (N.withParty .wrapper (met b m serverID (wrapper N) fd)).withConn c
    (k.write .wrapper (declareData b m (serverID % 16)))

theorem introduced_listed (N : Network State) (c : Nat) (k₀ k : Connection) (fd : Int) :
    introduced b m serverID
        ((N.withConn c k₀).withComm .wrapper (setLastUsedCommChannel (wrapper N).comm fd)) c k fd =
      (N.withConn c (k.write .wrapper (declareData b m (serverID % 16)))).withParty .wrapper
        (met b m serverID (wrapper N) fd) := by
  have hmet : met b m serverID
      (wrapper ((N.withConn c k₀).withComm .wrapper (setLastUsedCommChannel (wrapper N).comm fd))) fd =
        met b m serverID (wrapper N) fd :=
    (congrArg (met b m serverID · fd) (wrapper_withWrapper (N.withConn c k₀) _)).trans rfl
  rw [introduced, hmet, Network.withComm, withParty_withParty, withConn_withParty, withConn_withConn]
  rfl

theorem deliver_discovery (h : Wired N) (hc : N.conns c = some k) (hk : k.sockets .wrapper = .client fd)
    (hactive : (wrapper N).comm.activeCommChannel = fd)
    (hmod : (wrapper N).program.pyConnectModule = some m)
    (hnew : serverID % 16 ∉ (wrapper N).program.serverMap) {r : Network State × MesgProcessResult}
    (hr : deliver (programs b host port) N .wrapper cAddr (discoveryData serverID) = some r) :
    r = (introduced b m serverID N c k fd, .processedOk) := by
  obtain ⟨reaction, hreaction, rfl⟩ := of_deliver hr
  obtain rfl := reaction_discovery_new hmod hnew hreaction
  have htype := typeOf_header .moduleDeclare (serverID % 16) (declareBody b m)
  let M := N.withParty .wrapper { wrapper N with
    program := { (wrapper N).program with
      serverMap := (wrapper N).program.serverMap.insert (serverID % 16) ⟨-1, true⟩ }
    processed := (wrapper N).processed ++ [discoveryData serverID] }
  have hsend : clientDataSend M .wrapper (declareData b m (serverID % 16)) = _ :=
    clientDataSend_claims (h.sameMap rfl) hc hk
      ((congrArg (·.comm.activeCommChannel) (withParty_self N .wrapper _)).trans hactive)
      (show mapsChannel .wrapper (typeOf (declareData b m (serverID % 16))) = true by
        rw [declareData, htype]
        rfl)
  rw [withParty_withParty, withParty_self, declareData, objID_header, ← declareData] at hsend
  dsimp only
  rw [List.foldl_cons, List.foldl_nil, dataPacketSender, if_neg Bool.false_ne_true]
  exact congrArg (·, MesgProcessResult.processedOk) hsend

theorem told_discovery (xs : List (List UInt8)) (serverID : Int) :
    told (xs ++ [discoveryData serverID]) = told xs := by
  have htype : typeOf (discoveryData serverID) = some .moduleDiscovery := typeOf_header ..
  rw [told_append, told, told, List.filter_singleton, htype]
  exact List.append_nil _

theorem answered_eq (hk : k.sockets .server = .client fd) (hk' : k.sockets .wrapper = .client fd')
    (hinbox : k.inbox .server = []) (data : List UInt8) :
    ((Connection.fresh.setSocket .wrapper (.client fd')).write .wrapper data).setSocket .server
      (.client fd) = (k.setInbox .wrapper []).write .wrapper data := by
  have hsockets : (((Connection.fresh.setSocket .wrapper (.client fd')).write .wrapper data).setSocket
      .server (.client fd)).sockets = k.sockets := by
    funext side
    cases side with
    | server => rw [setSocket_self, hk]
    | wrapper =>
        rw [setSocket_of_ne _ server_ne_wrapper.symm, hk']
        exact setSocket_self .fresh .wrapper (.client fd')
  have hinboxes : (((Connection.fresh.setSocket .wrapper (.client fd')).write .wrapper data).setSocket
      .server (.client fd)).inbox = ((k.setInbox .wrapper []).write .wrapper data).inbox := by
    funext side
    cases side with
    | server =>
        have hleft := write_inbox (Connection.fresh.setSocket .wrapper (.client fd')) .wrapper data
        have hright := write_inbox (k.setInbox .wrapper []) .wrapper data
        rw [Side.other] at hleft hright
        rw [setSocket_inbox, hleft, hright, setInbox_of_ne k server_ne_wrapper, hinbox]
        rfl
    | wrapper =>
        rw [setSocket_inbox, write_inbox_self, write_inbox_self, setInbox_self]
        rfl
  exact congrArg₂ Connection.mk hsockets hinboxes

def Unread (H : Nat → Option Connection) : Prop := ∃ c k, H c = some k ∧ k.inbox .wrapper ≠ []

/-- The network without the connections goes along, and a discovery waits until the wrapper
knows the server. -/
def Follows (P : Programs State) (serverID : Int) (H : Nat → Option Connection) (A N : Network State) :
    Prop :=
  ∃ H' A', ReflTransGen (Step P) A A' ∧ Without P serverID H' A' N ∧
    (Unread H → Unread H' ∨ serverID % 16 ∈ (wrapper N).program.serverMap)

theorem follows_run (h : Without P serverID H A N) {A₀ : Network State}
    (hrun : ReflTransGen (Step P) A₀ A) : Follows P serverID H A₀ N :=
  ⟨H, A, hrun, h, .inl⟩

theorem follows_known (h : Without P serverID H A N) (hc : H c = some k) (fd : Int)
    (hknown : serverID % 16 ∈ (wrapper N).program.serverMap) :
    Follows P serverID H A
      (((N.withComm .wrapper (setLastUsedCommChannel (wrapper N).comm fd)).withConn c
        (k.setInbox .wrapper [])).withParty .wrapper { wrapper N with
          comm := setLastUsedCommChannel (wrapper N).comm fd
          processed := (wrapper N).processed ++ [discoveryData serverID] }) := by
  obtain ⟨hprogram, hmap, hsent, hprocessed⟩ := h.parties .wrapper
  refine ⟨Function.update H c (some (k.setInbox .wrapper [])), A, .refl, ?_, fun _ => .inr ?_⟩
  · have hsame : Same (A.parties .wrapper) { wrapper N with
        comm := setLastUsedCommChannel (wrapper N).comm fd
        processed := (wrapper N).processed ++ [discoveryData serverID] } := by
      refine ⟨hprogram, hmap, hsent, ?_⟩
      rw [told_discovery]
      exact hprocessed
    have hframe := (h.emptied hc).withParty .wrapper hsame fun id fd' hfd' => ?_
    · rw [withParty_eta] at hframe
      rw [withConn_withParty, Network.withComm, withParty_withParty]
      exact hframe
    · exact (h.emptied hc).foreign_mapped id hfd'
  · rw [wrapper_withWrapper]
    exact hknown

theorem follows_new (h : Without (programs b host port) serverID H A N)
    (hinv : Inv b host port m serverID A) (hc : H c = some k) (hk : k.sockets .wrapper = .client fd')
    (hinbox : k.inbox .wrapper ≠ []) (hnew : serverID % 16 ∉ (wrapper N).program.serverMap)
    {r : Network State × MesgProcessResult}
    (hr : deliver (programs b host port)
      ((N.withConn c (k.setInbox .wrapper [])).withComm .wrapper
        (setLastUsedCommChannel (wrapper N).comm fd')) .wrapper cAddr (discoveryData serverID) = some r) :
    Follows (programs b host port) serverID H A r.1 := by
  let P := programs b host port
  let declaration := declareData b m (serverID % 16)
  obtain ⟨fd, hfd⟩ := (h.apart c k hc).listed
  obtain ⟨hprogram, hmap, hsent, hprocessed⟩ := h.parties .wrapper
  have hAc := h.hidden c k hc
  have hN : wrapper ((N.withConn c (k.setInbox .wrapper [])).withComm .wrapper
      (setLastUsedCommChannel (wrapper N).comm fd')) =
        { wrapper N with comm := setLastUsedCommChannel (wrapper N).comm fd' } := wrapper_withWrapper ..
  -- what the wrapper makes of the discovery
  have hwired : Wired ((N.withConn c (k.setInbox .wrapper [])).withComm .wrapper
      (setLastUsedCommChannel (wrapper N).comm fd')) := ((h.emptied hc).wired hinv.wired).sameMap rfl
  have hmodule : (wrapper N).program.pyConnectModule = some m := hprogram ▸ hinv.module
  obtain rfl := deliver_discovery hwired (withConn_self ..) hk (by rw [hN]; rfl) (by rw [hN]; exact hmodule)
    (by rw [hN]; exact hnew) hr
  -- what it makes of the broadcast
  have hunused : Unused A .wrapper fd' := by
    refine ⟨h.nonneg c k .wrapper fd' hc hk, fun c' k' hc' => ?_⟩
    refine h.own c k .wrapper fd' hc hk c' k' ?_ (h.conn hc').2
    rintro rfl
    rw [hAc] at hc'
    cases hc'
  let k₁ := (Connection.fresh.setSocket .wrapper (.client fd')).write .wrapper declaration
  let A₂ := (A.withConn c k₁).withParty .wrapper (met b m serverID (wrapper A) fd')
  have hdatagram : processUDPInput P A .wrapper c fd' cAddr
      (broadcastForm P .server (discoveryData serverID)) = some A₂ := by
    have hA : wrapper (createTCPTalker A .wrapper c fd') =
        { wrapper A with comm := ⟨(wrapper A).comm.objCommMap, fd'⟩ } := listed_party A .wrapper c .fresh fd'
    obtain ⟨reaction, hreaction, -⟩ := of_deliver hr
    have hprograms : ((createTCPTalker A .wrapper c fd').parties .wrapper).program =
        (((N.withConn c (k.setInbox .wrapper [])).withComm .wrapper
          (setLastUsedCommChannel (wrapper N).comm fd')).parties .wrapper).program := by
      rw [← wrapper, ← wrapper, hA, hN]
      exact hprogram
    obtain ⟨r, hdeliver⟩ : ∃ r, deliver P (createTCPTalker A .wrapper c fd') .wrapper cAddr
        (discoveryData serverID) = some r := by
      rw [deliver, hprograms, hreaction]
      exact ⟨_, rfl⟩
    have hwiredA : Wired (createTCPTalker A .wrapper c fd') :=
      (hinv.wired.listed hunused (.inr ⟨hAc, rfl⟩) rfl).sameMap rfl
    obtain rfl := deliver_discovery hwiredA (listed_conn ..) (setSocket_self ..) (by rw [hA])
      (by rw [hA]; exact hinv.module) (by rw [hA]; exact hprogram ▸ hnew) hdeliver
    obtain ⟨-, ht⟩ := msgType_header .moduleDiscovery serverID
    have heq := processUDPInput_eq P A .wrapper .server c fd' cAddr (header .moduleDiscovery serverID) []
      ht (.inl rfl)
    rw [List.nil_append] at heq
    rw [discoveryData, heq, ← discoveryData, if_pos (by decide), hdeliver, Option.map_some]
    dsimp only
    rw [if_neg (by decide)]
    exact congrArg some (introduced_listed A c _ _ fd')
  -- and of being accepted
  have hlist : Unused A₂ .server fd := by
    refine ⟨h.nonneg c k .server fd hc hfd, fun c' k' hc' => ?_⟩
    rcases withConn_cases (N := A) hc' with ⟨rfl, rfl⟩ | ⟨hne, hc'⟩
    · exact Socket.noConfusion
    · exact h.own c k .server fd hc hfd c' k' hne (h.conn hc').2
  have hconn : A₂.conns c = some k₁ := withConn_self A c k₁
  have haccepted : addFdToClientList A₂ .server c k₁ fd =
      ((A.withConn c ((k.setInbox .wrapper []).write .wrapper declaration)).withParty .wrapper
        (met b m serverID (wrapper A) fd')).withComm .server
          (setLastUsedCommChannel (A₂.parties .server).comm fd) := by
    have hconns := withConn_withConn A c k₁ ((k.setInbox .wrapper []).write .wrapper declaration)
    rw [addFdToClientList, answered_eq hfd hk (h.apart c k hc).silent]
    exact congrArg (fun N : Network State => (N.withParty .wrapper _).withComm .server _) hconns
  refine ⟨Function.update H c none, addFdToClientList A₂ .server c k₁ fd, ?_, ?_, fun _ => .inr ?_⟩
  · exact .tail (.single (.datagram A A₂ .wrapper c fd' cAddr _ (h.heard c k hc hinbox) hAc hunused
      hdatagram)) (.accept A₂ .server c k₁ fd hconn rfl hlist)
  · have hshown := h.reveal hc ((k.setInbox .wrapper []).write .wrapper declaration)
      fun _ _ hclient => hclient
    have hsame : Same (met b m serverID (wrapper A) fd') (met b m serverID (wrapper N) fd') := by
      refine ⟨?_, ?_, told_congr hsent _, told_congr hprocessed _⟩
      · rw [met, met, hprogram]
      · rw [met, met, hmap]
    have hmet := hshown.withParty .wrapper hsame fun id fd hfd => ?_
    · have hfinal := hmet.withComm .server (setLastUsedCommChannel (A₂.parties .server).comm fd) _
        rfl rfl
      rw [withComm_eta] at hfinal
      rw [haccepted, introduced_listed]
      exact hfinal
    · rw [met, Maps.get_insert] at hfd
      split at hfd
      · obtain rfl := Option.some.inj hfd
        exact hshown.foreign (withConn_self ..) hk
      · exact hshown.foreign_mapped id hfd
  · rw [introduced_listed, wrapper_withWrapper]
    exact Std.ExtTreeMap.mem_insert_self

theorem follows_discovery (h : Without (programs b host port) serverID H A N)
    (hinv : Inv b host port m serverID A) (hc : H c = some k) (hk : k.sockets .wrapper = .client fd)
    (hinbox : k.inbox .wrapper ≠ []) {r : Network State × MesgProcessResult}
    (hr : deliver (programs b host port)
      ((N.withConn c (k.setInbox .wrapper [])).withComm .wrapper
        (setLastUsedCommChannel (wrapper N).comm fd)) .wrapper cAddr (discoveryData serverID) = some r) :
    Follows (programs b host port) serverID H A r.1 := by
  by_cases hknown : serverID % 16 ∈ (wrapper N).program.serverMap
  · obtain ⟨reaction, hreaction, rfl⟩ := of_deliver hr
    have hN : ((N.withConn c (k.setInbox .wrapper [])).withComm .wrapper
        (setLastUsedCommChannel (wrapper N).comm fd)).parties .wrapper =
          { wrapper N with comm := setLastUsedCommChannel (wrapper N).comm fd } :=
      wrapper_withWrapper (N.withConn c _) _
    rw [hN, reaction_discovery_known hknown] at hreaction
    obtain rfl := Option.some.inj hreaction
    rw [hN]
    exact follows_known h hc fd hknown
  · exact follows_new h hinv hc hk hinbox hknown hr

theorem follows_accept (h : Without P serverID H A N) (hw : Wired A) (hc : H c = some k)
    (hk : k.sockets side = .backlog) (hfd : Unused N side fd) :
    Follows P serverID H A (addFdToClientList N side c k fd) := by
  obtain ⟨⟨fd₀, hserver⟩, hlive, hsilent, hinbox⟩ := h.apart c k hc
  have hside : side ≠ .server := by
    rintro rfl
    rw [hserver] at hk
    cases hk
  have hsockets : ∀ side' fd', (k.setSocket side (.client fd)).sockets side' = .client fd' →
      (side' = side ∧ fd' = fd) ∨ k.sockets side' = .client fd' := by
    intro side' fd' hk'
    by_cases he : side' = side
    · subst he
      rw [setSocket_self] at hk'
      exact .inl ⟨rfl, (Socket.client.inj hk').symm⟩
    · rw [setSocket_of_ne k he] at hk'
      exact .inr hk'
  have hapart : Apart serverID (k.setSocket side (.client fd)) := by
    refine ⟨⟨fd₀, ?_⟩, fun side' => ?_, hsilent, hinbox⟩
    · rw [setSocket_of_ne k hside.symm]
      exact hserver
    · by_cases he : side' = side
      · subst he
        rw [setSocket_self]
        exact Socket.noConfusion
      · rw [setSocket_of_ne k he]
        exact hlive side'
  have hhidden := h.hide (h.hidden c k hc) hapart ?_ ?_ ?_ (h.heard c k hc)
  · have h' := hhidden.withComm side _ (setLastUsedCommChannel (N.parties side).comm fd) rfl rfl
    rw [withComm_eta] at h'
    refine ⟨_, A, .refl, h', ?_⟩
    rintro ⟨c', k', hc', hk'⟩
    left
    by_cases he : c' = c
    · subst he
      obtain rfl := Option.some.inj (hc.symm.trans hc')
      exact ⟨c', _, Function.update_self .., hk'⟩
    · exact ⟨c', k', (Function.update_of_ne he ..).trans hc', hk'⟩
  · intro side' fd' hk'
    rcases hsockets side' fd' hk' with ⟨rfl, rfl⟩ | hk'
    · exact hfd.1
    · exact h.nonneg c k side' fd' hc hk'
  · intro side' fd' hk'
    rcases hsockets side' fd' hk' with ⟨rfl, rfl⟩ | hk'
    · exact fun c' k' _ hc' => hfd.2 c' k' hc'
    · exact h.own c k side' fd' hc hk'
  · intro side' fd' hk'
    rcases hsockets side' fd' hk' with ⟨rfl, rfl⟩ | hk'
    · exact (h.wired hw).unmapped hfd
    · exact h.unmapped c k side' fd' hc hk'

theorem follows_read (h : Without (programs b host port) serverID H A N)
    (hinv : Inv b host port m serverID A) (hc : H c = some k) (hk : k.sockets side = .client fd)
    (hinbox : k.inbox side ≠ []) {n : Nat}
    (hr : processMessages (programs b host port) side c cAddr n
      (N.withComm side (setLastUsedCommChannel (N.parties side).comm fd)) = some N') :
    Follows (programs b host port) serverID H A N' := by
  obtain ⟨-, -, hsilent, hwaits⟩ := h.apart c k hc
  cases side with
  | server => exact absurd hsilent hinbox
  | wrapper =>
      have hdiscovery := hwaits.resolve_left hinbox
      cases n with
      | zero =>
          obtain rfl := Option.some.inj hr
          have h' := h.withComm .wrapper _ (setLastUsedCommChannel (N.parties .wrapper).comm fd) rfl rfl
          rw [withComm_eta] at h'
          exact follows_run h' .refl
      | succ n =>
          have hNc : (N.withComm .wrapper (setLastUsedCommChannel (N.parties .wrapper).comm fd)).conns c =
              some k := h.conn_hidden hc
          rw [processMessages, hNc] at hr
          dsimp only at hr
          rw [hdiscovery] at hr
          dsimp only at hr
          split at hr
          next => cases hr
          next r hdeliver =>
            -- there is no more than the discovery to read
            obtain ⟨k', hk', -, hinbox'⟩ := conn_deliver hdeliver (withConn_self ..)
            rw [setInbox_self] at hinbox'
            have hlast : N' = r.1 := by
              cases n with
              | zero => exact (Option.some.inj hr).symm
              | succ n =>
                  rw [processMessages, hk'] at hr
                  dsimp only at hr
                  rw [hinbox'] at hr
                  cases hr
            rw [hlast]
            exact follows_discovery h hinv hc hk hinbox hdeliver

/-- Whatever happens, the network without the connections goes along. -/
theorem follows_step (h : Without (programs b host port) serverID H A N)
    (hinv : Inv b host port m serverID A) (hstep : Step (programs b host port) N N') :
    Follows (programs b host port) serverID H A N' := by
  cases hstep with
  | broadcast side data hdata =>
      rw [← (h.parties side).program] at hdata
      exact follows_run (h.broadcast data) (.single (.broadcast A side data hdata))
  | datagram _ side c fd cAddr recBuffer hair hc hfd hr =>
      obtain ⟨A', hr', h'⟩ := h.processUDPInput hc hfd hr
      exact follows_run h' (.single (.datagram A A' side c fd cAddr recBuffer (h.air _ hair) (h.absent hc).2
        (h.unused hfd).1 hr'))
  | accept side c k fd hc hk hfd =>
      cases hH : H c with
      | none =>
          have hA : A.conns c = some k := (h.visible hH).symm.trans hc
          have h' := (h.addFdToClientList hH hfd fun side' fd' _ hk' => h.foreign hA hk').1
          exact follows_run h' (.single (.accept A side c k fd hA hk (h.unused hfd).1))
      | some k₀ =>
          obtain rfl := Option.some.inj ((h.conn_hidden hH).symm.trans hc)
          exact follows_accept h hinv.wired hH hk hfd
  | read _ side c k fd cAddr n hc hk hinbox hr =>
      cases hH : H c with
      | none =>
          have hA : A.conns c = some k := (h.visible hH).symm.trans hc
          have hcomm := h.withComm side (setLastUsedCommChannel (A.parties side).comm fd)
            (setLastUsedCommChannel (N.parties side).comm fd) rfl rfl
          have hready : Ready H (A.withComm side (setLastUsedCommChannel (A.parties side).comm fd))
              (N.withComm side (setLastUsedCommChannel (N.parties side).comm fd)) side := by
            rw [Network.withComm, Network.withComm]
            constructor
            · rw [withParty_self, withParty_self]
              exact congrArg (ObjectComm.mk · fd) (h.parties side).objCommMap
            · rw [withParty_self]
              exact h.foreign hA hk
          obtain ⟨A', hr', h'⟩ := hcomm.processMessages hready hH hr
          exact follows_run h' (.single (.read A A' side c k fd cAddr n hA hk hinbox hr'))
      | some k₀ =>
          obtain rfl := Option.some.inj ((h.conn_hidden hH).symm.trans hc)
          exact follows_read h hinv hH hk hinbox hr
  | eof side c k fd cAddr hc hk hother hinbox =>
      have hA : A.conns c = some k := by
        cases hH : H c with
        | none => exact (h.visible hH).symm.trans hc
        | some k₀ =>
            obtain rfl := Option.some.inj ((h.conn_hidden hH).symm.trans hc)
            exact absurd hother ((h.apart c _ hH).live side.other)
      have h' := h.destroyCurrentClient (h.foreign hA hk)
      rw [← channelShutdown_eq (programs b host port) cAddr true
        (ended_unmapped hinv.wired hA hk hother)] at h'
      rw [channelShutdown_eq (programs b host port) cAddr true
        (ended_unmapped (h.wired hinv.wired) hc hk hother)]
      exact follows_run h' (.single (.eof A side c k fd cAddr hA hk hother hinbox))

theorem follows_connected (h : Without (programs b host port) serverID H A N)
    (hinv : Inv b host port m serverID A) (hc : N.conns c = none) (hfd : Unused N .server fd) :
    Follows (programs b host port) serverID H A (connected N c fd) := by
  let P := programs b host port
  let A' := dataPacketSender P A .server (discoveryData serverID) true
  have hprogram := (h.parties .server).program
  have hserverID : (server N).program.serverID = serverID :=
    (congrArg (·.serverID) hprogram.symm).trans hinv.id
  have hstep : Step P A A' := by
    refine .broadcast A .server (discoveryData serverID) ?_
    rw [← hinv.id]
    exact List.mem_singleton_self _
  let k := (Connection.fresh.setSocket .server (.client fd)).write .server (discoveryData serverID)
  have hserver : k.sockets .server = .client fd := setSocket_self .fresh .server (.client fd)
  have hwrapper : k.sockets .wrapper = .backlog := setSocket_of_ne .fresh server_ne_wrapper.symm (.client fd)
  have hinbox : k.inbox .wrapper = [discoveryData serverID] := write_inbox _ .server _
  have hclient : ∀ side fd', k.sockets side = .client fd' → side = .server ∧ fd' = fd := by
    intro side fd' hk
    cases side with
    | server => exact ⟨rfl, (Socket.client.inj (hserver.symm.trans hk)).symm⟩
    | wrapper => cases hwrapper.symm.trans hk
  have hapart : Apart serverID k := by
    refine ⟨⟨fd, hserver⟩, fun side => ?_, write_inbox_self _ .server _, .inr hinbox⟩
    cases side with
    | server => exact hserver ▸ Socket.noConfusion
    | wrapper => exact hwrapper ▸ Socket.noConfusion
  have hbroadcast : Without P serverID H A' N :=
    h.withAir (fun data hdata => List.mem_append_left _ hdata)
      fun data hdata => List.mem_append_left _ (h.air data hdata)
  have hhidden := hbroadcast.hide (c := c) (k := k) (h.absent hc).2 hapart ?_ ?_ ?_ ?_
  · have hsame : Same (A'.parties .server) { server N with
        comm := ⟨(server N).comm.objCommMap, invalidSocket⟩
        sent := (server N).sent ++ [discoveryData serverID] } := by
      obtain ⟨-, hmap, hsent, hprocessed⟩ := h.parties .server
      refine ⟨hprogram, hmap, ?_, hprocessed⟩
      rw [told_discovery]
      exact hsent
    have h' := hhidden.withParty .server hsame fun id fd' hfd' => hhidden.foreign_mapped id hfd'
    rw [withParty_eta] at h'
    refine ⟨Function.update H c (some k), A', .single hstep, ?_, fun _ => .inl ⟨c, k, ?_, ?_⟩⟩
    · rw [connected, hserverID]
      exact h'
    · exact Function.update_self ..
    · rw [hinbox]
      exact List.cons_ne_nil _ _
  · intro side fd' hk
    obtain ⟨rfl, rfl⟩ := hclient side fd' hk
    exact hfd.1
  · intro side fd' hk
    obtain ⟨rfl, rfl⟩ := hclient side fd' hk
    exact fun c' k' _ hc' => hfd.2 c' k' hc'
  · intro side fd' hk
    obtain ⟨rfl, rfl⟩ := hclient side fd' hk
    exact (h.wired hinv.wired).unmapped hfd
  · exact fun _ => List.mem_append_right _ (List.mem_singleton_self _)

theorem follows (h : Without (programs b host port) serverID H A N) (hinv : Inv b host port m serverID A)
    (hstep : Happens (programs b host port) N N') : Follows (programs b host port) serverID H A N' := by
  cases hstep with
  | step hstep => exact follows_step h hinv hstep
  | connect S addr port' hS =>
      rcases pyConnectConnect_cases (programs b host port) S addr port' N with
        ⟨e, he⟩ | ⟨saddr, p, c, fd, hconnect, -, -, he⟩
      · rw [he]
        exact follows_run h .refl
      · obtain ⟨hc, hfd⟩ := hS saddr p c fd hconnect
        rw [he, clientDataSend_discovery (h.wired hinv.wired) hc hfd]
        exact follows_connected h hinv hc hfd

theorem follows_reach (h : Without (programs b host port) serverID H A N)
    (hinv : Inv b host port m serverID A) (hrun : ReflTransGen (Happens (programs b host port)) N N') :
    ∃ H' A', ReflTransGen (Step (programs b host port)) A A' ∧
      Without (programs b host port) serverID H' A' N' := by
  induction hrun with
  | refl => exact ⟨H, A, .refl, h⟩
  | tail _ hstep ih =>
      obtain ⟨H₁, A₁, hrun₁, h₁⟩ := ih
      obtain ⟨H', A', hrun', h', -⟩ := follows h₁ (inv_reach hrun₁ hinv) hstep
      exact ⟨H', A', hrun₁.trans hrun', h'⟩

/-- Scripts may connect to the module as often as they like: but for the connections that
have carried no more than a discovery, all is as after a run of broadcasts. So the handshake
runs at most once, and who has processed the id that it ends with agrees with the server on
it and on one connection. -/
theorem direct_agrees (b : Build) (host : Host) (port : Side → UInt8 × UInt8)
    {m : PyConnectModule} {serverID : Int} {pow : Bool} {pyConnect : PyDict} {N N' : Network State}
    (hrun : ReflTransGen (Happens (programs b host port)) (start pow pyConnect serverID m) N)
    (hrun' : ReflTransGen (Happens (programs b host port)) N N') :
    (∃ H A, ReflTransGen (Step (programs b host port)) (start pow pyConnect serverID m) A ∧
      Without (programs b host port) serverID H A N') ∧
    ((server N).program.modules.map entry <+: (server N').program.modules.map entry ∧
      (server N').program.modules.length ≤ 1) ∧
    ((server N').sent.filter fun data => typeOf data = some .moduleAssignId).length ≤ 1 ∧
    ((wrapper N').sent.filter fun data => typeOf data = some .attrMetdExpose).length ≤ 1 ∧
    (∀ data ∈ (wrapper N').processed, ∀ k, Assigns m data k → Agreed serverID N' k) ∧
    (0 ∉ m.name → m.name.length ≤ 255 →
      ∀ data ∈ (wrapper N').processed, ∀ k, CarriesId data k → Agreed serverID N' k) := by
  have hstart : Inv b host port m serverID (start pow pyConnect serverID m) := inv_start pow pyConnect
  obtain ⟨H, A, hrunA, h⟩ := follows_reach (without_nothing _ serverID _) hstart hrun
  have hinv := inv_reach hrunA hstart
  obtain ⟨H', A', hrunA', h'⟩ := follows_reach h hinv hrun'
  have hinv' := inv_reach hrunA' hinv
  have hs := h'.parties .server
  have hw := h'.parties .wrapper
  have hcarried : ∀ data ∈ (wrapper N').processed, ∀ (serverId : Int) (i : UInt8) (body : List UInt8),
      data = header .moduleAssignId serverId :: i :: body → (i.toNat : Int) = 1 ∧
        carriedName body = declaredName b m ∧ (declaredName b m = m.name → Agreed serverID N' 1) := by
    rintro data hdata serverId i body rfl
    have htype := typeOf_header .moduleAssignId serverId (i :: body)
    have hmem : header .moduleAssignId serverId :: i :: body ∈ told (wrapper N').processed := by
      refine List.mem_filter.mpr ⟨hdata, ?_⟩
      rw [htype]
      rfl
    rw [← hw.processed] at hmem
    obtain ⟨heq, hagreed⟩ := hinv'.agreed (List.mem_filter.mp hmem).1 htype
    rw [assignment, assignData, List.cons.injEq, List.cons.injEq] at heq
    obtain ⟨-, rfl, rfl⟩ := heq
    exact ⟨rfl, carriedName_assign b m, fun hname => h'.agreed (hagreed hname)⟩
  refine ⟨⟨H', A', hrunA.trans hrunA', h'⟩, ⟨?_, ?_⟩, ?_, ?_, ?_, ?_⟩
  · have hkept := entries_kept hinv hinv' (extends_reach hrunA')
    rwa [server, server, (h.parties .server).program, hs.program] at hkept
  · have honce := hinv'.registered_once.1
    rwa [server, hs.program] at honce
  · have honce := hinv'.registered_once.2
    rwa [← told_filter (by decide), hs.sent, told_filter (by decide)] at honce
  · have honce := hinv'.exposed_once
    rwa [← told_filter (by decide), hw.sent, told_filter (by decide)] at honce
  · rintro data hdata k ⟨serverId, i, body, hdata', rfl, hname⟩
    obtain ⟨hi, hcarries, hagreed⟩ := hcarried data hdata serverId i body hdata'
    rw [hi]
    exact hagreed (hcarries.symm.trans hname)
  · rintro h0 hl data hdata k ⟨serverId, i, body, hdata', rfl⟩
    obtain ⟨hi, -, hagreed⟩ := hcarried data hdata serverId i body hdata'
    rw [hi]
    exact hagreed (declaredName_eq b h0 hl)

def oneModule : System := ⟨fun _ => none, fun _ => some 0x7f000001, fun _ _ => some (0, 5)⟩

def dialled : Network State :=
  (pyConnectConnect (programs ⟨.little, false, false⟩ .little fun _ => (0x26, 0x11)) oneModule
    (text "127.0.0.1") 0 (encounter [116])).1

theorem one_dialled {saddr : UInt32} {port : UInt16} (h : oneModule.connect saddr port = some (c, fd)) :
    (encounter [116]).conns c = none ∧ Unused (encounter [116]) .server fd := by
  obtain ⟨rfl, rfl⟩ := Prod.mk.inj (Option.some.inj h)
  exact ⟨rfl, by decide, fun c k hc => by cases hc⟩

theorem happens_dialled : Happens (programs ⟨.little, false, false⟩ .little fun _ => (0x26, 0x11))
    (encounter [116]) dialled :=
  .connect (encounter [116]) oneModule (text "127.0.0.1") 0 fun _ _ _ _ => one_dialled

def dialogue : List Choice :=
  [.accept .wrapper 0 8, .read .wrapper 0 ⟨true, 9, []⟩ 1, .read .server 0 ⟨true, 9, []⟩ 1,
    .read .wrapper 0 ⟨true, 9, []⟩ 1]

theorem direct_agrees_dialled : ∃ N, ReflTransGen
    (Happens (programs ⟨.little, false, false⟩ .little fun _ => (0x26, 0x11))) (encounter [116]) N ∧
      [51, 1, 1, 116, 64] ∈ (wrapper N).processed ∧ Agreed 3 N 1 := by
  let P := programs ⟨.little, false, false⟩ .little fun _ => (0x26, 0x11)
  obtain ⟨N, hN, hx⟩ := Option.map_eq_some_iff.mp
    (show (Schedule.run P 1 dialled dialogue).map (fun N => (wrapper N).processed) =
      some [[19, 64], [51, 1, 1, 116, 64]] by decide +kernel)
  have hbounded : Bounded 1 dialled := by
    intro c hc
    have hnone : (createTCPTalker (encounter [116]) .server 0 5).conns c = none :=
      withConn_of_ne (encounter [116]) (Nat.ne_of_gt hc) _
    have hnone' : (dataPacketSender P (createTCPTalker (encounter [116]) .server 0 5) .server
        (discoveryData 3) false).conns c = none := dataPacketSender_none hnone _ _
    exact hnone'
  have hrun : ReflTransGen (Happens P) (encounter [116]) N :=
    .head happens_dialled ((run_sound hbounded hN).lift id fun _ _ => .step)
  have hdata : [51, 1, 1, 116, 64] ∈ (wrapper N).processed := by
    rw [hx]
    decide
  obtain ⟨-, -, -, -, hagrees, -⟩ := direct_agrees _ _ _ hrun .refl
  exact ⟨N, hrun, hdata, hagrees _ hdata 1 ⟨3, 1, [1, 116, 64], rfl, rfl, rfl⟩⟩

end PyConnect.DirectConnect

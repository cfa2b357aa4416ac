import PyConnect.Completion
import PyConnect.DirectConnect

namespace PyConnect.DirectAgreement

open Relation Bytes Common Values ObjComm NetComm Channels Stub StubMessage Wrapper WrapperInput Handshake
open Agreement Schedule Discovery Conversation Settling Completion Concealment DirectConnect

/-- What the wrapper has said to the server stays there. -/
def Kept (N N' : Network State) : Prop :=
  ∀ c k, N.conns c = some k → ∃ k', N'.conns c = some k' ∧ k.inbox .server <+: k'.inbox .server

/-- The declaration of the wrapper, which has a discovery, is the next that the server will
read on some connection. -/
def Underway (b : Build) (m : PyConnectModule) (serverID : Int) (N : Network State) : Prop :=
  ∃ c k rest, N.conns c = some k ∧ k.inbox .server = declareData b m (serverID % 16) :: rest

def Begun (b : Build) (m : PyConnectModule) (serverID : Int) (N : Network State) : Prop :=
  (server N).program.modules ≠ [] ∨ Underway b m serverID N

/-- One of the two has heard of the other, or will when it reads. -/
def Heard (serverID : Int) (N : Network State) : Prop :=
  (server N).program.modules ≠ [] ∨ serverID % 16 ∈ (wrapper N).program.serverMap ∨
    ∃ c k, N.conns c = some k ∧ discoveryData serverID ∈ k.inbox .wrapper

variable {b : Build} {host : Host} {port : Side → UInt8 × UInt8} {m : PyConnectModule} {serverID : Int}
  {P : Programs State} {H : Nat → Option Connection} {A N N' N'' : Network State} {side : Side} {c : Nat}
  {k : Connection} {fd : Int} {total : Nat} {cAddr : SockAddr} {data : List UInt8}

theorem Kept.refl (N : Network State) : Kept N N := fun _ k hc => ⟨k, hc, List.prefix_rfl⟩

theorem Kept.trans (h : Kept N N') (h' : Kept N' N'') : Kept N N'' := by
  intro c k hc
  obtain ⟨k', hc', hprefix⟩ := h c k hc
  obtain ⟨k'', hc'', hprefix'⟩ := h' c k' hc'
  exact ⟨k'', hc'', hprefix.trans hprefix'⟩

theorem Underway.kept (h : Underway b m serverID N) (hkept : Kept N N') : Underway b m serverID N' := by
  obtain ⟨c, k, rest, hc, hinbox⟩ := h
  obtain ⟨k', hc', hprefix⟩ := hkept c k hc
  obtain ⟨more, hmore⟩ := hprefix
  exact ⟨c, k', rest ++ more, hc', by rw [← hmore, hinbox, List.cons_append]⟩

theorem kept_onSocket (N : Network State) (side : Side) (fd : Int) {f : Connection → Connection}
    (hf : ∀ k, k.inbox .server <+: (f k).inbox .server) : Kept N (N.onSocket side fd f) := by
  intro c k hc
  refine ⟨_, congrArg (Option.map _) hc, ?_⟩
  dsimp only
  split
  · exact hf k
  · exact List.prefix_rfl

theorem kept_withConn (hc : N.conns c = some k) {k' : Connection}
    (hinbox : k.inbox .server <+: k'.inbox .server) : Kept N (N.withConn c k') := by
  intro c' k₁ hc'
  by_cases he : c' = c
  · subst he
    obtain rfl := Option.some.inj (hc.symm.trans hc')
    exact ⟨k', withConn_self .., hinbox⟩
  · exact ⟨k₁, (withConn_of_ne N he k').trans hc', List.prefix_rfl⟩

theorem kept_dataPacketSender (P : Programs State) (N : Network State) (side : Side)
    (data : List UInt8) (broadcast : Bool) : Kept N (dataPacketSender P N side data broadcast) := by
  have hwrite : ∀ k : Connection, k.inbox .server <+: (k.write side data).inbox .server := by
    intro k
    cases side with
    | server => exact (write_inbox_self k .server data) ▸ List.prefix_rfl
    | wrapper =>
        have hinbox := write_inbox k .wrapper data
        rw [Side.other] at hinbox
        rw [hinbox]
        exact List.prefix_append _ _
  rw [dataPacketSender]
  split
  · exact .refl N
  · rw [clientDataSend]
    dsimp only
    split
    · exact .refl N
    · exact kept_onSocket (N.withParty side _) side _ hwrite

theorem kept_deliver {r : Network State × MesgProcessResult}
    (hr : deliver P N side cAddr data = some r) : Kept N r.1 := by
  obtain ⟨reaction, -, rfl⟩ := of_deliver hr
  have hfold : ∀ (dispatches : List (List UInt8 × Bool)) (M : Network State),
      Kept M (dispatches.foldl (fun N x => dataPacketSender P N side x.1 x.2) M) := by
    intro dispatches
    induction dispatches with
    | nil => exact .refl
    | cons x xs ih => exact fun M => (kept_dataPacketSender P M side x.1 x.2).trans (ih _)
  exact fun c k hc => hfold reaction.dispatches (N.withParty side _) c k hc

theorem kept_listed (hc : N.conns c = some k ∨ N.conns c = none) :
    Kept N (addFdToClientList N side c k fd) := by
  rcases hc with hc | hc
  · exact kept_withConn hc List.prefix_rfl
  · intro c' k' hc'
    have he : c' ≠ c := by
      rintro rfl
      rw [hc] at hc'
      cases hc'
    exact ⟨k', (withConn_of_ne N he _).trans hc', List.prefix_rfl⟩

theorem kept_destroy (N : Network State) (side : Side) (fd : Int) :
    Kept N (destroyCurrentClient N side fd) :=
  kept_onSocket N side fd fun _ => List.prefix_rfl

theorem kept_datagram (hc : N.conns c = none) {recBuffer : List UInt8}
    (hr : processUDPInput P N side c fd cAddr recBuffer = some N') : Kept N N' := by
  rw [processUDPInput] at hr
  split at hr
  · split at hr
    · cases hr
    · obtain ⟨r, hdeliver, rfl⟩ := Option.map_eq_some_iff.mp hr
      have hkept : Kept N r.1 := (kept_listed (.inr hc)).trans (kept_deliver hdeliver)
      split
      · exact hkept.trans (kept_destroy _ _ _)
      · exact hkept
  · exact Option.some.inj hr ▸ .refl N

theorem kept_read_wrapper {n : Nat} : ∀ {N : Network State},
    processMessages P .wrapper c cAddr n N = some N' → Kept N N' := by
  induction n with
  | zero => exact fun h => Option.some.inj h ▸ .refl _
  | succ n ih =>
      intro N h
      rw [processMessages] at h
      split at h
      next => cases h
      next k hc =>
        split at h
        next => cases h
        next message inbox hinbox =>
          split at h
          next => cases h
          next r hdeliver =>
            have hpop : Kept N (N.withConn c (k.setInbox .wrapper inbox)) := by
              refine kept_withConn hc ?_
              rw [setInbox_of_ne k server_ne_wrapper]
            exact (hpop.trans (kept_deliver hdeliver)).trans (ih h)

theorem kept_read_other {n : Nat} {c' : Nat} (hne : c' ≠ c) : ∀ {N : Network State} {k : Connection},
    N.conns c' = some k → processMessages P side c cAddr n N = some N' →
    ∃ k', N'.conns c' = some k' ∧ k.inbox .server <+: k'.inbox .server := by
  induction n with
  | zero => exact fun hc' h => Option.some.inj h ▸ ⟨_, hc', List.prefix_rfl⟩
  | succ n ih =>
      intro N k hc' h
      rw [processMessages] at h
      split at h
      next => cases h
      next k₀ hc =>
        split at h
        next => cases h
        next message inbox hinbox =>
          split at h
          next => cases h
          next r hdeliver =>
            obtain ⟨k₁, hc₁, hprefix⟩ := kept_deliver hdeliver c' k ((withConn_of_ne N hne _).trans hc')
            obtain ⟨k', hk', hprefix'⟩ := ih hc₁ h
            exact ⟨k', hk', hprefix.trans hprefix'⟩

theorem sent_clientDataSend (N : Network State) (side : Side) (data : List UInt8) :
    ((clientDataSend N side data).parties side).sent = (N.parties side).sent ++ [data] := by
  have hparty : ∀ M : Network State, ∀ p : Party (State side), p.sent = (N.parties side).sent ++ [data] →
      ((M.withParty side p).parties side).sent = (N.parties side).sent ++ [data] := by
    intro M p hp
    rw [withParty_self]
    exact hp
  rw [clientDataSend]
  dsimp only
  split
  · exact hparty _ _ rfl
  · exact hparty _ _ rfl

theorem sent_declared (hm : Introducible b m) (hu : Unregistered N) {serverId : Int}
    {r : Network State × MesgProcessResult}
    (hr : deliver (programs b host port) N .server cAddr (declareData b m serverId) = some r) :
    (server r.1).sent ≠ [] := by
  obtain ⟨reaction, hreaction, rfl⟩ := of_deliver hr
  have hname : declaredName b m ≠ [] := by
    rw [declaredName_eq b hm.text hm.short]
    exact hm.named
  have hfind : findModuleByName (server N).program (declaredName b m) = none := by
    rw [findModuleByName, hu.modules]
    rfl
  obtain ⟨-, hdispatches, -⟩ := reaction_declare_new serverId hfind hname (by rw [hu.nextObjId]; decide)
    hreaction
  dsimp only
  rw [hdispatches, List.foldl_cons, List.foldl_nil, dataPacketSender, if_neg Bool.false_ne_true, server,
    sent_clientDataSend]
  exact List.append_ne_nil_of_right_ne_nil _ (List.cons_ne_nil _ _)

theorem underway_read (hm : Introducible b m) (hu : Unregistered N) (hu' : (server N').sent = [])
    (h : Underway b m serverID N) {n : Nat}
    (hr : processMessages (programs b host port) .server c cAddr n N = some N') :
    Underway b m serverID N' := by
  obtain ⟨c', k, rest, hc', hinbox⟩ := h
  by_cases hne : c' = c
  · subst hne
    cases n with
    | zero => exact Option.some.inj hr ▸ ⟨c', k, rest, hc', hinbox⟩
    | succ n =>
        rw [processMessages, hc'] at hr
        dsimp only at hr
        rw [hinbox] at hr
        dsimp only at hr
        split at hr
        next => cases hr
        next r hdeliver =>
          have hpopped : Unregistered (N.withConn c' (k.setInbox .server rest)) := by
            refine ⟨⟨hu.processed, hu.exposed⟩, hu.modules, hu.nextObjId, hu.sent, fun c₁ k₁ hc₁ => ?_⟩
            rcases withConn_cases hc₁ with ⟨rfl, rfl⟩ | ⟨-, hc₁⟩
            · rw [setInbox_of_ne k server_ne_wrapper.symm]
              exact hu.inbox c₁ k hc'
            · exact hu.inbox c₁ k₁ hc₁
          have hsent := (extends_processMessages hr .server).1
          rw [← server, ← server, hu'] at hsent
          exact absurd (List.prefix_nil.mp hsent) (sent_declared hm hpopped hdeliver)
  · obtain ⟨k', hk', more, hmore⟩ := kept_read_other hne hc' hr
    exact ⟨c', k', rest ++ more, hk', by rw [← hmore, hinbox, List.cons_append]⟩

theorem unregistered (h : Inv b host port m serverID N) (hmodules : (server N).program.modules = []) :
    Unregistered N := by
  rcases h.stage with hu | ⟨c, k, fd, hr⟩
  · exact hu
  · have hentries := hr.modules
    rw [hmodules] at hentries
    cases hentries

theorem begun_step (hm : Introducible b m) (hinv : Inv b host port m serverID N)
    (hinv' : Inv b host port m serverID N') (h : Begun b m serverID N)
    (hstep : Step (programs b host port) N N') : Begun b m serverID N' := by
  by_cases hmodules : (server N).program.modules = []
  · have hunder := h.resolve_left (absurd hmodules)
    by_cases hmodules' : (server N').program.modules = []
    · right
      cases hstep with
      | broadcast side data hdata => exact hunder
      | datagram _ side c fd cAddr recBuffer hair hc hfd hr => exact hunder.kept (kept_datagram hc hr)
      | accept side c k fd hc hk hfd => exact hunder.kept (kept_listed (.inl hc))
      | read _ side c k fd cAddr n hc hk hinbox hr =>
          let M := N.withComm side (setLastUsedCommChannel (N.parties side).comm fd)
          have hM : Underway b m serverID M := hunder
          cases side with
          | server =>
              have hinvM : Inv b host port m serverID M := hinv.withComm .server rfl
              have hmodulesM : (server M).program.modules = [] := by
                rw [server, show M.parties .server = _ from withParty_self N .server _]
                exact hmodules
              exact underway_read hm (unregistered hinvM hmodulesM)
                (unregistered hinv' hmodules').sent hM hr
          | wrapper => exact hM.kept (kept_read_wrapper hr)
      | eof side c k fd cAddr hc hk hother hinbox => exact hunder.kept (kept_destroy _ side fd)
    · exact .inl hmodules'
  · exact .inl (registered_step hinv hinv' hmodules hstep)

theorem program_deliver {r : Network State × MesgProcessResult}
    (hr : deliver P N .server cAddr data = some r) : (wrapper r.1).program = (wrapper N).program := by
  obtain ⟨reaction, -, rfl⟩ := of_deliver hr
  have hfold : ∀ (dispatches : List (List UInt8 × Bool)) (M : Network State),
      (wrapper (dispatches.foldl (fun N x => dataPacketSender P N .server x.1 x.2) M)).program =
        (wrapper M).program := by
    intro dispatches
    induction dispatches with
    | nil => exact fun M => rfl
    | cons x xs ih =>
        exact fun M => (ih _).trans (program_dataPacketSender P M x.1 x.2 .server .wrapper)
  exact (hfold _ _).trans (congrArg (·.program) (wrapper_withServer N _))

theorem program_processMessages {n : Nat} : ∀ {N : Network State},
    processMessages P .server c cAddr n N = some N' → (wrapper N').program = (wrapper N).program := by
  induction n with
  | zero => exact fun h => Option.some.inj h ▸ rfl
  | succ n ih =>
      intro N h
      rw [processMessages] at h
      split at h
      next => cases h
      next k hc =>
        split at h
        next => cases h
        next message inbox hinbox =>
          split at h
          next => cases h
          next r hdeliver =>
            have hprogram := program_deliver hdeliver
            exact (ih h).trans hprogram

theorem wrapper_rejectTalker (P : Programs State) (N : Network State) (cAddr : SockAddr) :
    wrapper (rejectTalker P N .server cAddr) = wrapper N := by
  have hshutdown : ∀ (M : Network State) (fd : Int),
      wrapper (channelShutdown P M .server cAddr fd false) = wrapper M := by
    intro M fd
    rw [channelShutdown]
    exact wrapper_withServer M _
  exact (hshutdown (N.withComm .server (getLastUsedCommChannel (server N).comm).1)
    (getLastUsedCommChannel (server N).comm).2).trans (wrapper_withServer N _)

theorem program_datagram {recBuffer : List UInt8}
    (hr : processUDPInput P N .server c fd cAddr recBuffer = some N') :
    (wrapper N').program = (wrapper N).program := by
  rw [processUDPInput] at hr
  split at hr
  · split at hr
    · cases hr
    · obtain ⟨r, hdeliver, rfl⟩ := Option.map_eq_some_iff.mp hr
      have hlisted : (wrapper (createTCPTalker N .server c fd)).program = (wrapper N).program :=
        congrArg (·.program) (wrapper_withServer (N.withConn c _) _)
      have hkept := (program_deliver hdeliver).trans hlisted
      split
      · exact (congrArg (·.program) (wrapper_rejectTalker P r.1 cAddr)).trans hkept
      · exact hkept
  · exact Option.some.inj hr ▸ rfl

def Known (b : Build) (m : PyConnectModule) (serverID : Int) (N : Network State) : Prop :=
  serverID % 16 ∈ (wrapper N).program.serverMap → Begun b m serverID N

theorem underway_introduced {k : Connection} (hinbox : k.inbox .server = []) (fd : Int) :
    Underway b m serverID (introduced b m serverID N c k fd) := by
  refine ⟨c, _, [], withConn_self .., ?_⟩
  have hwrite := write_inbox k .wrapper (declareData b m (serverID % 16))
  rw [Side.other] at hwrite
  rw [hwrite, hinbox]
  rfl

theorem ignored_declaration (hr : processUDPInput (programs b host port) N .wrapper c fd cAddr
    (broadcastForm (programs b host port) .wrapper (declareData b m 0)) = some N') : N' = N := by
  obtain ⟨-, ht⟩ := msgType_header .moduleDeclare 0
  have heq := processUDPInput_eq (programs b host port) N .wrapper .wrapper c fd cAddr
    (header .moduleDeclare 0)
    ((if b.clang then 1 else 0) :: (packString m.name false ++ packString m.desc true)) ht (.inr rfl)
  rw [List.cons_append] at heq
  rw [declareData, declareBody, heq, if_neg (by decide)] at hr
  exact (Option.some.inj hr).symm

theorem underway_datagram (hinv : Inv b host port m serverID N) (hc : N.conns c = none)
    (hfd : Unused N .wrapper fd) (hnew : serverID % 16 ∉ (wrapper N).program.serverMap)
    (hr : processUDPInput (programs b host port) N .wrapper c fd cAddr
      (broadcastForm (programs b host port) .server (discoveryData serverID)) = some N') :
    Underway b m serverID N' := by
  obtain ⟨-, ht⟩ := msgType_header .moduleDiscovery serverID
  have heq := processUDPInput_eq (programs b host port) N .wrapper .server c fd cAddr
    (header .moduleDiscovery serverID) [] ht (.inl rfl)
  rw [List.nil_append] at heq
  rw [discoveryData, heq, ← discoveryData, if_pos (by decide), Option.map_eq_some_iff] at hr
  obtain ⟨r, hdeliver, rfl⟩ := hr
  have hN : wrapper (createTCPTalker N .wrapper c fd) =
      { wrapper N with comm := ⟨(wrapper N).comm.objCommMap, fd⟩ } := listed_party N .wrapper c .fresh fd
  have hwired : Wired (createTCPTalker N .wrapper c fd) :=
    (hinv.wired.listed hfd (.inr ⟨hc, rfl⟩) rfl).sameMap rfl
  obtain rfl := deliver_discovery hwired (listed_conn ..) (setSocket_self ..) (by rw [hN])
    (by rw [hN]; exact hinv.module) (by rw [hN]; exact hnew) hdeliver
  rw [if_neg (show ¬ MesgProcessResult.processedOk = .toShutdown by decide)]
  exact underway_introduced rfl fd

theorem known_step (hm : Introducible b m) (hinv : Inv b host port m serverID N)
    (hinv' : Inv b host port m serverID N') (h : Known b m serverID N)
    (hstep : Step (programs b host port) N N') : Known b m serverID N' := by
  by_cases hknown : serverID % 16 ∈ (wrapper N).program.serverMap
  · exact fun _ => begun_step hm hinv hinv' (h hknown) hstep
  have hsame : (wrapper N').program = (wrapper N).program → Known b m serverID N' := by
    intro hprogram hknown'
    rw [hprogram] at hknown'
    exact absurd hknown' hknown
  by_cases hmodules : (server N).program.modules = []
  · cases hstep with
    | broadcast side data hdata => exact hsame rfl
    | datagram _ side c fd cAddr recBuffer hair hc hfd hr =>
        cases side with
        | server => exact hsame (program_datagram hr)
        | wrapper =>
            rcases hinv.air recBuffer hair with rfl | rfl
            · exact hsame (congrArg (·.program) (congrArg wrapper (ignored_declaration hr)))
            · exact fun _ => .inr (underway_datagram hinv hc hfd hknown hr)
    | accept side c k fd hc hk hfd =>
        cases side with
        | server => exact hsame (congrArg (·.program) (wrapper_withServer (N.withConn c _) _))
        | wrapper => exact hsame (congrArg (·.program) (wrapper_withWrapper (N.withConn c _) _))
    | read _ side c k fd cAddr n hc hk hinbox hr =>
        cases side with
        | server =>
            have hprogram := program_processMessages hr
            exact hsame (hprogram.trans (congrArg (·.program) (wrapper_withServer N _)))
        | wrapper => exact absurd ((unregistered hinv hmodules).inbox c k hc) hinbox
    | eof side c k fd cAddr hc hk hother hinbox =>
        refine hsame ?_
        rw [channelShutdown_eq (programs b host port) cAddr true (ended_unmapped hinv.wired hc hk hother)]
        rfl
  · exact fun _ => .inl (registered_step hinv hinv' hmodules hstep)

theorem known_reach (hm : Introducible b m) (hinv : Inv b host port m serverID N)
    (h : Known b m serverID N) (hrun : ReflTransGen (Step (programs b host port)) N N') :
    Known b m serverID N' := by
  induction hrun with
  | refl => exact h
  | tail hrun₁ hstep ih =>
      have hinv₁ := inv_reach hrun₁ hinv
      exact known_step hm hinv₁ (inv_step hstep hinv₁) ih hstep

theorem begun_reach (hm : Introducible b m) (hinv : Inv b host port m serverID N)
    (h : Begun b m serverID N) (hrun : ReflTransGen (Step (programs b host port)) N N') :
    Begun b m serverID N' := by
  induction hrun with
  | refl => exact h
  | tail hrun₁ hstep ih =>
      have hinv₁ := inv_reach hrun₁ hinv
      exact begun_step hm hinv₁ (inv_step hstep hinv₁) ih hstep

/-- The next message on some connection is one that the program at this end has an answer to. -/
def Waits (P : Programs State) (b : Build) (m : PyConnectModule) (N : Network State) : Prop :=
  ∃ side c k message rest, N.conns c = some k ∧ k.inbox side = message :: rest ∧
    k.sockets side ≠ .closed ∧ Replies P b m side (N.parties side).program message

theorem can_read (hb : Bounded total N) (h : Waits P b m N) : ∃ N', Settles P N N' := by
  obtain ⟨side, c, k, message, rest, hc, hinbox, hopen, reaction, hreaction, -⟩ := h
  cases hk : k.sockets side with
  | closed => exact absurd hk hopen
  | backlog =>
      obtain ⟨fd, hfd⟩ := exists_unused hb side
      exact ⟨_, .accept N side c k fd hc hk hfd⟩
  | client fd =>
      let M := N.withComm side (setLastUsedCommChannel (N.parties side).comm fd)
      have hM : M.conns c = some k := hc
      have hparty : M.parties side = { N.parties side with
          comm := setLastUsedCommChannel (N.parties side).comm fd } := withParty_self N side _
      obtain ⟨r, hdeliver⟩ : ∃ r, deliver P (M.withConn c (k.setInbox side rest)) side ⟨true, 0, []⟩
          message = some r := by
        rw [deliver, withConn_parties, hparty, hreaction]
        exact ⟨_, rfl⟩
      refine ⟨r.1, .read N r.1 side c k fd ⟨true, 0, []⟩ 0 hc hk ?_⟩
      rw [processMessages, hM]
      dsimp only
      rw [hinbox]
      dsimp only
      rw [hdeliver]
      rfl

theorem reaction_discovers (host : Host) (port : Side → UInt8 × UInt8) (serverID : Int)
    (hm : Introducible b m) {w : PyConnectWrapper} (hmod : w.pyConnectModule = some m) :
    Replies (programs b host port) b m .wrapper w (discoveryData serverID) := by
  by_cases hknown : serverID % 16 ∈ w.serverMap
  · exact ⟨_, reaction_discovery_known hknown, fun x hx => absurd hx List.not_mem_nil⟩
  · have hsize : (declarePacket b m (serverID % 16)).totalMsgSize < 2 ^ 31 :=
      lt_of_le_maxMessage hm.declares
    have hdeclare : declarePyConnectModule b { w with
        serverMap := w.serverMap.insert (serverID % 16) ⟨-1, true⟩ } (serverID % 16) false =
          [.dispatch (declareData b m (serverID % 16)) false] := by
      rw [declarePyConnectModule]
      dsimp only
      rw [hmod]
      dsimp only
      rw [Wrapper.send_eq hsize, declarePacket_data]
    rw [Replies]
    dsimp only [programs]
    rw [processMessage_discovery, moduleDiscovery, if_neg hknown]
    dsimp only
    rw [hdeclare]
    refine ⟨_, rfl, fun x hx => ?_⟩
    rw [List.mem_singleton.mp hx]
    exact ⟨rfl, .declares _⟩

/-- Once one of the two has heard of the other, they have agreed or a message waits. -/
theorem awaits (hm : Introducible b m) (h : Without (programs b host port) serverID H A N)
    (hinv : Inv b host port m serverID A) (hheard : Unread H ∨ Begun b m serverID A) :
    Agreed serverID N 1 ∨ Waits (programs b host port) b m N := by
  have hw := h.parties .wrapper
  have hs := h.parties .server
  have hmodule : (wrapper N).program.pyConnectModule = some m := hw.program ▸ hinv.module
  rcases hheard with ⟨c, k, hc, hinbox⟩ | hbegun
  · obtain ⟨-, hlive, -, hwaits⟩ := h.apart c k hc
    exact .inr ⟨.wrapper, c, k, _, [], h.conn_hidden hc, hwaits.resolve_left hinbox, hlive .wrapper,
      reaction_discovers host port serverID hm hmodule⟩
  by_cases hmodules : (server A).program.modules = []
  · obtain ⟨c, k, rest, hc, hinbox⟩ := hbegun.resolve_left (absurd hmodules)
    have hu := unregistered hinv hmodules
    have hreplies : Replies (programs b host port) b m .server (server N).program
        (declareData b m (serverID % 16)) := by
      rw [server, ← hs.program]
      exact reaction_declares host port hm hu.modules hu.nextObjId _
    refine .inr ⟨.server, c, k, _, rest, (h.conn hc).2, hinbox, fun hclosed => ?_, hreplies⟩
    rw [hinv.wired.idle c k hc ⟨.server, hclosed⟩ .server] at hinbox
    cases hinbox
  · rcases hinv.stage with hu | ⟨c, k, fd, hr⟩
    · exact absurd hu.modules hmodules
    rcases hr.flow with ⟨hinbox, -⟩ | ⟨-, ha⟩
    · exact .inr ⟨.wrapper, c, k, _, [], (h.conn hr.conn).2, hinbox, hr.live,
        reaction_introduces host port serverID hm hmodule⟩
    · obtain ⟨info, fd', hinfo, hid, hmap, hk⟩ := ha.agreed (declaredName_eq b hm.text hm.short)
      exact .inl (h.agreed ⟨info, fd', fd, c, k, hinfo, hid, hmap, hr.mapped, hr.conn, hk, hr.socket⟩)

/-- A network with scripts that connect, and what is left of it without the connections
on which no more has happened. -/
structure Heading (b : Build) (host : Host) (port : Side → UInt8 × UInt8) (m : PyConnectModule)
    (serverID : Int) (H : Nat → Option Connection) (A N : Network State) : Prop where
  without : Without (programs b host port) serverID H A N
  inv : Inv b host port m serverID A
  known : Known b m serverID A

theorem Heading.step (hm : Introducible b m) (h : Heading b host port m serverID H A N)
    (hstep : Happens (programs b host port) N N') :
    ∃ H' A', Heading b host port m serverID H' A' N' ∧
      (Unread H ∨ Begun b m serverID A → Unread H' ∨ Begun b m serverID A') := by
  obtain ⟨H', A', hrun, h', hwaits⟩ := follows h.without h.inv hstep
  have hknown := known_reach hm h.inv h.known hrun
  refine ⟨H', A', ⟨h', inv_reach hrun h.inv, hknown⟩, ?_⟩
  rintro (hunread | hbegun)
  · refine (hwaits hunread).imp id fun hserver => hknown ?_
    rw [wrapper, (h'.parties .wrapper).program]
    exact hserver
  · exact .inr (begun_reach hm h.inv hbegun hrun)

theorem heading_reach (hm : Introducible b m) {pow : Bool} {pyConnect : PyDict}
    (hrun : ReflTransGen (Happens (programs b host port)) (start pow pyConnect serverID m) N) :
    ∃ H A, Heading b host port m serverID H A N := by
  have hbegin : Heading b host port m serverID (fun _ => none) (start pow pyConnect serverID m)
      (start pow pyConnect serverID m) := by
    refine ⟨without_nothing _ serverID _, inv_start pow pyConnect, fun hknown => ?_⟩
    exact absurd hknown Std.ExtTreeMap.not_mem_empty
  induction hrun with
  | refl => exact ⟨_, _, hbegin⟩
  | tail _ hstep ih =>
      obtain ⟨H₁, A₁, h₁⟩ := ih
      obtain ⟨H', A', h', -⟩ := h₁.step hm hstep
      exact ⟨H', A', h'⟩

theorem Heading.heard (h : Heading b host port m serverID H A N) (hheard : Heard serverID N) :
    Unread H ∨ Begun b m serverID A := by
  rcases hheard with hmodules | hknown | ⟨c, k, hc, hdiscovery⟩
  · rw [server, ← (h.without.parties .server).program] at hmodules
    exact .inr (.inl hmodules)
  · rw [wrapper, ← (h.without.parties .wrapper).program] at hknown
    exact .inr (h.known hknown)
  · cases hH : H c with
    | some k₀ =>
        obtain rfl := Option.some.inj ((h.without.conn_hidden hH).symm.trans hc)
        exact .inl ⟨c, _, hH, List.ne_nil_of_mem hdiscovery⟩
    | none =>
        have hA : A.conns c = some k := (h.without.visible hH).symm.trans hc
        obtain ⟨message, rest, hinbox⟩ := List.exists_cons_of_ne_nil (List.ne_nil_of_mem hdiscovery)
        obtain ⟨fd, -, -, rfl, rfl⟩ := h.inv.pending hA hinbox
        rw [hinbox, List.mem_singleton] at hdiscovery
        have htype := typeOf_assignment b m serverID
        rw [← hdiscovery, discoveryData, typeOf_header] at htype
        cases htype

theorem bounded_happens (hb : Bounded total N) (h : Happens P N N') : ∃ total', Bounded total' N' := by
  cases h with
  | step hstep => exact bounded_step hb hstep
  | connect S addr port hS =>
      rcases pyConnectConnect_cases P S addr port N with ⟨e, he⟩ | ⟨saddr, p, c, fd, -, -, -, he⟩
      · rw [he]
        exact ⟨total, hb⟩
      · rw [he]
        refine ⟨max total (c + 1), fun c' hc' => ?_⟩
        exact dataPacketSender_none (P := P) (N := createTCPTalker N .server c fd)
          ((withConn_of_ne N (by omega) _).trans (hb c' (le_of_max_le_left hc'))) _ false

theorem bounded_run_happens {pow : Bool} {pyConnect : PyDict}
    (hrun : ReflTransGen (Happens P) (start pow pyConnect serverID m) N) : ∃ total, Bounded total N := by
  induction hrun with
  | refl => exact ⟨0, fun _ _ => rfl⟩
  | tail _ hstep ih =>
      obtain ⟨total, hb⟩ := ih
      exact bounded_happens hb hstep

theorem hearing_leads (hm : Introducible b m) {pow : Bool} {pyConnect : PyDict}
    (hrun : ReflTransGen (Happens (programs b host port)) (start pow pyConnect serverID m) N)
    (hheard : Heard serverID N) :
    Leads (Settles (programs b host port)) (fun N => Agreed serverID N 1) N := by
  obtain ⟨H, A, h⟩ := heading_reach hm hrun
  obtain ⟨total, hb⟩ := bounded_run_happens hrun
  let Good := fun N => (∃ total, Bounded total N) ∧ ∃ H A, Heading b host port m serverID H A N ∧
    (Unread H ∨ Begun b m serverID A)
  have hacc : Acc (fun N' N => Settles (programs b host port) N N') N :=
    acc_of_descends (pending total) (chores total) (fun _ _ hb h => h.descends hb) hb
  refine leads_of_acc Good ?_ ?_ hacc ⟨⟨total, hb⟩, H, A, h, h.heard hheard⟩
  · rintro N N' ⟨⟨total, hb⟩, H, A, h, hgo⟩ hstep
    obtain ⟨H', A', h', hgo'⟩ := h.step hm (.step hstep.step)
    exact ⟨⟨total, (hstep.descends hb).1⟩, H', A', h', hgo' hgo⟩
  · rintro N ⟨⟨total, hb⟩, H, A, h, hgo⟩
    exact (awaits hm h.without h.inv hgo).imp id (can_read hb)

theorem heard_connect (hm : Introducible b m) {pow : Bool} {pyConnect : PyDict}
    (hrun : ReflTransGen (Happens (programs b host port)) (start pow pyConnect serverID m) N)
    {S : System} {addr : List UInt8} {port' : Int}
    (hS : ∀ saddr p c fd, S.connect saddr p = some (c, fd) → N.conns c = none ∧ Unused N .server fd)
    (hok : (pyConnectConnect (programs b host port) S addr port' N).2 = none) :
    Heard serverID (pyConnectConnect (programs b host port) S addr port' N).1 := by
  rcases pyConnectConnect_cases (programs b host port) S addr port' N with
    ⟨e, he⟩ | ⟨saddr, p, c, fd, hconnect, -, -, he⟩
  · rw [he] at hok
    cases hok
  · obtain ⟨H, A, h⟩ := heading_reach hm hrun
    obtain ⟨hc, hfd⟩ := hS saddr p c fd hconnect
    have hserverID : (server N).program.serverID = serverID :=
      (congrArg (·.serverID) (h.without.parties .server).program.symm).trans h.inv.id
    have hinbox : ((Connection.fresh.setSocket .server (.client fd)).write .server
        (discoveryData serverID)).inbox .wrapper = [discoveryData serverID] := write_inbox _ .server _
    rw [he, clientDataSend_discovery (h.without.wired h.inv.wired) hc hfd, connected, hserverID]
    exact .inr (.inr ⟨c, _, withConn_self .., hinbox ▸ List.mem_singleton_self _⟩)

/-- Once a script's PyConnect.connect has succeeded, or the server knows the module, or the
module the server, the two agree before they have done all that is there to do, however
they go on. -/
theorem connect_leads (b : Build) (host : Host) (port : Side → UInt8 × UInt8)
    {m : PyConnectModule} {serverID : Int} {pow : Bool} {pyConnect : PyDict} {N : Network State}
    (hm : Introducible b m)
    (hrun : ReflTransGen (Happens (programs b host port)) (start pow pyConnect serverID m) N) :
    (Heard serverID N → Leads (Settles (programs b host port)) (fun N => Agreed serverID N 1) N) ∧
    ∀ (S : System) (addr : List UInt8) (port' : Int),
      (∀ saddr p c fd, S.connect saddr p = some (c, fd) → N.conns c = none ∧ Unused N .server fd) →
      (pyConnectConnect (programs b host port) S addr port' N).2 = none →
      Leads (Settles (programs b host port)) (fun N => Agreed serverID N 1)
        (pyConnectConnect (programs b host port) S addr port' N).1 := by
  refine ⟨hearing_leads hm hrun, fun S addr port' hS hok => ?_⟩
  have hrun' := hrun.tail (.connect N S addr port' hS)
  exact hearing_leads hm hrun' (heard_connect hm hrun hS hok)

/-- A script has connected, and nothing else has happened. -/
theorem connect_leads_dialled : ReflTransGen
    (Happens (programs ⟨.little, false, false⟩ .little fun _ => (0x26, 0x11))) (encounter [116]) dialled ∧
      Leads (Settles (programs ⟨.little, false, false⟩ .little fun _ => (0x26, 0x11)))
        (fun N => Agreed 3 N 1) dialled := by
  refine ⟨.single happens_dialled, ?_⟩
  exact (connect_leads ⟨.little, false, false⟩ .little _ introducible_small .refl).2 oneModule
    (text "127.0.0.1") 0 (fun _ _ _ _ => one_dialled) rfl

end PyConnect.DirectAgreement

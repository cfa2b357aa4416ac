import PyConnect.Settling

namespace PyConnect.Completion

open Relation Bytes Decoding Common Values ObjComm NetComm Channels Stub Wrapper WrapperInput Handshake
open Agreement Schedule Discovery Conversation Settling

/-- The longest message of which the ciphertext fits dispatchDataBuffer_ with its frame. -/
def maxMessage : Nat := 10231

/-- A module that has a name that fits its messages and that Python can read, and
whose messages are not too long to be sent. -/
structure Introducible (b : Build) (m : PyConnectModule) : Prop where
  named : m.name ≠ []
  text : 0 ∉ m.name
  utf8 : validUtf8 m.name = true
  short : m.name.length ≤ 255
  declares : (declarePacket b m 0).totalMsgSize ≤ maxMessage
  exposes : ∀ serverId id, (attrMetdPacket b.host m serverId id).totalMsgSize ≤ maxMessage
  describes : ∀ serverId id, (attrMetdDescPacket m serverId id).totalMsgSize ≤ maxMessage

inductive Said (b : Build) (m : PyConnectModule) : List UInt8 → Prop
  | declares (serverId : Int) : Said b m (declareData b m serverId)
  | assigns (serverId : Int) : Said b m (assignData serverId m.name 1)
  | exposes (serverId id : Int) : Said b m (attrMetdPacket b.host m serverId id).data
  | describes (serverId id : Int) : Said b m (attrMetdDescPacket m serverId id).data

/-- The wrapper broadcasts its declaration, and this comes through to the server. -/
def Hears (P : Programs State) (N N' : Network State) : Prop :=
  ∃ data ∈ P.announcements .wrapper (wrapper N).program, ∃ c fd cAddr,
    let N₁ := dataPacketSender P N .wrapper data true
    N₁.conns c = none ∧ Unused N₁ .server fd ∧
      processUDPInput P N₁ .server c fd cAddr (broadcastForm P .wrapper data) = some N'

/-- The program reacts to the message, and says no more than that. -/
def Replies (P : Programs State) (b : Build) (m : PyConnectModule) (side : Side) (program : State side)
    (message : List UInt8) : Prop :=
  ∃ r, P.processInput side program ⟨true, 0, []⟩ message = some r ∧
    ∀ x ∈ r.dispatches, x.2 = false ∧ Said b m x.1

variable {b : Build} {host : Host} {port : Side → UInt8 × UInt8} {m : PyConnectModule}
  {serverID : Int} {N N' : Network State} {c : Nat} {k : Connection} {fd : Int} {total : Nat}
  {side : Side} {cAddr : SockAddr} {data : List UInt8} {P : Programs State}

theorem Hears.steps (h : Hears P N N') :
    ∃ N₁, Step P N N₁ ∧ Step P N₁ N' := by
  obtain ⟨data, hdata, c, fd, cAddr, hc, hfd, hr⟩ := h
  refine ⟨_, .broadcast N .wrapper data hdata, ?_⟩
  refine .datagram _ N' .server c fd cAddr (broadcastForm P .wrapper data) ?_ hc hfd hr
  exact List.mem_append_right _ (List.mem_singleton_self _)

theorem lt_of_le_maxMessage {n : Int} (h : n ≤ maxMessage) : n < 2 ^ 31 :=
  lt_of_le_of_lt h (by decide)

theorem exists_unused (hb : Bounded total N) (side : Side) : ∃ fd, Unused N side fd := by
  have hbelow : ∀ n, ∃ bound : Int, 0 ≤ bound ∧ ∀ c < n, ∀ k fd, N.conns c = some k →
      k.sockets side = .client fd → fd < bound := by
    intro n
    induction n with
    | zero => exact ⟨0, le_rfl, fun c hc => absurd hc (Nat.not_lt_zero c)⟩
    | succ n ih =>
        obtain ⟨bound, h0, hbound⟩ := ih
        obtain ⟨top, htop⟩ : ∃ top : Int, ∀ k fd, N.conns n = some k → k.sockets side = .client fd →
            fd < top := by
          cases hn : N.conns n with
          | none => exact ⟨0, fun k fd hk => by cases hk⟩
          | some k =>
              cases hk : k.sockets side with
              | client fd =>
                  refine ⟨fd + 1, fun k' fd' hk' hfd' => ?_⟩
                  obtain rfl := Option.some.inj hk'
                  rw [hk] at hfd'
                  obtain rfl := Socket.client.inj hfd'
                  exact Int.lt_succ fd
              | backlog =>
                  refine ⟨0, fun k' fd' hk' hfd' => ?_⟩
                  obtain rfl := Option.some.inj hk'
                  rw [hk] at hfd'
                  cases hfd'
              | closed =>
                  refine ⟨0, fun k' fd' hk' hfd' => ?_⟩
                  obtain rfl := Option.some.inj hk'
                  rw [hk] at hfd'
                  cases hfd'
        refine ⟨max bound top, h0.trans (le_max_left ..), fun c hc k fd hck hk => ?_⟩
        rcases Nat.lt_succ_iff_lt_or_eq.mp hc with hc | rfl
        · exact lt_max_of_lt_left (hbound c hc k fd hck hk)
        · exact lt_max_of_lt_right (htop k fd hck hk)
  obtain ⟨bound, h0, hbound⟩ := hbelow total
  refine ⟨bound, h0, fun c k hc hk => ?_⟩
  rcases Nat.lt_or_ge c total with hlt | hge
  · exact lt_irrefl bound (hbound c hlt k bound hc hk)
  · rw [hb c hge] at hc
    cases hc

theorem program_dataPacketSender (P : Programs State) (N : Network State) (data : List UInt8)
    (broadcast : Bool) (side side' : Side) :
    ((dataPacketSender P N side data broadcast).parties side').program = (N.parties side').program := by
  rw [dataPacketSender]
  split
  · rfl
  · rw [clientDataSend]
    dsimp only
    have hparty : ∀ p : Party (State side), p.program = (N.parties side).program →
        ((N.withParty side p).parties side').program = (N.parties side').program := by
      intro p hp
      by_cases hside : side' = side
      · subst hside
        rw [withParty_self]
        exact hp
      · rw [withParty_of_ne N hside]
    split
    · exact hparty _ rfl
    · exact hparty _ rfl

theorem announces (hm : Introducible b m) (h : Inv b host port m serverID N) :
    declareData b m 0 ∈ (programs b host port).announcements .wrapper (wrapper N).program := by
  dsimp only [programs]
  rw [declarePyConnectModule, h.module]
  dsimp only
  rw [Wrapper.send_eq (lt_of_le_maxMessage hm.declares), declarePacket_data]
  exact List.mem_singleton_self _

theorem reaction_declares (host : Host) (port : Side → UInt8 × UInt8) (hm : Introducible b m)
    {s : PyConnectStub} (hmodules : s.modules = []) (hnext : s.nextObjId = 1) (serverId : Int) :
    Replies (programs b host port) b m .server s (declareData b m serverId) := by
  have hfind : findModuleByName s (declaredName b m) = none := by
    rw [findModuleByName, hmodules]
    rfl
  have hname : declaredName b m = m.name := declaredName_eq b hm.text hm.short
  have hsize : (assignPacket s m.name 1).totalMsgSize < 2 ^ 31 := by
    have hshort := hm.short
    dsimp only [assignPacket]
    omega
  obtain ⟨r, hr⟩ : ∃ r, (programs b host port).processInput .server s ⟨true, 0, []⟩
      (declareData b m serverId) = some r := by
    rw [declaredName] at hfind hname
    dsimp only [programs]
    rw [declareData, StubMessage.processMessage_declare, StubInput.declareInput, StubInput.moduleDeclare,
      bind_apply, bind_apply, hfind]
    dsimp only
    have hobject : unicodeFromString m.name ≠ .null := by
      rw [unicodeFromString, if_pos hm.utf8]
      exact PyObject.noConfusion
    rw [bind_apply, hname, addNewModule, if_neg hm.named, hnext, if_neg (by decide), if_neg hobject,
      Stub.send_eq hsize]
    exact ⟨_, rfl⟩
  obtain ⟨-, hdispatches, -⟩ := reaction_declare_new serverId hfind (hname ▸ hm.named)
    (by rw [hnext]; decide) hr
  refine ⟨r, hr, fun x hx => ?_⟩
  rw [hdispatches, hname, hnext] at hx
  rw [List.mem_singleton.mp hx]
  exact ⟨rfl, .assigns s.serverID⟩

theorem reaction_introduces (host : Host) (port : Side → UInt8 × UInt8) (serverID : Int)
    (hm : Introducible b m) {w : PyConnectWrapper} (hmod : w.pyConnectModule = some m) :
    Replies (programs b host port) b m .wrapper w (assignment b m serverID) := by
  rw [Replies]
  dsimp only [programs]
  rw [assignment, assignData, processMessage_assign]
  dsimp only
  rw [moduleAssignId_eq hmod, carriedName_assign, if_pos (declaredName_eq b hm.text hm.short),
    moduleAssigned_eq b hmod, Wrapper.send_eq (lt_of_le_maxMessage (hm.exposes _ _)),
    Wrapper.send_eq (lt_of_le_maxMessage (hm.describes _ _))]
  refine ⟨_, rfl, fun x hx => ?_⟩
  rcases List.mem_cons.mp hx with rfl | hx
  · refine ⟨rfl, ?_⟩
    dsimp only
    exact .exposes _ _
  · rw [List.mem_singleton.mp hx]
    refine ⟨rfl, ?_⟩
    dsimp only
    exact .describes _ _

theorem hears_declaration {r : Network State × MesgProcessResult}
    (hr : deliver (programs b host port) (createTCPTalker N .server c fd) .server cAddr
      (declareData b m 0) = some r) (hok : r.2 = .processedOk) :
    processUDPInput (programs b host port) N .server c fd cAddr
      (broadcastForm (programs b host port) .wrapper (declareData b m 0)) = some r.1 := by
  obtain ⟨-, ht⟩ := StubMessage.msgType_header .moduleDeclare 0
  have heq := processUDPInput_eq (programs b host port) N .server .wrapper c fd cAddr
    (header .moduleDeclare 0)
    ((if b.clang then 1 else 0) :: (packString m.name false ++ packString m.desc true)) ht (.inr rfl)
  rw [List.cons_append] at heq
  rw [declareData, declareBody, heq, ← declareBody, ← declareData, if_pos (by decide), hr,
    Option.map_some, hok]
  rfl

theorem modules_declared (hm : Introducible b m) (hu : Unregistered N)
    {r : Network State × MesgProcessResult}
    (hr : deliver (programs b host port) N .server cAddr (declareData b m 0) = some r) :
    (server r.1).program.modules ≠ [] := by
  obtain ⟨reaction, hreaction, rfl⟩ := of_deliver hr
  have hname : declaredName b m ≠ [] := by
    rw [declaredName_eq b hm.text hm.short]
    exact hm.named
  have hfind : findModuleByName (server N).program (declaredName b m) = none := by
    rw [findModuleByName, hu.modules]
    rfl
  obtain ⟨-, hdispatches, hentries, -⟩ := reaction_declare_new 0 hfind hname
    (by rw [hu.nextObjId]; decide) hreaction
  dsimp only
  rw [hdispatches, List.foldl_cons, List.foldl_nil, server, program_dataPacketSender, withParty_self]
  intro hnil
  dsimp only at hnil
  rw [hnil] at hentries
  exact absurd (congrArg List.length hentries) (by simp)

theorem registers (hm : Introducible b m) (h : Inv b host port m serverID N) (hb : Bounded total N)
    (hu : Unregistered N) : ∃ N' total', Hears (programs b host port) N N' ∧
      Bounded total' N' ∧ Inv b host port m serverID N' ∧ (server N').program.modules ≠ [] := by
  let P := programs b host port
  let N₁ := dataPacketSender P N .wrapper (declareData b m 0) true
  have h₁ : Inv b host port m serverID N₁ := h.broadcast (announces hm h)
  have hu₁ : Unregistered N₁ := ⟨⟨hu.processed, hu.exposed⟩, hu.modules, hu.nextObjId, hu.sent, hu.inbox⟩
  have hb₁ : Bounded total N₁ := hb
  obtain ⟨fd, hfd⟩ := exists_unused hb₁ .server
  have hc : N₁.conns total = none := hb₁ total le_rfl
  let N₂ := createTCPTalker N₁ .server total fd
  have h₂ : Inv b host port m serverID N₂ := h₁.listed hfd (.inr ⟨hc, rfl⟩) rfl
  have hserver := listed_party N₁ .server total .fresh fd
  have hu₂ : Unregistered N₂ := by
    rcases h₂.stage with hu₂ | ⟨c, k, fd, hr⟩
    · exact hu₂
    · have hmodules := hr.modules
      rw [server, show N₂.parties .server = _ from hserver] at hmodules
      dsimp only at hmodules
      rw [hu₁.modules] at hmodules
      cases hmodules
  obtain ⟨reaction, hreaction, -⟩ := reaction_declares host port hm hu₂.modules hu₂.nextObjId 0
  obtain ⟨r, hr⟩ : ∃ r, deliver P N₂ .server ⟨true, 0, []⟩ (declareData b m 0) = some r := by
    rw [deliver, hreaction]
    exact ⟨_, rfl⟩
  have hname : declaredName b m ≠ [] := by
    rw [declaredName_eq b hm.text hm.short]
    exact hm.named
  have hfind : findModuleByName (server N₂).program (declaredName b m) = none := by
    rw [findModuleByName, hu₂.modules]
    rfl
  obtain ⟨hok, hinv, -, -⟩ := deliver_declare_new h₂ hu₂ (listed_conn ..) (setSocket_self ..)
    Socket.noConfusion (congrArg (·.comm.activeCommChannel) hserver) hfind hname hr
  have hheard : Hears P N r.1 :=
    ⟨declareData b m 0, announces hm h, total, fd, ⟨true, 0, []⟩, hc, hfd, hears_declaration hr hok⟩
  obtain ⟨N₁', hbroadcast, hdatagram⟩ := hheard.steps
  obtain ⟨total₁, hb₁'⟩ := bounded_step hb hbroadcast
  obtain ⟨total', hb'⟩ := bounded_step hb₁' hdatagram
  exact ⟨r.1, total', hheard, hb', hinv, modules_declared hm hu₂ hr⟩

theorem assigns (hm : Introducible b m) (h : Inv b host port m serverID N)
    (hr : Registered b m serverID N c k fd) (hinbox : k.inbox .wrapper = [assignment b m serverID])
    {fd' : Int} (hk : k.sockets .wrapper = .client fd') :
    ∃ N', Settles (programs b host port) N N' ∧ Agreed serverID N' 1 := by
  let N₁ := N.withComm .wrapper (setLastUsedCommChannel (wrapper N).comm fd')
  have h₁ : Inv b host port m serverID N₁ := h.withComm .wrapper rfl
  have hc : N₁.conns c = some k := hr.conn
  obtain ⟨reaction, hreaction, -⟩ := reaction_introduces host port serverID hm h₁.module
  obtain ⟨r, hdeliver⟩ : ∃ r, deliver (programs b host port) (N₁.withConn c (k.setInbox .wrapper []))
      .wrapper ⟨true, 0, []⟩ (assignment b m serverID) = some r := by
    rw [deliver, withConn_parties, hreaction]
    exact ⟨_, rfl⟩
  have hread : processMessages (programs b host port) .wrapper c ⟨true, 0, []⟩ 1 N₁ = some r.1 := by
    rw [processMessages, hc]
    dsimp only
    rw [hinbox]
    dsimp only
    rw [hdeliver]
    rfl
  have hactive : (wrapper N₁).comm.activeCommChannel = fd' :=
    congrArg (·.comm.activeCommChannel) (withParty_self N .wrapper _)
  have hinv : Inv b host port m serverID r.1 := read_wrapper h₁ hc hk hactive hread
  refine ⟨r.1, .read N r.1 .wrapper c k fd' ⟨true, 0, []⟩ 0 hr.conn hk hread, ?_⟩
  exact (hinv.agreed (extends_deliver hdeliver).2 (typeOf_assignment b m serverID)).2
    (declaredName_eq b hm.text hm.short)

theorem progresses (hm : Introducible b m) (h : Inv b host port m serverID N) (hb : Bounded total N)
    (hr : Registered b m serverID N c k fd) :
    Agreed serverID N 1 ∨ ∃ N', Settles (programs b host port) N N' := by
  rcases hr.flow with ⟨hinbox, hu⟩ | ⟨-, ha⟩
  · cases hk : k.sockets .wrapper with
    | client fd' =>
        obtain ⟨N', hstep, -⟩ := assigns hm h hr hinbox hk
        exact .inr ⟨N', hstep⟩
    | closed => exact absurd hk hr.live
    | backlog =>
        obtain ⟨fd', hfd⟩ := exists_unused hb .wrapper
        exact .inr ⟨_, .accept N .wrapper c k fd' hr.conn hk hfd⟩
  · obtain ⟨info, fd', hinfo, hid, hmap, hk⟩ := ha.agreed (declaredName_eq b hm.text hm.short)
    exact .inl ⟨info, fd', fd, c, k, hinfo, hid, hmap, hr.mapped, hr.conn, hk, hr.socket⟩

theorem registered_step (h : Inv b host port m serverID N) (h' : Inv b host port m serverID N')
    (hmodules : (server N).program.modules ≠ []) (hstep : Step (programs b host port) N N') :
    (server N').program.modules ≠ [] := by
  rcases h.stage with hu | ⟨c, k, fd, hr⟩
  · exact absurd hu.modules hmodules
  rcases h'.stage with hu' | ⟨c', k', fd', hr'⟩
  · have hsent : (server N).sent <+: (server N').sent := (extends_step hstep .server).1
    rw [hr.sent, hu'.sent] at hsent
    exact absurd (List.prefix_nil.mp hsent) (List.cons_ne_nil _ _)
  · intro hnil
    have hentries := hr'.modules
    rw [hnil] at hentries
    cases hentries

theorem leads_agreed (hm : Introducible b m) (h : Inv b host port m serverID N) (hb : Bounded total N)
    (hmodules : (server N).program.modules ≠ []) :
    Leads (Settles (programs b host port)) (fun N => Agreed serverID N 1) N := by
  let Good := fun N => (∃ total, Bounded total N) ∧ Inv b host port m serverID N ∧
    (server N).program.modules ≠ []
  have hacc : Acc (fun N' N => Settles (programs b host port) N N') N :=
    acc_of_descends (pending total) (chores total) (fun _ _ hb h => h.descends hb) hb
  refine leads_of_acc Good ?_ ?_ hacc ⟨⟨total, hb⟩, h, hmodules⟩
  · rintro N N' ⟨⟨total, hb⟩, h, hmodules⟩ hstep
    have h' : Inv b host port m serverID N' := inv_step hstep.step h
    exact ⟨⟨total, (hstep.descends hb).1⟩, h', registered_step h h' hmodules hstep.step⟩
  · rintro N ⟨⟨total, hb⟩, h, hmodules⟩
    rcases h.stage with hu | ⟨c, k, fd, hr⟩
    · exact absurd hu.modules hmodules
    · exact progresses hm h hb hr

theorem bounded_reach {P : Programs State} {pow : Bool} {pyConnect : PyDict}
    (hrun : ReflTransGen (Step P) (start pow pyConnect serverID m) N) : ∃ total, Bounded total N :=
  bounded_run (fun _ _ => rfl : Bounded 0 (start pow pyConnect serverID m)) hrun

/-- However the two go on once the server has registered the module, accepting,
reading and closing what is there and without another broadcast, they agree before
they have done it all. -/
theorem agreement_inevitable (b : Build) (host : Host) (port : Side → UInt8 × UInt8)
    {m : PyConnectModule} {serverID : Int} {pow : Bool} {pyConnect : PyDict} {N : Network State}
    (hm : Introducible b m)
    (hrun : ReflTransGen (Step (programs b host port)) (start pow pyConnect serverID m) N)
    (hmodules : (server N).program.modules ≠ []) :
    Leads (Settles (programs b host port)) (fun N => Agreed serverID N 1) N := by
  obtain ⟨total, hb⟩ := bounded_reach hrun
  exact leads_agreed hm (inv_reach hrun (inv_start pow pyConnect)) hb hmodules

theorem introducible_small : Introducible ⟨.little, false, false⟩ ⟨[116], [], ∅, ∅⟩ where
  named := by decide
  text := by decide
  utf8 := by decide
  short := by decide
  declares := by decide +kernel
  exposes _ _ := show (attrMetdPacket .little ⟨[116], [], ∅, ∅⟩ 0 0).totalMsgSize ≤ maxMessage by
    decide +kernel
  describes _ _ := show (attrMetdDescPacket ⟨[116], [], ∅, ∅⟩ 0 0).totalMsgSize ≤ maxMessage by
    decide +kernel

/-- The server has registered the module, which has not accepted yet. -/
theorem agreement_inevitable_registered : ∃ N, ReflTransGen
    (Step (programs ⟨.little, false, false⟩ .little fun _ => (0x26, 0x11))) (encounter [116]) N ∧
      ((wrapper N).processed = [[19, 64]] ∧ (server N).program.modules.length = 1) ∧
        Leads (Settles (programs ⟨.little, false, false⟩ .little fun _ => (0x26, 0x11)))
          (fun N => Agreed 3 N 1) N := by
  let b : Build := ⟨.little, false, false⟩
  let P := programs b .little fun _ => (0x26, 0x11)
  let choices := (crossing P (declareData b ⟨[116], [], ∅, ∅⟩ 0) (discoveryData 3)).take 4
  obtain ⟨N, hN, hx⟩ := Option.map_eq_some_iff.mp
    (show (run P 0 (encounter [116]) choices).map
      (fun N => ((wrapper N).processed, (server N).program.modules.length)) = some ([[19, 64]], 1) by
        decide +kernel)
  have hrun := run_sound (fun _ _ => rfl) hN
  rw [Prod.mk.injEq] at hx
  have hmodules : (server N).program.modules ≠ [] := by
    intro hnil
    rw [hnil] at hx
    cases hx.2
  exact ⟨N, hrun, hx, agreement_inevitable b .little _ introducible_small hrun hmodules⟩

end PyConnect.Completion

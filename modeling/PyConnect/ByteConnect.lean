import PyConnect.ByteDiscovery
import PyConnect.DirectConnect

namespace PyConnect.ByteConnect

open Relation NetComm Stub Handshake Agreement Discovery PeerMessage CommLayer ByteNetwork
open ByteRefinement ByteDiscovery
open DirectConnect (CommObjectStat PyErr Happens connectTo connectTo_one notSupported invalidAddrPort
  commFailed commSuccess)
open ListenerPort (netCommPort commPortRange)

/-- The host names and addresses that the system knows, and the descriptor and the new
buffer of a connection that it makes. -/
structure System where
  gethostbyname : List UInt8 → Option UInt32
  inetPton : List UInt8 → Option UInt32
  connect : UInt32 → UInt16 → Option Opened

def createTalker (S : System) (host : List UInt8) (port : Int) (N : ByteNetwork.Network State) :
    ByteNetwork.Network State × CommObjectStat :=
  match S.gethostbyname host <|> S.inetPton host with
  | none => (N, invalidAddrPort)
  | some saddr =>
      if port ≠ 0 ∧ (port < 1000 ∨ port > netCommPort.toNat + commPortRange) then (N, invalidAddrPort)
      else
        match S.connect saddr (if port = 0 then netCommPort else UInt16.ofNat port.toNat) with
        | none => (N, commFailed)
        | some o => (ByteNetwork.createTCPTalker N .server o, commSuccess)

/-- PyConnectStub::PyConnect_connect in one step, as in DirectConnect. -/
def pyConnectConnect (P : Programs State) (W : Wire) (S : System) (addr : List UInt8) (port : Int)
    (N : ByteNetwork.Network State) : Option (ByteNetwork.Network State × Option PyErr) :=
  let (N, ret) := connectTo [createTalker S addr port] notSupported N
  if ret &&& commFailed ≠ 0 then
    some (N, some (.ioError (text "PyConnect.connect: unable to connect PyConnect component on " ++
      addr ++ text "!")))
  else if ret &&& invalidAddrPort ≠ 0 then
    some (N, some (.valueError (text "PyConnect.connect: invalid PyConnect component address:port!")))
  else if ret &&& notSupported ≠ 0 then
    some (N, some (.notImplementedError
      (text "PyConnect.connect: No underlying comm object support!")))
  else
    (ByteNetwork.dataPacketSender P W N .server (discoveryData (N.parties .server).program.serverID)
      false).map fun N => (N, none)

/-- What happens to the bytes when the server's scripts may connect to the module, too. -/
inductive Occurs (P : Programs State) (W : Wire) :
    ByteNetwork.Network State → ByteNetwork.Network State → Prop
  | event {N N' : ByteNetwork.Network State} (e : Event) : e.Whole → ByteNetwork.step P W N e = some N' →
      Occurs P W N N'
  | connect {N : ByteNetwork.Network State} (S : System) (addr : List UInt8) (port : Int)
      (r : ByteNetwork.Network State × Option PyErr) :
      (∀ saddr port o, S.connect saddr port = some o → ByteNetwork.Unused N .server o.fd) →
      pyConnectConnect P W S addr port N = some r → Occurs P W N r.1

/-- The system as it appears to the messages when the next connection is this one. -/
def System.at (S : System) (c : Nat) : DirectConnect.System :=
  ⟨S.gethostbyname, S.inetPton, fun saddr port => (S.connect saddr port).map fun o => (c, o.fd)⟩

variable {P : Programs State} {W : Wire} {N N' : ByteNetwork.Network State} {M : NetComm.Network State}

theorem talker_simulates (h : Abstracts W nothing N M) (S : System) (addr : List UInt8) (port : Int) :
    Abstracts W nothing (createTalker S addr port N).1
        (DirectConnect.createTalker (S.at N.conns.length) addr port M).1 ∧
      (createTalker S addr port N).2 =
        (DirectConnect.createTalker (S.at N.conns.length) addr port M).2 := by
  rw [createTalker, DirectConnect.createTalker, System.at]
  dsimp only
  cases S.gethostbyname addr <|> S.inetPton addr with
  | none => exact ⟨h, rfl⟩
  | some saddr =>
      dsimp only
      by_cases hvalid : port ≠ 0 ∧ (port < 1000 ∨ port > netCommPort.toNat + commPortRange)
      · rw [if_pos hvalid, if_pos hvalid]
        exact ⟨h, rfl⟩
      · rw [if_neg hvalid, if_neg hvalid]
        cases S.connect saddr (if port = 0 then netCommPort else UInt16.ofNat port.toNat) with
        | none => exact ⟨h, rfl⟩
        | some o => exact ⟨h.talker .server o, rfl⟩

theorem connectTo_simulates (h : Abstracts W nothing N M) (S : System) (addr : List UInt8) (port : Int)
    (retVal : CommObjectStat) :
    Abstracts W nothing (connectTo [createTalker S addr port] retVal N).1
        (connectTo [DirectConnect.createTalker (S.at N.conns.length) addr port] retVal M).1 ∧
      (connectTo [createTalker S addr port] retVal N).2 =
        (connectTo [DirectConnect.createTalker (S.at N.conns.length) addr port] retVal M).2 := by
  obtain ⟨habstracts, heq⟩ := talker_simulates h S addr port
  rw [connectTo_one, connectTo_one, heq]
  split
  · exact ⟨habstracts, heq⟩
  · exact ⟨habstracts, rfl⟩

/-- A script's call does to the messages what it does to the bytes. -/
theorem connect_simulates (h : Abstracts W nothing N M) {S : System} {addr : List UInt8} {port : Int}
    {r : ByteNetwork.Network State × Option PyErr} (hr : pyConnectConnect P W S addr port N = some r) :
    Abstracts W nothing r.1 (DirectConnect.pyConnectConnect P (S.at N.conns.length) addr port M).1 ∧
      r.2 = (DirectConnect.pyConnectConnect P (S.at N.conns.length) addr port M).2 := by
  obtain ⟨habstracts, heq⟩ := connectTo_simulates h S addr port notSupported
  rw [pyConnectConnect] at hr
  rw [DirectConnect.pyConnectConnect]
  dsimp only at hr ⊢
  rw [← heq]
  split at hr
  next hfailed =>
    rw [if_pos hfailed, ← Option.some.inj hr]
    exact ⟨habstracts, rfl⟩
  next hfailed =>
    rw [if_neg hfailed]
    split at hr
    next hinvalid =>
      rw [if_pos hinvalid, ← Option.some.inj hr]
      exact ⟨habstracts, rfl⟩
    next hinvalid =>
      rw [if_neg hinvalid]
      split at hr
      next hunsupported =>
        rw [if_pos hunsupported, ← Option.some.inj hr]
        exact ⟨habstracts, rfl⟩
      next hunsupported =>
        rw [if_neg hunsupported]
        obtain ⟨N₁, hsend, rfl⟩ := Option.map_eq_some_iff.mp hr
        have hunicast : false = true → Announces
            (discoveryData ((connectTo [createTalker S addr port] notSupported N).1.parties
              .server).program.serverID) := fun hb => absurd hb Bool.false_ne_true
        have hsent := habstracts.dataPacketSender hunicast hsend
        rw [server, habstracts.parties]
        exact ⟨hsent, rfl⟩

theorem at_unused (h : Abstracts W nothing N M) {S : System}
    (hS : ∀ saddr port o, S.connect saddr port = some o → ByteNetwork.Unused N .server o.fd)
    {saddr : UInt32} {port : UInt16} {c : Nat} {fd : Int}
    (hconnect : (S.at N.conns.length).connect saddr port = some (c, fd)) :
    M.conns c = none ∧ NetComm.Unused M .server fd := by
  obtain ⟨o, ho, hpair⟩ := Option.map_eq_some_iff.mp hconnect
  obtain ⟨rfl, rfl⟩ := Prod.mk.inj hpair
  exact ⟨h.unmade (Nat.le_refl _), h.unused (hS saddr port o ho)⟩

theorem occurs_simulates (hP : ByteRefinement.Announcing P) (hcipher : Cipher W.encrypt W.decrypt)
    (h : Abstracts W nothing N M) (ho : Occurs P W N N') :
    ∃ M', Happens P M M' ∧ Abstracts W nothing N' M' := by
  cases ho with
  | event e he hs =>
      obtain ⟨M', hstep, h'⟩ := step_simulates hP hcipher he h hs
      exact ⟨M', .step hstep, h'⟩
  | connect S addr port r hS hr =>
      obtain ⟨h', -⟩ := connect_simulates h hr
      exact ⟨_, .connect M (S.at N.conns.length) addr port fun _ _ _ _ => at_unused h hS, h'⟩

theorem occurs_reach (hP : ByteRefinement.Announcing P) (hcipher : Cipher W.encrypt W.decrypt)
    (h : Abstracts W nothing N M) (hrun : ReflTransGen (Occurs P W) N N') :
    ∃ M', ReflTransGen (Happens P) M M' ∧ Abstracts W nothing N' M' := by
  induction hrun with
  | refl => exact ⟨M, .refl, h⟩
  | tail _ hstep ih =>
      obtain ⟨M₁, hrun₁, h₁⟩ := ih
      obtain ⟨M', hstep', h'⟩ := occurs_simulates hP hcipher h₁ hstep
      exact ⟨M', hrun₁.tail hstep', h'⟩

theorem occurs_of_run {es : List Event} (hes : ∀ e ∈ es, e.Whole)
    (hrun : Runs.run (ByteNetwork.step P W) es N = some N') : ReflTransGen (Occurs P W) N N' := by
  induction es generalizing N with
  | nil =>
      obtain rfl := Option.some.inj hrun
      exact .refl
  | cons e es ih =>
      obtain ⟨N₁, hstep, hrest⟩ := Option.bind_eq_some_iff.mp hrun
      have hfirst : Occurs P W N N₁ := .event e (hes e List.mem_cons_self) hstep
      exact .head hfirst (ih (fun x hx => hes x (List.mem_cons_of_mem e hx)) hrest)

def oneModule : System := ⟨fun _ => none, fun _ => some 0x7f000001, fun _ _ => some ⟨5, default⟩⟩

def dialled (es : List Event) : Option (ByteNetwork.Network State) :=
  (pyConnectConnect smallPrograms paddedWire oneModule (text "127.0.0.1") 0
    (quiet (encounter [116]).parties)).bind fun r =>
      Runs.run (ByteNetwork.step smallPrograms paddedWire) es r.1

theorem one_dialled {saddr : UInt32} {port : UInt16} {o : Opened}
    (h : oneModule.connect saddr port = some o) :
    ByteNetwork.Unused (quiet (encounter [116]).parties) .server o.fd := by
  obtain rfl := Option.some.inj h
  exact ⟨by decide, fun k hk => absurd hk List.not_mem_nil⟩

theorem occurs_dialled {es : List Event} (hes : ∀ e ∈ es, e.Whole) (h : dialled es = some N) :
    ReflTransGen (Occurs smallPrograms paddedWire) (quiet (encounter [116]).parties) N := by
  obtain ⟨r, hr, hrest⟩ := Option.bind_eq_some_iff.mp h
  exact .head (.connect oneModule (text "127.0.0.1") 0 r (fun _ _ _ => one_dialled) hr)
    (occurs_of_run hes hrest)

end PyConnect.ByteConnect

import PyConnect.Agreement
import PyConnect.Schedule

namespace PyConnect.Discovery

open Relation Bytes Common Values ObjComm NetComm Channels Stub Wrapper Handshake Agreement Schedule

variable {b : Build} {host : Host} {port : Side → UInt8 × UInt8} {m : PyConnectModule}
  {serverID : Int} {N N' : Network State} {data : List UInt8}

/-- One case per step; whatever it is, the handshake stays in one of its
stages. -/
theorem inv_step (hstep : Step (programs b host port) N N') (h : Inv b host port m serverID N) :
    Inv b host port m serverID N' := by
  cases hstep with
  | broadcast side data hdata => exact h.broadcast hdata
  | datagram _ side c fd cAddr recBuffer hair hc hfd hr =>
      rcases h.air recBuffer hair with rfl | rfl
      · exact datagram_declare h side hc hfd hr
      · exact datagram_discovery h side hc hfd hr
  | accept side c k fd hc hside hfd => exact h.listed hfd (.inl hc) hside
  | read _ side c k fd cAddr n hc hk hinbox hr =>
      have hlive : ∀ side, k.sockets side ≠ .closed :=
        fun side' hclosed => hinbox (h.wired.idle c k hc ⟨side', hclosed⟩ side)
      have hcomm : Inv b host port m serverID
          (N.withComm side (setLastUsedCommChannel (N.parties side).comm fd)) := h.withComm side rfl
      cases side with
      | server =>
          exact read_server hcomm hc hk (hlive .wrapper)
            (.inl (congrArg (·.comm.activeCommChannel) (withParty_self N .server _))) hr
      | wrapper =>
          exact read_wrapper hcomm hc hk
            (congrArg (·.comm.activeCommChannel) (withParty_self N .wrapper _)) hr
  | eof side c k fd cAddr hc hk hother hinbox => exact h.eof hc hk hother

theorem inv_reach (hrun : ReflTransGen (Step (programs b host port)) N N')
    (h : Inv b host port m serverID N) : Inv b host port m serverID N' := by
  induction hrun with
  | refl => exact h
  | tail _ hstep ih => exact inv_step hstep ih

theorem extends_reach (hrun : ReflTransGen (Step (programs b host port)) N N') : Extends N N' := by
  induction hrun with
  | refl => exact Extends.refl N
  | tail _ hstep ih => exact ih.trans (extends_step hstep)

def start (pow : Bool) (pyConnect : PyDict) (serverID : Int) (m : PyConnectModule) : Network State where
  parties
    | .server => ⟨ObjComm.init, ⟨pow, pyConnect, 1, [], serverID⟩, [], []⟩
    | .wrapper => ⟨ObjComm.init, ⟨some m, ∅, false⟩, [], []⟩
  conns _ := none
  air := []

theorem inv_start (pow : Bool) (pyConnect : PyDict) :
    Inv b host port m serverID (start pow pyConnect serverID m) := by
  constructor
  · constructor
    · exact fun _ _ _ _ hc => by cases hc
    · exact fun _ _ _ _ _ _ hc => by cases hc
    · exact fun _ _ hc => by cases hc
    · intro side id fd hmap
      have hinit : ((start pow pyConnect serverID m).parties side).comm = ObjComm.init := by
        cases side <;> rfl
      rw [hinit, ObjComm.init] at hmap
      simp at hmap
  · rfl
  · rfl
  · exact fun _ hdata => by cases hdata
  · exact fun _ _ hc => by cases hc
  · left
    refine ⟨⟨?_, ?_⟩, rfl, rfl, rfl, ?_⟩
    · intro data hdata
      cases hdata
    · intro data hdata
      cases hdata
    · intro c k hc
      cases hc

theorem entries_kept (h : Inv b host port m serverID N) (h' : Inv b host port m serverID N')
    (hext : Extends N N') :
    (server N).program.modules.map entry <+: (server N').program.modules.map entry := by
  rcases h.stage with hu | ⟨c, k, fd, hr⟩
  · rw [hu.modules]
    exact List.nil_prefix
  · rcases h'.stage with hu' | ⟨c', k', fd', hr'⟩
    · have hsent := (hext .server).1
      change (server N).sent <+: (server N').sent at hsent
      rw [hr.sent, hu'.sent] at hsent
      cases List.prefix_nil.mp hsent
    · exact (hr.modules.trans hr'.modules.symm) ▸ List.prefix_rfl

def CarriesId (data : List UInt8) (k : Int) : Prop :=
  ∃ (serverId : Int) (i : UInt8) (body : List UInt8),
    data = header .moduleAssignId serverId :: i :: body ∧ (i.toNat : Int) = k

/-- MODULE_ASSIGN_ID(k) with the name of the module. -/
def Assigns (m : PyConnectModule) (data : List UInt8) (k : Int) : Prop :=
  ∃ (serverId : Int) (i : UInt8) (body : List UInt8),
    data = header .moduleAssignId serverId :: i :: body ∧ (i.toNat : Int) = k ∧
      carriedName body = m.name

theorem discovery_agrees (b : Build) (host : Host) (port : Side → UInt8 × UInt8)
    {m : PyConnectModule} {serverID : Int} {pow : Bool} {pyConnect : PyDict} {N N' : Network State}
    (hrun : ReflTransGen (Step (programs b host port)) (start pow pyConnect serverID m) N)
    (hrun' : ReflTransGen (Step (programs b host port)) N N') :
    ((server N).program.modules.map entry <+: (server N').program.modules.map entry ∧
      (server N').program.modules.length ≤ 1) ∧
    ((server N').sent.filter fun data => typeOf data = some .moduleAssignId).length ≤ 1 ∧
    ((wrapper N').sent.filter fun data => typeOf data = some .attrMetdExpose).length ≤ 1 ∧
    (∀ data ∈ (wrapper N).processed, ∀ k, Assigns m data k → Agreed serverID N' k) ∧
    (0 ∉ m.name → m.name.length ≤ 255 →
      ∀ data ∈ (wrapper N).processed, ∀ k, CarriesId data k → Agreed serverID N' k) := by
  have hinv : Inv b host port m serverID N := inv_reach hrun (inv_start pow pyConnect)
  have hinv' : Inv b host port m serverID N' := inv_reach hrun' hinv
  have hext : Extends N N' := extends_reach hrun'
  have hcarried : ∀ data ∈ (wrapper N).processed, ∀ (serverId : Int) (i : UInt8) (body : List UInt8),
      data = header .moduleAssignId serverId :: i :: body → (i.toNat : Int) = 1 ∧
        carriedName body = declaredName b m ∧
          (declaredName b m = m.name → Agreed serverID N' 1) := by
    rintro data hdata serverId i body rfl
    obtain ⟨heq, hagreed⟩ := hinv'.agreed ((hext .wrapper).2.subset hdata) (typeOf_header ..)
    rw [assignment, assignData, List.cons.injEq, List.cons.injEq] at heq
    obtain ⟨-, rfl, rfl⟩ := heq
    exact ⟨rfl, carriedName_assign b m, hagreed⟩
  refine ⟨⟨entries_kept hinv hinv' hext, hinv'.registered_once.1⟩, hinv'.registered_once.2,
    hinv'.exposed_once, ?_, ?_⟩
  · rintro data hdata k ⟨serverId, i, body, hdata', rfl, hname⟩
    obtain ⟨hi, hcarries, hagreed⟩ := hcarried data hdata serverId i body hdata'
    rw [hi]
    exact hagreed (hcarries.symm.trans hname)
  · rintro h0 hl data hdata k ⟨serverId, i, body, hdata', rfl⟩
    obtain ⟨hi, -, hagreed⟩ := hcarried data hdata serverId i body hdata'
    rw [hi]
    exact hagreed (declaredName_eq b h0 hl)

def crossing (P : Programs State) (declaration discovery : List UInt8) : List Choice :=
  [.broadcast .wrapper declaration, .broadcast .server discovery,
    .datagram .wrapper 7 ⟨true, 9, []⟩ (broadcastForm P .server discovery),
    .datagram .server 5 ⟨true, 9, []⟩ (broadcastForm P .wrapper declaration),
    .accept .wrapper 3 8, .read .wrapper 3 ⟨true, 9, []⟩ 1]

def encounter (name : List UInt8) : Network State := start false [] 3 ⟨name, [], ∅, ∅⟩

def encountered (name : List UInt8) : Option (Network State) :=
  let b : Build := ⟨.little, false, false⟩
  let P := programs b .little fun _ => (0x26, 0x11)
  run P 0 (encounter name) (crossing P (declareData b ⟨name, [], ∅, ∅⟩ 0) (discoveryData 3))

theorem reach_encountered {α : Type} {name : List UInt8} {f : Network State → α} {x : α}
    (h : (encountered name).map f = some x) : ∃ N, ReflTransGen
      (Step (programs ⟨.little, false, false⟩ .little fun _ => (0x26, 0x11))) (encounter name) N ∧
        f N = x := by
  obtain ⟨N, hN, hx⟩ := Option.map_eq_some_iff.mp h
  exact ⟨N, run_sound (fun _ _ => rfl) hN, hx⟩

theorem discovery_agrees_crossing : ∃ N, ReflTransGen
    (Step (programs ⟨.little, false, false⟩ .little fun _ => (0x26, 0x11))) (encounter [116]) N ∧
      [51, 1, 1, 116, 64] ∈ (wrapper N).processed ∧ Agreed 3 N 1 := by
  obtain ⟨N, hrun, hN⟩ := reach_encountered (f := fun N => (wrapper N).processed)
    (show (encountered [116]).map _ = some [[19, 64], [51, 1, 1, 116, 64]] by decide +kernel)
  have hdata : [51, 1, 1, 116, 64] ∈ (wrapper N).processed := by
    rw [hN]
    decide
  obtain ⟨-, -, -, hagrees, -⟩ := discovery_agrees _ _ _ hrun .refl
  exact ⟨N, hrun, hdata, hagrees _ hdata 1 ⟨3, 1, [1, 116, 64], rfl, rfl, rfl⟩⟩

/-- The length of a name is one byte in the messages: the server registers a
name of 257 bytes by its first byte, and its module passes the id over. -/
theorem not_agreed_long_name : ∃ N, ReflTransGen
    (Step (programs ⟨.little, false, false⟩ .little fun _ => (0x26, 0x11)))
      (encounter (List.replicate 257 116)) N ∧
      (∃ data ∈ (wrapper N).processed, CarriesId data 1) ∧ ¬ Agreed 3 N 1 := by
  obtain ⟨N, hrun, hN⟩ := reach_encountered
    (f := fun N => ((wrapper N).processed,
      (wrapper N).program.serverMap[(3 : Int)]?.map (·.assignedModuleID)))
    (show (encountered (List.replicate 257 116)).map _ =
      some ([[19, 64], [51, 1, 1, 116, 64]], some (-1)) by decide +kernel)
  rw [Prod.mk.injEq] at hN
  refine ⟨N, hrun, ⟨[51, 1, 1, 116, 64], ?_, 3, 1, [1, 116, 64], rfl, rfl⟩, ?_⟩
  · rw [hN.1]
    decide
  · rintro ⟨info, fd, fd', c, k, hinfo, hid, -⟩
    change (wrapper N).program.serverMap[(3 : Int)]? = some info at hinfo
    rw [hinfo, Option.map_some, hid] at hN
    cases hN.2

end PyConnect.Discovery

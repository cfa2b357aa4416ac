import PyConnect.BroadcastPort
import PyConnect.Runs

namespace PyConnect.ListenerPort

open Bytes Common BroadcastPort Runs

def netCommPort : UInt16 := 37251

def commPortRange : Nat := 100

/-- What the system makes of opening a listener. Who asks for port 0 is given a
port of the system's choice. -/
structure Attempt where
  opens : Bool
  occupied : UInt16 → Bool
  chosen : UInt16
  listens : Bool

def Attempt.bind (o : Attempt) (port : UInt16) : Option UInt16 :=
  if o.occupied port then none else some (if port = 0 then o.chosen else port)

/-- The part of the comm layer that the listener uses. `bound` is the port that
tcpSocket_ listens on. -/
structure Listener where
  portInUse : UInt16
  bound : Option UInt16
  netCommEnabled : Bool

def init : Listener := ⟨netCommPort, none, false⟩

/-- A port as a little-endian host keeps it in network byte order. -/
def sinPort (port : UInt16) : UInt16 := UInt16.ofNat (htons false port.toNat)

/-- The port that is asked for at last, and the one that is bound. -/
def tryPorts (o : Attempt) (portInUse : UInt16) : Nat → Nat → Option (UInt16 × UInt16)
  | 0, triedPorts =>
      (o.bind (portInUse + UInt16.ofNat triedPorts)).map (portInUse + UInt16.ofNat triedPorts, ·)
  | remaining + 1, triedPorts =>
      match o.bind (portInUse + UInt16.ofNat triedPorts) with
      | some p => some (portInUse + UInt16.ofNat triedPorts, p)
      | none => tryPorts o portInUse remaining (triedPorts + 1)

def initTCPListener (o : Attempt) (S : Listener) : Listener × Bool :=
  if o.opens = false then ({ S with bound := none }, false)
  else
    match tryPorts o S.portInUse commPortRange 0 with
    | none => ({ S with bound := none }, false)
    | some (port, p) =>
        -- portInUse_ is in network byte order from here on
        if o.listens then ({ S with portInUse := sinPort port, bound := some p }, true)
        else ({ S with portInUse := sinPort port, bound := none }, false)

/-- `udp` is what initUDPListener returns. The listener is opened whatever it is. -/
def enableNetComm (udp : Bool) (o : Attempt) (S : Listener) : Listener :=
  if S.netCommEnabled then S
  else { (initTCPListener o S).1 with netCommEnabled := udp && (initTCPListener o S).2 }

def disableNetComm (S : Listener) : Listener :=
  if S.netCommEnabled then { S with bound := none, netCommEnabled := false } else S

inductive Event
  | enable (udp : Bool) (o : Attempt)
  | disable

def step (S : Listener) : Event → Option Listener
  | .enable udp o => some (enableNetComm udp o S)
  | .disable => some (disableNetComm S)

def InRange (p : UInt16) : Prop :=
  netCommPort.toNat ≤ p.toNat ∧ p.toNat ≤ netCommPort.toNat + commPortRange

/-- The first free port of the range at or above the port that the search starts
from. -/
structure FirstFree (occupied : UInt16 → Bool) (start p : UInt16) : Prop where
  inRange : InRange p
  start_le : start.toNat ≤ p.toNat
  free : occupied p = false
  first : ∀ q, InRange q → start.toNat ≤ q.toNat → q.toNat < p.toNat → occupied q = true

/-- Where the listener is opened, it is bound as it should be. -/
def Placed (S : Listener) : Event → Listener → Prop
  | .enable _ o, S' => S.netCommEnabled = false → (initTCPListener o S).2 = true →
      ∃ p, S'.bound = some p ∧ FirstFree o.occupied S.portInUse p
  | .disable, _ => True

def Announced (S : Listener) : Prop :=
  ∀ p ∈ S.bound, ∀ (B : Broadcaster) (data : List UInt8), B.bigEndian = false →
    B.portInUse = S.portInUse.toNat →
    modData B data = data.take (data.length - 1) ++ hostBytes true 2 p.toNat ++ [msgEnd]

def Right (S : Listener) (e : Event) (S' : Listener) : Prop := Placed S e S' ∧ Announced S'

/-- All ports that are tried are occupied, or nothing is free from the start up to
the range and something in that part of it which is tried. -/
def Clear (start : UInt16) (occupied : UInt16 → Bool) : Prop :=
  (∀ k ≤ commPortRange, occupied (start + UInt16.ofNat k) = true) ∨
    (∃ p, InRange p ∧ start.toNat ≤ p.toNat ∧ p.toNat ≤ start.toNat + commPortRange ∧
      occupied p = false) ∧
    ∀ q : UInt16, start.toNat ≤ q.toNat → q.toNat < netCommPort.toNat → occupied q = true

def Meets (S : Listener) : Event → Listener → Prop
  | .enable _ o, _ => S.netCommEnabled = false → o.opens = true → o.listens = true →
      Clear S.portInUse o.occupied
  | .disable, _ => True

variable {o : Attempt} {S S' : Listener} {start port p : UInt16}

theorem sinPort_toNat (port : UInt16) : (sinPort port).toNat = htons false port.toNat := by
  have hlt := hostValue_lt false (hostBytes true 2 port.toNat)
  rw [hostBytes_length] at hlt
  exact Nat.mod_eq_of_lt hlt

theorem add_toNat {k : Nat} (hk : k ≤ commPortRange) :
    (start + UInt16.ofNat k).toNat = (start.toNat + k) % 65536 := by
  have hsmall : k % 65536 = k := Nat.mod_eq_of_lt (lt_of_le_of_lt hk (by decide))
  rw [UInt16.toNat_add, UInt16.toNat_ofNat', hsmall]

theorem add_eq {k : Nat} (hk : k ≤ commPortRange) (h : p.toNat = start.toNat + k) :
    start + UInt16.ofNat k = p := by
  apply UInt16.toNat_inj.mp
  rw [add_toNat hk, ← h, Nat.mod_eq_of_lt p.toNat_lt]

theorem bind_eq_some_iff : o.bind port = some p ↔
    o.occupied port = false ∧ p = if port = 0 then o.chosen else port := by
  rw [Attempt.bind]
  cases o.occupied port <;> simp [eq_comm]

theorem bind_eq_none_iff : o.bind port = none ↔ o.occupied port = true := by
  rw [Attempt.bind]
  cases o.occupied port <;> simp

theorem tryPorts_eq_none {n t : Nat} (h : tryPorts o start n t = none) :
    ∀ k, t ≤ k → k ≤ t + n → o.occupied (start + UInt16.ofNat k) = true := by
  induction n generalizing t with
  | zero =>
      intro k hlo hhi
      obtain rfl : k = t := by omega
      rw [tryPorts, Option.map_eq_none_iff] at h
      exact bind_eq_none_iff.mp h
  | succ n ih =>
      intro k hlo hhi
      rw [tryPorts] at h
      cases hbind : o.bind (start + UInt16.ofNat t) with
      | some p => simp [hbind] at h
      | none =>
          simp only [hbind] at h
          rcases hlo.eq_or_lt with rfl | hlt
          · exact bind_eq_none_iff.mp hbind
          · exact ih h k hlt (by omega)

theorem tryPorts_eq_some {n t : Nat} (h : tryPorts o start n t = some (port, p)) :
    ∃ k, t ≤ k ∧ k ≤ t + n ∧ port = start + UInt16.ofNat k ∧ o.bind port = some p ∧
      ∀ j, t ≤ j → j < k → o.occupied (start + UInt16.ofNat j) = true := by
  induction n generalizing t with
  | zero =>
      rw [tryPorts, Option.map_eq_some_iff] at h
      obtain ⟨p', hbind, heq⟩ := h
      obtain ⟨rfl, rfl⟩ := Prod.mk.inj heq
      exact ⟨t, le_rfl, le_rfl, rfl, hbind, fun j hlo hhi => absurd hhi (by omega)⟩
  | succ n ih =>
      rw [tryPorts] at h
      cases hbind : o.bind (start + UInt16.ofNat t) with
      | some p' =>
          simp only [hbind, Option.some.injEq, Prod.mk.injEq] at h
          obtain ⟨rfl, rfl⟩ := h
          exact ⟨t, le_rfl, by omega, rfl, hbind, fun j hlo hhi => absurd hhi (by omega)⟩
      | none =>
          simp only [hbind] at h
          obtain ⟨k, hlo, hhi, hport, hp, hfirst⟩ := ih h
          refine ⟨k, by omega, by omega, hport, hp, fun j hj hjk => ?_⟩
          rcases hj.eq_or_lt with rfl | hlt
          · exact bind_eq_none_iff.mp hbind
          · exact hfirst j hlt hjk

theorem initTCPListener_ok (ho : o.opens = true) (hl : o.listens = true)
    (h : tryPorts o S.portInUse commPortRange 0 = some (port, p)) :
    initTCPListener o S = ({ S with portInUse := sinPort port, bound := some p }, true) := by
  simp [initTCPListener, ho, hl, h]

theorem initTCPListener_cases (o : Attempt) (S : Listener) :
    ((initTCPListener o S).2 = false ∧ (initTCPListener o S).1.bound = none) ∨
      ∃ port p, o.opens = true ∧ o.listens = true ∧
        tryPorts o S.portInUse commPortRange 0 = some (port, p) := by
  rw [initTCPListener]
  cases hopens : o.opens with
  | false => exact .inl ⟨rfl, rfl⟩
  | true =>
      cases htry : tryPorts o S.portInUse commPortRange 0 with
      | none => exact .inl ⟨rfl, rfl⟩
      | some x =>
          cases hlistens : o.listens with
          | false => exact .inl ⟨rfl, rfl⟩
          | true => exact .inr ⟨x.1, x.2, rfl, rfl, rfl⟩

theorem announced_iff (hbound : S.bound = some p) (hport : S.portInUse = sinPort port) :
    Announced S ↔ port = p := by
  constructor
  · intro h
    have hmod := h p hbound ⟨true, true, false, S.portInUse.toNat⟩ [msgEnd] rfl rfl
    simp only [modData, hport, sinPort_toNat, hostBytes_htons, List.append_left_inj,
      List.append_right_inj] at hmod
    exact UInt16.toNat_inj.mp (hostBytes_inj true port.toNat_lt p.toNat_lt hmod)
  · rintro rfl q hq B data hB hin
    obtain rfl := Option.some.inj (hbound.symm.trans hq)
    rw [modData, hin, hport, hB, sinPort_toNat, hostBytes_htons]

theorem announced_of_not_bound (h : S.bound = none) : Announced S := by
  intro p hp
  rw [h] at hp
  cases hp

theorem clear_of_none (h : tryPorts o start commPortRange 0 = none) : Clear start o.occupied :=
  .inl fun k hk => tryPorts_eq_none h k (Nat.zero_le k) (by omega)

theorem tryPorts_first (h : tryPorts o start commPortRange 0 = some (port, p)) :
    ∃ k ≤ commPortRange, port.toNat = (start.toNat + k) % 65536 ∧ o.occupied port = false ∧
      (p = if port = 0 then o.chosen else port) ∧
      ∀ q : UInt16, start.toNat ≤ q.toNat → q.toNat < start.toNat + k → o.occupied q = true := by
  obtain ⟨k, -, hk, hport, hbind, hfirst⟩ := tryPorts_eq_some h
  rw [Nat.zero_add] at hk
  obtain ⟨hfree, hp⟩ := bind_eq_some_iff.mp hbind
  refine ⟨k, hk, by rw [hport, add_toNat hk], hfree, hp, fun q hlo hhi => ?_⟩
  have hq := hfirst (q.toNat - start.toNat) (Nat.zero_le _) (by omega)
  rwa [add_eq (p := q) (by omega) (by omega)] at hq

theorem firstFree_of_clear (h : tryPorts o start commPortRange 0 = some (port, p))
    (hclear : Clear start o.occupied) : port = p ∧ FirstFree o.occupied start p := by
  have hlow : netCommPort.toNat = 37251 := rfl
  have hr : commPortRange = 100 := rfl
  rcases hclear with hall | ⟨⟨r, ⟨hr₁, hr₂⟩, hsr, hrs, hrfree⟩, hbelow⟩
  · obtain ⟨k, -, hk, rfl, hbind, -⟩ := tryPorts_eq_some h
    have hfree := (bind_eq_some_iff.mp hbind).1
    rw [hall k (by omega)] at hfree
    cases hfree
  · obtain ⟨k, hk, hval, hfree, hp, hbefore⟩ := tryPorts_first h
    have hkr : start.toNat + k ≤ r.toNat := by
      by_contra hlt
      have hocc := hbefore r hsr (by omega)
      rw [hrfree] at hocc
      cases hocc
    have hr65 := r.toNat_lt
    rw [Nat.mod_eq_of_lt (by omega)] at hval
    have hin : netCommPort.toNat ≤ port.toNat := by
      by_contra hlt
      have hocc := hbelow port (by omega) (by omega)
      rw [hfree] at hocc
      cases hocc
    have hne : port ≠ 0 := by
      rintro rfl
      exact absurd hin (by decide)
    rw [if_neg hne] at hp
    subst hp
    exact ⟨rfl, ⟨hin, by omega⟩, by omega, hfree, fun q _ hlo hhi => hbefore q hlo (by omega)⟩

theorem clear_of_firstFree (h : tryPorts o start commPortRange 0 = some (p, p))
    (hp : FirstFree o.occupied start p) : Clear start o.occupied := by
  obtain ⟨k, hk, hval, hfree, -, hbefore⟩ := tryPorts_first h
  obtain ⟨⟨hlo, hhi⟩, hle, -, -⟩ := hp
  -- a search that goes past the last port never comes back to the start
  have hr : commPortRange = 100 := rfl
  have h65 := start.toNat_lt
  have hwrap : p.toNat = start.toNat + k := by omega
  exact .inr ⟨⟨p, ⟨hlo, hhi⟩, hle, by omega, hfree⟩, fun q hq₁ hq₂ => hbefore q hq₁ (by omega)⟩

theorem clear_iff (h : tryPorts o start commPortRange 0 = some (port, p)) :
    Clear start o.occupied ↔ port = p ∧ FirstFree o.occupied start p := by
  constructor
  · exact firstFree_of_clear h
  · rintro ⟨rfl, hp⟩
    exact clear_of_firstFree h hp

theorem enable_keeps (udp : Bool) (hon : S.netCommEnabled = true) :
    enableNetComm udp o S = S := if_pos hon

theorem enable_bound (udp : Bool) (hon : S.netCommEnabled = false) :
    (enableNetComm udp o S).bound = (initTCPListener o S).1.bound ∧
      (enableNetComm udp o S).portInUse = (initTCPListener o S).1.portInUse := by
  rw [enableNetComm, hon]
  exact ⟨rfl, rfl⟩

theorem right_enable_iff (udp : Bool) (hon : S.netCommEnabled = false) :
    Right S (.enable udp o) (enableNetComm udp o S) ↔
      (o.opens = true → o.listens = true → Clear S.portInUse o.occupied) := by
  obtain ⟨hb, hport⟩ := enable_bound (o := o) udp hon
  rcases initTCPListener_cases o S with ⟨hfail, hnone⟩ | ⟨port, p, ho, hl, htry⟩
  · refine iff_of_true ⟨fun _ hok => ?_, announced_of_not_bound (hb.trans hnone)⟩ fun ho hl => ?_
    · rw [hfail] at hok
      cases hok
    · cases htry : tryPorts o S.portInUse commPortRange 0 with
      | none => exact clear_of_none htry
      | some x =>
          rw [initTCPListener_ok ho hl htry] at hfail
          cases hfail
  · rw [initTCPListener_ok ho hl htry] at hb hport
    rw [imp_iff_right ho, imp_iff_right hl, clear_iff htry, Right, announced_iff hb hport, and_comm]
    refine and_congr_right fun _ => ⟨fun h => ?_, fun h _ _ => ⟨p, hb, h⟩⟩
    obtain ⟨q, hq, hfirst⟩ := h hon (by rw [initTCPListener_ok ho hl htry])
    obtain rfl := Option.some.inj (hb.symm.trans hq)
    exact hfirst

theorem step_right_iff (e : Event) (hS : Announced S) (h : step S e = some S') :
    (Right S e S' ↔ Meets S e S') ∧ (Meets S e S' → Announced S') := by
  cases e with
  | enable udp o =>
      obtain rfl := Option.some.inj h
      cases hon : S.netCommEnabled with
      | true =>
          rw [enable_keeps udp hon, Right, Placed, Meets, hon]
          simpa using hS
      | false =>
          have hiff : Right S (.enable udp o) (enableNetComm udp o S) ↔
              Meets S (.enable udp o) (enableNetComm udp o S) := by
            rw [right_enable_iff udp hon, Meets, imp_iff_right hon]
          exact ⟨hiff, fun hm => (hiff.mpr hm).2⟩
  | disable =>
      obtain rfl := Option.some.inj h
      have hS' : Announced (disableNetComm S) := by
        rw [disableNetComm]
        split
        · exact announced_of_not_bound rfl
        · exact hS
      exact ⟨iff_of_true ⟨trivial, hS'⟩ trivial, fun _ => hS'⟩

theorem sinPort_value (port : UInt16) :
    (sinPort port).toNat = port.toNat / 256 + 256 * (port.toNat % 256) := by
  have hlt := port.toNat_lt
  rw [sinPort_toNat, htons, hostValue, hostBytes]
  simp only [leBytes, ofLeBytes, Bool.false_eq_true, if_false, if_true, List.reverse_cons,
    List.reverse_nil, List.nil_append, List.cons_append, UInt8.toNat_ofNat']
  omega

theorem clear_netCommPort (occupied : UInt16 → Bool) : Clear netCommPort occupied := by
  have hr : commPortRange = 100 := rfl
  have hlow : netCommPort.toNat = 37251 := rfl
  by_cases hall : ∀ k ≤ commPortRange, occupied (netCommPort + UInt16.ofNat k) = true
  · exact .inl hall
  · push Not at hall
    obtain ⟨k, hk, hfree⟩ := hall
    have hval : (netCommPort + UInt16.ofNat k).toNat = (netCommPort.toNat + k) % 65536 := add_toNat hk
    rw [Nat.mod_eq_of_lt (by omega)] at hval
    refine .inr ⟨⟨_, ⟨?_, ?_⟩, ?_, ?_, Bool.eq_false_iff.mpr hfree⟩, fun q hlo hhi => ?_⟩
    all_goals omega

/-- A later one starts from a port of the range with its bytes exchanged. Of one port
only are the ports from there on in the range. -/
theorem clear_sinPort_iff (hp : InRange p) (hne : p ≠ 37265) (occupied : UInt16 → Bool) :
    Clear (sinPort p) occupied ↔
      ∀ k ≤ commPortRange, occupied (sinPort p + UInt16.ofNat k) = true := by
  apply or_iff_left
  rintro ⟨⟨r, ⟨hlo, hhi⟩, hle, hreach, -⟩, -⟩
  have hr : commPortRange = 100 := rfl
  have hlow : netCommPort.toNat = 37251 := rfl
  obtain ⟨hp₁, hp₂⟩ := hp
  have hhigh : p.toNat / 256 = 145 := by omega
  have hval := sinPort_value p
  apply hne
  apply UInt16.toNat_inj.mp
  change p.toNat = 37265
  omega

theorem not_right_again (udp : Bool) (hon : S.netCommEnabled = false)
    (hport : S.portInUse = sinPort p) (hp : InRange p) (hne : p ≠ 37265)
    (hok : (initTCPListener o S).2 = true) :
    ¬ Right S (.enable udp o) (enableNetComm udp o S) := by
  rcases initTCPListener_cases o S with ⟨hfail, -⟩ | ⟨port, q, ho, hl, htry⟩
  · rw [hfail] at hok
    cases hok
  · rw [right_enable_iff udp hon, imp_iff_right ho, imp_iff_right hl, hport, clear_sinPort_iff hp hne]
    intro hall
    obtain ⟨k, -, hk, rfl, hbind, -⟩ := tryPorts_eq_some htry
    rw [hport] at hbind
    have hfree := (bind_eq_some_iff.mp hbind).1
    rw [hall k (by omega)] at hfree
    cases hfree

/-- Along every run the listener is where it should be just where the start of each
search is clear. -/
theorem rightPort_iff (es : List Event) :
    Always step Right es init ↔ Always step Meets es init :=
  always_iff_of_keeps (fun _ e _ => step_right_iff e) es (announced_of_not_bound rfl)

def freely : Attempt := ⟨true, fun _ => false, 0, true⟩

/-- Enabled, disabled and enabled again, the layer listens on port 33681. -/
theorem not_rightPort_again :
    ¬ Always step Right [.enable true freely, .disable, .enable true freely] init := by
  intro h
  have h₁ := h (enableNetComm true freely init) rfl
  have h₂ := h₁.2 (disableNetComm (enableNetComm true freely init)) rfl
  have h₃ := h₂.2 (enableNetComm true freely (disableNetComm (enableNetComm true freely init))) rfl
  exact not_right_again (p := netCommPort) true rfl rfl ⟨le_rfl, by decide⟩ (by decide) rfl h₃.1

end PyConnect.ListenerPort

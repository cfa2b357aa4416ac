import PyConnect.ByteConnect
import PyConnect.Settling

namespace PyConnect.ByteSettling

open Relation ObjComm NetComm Stub Wrapper Handshake Discovery PeerMessage CommLayer ByteNetwork
open ByteRefinement ByteDiscovery ByteConnect Schedule Conversation Settling Multiset

def inTransit (k : ByteNetwork.Connection) : Nat :=
  (k.stream .server).length + (k.stream .wrapper).length

def unread (N : ByteNetwork.Network State) : Nat := (N.conns.map inTransit).sum

/-- The steps that need no broadcast. -/
inductive Proceeds (P : Programs State) (W : Wire) :
    ByteNetwork.Network State → ByteNetwork.Network State → Prop
  | accept {N N' : ByteNetwork.Network State} (side : Side) (c : Nat) (o : Opened) :
      ByteNetwork.step P W N (.accept side c o) = some N' → Proceeds P W N N'
  | read {N N' : ByteNetwork.Network State} (side : Side) (c : Nat) (cAddr : SockAddr) (n : Nat) :
      n % 4 = 0 → ByteNetwork.step P W N (.read side c cAddr n) = some N' → Proceeds P W N N'
  | eof {N N' : ByteNetwork.Network State} (side : Side) (c : Nat) (cAddr : SockAddr) :
      ByteNetwork.step P W N (.eof side c cAddr) = some N' → Proceeds P W N N'

variable {b : Build} {host : Values.Host} {port : Side → UInt8 × UInt8} {P : Programs State} {W : Wire}
  {N N' : ByteNetwork.Network State} {M : NetComm.Network State} {side : Side} {c total : Nat}
  {k k' : ByteNetwork.Connection} {fd : Int}

theorem Proceeds.occurs (h : Proceeds P W N N') : Occurs P W N N' := by
  cases h with
  | accept side c o hs => exact .event (.accept side c o) trivial hs
  | read side c cAddr n h4 hs => exact .event (.read side c cAddr n) h4 hs
  | eof side c cAddr hs => exact .event (.eof side c cAddr) trivial hs

theorem unread_set {conns : List ByteNetwork.Connection} (hk : conns[c]? = some k)
    (k' : ByteNetwork.Connection) :
    ((conns.set c k').map inTransit).sum + inTransit k = (conns.map inTransit).sum + inTransit k' := by
  induction conns generalizing c with
  | nil => cases hk
  | cons k₁ conns ih =>
      cases c with
      | zero =>
          obtain rfl := Option.some.inj hk
          rw [List.set_cons_zero, List.map_cons, List.map_cons, List.sum_cons, List.sum_cons]
          omega
      | succ c =>
          have hrest := ih hk
          rw [List.set_cons_succ, List.map_cons, List.map_cons, List.sum_cons, List.sum_cons]
          omega

theorem inTransit_setData (k : ByteNetwork.Connection) (side : Side) (stream : List UInt8)
    (info : Reassembly.SocketDataBufferInfo) :
    inTransit (k.setData side stream info) + (k.stream side).length = inTransit k + stream.length := by
  cases side with
  | server =>
      rw [inTransit, inTransit, ByteNetwork.Connection.setData]
      dsimp only
      rw [Function.update_self, Function.update_of_ne (show Side.wrapper ≠ .server by decide)]
      omega
  | wrapper =>
      rw [inTransit, inTransit, ByteNetwork.Connection.setData]
      dsimp only
      rw [Function.update_self, Function.update_of_ne (show Side.server ≠ .wrapper by decide)]
      omega

theorem unread_accept (hk : N.conns[c]? = some k) (o : Opened) :
    unread (ByteNetwork.addFdToClientList N side c k o) = unread N := by
  have hset := unread_set hk ((k.setSocket side (.client o.fd)).setData side (k.stream side)
    (Reassembly.addFdToClientList o.bufferedData))
  have hsame := inTransit_setData (k.setSocket side (.client o.fd)) side (k.stream side)
    (Reassembly.addFdToClientList o.bufferedData)
  have hk' : inTransit (k.setSocket side (.client o.fd)) = inTransit k := rfl
  have hstream : (k.setSocket side (.client o.fd)).stream side = k.stream side := rfl
  rw [hstream, hk'] at hsame
  rw [Nat.add_right_cancel hsame] at hset
  exact Nat.add_right_cancel hset

theorem unread_destroy (N : ByteNetwork.Network State) (side : Side) (fd : Int) :
    unread (ByteNetwork.destroyCurrentClient N side fd) = unread N := by
  rw [unread, unread, ByteNetwork.destroyCurrentClient, ByteNetwork.Network.onSocket]
  dsimp only
  rw [List.map_map]
  refine congrArg List.sum (List.map_congr_left fun k _ => ?_)
  dsimp only [Function.comp]
  split <;> rfl

theorem unread_read (hk : N.conns[c]? = some k) {n : Nat} (hn : 0 < n)
    (hle : n ≤ (k.stream side).length) {info : Reassembly.SocketDataBufferInfo}
    (hconns : N'.conns = N.conns.set c (k.setData side ((k.stream side).drop n) info)) :
    unread N' < unread N := by
  have hset := unread_set hk (k.setData side ((k.stream side).drop n) info)
  have hdrop := inTransit_setData k side ((k.stream side).drop n) info
  rw [List.length_drop] at hdrop
  rw [unread, unread, hconns]
  omega

theorem abstracts_bounded (h : Abstracts W nothing N M) : Bounded N.conns.length M :=
  fun _ hc => h.unmade hc

/-- Each step answers a message with less, or else there is less to do or to read. -/
theorem Proceeds.descends (hcipher : Cipher W.encrypt W.decrypt) (h : Abstracts W nothing N M)
    (hb : Bounded total M) (hp : Proceeds (programs b host port) W N N') :
    ∃ M', Step (programs b host port) M M' ∧ (Abstracts W nothing N' M' ∧ Bounded total M') ∧
      (IsDershowitzMannaLT (pending total M') (pending total M) ∨
        pending total M' = pending total M ∧ chores total M' + unread N' < chores total M + unread N) := by
  cases hp with
  | accept side c o hs =>
      obtain ⟨k, k', hk, hk', hback, hfd, rfl, h'⟩ := accept_simulates h hs
      have hstep : Settles (programs b host port) M _ := .accept M side c k' o.fd hk' hback hfd
      have hlt := bounded_lt hb hk'
      refine ⟨_, hstep.step, ⟨h', (hstep.descends hb).1⟩, .inr ⟨pending_accept hk' hlt, ?_⟩⟩
      rw [unread_accept hk]
      exact Nat.add_lt_add_right (chores_accept hk' hlt hback) _
  | read side c cAddr n h4 hs =>
      obtain ⟨k, k', fd, count, M', hk, hn, hle, hk', hlive, hinbox, hM', h', hnone⟩ :=
        read_simulates (announcing_programs b host port) hcipher h h4 hs
      have hb₁ : Bounded total (M.withComm side (setLastUsedCommChannel (M.parties side).comm fd)) := hb
      have hb' : Bounded total M' := fun c' hc' => processMessages_none hM' (hb₁ c' hc')
      refine ⟨M', .read M M' side c k' fd cAddr count hk' hlive hinbox hM', ⟨h', hb'⟩, ?_⟩
      rcases Nat.eq_zero_or_pos count with rfl | hcount
      · obtain ⟨info, hconns⟩ := hnone rfl
        obtain rfl := Option.some.inj hM'
        exact .inr ⟨rfl, Nat.add_lt_add_left (unread_read hk hn hle hconns) _⟩
      · exact .inl ((processMessages_pending hb₁ hM').2 hcount)
  | eof side c cAddr hs =>
      obtain ⟨k', fd, hk', hlive, hclosed, hinbox, rfl, h'⟩ := eof_simulates h hs
      have hstep : Settles (programs b host port) M _ := .eof M side c k' fd cAddr hk' hlive hclosed hinbox
      have hlt := bounded_lt hb hk'
      let M₁ := channelShutdown (programs b host port) M side cAddr fd true
      have hk₁ : M₁.conns c = some k' := hk'
      refine ⟨_, hstep.step, ⟨h', (hstep.descends hb).1⟩, .inr ⟨pending_destroy total M₁ side fd, ?_⟩⟩
      rw [unread_destroy]
      exact Nat.add_lt_add_right (chores_destroy hk₁ hlt hlive) _

theorem acc_proceeds (hcipher : Cipher W.encrypt W.decrypt) (h : Abstracts W nothing N M) :
    Acc (fun N' N => Proceeds (programs b host port) W N N') N := by
  let total := N.conns.length
  refine acc_of_followed (fun N M => Abstracts W nothing N M ∧ Bounded total M) (pending total)
    (fun N M => chores total M + unread N) ?_ ⟨h, abstracts_bounded h⟩
  rintro N N' M ⟨h, hb⟩ hp
  obtain ⟨M', -, hgood, hdown⟩ := hp.descends hcipher h hb
  exact ⟨M', hgood, hdown⟩

/-- Between two broadcasts the bytes come to rest, however they are cut into reads. -/
theorem bytes_settle (b : Build) (host : Values.Host) (port : Side → UInt8 × UInt8) {W : Wire}
    (hcipher : Cipher W.encrypt W.decrypt) (parties : (side : Side) → Party (State side))
    {N : ByteNetwork.Network State}
    (hrun : ReflTransGen (Occurs (programs b host port) W) (quiet parties) N) :
    Acc (fun N' N => Proceeds (programs b host port) W N N') N := by
  obtain ⟨M, -, h⟩ := occurs_reach (announcing_programs b host port) hcipher (abstracts_quiet W parties)
    hrun
  exact acc_proceeds hcipher h

/-- A script has connected, and the module has read a part of what the server sent it. -/
theorem bytes_settle_dialled : ∃ N,
    ReflTransGen (Occurs smallPrograms paddedWire) (quiet (encounter [116]).parties) N ∧
      unread N = 8 ∧ Acc (fun N' N => Proceeds smallPrograms paddedWire N N') N := by
  let es : List Event := [.accept .wrapper 0 ⟨8, default⟩, .read .wrapper 0 ⟨true, 9, []⟩ 4]
  obtain ⟨N, hN, hunread⟩ := Option.map_eq_some_iff.mp
    (show (dialled es).map unread = some 8 by decide +kernel)
  have hrun := occurs_dialled (show ∀ e ∈ es, e.Whole by decide) hN
  exact ⟨N, hrun, hunread, bytes_settle ⟨.little, false, false⟩ .little (fun _ => (0x26, 0x11))
    (W := paddedWire) cipher_padded _ hrun⟩

end PyConnect.ByteSettling

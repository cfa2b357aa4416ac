import PyConnect.ByteSettling
import PyConnect.DirectAgreement

namespace PyConnect.ByteAgreement

open Relation Common ObjComm NetComm Stub Wrapper Handshake Agreement Discovery FrameStream Framing
open Reassembly ReassemblyScan PeerMessage ByteNetwork ByteRefinement ByteDiscovery ByteConnect
open ByteSettling Conversation Completion
open Delivery (cipherSize)
open DirectConnect (Happens Unread)
open DirectAgreement (Begun Heard Heading Waits awaits heading_reach heard_connect)

def Fits (data : List UInt8) : Prop := cipherSize data.length + 4 ≤ msgBufferSize

variable {b : Build} {host : Values.Host} {port : Side → UInt8 × UInt8} {P : Programs State} {W : Wire}
  {N N' : ByteNetwork.Network State} {M : NetComm.Network State} {m : PyConnectModule} {serverID : Int}
  {side : Side} {info : SocketDataBufferInfo} {stream data message : List UInt8}
  {inbox : List (List UInt8)} {xs : List (List UInt8 × Bool)}

theorem fits_iff : Fits data ↔ data.length ≤ maxMessage := by
  rw [Fits, cipherSize, msgBufferSize, maxMessage]
  omega

theorem fits_data {p : Packet} (h : p.totalMsgSize ≤ maxMessage) : Fits p.data := by
  have htake := List.length_take_le p.totalMsgSize.toNat p.written
  rw [fits_iff, Packet.data]
  omega

theorem fits_said (hm : Introducible b m) (h : Said b m data) : Fits data := by
  cases h with
  | declares serverId =>
      have hsize : (declarePacket b m serverId).totalMsgSize ≤ maxMessage := hm.declares
      rw [← declarePacket_data]
      exact fits_data hsize
  | assigns serverId =>
      have hshort := hm.short
      rw [fits_iff, assignData, packString, maxMessage, if_neg Bool.false_ne_true]
      simp only [List.length_cons, List.length_append, List.length_nil]
      omega
  | exposes serverId id => exact fits_data (hm.exposes serverId id)
  | describes serverId id => exact fits_data (hm.describes serverId id)

theorem held_lt (h : Represents W info stream (message :: inbox)) :
    (held W.bigEndian info).length < (W.encrypt message).length + 4 := by
  by_contra hge
  have hvalid : (W.encrypt message).length ≤ msgBufferSize := h.fits message List.mem_cons_self
  have hframe : frame W.bigEndian (W.encrypt message) <+: held W.bigEndian info ++ stream := by
    rw [h.bytes]
    exact List.prefix_append _ _
  have hle : (frame W.bigEndian (W.encrypt message)).length ≤ (held W.bigEndian info).length := by
    rw [frame_length]
    omega
  obtain ⟨more, hmore⟩ := List.prefix_of_prefix_length_le hframe (List.prefix_append _ _) hle
  rcases h.partly with hnil | hhold
  · rw [hnil] at hge
    exact hge (Nat.succ_pos _)
  · rw [← hmore, resolve_frame W.bigEndian hvalid more] at hhold
    cases hhold

theorem Represents.four (hcipher : Cipher W.encrypt W.decrypt)
    (h : Represents W info stream (message :: inbox)) :
    4 ≤ stream.length ∧ ∃ its info', processRead W.bigEndian info (stream.take 4) = some (its, info') ∧
      (deliveries its = [] ∨ deliveries its = [W.encrypt message]) := by
  have hblocks : ∀ data, (W.encrypt data).length % 8 = 0 := by
    intro data
    rw [hcipher.size, cipherSize]
    omega
  have hfour : 4 ≤ stream.length := by
    have hlen := congrArg List.length h.bytes
    have hframes := frames_aligned W.bigEndian hblocks (message :: inbox)
    have hne : stream ≠ [] := by
      rintro rfl
      cases h.eq_nil
    have haligned := h.aligned
    have hpos := List.length_pos_iff.mpr hne
    rw [List.length_append] at hlen
    omega
  obtain ⟨its, info', taken, rest, hread, hdeliveries, hinbox, hrest⟩ :=
    h.read hblocks (Nat.succ_pos 3) hfour rfl
  refine ⟨hfour, its, info', hread, ?_⟩
  rw [hdeliveries]
  cases taken with
  | nil => exact .inl rfl
  | cons first taken =>
      rw [List.cons_append, List.cons.injEq] at hinbox
      obtain ⟨rfl, hqueue⟩ := hinbox
      cases taken with
      | nil => exact .inr rfl
      | cons second taken =>
          -- two frames are longer than what was held with the four bytes
          exfalso
          have hheld := held_lt h
          have hbytes := congrArg List.length h.bytes
          have hleft := congrArg List.length hrest.bytes
          have hpos : 8 ≤ (W.encrypt second).length := by
            rw [hcipher.size, cipherSize]
            omega
          have hsecond := frame_length W.bigEndian (W.encrypt second)
          have hfirst := frame_length W.bigEndian (W.encrypt message)
          rw [List.map_cons, hqueue, List.cons_append, List.map_cons, frames_cons, frames_cons,
            List.map_append, frames_append] at hbytes
          simp only [List.length_append, List.length_drop] at hbytes hleft
          change _ = (frame _ _).length + ((frame _ _).length + _) at hbytes
          omega

theorem clientDataSend_fits (hcipher : Cipher W.encrypt W.decrypt) (N : ByteNetwork.Network State)
    (side : Side) (hfits : Fits data) : ∃ N', ByteNetwork.clientDataSend W N side data = some N' := by
  rw [Fits, ← hcipher.size] at hfits
  rw [ByteNetwork.clientDataSend]
  dsimp only
  rw [if_neg (by omega)]
  split
  · exact ⟨_, rfl⟩
  · rw [if_neg (by rw [frame_length]; omega)]
    exact ⟨_, rfl⟩

theorem dispatchAll_fits (P : Programs State) (hcipher : Cipher W.encrypt W.decrypt)
    (N : ByteNetwork.Network State) (side : Side) (hfits : ∀ x ∈ xs, x.2 = false ∧ Fits x.1) :
    ∃ N', ByteNetwork.dispatchAll P W side xs N = some N' := by
  induction xs generalizing N with
  | nil => exact ⟨N, rfl⟩
  | cons x xs ih =>
      obtain ⟨hunicast, hfit⟩ := hfits x List.mem_cons_self
      obtain ⟨N₁, hsend⟩ := clientDataSend_fits hcipher N side hfit
      obtain ⟨N', hall⟩ := ih N₁ fun y hy => hfits y (List.mem_cons_of_mem x hy)
      refine ⟨N', ?_⟩
      rw [ByteNetwork.dispatchAll, ByteNetwork.dataPacketSender, hunicast, if_neg Bool.false_ne_true,
        hsend]
      exact hall

theorem inputs_fits (hcipher : Cipher W.encrypt W.decrypt) (hm : Introducible b m)
    (hreplies : Replies P b m side (N.parties side).program message) :
    ∃ N', ByteNetwork.inputs P W side ⟨true, 0, []⟩ [W.encrypt message] N = some N' := by
  obtain ⟨r, hr, hsaid⟩ := hreplies
  have hdec : decrypted W.decrypt (W.encrypt message) false = some message := by
    refine decrypted_eq false ?_ (hcipher.inverse message)
    rw [hcipher.size, cipherSize]
    omega
  obtain ⟨N', hall⟩ := dispatchAll_fits P hcipher (N.withParty side { N.parties side with
    program := r.program, processed := (N.parties side).processed ++ [message] }) side
      fun x hx => ⟨(hsaid x hx).1, fits_said hm (hsaid x hx).2⟩
  refine ⟨N', ?_⟩
  rw [ByteNetwork.inputs, hdec]
  dsimp only
  rw [ByteNetwork.deliver, hr]
  dsimp only [Option.bind]
  rw [hall]
  rfl

theorem unused_bytes {fd : Int} (h : Abstracts W nothing N M) (hfd : NetComm.Unused M side fd) :
    ByteNetwork.Unused N side fd := by
  refine ⟨hfd.1, fun k hk => ?_⟩
  obtain ⟨c, hc⟩ := List.mem_iff_getElem?.mp hk
  obtain ⟨k', hk', hrel⟩ := h.conn hc
  rw [← hrel.sockets]
  exact hfd.2 c k' hk'

/-- Where a message waits, there is a connection to accept or there are bytes to read. -/
theorem can_proceed (hcipher : Cipher W.encrypt W.decrypt) (hm : Introducible b m)
    (h : Abstracts W nothing N M) (hw : Waits P b m M) : ∃ N', Proceeds P W N N' := by
  obtain ⟨side, c, k', message, rest, hk', hinbox, hopen, hreplies⟩ := hw
  rcases rel_cases (h.conns c) with ⟨-, hnone⟩ | ⟨k, k₁, hk, hk₁, hrel⟩
  · cases hnone.symm.trans hk'
  obtain rfl := Option.some.inj (hk₁.symm.trans hk')
  rw [hrel.sockets] at hopen
  cases hlive : k.sockets side with
  | closed => exact absurd hlive hopen
  | backlog =>
      obtain ⟨fd, hfd⟩ := exists_unused (abstracts_bounded h) side
      refine ⟨ByteNetwork.addFdToClientList N side c k ⟨fd, default⟩, .accept side c ⟨fd, default⟩ ?_⟩
      rw [ByteNetwork.step, hk]
      exact if_pos ⟨hlive, unused_bytes h hfd⟩
  | client fd =>
      obtain ⟨queued, hqueued, hrep⟩ := hrel.inbox side
      rw [nothing, List.nil_append] at hqueued
      rw [hinbox] at hqueued
      obtain rfl := hqueued
      obtain ⟨hfour, its, info', hread, hdeliveries⟩ := Represents.four hcipher hrep
      let N₁ := (N.withComm side (setLastUsedCommChannel (N.parties side).comm fd)).withConn c
        (k.setData side ((k.stream side).drop 4) info')
      have hparty : N₁.parties side = { N.parties side with
          comm := setLastUsedCommChannel (N.parties side).comm fd } := Function.update_self ..
      have hreplies' : Replies P b m side (N₁.parties side).program message := by
        rw [hparty, ← h.parties]
        exact hreplies
      obtain ⟨N', hN'⟩ : ∃ N', ByteNetwork.inputs P W side ⟨true, 0, []⟩ (deliveries its) N₁ = some N' := by
        rcases hdeliveries with hnil | hone
        · exact ⟨N₁, by rw [hnil]; rfl⟩
        · rw [hone]
          exact inputs_fits hcipher hm hreplies'
      refine ⟨N', .read side c ⟨true, 0, []⟩ 4 rfl ?_⟩
      rw [ByteNetwork.step, hk]
      dsimp only
      rw [hlive]
      dsimp only
      rw [if_pos ⟨Nat.succ_pos 3, by decide, hfour⟩, ByteNetwork.processIncomingData, hread]
      exact hN'

/-- The messages that the bytes amount to are on the way to an agreement. -/
def Proceeding (b : Build) (host : Values.Host) (port : Side → UInt8 × UInt8) (W : Wire)
    (m : PyConnectModule) (serverID : Int) (N : ByteNetwork.Network State) : Prop :=
  ∃ M H A, Abstracts W nothing N M ∧ Heading b host port m serverID H A M ∧
    (Unread H ∨ Begun b m serverID A)

theorem Proceeding.step (hcipher : Cipher W.encrypt W.decrypt) (hm : Introducible b m)
    (h : Proceeding b host port W m serverID N) (hp : Proceeds (programs b host port) W N N') :
    Proceeding b host port W m serverID N' := by
  obtain ⟨M, H, A, habstracts, hheading, hgo⟩ := h
  obtain ⟨M', hstep, habstracts'⟩ :=
    occurs_simulates (announcing_programs b host port) hcipher habstracts hp.occurs
  obtain ⟨H', A', hheading', hgo'⟩ := hheading.step hm hstep
  exact ⟨M', H', A', habstracts', hheading', hgo' hgo⟩

theorem Proceeding.leads (hcipher : Cipher W.encrypt W.decrypt) (hm : Introducible b m)
    (h : Proceeding b host port W m serverID N) :
    Leads (Proceeds (programs b host port) W) (fun N => Linked serverID N 1) N := by
  obtain ⟨M, H, A, habstracts, hheads⟩ := h
  refine leads_of_acc (Proceeding b host port W m serverID) (fun N N' h hp => h.step hcipher hm hp) ?_
    (acc_proceeds hcipher habstracts) ⟨M, H, A, habstracts, hheads⟩
  rintro N ⟨M, H, A, habstracts, hheading, hgo⟩
  rcases awaits hm hheading.without hheading.inv hgo with hagreed | hwaits
  · exact .inl (linked_of_agreed habstracts hagreed)
  · exact .inr (can_proceed hcipher hm habstracts hwaits)

theorem proceeding_of_heard {pow : Bool} {pyConnect : PyDict} (hm : Introducible b m)
    (habstracts : Abstracts W nothing N M)
    (hrun : ReflTransGen (Happens (programs b host port)) (start pow pyConnect serverID m) M)
    (hheard : Heard serverID M) : Proceeding b host port W m serverID N := by
  obtain ⟨H, A, hheading⟩ := heading_reach hm hrun
  exact ⟨M, H, A, habstracts, hheading, hheading.heard hheard⟩

/-- However the bytes are cut into reads, once the server knows the module, or the module
the server, or a script's PyConnect.connect has succeeded, the two agree before they have
accepted, read and closed all that is there. -/
theorem bytes_lead (b : Build) (host : Values.Host) (port : Side → UInt8 × UInt8) {W : Wire}
    (hcipher : Cipher W.encrypt W.decrypt) {m : PyConnectModule} (hm : Introducible b m) {serverID : Int}
    {pow : Bool} {pyConnect : PyDict} {N : ByteNetwork.Network State}
    (hrun : ReflTransGen (Occurs (programs b host port) W)
      (quiet (start pow pyConnect serverID m).parties) N) :
    ((N.parties .server).program.modules ≠ [] ∨
        serverID % 16 ∈ (N.parties .wrapper).program.serverMap →
      Leads (Proceeds (programs b host port) W) (fun N => Linked serverID N 1) N) ∧
    ∀ (S : System) (addr : List UInt8) (port' : Int) (N' : ByteNetwork.Network State),
      (∀ saddr p o, S.connect saddr p = some o → ByteNetwork.Unused N .server o.fd) →
      pyConnectConnect (programs b host port) W S addr port' N = some (N', none) →
      Leads (Proceeds (programs b host port) W) (fun N => Linked serverID N 1) N' := by
  obtain ⟨M, hrunM, h⟩ := occurs_reach (announcing_programs b host port) hcipher
    (abstracts_quiet W _) hrun
  refine ⟨fun hknown => ?_, fun S addr port' N' hS hconnect => ?_⟩
  · have hheard : Heard serverID M := by
      rw [Heard, server, wrapper, h.parties]
      exact hknown.imp id .inl
    exact (proceeding_of_heard hm h hrunM hheard).leads hcipher hm
  · obtain ⟨h', hok⟩ := connect_simulates h hconnect
    have hS' : ∀ saddr p c fd, (S.at N.conns.length).connect saddr p = some (c, fd) →
        M.conns c = none ∧ NetComm.Unused M .server fd := fun _ _ _ _ => at_unused h hS
    have hheard := heard_connect hm hrunM hS' hok.symm
    have hrun' := hrunM.tail (.connect M (S.at N.conns.length) addr port' hS')
    exact (proceeding_of_heard hm h' hrun' hheard).leads hcipher hm

/-- A script has connected, and then the module has read what the server sent it, in two
parts. -/
theorem bytes_lead_dialled :
    (∃ N, ReflTransGen (Occurs smallPrograms paddedWire) (quiet (encounter [116]).parties) N ∧
      3 ∈ (N.parties .wrapper).program.serverMap ∧
        Leads (Proceeds smallPrograms paddedWire) (fun N => Linked 3 N 1) N) ∧
    ∃ N', pyConnectConnect smallPrograms paddedWire oneModule (text "127.0.0.1") 0
        (quiet (encounter [116]).parties) = some (N', none) ∧
      Leads (Proceeds smallPrograms paddedWire) (fun N => Linked 3 N 1) N' := by
  let es : List Event := [.accept .wrapper 0 ⟨8, default⟩, .read .wrapper 0 ⟨true, 9, []⟩ 4,
    .read .wrapper 0 ⟨true, 9, []⟩ 8]
  have hleads := @bytes_lead ⟨.little, false, false⟩ .little (fun _ => (0x26, 0x11)) paddedWire
    cipher_padded _ introducible_small 3
  refine ⟨?_, ?_⟩
  · obtain ⟨N, hN, hknown⟩ := Option.map_eq_some_iff.mp
      (show (dialled es).map (fun N => (N.parties .wrapper).program.serverMap.contains 3) = some true by
        decide +kernel)
    have hrun := occurs_dialled (show ∀ e ∈ es, e.Whole by decide) hN
    have hmem : 3 ∈ (N.parties .wrapper).program.serverMap := Std.ExtTreeMap.contains_iff_mem.mp hknown
    exact ⟨N, hrun, hmem, (hleads hrun).1 (.inr hmem)⟩
  · obtain ⟨⟨N', error⟩, hconnect, hok⟩ := Option.map_eq_some_iff.mp
      (show (pyConnectConnect smallPrograms paddedWire oneModule (text "127.0.0.1") 0
        (quiet (encounter [116]).parties)).map (·.2) = some none by decide +kernel)
    obtain rfl : error = none := hok
    exact ⟨N', hconnect, (hleads .refl).2 oneModule (text "127.0.0.1") 0 N'
      (fun _ _ _ => one_dialled) hconnect⟩

end PyConnect.ByteAgreement

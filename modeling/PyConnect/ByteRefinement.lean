import PyConnect.ByteNetwork
import PyConnect.Channels

namespace PyConnect.ByteRefinement

open Common ObjComm NetComm Stub FrameStream Framing Reassembly ReassemblySafety ReassemblyScan
open ReassemblyDelivery PeerMessage CommLayer ByteNetwork Runs Relation

variable {σ : Side → Type} {P : Programs σ} {W : Wire} {N N' : ByteNetwork.Network σ}
  {M : NetComm.Network σ} {side : Side} {info : SocketDataBufferInfo} {stream : List UInt8}
  {inbox : List (List UInt8)} {k : ByteNetwork.Connection} {k' : NetComm.Connection}

/-- What an end has of a message and the bytes on their way to it are the frames
of these messages. -/
structure Represents (W : Wire) (info : SocketDataBufferInfo) (stream : List UInt8)
    (inbox : List (List UInt8)) : Prop where
  within : info.WithinBuffer
  partly : held W.bigEndian info = [] ∨ resolve W.bigEndian (held W.bigEndian info) = .hold
  aligned : (held W.bigEndian info).length % 4 = 0
  fits : ∀ message ∈ inbox, (W.encrypt message).length ≤ msgBufferSize
  bytes : held W.bigEndian info ++ stream =
    (messages W.bigEndian).frames (inbox.map W.encrypt)

theorem represents_fresh (W : Wire) (buf : DataBuffer) :
    Represents W (Reassembly.addFdToClientList buf) [] [] := by
  have hheld : held W.bigEndian (Reassembly.addFdToClientList buf) = [] := held_eq_nil rfl
  exact ⟨withinBuffer_of_idle (idle_addFdToClientList buf), .inl hheld, by rw [hheld]; rfl,
    fun _ h => absurd h List.not_mem_nil, by rw [hheld]; rfl⟩

theorem Represents.write (h : Represents W info stream inbox) {data : List UInt8}
    (hfits : (W.encrypt data).length ≤ msgBufferSize) :
    Represents W info (stream ++ frame W.bigEndian (W.encrypt data)) (inbox ++ [data]) where
  within := h.within
  partly := h.partly
  aligned := h.aligned
  fits message hmem := by
    rcases List.mem_append.mp hmem with hmem | hmem
    · exact h.fits message hmem
    · rw [List.mem_singleton.mp hmem]
      exact hfits
  bytes := by
    rw [← List.append_assoc, h.bytes, List.map_append, frames_append, List.map_singleton]
    exact congrArg _ (List.append_nil _).symm

theorem Represents.eq_nil (h : Represents W info [] inbox) : inbox = [] := by
  have hbytes := h.bytes
  rw [List.append_nil] at hbytes
  cases inbox with
  | nil => rfl
  | cons message inbox =>
      exfalso
      have hvalid : (messages W.bigEndian).Valid (W.encrypt message) :=
        h.fits message List.mem_cons_self
      have hframe := resolve_frames (q := inbox.map W.encrypt) hvalid
      rw [List.map_cons] at hbytes
      rw [← hbytes] at hframe
      rcases h.partly with hnil | hhold
      · rw [hnil] at hbytes
        exact absurd (List.append_eq_nil_iff.mp hbytes.symm).1 ((messages W.bigEndian).frame_ne_nil _)
      · exact absurd (hframe.symm.trans hhold) (by simp)

theorem Represents.ne_nil (h : Represents W info stream inbox) (hs : stream ≠ []) : inbox ≠ [] := by
  rintro rfl
  exact hs (List.append_eq_nil_iff.mp h.bytes).2

theorem frames_aligned (bigEndian : Bool) (hblocks : ∀ data, (W.encrypt data).length % 8 = 0)
    (inbox : List (List UInt8)) :
    ((messages bigEndian).frames (inbox.map W.encrypt)).length % 4 = 0 := by
  induction inbox with
  | nil => rfl
  | cons message inbox ih =>
      have hmessage := hblocks message
      have hframe : ((messages bigEndian).frame (W.encrypt message)).length = _ :=
        frame_length bigEndian (W.encrypt message)
      rw [List.map_cons, frames_cons, List.length_append, hframe]
      omega

/-- The reassembly of one read takes messages from the front and loses nothing. -/
theorem Represents.read (h : Represents W info stream inbox) {n : Nat}
    (hblocks : ∀ data, (W.encrypt data).length % 8 = 0) (hn : 0 < n) (hle : n ≤ stream.length)
    (h4 : n % 4 = 0) :
    ∃ its info' taken rest, processRead W.bigEndian info (stream.take n) = some (its, info') ∧
      deliveries its = taken.map W.encrypt ∧ inbox = taken ++ rest ∧
      Represents W info' (stream.drop n) rest := by
  have hlen : (stream.take n).length = n := List.length_take_of_le hle
  have hsound := startOfRead_sound h.within (by rw [hlen]; exact hn)
  obtain ⟨its, info', hloop, hwithin, -⟩ := loop_safe W.bigEndian (stream.take n).length hsound
    (Int.le_refl _)
  obtain ⟨lost, hscan, -⟩ := loop_scan hsound hloop
  dsimp only at hscan
  have hvalid : ∀ p ∈ inbox.map W.encrypt, (messages W.bigEndian).Valid p := by
    intro p hp
    obtain ⟨message, hmem, rfl⟩ := List.mem_map.mp hp
    exact h.fits message hmem
  have hsplit : held W.bigEndian info ++ stream.take n ++ stream.drop n =
      (messages W.bigEndian).frames (inbox.map W.encrypt) := by
    rw [List.append_assoc, List.take_append_drop, h.bytes]
  have hne : held W.bigEndian info ++ stream.take n ≠ [] := by
    apply List.ne_nil_of_length_pos
    rw [List.length_append, hlen]
    omega
  obtain ⟨hiff, hrest⟩ := hscan.lossless_iff hne hvalid hsplit
  have hfours : ∀ p ∈ inbox.map W.encrypt, p.length % 4 = 0 := by
    intro p hp
    obtain ⟨message, -, rfl⟩ := List.mem_map.mp hp
    have := hblocks message
    omega
  have hlost : lost = 0 := by
    rw [hiff, heldCut_iff W.bigEndian hvalid]
    apply badCut_aligned hfours
    have := h.aligned
    rw [List.length_append, hlen]
    omega
  obtain ⟨rest, hinbox, hbytes⟩ := hrest hlost
  obtain ⟨taken, rest', rfl, htaken, rfl⟩ := List.map_eq_append_iff.mp hinbox
  refine ⟨its, info', taken, rest', hloop, htaken.symm, rfl, hwithin, hscan.held, ?_, ?_, hbytes⟩
  · have hcount := hscan.length_eq
    have hframes := frames_aligned W.bigEndian hblocks taken
    rw [htaken] at hframes
    have := h.aligned
    rw [List.length_append, hlen] at hcount
    omega
  · exact fun message hmem => h.fits message (List.mem_append_right _ hmem)

/-- The messages of `pending` have been read but not processed yet. -/
structure Conveys (W : Wire) (pending : Side → List (List UInt8)) (k : ByteNetwork.Connection)
    (k' : NetComm.Connection) : Prop where
  sockets : k'.sockets = k.sockets
  inbox : ∀ side, ∃ rest, k'.inbox side = pending side ++ rest ∧
    Represents W (k.dataInfo side) (k.stream side) rest
  backlog : ∀ side, k.sockets side = .backlog → held W.bigEndian (k.dataInfo side) = []

/-- A network of messages is what a network of bytes amounts to. -/
structure Abstracts (W : Wire) (pending : Nat → Side → List (List UInt8))
    (N : ByteNetwork.Network σ) (M : NetComm.Network σ) : Prop where
  parties : M.parties = N.parties
  conns : ∀ c, Option.Rel (Conveys W (pending c)) N.conns[c]? (M.conns c)
  air : M.air.map W.encrypt = N.air
  announced : ∀ message ∈ M.air, Announces message

def nothing : Nat → Side → List (List UInt8) := fun _ _ => []

def only (c : Nat) (side : Side) (taken : List (List UInt8)) : Nat → Side → List (List UInt8) :=
  Function.update nothing c (Function.update (fun _ => []) side taken)

variable {pending pending' : Nat → Side → List (List UInt8)} {c : Nat} {fd : Int}

theorem conveys_fresh (W : Wire) : Conveys W (fun _ => []) .fresh .fresh where
  sockets := rfl
  inbox _ := ⟨[], rfl, represents_fresh W default⟩
  backlog _ _ := held_eq_nil rfl

theorem Conveys.write {queued : Side → List (List UInt8)} (h : Conveys W queued k k') (side : Side)
    {data : List UInt8} (hfits : (W.encrypt data).length ≤ msgBufferSize) :
    Conveys W queued (k.write side (frame W.bigEndian (W.encrypt data))) (k'.write side data) := by
  refine ⟨h.sockets, fun side' => ?_, h.backlog⟩
  obtain ⟨rest, hinbox, hrep⟩ := h.inbox side'
  by_cases hside : side' = side.other
  · subst hside
    refine ⟨rest ++ [data], ?_, ?_⟩
    · rw [Channels.write_inbox, hinbox, List.append_assoc]
    · rw [ByteNetwork.Connection.write]
      dsimp only
      rw [Function.update_self]
      exact hrep.write hfits
  · refine ⟨rest, ?_, ?_⟩
    · rw [NetComm.Connection.write]
      dsimp only
      rw [Function.update_of_ne hside]
      exact hinbox
    · rw [ByteNetwork.Connection.write]
      dsimp only
      rw [Function.update_of_ne hside]
      exact hrep

theorem Conveys.close {queued : Side → List (List UInt8)} (h : Conveys W queued k k') (side : Side) :
    Conveys W queued (k.setSocket side .closed) (k'.setSocket side .closed) := by
  refine ⟨?_, h.inbox, fun side' hback => ?_⟩
  · exact congrArg (Function.update · side _) h.sockets
  · by_cases hside : side' = side
    · subst hside
      rw [ByteNetwork.Connection.setSocket] at hback
      dsimp only at hback
      rw [Function.update_self] at hback
      cases hback
    · rw [ByteNetwork.Connection.setSocket] at hback
      dsimp only at hback
      rw [Function.update_of_ne hside] at hback
      exact h.backlog side' hback

theorem Conveys.listed {queued : Side → List (List UInt8)} (h : Conveys W queued k k') {side : Side}
    (hback : k.sockets side = .backlog) (fd : Int) (buf : DataBuffer) :
    Conveys W queued ((k.setSocket side (.client fd)).setData side (k.stream side)
      (Reassembly.addFdToClientList buf)) (k'.setSocket side (.client fd)) := by
  have hnil := h.backlog side hback
  refine ⟨congrArg (Function.update · side _) h.sockets, fun side' => ?_, fun side' hback' => ?_⟩
  · obtain ⟨rest, hinbox, hrep⟩ := h.inbox side'
    refine ⟨rest, hinbox, ?_⟩
    rw [ByteNetwork.Connection.setData, ByteNetwork.Connection.setSocket]
    dsimp only
    by_cases hside : side' = side
    · subst hside
      rw [Function.update_self, Function.update_self]
      have hfresh := represents_fresh W buf
      have hheld : held W.bigEndian (Reassembly.addFdToClientList buf) = [] := held_eq_nil rfl
      refine ⟨hfresh.within, hfresh.partly, hfresh.aligned, hrep.fits, ?_⟩
      rw [hheld, ← hrep.bytes, hnil]
    · rw [Function.update_of_ne hside, Function.update_of_ne hside]
      exact hrep
  · rw [ByteNetwork.Connection.setData, ByteNetwork.Connection.setSocket] at hback' ⊢
    dsimp only at hback' ⊢
    by_cases hside : side' = side
    · subst hside
      rw [Function.update_self] at hback'
      cases hback'
    · rw [Function.update_of_ne hside] at hback' ⊢
      exact h.backlog side' hback'

theorem rel_cases {x : Option ByteNetwork.Connection} {y : Option NetComm.Connection}
    {queued : Side → List (List UInt8)} (h : Option.Rel (Conveys W queued) x y) :
    (x = none ∧ y = none) ∨ ∃ k k', x = some k ∧ y = some k' ∧ Conveys W queued k k' := by
  cases h with
  | none => exact .inl ⟨rfl, rfl⟩
  | some hrel => exact .inr ⟨_, _, rfl, rfl, hrel⟩

theorem Abstracts.withParty (h : Abstracts W pending N M) (side : Side) (p : Party (σ side)) :
    Abstracts W pending (N.withParty side p) (M.withParty side p) := by
  refine ⟨?_, h.conns, h.air, h.announced⟩
  rw [ByteNetwork.Network.withParty, NetComm.Network.withParty, h.parties]

theorem Abstracts.withComm (h : Abstracts W pending N M) (side : Side) (comm : ObjectComm) :
    Abstracts W pending (N.withComm side comm) (M.withComm side comm) := by
  rw [ByteNetwork.Network.withComm, NetComm.Network.withComm, h.parties]
  exact h.withParty side _

theorem Abstracts.onSocket (h : Abstracts W pending N M) (side : Side) (fd : Int)
    {f : ByteNetwork.Connection → ByteNetwork.Connection}
    {f' : NetComm.Connection → NetComm.Connection}
    (hf : ∀ queued k k', Conveys W queued k k' → Conveys W queued (f k) (f' k')) :
    Abstracts W pending (N.onSocket side fd f) (M.onSocket side fd f') := by
  refine ⟨h.parties, fun c => ?_, h.air, h.announced⟩
  rw [ByteNetwork.Network.onSocket, NetComm.Network.onSocket]
  dsimp only
  rw [List.getElem?_map]
  rcases rel_cases (h.conns c) with ⟨hk, hk'⟩ | ⟨k, k', hk, hk', hrel⟩
  · rw [hk, hk']
    exact .none
  · rw [hk, hk']
    refine .some ?_
    dsimp only
    rw [hrel.sockets]
    split
    · exact hf _ _ _ hrel
    · exact hrel

theorem Abstracts.withConn (h : Abstracts W pending N M) (hc : c < N.conns.length)
    (hpending : ∀ c' ≠ c, pending' c' = pending c') (hk : Conveys W (pending' c) k k') :
    Abstracts W pending' (N.withConn c k) (M.withConn c k') := by
  refine ⟨h.parties, fun c' => ?_, h.air, h.announced⟩
  rw [ByteNetwork.Network.withConn, NetComm.Network.withConn]
  dsimp only
  by_cases hcc : c' = c
  · subst hcc
    rw [List.getElem?_set_self hc, Function.update_self]
    exact .some hk
  · rw [List.getElem?_set_ne (Ne.symm hcc), Function.update_of_ne hcc, hpending c' hcc]
    exact h.conns c'

theorem Abstracts.conn (h : Abstracts W pending N M) (hk : N.conns[c]? = some k) :
    ∃ k', M.conns c = some k' ∧ Conveys W (pending c) k k' := by
  rcases rel_cases (h.conns c) with ⟨hnone, -⟩ | ⟨k₁, k', hk₁, hk', hrel⟩
  · cases hnone.symm.trans hk
  · obtain rfl := Option.some.inj (hk₁.symm.trans hk)
    exact ⟨k', hk', hrel⟩

theorem Abstracts.unmade (h : Abstracts W pending N M) (hc : N.conns.length ≤ c) :
    M.conns c = none := by
  rcases rel_cases (h.conns c) with ⟨-, hnone⟩ | ⟨k, -, hk, -⟩
  · exact hnone
  · cases (List.getElem?_eq_none hc).symm.trans hk

theorem Abstracts.unused (h : Abstracts W pending N M) (hfd : ByteNetwork.Unused N side fd) :
    NetComm.Unused M side fd := by
  refine ⟨hfd.1, fun c k₁ hk₁ => ?_⟩
  rcases rel_cases (h.conns c) with ⟨-, hnone⟩ | ⟨k, k', hk, hk', hrel⟩
  · cases hnone.symm.trans hk₁
  · obtain rfl := Option.some.inj (hk'.symm.trans hk₁)
    rw [hrel.sockets]
    exact hfd.2 k (List.mem_of_getElem? hk)

theorem Abstracts.talker (h : Abstracts W nothing N M) (side : Side) (o : Opened) :
    Abstracts W nothing (ByteNetwork.createTCPTalker N side o)
      (NetComm.createTCPTalker M side N.conns.length o.fd) := by
  have hmade : Abstracts W nothing { N with conns := N.conns ++ [.fresh] }
      (M.withConn N.conns.length .fresh) := by
    refine ⟨h.parties, fun c => ?_, h.air, h.announced⟩
    rw [NetComm.Network.withConn]
    dsimp only
    rcases Nat.lt_trichotomy c N.conns.length with hlt | rfl | hgt
    · rw [List.getElem?_append_left hlt, Function.update_of_ne (Nat.ne_of_lt hlt)]
      exact h.conns c
    · rw [List.getElem?_concat_length, Function.update_self]
      exact .some (conveys_fresh W)
    · rw [List.getElem?_eq_none (by simp; omega), Function.update_of_ne (Nat.ne_of_gt hgt),
        h.unmade (Nat.le_of_lt hgt)]
      exact .none
  have hback : ByteNetwork.Connection.fresh.sockets side = .backlog := rfl
  have hlisted := (conveys_fresh W).listed hback o.fd o.bufferedData
  have hset := hmade.withConn (c := N.conns.length) (by simp) (fun _ _ => rfl) hlisted
  rw [Channels.withConn_withConn] at hset
  have hcomm := hset.withComm side (setLastUsedCommChannel (N.parties side).comm o.fd)
  rw [ByteNetwork.createTCPTalker, NetComm.createTCPTalker, ByteNetwork.addFdToClientList,
    NetComm.addFdToClientList, h.parties]
  exact hcomm

theorem Abstracts.clientDataSend (h : Abstracts W pending N M) {data : List UInt8}
    (hs : ByteNetwork.clientDataSend W N side data = some N') :
    Abstracts W pending N' (NetComm.clientDataSend M side data) := by
  rw [ByteNetwork.clientDataSend] at hs
  dsimp only at hs
  rw [Option.ite_none_left_eq_some] at hs
  obtain ⟨hfits, hs⟩ := hs
  rw [NetComm.clientDataSend, h.parties]
  dsimp only
  split at hs
  next hinvalid =>
    rw [if_pos hinvalid, ← Option.some.inj hs]
    exact h.withParty side _
  next hvalid =>
    rw [Option.ite_none_left_eq_some] at hs
    rw [if_neg hvalid, ← Option.some.inj hs.2]
    exact (h.withParty side _).onSocket side _ fun _ _ _ hrel => hrel.write side (Nat.le_of_not_lt hfits)

theorem announces_broadcastForm (P : Programs σ) (side : Side) {data : List UInt8}
    (h : Announces data) : Announces (broadcastForm P side data) := by
  obtain ⟨rest, hdata⟩ : ∃ rest, data = rest ++ [msgEnd] := by
    have hlast : data.getLast? = some msgEnd := by
      by_contra hlast
      rw [Announces, verifyNegotiationMsg, if_neg hlast] at h
      rcases h with h | h <;> cases h
    rw [List.getLast?_eq_some_iff] at hlast
    exact hlast
  subst hdata
  cases rest with
  | nil => exact absurd h (by decide)
  | cons x rest =>
      rw [List.cons_append] at h ⊢
      rw [Announces, Channels.verifyNegotiationMsg_eq] at h
      rw [Channels.broadcastForm_eq P side h, Announces, Channels.verifyNegotiationMsg_eq]
      exact h

structure Announcing (P : Programs σ) : Prop where
  announcements : ∀ side st, ∀ data ∈ P.announcements side st, Announces data
  dispatches : ∀ side st cAddr message r, P.processInput side st cAddr message = some r →
    ∀ x ∈ r.dispatches, x.2 = true → Announces x.1

theorem Abstracts.dataPacketSender (h : Abstracts W pending N M) {data : List UInt8} {broadcast : Bool}
    (hdata : broadcast = true → Announces data)
    (hs : ByteNetwork.dataPacketSender P W N side data broadcast = some N') :
    Abstracts W pending N' (NetComm.dataPacketSender P M side data broadcast) := by
  rw [ByteNetwork.dataPacketSender] at hs
  rw [NetComm.dataPacketSender]
  cases broadcast with
  | false => exact h.clientDataSend hs
  | true =>
      rw [if_pos rfl, ByteNetwork.netBroadcastSend] at hs
      rw [Option.ite_none_left_eq_some] at hs
      rw [if_pos rfl, ← Option.some.inj hs.2]
      refine ⟨h.parties, h.conns, ?_, ?_⟩
      · rw [List.map_append, h.air, List.map_singleton]
      · intro message hmem
        rcases List.mem_append.mp hmem with hmem | hmem
        · exact h.announced message hmem
        · rw [List.mem_singleton.mp hmem]
          exact announces_broadcastForm P side (hdata rfl)

theorem Abstracts.dispatchAll {dispatches : List (List UInt8 × Bool)} (h : Abstracts W pending N M)
    (hdata : ∀ x ∈ dispatches, x.2 = true → Announces x.1)
    (hs : ByteNetwork.dispatchAll P W side dispatches N = some N') :
    Abstracts W pending N'
      (dispatches.foldl (fun M x => NetComm.dataPacketSender P M side x.1 x.2) M) := by
  induction dispatches generalizing N M with
  | nil =>
      obtain rfl := Option.some.inj hs
      exact h
  | cons x xs ih =>
      obtain ⟨N₁, hx, hxs⟩ := Option.bind_eq_some_iff.mp hs
      have h₁ := h.dataPacketSender (hdata x List.mem_cons_self) hx
      exact ih h₁ (fun y hy => hdata y (List.mem_cons_of_mem x hy)) hxs

theorem Abstracts.deliver (hP : Announcing P) (h : Abstracts W pending N M) {cAddr : SockAddr}
    {message : List UInt8} {r : ByteNetwork.Network σ × MesgProcessResult}
    (hs : ByteNetwork.deliver P W N side cAddr message = some r) :
    ∃ M', NetComm.deliver P M side cAddr message = some (M', r.2) ∧ Abstracts W pending r.1 M' := by
  obtain ⟨reaction, hreaction, hs⟩ := Option.bind_eq_some_iff.mp hs
  obtain ⟨N', hall, rfl⟩ := Option.map_eq_some_iff.mp hs
  rw [NetComm.deliver, h.parties]
  dsimp only
  rw [hreaction]
  refine ⟨_, rfl, ?_⟩
  have hparty := h.withParty side { N.parties side with
    program := reaction.program
    processed := (N.parties side).processed ++ [message] }
  exact hparty.dispatchAll (hP.dispatches side _ _ _ _ hreaction) hall

theorem length_dispatchAll {dispatches : List (List UInt8 × Bool)}
    (hs : ByteNetwork.dispatchAll P W side dispatches N = some N') :
    N'.conns.length = N.conns.length := by
  induction dispatches generalizing N with
  | nil => rw [Option.some.inj hs]
  | cons x xs ih =>
      obtain ⟨N₁, hx, hxs⟩ := Option.bind_eq_some_iff.mp hs
      rw [ih hxs]
      rw [ByteNetwork.dataPacketSender] at hx
      split at hx
      · rw [ByteNetwork.netBroadcastSend] at hx
        rw [Option.ite_none_left_eq_some] at hx
        rw [← Option.some.inj hx.2]
      · rw [ByteNetwork.clientDataSend] at hx
        dsimp only at hx
        rw [Option.ite_none_left_eq_some] at hx
        obtain ⟨-, hx⟩ := hx
        split at hx
        · rw [← Option.some.inj hx]
          rfl
        · rw [Option.ite_none_left_eq_some] at hx
          rw [← Option.some.inj hx.2]
          exact List.length_map _

theorem length_deliver {cAddr : SockAddr} {message : List UInt8}
    {r : ByteNetwork.Network σ × MesgProcessResult}
    (hs : ByteNetwork.deliver P W N side cAddr message = some r) :
    r.1.conns.length = N.conns.length := by
  obtain ⟨reaction, -, hs⟩ := Option.bind_eq_some_iff.mp hs
  obtain ⟨N', hall, rfl⟩ := Option.map_eq_some_iff.mp hs
  have hlen := length_dispatchAll hall
  exact hlen

theorem only_self (c : Nat) (side : Side) (taken : List (List UInt8)) :
    only c side taken c side = taken := by
  rw [only, Function.update_self, Function.update_self]

theorem only_of_ne {c' : Nat} (h : c' ≠ c) (side : Side) (taken : List (List UInt8)) :
    only c side taken c' = nothing c' := Function.update_of_ne h ..

theorem only_side {side' : Side} (c : Nat) (h : side' ≠ side) (taken : List (List UInt8)) :
    only c side taken c side' = [] := by
  rw [only, Function.update_self, Function.update_of_ne h]

theorem only_nil (c : Nat) (side : Side) : only c side [] = nothing := by
  funext c' side'
  by_cases hc : c' = c
  · subst hc
    by_cases hside : side' = side
    · subst hside
      exact only_self c' side' []
    · exact only_side c' hside []
  · rw [only_of_ne hc]

theorem Abstracts.inputs (hP : Announcing P) (hcipher : Cipher W.encrypt W.decrypt)
    {taken : List (List UInt8)} {cAddr : SockAddr} (h : Abstracts W (only c side taken) N M)
    (hc : c < N.conns.length)
    (hs : ByteNetwork.inputs P W side cAddr (taken.map W.encrypt) N = some N') :
    ∃ M', processMessages P side c cAddr taken.length M = some M' ∧ Abstracts W nothing N' M' := by
  induction taken generalizing N M with
  | nil =>
      obtain rfl := Option.some.inj hs
      rw [only_nil] at h
      exact ⟨M, rfl, h⟩
  | cons message taken ih =>
      have hdec : decrypted W.decrypt (W.encrypt message) false = some message := by
        refine decrypted_eq false ?_ (hcipher.inverse message)
        rw [hcipher.size, Delivery.cipherSize]
        omega
      rw [List.map_cons, ByteNetwork.inputs, hdec] at hs
      obtain ⟨r, hdeliver, hs⟩ := Option.bind_eq_some_iff.mp hs
      obtain ⟨k', hk', hrel⟩ := h.conn (List.getElem?_eq_getElem hc)
      obtain ⟨rest, hinbox, hrep⟩ := hrel.inbox side
      rw [only_self, List.cons_append] at hinbox
      -- the message leaves the inbox before it is processed
      have hnext : Abstracts W (only c side taken) N (M.withConn c (k'.setInbox side (taken ++ rest))) := by
        have hself : N = N.withConn c N.conns[c] := by
          rw [ByteNetwork.Network.withConn, List.set_getElem_self]
        rw [hself]
        refine h.withConn hc (fun c' hne => ?_) ⟨hrel.sockets, fun side' => ?_, hrel.backlog⟩
        · rw [only_of_ne hne, only_of_ne hne]
        · by_cases hside : side' = side
          · subst hside
            refine ⟨rest, ?_, hrep⟩
            rw [Channels.setInbox_self, only_self]
          · obtain ⟨rest', hinbox', hrep'⟩ := hrel.inbox side'
            refine ⟨rest', ?_, hrep'⟩
            rw [Channels.setInbox_of_ne k' hside, hinbox', only_side c hside, only_side c hside]
      obtain ⟨M₁, hM₁, h₁⟩ := hnext.deliver hP hdeliver
      obtain ⟨M', hM', h'⟩ := ih h₁ (by rw [length_deliver hdeliver]; exact hc) hs
      refine ⟨M', ?_, h'⟩
      rw [List.length_cons, processMessages, hk']
      dsimp only
      rw [hinbox]
      dsimp only
      rw [hM₁]
      exact hM'

theorem Abstracts.channelShutdown (h : Abstracts W pending N M) (side : Side) (cAddr : SockAddr)
    (fd : Int) (notifyMesgProc : Bool) :
    Abstracts W pending (ByteNetwork.channelShutdown P N side cAddr fd notifyMesgProc)
      (NetComm.channelShutdown P M side cAddr fd notifyMesgProc) := by
  rw [ByteNetwork.channelShutdown, NetComm.channelShutdown, h.parties]
  exact h.withParty side _

theorem Abstracts.destroyCurrentClient (h : Abstracts W pending N M) (side : Side) (fd : Int) :
    Abstracts W pending (ByteNetwork.destroyCurrentClient N side fd)
      (NetComm.destroyCurrentClient M side fd) :=
  h.onSocket side fd fun _ _ _ hrel => hrel.close side

theorem Abstracts.rejectTalker (h : Abstracts W pending N M) (side : Side) (cAddr : SockAddr) :
    Abstracts W pending (ByteNetwork.rejectTalker P N side cAddr)
      (NetComm.rejectTalker P M side cAddr) := by
  rw [ByteNetwork.rejectTalker, NetComm.rejectTalker, h.parties]
  exact ((h.withComm side _).channelShutdown side cAddr _ false).destroyCurrentClient side _

theorem Abstracts.processUDPInput (hP : Announcing P) (h : Abstracts W nothing N M) {o : Opened}
    {cAddr : SockAddr} {message recBuffer : List UInt8} (hannounce : Announces message)
    (hdec : W.decrypt (recBuffer.take udpBufferSize) = some message)
    (hs : ByteNetwork.processUDPInput P W N side o cAddr recBuffer = some N') :
    ∃ M', NetComm.processUDPInput P M side N.conns.length o.fd
        (talkerAddr W.bigEndian cAddr message) message = some M' ∧ Abstracts W nothing N' M' := by
  have hpeer : ¬ (side = .server ∧ verifyNegotiationMsg message = some .peerServerMsg) := by
    rintro ⟨-, hpeer⟩
    rcases hannounce with ht | ht <;> cases hpeer.symm.trans ht
  rw [ByteNetwork.processUDPInput, hdec] at hs
  dsimp only at hs
  rw [if_neg hpeer] at hs
  rw [NetComm.processUDPInput]
  by_cases hopens : opensTalker side (verifyNegotiationMsg message) = true
  · rw [if_pos hopens] at hs ⊢
    split at hs
    · cases hs
    next hlong =>
      obtain ⟨r, hdeliver, rfl⟩ := Option.map_eq_some_iff.mp hs
      obtain ⟨M', hM', h'⟩ := (h.talker side o).deliver hP hdeliver
      rw [if_neg hlong, hM']
      refine ⟨_, rfl, ?_⟩
      dsimp only
      split
      · exact h'.rejectTalker side _
      · exact h'
  · rw [if_neg hopens] at hs ⊢
    obtain rfl := Option.some.inj hs
    exact ⟨M, rfl, h⟩

theorem withConn_same (hk : M.conns c = some k') : M.withConn c k' = M := by
  rw [NetComm.Network.withConn, ← hk, Function.update_eq_self]

theorem Abstracts.processIncomingData (hP : Announcing P) (hcipher : Cipher W.encrypt W.decrypt)
    (h : Abstracts W nothing N M) (hk : N.conns[c]? = some k) (hlive : k.sockets side = .client fd)
    {cAddr : SockAddr} {n : Nat} (hn : 0 < n) (hle : n ≤ (k.stream side).length) (h4 : n % 4 = 0)
    (hs : ByteNetwork.processIncomingData P W N side c k fd cAddr n = some N') :
    ∃ k' count M', M.conns c = some k' ∧ k'.sockets = k.sockets ∧ k'.inbox side ≠ [] ∧
      processMessages P side c cAddr count
        (M.withComm side (setLastUsedCommChannel (M.parties side).comm fd)) = some M' ∧
      Abstracts W nothing N' M' ∧
      (count = 0 → ∃ info, N'.conns = N.conns.set c (k.setData side ((k.stream side).drop n) info)) := by
  obtain ⟨k', hk', hrel⟩ := h.conn hk
  obtain ⟨inbox, hinbox, hrep⟩ := hrel.inbox side
  rw [nothing, List.nil_append] at hinbox
  have hblocks : ∀ data, (W.encrypt data).length % 8 = 0 := by
    intro data
    rw [hcipher.size, Delivery.cipherSize]
    omega
  obtain ⟨its, info', taken, rest, hread, hdeliveries, rfl, hrest⟩ := hrep.read hblocks hn hle h4
  obtain ⟨r, hr, hs⟩ := Option.bind_eq_some_iff.mp hs
  obtain rfl := Option.some.inj (hread.symm.trans hr)
  have hc : c < N.conns.length := (List.getElem?_eq_some_iff.mp hk).1
  have hcomm := h.withComm side (setLastUsedCommChannel (N.parties side).comm fd)
  -- both levels take what the read brings; the messages of it are pending
  have htaken : Abstracts W (only c side taken)
      ((N.withComm side (setLastUsedCommChannel (N.parties side).comm fd)).withConn c
        (k.setData side ((k.stream side).drop n) info'))
      ((M.withComm side (setLastUsedCommChannel (N.parties side).comm fd)).withConn c k') := by
    refine hcomm.withConn hc (fun c' hne => only_of_ne hne side taken) ?_
    refine ⟨hrel.sockets, fun side' => ?_, fun side' hback => ?_⟩
    · by_cases hside : side' = side
      · subst hside
        refine ⟨rest, by rw [only_self, hinbox], ?_⟩
        rw [ByteNetwork.Connection.setData]
        dsimp only
        rw [Function.update_self, Function.update_self]
        exact hrest
      · obtain ⟨rest', hinbox', hrep'⟩ := hrel.inbox side'
        refine ⟨rest', by rw [only_side c hside, hinbox']; rfl, ?_⟩
        rw [ByteNetwork.Connection.setData]
        dsimp only
        rw [Function.update_of_ne hside, Function.update_of_ne hside]
        exact hrep'
    · by_cases hside : side' = side
      · subst hside
        cases hlive.symm.trans hback
      · rw [ByteNetwork.Connection.setData]
        dsimp only
        rw [Function.update_of_ne hside]
        exact hrel.backlog side' hback
  rw [withConn_same (M := M.withComm side _) hk'] at htaken
  rw [hdeliveries] at hs
  obtain ⟨M', hM', h'⟩ := htaken.inputs hP hcipher ((List.length_set ..).symm ▸ hc) hs
  refine ⟨k', taken.length, M', hk', hrel.sockets, ?_, ?_, h', fun hnone => ⟨info', ?_⟩⟩
  · rw [hinbox]
    exact hrep.ne_nil (List.ne_nil_of_length_pos (by omega))
  · rw [h.parties]
    exact hM'
  · rw [List.length_eq_zero_iff.mp hnone] at hs
    rw [← Option.some.inj hs]
    rfl

theorem accept_simulates (h : Abstracts W nothing N M) {o : Opened}
    (hs : step P W N (.accept side c o) = some N') :
    ∃ k k', N.conns[c]? = some k ∧ M.conns c = some k' ∧ k'.sockets side = .backlog ∧
      NetComm.Unused M side o.fd ∧ N' = ByteNetwork.addFdToClientList N side c k o ∧
      Abstracts W nothing N' (NetComm.addFdToClientList M side c k' o.fd) := by
  obtain ⟨k, hk, hback, hfd, rfl⟩ := step_accept hs
  obtain ⟨k', hk', hrel⟩ := h.conn hk
  refine ⟨k, k', hk, hk', by rw [hrel.sockets]; exact hback, h.unused hfd, rfl, ?_⟩
  have hc : c < N.conns.length := (List.getElem?_eq_some_iff.mp hk).1
  have hlisted := h.withConn hc (fun _ _ => rfl) (hrel.listed hback o.fd o.bufferedData)
  rw [ByteNetwork.addFdToClientList, NetComm.addFdToClientList, h.parties]
  exact hlisted.withComm side _

theorem read_simulates (hP : Announcing P) (hcipher : Cipher W.encrypt W.decrypt)
    (h : Abstracts W nothing N M) {cAddr : SockAddr} {n : Nat} (h4 : n % 4 = 0)
    (hs : step P W N (.read side c cAddr n) = some N') :
    ∃ k k' fd count M', N.conns[c]? = some k ∧ 0 < n ∧ n ≤ (k.stream side).length ∧
      M.conns c = some k' ∧ k'.sockets side = .client fd ∧ k'.inbox side ≠ [] ∧
      processMessages P side c cAddr count
        (M.withComm side (setLastUsedCommChannel (M.parties side).comm fd)) = some M' ∧
      Abstracts W nothing N' M' ∧
      (count = 0 → ∃ info, N'.conns = N.conns.set c (k.setData side ((k.stream side).drop n) info)) := by
  obtain ⟨k, fd, hk, hlive, hn, hle, hread⟩ := step_read hs
  obtain ⟨k', count, M', hk', hsockets, hinbox, hM', h', hnone⟩ :=
    h.processIncomingData hP hcipher hk hlive hn hle h4 hread
  exact ⟨k, k', fd, count, M', hk, hn, hle, hk', by rw [hsockets]; exact hlive, hinbox, hM', h', hnone⟩

theorem eof_simulates (h : Abstracts W nothing N M) {cAddr : SockAddr}
    (hs : step P W N (.eof side c cAddr) = some N') :
    ∃ k' fd, M.conns c = some k' ∧ k'.sockets side = .client fd ∧ k'.sockets side.other = .closed ∧
      k'.inbox side = [] ∧
      N' = ByteNetwork.destroyCurrentClient (ByteNetwork.channelShutdown P N side cAddr fd true) side fd ∧
      Abstracts W nothing N'
        (NetComm.destroyCurrentClient (NetComm.channelShutdown P M side cAddr fd true) side fd) := by
  obtain ⟨k, fd, hk, hlive, hclosed, hstream, rfl⟩ := step_eof hs
  obtain ⟨k', hk', hrel⟩ := h.conn hk
  obtain ⟨inbox, hinbox, hrep⟩ := hrel.inbox side
  rw [hstream] at hrep
  rw [hrep.eq_nil] at hinbox
  exact ⟨k', fd, hk', by rw [hrel.sockets]; exact hlive, by rw [hrel.sockets]; exact hclosed, hinbox,
    rfl, (h.channelShutdown side cAddr fd true).destroyCurrentClient side fd⟩

/-- A step of the bytes is a step of the messages. -/
theorem step_simulates (hP : Announcing P) (hcipher : Cipher W.encrypt W.decrypt) {e : Event}
    (he : e.Whole) (h : Abstracts W nothing N M) (hs : step P W N e = some N') :
    ∃ M', Step P M M' ∧ Abstracts W nothing N' M' := by
  cases e with
  | broadcast side data =>
      obtain ⟨hdata, hs⟩ := step_broadcast hs
      rw [← h.parties] at hdata
      exact ⟨_, .broadcast M side data hdata,
        h.dataPacketSender (fun _ => hP.announcements side _ data hdata) hs⟩
  | datagram side o cAddr recBuffer =>
      obtain ⟨hair, hfd, hs⟩ := step_datagram hs
      rw [← h.air] at hair
      obtain ⟨message, hmem, rfl⟩ := List.mem_map.mp hair
      have hdec : W.decrypt ((W.encrypt message).take udpBufferSize) = some message := by
        rw [List.take_of_length_le he]
        exact hcipher.inverse message
      obtain ⟨M', hM', h'⟩ := h.processUDPInput hP (h.announced message hmem) hdec hs
      exact ⟨M', .datagram M M' side _ o.fd _ message hmem (h.unmade (Nat.le_refl _)) (h.unused hfd) hM',
        h'⟩
  | accept side c o =>
      obtain ⟨-, k', -, hk', hback, hfd, -, h'⟩ := accept_simulates h hs
      exact ⟨_, .accept M side c k' o.fd hk' hback hfd, h'⟩
  | read side c cAddr n =>
      obtain ⟨-, k', fd, count, M', -, -, -, hk', hlive, hinbox, hM', h', -⟩ :=
        read_simulates hP hcipher h he hs
      exact ⟨M', .read M M' side c k' fd cAddr count hk' hlive hinbox hM', h'⟩
  | eof side c cAddr =>
      obtain ⟨k', fd, hk', hlive, hclosed, hinbox, -, h'⟩ := eof_simulates h hs
      exact ⟨_, .eof M side c k' fd cAddr hk' hlive hclosed hinbox, h'⟩

def quiet (parties : (side : Side) → Party (σ side)) : ByteNetwork.Network σ := ⟨parties, [], []⟩

theorem abstracts_quiet (W : Wire) (parties : (side : Side) → Party (σ side)) :
    Abstracts W nothing (quiet parties) ⟨parties, fun _ => none, []⟩ where
  parties := rfl
  conns _ := .none
  air := rfl
  announced _ h := absurd h List.not_mem_nil

theorem run_simulates (hP : Announcing P) (hcipher : Cipher W.encrypt W.decrypt) {es : List Event}
    (hes : ∀ e ∈ es, e.Whole) (h : Abstracts W nothing N M) (hrun : run (step P W) es N = some N') :
    ∃ M', ReflTransGen (Step P) M M' ∧ Abstracts W nothing N' M' := by
  induction es generalizing N M with
  | nil =>
      obtain rfl := Option.some.inj hrun
      exact ⟨M, .refl, h⟩
  | cons e es ih =>
      obtain ⟨N₁, hstep, hrest⟩ := Option.bind_eq_some_iff.mp hrun
      obtain ⟨M₁, hM₁, h₁⟩ := step_simulates hP hcipher (hes e List.mem_cons_self) h hstep
      obtain ⟨M', hM', h'⟩ := ih (fun x hx => hes x (List.mem_cons_of_mem e hx)) h₁ hrest
      exact ⟨M', hM'.head hM₁, h'⟩

end PyConnect.ByteRefinement

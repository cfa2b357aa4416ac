import PyConnect.Discovery

namespace PyConnect.Concealment

open Relation Bytes Common Values ObjComm NetComm Channels Stub Wrapper Handshake Agreement Schedule

def told (messages : List (List UInt8)) : List (List UInt8) :=
  messages.filter fun data => typeOf data ≠ some .moduleDiscovery

/-- Two states of a program that differ in no more than the discoveries that were sent
and processed, and in the channel that was used last. -/
structure Same {σ : Type} (p q : Party σ) : Prop where
  program : p.program = q.program
  objCommMap : p.comm.objCommMap = q.comm.objCommMap
  sent : told p.sent = told q.sent
  processed : told p.processed = told q.processed

/-- A connection that has carried no more than a discovery to the wrapper. -/
structure Apart (serverID : Int) (k : Connection) : Prop where
  listed : ∃ fd, k.sockets .server = .client fd
  live : ∀ side, k.sockets side ≠ .closed
  silent : k.inbox .server = []
  inbox : k.inbox .wrapper = [] ∨ k.inbox .wrapper = [discoveryData serverID]

/-- `A` is `N` without the connections `H`, which neither program has a channel over. -/
structure Without (P : Programs State) (serverID : Int) (H : Nat → Option Connection)
    (A N : Network State) : Prop where
  parties : ∀ side, Same (A.parties side) (N.parties side)
  conns : ∀ c, N.conns c = (H c).or (A.conns c)
  hidden : ∀ c k, H c = some k → A.conns c = none
  apart : ∀ c k, H c = some k → Apart serverID k
  nonneg : ∀ c k side fd, H c = some k → k.sockets side = .client fd → 0 ≤ fd
  own : ∀ c k side fd, H c = some k → k.sockets side = .client fd →
    ∀ c' k', c' ≠ c → N.conns c' = some k' → k'.sockets side ≠ .client fd
  unmapped : ∀ c k side fd, H c = some k → k.sockets side = .client fd →
    ∀ id : Int, (N.parties side).comm.objCommMap[id]? ≠ some fd
  air : ∀ data ∈ N.air, data ∈ A.air
  heard : ∀ c k, H c = some k → k.inbox .wrapper ≠ [] →
    broadcastForm P .server (discoveryData serverID) ∈ A.air

def Foreign (H : Nat → Option Connection) (side : Side) (fd : Int) : Prop :=
  ∀ c k, H c = some k → k.sockets side ≠ .client fd

/-- What the next message claims is the same, and none of the connections. -/
structure Ready (H : Nat → Option Connection) (A N : Network State) (side : Side) : Prop where
  comm : (A.parties side).comm = (N.parties side).comm
  active : Foreign H side (N.parties side).comm.activeCommChannel

/-- What a program itself can see of a connection. -/
def facing (side : Side) (k : Connection) : (Side → Socket) × List (List UInt8) :=
  (k.sockets, k.inbox side)

variable {P : Programs State} {serverID : Int} {H : Nat → Option Connection} {A N N' : Network State}
  {side : Side} {c : Nat} {k k' : Connection} {fd : Int} {cAddr : SockAddr} {data : List UInt8}

theorem Same.refl {σ : Type} (p : Party σ) : Same p p := ⟨rfl, rfl, rfl, rfl⟩

theorem ended_unmapped (h : Wired N) (hc : N.conns c = some k) (hk : k.sockets side = .client fd)
    (hother : k.sockets side.other = .closed) (id : Int) :
    (N.parties side).comm.objCommMap[id]? ≠ some fd := by
  intro hmap
  obtain ⟨c', k', hc', hk', hlive⟩ := h.mapped side id fd hmap
  obtain rfl := h.distinct side c c' k k' fd hc hc' hk hk'
  obtain rfl := Option.some.inj (hc.symm.trans hc')
  exact hlive side.other hother

theorem told_append (xs ys : List (List UInt8)) : told (xs ++ ys) = told xs ++ told ys :=
  List.filter_append ..

theorem told_congr {xs ys : List (List UInt8)} (h : told xs = told ys) (zs : List (List UInt8)) :
    told (xs ++ zs) = told (ys ++ zs) := by
  rw [told_append, told_append, h]

section Facing

theorem facing_write (k : Connection) (side : Side) (data : List UInt8) :
    facing side (k.write side data) = facing side k := by
  rw [facing, write_inbox_self]
  rfl

theorem facing_dataPacketSender (P : Programs State) (N : Network State) (side : Side)
    (data : List UInt8) (broadcast : Bool) (c : Nat) :
    ((dataPacketSender P N side data broadcast).conns c).map (facing side) =
      (N.conns c).map (facing side) := by
  have hwrite : ∀ (M : Network State) (fd : Int), M.conns = N.conns →
      ((M.onSocket side fd (·.write side data)).conns c).map (facing side) =
        (N.conns c).map (facing side) := by
    intro M fd hM
    rw [Network.onSocket, hM, Option.map_map]
    cases N.conns c with
    | none => rfl
    | some k =>
        refine congrArg some ?_
        dsimp only [Function.comp]
        split
        · exact facing_write k side data
        · rfl
  rw [dataPacketSender]
  split
  · rfl
  · rw [clientDataSend]
    dsimp only
    split
    · rfl
    · exact hwrite _ _ rfl

theorem facing_deliver {r : Network State × MesgProcessResult}
    (hr : deliver P N side cAddr data = some r) (c : Nat) :
    (r.1.conns c).map (facing side) = (N.conns c).map (facing side) := by
  obtain ⟨reaction, -, rfl⟩ := of_deliver hr
  have hfold : ∀ (dispatches : List (List UInt8 × Bool)) (M : Network State),
      ((dispatches.foldl (fun N x => dataPacketSender P N side x.1 x.2) M).conns c).map (facing side) =
        (M.conns c).map (facing side) := by
    intro dispatches
    induction dispatches with
    | nil => exact fun M => rfl
    | cons x xs ih => exact fun M => (ih _).trans (facing_dataPacketSender P M side x.1 x.2 c)
  exact hfold _ _

theorem conn_deliver {r : Network State × MesgProcessResult}
    (hr : deliver P N side cAddr data = some r) (hc : N.conns c = some k) :
    ∃ k', r.1.conns c = some k' ∧ k'.sockets = k.sockets ∧ k'.inbox side = k.inbox side := by
  have hfacing := facing_deliver hr c
  rw [hc, Option.map_some] at hfacing
  obtain ⟨k', hk', heq⟩ := Option.map_eq_some_iff.mp hfacing
  exact ⟨k', hk', congrArg Prod.fst heq, congrArg Prod.snd heq⟩

end Facing

section Frame

theorem Without.visible (h : Without P serverID H A N) (hc : H c = none) : N.conns c = A.conns c := by
  rw [h.conns c, hc, Option.none_or]

theorem Without.conn (h : Without P serverID H A N) (hc : A.conns c = some k) :
    H c = none ∧ N.conns c = some k := by
  have hnone : H c = none := by
    cases hH : H c with
    | none => rfl
    | some k' =>
        rw [h.hidden c k' hH] at hc
        cases hc
  exact ⟨hnone, (h.visible hnone).trans hc⟩

theorem Without.conn_hidden (h : Without P serverID H A N) (hc : H c = some k) :
    N.conns c = some k := by
  rw [h.conns c, hc, Option.some_or]

theorem Without.absent (h : Without P serverID H A N) (hc : N.conns c = none) :
    H c = none ∧ A.conns c = none := by
  rw [h.conns c] at hc
  exact Option.or_eq_none_iff.mp hc

theorem Without.unused (h : Without P serverID H A N) (hfd : Unused N side fd) :
    Unused A side fd ∧ Foreign H side fd :=
  ⟨⟨hfd.1, fun c k hc => hfd.2 c k (h.conn hc).2⟩, fun c k hc => hfd.2 c k (h.conn_hidden hc)⟩

theorem Without.foreign (h : Without P serverID H A N) (hc : A.conns c = some k)
    (hk : k.sockets side = .client fd) : Foreign H side fd := by
  intro c' k' hc' hk'
  obtain ⟨hnone, hN⟩ := h.conn hc
  refine h.own c' k' side fd hc' hk' c k ?_ hN hk
  rintro rfl
  rw [hnone] at hc'
  cases hc'

theorem Without.foreign_mapped (h : Without P serverID H A N) (id : Int)
    (hmap : (N.parties side).comm.objCommMap[id]? = some fd) : Foreign H side fd :=
  fun c k hc hk => h.unmapped c k side fd hc hk id hmap

theorem Without.foreign_invalid (h : Without P serverID H A N) : Foreign H side invalidSocket := by
  intro c k hc hk
  exact absurd (h.nonneg c k side _ hc hk) (by decide)

theorem Without.withParty (h : Without P serverID H A N) (side : Side) {p q : Party (State side)}
    (hpq : Same p q)
    (hmap : ∀ id fd : Int, q.comm.objCommMap[id]? = some fd → Foreign H side fd) :
    Without P serverID H (A.withParty side p) (N.withParty side q) := by
  refine ⟨fun side' => ?_, h.conns, h.hidden, h.apart, h.nonneg, h.own,
    fun c k side' fd hc hk id hmapped => ?_, h.air, h.heard⟩
  · by_cases he : side' = side
    · subst he
      rw [withParty_self, withParty_self]
      exact hpq
    · rw [withParty_of_ne A he, withParty_of_ne N he]
      exact h.parties side'
  · by_cases he : side' = side
    · subst he
      rw [withParty_self] at hmapped
      exact hmap id fd hmapped c k hc hk
    · rw [withParty_of_ne N he] at hmapped
      exact h.unmapped c k side' fd hc hk id hmapped

theorem Without.withComm (h : Without P serverID H A N) (side : Side) (comm comm' : ObjectComm)
    (hA : comm.objCommMap = (A.parties side).comm.objCommMap)
    (hN : comm'.objCommMap = (N.parties side).comm.objCommMap) :
    Without P serverID H (A.withComm side comm) (N.withComm side comm') := by
  obtain ⟨hprogram, hmap, hsent, hprocessed⟩ := h.parties side
  refine h.withParty side ⟨hprogram, hA.trans (hmap.trans hN.symm), hsent, hprocessed⟩ fun id fd hfd => ?_
  exact h.foreign_mapped id (hN ▸ hfd)

theorem withComm_eta (N : Network State) (side : Side) : N.withComm side (N.parties side).comm = N :=
  withParty_eta N side

theorem Without.withAir (h : Without P serverID H A N) {air air' : List (List UInt8)}
    (hA : ∀ data ∈ A.air, data ∈ air) (hN : ∀ data ∈ air', data ∈ air) :
    Without P serverID H { A with air := air } { N with air := air' } :=
  ⟨h.parties, h.conns, h.hidden, h.apart, h.nonneg, h.own, h.unmapped, hN,
    fun c k hc hk => hA _ (h.heard c k hc hk)⟩

theorem Without.hide (h : Without P serverID H A N) (hc : A.conns c = none) (hk : Apart serverID k)
    (hnonneg : ∀ side fd, k.sockets side = .client fd → 0 ≤ fd)
    (hown : ∀ side fd, k.sockets side = .client fd →
      ∀ c' k', c' ≠ c → N.conns c' = some k' → k'.sockets side ≠ .client fd)
    (hunmapped : ∀ side fd, k.sockets side = .client fd →
      ∀ id : Int, (N.parties side).comm.objCommMap[id]? ≠ some fd)
    (hheard : k.inbox .wrapper ≠ [] → broadcastForm P .server (discoveryData serverID) ∈ A.air) :
    Without P serverID (Function.update H c (some k)) A (N.withConn c k) := by
  have hcases : ∀ c' k', Function.update H c (some k) c' = some k' →
      (c' = c ∧ k' = k) ∨ (c' ≠ c ∧ H c' = some k') := by
    intro c' k' hc'
    by_cases he : c' = c
    · subst he
      rw [Function.update_self] at hc'
      exact .inl ⟨rfl, (Option.some.inj hc').symm⟩
    · rw [Function.update_of_ne he] at hc'
      exact .inr ⟨he, hc'⟩
  refine ⟨h.parties, fun c' => ?_, fun c' k' hc' => ?_, fun c' k' hc' => ?_,
    fun c' k' side fd hc' hk' => ?_, fun c' k' side fd hc' hk' c'' k'' hne hc'' => ?_,
    fun c' k' side fd hc' hk' => ?_, h.air, fun c' k' hc' hk' => ?_⟩
  · by_cases he : c' = c
    · subst he
      rw [withConn_self, Function.update_self, Option.some_or]
    · rw [withConn_of_ne N he, Function.update_of_ne he]
      exact h.conns c'
  · rcases hcases c' k' hc' with ⟨rfl, rfl⟩ | ⟨-, hc'⟩
    · exact hc
    · exact h.hidden c' k' hc'
  · rcases hcases c' k' hc' with ⟨rfl, rfl⟩ | ⟨-, hc'⟩
    · exact hk
    · exact h.apart c' k' hc'
  · rcases hcases c' k' hc' with ⟨rfl, rfl⟩ | ⟨-, hc'⟩
    · exact hnonneg side fd hk'
    · exact h.nonneg c' k' side fd hc' hk'
  · rcases hcases c' k' hc' with ⟨rfl, rfl⟩ | ⟨hne', hH⟩
    · rw [withConn_of_ne N hne] at hc''
      exact hown side fd hk' c'' k'' hne hc''
    · rcases withConn_cases hc'' with ⟨rfl, rfl⟩ | ⟨-, hc''⟩
      · exact fun heq => hown side fd heq c' k' hne' (h.conn_hidden hH) hk'
      · exact h.own c' k' side fd hH hk' c'' k'' hne hc''
  · rcases hcases c' k' hc' with ⟨rfl, rfl⟩ | ⟨-, hc'⟩
    · exact hunmapped side fd hk'
    · exact h.unmapped c' k' side fd hc' hk'
  · rcases hcases c' k' hc' with ⟨rfl, rfl⟩ | ⟨-, hc'⟩
    · exact hheard hk'
    · exact h.heard c' k' hc' hk'

theorem Without.emptied (h : Without P serverID H A N) (hc : H c = some k) :
    Without P serverID (Function.update H c (some (k.setInbox .wrapper []))) A
      (N.withConn c (k.setInbox .wrapper [])) := by
  obtain ⟨hlisted, hlive, hsilent, -⟩ := h.apart c k hc
  refine h.hide (h.hidden c k hc) ⟨hlisted, hlive, ?_, .inl (setInbox_self ..)⟩
    (fun side fd hk => h.nonneg c k side fd hc hk) (fun side fd hk => h.own c k side fd hc hk)
    (fun side fd hk => h.unmapped c k side fd hc hk) fun hne => absurd (setInbox_self ..) hne
  rw [setInbox_of_ne k server_ne_wrapper]
  exact hsilent

theorem Without.reveal (h : Without P serverID H A N) (hc : H c = some k) (k' : Connection)
    (hk : ∀ side fd, k'.sockets side = .client fd → k.sockets side = .client fd) :
    Without P serverID (Function.update H c none) (A.withConn c k') (N.withConn c k') := by
  have hcases : ∀ c' k₁, Function.update H c none c' = some k₁ → c' ≠ c ∧ H c' = some k₁ := by
    intro c' k₁ hc'
    by_cases he : c' = c
    · subst he
      rw [Function.update_self] at hc'
      cases hc'
    · rw [Function.update_of_ne he] at hc'
      exact ⟨he, hc'⟩
  refine ⟨h.parties, fun c' => ?_, fun c' k₁ hc' => ?_, fun c' k₁ hc' => h.apart c' k₁ (hcases c' k₁ hc').2,
    fun c' k₁ side fd hc' => h.nonneg c' k₁ side fd (hcases c' k₁ hc').2,
    fun c' k₁ side fd hc' hk₁ c'' k'' hne hc'' => ?_,
    fun c' k₁ side fd hc' => h.unmapped c' k₁ side fd (hcases c' k₁ hc').2, h.air,
    fun c' k₁ hc' => h.heard c' k₁ (hcases c' k₁ hc').2⟩
  · by_cases he : c' = c
    · subst he
      rw [withConn_self, withConn_self, Function.update_self, Option.none_or]
    · rw [withConn_of_ne N he, withConn_of_ne A he, Function.update_of_ne he]
      exact h.conns c'
  · obtain ⟨he, hc'⟩ := hcases c' k₁ hc'
    rw [withConn_of_ne A he]
    exact h.hidden c' k₁ hc'
  · obtain ⟨he, hH⟩ := hcases c' k₁ hc'
    rcases withConn_cases hc'' with ⟨rfl, rfl⟩ | ⟨-, hc''⟩
    · exact fun heq => h.own c' k₁ side fd hH hk₁ c'' k hne (h.conn_hidden hc) (hk side fd heq)
    · exact h.own c' k₁ side fd hH hk₁ c'' k'' hne hc''

theorem Without.withConn (h : Without P serverID H A N) (hc : H c = none)
    (hk : ∀ side fd, k.sockets side = .client fd → Foreign H side fd) :
    Without P serverID H (A.withConn c k) (N.withConn c k) := by
  have hne : ∀ c' k', H c' = some k' → c' ≠ c := by
    rintro c' k' hc' rfl
    rw [hc] at hc'
    cases hc'
  refine ⟨h.parties, fun c' => ?_, fun c' k' hc' => ?_, h.apart, h.nonneg,
    fun c' k' side fd hc' hk' c'' k'' hne' hc'' => ?_, h.unmapped, h.air, h.heard⟩
  · by_cases he : c' = c
    · subst he
      rw [withConn_self, withConn_self, hc, Option.none_or]
    · rw [withConn_of_ne N he, withConn_of_ne A he]
      exact h.conns c'
  · rw [withConn_of_ne A (hne c' k' hc')]
    exact h.hidden c' k' hc'
  · rcases withConn_cases hc'' with ⟨rfl, rfl⟩ | ⟨-, hc''⟩
    · exact fun heq => hk side fd heq c' k' hc' hk'
    · exact h.own c' k' side fd hc' hk' c'' k'' hne' hc''

theorem onSocket_client {f : Connection → Connection}
    (hf : ∀ k side' fd', (f k).sockets side' = .client fd' → k.sockets side' = .client fd')
    (hc : (N.onSocket side fd f).conns c = some k') :
    ∃ k, N.conns c = some k ∧
      ∀ side' fd', k'.sockets side' = .client fd' → k.sockets side' = .client fd' := by
  obtain ⟨k, hk, rfl⟩ := Option.map_eq_some_iff.mp hc
  refine ⟨k, hk, ?_⟩
  split
  · exact hf k
  · exact fun _ _ h => h

theorem Without.onSocket (h : Without P serverID H A N) (hfd : Foreign H side fd)
    {f : Connection → Connection}
    (hf : ∀ k side' fd', (f k).sockets side' = .client fd' → k.sockets side' = .client fd') :
    Without P serverID H (A.onSocket side fd f) (N.onSocket side fd f) := by
  refine ⟨h.parties, fun c => ?_, fun c k hc => ?_, h.apart, h.nonneg,
    fun c k side' fd' hc hk c' k' hne hc' => ?_, h.unmapped, h.air, h.heard⟩
  · simp only [Network.onSocket]
    rw [h.conns c]
    cases hc : H c with
    | none => rw [Option.none_or, Option.none_or]
    | some k => rw [Option.some_or, Option.some_or, Option.map_some, if_neg (hfd c k hc)]
  · simp only [Network.onSocket]
    rw [h.hidden c k hc]
    rfl
  · obtain ⟨k₀, hk₀, hclient⟩ := onSocket_client hf hc'
    exact fun heq => h.own c k side' fd' hc hk c' k₀ hne hk₀ (hclient side' fd' heq)

end Frame

section Programs

theorem findOrAdd_from (side : Side) {comm : ObjectComm} (Q : Int → Prop) (data : List UInt8)
    (hmap : ∀ id fd : Int, comm.objCommMap[id]? = some fd → Q fd) (hactive : Q comm.activeCommChannel)
    (hinvalid : Q invalidSocket) :
    (∀ id fd : Int, (findOrAddCommChanByMsgID side comm data).1.objCommMap[id]? = some fd → Q fd) ∧
      Q (findOrAddCommChanByMsgID side comm data).1.activeCommChannel ∧
        Q (findOrAddCommChanByMsgID side comm data).2 := by
  rw [findOrAddCommChanByMsgID]
  dsimp only [getLastUsedCommChannel]
  split
  · split
    · refine ⟨fun id fd hfd => ?_, hinvalid, hactive⟩
      dsimp only at hfd
      rw [Maps.get_insert] at hfd
      split at hfd
      · rwa [← Option.some.inj hfd]
      · exact hmap id fd hfd
    · exact ⟨hmap, hinvalid, hactive⟩
  · split
    · exact ⟨hmap, hinvalid, hactive⟩
    · refine ⟨hmap, hactive, ?_⟩
      cases hid : comm.objCommMap[objID side data]? with
      | none => exact hinvalid
      | some fd => exact hmap _ fd hid

theorem Without.clientDataSend (h : Without P serverID H A N) (hready : Ready H A N side)
    (data : List UInt8) :
    Without P serverID H (clientDataSend A side data) (clientDataSend N side data) ∧
      Ready H (clientDataSend A side data) (clientDataSend N side data) side := by
  obtain ⟨hmap, hactive, hsock⟩ := findOrAdd_from side (Foreign H side) data
    (fun id fd hfd => h.foreign_mapped id hfd) hready.active h.foreign_invalid
  obtain ⟨hprogram, -, hsent, hprocessed⟩ := h.parties side
  rw [NetComm.clientDataSend, NetComm.clientDataSend, hready.comm]
  dsimp only
  have hparty := h.withParty side (p := { A.parties side with
      comm := (findOrAddCommChanByMsgID side (N.parties side).comm data).1
      sent := (A.parties side).sent ++ [data] })
    (q := { N.parties side with
      comm := (findOrAddCommChanByMsgID side (N.parties side).comm data).1
      sent := (N.parties side).sent ++ [data] })
    ⟨hprogram, rfl, told_congr hsent _, hprocessed⟩ hmap
  have hready' : ∀ A' N' : Network State,
      A'.parties side = { A.parties side with
        comm := (findOrAddCommChanByMsgID side (N.parties side).comm data).1
        sent := (A.parties side).sent ++ [data] } →
      N'.parties side = { N.parties side with
        comm := (findOrAddCommChanByMsgID side (N.parties side).comm data).1
        sent := (N.parties side).sent ++ [data] } → Ready H A' N' side := by
    intro A' N' hA hN
    refine ⟨by rw [hA, hN], ?_⟩
    rw [hN]
    exact hactive
  split
  · exact ⟨hparty, hready' _ _ (withParty_self ..) (withParty_self ..)⟩
  · refine ⟨hparty.onSocket hsock ?_, hready' _ _ (withParty_self ..) (withParty_self ..)⟩
    exact fun _ _ _ h => h

theorem Without.broadcast (h : Without P serverID H A N) (data : List UInt8) :
    Without P serverID H (dataPacketSender P A side data true) (dataPacketSender P N side data true) := by
  refine h.withAir (fun packet hpacket => List.mem_append_left _ hpacket) fun packet hpacket => ?_
  rcases List.mem_append.mp hpacket with hpacket | hpacket
  · exact List.mem_append_left _ (h.air packet hpacket)
  · exact List.mem_append_right _ hpacket

theorem Without.dataPacketSender (h : Without P serverID H A N) (hready : Ready H A N side)
    (data : List UInt8) (broadcast : Bool) :
    Without P serverID H (dataPacketSender P A side data broadcast)
        (dataPacketSender P N side data broadcast) ∧
      Ready H (dataPacketSender P A side data broadcast) (dataPacketSender P N side data broadcast)
        side := by
  cases broadcast with
  | true => exact ⟨h.broadcast data, hready.comm, hready.active⟩
  | false => exact h.clientDataSend hready data

theorem Without.deliver (h : Without P serverID H A N) (hready : Ready H A N side)
    {r : Network State × MesgProcessResult} (hr : deliver P N side cAddr data = some r) :
    ∃ r', NetComm.deliver P A side cAddr data = some r' ∧ r'.2 = r.2 ∧
      Without P serverID H r'.1 r.1 ∧ Ready H r'.1 r.1 side := by
  obtain ⟨reaction, hreaction, rfl⟩ := of_deliver hr
  obtain ⟨hprogram, hmap, hsent, hprocessed⟩ := h.parties side
  have hfold : ∀ (dispatches : List (List UInt8 × Bool)) (A N : Network State),
      Without P serverID H A N → Ready H A N side →
      Without P serverID H (dispatches.foldl (fun N x => NetComm.dataPacketSender P N side x.1 x.2) A)
          (dispatches.foldl (fun N x => NetComm.dataPacketSender P N side x.1 x.2) N) ∧
        Ready H (dispatches.foldl (fun N x => NetComm.dataPacketSender P N side x.1 x.2) A)
          (dispatches.foldl (fun N x => NetComm.dataPacketSender P N side x.1 x.2) N) side := by
    intro dispatches
    induction dispatches with
    | nil => exact fun A N h hready => ⟨h, hready⟩
    | cons x xs ih =>
        intro A N h hready
        obtain ⟨h', hready'⟩ := h.dataPacketSender hready x.1 x.2
        exact ih _ _ h' hready'
  rw [NetComm.deliver, hprogram, hreaction]
  refine ⟨_, rfl, rfl, ?_⟩
  apply hfold
  · refine h.withParty side ⟨rfl, hmap, hsent, told_congr hprocessed _⟩ ?_
    exact fun id fd hfd => h.foreign_mapped id hfd
  · refine ⟨?_, ?_⟩
    · rw [withParty_self, withParty_self]
      exact hready.comm
    · rw [withParty_self]
      exact hready.active

theorem Without.processMessages {n : Nat} : ∀ {A N : Network State}, Without P serverID H A N →
    Ready H A N side → H c = none → processMessages P side c cAddr n N = some N' →
    ∃ A', NetComm.processMessages P side c cAddr n A = some A' ∧ Without P serverID H A' N' := by
  induction n with
  | zero =>
      intro A N h _ _ hr
      obtain rfl := Option.some.inj hr
      exact ⟨A, rfl, h⟩
  | succ n ih =>
      intro A N h hready hc hr
      have hvisible := h.visible hc
      rw [NetComm.processMessages] at hr
      rw [NetComm.processMessages, ← hvisible]
      split at hr
      next => cases hr
      next k hk =>
        rw [hk] at hvisible
        split at hr
        next => cases hr
        next message inbox hinbox =>
          split at hr
          next => cases hr
          next r hdeliver =>
            have hpop : Without P serverID H (A.withConn c (k.setInbox side inbox))
                (N.withConn c (k.setInbox side inbox)) :=
              h.withConn hc fun side' fd hfd => h.foreign hvisible.symm hfd
            obtain ⟨r', hdeliver', -, h', hready'⟩ := hpop.deliver ⟨hready.comm, hready.active⟩ hdeliver
            rw [hdeliver']
            exact ih h' hready' hc hr

theorem Without.destroyCurrentClient (h : Without P serverID H A N) (hfd : Foreign H side fd) :
    Without P serverID H (destroyCurrentClient A side fd) (destroyCurrentClient N side fd) := by
  refine h.onSocket hfd fun k side' fd' hk => ?_
  by_cases he : side' = side
  · subst he
    rw [setSocket_self] at hk
    cases hk
  · rwa [setSocket_of_ne k he] at hk

theorem Without.channelShutdown (h : Without P serverID H A N)
    (hcomm : (A.parties side).comm = (N.parties side).comm) (cAddr : SockAddr) (fd : Int)
    (notifyMesgProc : Bool) :
    Without P serverID H (channelShutdown P A side cAddr fd notifyMesgProc)
      (channelShutdown P N side cAddr fd notifyMesgProc) := by
  obtain ⟨hprogram, hmap, hsent, hprocessed⟩ := h.parties side
  rw [NetComm.channelShutdown, NetComm.channelShutdown, hcomm, hprogram]
  refine h.withParty side ⟨rfl, rfl, hsent, hprocessed⟩ fun id fd' hfd' => ?_
  dsimp only [objCommChannelShutdown] at hfd'
  split at hfd'
  · exact h.foreign_mapped id hfd'
  · dsimp only at hfd'
    rw [Maps.get_erase] at hfd'
    split at hfd'
    · cases hfd'
    · exact h.foreign_mapped id hfd'

theorem Without.rejectTalker (h : Without P serverID H A N) (hready : Ready H A N side)
    (cAddr : SockAddr) :
    Without P serverID H (rejectTalker P A side cAddr) (rejectTalker P N side cAddr) := by
  obtain ⟨hprogram, hmap, hsent, hprocessed⟩ := h.parties side
  have htaken : Without P serverID H
      (A.withComm side (getLastUsedCommChannel (N.parties side).comm).1)
      (N.withComm side (getLastUsedCommChannel (N.parties side).comm).1) := by
    refine h.withParty side ⟨hprogram, rfl, hsent, hprocessed⟩ fun id fd hfd => ?_
    exact h.foreign_mapped id hfd
  rw [NetComm.rejectTalker, NetComm.rejectTalker, hready.comm]
  refine (htaken.channelShutdown ?_ cAddr _ false).destroyCurrentClient hready.active
  rw [Network.withComm, Network.withComm, withParty_self, withParty_self]

theorem Without.addFdToClientList (h : Without P serverID H A N) (hc : H c = none)
    (hfd : Unused N side fd) (hk : ∀ side' fd', side' ≠ side → k.sockets side' = .client fd' →
      Foreign H side' fd') :
    Without P serverID H (addFdToClientList A side c k fd) (addFdToClientList N side c k fd) ∧
      Ready H (addFdToClientList A side c k fd) (addFdToClientList N side c k fd) side := by
  obtain ⟨hprogram, hmap, hsent, hprocessed⟩ := h.parties side
  have hforeign := (h.unused hfd).2
  have hconn : Without P serverID H (A.withConn c (k.setSocket side (.client fd)))
      (N.withConn c (k.setSocket side (.client fd))) := by
    refine h.withConn hc fun side' fd' hk' => ?_
    by_cases he : side' = side
    · subst he
      rw [setSocket_self] at hk'
      exact Socket.client.inj hk' ▸ hforeign
    · rw [setSocket_of_ne k he] at hk'
      exact hk side' fd' he hk'
  have hcomm : ∀ M : Network State, (NetComm.addFdToClientList M side c k fd).parties side =
      { M.parties side with comm := ⟨(M.parties side).comm.objCommMap, fd⟩ } :=
    fun M => listed_party M side c k fd
  refine ⟨hconn.withParty side ⟨hprogram, hmap, hsent, hprocessed⟩ fun id fd' hfd' =>
    h.foreign_mapped id hfd', ?_, ?_⟩
  · rw [hcomm, hcomm, hmap]
  · rw [hcomm]
    exact hforeign

theorem Without.processUDPInput (h : Without P serverID H A N) (hc : N.conns c = none)
    (hfd : Unused N side fd) {recBuffer : List UInt8}
    (hr : processUDPInput P N side c fd cAddr recBuffer = some N') :
    ∃ A', NetComm.processUDPInput P A side c fd cAddr recBuffer = some A' ∧
      Without P serverID H A' N' := by
  rw [NetComm.processUDPInput] at hr ⊢
  split at hr
  · split at hr
    · cases hr
    next hopens hlen =>
      obtain ⟨r, hdeliver, rfl⟩ := Option.map_eq_some_iff.mp hr
      obtain ⟨hlisted, hready⟩ := h.addFdToClientList (k := .fresh) (h.absent hc).1 hfd
        fun side' fd' _ hk => by cases hk
      obtain ⟨r', hdeliver', hresult, hr', hready'⟩ := hlisted.deliver hready hdeliver
      rw [if_pos hopens, if_neg hlen, createTCPTalker, hdeliver', Option.map_some, hresult]
      refine ⟨_, rfl, ?_⟩
      split
      · exact hr'.rejectTalker hready' cAddr
      · exact hr'
  next hopens =>
    obtain rfl := Option.some.inj hr
    rw [if_neg hopens]
    exact ⟨A, rfl, h⟩

theorem Without.wired (h : Without P serverID H A N) (hw : Wired A) : Wired N := by
  have hcases : ∀ c k, N.conns c = some k → H c = some k ∨ A.conns c = some k := by
    intro c k hc
    rw [h.conns c] at hc
    exact (Option.or_eq_some_iff.mp hc).imp id And.right
  constructor
  · intro side c k fd hc hk
    rcases hcases c k hc with hH | hA
    · exact h.nonneg c k side fd hH hk
    · exact hw.nonneg side c k fd hA hk
  · intro side c c' k k' fd hc hc' hk hk'
    by_contra hne
    rcases hcases c k hc with hH | hA
    · exact h.own c k side fd hH hk c' k' (Ne.symm hne) hc' hk'
    · rcases hcases c' k' hc' with hH' | hA'
      · exact h.own c' k' side fd hH' hk' c k hne hc hk
      · exact hne (hw.distinct side c c' k k' fd hA hA' hk hk')
  · rintro c k hc ⟨side, hclosed⟩
    rcases hcases c k hc with hH | hA
    · exact absurd hclosed ((h.apart c k hH).live side)
    · exact hw.idle c k hA ⟨side, hclosed⟩
  · intro side id fd hmap
    rw [← (h.parties side).objCommMap] at hmap
    obtain ⟨c, k, hc, hk, hlive⟩ := hw.mapped side id fd hmap
    exact ⟨c, k, (h.conn hc).2, hk, hlive⟩

theorem without_nothing (P : Programs State) (serverID : Int) (N : Network State) :
    Without P serverID (fun _ => none) N N := by
  refine ⟨fun side => .refl _, fun c => (Option.none_or ..).symm, ?_, ?_, ?_, ?_, ?_, fun _ h => h, ?_⟩
  all_goals
    intro c k
    intros
    contradiction

theorem told_filter {t : PyConnectMsg} (ht : t ≠ .moduleDiscovery) (xs : List (List UInt8)) :
    (told xs).filter (fun data => typeOf data = some t) = xs.filter fun data => typeOf data = some t := by
  rw [told, List.filter_filter]
  refine List.filter_congr fun data _ => ?_
  by_cases h : typeOf data = some t
  · simp [h, ht]
  · simp [h]

theorem Without.agreed (h : Without P serverID H A N) {id : Int} (hagreed : Agreed serverID A id) :
    Agreed serverID N id := by
  obtain ⟨info, fd, fd', c, k, hinfo, hid, hmap, hmap', hc, hk, hk'⟩ := hagreed
  have hw := h.parties .wrapper
  have hs := h.parties .server
  refine ⟨info, fd, fd', c, k, ?_, hid, ?_, ?_, (h.conn hc).2, hk, hk'⟩
  · rw [← hw.program]
    exact hinfo
  · rw [← hw.objCommMap]
    exact hmap
  · rw [← hs.objCommMap]
    exact hmap'

end Programs

end PyConnect.Concealment

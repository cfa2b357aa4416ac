import PyConnect.NetComm
import PyConnect.Maps

namespace PyConnect.Channels

open Common ObjComm NetComm Stub

variable {σ : Side → Type} {N : Network σ} {side : Side} {c c' : Nat} {k k' : Connection} {fd : Int}
  {data : List UInt8}

theorem other_ne (side : Side) : side.other ≠ side := by
  cases side <;> decide

@[simp] theorem withParty_self (N : Network σ) (side : Side) (p : Party (σ side)) :
    (N.withParty side p).parties side = p := Function.update_self ..

theorem withParty_of_ne (N : Network σ) {side side' : Side} (h : side' ≠ side)
    (p : Party (σ side)) : (N.withParty side p).parties side' = N.parties side' :=
  Function.update_of_ne h ..

@[simp] theorem withParty_withParty (N : Network σ) (side : Side) (p p' : Party (σ side)) :
    (N.withParty side p).withParty side p' = N.withParty side p' := by
  rw [Network.withParty, Network.withParty, Function.update_idem, Network.withParty]

@[simp] theorem withConn_parties (N : Network σ) (c : Nat) (k : Connection) :
    (N.withConn c k).parties = N.parties := rfl

@[simp] theorem withConn_self (N : Network σ) (c : Nat) (k : Connection) :
    (N.withConn c k).conns c = some k := Function.update_self ..

theorem withConn_of_ne (N : Network σ) (h : c' ≠ c) (k : Connection) :
    (N.withConn c k).conns c' = N.conns c' := Function.update_of_ne h ..

@[simp] theorem withConn_withConn (N : Network σ) (c : Nat) (k k' : Connection) :
    (N.withConn c k).withConn c k' = N.withConn c k' := by
  rw [Network.withConn, Network.withConn, Function.update_idem, Network.withConn]

theorem withConn_withParty (N : Network σ) (c : Nat) (k : Connection) (side : Side)
    (p : Party (σ side)) : (N.withConn c k).withParty side p = (N.withParty side p).withConn c k := rfl

theorem withConn_cases (h : (N.withConn c k).conns c' = some k') :
    (c' = c ∧ k' = k) ∨ (c' ≠ c ∧ N.conns c' = some k') := by
  by_cases hc : c' = c
  · subst hc
    rw [withConn_self] at h
    exact .inl ⟨rfl, (Option.some.inj h).symm⟩
  · rw [withConn_of_ne N hc] at h
    exact .inr ⟨hc, h⟩

@[simp] theorem setSocket_self (k : Connection) (side : Side) (s : Socket) :
    (k.setSocket side s).sockets side = s := Function.update_self ..

theorem setSocket_of_ne (k : Connection) {side side' : Side} (h : side' ≠ side) (s : Socket) :
    (k.setSocket side s).sockets side' = k.sockets side' := Function.update_of_ne h ..

@[simp] theorem setSocket_inbox (k : Connection) (side : Side) (s : Socket) :
    (k.setSocket side s).inbox = k.inbox := rfl

@[simp] theorem setInbox_self (k : Connection) (side : Side) (inbox : List (List UInt8)) :
    (k.setInbox side inbox).inbox side = inbox := Function.update_self ..

theorem setInbox_of_ne (k : Connection) {side side' : Side} (h : side' ≠ side)
    (inbox : List (List UInt8)) : (k.setInbox side inbox).inbox side' = k.inbox side' :=
  Function.update_of_ne h ..

@[simp] theorem write_inbox (k : Connection) (side : Side) (data : List UInt8) :
    (k.write side data).inbox side.other = k.inbox side.other ++ [data] := Function.update_self ..

theorem write_inbox_self (k : Connection) (side : Side) (data : List UInt8) :
    (k.write side data).inbox side = k.inbox side := Function.update_of_ne (other_ne side).symm ..

theorem verifyNegotiationMsg_eq (x : UInt8) (rest : List UInt8) :
    verifyNegotiationMsg (x :: (rest ++ [msgEnd])) = PyConnectMsg.ofCode (msgTypeOf x) := by
  rw [verifyNegotiationMsg, ← List.cons_append, List.getLast?_concat, if_pos rfl]
  rfl

theorem broadcastForm_eq (P : Programs σ) (side : Side) {x : UInt8} {rest : List UInt8}
    (hx : PyConnectMsg.ofCode (msgTypeOf x) = some .moduleDiscovery ∨
      PyConnectMsg.ofCode (msgTypeOf x) = some .moduleDeclare) :
    broadcastForm P side (x :: (rest ++ [msgEnd])) =
      x :: (rest ++ [(P.port side).1, (P.port side).2] ++ [msgEnd]) := by
  rw [broadcastForm, verifyNegotiationMsg_eq, if_pos hx, ← List.cons_append, List.dropLast_concat]
  simp

theorem restoreMessage_eq (x p q : UInt8) (rest : List UInt8) :
    restoreMessage (x :: (rest ++ [p, q] ++ [msgEnd])) = x :: (rest ++ [msgEnd]) := by
  have hlen : (x :: (rest ++ [p, q] ++ [msgEnd])).length - 3 = (x :: rest).length := by
    simp
  rw [restoreMessage, hlen, List.append_assoc, ← List.cons_append, List.take_left]
  rfl

/-- A packet that the other program broadcast: its sender is connected to,
and the message is processed as it was before the port was put into it. -/
theorem processUDPInput_eq (P : Programs σ) (N : Network σ) (side side' : Side) (c : Nat) (fd : Int)
    (cAddr : SockAddr) (x : UInt8) (rest : List UInt8) {t : PyConnectMsg}
    (hx : PyConnectMsg.ofCode (msgTypeOf x) = some t)
    (ht : t = .moduleDiscovery ∨ t = .moduleDeclare) :
    processUDPInput P N side c fd cAddr (broadcastForm P side' (x :: (rest ++ [msgEnd]))) =
      if opensTalker side (some t) then
        (deliver P (createTCPTalker N side c fd) side cAddr (x :: (rest ++ [msgEnd]))).map fun r =>
          if r.2 = .toShutdown then rejectTalker P r.1 side cAddr else r.1
      else some N := by
  have hlen : ¬ (x :: (rest ++ [(P.port side').1, (P.port side').2] ++ [msgEnd])).length < 3 := by
    simp
  rw [broadcastForm_eq P side' (by rcases ht with rfl | rfl <;> simp [hx]), processUDPInput,
    verifyNegotiationMsg_eq, hx, restoreMessage_eq, if_neg hlen]

theorem of_deliver {P : Programs σ} {cAddr : SockAddr} {message : List UInt8}
    {r : Network σ × MesgProcessResult} (h : deliver P N side cAddr message = some r) :
    ∃ reaction, P.processInput side (N.parties side).program cAddr message = some reaction ∧
      r = (reaction.dispatches.foldl (fun N x => dataPacketSender P N side x.1 x.2)
        (N.withParty side { N.parties side with
          program := reaction.program
          processed := (N.parties side).processed ++ [message] }), reaction.result) := by
  rw [deliver, Option.map_eq_some_iff] at h
  obtain ⟨reaction, hreaction, hr⟩ := h
  exact ⟨reaction, hreaction, hr.symm⟩

/-- What holds of the sockets whatever the messages are: a descriptor has one
connection, a connection that was closed has carried nothing, and no channel
map leads to such a connection. -/
structure Wired (N : Network σ) : Prop where
  nonneg : ∀ side c k fd, N.conns c = some k → k.sockets side = .client fd → 0 ≤ fd
  distinct : ∀ side c c' k k' fd, N.conns c = some k → N.conns c' = some k' →
    k.sockets side = .client fd → k'.sockets side = .client fd → c = c'
  idle : ∀ c k, N.conns c = some k → (∃ side, k.sockets side = .closed) → ∀ side, k.inbox side = []
  mapped : ∀ (side : Side) (id fd : Int), (N.parties side).comm.objCommMap[id]? = some fd →
    ∃ c k, N.conns c = some k ∧ k.sockets side = .client fd ∧ ∀ side, k.sockets side ≠ .closed

theorem Wired.only (h : Wired N) (hc : N.conns c = some k) (hk : k.sockets side = .client fd)
    {c' : Nat} {k' : Connection} (hc' : N.conns c' = some k') (hne : c' ≠ c) :
    k'.sockets side ≠ .client fd :=
  fun hk' => hne (h.distinct side c' c k' k fd hc' hc hk' hk)

theorem onSocket_eq (hc : N.conns c = some k) (hk : k.sockets side = .client fd)
    (honly : ∀ c' k', N.conns c' = some k' → c' ≠ c → k'.sockets side ≠ .client fd)
    (f : Connection → Connection) : N.onSocket side fd f = N.withConn c (f k) := by
  rw [Network.onSocket, Network.withConn]
  congr 1
  funext c'
  by_cases he : c' = c
  · subst he
    rw [Function.update_self, hc, Option.map_some, if_pos hk]
  · rw [Function.update_of_ne he]
    cases hc' : N.conns c' with
    | none => rfl
    | some k' => rw [Option.map_some, if_neg (honly c' k' hc' he)]

theorem Wired.withConn (h : Wired N)
    (hfd : ∀ side fd, k.sockets side = .client fd →
      0 ≤ fd ∧ ∀ c' k', c' ≠ c → N.conns c' = some k' → k'.sockets side ≠ .client fd)
    (hidle : (∃ side, k.sockets side = .closed) → ∀ side, k.inbox side = [])
    (hkeep : ∀ k₀, N.conns c = some k₀ → (∀ side, k₀.sockets side ≠ .closed) →
      (∃ side id fd, (N.parties side).comm.objCommMap[(id : Int)]? = some fd ∧
        k₀.sockets side = .client fd) →
      (∀ side, k.sockets side ≠ .closed) ∧
        ∀ side fd, k₀.sockets side = .client fd → k.sockets side = .client fd) :
    Wired (N.withConn c k) := by
  constructor
  · intro side c' k' fd hc' hk'
    rcases withConn_cases hc' with ⟨rfl, rfl⟩ | ⟨-, hc'⟩
    · exact (hfd side fd hk').1
    · exact h.nonneg side c' k' fd hc' hk'
  · intro side c₁ c₂ k₁ k₂ fd h₁ h₂ hk₁ hk₂
    rcases withConn_cases h₁ with ⟨rfl, rfl⟩ | ⟨hne₁, hc₁⟩
    · rcases withConn_cases h₂ with ⟨rfl, rfl⟩ | ⟨hne₂, hc₂⟩
      · rfl
      · exact absurd hk₂ ((hfd side fd hk₁).2 c₂ k₂ hne₂ hc₂)
    · rcases withConn_cases h₂ with ⟨rfl, rfl⟩ | ⟨hne₂, hc₂⟩
      · exact absurd hk₁ ((hfd side fd hk₂).2 c₁ k₁ hne₁ hc₁)
      · exact h.distinct side c₁ c₂ k₁ k₂ fd hc₁ hc₂ hk₁ hk₂
  · intro c' k' hc' hclosed
    rcases withConn_cases hc' with ⟨rfl, rfl⟩ | ⟨-, hc'⟩
    · exact hidle hclosed
    · exact h.idle c' k' hc' hclosed
  · intro side id fd hmap
    obtain ⟨c₀, k₀, hc₀, hk₀, hlive⟩ := h.mapped side id fd hmap
    by_cases he : c₀ = c
    · subst he
      obtain ⟨hlive', hkeep'⟩ := hkeep k₀ hc₀ hlive ⟨side, id, fd, hmap, hk₀⟩
      exact ⟨c₀, k, withConn_self .., hkeep' side fd hk₀, hlive'⟩
    · exact ⟨c₀, k₀, (withConn_of_ne N he k).trans hc₀, hk₀, hlive⟩

theorem Wired.withParty (h : Wired N) {p : Party (σ side)}
    (hmap : ∀ id fd : Int, p.comm.objCommMap[id]? = some fd →
      ∃ c k, N.conns c = some k ∧ k.sockets side = .client fd ∧ ∀ side, k.sockets side ≠ .closed) :
    Wired (N.withParty side p) := by
  refine ⟨h.nonneg, h.distinct, h.idle, fun side' id fd hfd => ?_⟩
  by_cases he : side' = side
  · subst he
    rw [withParty_self] at hfd
    exact hmap id fd hfd
  · rw [withParty_of_ne N he] at hfd
    exact h.mapped side' id fd hfd

theorem Wired.sameMap (h : Wired N) {p : Party (σ side)}
    (hmap : p.comm.objCommMap = (N.parties side).comm.objCommMap) : Wired (N.withParty side p) :=
  h.withParty fun id fd hfd => h.mapped side id fd (hmap ▸ hfd)

theorem Wired.claim (h : Wired N) (hc : N.conns c = some k) (hk : k.sockets side = .client fd)
    (hlive : ∀ side, k.sockets side ≠ .closed) {id : Int} {p : Party (σ side)}
    (hmap : p.comm.objCommMap = (N.parties side).comm.objCommMap.insert id fd) :
    Wired (N.withParty side p) := by
  apply h.withParty
  intro id' fd' hfd'
  rw [hmap, Maps.get_insert] at hfd'
  split at hfd'
  · obtain rfl := Option.some.inj hfd'
    exact ⟨c, k, hc, hk, hlive⟩
  · exact h.mapped side id' fd' hfd'

theorem Wired.write (h : Wired N) (hc : N.conns c = some k) (hlive : ∀ side, k.sockets side ≠ .closed)
    (side : Side) (data : List UInt8) : Wired (N.withConn c (k.write side data)) := by
  apply h.withConn
  · intro side' fd hk
    exact ⟨h.nonneg side' c k fd hc hk, fun _ _ hne hc' => h.only hc hk hc' hne⟩
  · rintro ⟨side', hclosed⟩
    exact absurd hclosed (hlive side')
  · intro k₀ hk₀ _ _
    rw [hc] at hk₀
    obtain rfl := Option.some.inj hk₀
    exact ⟨hlive, fun _ _ h => h⟩

theorem Wired.setInbox (h : Wired N) (hc : N.conns c = some k) (side : Side)
    (inbox : List (List UInt8)) (hinbox : k.inbox side = [] → inbox = []) :
    Wired (N.withConn c (k.setInbox side inbox)) := by
  apply h.withConn
  · intro side' fd hk
    exact ⟨h.nonneg side' c k fd hc hk, fun _ _ hne hc' => h.only hc hk hc' hne⟩
  · intro hclosed side'
    have hidle := h.idle c k hc hclosed
    by_cases he : side' = side
    · subst he
      rw [setInbox_self]
      exact hinbox (hidle side')
    · rw [setInbox_of_ne k he]
      exact hidle side'
  · intro k₀ hk₀ hlive _
    rw [hc] at hk₀
    obtain rfl := Option.some.inj hk₀
    exact ⟨hlive, fun _ _ h => h⟩

theorem Wired.unmapped (h : Wired N) (hfd : Unused N side fd) (id : Int) :
    (N.parties side).comm.objCommMap[id]? ≠ some fd := by
  intro hmap
  obtain ⟨c, k, hc, hk, -⟩ := h.mapped side id fd hmap
  exact hfd.2 c k hc hk

theorem clientDataSend_claims (h : Wired N) (hc : N.conns c = some k)
    (hk : k.sockets side = .client fd) (hactive : (N.parties side).comm.activeCommChannel = fd)
    (hmaps : mapsChannel side (PyConnectMsg.ofCode (msgTypeOf (data.getD 0 0))) = true) :
    clientDataSend N side data = (N.withParty side { N.parties side with
      comm := ⟨(N.parties side).comm.objCommMap.insert (objID side data) fd, invalidSocket⟩
      sent := (N.parties side).sent ++ [data] }).withConn c (k.write side data) := by
  have hne : fd ≠ invalidSocket := by
    have := h.nonneg side c k fd hc hk
    rw [invalidSocket]
    omega
  have hfind : findOrAddCommChanByMsgID side (N.parties side).comm data =
      (⟨(N.parties side).comm.objCommMap.insert (objID side data) fd, invalidSocket⟩, fd) := by
    rw [findOrAddCommChanByMsgID, if_pos hmaps, getLastUsedCommChannel]
    dsimp only
    rw [hactive, if_pos hne]
  rw [clientDataSend, hfind]
  dsimp only
  rw [if_neg hne]
  exact onSocket_eq (N := N.withParty side _) hc hk (fun _ _ => h.only hc hk) _

theorem clientDataSend_mapped (h : Wired N) (hc : N.conns c = some k)
    (hk : k.sockets side = .client fd)
    (hmap : (N.parties side).comm.objCommMap[objID side data]? = some fd)
    (hmaps : mapsChannel side (PyConnectMsg.ofCode (msgTypeOf (data.getD 0 0))) = false)
    (hdisc : ¬ (side = .server ∧
      PyConnectMsg.ofCode (msgTypeOf (data.getD 0 0)) = some .moduleDiscovery)) :
    clientDataSend N side data = (N.withParty side { N.parties side with
      sent := (N.parties side).sent ++ [data] }).withConn c (k.write side data) := by
  have hne : fd ≠ invalidSocket := by
    have := h.nonneg side c k fd hc hk
    rw [invalidSocket]
    omega
  have hfind : findOrAddCommChanByMsgID side (N.parties side).comm data =
      ((N.parties side).comm, fd) := by
    rw [findOrAddCommChanByMsgID, hmaps]
    dsimp only
    rw [if_neg Bool.false_ne_true, if_neg hdisc, hmap, Option.getD_some]
  rw [clientDataSend, hfind]
  dsimp only
  rw [if_neg hne]
  exact onSocket_eq (N := N.withParty side _) hc hk (fun _ _ => h.only hc hk) _

theorem withParty_eta (N : Network σ) (side : Side) : N.withParty side (N.parties side) = N := by
  rw [Network.withParty, Function.update_eq_self]

theorem channelShutdown_eq (P : Programs σ) (cAddr : SockAddr) (notifyMesgProc : Bool)
    (h : ∀ id : Int, (N.parties side).comm.objCommMap[id]? ≠ some fd) :
    channelShutdown P N side cAddr fd notifyMesgProc = N := by
  have hfind : findMapping (N.parties side).comm fd = none := by
    cases hid : findMapping (N.parties side).comm fd with
    | none => rfl
    | some id => exact absurd (findMapping_some hid) (h id)
  rw [channelShutdown, objCommChannelShutdown, hfind]
  exact withParty_eta N side

theorem Wired.close (h : Wired N) (hc : N.conns c = some k) (hinbox : ∀ side, k.inbox side = [])
    (hunmapped : ∀ side' (id fd : Int), (N.parties side').comm.objCommMap[id]? = some fd →
      k.sockets side' ≠ .client fd) (side : Side) :
    Wired (N.withConn c (k.setSocket side .closed)) := by
  apply h.withConn
  · intro side' fd hk
    by_cases he : side' = side
    · subst he
      rw [setSocket_self] at hk
      cases hk
    · rw [setSocket_of_ne k he] at hk
      exact ⟨h.nonneg side' c k fd hc hk, fun _ _ hne hc' => h.only hc hk hc' hne⟩
  · exact fun _ => hinbox
  · rintro k₀ hk₀ - ⟨side', id, fd, hmap, hfd⟩
    rw [hc] at hk₀
    obtain rfl := Option.some.inj hk₀
    exact absurd hfd (hunmapped side' id fd hmap)

theorem setSocket_listed (hside : k.sockets side = .backlog)
    (hk : N.conns c = some k ∨ N.conns c = none ∧ k = .fresh) {k₀ : Connection}
    (hk₀ : N.conns c = some k₀) (hlive : ∀ side, k₀.sockets side ≠ .closed) :
    (∀ side', (k.setSocket side (.client fd)).sockets side' ≠ .closed) ∧
      ∀ side' fd', k₀.sockets side' = .client fd' →
        (k.setSocket side (.client fd)).sockets side' = .client fd' := by
  obtain rfl : k = k₀ := by
    rcases hk with hk | ⟨hk, -⟩
    · exact Option.some.inj (hk.symm.trans hk₀)
    · rw [hk] at hk₀
      cases hk₀
  constructor
  · intro side'
    by_cases he : side' = side
    · subst he
      rw [setSocket_self]
      exact Socket.noConfusion
    · rw [setSocket_of_ne k he]
      exact hlive side'
  · intro side' fd' hk'
    have he : side' ≠ side := by
      rintro rfl
      rw [hside] at hk'
      cases hk'
    rw [setSocket_of_ne k he]
    exact hk'

theorem Wired.listed (h : Wired N) (hfd : Unused N side fd)
    (hk : N.conns c = some k ∨ N.conns c = none ∧ k = .fresh) (hside : k.sockets side = .backlog) :
    Wired (N.withConn c (k.setSocket side (.client fd))) := by
  have hold : ∀ side', k.sockets side' ≠ .backlog → N.conns c = some k := by
    intro side' hne
    rcases hk with hk | ⟨-, rfl⟩
    · exact hk
    · exact absurd rfl hne
  apply h.withConn
  · intro side' fd' hk'
    by_cases he : side' = side
    · subst he
      rw [setSocket_self] at hk'
      obtain rfl := Socket.client.inj hk'
      exact ⟨hfd.1, fun c' k' _ hc' => hfd.2 c' k' hc'⟩
    · rw [setSocket_of_ne k he] at hk'
      have hck := hold side' (hk' ▸ Socket.noConfusion)
      exact ⟨h.nonneg side' c k fd' hck hk', fun _ _ hne hc' => h.only hck hk' hc' hne⟩
  · rintro ⟨side', hclosed⟩
    by_cases he : side' = side
    · subst he
      rw [setSocket_self] at hclosed
      cases hclosed
    · rw [setSocket_of_ne k he] at hclosed
      exact h.idle c k (hold side' (hclosed ▸ Socket.noConfusion)) ⟨side', hclosed⟩
  · exact fun k₀ hk₀ hlive _ => setSocket_listed hside hk hk₀ hlive

/-- Messages are only added to what a program has sent and processed. -/
def Extends (N N' : Network σ) : Prop :=
  ∀ side, (N.parties side).sent <+: (N'.parties side).sent ∧
    (N.parties side).processed <+: (N'.parties side).processed

theorem Extends.refl (N : Network σ) : Extends N N := fun _ => ⟨List.prefix_rfl, List.prefix_rfl⟩

theorem Extends.trans {N₁ N₂ N₃ : Network σ} (h₁ : Extends N₁ N₂) (h₂ : Extends N₂ N₃) :
    Extends N₁ N₃ :=
  fun side => ⟨(h₁ side).1.trans (h₂ side).1, (h₁ side).2.trans (h₂ side).2⟩

theorem extends_withParty {p : Party (σ side)} (hsent : (N.parties side).sent <+: p.sent)
    (hprocessed : (N.parties side).processed <+: p.processed) : Extends N (N.withParty side p) := by
  intro side'
  by_cases he : side' = side
  · subst he
    rw [withParty_self]
    exact ⟨hsent, hprocessed⟩
  · rw [withParty_of_ne N he]
    exact Extends.refl N side'

theorem extends_dataPacketSender (P : Programs σ) (N : Network σ) (side : Side) (data : List UInt8)
    (broadcast : Bool) : Extends N (dataPacketSender P N side data broadcast) := by
  rw [dataPacketSender]
  split
  · exact Extends.refl N
  · rw [clientDataSend]
    dsimp only
    split
    · exact extends_withParty (List.prefix_append _ _) List.prefix_rfl
    · exact extends_withParty (List.prefix_append _ _) List.prefix_rfl

theorem extends_dispatches (P : Programs σ) (side : Side) (dispatches : List (List UInt8 × Bool)) :
    ∀ N : Network σ,
      Extends N (dispatches.foldl (fun N x => dataPacketSender P N side x.1 x.2) N) := by
  induction dispatches with
  | nil => exact Extends.refl
  | cons x xs ih => exact fun N => (extends_dataPacketSender P N side x.1 x.2).trans (ih _)

theorem extends_deliver {P : Programs σ} {cAddr : SockAddr} {message : List UInt8}
    {r : Network σ × MesgProcessResult} (h : deliver P N side cAddr message = some r) :
    Extends N r.1 ∧ message ∈ (r.1.parties side).processed := by
  obtain ⟨reaction, -, rfl⟩ := of_deliver h
  let p : Party (σ side) := { N.parties side with
    program := reaction.program
    processed := (N.parties side).processed ++ [message] }
  have hparty : Extends N (N.withParty side p) :=
    extends_withParty List.prefix_rfl (List.prefix_append _ _)
  have hsent := extends_dispatches P side reaction.dispatches (N.withParty side p)
  refine ⟨hparty.trans hsent, (hsent side).2.subset ?_⟩
  rw [withParty_self]
  exact List.mem_append_right _ (List.mem_singleton_self message)

theorem extends_channelShutdown (P : Programs σ) (N : Network σ) (side : Side) (cAddr : SockAddr)
    (fd : Int) (notifyMesgProc : Bool) :
    Extends N (channelShutdown P N side cAddr fd notifyMesgProc) :=
  extends_withParty List.prefix_rfl List.prefix_rfl

theorem extends_rejectTalker (P : Programs σ) (N : Network σ) (side : Side) (cAddr : SockAddr) :
    Extends N (rejectTalker P N side cAddr) := by
  have hcomm : Extends N (N.withComm side (getLastUsedCommChannel (N.parties side).comm).1) :=
    extends_withParty List.prefix_rfl List.prefix_rfl
  exact hcomm.trans (extends_channelShutdown P _ side cAddr _ false)

theorem extends_processMessages {P : Programs σ} {cAddr : SockAddr} {N' : Network σ} {n : Nat} :
    ∀ {N : Network σ}, processMessages P side c cAddr n N = some N' → Extends N N' := by
  induction n with
  | zero => exact fun h => Option.some.inj h ▸ Extends.refl _
  | succ n ih =>
      intro N h
      rw [processMessages] at h
      split at h
      next => cases h
      next k hc =>
        split at h
        next => cases h
        next message inbox hinbox =>
          split at h
          next => cases h
          next r hdeliver => exact (extends_deliver hdeliver).1.trans (ih h)

theorem extends_step {P : Programs σ} {N N' : Network σ} (h : Step P N N') : Extends N N' := by
  cases h with
  | broadcast side data => exact extends_dataPacketSender P N side data true
  | datagram _ side c fd cAddr recBuffer _ _ _ hr =>
      rw [processUDPInput] at hr
      split at hr
      · split at hr
        · cases hr
        · obtain ⟨r, hdeliver, rfl⟩ := Option.map_eq_some_iff.mp hr
          have hlisted : Extends N (createTCPTalker N side c fd) :=
            extends_withParty List.prefix_rfl List.prefix_rfl
          split
          · exact (hlisted.trans (extends_deliver hdeliver).1).trans (extends_rejectTalker P r.1 side cAddr)
          · exact hlisted.trans (extends_deliver hdeliver).1
      · exact Option.some.inj hr ▸ Extends.refl N
  | accept side c k fd => exact extends_withParty List.prefix_rfl List.prefix_rfl
  | read _ side c k fd cAddr n _ _ _ hr =>
      have hcomm : Extends N (N.withComm side (setLastUsedCommChannel (N.parties side).comm fd)) :=
        extends_withParty List.prefix_rfl List.prefix_rfl
      exact hcomm.trans (extends_processMessages hr)
  | eof side c k fd cAddr => exact extends_channelShutdown P N side cAddr fd true

end PyConnect.Channels

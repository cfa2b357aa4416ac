import Mathlib.Algebra.Order.BigOperators.Group.Finset
import Mathlib.Data.Set.Finite.Lattice
import Mathlib.Tactic.Abel
import PyConnect.Conversation
import PyConnect.Discovery
import PyConnect.ModuleTable
import PyConnect.ServerIsolation

namespace PyConnect.Settling

open Common ObjComm NetComm Channels Stub StubMessage Wrapper WrapperInput WrapperSends Handshake
open ModuleTable CallElements Schedule Conversation Discovery Multiset Relation

/-- How far a message can lead: a discovery to a declaration, this to the
assignment of an id, and this or a call to an answer, which is not answered. -/
def rank : Side → List UInt8 → Nat
  | .server, data => if typeOf data = some .moduleDeclare then 2 else 0
  | .wrapper, data => if typeOf data = some .moduleDiscovery then 3 else 1

def waiting (k : Connection) : Multiset Nat :=
  ((k.inbox .server).map (rank .server) : Multiset Nat) +
    ((k.inbox .wrapper).map (rank .wrapper) : Multiset Nat)

def pending (total : Nat) (N : Network State) : Multiset Nat :=
  ∑ c ∈ Finset.range total, (N.conns c).elim 0 waiting

def toDo : Socket → Nat
  | .backlog => 2
  | .client _ => 1
  | .closed => 0

def doing (k : Connection) : Nat := toDo (k.sockets .server) + toDo (k.sockets .wrapper)

def chores (total : Nat) (N : Network State) : Nat :=
  ∑ c ∈ Finset.range total, (N.conns c).elim 0 doing

/-- The steps that need no broadcast; a read takes some message whole. -/
inductive Settles (P : Programs State) : Network State → Network State → Prop
  | accept (N : Network State) (side : Side) (c : Nat) (k : Connection) (fd : Int) :
      N.conns c = some k → k.sockets side = .backlog → Unused N side fd →
      Settles P N (addFdToClientList N side c k fd)
  | read (N N' : Network State) (side : Side) (c : Nat) (k : Connection) (fd : Int) (cAddr : SockAddr)
      (n : Nat) : N.conns c = some k → k.sockets side = .client fd →
      processMessages P side c cAddr (n + 1)
        (N.withComm side (setLastUsedCommChannel (N.parties side).comm fd)) = some N' →
      Settles P N N'
  | eof (N : Network State) (side : Side) (c : Nat) (k : Connection) (fd : Int) (cAddr : SockAddr) :
      N.conns c = some k → k.sockets side = .client fd →
      k.sockets side.other = .closed → k.inbox side = [] →
      Settles P N (destroyCurrentClient (channelShutdown P N side cAddr fd true) side fd)

variable {b : Build} {host : Values.Host} {port : Side → UInt8 × UInt8} {P : Programs State}
  {N N' : Network State} {side : Side} {c total : Nat} {k k' : Connection} {fd : Int}
  {cAddr : SockAddr} {data : List UInt8}

theorem waiting_eq (k : Connection) (side : Side) :
    waiting k = ((k.inbox side).map (rank side) : Multiset Nat) +
      ((k.inbox side.other).map (rank side.other) : Multiset Nat) := by
  cases side with
  | server => rfl
  | wrapper => exact add_comm _ _

theorem waiting_write (k : Connection) (side : Side) (data : List UInt8) :
    waiting (k.write side data) = waiting k + {rank side.other data} := by
  have hne : side ≠ side.other := (other_ne side).symm
  rw [waiting_eq _ side, waiting_eq _ side, Connection.write]
  dsimp only
  rw [Function.update_self, Function.update_of_ne hne, List.map_append, ← Multiset.coe_add, add_assoc]
  rfl

theorem waiting_setSocket (k : Connection) (side : Side) (socket : Socket) :
    waiting (k.setSocket side socket) = waiting k := rfl

theorem doing_eq (k : Connection) (side : Side) :
    doing k = toDo (k.sockets side) + toDo (k.sockets side.other) := by
  cases side with
  | server => rfl
  | wrapper => exact Nat.add_comm _ _

theorem doing_setSocket (k : Connection) (side : Side) {socket : Socket}
    (h : toDo socket < toDo (k.sockets side)) : doing (k.setSocket side socket) < doing k := by
  rw [doing_eq _ side, doing_eq _ side, setSocket_self, setSocket_of_ne k (other_ne side)]
  exact Nat.add_lt_add_right h _

theorem waiting_pop {message : List UInt8} {inbox : List (List UInt8)}
    (h : k.inbox side = message :: inbox) :
    waiting k = waiting (k.setInbox side inbox) + {rank side message} := by
  rw [waiting_eq _ side, waiting_eq _ side, setInbox_self, setInbox_of_ne k (other_ne side), h,
    List.map_cons, ← Multiset.cons_coe, ← Multiset.singleton_add, add_assoc, add_comm]

theorem sum_withConn {M : Type} [AddCommMonoid M] (f : Connection → M) (hc : N.conns c = some k)
    (hlt : c < total) (k' : Connection) :
    (∑ i ∈ Finset.range total, ((N.withConn c k').conns i).elim 0 f) + f k =
      (∑ i ∈ Finset.range total, (N.conns i).elim 0 f) + f k' := by
  have hmem : c ∈ Finset.range total := Finset.mem_range.mpr hlt
  have hrest : ∑ i ∈ (Finset.range total).erase c, ((N.withConn c k').conns i).elim 0 f =
      ∑ i ∈ (Finset.range total).erase c, (N.conns i).elim 0 f :=
    Finset.sum_congr rfl fun i hi => by rw [withConn_of_ne N (Finset.ne_of_mem_erase hi)]
  rw [← Finset.add_sum_erase _ _ hmem, ← Finset.add_sum_erase _ _ hmem, hrest, withConn_self, hc]
  dsimp only [Option.elim]
  abel

theorem pending_write (total : Nat) (N : Network State) (side : Side) (fd : Int) (data : List UInt8) :
    ∃ n : Nat, pending total (N.onSocket side fd (·.write side data)) =
      pending total N + Multiset.replicate n (rank side.other data) := by
  induction total with
  | zero => exact ⟨0, rfl⟩
  | succ total ih =>
      obtain ⟨n, hn⟩ := ih
      rw [pending, pending, Finset.sum_range_succ, Finset.sum_range_succ, ← pending, ← pending, hn]
      cases hc : N.conns total with
      | none => exact ⟨n, by simp [Network.onSocket, hc]⟩
      | some k =>
          by_cases hk : k.sockets side = .client fd
          · refine ⟨n + 1, ?_⟩
            simp only [Network.onSocket, hc, Option.map_some, Option.elim, if_pos hk, waiting_write]
            rw [Multiset.replicate_succ, ← Multiset.singleton_add]
            abel
          · refine ⟨n, ?_⟩
            simp only [Network.onSocket, hc, Option.map_some, Option.elim, if_neg hk]
            abel

theorem pending_dataPacketSender (total : Nat) (P : Programs State) (N : Network State) (side : Side)
    (data : List UInt8) (broadcast : Bool) :
    ∃ n : Nat, pending total (dataPacketSender P N side data broadcast) =
      pending total N + Multiset.replicate n (rank side.other data) := by
  rw [dataPacketSender]
  split
  · exact ⟨0, (add_zero _).symm⟩
  · rw [clientDataSend]
    dsimp only
    split
    · exact ⟨0, (add_zero _).symm⟩
    · exact pending_write total (N.withParty side _) side _ data

theorem pending_dispatches (total : Nat) (P : Programs State) (side : Side) {bound : Nat} :
    ∀ (dispatches : List (List UInt8 × Bool)) (N : Network State),
      (∀ x ∈ dispatches, rank side.other x.1 < bound) → ∃ replies : Multiset Nat,
        pending total (dispatches.foldl (fun N x => dataPacketSender P N side x.1 x.2) N) =
          pending total N + replies ∧ ∀ y ∈ replies, y < bound := by
  intro dispatches
  induction dispatches with
  | nil => exact fun N _ => ⟨0, (add_zero _).symm, fun y hy => absurd hy (Multiset.notMem_zero y)⟩
  | cons x xs ih =>
      intro N hbound
      obtain ⟨n, hn⟩ := pending_dataPacketSender total P N side x.1 x.2
      obtain ⟨replies, hreplies, hlt⟩ := ih (dataPacketSender P N side x.1 x.2)
        fun y hy => hbound y (List.mem_cons_of_mem x hy)
      refine ⟨Multiset.replicate n (rank side.other x.1) + replies, ?_, fun y hy => ?_⟩
      · rw [List.foldl_cons, hreplies, hn, add_assoc]
      · rcases Multiset.mem_add.mp hy with hy | hy
        · rw [Multiset.eq_of_mem_replicate hy]
          exact hbound x List.mem_cons_self
        · exact hlt y hy

theorem rank_lt_two (h : typeOf data ≠ some .moduleDiscovery) : rank .wrapper data < 2 := by
  rw [rank, if_neg h]
  exact Nat.one_lt_two

theorem rank_lt_one (h : typeOf data ≠ some .moduleDeclare) : rank .server data < 1 := by
  rw [rank, if_neg h]
  exact Nat.one_pos

theorem stub_replies (host : Values.Host) (s : PyConnectStub) (data : List UInt8) (cAddr : SockAddr) :
    ∀ x ∈ stubDispatches (StubInput.processMessage host s data cAddr).effects,
      rank .wrapper x.1 < rank .server data := by
  refine processMessage_cases host s data cAddr (fun _ x hx => absurd hx List.not_mem_nil)
    (fun hdeclare => ?_) (fun _ c => ?_) (fun _ => ?_)
    (fun _ x hx => absurd hx List.not_mem_nil) (fun _ _ c => ?_)
  · have hrank : rank .server data = 2 := if_pos hdeclare
    rw [hrank]
    intro x hx
    rcases declareInput_cases s cAddr (Decoding.byte (Decoding.startAt data 0)).2 with
      ⟨-, heffects⟩ | ⟨desc, options, hcreates, hutf, -, heffects⟩
    · rcases heffects with heffects | heffects <;> rw [heffects] at hx <;> cases hx
    · rw [heffects, addNewModule_eq desc options cAddr hcreates hutf] at hx
      rcases send_assign s (Common.unpackString false
        (Decoding.byte (Decoding.byte (Decoding.startAt data 0)).2).2).1 s.nextObjId with he | he
      · rw [he] at hx
        cases hx
      · rw [he] at hx
        rw [List.mem_singleton.mp hx]
        refine rank_lt_two ?_
        rw [assignData, typeOf_header]
        decide
  · dsimp only [StubInput.shutdownInput]
    rw [stubDispatches_deleteModuleByID]
    exact fun x hx => absurd hx List.not_mem_nil
  · dsimp only
    rw [StubInput.peerServerMsg, Decoding.bind_apply, Decoding.pure_apply, stubDispatches_invoke]
    exact fun x hx => absurd hx List.not_mem_nil
  · rw [stubDispatches_objectInput]
    exact fun x hx => absurd hx List.not_mem_nil

/-- No declaration of a module, and so nothing that a server answers. -/
def Unanswered (e : Wrapper.Effect) : Prop :=
  ∀ data broadcast, e = .dispatch data broadcast → typeOf data ≠ some .moduleDeclare

theorem unanswered_header {t : PyConnectMsg} (ht : t ≠ .moduleDeclare) (sid : Int)
    (tail : List UInt8) (broadcast : Bool) : Unanswered (.dispatch (header t sid :: tail) broadcast) := by
  rintro data broadcast' h
  injection h with hdata _
  rw [← hdata, typeOf_header]
  exact fun h => ht (Option.some.inj h)

theorem unanswered_send {p : Packet} {t : PyConnectMsg} (ht : t ≠ .moduleDeclare) {sid : Int} {i : UInt8}
    {tail : List UInt8} (hp : p.written = header t sid :: i :: tail) (hsize : 2 ≤ p.totalMsgSize)
    (broadcast : Bool) : Unanswered (Wrapper.send p broadcast) := by
  rw [Wrapper.send]
  split
  · obtain ⟨tail', hd⟩ := ModuleRouting.data_of_written hp hsize
    rw [hd]
    exact unanswered_header ht sid (i :: tail') broadcast
  · exact fun _ _ h => by cases h

theorem unanswered_serverShutdown (w : PyConnectWrapper) (sid : Int) :
    ∀ e ∈ (serverShutdown w sid).2.2, Unanswered e := by
  intro e he
  rw [serverShutdown] at he
  split at he
  · dsimp only at he
    split at he
    all_goals
      rw [List.mem_singleton.mp he]
      exact fun _ _ h => by cases h
  · cases he

theorem unanswered_stray : ∀ e ∈ [Wrapper.Effect.stray], Unanswered e := by
  intro e he
  rw [List.mem_singleton.mp he]
  exact fun _ _ h => by cases h

theorem unanswered_assigned {w : PyConnectWrapper} {m : PyConnectModule}
    (hw : w.pyConnectModule = some m) (sid modId : Int) :
    ∀ e ∈ (moduleAssigned b w sid modId).2, Unanswered e := by
  have hexpose := ModuleRouting.attrMetdPacket_size b.host m sid modId
  have hdesc := ModuleRouting.attrMetdDescPacket_size m sid modId
  rw [moduleAssigned_eq b hw]
  intro e he
  rcases List.mem_cons.mp he with he | he
  · rw [he]
    exact fun _ _ h => by cases h
  rcases List.mem_cons.mp he with he | he
  · rw [he]
    exact unanswered_send (t := .attrMetdExpose) (by decide) rfl (by omega) false
  · rw [List.mem_singleton.mp he]
    exact unanswered_send (t := .attrMetdDesc) (by decide) rfl (by omega) false

theorem unanswered_processes {w w' : PyConnectWrapper} {result : MesgProcessResult}
    {effects : List Wrapper.Effect} (hdiscovery : typeOf data ≠ some .moduleDiscovery)
    (h : Processes b w data w' result effects) : ∀ e ∈ effects, Unanswered e := by
  cases h with
  | refused _ => exact fun e he => absurd he List.not_mem_nil
  | discovery ht => exact absurd ht hdiscovery
  | serverShutdown _ => exact unanswered_serverShutdown w _
  | absent _ => exact unanswered_stray
  | served m info r _ hw hinfo _ hr =>
      intro e he
      rw [hr] at he
      cases (served_moduleMessage (b := b) hinfo hw _ _).effects e he with
      | invoke | stray => exact fun _ _ h => by cases h
      | response y tail _ => exact unanswered_header (by decide) _ _ _
      | update index y x tail _ _ _ _ => exact unanswered_header (by decide) _ _ _
  | assign r _ hr =>
      rw [hr]
      cases hw : w.pyConnectModule with
      | none =>
          have hnone : (moduleAssignId b w (senderOf data) (Decoding.startAt data.tail 0)).1 =
              (w, .processedOk, [.stray]) := by
            rw [moduleAssignId, Decoding.bind_apply, Decoding.bind_apply, Decoding.bind_apply, hw]
            rfl
          rw [hnone]
          exact unanswered_stray
      | some m =>
          rw [AssignedIds.moduleAssignId_read hw]
          split
          · exact unanswered_assigned hw _ _
          · exact fun e he => absurd he List.not_mem_nil

theorem wrapper_replies (b : Build) (w : PyConnectWrapper) (data : List UInt8) :
    ∀ x ∈ wrapperDispatches (processMessage b w data).effects, rank .server x.1 < rank .wrapper data := by
  intro x hx
  by_cases hdiscovery : typeOf data = some .moduleDiscovery
  · have hrank : rank .wrapper data = 3 := if_pos hdiscovery
    rw [hrank, rank]
    split <;> decide
  · have hrank : rank .wrapper data = 1 := if_neg hdiscovery
    rw [hrank]
    have he : .dispatch x.1 x.2 ∈ (processMessage b w data).effects :=
      ServerIsolation.mem_wrapperDispatches.mp hx
    exact rank_lt_one (unanswered_processes hdiscovery (processMessage_processes b w data) _ he _ _ rfl)

theorem reaction_replies {r : Reaction (State side)} {program : State side}
    (hr : (programs b host port).processInput side program cAddr data = some r) :
    ∀ x ∈ r.dispatches, rank side.other x.1 < rank side data := by
  cases side with
  | server =>
      rw [of_stubReaction hr]
      exact stub_replies host program data cAddr
  | wrapper =>
      rw [(of_wrapperReaction hr).2]
      exact wrapper_replies b program data

theorem deliver_pending (total : Nat) {r : Network State × MesgProcessResult}
    (hr : deliver (programs b host port) N side cAddr data = some r) : ∃ replies : Multiset Nat,
      pending total r.1 = pending total N + replies ∧ ∀ y ∈ replies, y < rank side data := by
  obtain ⟨reaction, hreaction, rfl⟩ := of_deliver hr
  exact pending_dispatches total _ side reaction.dispatches _ (reaction_replies hreaction)

theorem pending_pop {message : List UInt8} {inbox : List (List UInt8)} (hc : N.conns c = some k)
    (hlt : c < total) (hinbox : k.inbox side = message :: inbox) :
    pending total N =
      pending total (N.withConn c (k.setInbox side inbox)) + {rank side message} := by
  have hsum := sum_withConn waiting hc hlt (k.setInbox side inbox)
  rw [waiting_pop hinbox] at hsum
  rw [pending, pending]
  apply add_right_cancel (b := waiting (k.setInbox side inbox))
  rw [← hsum]
  abel

theorem bounded_lt (hb : Bounded total N) (hc : N.conns c = some k) : c < total := by
  by_contra hge
  rw [hb c (not_lt.mp hge)] at hc
  cases hc

theorem processMessages_pending {n : Nat} : ∀ {N : Network State}, Bounded total N →
    processMessages (programs b host port) side c cAddr n N = some N' →
    Answered (pending total N') (pending total N) ∧
      (0 < n → IsDershowitzMannaLT (pending total N') (pending total N)) := by
  induction n with
  | zero =>
      intro N _ hr
      obtain rfl := Option.some.inj hr
      exact ⟨.inl rfl, fun h => absurd h (Nat.lt_irrefl 0)⟩
  | succ n ih =>
      intro N hb hr
      rw [processMessages] at hr
      split at hr
      next => cases hr
      next k hc =>
        split at hr
        next => cases hr
        next message inbox hinbox =>
          split at hr
          next => cases hr
          next r hdeliver =>
            have hlt := bounded_lt hb hc
            have hpop := pending_pop hc hlt hinbox
            obtain ⟨replies, hreplies, hbelow⟩ := deliver_pending total hdeliver
            have hb' : Bounded total r.1 := fun c' hc' => deliver_none hdeliver
              ((withConn_of_ne N (by omega) _).trans (hb c' hc'))
            have hdone : IsDershowitzMannaLT (pending total r.1) (pending total N) := by
              rw [hreplies]
              exact lt_of_replies hpop hbelow
            have hall := (ih hb' hr).1.lt hdone
            exact ⟨.inr hall, fun _ => hall⟩

theorem pending_accept (hc : N.conns c = some k) (hlt : c < total) :
    pending total (addFdToClientList N side c k fd) = pending total N := by
  have hsum := sum_withConn waiting hc hlt (k.setSocket side (.client fd))
  rw [waiting_setSocket] at hsum
  exact add_right_cancel hsum

theorem chores_accept (hc : N.conns c = some k) (hlt : c < total) (hk : k.sockets side = .backlog) :
    chores total (addFdToClientList N side c k fd) < chores total N := by
  have hsum := sum_withConn doing hc hlt (k.setSocket side (.client fd))
  have hone : doing (k.setSocket side (.client fd)) < doing k :=
    doing_setSocket k side (by rw [hk]; exact Nat.one_lt_two)
  exact lt_of_add_lt_add_right (hsum.trans_lt (Nat.add_lt_add_left hone _))

theorem destroy_conn (hc : N.conns c = some k) : (destroyCurrentClient N side fd).conns c =
    some (if k.sockets side = .client fd then k.setSocket side .closed else k) :=
  congrArg (Option.map _) hc

theorem pending_destroy (total : Nat) (N : Network State) (side : Side) (fd : Int) :
    pending total (destroyCurrentClient N side fd) = pending total N := by
  refine Finset.sum_congr rfl fun c _ => ?_
  cases hc : N.conns c with
  | none => rw [destroyCurrentClient, onSocket_none hc]
  | some k =>
      rw [destroy_conn hc]
      by_cases hk : k.sockets side = .client fd
      · rw [if_pos hk]
        exact waiting_setSocket k side .closed
      · rw [if_neg hk]

theorem chores_destroy (hc : N.conns c = some k) (hlt : c < total) (hk : k.sockets side = .client fd) :
    chores total (destroyCurrentClient N side fd) < chores total N := by
  have hclose : ∀ k : Connection, k.sockets side = .client fd →
      doing (k.setSocket side .closed) < doing k :=
    fun k hk => doing_setSocket k side (by rw [hk]; exact Nat.one_pos)
  refine Finset.sum_lt_sum (fun c _ => ?_) ⟨c, Finset.mem_range.mpr hlt, ?_⟩
  · cases hc : N.conns c with
    | none => rw [destroyCurrentClient, onSocket_none hc]
    | some k =>
        rw [destroy_conn hc]
        by_cases hk : k.sockets side = .client fd
        · rw [if_pos hk]
          exact (hclose k hk).le
        · rw [if_neg hk]
  · rw [destroy_conn hc, if_pos hk, hc]
    exact hclose k hk

/-- Each of the steps answers a message with less, or leaves less to do. -/
theorem Settles.descends (hb : Bounded total N) (h : Settles (programs b host port) N N') :
    Bounded total N' ∧ (IsDershowitzMannaLT (pending total N') (pending total N) ∨
      pending total N' = pending total N ∧ chores total N' < chores total N) := by
  cases h with
  | accept side c k fd hc hk _ =>
      have hlt := bounded_lt hb hc
      refine ⟨fun c' hc' => ?_, .inr ⟨pending_accept hc hlt, chores_accept hc hlt hk⟩⟩
      exact (withConn_of_ne N (by omega) _).trans (hb c' hc')
  | read _ side c k fd cAddr n hc hk hr =>
      have hb' : Bounded total
          (N.withComm side (setLastUsedCommChannel (N.parties side).comm fd)) := hb
      exact ⟨fun c' hc' => processMessages_none hr (hb' c' hc'),
        .inl ((processMessages_pending hb' hr).2 n.succ_pos)⟩
  | eof side c k fd cAddr hc hk _ _ =>
      let M := channelShutdown (programs b host port) N side cAddr fd true
      have hM : M.conns = N.conns := rfl
      have hcM : M.conns c = some k := hc
      have hpending : pending total M = pending total N := by rw [pending, hM, ← pending]
      have hchores : chores total M = chores total N := by rw [chores, hM, ← chores]
      refine ⟨fun c' hc' => onSocket_none (N := M) (hb c' hc') _, .inr ⟨?_, ?_⟩⟩
      · rw [← hpending]
        exact pending_destroy total M side fd
      · rw [← hchores]
        exact chores_destroy hcM (bounded_lt hb hc) hk

theorem bounded_step (hb : Bounded total N) (h : Step P N N') :
    ∃ total', Bounded total' N' := by
  cases h with
  | broadcast side data hdata => exact ⟨total, fun c hc => dataPacketSender_none (hb c hc) data true⟩
  | datagram _ side c fd cAddr recBuffer hair hc hfd hr =>
      refine ⟨max total (c + 1), fun c' hc' => ?_⟩
      exact processUDPInput_none (by omega) hr (hb c' (le_of_max_le_left hc'))
  | accept side c k fd hc hside hfd =>
      refine ⟨total, fun c' hc' => ?_⟩
      have hne : c' ≠ c := by
        rintro rfl
        rw [hb c' hc'] at hc
        cases hc
      exact (withConn_of_ne N hne _).trans (hb c' hc')
  | read _ side c k fd cAddr n hc hk hinbox hr =>
      exact ⟨total, fun c' hc' => processMessages_none hr (hb c' hc')⟩
  | eof side c k fd cAddr hc hk hother hinbox =>
      exact ⟨total, fun c' hc' =>
        onSocket_none (N := channelShutdown P N side cAddr fd true) (hb c' hc') _⟩

theorem bounded_run (hb : Bounded total N) (hrun : ReflTransGen (Step P) N N') :
    ∃ total', Bounded total' N' := by
  induction hrun with
  | refl => exact ⟨total, hb⟩
  | tail _ hstep ih =>
      obtain ⟨total, hb⟩ := ih
      exact bounded_step hb hstep

theorem Settles.step (h : Settles P N N') : Step P N N' := by
  cases h with
  | accept side c k fd hc hk hfd => exact .accept N side c k fd hc hk hfd
  | read _ side c k fd cAddr n hc hk hr =>
      refine .read N N' side c k fd cAddr (n + 1) hc hk (fun hinbox => ?_) hr
      -- the first message could not have been taken
      have hc' : (N.withComm side (setLastUsedCommChannel (N.parties side).comm fd)).conns c = some k := hc
      rw [processMessages, hc'] at hr
      dsimp only at hr
      rw [hinbox] at hr
      cases hr
  | eof side c k fd cAddr hc hk hother hinbox => exact .eof N side c k fd cAddr hc hk hother hinbox

theorem exists_bounded (hfinite : {c | N.conns c ≠ none}.Finite) : ∃ total, Bounded total N := by
  obtain ⟨top, htop⟩ := hfinite.bddAbove
  refine ⟨top + 1, fun c hc => ?_⟩
  by_contra hne
  exact absurd (htop hne) (by omega)

/-- Between two broadcasts the programs have only so much to accept, to read and to
close, whatever they say to each other meanwhile and in whatever order it is done. -/
theorem settles (b : Build) (host : Values.Host) (port : Side → UInt8 × UInt8) {N : Network State}
    (hfinite : {c | N.conns c ≠ none}.Finite) :
    Acc (fun N' N => Settles (programs b host port) N N') N := by
  obtain ⟨total, hb⟩ := exists_bounded hfinite
  exact acc_of_descends (pending total) (chores total) (fun _ _ hb h => h.descends hb) hb

/-- The module is on the air, the server has just connected to it. -/
theorem settles_connected : ∃ N, ReflTransGen
    (Step (programs ⟨.little, false, false⟩ .little fun _ => (0x26, 0x11))) (encounter [116]) N ∧
      N.conns 3 ≠ none ∧ Acc (fun N' N =>
        Settles (programs ⟨.little, false, false⟩ .little fun _ => (0x26, 0x11)) N N') N := by
  let b : Build := ⟨.little, false, false⟩
  let P := programs b .little fun _ => (0x26, 0x11)
  let choices := (crossing P (declareData b ⟨[116], [], ∅, ∅⟩ 0) (discoveryData 3)).take 4
  obtain ⟨N, hN, hx⟩ := Option.map_eq_some_iff.mp
    (show (run P 0 (encounter [116]) choices).map (fun N => (N.conns 3).isSome) = some true by
      decide +kernel)
  have hrun := run_sound (fun _ _ => rfl) hN
  obtain ⟨total, hb⟩ := bounded_run (show Bounded 0 (encounter [116]) from fun _ _ => rfl) hrun
  have hconn : N.conns 3 ≠ none := by
    intro h
    rw [h] at hx
    cases hx
  refine ⟨N, hrun, hconn, settles b .little _ ?_⟩
  refine (Set.finite_lt_nat total).subset fun c hc => ?_
  by_contra hge
  exact hc (hb c (not_lt.mp hge))

end PyConnect.Settling

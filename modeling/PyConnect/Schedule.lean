import PyConnect.Channels

namespace PyConnect.Schedule

open Relation Common ObjComm NetComm Channels Stub

variable {σ : Side → Type} {P : Programs σ} {N N' : Network σ} {side : Side} {c c' : Nat} {fd : Int}
  {cAddr : SockAddr} {total : Nat}

inductive Choice
  | broadcast (side : Side) (data : List UInt8)
  | datagram (side : Side) (fd : Int) (cAddr : SockAddr) (recBuffer : List UInt8)
  | accept (side : Side) (c : Nat) (fd : Int)
  | read (side : Side) (c : Nat) (cAddr : SockAddr) (n : Nat)
  | eof (side : Side) (c : Nat) (cAddr : SockAddr)

def Bounded (total : Nat) (N : Network σ) : Prop := ∀ c, total ≤ c → N.conns c = none

def unused (N : Network σ) (total : Nat) (side : Side) (fd : Int) : Bool :=
  decide (0 ≤ fd) &&
    (List.range total).all fun c => (N.conns c).all fun k => decide (k.sockets side ≠ .client fd)

/-- A connection that is made takes the number `total`. -/
def perform (P : Programs σ) (total : Nat) (N : Network σ) : Choice → Option (Network σ)
  | .broadcast side data =>
      if data ∈ P.announcements side (N.parties side).program then
        some (dataPacketSender P N side data true)
      else none
  | .datagram side fd cAddr recBuffer =>
      if recBuffer ∈ N.air ∧ unused N total side fd then
        processUDPInput P N side total fd cAddr recBuffer
      else none
  | .accept side c fd =>
      match N.conns c with
      | none => none
      | some k =>
          if k.sockets side = .backlog ∧ unused N total side fd then
            some (addFdToClientList N side c k fd)
          else none
  | .read side c cAddr n =>
      match N.conns c with
      | none => none
      | some k =>
          match k.sockets side with
          | .client fd =>
              if k.inbox side = [] then none
              else processMessages P side c cAddr n
                (N.withComm side (setLastUsedCommChannel (N.parties side).comm fd))
          | _ => none
  | .eof side c cAddr =>
      match N.conns c with
      | none => none
      | some k =>
          match k.sockets side with
          | .client fd =>
              if k.sockets side.other = .closed ∧ k.inbox side = [] then
                some (destroyCurrentClient (channelShutdown P N side cAddr fd true) side fd)
              else none
          | _ => none

def run (P : Programs σ) : Nat → Network σ → List Choice → Option (Network σ)
  | _, N, [] => some N
  | total, N, x :: xs => (perform P total N x).bind fun N' => run P (total + 1) N' xs

theorem onSocket_none (h : N.conns c = none) (f : Connection → Connection) :
    (N.onSocket side fd f).conns c = none := congrArg (Option.map _) h

theorem dataPacketSender_none (h : N.conns c = none) (data : List UInt8) (broadcast : Bool) :
    (dataPacketSender P N side data broadcast).conns c = none := by
  rw [dataPacketSender]
  split
  · exact h
  · rw [clientDataSend]
    dsimp only
    split
    · exact h
    · exact onSocket_none (N := N.withParty side _) h _

theorem deliver_none {message : List UInt8} {r : Network σ × MesgProcessResult}
    (hr : deliver P N side cAddr message = some r) (h : N.conns c = none) : r.1.conns c = none := by
  obtain ⟨reaction, -, rfl⟩ := of_deliver hr
  dsimp only
  have hparty : (N.withParty side { N.parties side with
      program := reaction.program
      processed := (N.parties side).processed ++ [message] }).conns c = none := h
  generalize N.withParty side _ = N₁ at hparty
  induction reaction.dispatches generalizing N₁ with
  | nil => exact hparty
  | cons x xs ih => exact ih _ (dataPacketSender_none hparty x.1 x.2)

theorem rejectTalker_none (h : N.conns c = none) : (rejectTalker P N side cAddr).conns c = none :=
  congrArg (Option.map _) h

theorem processUDPInput_none {recBuffer : List UInt8} (hne : c' ≠ c)
    (hr : processUDPInput P N side c fd cAddr recBuffer = some N') (h : N.conns c' = none) :
    N'.conns c' = none := by
  have hlisted : (createTCPTalker N side c fd).conns c' = none := (withConn_of_ne N hne _).trans h
  rw [processUDPInput] at hr
  split at hr
  · split at hr
    · cases hr
    · obtain ⟨r, hdeliver, rfl⟩ := Option.map_eq_some_iff.mp hr
      have hr' := deliver_none hdeliver hlisted
      split
      · exact rejectTalker_none hr'
      · exact hr'
  · exact Option.some.inj hr ▸ h

theorem processMessages_none {n : Nat} : ∀ {N : Network σ},
    processMessages P side c cAddr n N = some N' → N.conns c' = none → N'.conns c' = none := by
  induction n with
  | zero =>
      intro N hr h
      exact Option.some.inj hr ▸ h
  | succ n ih =>
      intro N hr h
      rw [processMessages] at hr
      split at hr
      next => cases hr
      next k hc =>
        have hne : c' ≠ c := by
          rintro rfl
          rw [h] at hc
          cases hc
        split at hr
        next => cases hr
        next message inbox hinbox =>
          split at hr
          next => cases hr
          next r hdeliver =>
            exact ih hr (deliver_none hdeliver ((withConn_of_ne N hne _).trans h))

theorem of_unused (hb : Bounded total N) (h : unused N total side fd) : Unused N side fd := by
  rw [unused, Bool.and_eq_true, List.all_eq_true] at h
  refine ⟨of_decide_eq_true h.1, fun c k hc => ?_⟩
  rcases Nat.lt_or_ge c total with hlt | hge
  · have hall := h.2 c (List.mem_range.mpr hlt)
    rw [hc] at hall
    exact of_decide_eq_true hall
  · rw [hb c hge] at hc
    cases hc

theorem perform_sound {x : Choice} (hb : Bounded total N) (h : perform P total N x = some N') :
    Step P N N' ∧ Bounded (total + 1) N' := by
  have hnone : ∀ c, total + 1 ≤ c → N.conns c = none := fun c hc => hb c (Nat.le_of_succ_le hc)
  cases x with
  | broadcast side data =>
      rw [perform] at h
      split at h
      next hdata =>
        obtain rfl := Option.some.inj h
        exact ⟨.broadcast N side data hdata, fun c hc => dataPacketSender_none (hnone c hc) data true⟩
      next => cases h
  | datagram side fd cAddr recBuffer =>
      rw [perform] at h
      split at h
      next hair =>
        constructor
        · exact .datagram N N' side total fd cAddr recBuffer hair.1 (hb total (Nat.le_refl total))
            (of_unused hb hair.2) h
        · exact fun c hc => processUDPInput_none (Nat.ne_of_gt hc) h (hnone c hc)
      next => cases h
  | accept side c fd =>
      rw [perform] at h
      split at h
      next => cases h
      next k hk =>
        split at h
        next hback =>
          obtain rfl := Option.some.inj h
          refine ⟨.accept N side c k fd hk hback.1 (of_unused hb hback.2), fun c' hc' => ?_⟩
          have hne : c' ≠ c := by
            rintro rfl
            rw [hnone c' hc'] at hk
            cases hk
          exact (withConn_of_ne N hne _).trans (hnone c' hc')
        next => cases h
  | read side c cAddr n =>
      rw [perform] at h
      split at h
      next => cases h
      next k hk =>
        split at h
        next fd hfd =>
          split at h
          next => cases h
          next hinbox =>
            exact ⟨.read N N' side c k fd cAddr n hk hfd hinbox h,
              fun c' hc' => processMessages_none h (hnone c' hc')⟩
        next => cases h
  | eof side c cAddr =>
      rw [perform] at h
      split at h
      next => cases h
      next k hk =>
        split at h
        next fd hfd =>
          split at h
          next hclosed =>
            obtain rfl := Option.some.inj h
            exact ⟨.eof N side c k fd cAddr hk hfd hclosed.1 hclosed.2,
              fun c' hc' => onSocket_none (N := channelShutdown P N side cAddr fd true) (hnone c' hc') _⟩
          next => cases h
        next => cases h

theorem run_sound {xs : List Choice} : ∀ {total : Nat} {N : Network σ}, Bounded total N →
    run P total N xs = some N' → ReflTransGen (Step P) N N' := by
  induction xs with
  | nil =>
      intro total N _ h
      rw [run, Option.some.injEq] at h
      exact h ▸ .refl
  | cons x xs ih =>
      intro total N hb h
      rw [run] at h
      obtain ⟨N₁, hstep, h⟩ := Option.bind_eq_some_iff.mp h
      obtain ⟨hstep, hb₁⟩ := perform_sound hb hstep
      exact .head hstep (ih hb₁ h)

end PyConnect.Schedule

import Mathlib.Algebra.Order.Ring.Int
import Mathlib.Data.List.Basic
import Mathlib.Data.List.Flatten

namespace PyConnect.FrameStream

/-- What a receiver makes of the bytes it has in hand: a whole frame and the
bytes after it, a beginning that it keeps, or bytes that it gives up. -/
inductive Resolution (α : Type)
  | frame (payload rest : List α)
  | hold
  | lose
  deriving DecidableEq

structure Format (α : Type) where
  Valid : List α → Prop
  frame : List α → List α
  resolve : List α → Resolution α
  resolve_frame : ∀ {p}, Valid p → ∀ rest, resolve (frame p ++ rest) = .frame p rest
  of_resolve_frame : ∀ {u p rest}, resolve u = .frame p rest → Valid p ∧ u = frame p ++ rest
  frame_ne_nil : ∀ p, frame p ≠ []

variable {α : Type} (F : Format α)

def Format.frames (ps : List (List α)) : List α := ps.flatMap F.frame

/-- One read, with the bytes held before it in front: the payloads handed on,
the bytes held after it, and how many bytes were given up. -/
inductive Scan : List α → List (List α) → List α → Nat → Prop
  | last {u p} : F.resolve u = .frame p [] → Scan u [p] [] 0
  | more {u p rest ds q k} : F.resolve u = .frame p rest → rest ≠ [] → Scan rest ds q k →
      Scan u (p :: ds) q k
  | hold {u} : F.resolve u = .hold → Scan u [] u 0
  | lose {u} : F.resolve u = .lose → Scan u [] [] u.length

inductive Reads : List α → List (List α) → List (List α) → List α → Nat → Prop
  | nil {q} : Reads q [] [] q 0
  | cons {q c cs ds es q' q'' k l} : Scan F (q ++ c) ds q' k → Reads q' cs es q'' l →
      Reads q (c :: cs) (ds ++ es) q'' (k + l)

/-- A byte string in which these payloads lie framed, in order, with gaps. -/
inductive Laid : List α → List (List α) → Prop
  | gap (w) : Laid w []
  | frame (gap : List α) {p w ds} : F.Valid p → Laid w ds → Laid (gap ++ F.frame p ++ w) (p :: ds)

/-- A cut of a framed stream at which the receiver keeps all it has: between
two frames, or at a beginning of a frame that it holds. -/
def HeldCut : List (List α) → Nat → Prop
  | [], _ => True
  | p :: ps, c =>
      if c < (F.frame p).length then c = 0 ∨ F.resolve ((F.frame p).take c) = .hold
      else HeldCut ps (c - (F.frame p).length)

variable {F}

@[simp] theorem frames_nil : F.frames [] = [] := rfl

@[simp] theorem frames_cons (p : List α) (ps : List (List α)) :
    F.frames (p :: ps) = F.frame p ++ F.frames ps := rfl

theorem frames_append (ps qs : List (List α)) : F.frames (ps ++ qs) = F.frames ps ++ F.frames qs :=
  List.flatMap_append

theorem frame_cancel {p p' a b : List α} (hp : F.Valid p) (hp' : F.Valid p')
    (h : F.frame p ++ a = F.frame p' ++ b) : p = p' ∧ a = b := by
  have hr := F.resolve_frame hp a
  rw [h, F.resolve_frame hp' b] at hr
  simpa [eq_comm] using hr

theorem frame_length_pos (p : List α) : 0 < (F.frame p).length :=
  List.length_pos_iff.mpr (F.frame_ne_nil p)

theorem resolve_frames {p : List α} {q : List (List α)} (hp : F.Valid p) :
    F.resolve (F.frames (p :: q)) = .frame p (F.frames q) := F.resolve_frame hp _

theorem Laid.prepend {w : List α} {ds : List (List α)} (pre : List α) (h : Laid F w ds) :
    Laid F (pre ++ w) ds := by
  cases h with
  | gap w => exact .gap _
  | frame gap hp hw =>
      rw [← List.append_assoc, ← List.append_assoc]
      exact .frame (pre ++ gap) hp hw

theorem Laid.append {v w : List α} {ds es : List (List α)} (hv : Laid F v ds) (hw : Laid F w es) :
    Laid F (v ++ w) (ds ++ es) := by
  induction hv with
  | gap v => exact hw.prepend v
  | frame gap hp _ ih =>
      rw [List.append_assoc]
      exact .frame gap hp ih

theorem Scan.laid {u q : List α} {ds : List (List α)} {k : Nat} (h : Scan F u ds q k) :
    ∃ w, u = w ++ q ∧ Laid F w ds := by
  induction h with
  | @last u p hu =>
      obtain ⟨hp, he⟩ := F.of_resolve_frame hu
      refine ⟨u, (List.append_nil u).symm, ?_⟩
      rw [he]
      exact .frame [] hp (.gap [])
  | more hu _ _ ih =>
      obtain ⟨hp, rfl⟩ := F.of_resolve_frame hu
      obtain ⟨w, rfl, hw⟩ := ih
      exact ⟨_, (List.append_assoc _ _ _).symm, .frame [] hp hw⟩
  | hold => exact ⟨[], rfl, .gap []⟩
  | @lose u _ => exact ⟨u, (List.append_nil u).symm, .gap u⟩

theorem Reads.laid {q q' : List α} {cs ds : List (List α)} {k : Nat} (h : Reads F q cs ds q' k) :
    ∃ w, q ++ cs.flatten = w ++ q' ∧ Laid F w ds := by
  induction h with
  | nil => exact ⟨[], by simp, .gap []⟩
  | cons hs _ ih =>
      obtain ⟨v, hv, hl⟩ := hs.laid
      obtain ⟨w, hw, hm⟩ := ih
      refine ⟨v ++ w, ?_, hl.append hm⟩
      rw [List.flatten_cons, ← List.append_assoc, hv, List.append_assoc, hw, List.append_assoc]

/-- Laid payloads have positions: each is framed at its own, and each frame
ends before the next begins. -/
theorem Laid.positions {w : List α} {ds : List (List α)} (h : Laid F w ds) :
    ∃ ps : List Nat, ps.length = ds.length ∧
      (∀ x ∈ ps.zip ds, F.Valid x.2 ∧ F.frame x.2 <+: w.drop x.1) ∧
      (ps.zip ds).Pairwise fun x y => x.1 + (F.frame x.2).length ≤ y.1 := by
  induction h with
  | gap w => exact ⟨[], rfl, by simp, by simp⟩
  | @frame gap p w ds hp _ ih =>
      obtain ⟨ps, hlen, hat, hord⟩ := ih
      have hzip : (ps.map (gap.length + (F.frame p).length + ·)).zip ds =
          (ps.zip ds).map fun x => (gap.length + (F.frame p).length + x.1, x.2) := by
        rw [List.zip_map_left]
        rfl
      refine ⟨gap.length :: ps.map (gap.length + (F.frame p).length + ·), by simpa using hlen, ?_, ?_⟩
      · rw [List.zip_cons_cons, List.forall_mem_cons, hzip]
        refine ⟨⟨hp, by simp⟩, fun x hx => ?_⟩
        obtain ⟨y, hy, rfl⟩ := List.mem_map.mp hx
        obtain ⟨hv, hpre⟩ := hat y hy
        refine ⟨hv, ?_⟩
        rw [← List.length_append, ← List.drop_drop, List.drop_left]
        exact hpre
      · rw [List.zip_cons_cons, List.pairwise_cons, hzip, List.pairwise_map]
        refine ⟨fun x hx => ?_, hord.imp fun h => ?_⟩
        · obtain ⟨y, _, rfl⟩ := List.mem_map.mp hx
          simp only
          omega
        · simp only
          omega

theorem Scan.length_eq {u q : List α} {ds : List (List α)} {k : Nat} (h : Scan F u ds q k) :
    u.length = (F.frames ds).length + q.length + k := by
  induction h with
  | last hu =>
      obtain ⟨_, rfl⟩ := F.of_resolve_frame hu
      simp
  | more hu _ _ ih =>
      obtain ⟨_, rfl⟩ := F.of_resolve_frame hu
      simp only [List.length_append, frames_cons]
      omega
  | hold => simp
  | lose => simp

theorem Reads.length_eq {q q' : List α} {cs ds : List (List α)} {k : Nat}
    (h : Reads F q cs ds q' k) :
    q.length + cs.flatten.length = (F.frames ds).length + q'.length + k := by
  induction h with
  | nil => simp
  | cons hs _ ih =>
      have hl := hs.length_eq
      simp only [List.length_append, List.flatten_cons, frames_append] at *
      omega

theorem Scan.held {u q : List α} {ds : List (List α)} {k : Nat} (h : Scan F u ds q k) :
    q = [] ∨ F.resolve q = .hold := by
  induction h with
  | last => exact .inl rfl
  | more _ _ _ ih => exact ih
  | hold hu => exact .inr hu
  | lose => exact .inl rfl

theorem Reads.held {q q' : List α} {cs ds : List (List α)} {k : Nat} (h : Reads F q cs ds q' k)
    (hq : q = [] ∨ F.resolve q = .hold) : q' = [] ∨ F.resolve q' = .hold := by
  induction h with
  | nil => exact hq
  | cons hs _ ih => exact ih hs.held

theorem frames_eq_nil {ps : List (List α)} (h : F.frames ps = []) : ps = [] := by
  cases ps with
  | nil => rfl
  | cons p ps => exact absurd (List.append_eq_nil_iff.mp h).1 (F.frame_ne_nil p)

theorem Scan.whole {u q : List α} {ds ps : List (List α)} {k : Nat} (h : Scan F u ds q k)
    (hu : u = F.frames ps) (hne : ps ≠ []) (hv : ∀ p ∈ ps, F.Valid p) : ds = ps ∧ q = [] := by
  induction h generalizing ps with
  | last hr =>
      obtain ⟨x, ps, rfl⟩ := List.exists_cons_of_ne_nil hne
      rw [hu, resolve_frames (hv x List.mem_cons_self), Resolution.frame.injEq] at hr
      rw [frames_eq_nil hr.2, hr.1]
      exact ⟨rfl, rfl⟩
  | more hr hrest _ ih =>
      obtain ⟨x, ps, rfl⟩ := List.exists_cons_of_ne_nil hne
      obtain ⟨hx, hps⟩ := List.forall_mem_cons.mp hv
      rw [hu, resolve_frames hx, Resolution.frame.injEq] at hr
      obtain ⟨rfl, rfl⟩ := hr
      have hps' : ps ≠ [] := fun h => hrest (by rw [h, frames_nil])
      obtain ⟨rfl, hq⟩ := ih rfl hps' hps
      exact ⟨rfl, hq⟩
  | hold hr | lose hr =>
      obtain ⟨x, ps, rfl⟩ := List.exists_cons_of_ne_nil hne
      rw [hu, resolve_frames (hv x List.mem_cons_self)] at hr
      cases hr
theorem heldCut_append (ds ps : List (List α)) (c : Nat) :
    HeldCut F (ds ++ ps) ((F.frames ds).length + c) ↔ HeldCut F ps c := by
  induction ds with
  | nil => simp
  | cons p ds ih =>
      rw [List.cons_append, HeldCut, if_neg (by simp; omega), frames_cons, List.length_append,
        Nat.add_assoc, Nat.add_sub_cancel_left]
      exact ih

/-- The bytes in hand, when the stream is framed: a whole frame, or a proper
beginning of the next one. -/
theorem split_frames {u rest p : List α} {ps : List (List α)}
    (h : u ++ rest = F.frames (p :: ps)) :
    (∃ u', u = F.frame p ++ u' ∧ u' ++ rest = F.frames ps) ∨
      (u.length < (F.frame p).length ∧ u = (F.frame p).take u.length) := by
  by_cases hl : u.length < (F.frame p).length
  · refine .inr ⟨hl, ?_⟩
    have ht := congrArg (List.take u.length) h
    rwa [List.take_left, frames_cons, List.take_append_of_le_length (by omega)] at ht
  · have ht := congrArg (List.take (F.frame p).length) h
    rw [List.take_append_of_le_length (by omega), frames_cons, List.take_left] at ht
    refine .inl ⟨u.drop (F.frame p).length, ?_, ?_⟩
    · conv_lhs => rw [← List.take_append_drop (F.frame p).length u, ht]
    · have hd := congrArg (List.drop (F.frame p).length) h
      rwa [List.drop_append_of_le_length (by omega), frames_cons, List.drop_left] at hd

/-- A read of a framed stream gives nothing up exactly when it ends at a cut
that can be held; what follows is then framed from the held bytes on. -/
theorem Scan.lossless_iff {u q rest : List α} {ds ps : List (List α)} {k : Nat}
    (h : Scan F u ds q k) (hu : u ≠ []) (hv : ∀ p ∈ ps, F.Valid p)
    (hs : u ++ rest = F.frames ps) :
    (k = 0 ↔ HeldCut F ps u.length) ∧
      (k = 0 → ∃ ps', ps = ds ++ ps' ∧ q ++ rest = F.frames ps') := by
  induction h generalizing ps with
  | @last u p hr =>
      obtain ⟨hp, rfl⟩ := F.of_resolve_frame hr
      cases ps with
      | nil => simp_all
      | cons p' ps =>
          rw [List.append_nil] at hs
          obtain ⟨rfl, rfl⟩ := frame_cancel hp (hv _ List.mem_cons_self) hs
          refine ⟨?_, fun _ => ⟨ps, rfl, rfl⟩⟩
          have h0 : HeldCut F ps 0 := by
            cases ps with
            | nil => exact trivial
            | cons x ps =>
                rw [HeldCut, if_pos (frame_length_pos x)]
                exact .inl rfl
          simp [HeldCut, h0]
  | @more u p r ds q k hr hne _ ih =>
      obtain ⟨hp, rfl⟩ := F.of_resolve_frame hr
      cases ps with
      | nil => simp_all
      | cons p' ps =>
          rw [List.append_assoc] at hs
          obtain ⟨rfl, he⟩ := frame_cancel hp (hv _ List.mem_cons_self) hs
          obtain ⟨hk, hd⟩ := ih hne (fun x hx => hv x (List.mem_cons_of_mem p hx)) he
          refine ⟨?_, ?_⟩
          · rw [HeldCut, if_neg (by simp), List.length_append, Nat.add_sub_cancel_left]
            exact hk
          · intro h0
            obtain ⟨ps', rfl, hq⟩ := hd h0
            exact ⟨ps', rfl, hq⟩
  | @hold u hr =>
      refine ⟨⟨fun _ => ?_, fun _ => rfl⟩, fun _ => ⟨ps, rfl, hs⟩⟩
      cases ps with
      | nil => exact trivial
      | cons p ps =>
          obtain ⟨u', rfl, _⟩ | ⟨hl, he⟩ := split_frames hs
          · rw [F.resolve_frame (hv p List.mem_cons_self)] at hr
            cases hr
          · rw [HeldCut, if_pos hl, ← he]
            exact .inr hr
  | @lose u hr =>
      have hpos : u.length ≠ 0 := by simpa using hu
      refine ⟨⟨fun h0 => absurd h0 hpos, fun hc => ?_⟩, fun h0 => absurd h0 hpos⟩
      cases ps with
      | nil => simp_all
      | cons p ps =>
          obtain ⟨u', rfl, _⟩ | ⟨hl, he⟩ := split_frames hs
          · rw [F.resolve_frame (hv p List.mem_cons_self)] at hr
            cases hr
          · rw [HeldCut, if_pos hl, ← he, hr] at hc
            simpa using hc

theorem Reads.lossless_iff {q q' rest : List α} {cs ds ps : List (List α)} {k : Nat}
    (h : Reads F q cs ds q' k) (hc : ∀ c ∈ cs, c ≠ []) (hv : ∀ p ∈ ps, F.Valid p)
    (hs : q ++ cs.flatten ++ rest = F.frames ps) :
    (k = 0 ↔ ∀ i, 0 < i → i ≤ cs.length → HeldCut F ps (q ++ (cs.take i).flatten).length) ∧
      (k = 0 → ∃ ps', ps = ds ++ ps' ∧ q' ++ rest = F.frames ps') := by
  induction h generalizing ps with
  | nil =>
      refine ⟨⟨fun _ i hi hle => ?_, fun _ => rfl⟩, fun _ => ⟨ps, rfl, by simpa using hs⟩⟩
      simp at hle
      omega
  | @cons q c cs ds es q' q'' k l hsc hr ih =>
      have hne : q ++ c ≠ [] := by simp [hc c List.mem_cons_self]
      have hs' : (q ++ c) ++ (cs.flatten ++ rest) = F.frames ps := by simpa using hs
      obtain ⟨hk, hd⟩ := hsc.lossless_iff hne hv hs'
      by_cases h0 : k = 0
      · obtain ⟨ps', rfl, hq⟩ := hd h0
        have hlen := hsc.length_eq
        obtain ⟨hl, he⟩ := ih (fun x hx => hc x (List.mem_cons_of_mem c hx))
          (fun p hp => hv p (List.mem_append_right ds hp)) (by simpa using hq)
        have hcut : ∀ i, HeldCut F (ds ++ ps') (q ++ ((c :: cs).take (i + 1)).flatten).length ↔
            HeldCut F ps' (q' ++ (cs.take i).flatten).length := by
          intro i
          rw [← heldCut_append ds ps']
          have hsum : (q ++ ((c :: cs).take (i + 1)).flatten).length =
              (F.frames ds).length + (q' ++ (cs.take i).flatten).length := by
            simp only [List.take_succ_cons, List.flatten_cons, List.length_append] at *
            omega
          rw [hsum]
        refine ⟨?_, ?_⟩
        · rw [h0, Nat.zero_add, hl]
          refine ⟨fun hi i hpos hle => ?_, fun hi i hpos hle => ?_⟩
          · obtain ⟨j, rfl⟩ := Nat.exists_eq_add_of_lt hpos
            rw [Nat.zero_add, hcut]
            by_cases hj : 0 < j
            · exact hi j hj (by simp at hle; omega)
            · have hj0 : j = 0 := by omega
              subst hj0
              have hf := (hcut 0).mp (by simpa using hk.mp h0)
              exact hf
          · exact (hcut i).mp (hi (i + 1) (Nat.succ_pos i) (by simp; omega))
        · intro h
          obtain ⟨ps'', rfl, hq'⟩ := he (by omega)
          exact ⟨ps'', (List.append_assoc _ _ _).symm, hq'⟩
      · have hf : ¬ HeldCut F ps (q ++ c).length := fun hh => h0 (hk.mpr hh)
        refine ⟨⟨fun h => absurd h (by omega), fun hi => ?_⟩, fun h => absurd h (by omega)⟩
        exact absurd (by simpa using hi 1 Nat.one_pos (by simp)) hf

/-- A receiver that ends with no bytes of a frame owed has the whole stream. -/
theorem Reads.complete_iff {q : List α} {cs ds ps : List (List α)} {k : Nat}
    (h : Reads F [] cs ds q k) (hc : ∀ c ∈ cs, c ≠ []) (hv : ∀ p ∈ ps, F.Valid p)
    (hs : cs.flatten = F.frames ps) :
    (ds = ps ↔ ∀ i, 0 < i → i ≤ cs.length → HeldCut F ps (cs.take i).flatten.length) ∧
      (ds = ps → q = [] ∧ k = 0) := by
  have hs' : [] ++ cs.flatten ++ [] = F.frames ps := by simpa using hs
  obtain ⟨hk, hd⟩ := h.lossless_iff hc hv hs'
  have hlen := h.length_eq
  have hdone : ds = ps → q = [] ∧ k = 0 := by
    rintro rfl
    rw [hs] at hlen
    simp only [List.length_nil] at hlen
    exact ⟨List.length_eq_zero_iff.mp (by omega), by omega⟩
  refine ⟨?_, hdone⟩
  simp only [List.nil_append] at hk
  rw [← hk]
  refine ⟨fun he => (hdone he).2, fun h0 => ?_⟩
  obtain ⟨ps', rfl, hq⟩ := hd h0
  rw [List.append_nil] at hq
  cases ps' with
  | nil => simp
  | cons p ps' =>
      have hr := resolve_frames (q := ps') (hv p (by simp))
      rw [← hq] at hr
      obtain rfl | hh := h.held (.inl rfl)
      · exact absurd hq.symm (by simp [F.frame_ne_nil])
      · rw [hh] at hr
        cases hr

end PyConnect.FrameStream

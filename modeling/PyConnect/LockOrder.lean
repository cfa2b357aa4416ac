import Mathlib.Algebra.Order.BigOperators.Group.Finset
import Mathlib.Computability.Language
import Mathlib.Data.Multiset.Count
import Mathlib.Data.Multiset.Filter
import Mathlib.Logic.Relation
import Mathlib.Order.WellFounded

namespace PyConnect.LockOrder

open Relation
open scoped Computability

/-- What a thread does with locks that it may take again and again. To yield
one is to give up every hold on it and then to resume them all. -/
inductive Action (L : Type)
  | acquire (l : L)
  | release (l : L)
  | yield (l : L)
  | resume (l : L) (n : Nat)

structure Thread (L : Type) where
  held : Multiset L
  todo : List (Action L)

variable {L T : Type} [DecidableEq L] [DecidableEq T]

abbrev System (T L : Type) := T → Thread L

def Free (S : System T L) (t : T) (l : L) : Prop := ∀ t', t' ≠ t → l ∉ (S t').held

/-- One thread does the next thing that it has to do. -/
inductive Advance : System T L → System T L → Prop
  | acquire (S : System T L) (t : T) (l : L) (rest : List (Action L)) :
      (S t).todo = .acquire l :: rest → Free S t l →
      Advance S (Function.update S t ⟨l ::ₘ (S t).held, rest⟩)
  | release (S : System T L) (t : T) (l : L) (rest : List (Action L)) :
      (S t).todo = .release l :: rest → l ∈ (S t).held →
      Advance S (Function.update S t ⟨(S t).held.erase l, rest⟩)
  | yield (S : System T L) (t : T) (l : L) (rest : List (Action L)) :
      (S t).todo = .yield l :: rest →
      Advance S (Function.update S t
        ⟨(S t).held.filter (· ≠ l), .resume l ((S t).held.count l) :: rest⟩)
  | resume (S : System T L) (t : T) (l : L) (n : Nat) (rest : List (Action L)) :
      (S t).todo = .resume l n :: rest → Free S t l →
      Advance S (Function.update S t ⟨(S t).held + Multiset.replicate n l, rest⟩)

/-- A thread that has nothing to do begins one of its operations. -/
inductive Begin (ops : T → Language (Action L)) : System T L → System T L → Prop
  | begin (S : System T L) (t : T) (as : List (Action L)) : (S t).todo = [] → as ∈ ops t →
      Begin ops S (Function.update S t ⟨(S t).held, as⟩)

def idle : System T L := fun _ => ⟨0, []⟩

def Reach (ops : T → Language (Action L)) (S : System T L) : Prop :=
  ReflTransGen (fun S S' => Advance S S' ∨ Begin ops S S') idle S

section Order

variable [PartialOrder L]

/-- A thread that does this takes a lock only when it holds none that comes
after it, releases only what it holds, and is left with these locks. -/
def Keeps : Multiset L → List (Action L) → Multiset L → Prop
  | held, [], left => held = left
  | held, .acquire l :: rest, left => (∀ x ∈ held, x ≤ l) ∧ Keeps (l ::ₘ held) rest left
  | held, .release l :: rest, left => l ∈ held ∧ Keeps (held.erase l) rest left
  | held, .yield l :: rest, left => (∀ x ∈ held, x ≤ l) ∧ Keeps held rest left
  | held, .resume l n :: rest, left =>
      (∀ x ∈ held, x ≤ l) ∧ Keeps (held + Multiset.replicate n l) rest left

/-- Wherever no later lock is held, these operations on locks of `A` can be
done, and leave as held what was. -/
def Safe (A : Set L) (K : Language (Action L)) : Prop :=
  ∀ held : Multiset L, (∀ l ∈ A, ∀ x ∈ held, x ≤ l) → ∀ as ∈ K, Keeps held as held

variable {A B : Set L} {K M : Language (Action L)} {held left : Multiset L}
  {as bs : List (Action L)} {S S' : System T L} {ops : T → Language (Action L)}

theorem Keeps.append {middle : Multiset L} (h : Keeps held as middle) (h' : Keeps middle bs left) :
    Keeps held (as ++ bs) left := by
  induction as generalizing held with
  | nil =>
      obtain rfl : held = middle := h
      exact h'
  | cons a as ih =>
      cases a with
      | acquire l => exact ⟨h.1, ih h.2⟩
      | release l => exact ⟨h.1, ih h.2⟩
      | yield l => exact ⟨h.1, ih h.2⟩
      | resume l n => exact ⟨h.1, ih h.2⟩

theorem Safe.mono (h : Safe A K) (hAB : A ⊆ B) : Safe B K :=
  fun held hheld => h held fun l hl => hheld l (hAB hl)

theorem Safe.one : Safe A (1 : Language (Action L)) := by
  intro held _ as has
  rw [(Language.mem_one as).mp has]
  rfl

theorem Safe.add (hK : Safe A K) (hM : Safe A M) : Safe A (K + M) := by
  intro held hheld as has
  rcases (Language.mem_add K M as).mp has with has | has
  · exact hK held hheld as has
  · exact hM held hheld as has

theorem Safe.mul (hK : Safe A K) (hM : Safe A M) : Safe A (K * M) := by
  intro held hheld as has
  obtain ⟨xs, hxs, ys, hys, rfl⟩ := Language.mem_mul.mp has
  exact (hK held hheld xs hxs).append (hM held hheld ys hys)

theorem Safe.kstar (hK : Safe A K) : Safe A K∗ := by
  intro held hheld as has
  obtain ⟨xss, rfl, hxss⟩ := Language.mem_kstar.mp has
  clear has
  induction xss with
  | nil => rfl
  | cons xs xss ih =>
      rw [List.flatten_cons]
      exact (hK held hheld xs (hxss xs List.mem_cons_self)).append
        (ih fun ys hys => hxss ys (List.mem_cons_of_mem xs hys))

theorem Safe.iUnion {ι : Type} {K : ι → Language (Action L)} (h : ∀ i, Safe A (K i)) :
    Safe A {as | ∃ i, as ∈ K i} := by
  rintro held hheld as ⟨i, has⟩
  exact h i held hheld as has

def just (a : Action L) : Language (Action L) := {[a]}

def locked (l : L) (K : Language (Action L)) : Language (Action L) := just (.acquire l) * K * just (.release l)

omit [DecidableEq L] [PartialOrder L] in
theorem mem_just (a : Action L) : [a] ∈ just a := rfl

omit [DecidableEq L] [PartialOrder L] in
theorem mem_locked {l : L} (h : as ∈ K) : .acquire l :: (as ++ [.release l]) ∈ locked l K :=
  Language.append_mem_mul (Language.append_mem_mul (mem_just _) h) (mem_just _)

theorem Safe.locked {l : L} (hK : Safe A K) (hl : ∀ a ∈ A, l ≤ a) : Safe (insert l A) (locked l K) := by
  intro held hheld as has
  obtain ⟨xs, hxs, ys, rfl, rfl⟩ := Language.mem_mul.mp has
  obtain ⟨xs, rfl, zs, hzs, rfl⟩ := Language.mem_mul.mp hxs
  have hlock : ∀ x ∈ held, x ≤ l := hheld l (Set.mem_insert l A)
  have hinner : Keeps (l ::ₘ held) zs (l ::ₘ held) := by
    refine hK _ (fun a ha x hx => ?_) zs hzs
    rcases Multiset.mem_cons.mp hx with rfl | hx
    · exact hl a ha
    · exact (hlock x hx).trans (hl a ha)
  have hrelease : Keeps (l ::ₘ held) [.release l] held :=
    ⟨Multiset.mem_cons_self l held, Multiset.erase_cons_head l held⟩
  have hacquire : Keeps held [.acquire l] (l ::ₘ held) := ⟨hlock, rfl⟩
  exact (hacquire.append hinner).append hrelease

theorem Safe.yield (l : L) : Safe {l} (just (.yield l)) := by
  rintro held hheld as rfl
  exact ⟨hheld l rfl, rfl⟩

/-- Each thread can do what it has begun, and no lock is held twice. -/
structure Sound (S : System T L) : Prop where
  keeps : ∀ t, Keeps (S t).held (S t).todo 0
  exclusive : ∀ t t', t' ≠ t → ∀ l ∈ (S t).held, l ∉ (S t').held

omit [DecidableEq T] in
theorem sound_idle : Sound (idle : System T L) where
  keeps _ := rfl
  exclusive _ _ _ _ h := absurd h (Multiset.notMem_zero _)

theorem Sound.update (h : Sound S) {t : T} {thread : Thread L} (hkeeps : Keeps thread.held thread.todo 0)
    (hheld : ∀ l ∈ thread.held, l ∈ (S t).held ∨ Free S t l) : Sound (Function.update S t thread) := by
  have hfree : ∀ t', t' ≠ t → ∀ l ∈ thread.held, l ∉ (S t').held := by
    intro t' ht l hl
    rcases hheld l hl with hl | hl
    · exact h.exclusive t t' ht l hl
    · exact hl t' ht
  constructor
  · intro t₁
    by_cases h₁ : t₁ = t
    · subst h₁
      rw [Function.update_self]
      exact hkeeps
    · rw [Function.update_of_ne h₁]
      exact h.keeps t₁
  · intro t₁ t₂ hne l hl
    by_cases h₁ : t₁ = t
    · subst h₁
      rw [Function.update_self] at hl
      rw [Function.update_of_ne hne]
      exact hfree t₂ hne l hl
    · rw [Function.update_of_ne h₁] at hl
      by_cases h₂ : t₂ = t
      · subst h₂
        rw [Function.update_self]
        exact fun hl' => hfree t₁ h₁ l hl' hl
      · rw [Function.update_of_ne h₂]
        exact h.exclusive t₁ t₂ hne l hl

omit [PartialOrder L] in
theorem filter_add_replicate (held : Multiset L) (l : L) :
    held.filter (· ≠ l) + Multiset.replicate (held.count l) l = held := by
  have hsplit := Multiset.filter_add_not (· ≠ l) held
  rw [← Multiset.filter_eq' held l]
  simpa using hsplit

theorem sound_advance (h : Sound S) (hstep : Advance S S') : Sound S' := by
  cases hstep with
  | acquire t l rest htodo hfree =>
      have hkeeps := h.keeps t
      rw [htodo] at hkeeps
      refine h.update hkeeps.2 fun x hx => ?_
      rcases Multiset.mem_cons.mp hx with rfl | hx
      · exact .inr hfree
      · exact .inl hx
  | release t l rest htodo hheld =>
      have hkeeps := h.keeps t
      rw [htodo] at hkeeps
      exact h.update hkeeps.2 fun x hx => .inl (Multiset.mem_of_mem_erase hx)
  | yield t l rest htodo =>
      have hkeeps := h.keeps t
      rw [htodo] at hkeeps
      refine h.update ⟨fun x hx => hkeeps.1 x (Multiset.mem_of_mem_filter hx), ?_⟩
        fun x hx => .inl (Multiset.mem_of_mem_filter hx)
      rw [filter_add_replicate]
      exact hkeeps.2
  | resume t l n rest htodo hfree =>
      have hkeeps := h.keeps t
      rw [htodo] at hkeeps
      refine h.update hkeeps.2 fun x hx => ?_
      rcases Multiset.mem_add.mp hx with hx | hx
      · exact .inl hx
      · rw [Multiset.eq_of_mem_replicate hx]
        exact .inr hfree

theorem sound_run (h : Sound S) (hrun : ReflTransGen Advance S S') : Sound S' := by
  induction hrun with
  | refl => exact h
  | tail _ hstep ih => exact sound_advance ih hstep

theorem sound_begin (hops : ∀ t, ∀ as ∈ ops t, Keeps 0 as 0) (h : Sound S) (hstep : Begin ops S S') :
    Sound S' := by
  cases hstep with
  | begin t as htodo has =>
      have hkeeps := h.keeps t
      rw [htodo] at hkeeps
      have hheld : (S t).held = 0 := hkeeps
      refine h.update ?_ fun l hl => .inl hl
      rw [hheld]
      exact hops t as has

theorem sound_reach (hops : ∀ t, ∀ as ∈ ops t, Keeps 0 as 0) (h : Reach ops S) : Sound S := by
  induction h with
  | refl => exact sound_idle
  | tail _ hstep ih =>
      rcases hstep with hstep | hstep
      · exact sound_advance ih hstep
      · exact sound_begin hops ih hstep

/-- What keeps a thread waiting. -/
def Action.waits : Action L → Option L
  | acquire l => some l
  | resume l _ => some l
  | _ => none

/-- A thread that waits for a lock in vain waits for one that waits for a later
lock in turn; that cannot go on. -/
theorem advance_of_waits [WellFoundedGT L] (h : Sound S) {t : T} {a : Action L} {rest : List (Action L)}
    {l : L} (htodo : (S t).todo = a :: rest) (hl : a.waits = some l) : ∃ S', Advance S S' := by
  induction l using WellFoundedGT.induction generalizing t a rest with
  | ind l ih =>
      by_cases hfree : Free S t l
      · cases a with
        | acquire l' =>
            obtain rfl := Option.some.inj hl
            exact ⟨_, .acquire S t l' rest htodo hfree⟩
        | resume l' n =>
            obtain rfl := Option.some.inj hl
            exact ⟨_, .resume S t l' n rest htodo hfree⟩
        | release l' => cases hl
        | yield l' => cases hl
      · rw [Free] at hfree
        push Not at hfree
        obtain ⟨t', hne, hheld⟩ := hfree
        have hkeeps := h.keeps t'
        cases htodo' : (S t').todo with
        | nil =>
            rw [htodo'] at hkeeps
            rw [show (S t').held = 0 from hkeeps] at hheld
            cases Multiset.notMem_zero l hheld
        | cons a' rest' =>
            rw [htodo'] at hkeeps
            cases a' with
            | release l' => exact ⟨_, .release S t' l' rest' htodo' hkeeps.1⟩
            | yield l' => exact ⟨_, .yield S t' l' rest' htodo'⟩
            | acquire l' =>
                by_cases hll : l' = l
                · subst hll
                  exact ⟨_, .acquire S t' l' rest' htodo' fun t'' ht => h.exclusive t' t'' ht l' hheld⟩
                · exact ih l' (lt_of_le_of_ne (hkeeps.1 l hheld) (Ne.symm hll)) htodo' rfl
            | resume l' n =>
                by_cases hll : l' = l
                · subst hll
                  exact ⟨_, .resume S t' l' n rest' htodo' fun t'' ht => h.exclusive t' t'' ht l' hheld⟩
                · exact ih l' (lt_of_le_of_ne (hkeeps.1 l hheld) (Ne.symm hll)) htodo' rfl

theorem advance_of_todo [WellFoundedGT L] (h : Sound S) {t : T} (htodo : (S t).todo ≠ []) :
    ∃ S', Advance S S' := by
  have hkeeps := h.keeps t
  cases hcases : (S t).todo with
  | nil => exact absurd hcases htodo
  | cons a rest =>
      rw [hcases] at hkeeps
      cases a with
      | acquire l => exact advance_of_waits h hcases rfl
      | release l => exact ⟨_, .release S t l rest hcases hkeeps.1⟩
      | yield l => exact ⟨_, .yield S t l rest hcases⟩
      | resume l n => exact advance_of_waits h hcases rfl

end Order

def Action.steps : Action L → Nat
  | acquire _ => 1
  | release _ => 1
  | yield _ => 2
  | resume _ _ => 1

def cost (as : List (Action L)) : Nat := as.foldr (fun a n => a.steps + n) 0

omit [DecidableEq L] in
theorem cost_cons (a : Action L) (as : List (Action L)) : cost (a :: as) = a.steps + cost as := rfl

variable {S S' : System T L} {ops : T → Language (Action L)}

theorem cost_advance [Fintype T] (hstep : Advance S S') :
    ∑ t, cost (S' t).todo < ∑ t, cost (S t).todo := by
  have hlt : ∀ (t : T) (thread : Thread L), cost thread.todo < cost (S t).todo →
      ∑ t', cost (Function.update S t thread t').todo < ∑ t', cost (S t').todo := by
    intro t thread hthread
    refine Finset.sum_lt_sum (fun t' _ => ?_) ⟨t, Finset.mem_univ t, ?_⟩
    · by_cases ht : t' = t
      · subst ht
        rw [Function.update_self]
        exact hthread.le
      · rw [Function.update_of_ne ht]
    · rw [Function.update_self]
      exact hthread
  cases hstep with
  | acquire t l rest htodo hfree =>
      apply hlt
      rw [htodo, cost_cons, Action.steps]
      exact Nat.lt_add_of_pos_left Nat.one_pos
  | release t l rest htodo hheld =>
      apply hlt
      rw [htodo, cost_cons, Action.steps]
      exact Nat.lt_add_of_pos_left Nat.one_pos
  | yield t l rest htodo =>
      apply hlt
      rw [htodo, cost_cons, cost_cons, Action.steps, Action.steps]
      exact Nat.add_lt_add_right (Nat.lt_succ_self 1) _
  | resume t l n rest htodo hfree =>
      apply hlt
      rw [htodo, cost_cons, Action.steps]
      exact Nat.lt_add_of_pos_left Nat.one_pos

/-- Wherever the threads have come to, all that they have begun can be done. -/
theorem drains [PartialOrder L] [WellFoundedGT L] [Finite T] (h : Sound S) :
    ∃ S', ReflTransGen Advance S S' ∧ ∀ t, (S' t).todo = [] := by
  have := Fintype.ofFinite T
  induction hn : ∑ t, cost (S t).todo using Nat.strong_induction_on generalizing S with
  | _ n ih =>
      by_cases hdone : ∀ t, (S t).todo = []
      · exact ⟨S, .refl, hdone⟩
      · push Not at hdone
        obtain ⟨t, htodo⟩ := hdone
        obtain ⟨S₁, hstep⟩ := advance_of_todo h htodo
        have hlt := cost_advance hstep
        rw [hn] at hlt
        obtain ⟨S', hrun, hdone⟩ := ih _ hlt (sound_advance h hstep) rfl
        exact ⟨S', .head hstep hrun, hdone⟩

end PyConnect.LockOrder

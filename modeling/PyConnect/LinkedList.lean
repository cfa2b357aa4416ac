import Mathlib.Data.List.Perm.Subperm
import PyConnect.Maps

namespace PyConnect.LinkedList

open Std Maps

/-- A node of a singly linked list. A pointer is an address, or null. -/
structure Cell (ν : Type) where
  val : ν
  next : Option Nat

abbrev Heap (ν : Type) := ExtTreeMap Nat (Cell ν)

variable {ν : Type}

/-- `xs` are the nodes from `p` on, with their addresses, up to the pointer `q`. -/
def Segment (h : Heap ν) : Option Nat → List (Nat × ν) → Option Nat → Prop
  | p, [], q => p = q
  | p, (a, v) :: xs, q => p = some a ∧ ∃ next, h[a]? = some ⟨v, next⟩ ∧ Segment h next xs q

/-- The last node from `a` on. Like the other loops it has no outcome where the
code reads a node that is not allocated, or goes on after more steps than there
are nodes, which is for ever. -/
def last (h : Heap ν) : Nat → Nat → Option Nat
  | 0, _ => none
  | fuel + 1, a => do
      let c ← h[a]?
      match c.next with
      | none => some a
      | some b => last h fuel b

def setNext (h : Heap ν) (a : Nat) (next : Option Nat) : Option (Heap ν) :=
  h[a]?.map fun c => h.insert a { c with next := next }

def append (h : Heap ν) (head : Option Nat) (a : Nat) (v : ν) : Option (Heap ν × Option Nat) :=
  let h := h.insert a ⟨v, none⟩
  match head with
  | none => some (h, some a)
  | some p => do
      let b ← last h h.size p
      let h ← setNext h b (some a)
      some (h, head)

/-- The first node that is looked for, and the one in front of it. -/
def seek (stop : ν → Bool) (h : Heap ν) :
    Nat → Option Nat → Option Nat → Option (Option Nat × Option Nat)
  | _, prev, none => some (prev, none)
  | 0, _, some _ => none
  | fuel + 1, prev, some a => do
      let c ← h[a]?
      if stop c.val then some (prev, some a) else seek stop h fuel (some a) c.next

/-- The first node that is looked for goes. This and the next two also give the
values of the nodes they free. -/
def unlink (stop : ν → Bool) (h : Heap ν) (head : Option Nat) :
    Option (Heap ν × Option Nat × List ν) := do
  let (prev, p) ← seek stop h h.size head head
  match p with
  | none => some (h, head, [])
  | some a => do
      let c ← h[a]?
      if head = some a then some (h.erase a, c.next, [c.val])
      else do
        let b ← prev
        let h ← setNext h b c.next
        some (h.erase a, head, [c.val])

/-- One pass over the list in which all nodes that are to go do. -/
def sweep (drop : ν → Bool) :
    Nat → Heap ν → Option Nat → Option Nat → Option Nat → Option (Heap ν × Option Nat × List ν)
  | _, h, head, _, none => some (h, head, [])
  | 0, _, _, _, some _ => none
  | fuel + 1, h, head, prev, some a => do
      let c ← h[a]?
      if drop c.val then
        if head = some a then do
          let (h, head, vs) ← sweep drop fuel (h.erase a) c.next c.next c.next
          some (h, head, c.val :: vs)
        else do
          let b ← prev
          let h ← setNext h b c.next
          let c' ← (h.erase a)[b]?
          let (h, head, vs) ← sweep drop fuel (h.erase a) head prev c'.next
          some (h, head, c.val :: vs)
      else sweep drop fuel h head (some a) c.next

/-- One pass over the list that frees nodes and leaves the pointers to them. -/
def dispose (drop : ν → Bool) : Nat → Heap ν → Option Nat → Option (Heap ν × List ν)
  | _, h, none => some (h, [])
  | 0, _, some _ => none
  | fuel + 1, h, some a => do
      let c ← h[a]?
      if drop c.val then do
        let (h, vs) ← dispose drop fuel (h.erase a) c.next
        some (h, c.val :: vs)
      else dispose drop fuel h c.next

variable {h h' : Heap ν} {p q r head prev : Option Nat} {xs ys : List (Nat × ν)} {a b : Nat} {v : ν}
  {fuel : Nat} {drop stop : ν → Bool}

@[simp] theorem segment_nil : Segment h p [] q ↔ p = q := Iff.rfl

theorem segment_cons : Segment h p ((a, v) :: xs) q ↔
    p = some a ∧ ∃ next, h[a]? = some ⟨v, next⟩ ∧ Segment h next xs q := Iff.rfl

theorem segment_append : Segment h p (xs ++ ys) q ↔ ∃ r, Segment h p xs r ∧ Segment h r ys q := by
  induction xs generalizing p with
  | nil => simp
  | cons x xs ih =>
      obtain ⟨a, v⟩ := x
      simp only [List.cons_append, segment_cons, ih]
      constructor
      · rintro ⟨hp, next, ha, r, hxs, hys⟩
        exact ⟨r, ⟨hp, next, ha, hxs⟩, hys⟩
      · rintro ⟨r, ⟨hp, next, ha, hxs⟩, hys⟩
        exact ⟨hp, next, ha, r, hxs, hys⟩

theorem Segment.congr (hs : Segment h p xs q) (heq : ∀ x ∈ xs, h'[x.1]? = h[x.1]?) :
    Segment h' p xs q := by
  induction xs generalizing p with
  | nil => exact hs
  | cons x xs ih =>
      obtain ⟨a, v⟩ := x
      obtain ⟨hp, next, ha, hxs⟩ := hs
      obtain ⟨hhead, htail⟩ := List.forall_mem_cons.mp heq
      exact ⟨hp, next, hhead.trans ha, ih hxs htail⟩

theorem Segment.allocated (hs : Segment h p xs q) : ∀ x ∈ xs, h[x.1]?.isSome := by
  induction xs generalizing p with
  | nil => exact fun x hx => absurd hx List.not_mem_nil
  | cons x xs ih =>
      obtain ⟨a, v⟩ := x
      obtain ⟨-, next, ha, hxs⟩ := hs
      refine List.forall_mem_cons.mpr ⟨?_, ih hxs⟩
      rw [ha]
      rfl

theorem Segment.unique (hs : Segment h p xs none) (hs' : Segment h p ys none) : xs = ys := by
  induction xs generalizing p ys with
  | nil =>
      obtain rfl := hs
      cases ys with
      | nil => rfl
      | cons y ys => cases hs'.1
  | cons x xs ih =>
      obtain ⟨a, v⟩ := x
      obtain ⟨rfl, next, ha, hxs⟩ := hs
      cases ys with
      | nil => cases hs'
      | cons y ys =>
          obtain ⟨b, w⟩ := y
          obtain ⟨hb, next', hb', hys⟩ := hs'
          obtain rfl := Option.some.inj hb
          rw [ha] at hb'
          obtain ⟨rfl, rfl⟩ := Cell.mk.inj (Option.some.inj hb')
          rw [ih hxs hys]

theorem Segment.nodup (hs : Segment h p xs none) : (xs.map (·.1)).Nodup := by
  induction xs generalizing p with
  | nil => exact List.nodup_nil
  | cons x xs ih =>
      obtain ⟨a, v⟩ := x
      have hs' := hs
      obtain ⟨rfl, next, ha, hxs⟩ := hs'
      refine List.nodup_cons.mpr ⟨fun hmem => ?_, ih hxs⟩
      -- from `a` on, the list would be as long as what comes behind it
      obtain ⟨⟨b, w⟩, hx, rfl⟩ := List.mem_map.mp hmem
      obtain ⟨ys, zs, rfl⟩ := List.append_of_mem hx
      obtain ⟨r, -, hr⟩ := segment_append.mp hxs
      obtain ⟨rfl, -⟩ := segment_cons.mp hr
      have hlen := congrArg List.length (hr.unique hs)
      simp only [List.length_cons, List.length_append] at hlen
      omega

theorem Segment.length_le (hs : Segment h p xs none) : xs.length ≤ h.size := by
  have hsub : xs.map (·.1) ⊆ h.keys := by
    intro a ha
    obtain ⟨x, hx, rfl⟩ := List.mem_map.mp ha
    rw [ExtTreeMap.mem_keys, ← ExtTreeMap.isSome_getElem?_iff_mem]
    exact hs.allocated x hx
  have hle := (hs.nodup.subperm hsub).length_le
  rwa [List.length_map, ExtTreeMap.length_keys] at hle

theorem Segment.insert (hs : Segment h p xs q) (hfree : a ∉ xs.map (·.1)) (c : Cell ν) :
    Segment (h.insert a c) p xs q := by
  refine hs.congr fun x hx => ?_
  rw [get_insert, if_neg]
  rintro rfl
  exact hfree (List.mem_map_of_mem hx)

theorem Segment.erase (hs : Segment h p xs q) (hfree : a ∉ xs.map (·.1)) :
    Segment (h.erase a) p xs q := by
  refine hs.congr fun x hx => ?_
  rw [get_erase, if_neg]
  rintro rfl
  exact hfree (List.mem_map_of_mem hx)

theorem Segment.free (hs : Segment h p xs q) (ha : h[a]? = none) : a ∉ xs.map (·.1) := by
  intro hmem
  obtain ⟨x, hx, rfl⟩ := List.mem_map.mp hmem
  have hsome := hs.allocated x hx
  rw [ha] at hsome
  cases hsome

theorem Segment.setNext (hs : Segment h p (xs ++ [(b, v)]) q) (hb : b ∉ xs.map (·.1)) (r : Option Nat) :
    setNext h b r = some (h.insert b ⟨v, r⟩) ∧ Segment (h.insert b ⟨v, r⟩) p (xs ++ [(b, v)]) r := by
  obtain ⟨m, hxs, hm⟩ := segment_append.mp hs
  obtain ⟨rfl, next, hcell, -⟩ := hm
  constructor
  · rw [LinkedList.setNext, hcell]
    rfl
  · refine segment_append.mpr ⟨some b, hxs.insert hb _, rfl, r, ?_, rfl⟩
    rw [get_insert, if_pos rfl]

theorem last_eq (hs : Segment h (some a) (xs ++ [(b, v)]) none) (hfuel : xs.length < fuel) :
    last h fuel a = some b := by
  induction fuel generalizing a xs with
  | zero => cases hfuel
  | succ fuel ih =>
      rw [last]
      cases xs with
      | nil =>
          obtain ⟨ha, next, hcell, rfl⟩ := hs
          obtain rfl := Option.some.inj ha
          rw [hcell]
          rfl
      | cons x xs =>
          obtain ⟨a', w⟩ := x
          obtain ⟨ha, next, hcell, hxs⟩ := hs
          obtain rfl := Option.some.inj ha
          obtain ⟨c, rfl⟩ : ∃ c, next = some c := by
            cases xs with
            | nil => exact ⟨b, hxs.1⟩
            | cons y xs => exact ⟨y.1, hxs.1⟩
          rw [hcell]
          exact ih hxs (Nat.lt_of_succ_lt_succ hfuel)

theorem append_spec (hs : Segment h head xs none) (ha : h[a]? = none) (v : ν) :
    ∃ h' head', append h head a v = some (h', head') ∧ Segment h' head' (xs ++ [(a, v)]) none := by
  have hfree := hs.free ha
  have hs₁ := hs.insert hfree ⟨v, none⟩
  have hnew : (h.insert a ⟨v, none⟩)[a]? = some ⟨v, none⟩ := by rw [get_insert, if_pos rfl]
  rcases List.eq_nil_or_concat xs with rfl | ⟨ys, ⟨b, w⟩, rfl⟩
  · obtain rfl := hs
    exact ⟨_, some a, rfl, rfl, none, hnew, rfl⟩
  · obtain ⟨p, rfl⟩ : ∃ p, head = some p := by
      cases ys with
      | nil => exact ⟨b, hs.1⟩
      | cons y ys => exact ⟨y.1, hs.1⟩
    rw [List.concat_eq_append] at *
    have hlen := hs₁.length_le
    rw [List.length_append, List.length_singleton] at hlen
    have hlast := last_eq hs₁ (Nat.lt_of_succ_le hlen)
    have hb : b ∉ ys.map (·.1) := by
      have hnodup := hs.nodup
      rw [List.map_append, List.nodup_append] at hnodup
      exact fun hmem => hnodup.2.2 b hmem b (List.mem_singleton_self b) rfl
    obtain ⟨hset, hs₂⟩ := hs₁.setNext hb (some a)
    refine ⟨_, some p, ?_, segment_append.mpr ⟨some a, hs₂, rfl, none, ?_, rfl⟩⟩
    · simp only [append, hlast, hset, Option.bind_eq_bind, Option.bind_some]
    · have hne : a ≠ b := fun he => hfree (by simp [he])
      rw [get_insert, if_neg hne, hnew]

theorem Segment.remove_first (hs : Segment h head ((a, v) :: xs) none) :
    head = some a ∧ ∃ next, h[a]? = some ⟨v, next⟩ ∧ Segment (h.erase a) next xs none := by
  have hnodup := hs.nodup
  obtain ⟨rfl, next, ha, hxs⟩ := hs
  exact ⟨rfl, next, ha, hxs.erase (List.nodup_cons.mp hnodup).1⟩

theorem Segment.remove {w : ν} (hs : Segment h head (xs ++ (b, w) :: (a, v) :: ys) none) :
    head ≠ some a ∧ ∃ next, h[a]? = some ⟨v, next⟩ ∧
      LinkedList.setNext h b next = some (h.insert b ⟨w, next⟩) ∧
      ((h.insert b ⟨w, next⟩).erase a)[b]? = some ⟨w, next⟩ ∧
      Segment ((h.insert b ⟨w, next⟩).erase a) head (xs ++ [(b, w)]) next ∧
      Segment ((h.insert b ⟨w, next⟩).erase a) next ys none := by
  have hnodup := hs.nodup
  rw [List.append_cons, segment_append] at hs
  obtain ⟨m, hfront, rfl, next, ha, hys⟩ := hs
  simp only [List.map_append, List.map_cons, List.nodup_append, List.nodup_cons, List.mem_cons,
    not_or] at hnodup
  obtain ⟨-, ⟨⟨hba, hb⟩, haY, -⟩, hdisjoint⟩ := hnodup
  have hbX : b ∉ xs.map (·.1) := fun hmem => hdisjoint b hmem b (.inl rfl) rfl
  have haX : a ∉ xs.map (·.1) := fun hmem => hdisjoint a hmem a (.inr (.inl rfl)) rfl
  have haFront : a ∉ (xs ++ [(b, w)]).map (·.1) := by
    simp only [List.map_append, List.map_singleton, List.mem_append, List.mem_singleton, not_or]
    exact ⟨haX, Ne.symm hba⟩
  obtain ⟨hset, hfront'⟩ := hfront.setNext hbX next
  refine ⟨?_, next, ha, hset, ?_, hfront'.erase haFront, (hys.insert hb _).erase haY⟩
  · rintro rfl
    cases xs with
    | nil => exact hba (Option.some.inj hfront.1).symm
    | cons x xs => exact haX (List.mem_cons.mpr (.inl (Option.some.inj hfront.1)))
  · rw [get_erase, if_neg hba, get_insert, if_pos rfl]

/-- `prev` is where the walk has come from. -/
def Behind (prev : Option Nat) (xs : List (Nat × ν)) : Prop :=
  xs = [] ∨ ∃ ys b w, xs = ys ++ [(b, w)] ∧ prev = some b

theorem behind_concat (xs : List (Nat × ν)) (a : Nat) (v : ν) : Behind (some a) (xs ++ [(a, v)]) :=
  .inr ⟨xs, a, v, rfl, rfl⟩

/-- After a pass the nodes that were to stay are there, in their order. -/
theorem sweep_spec (hs : Segment h head xs p) (hrest : Segment h p ys none) (hprev : Behind prev xs)
    (hfuel : ys.length ≤ fuel) :
    ∃ h' head',
      sweep drop fuel h head prev p = some (h', head', (ys.filter fun y => drop y.2).map (·.2)) ∧
        Segment h' head' (xs ++ ys.filter fun y => !drop y.2) none := by
  induction ys generalizing h head prev p xs fuel with
  | nil =>
      obtain rfl := hrest
      refine ⟨h, head, by rw [sweep.eq_def]; rfl, ?_⟩
      rwa [List.filter_nil, List.append_nil]
  | cons y ys ih =>
      obtain ⟨a, v⟩ := y
      obtain ⟨fuel, rfl⟩ := Nat.exists_eq_succ_of_ne_zero (by simp at hfuel; omega : fuel ≠ 0)
      have hfuel' : ys.length ≤ fuel := Nat.le_of_succ_le_succ hfuel
      have hall : Segment h head (xs ++ (a, v) :: ys) none := segment_append.mpr ⟨p, hs, hrest⟩
      obtain ⟨rfl, next, ha, hys⟩ := hrest
      rw [sweep, ha]
      simp only [Option.bind_eq_bind, Option.bind_some]
      by_cases hdrop : drop v = true
      · have hstay : ((a, v) :: ys).filter (fun y => !drop y.2) = ys.filter fun y => !drop y.2 :=
          List.filter_cons_of_neg (by simp [hdrop])
        rw [if_pos hdrop, hstay, List.filter_cons_of_pos (by exact hdrop)]
        rcases hprev with rfl | ⟨ks, b, w, rfl, rfl⟩
        · obtain ⟨rfl, next', ha', hrest'⟩ := hall.remove_first
          rw [ha] at ha'
          obtain rfl := (Cell.mk.inj (Option.some.inj ha')).2
          obtain ⟨h', head', hsweep, hs'⟩ := ih (segment_nil.mpr rfl) hrest' (.inl rfl : Behind next []) hfuel'
          refine ⟨h', head', ?_, hs'⟩
          rw [if_pos rfl, hsweep]
          rfl
        · rw [← List.append_cons] at hall
          obtain ⟨hne, next', ha', hset, hb, hfront, hrest'⟩ := hall.remove
          rw [ha] at ha'
          obtain rfl := (Cell.mk.inj (Option.some.inj ha')).2
          obtain ⟨h', head', hsweep, hs'⟩ := ih hfront hrest' (behind_concat ks b w) hfuel'
          refine ⟨h', head', ?_, hs'⟩
          rw [if_neg hne, Option.bind_some, hset, Option.bind_some, hb, Option.bind_some, hsweep]
          rfl
      · have hstay :
            ((a, v) :: ys).filter (fun y => !drop y.2) = (a, v) :: ys.filter fun y => !drop y.2 :=
          List.filter_cons_of_pos (by simp [hdrop])
        rw [if_neg hdrop, hstay, List.filter_cons_of_neg (by exact hdrop), List.append_cons]
        exact ih (segment_append.mpr ⟨some a, hs, rfl, next, ha, rfl⟩) hys (behind_concat xs a v) hfuel'

theorem sweep_perm (drop : ν → Bool) (hs : Segment h head xs none) :
    ∃ h' head' ys vs, sweep drop h.size h head head head = some (h', head', vs) ∧
      Segment h' head' ys none ∧ (xs.map (·.2)).Perm (ys.map (·.2) ++ vs) := by
  obtain ⟨h', head', hsweep, hs'⟩ := sweep_spec (segment_nil.mpr rfl) hs (.inl rfl : Behind head []) hs.length_le
  refine ⟨h', head', _, _, hsweep, hs', ?_⟩
  rw [List.nil_append, ← List.map_append]
  refine List.Perm.map _ (List.Perm.trans ?_ List.perm_append_comm)
  exact (List.filter_append_perm (fun x => drop x.2) xs).symm

theorem seek_spec (stop : ν → Bool) (hrest : Segment h p ys none) (hprev : Behind prev xs) (hfuel : ys.length ≤ fuel) :
    (∃ prev', seek stop h fuel prev p = some (prev', none) ∧ ∀ y ∈ ys, stop y.2 = false) ∨
      ∃ ks a v zs prev', ys = ks ++ (a, v) :: zs ∧ (∀ y ∈ ks, stop y.2 = false) ∧ stop v = true ∧
        seek stop h fuel prev p = some (prev', some a) ∧ Behind prev' (xs ++ ks) := by
  induction ys generalizing prev p xs fuel with
  | nil =>
      obtain rfl := hrest
      exact .inl ⟨prev, by rw [seek.eq_def], fun y hy => absurd hy List.not_mem_nil⟩
  | cons y ys ih =>
      obtain ⟨a, v⟩ := y
      obtain ⟨fuel, rfl⟩ := Nat.exists_eq_succ_of_ne_zero (by simp at hfuel; omega : fuel ≠ 0)
      obtain ⟨rfl, next, ha, hys⟩ := hrest
      rw [seek, ha]
      simp only [Option.bind_eq_bind, Option.bind_some]
      by_cases hstop : stop v = true
      · refine .inr ⟨[], a, v, ys, prev, rfl, fun y hy => absurd hy List.not_mem_nil, hstop, ?_, ?_⟩
        · rw [if_pos hstop]
        · rwa [List.append_nil]
      · rw [if_neg hstop]
        rcases ih hys (behind_concat xs a v) (Nat.le_of_succ_le_succ hfuel) with
          ⟨prev', hseek, hnone⟩ | ⟨ks, a', v', zs, prev', rfl, hks, hstop', hseek, hbehind⟩
        · exact .inl ⟨prev', hseek, List.forall_mem_cons.mpr ⟨by simpa using hstop, hnone⟩⟩
        · refine .inr ⟨(a, v) :: ks, a', v', zs, prev', rfl, ?_, hstop', hseek, ?_⟩
          · exact List.forall_mem_cons.mpr ⟨by simpa using hstop, hks⟩
          · rwa [List.append_cons]

theorem unlink_perm (stop : ν → Bool) (hs : Segment h head xs none) :
    ∃ h' head' ys vs, unlink stop h head = some (h', head', vs) ∧
      Segment h' head' ys none ∧ (xs.map (·.2)).Perm (ys.map (·.2) ++ vs) := by
  rcases seek_spec stop hs (.inl rfl : Behind head []) hs.length_le with
    ⟨prev', hseek, -⟩ | ⟨ks, a, v, zs, prev', rfl, -, -, hseek, hbehind⟩
  · refine ⟨h, head, xs, [], ?_, hs, ?_⟩
    · simp only [unlink, hseek, Option.bind_eq_bind, Option.bind_some]
    · rw [List.append_nil]
  · have hperm : ((ks ++ (a, v) :: zs).map (·.2)).Perm ((ks ++ zs).map (·.2) ++ [v]) := by
      rw [List.map_append, List.map_append, List.map_cons, List.append_assoc]
      exact ((List.perm_append_singleton v _).symm).append_left _
    simp only [unlink, hseek, Option.bind_eq_bind, Option.bind_some]
    rcases hbehind with hnil | ⟨ks', b, w, hks', rfl⟩
    · obtain rfl : ks = [] := by simpa using hnil
      obtain ⟨rfl, next, ha, hzs⟩ := hs.remove_first
      refine ⟨h.erase a, next, zs, [v], ?_, hzs, hperm⟩
      rw [ha, Option.bind_some, if_pos rfl]
    · rw [List.nil_append] at hks'
      subst hks'
      rw [← List.append_cons] at hs
      obtain ⟨hne, next, ha, hset, -, hfront, hzs⟩ := hs.remove
      refine ⟨_, head, _, [v], ?_, segment_append.mpr ⟨next, hfront, hzs⟩, hperm⟩
      rw [ha, Option.bind_some, if_neg hne, Option.bind_some, hset]
      rfl

/-- A pass that leaves the pointers to what it frees. -/
theorem dispose_spec (drop : ν → Bool) (hs : Segment h p xs none) (hfuel : xs.length ≤ fuel) :
    ∃ h', dispose drop fuel h p = some (h', (xs.filter fun x => drop x.2).map (·.2)) ∧
      (∀ x ∈ xs, h'[x.1]? = if drop x.2 then none else h[x.1]?) ∧
      ∀ a ∉ xs.map (·.1), h'[a]? = h[a]? := by
  induction xs generalizing h p fuel with
  | nil =>
      obtain rfl := hs
      exact ⟨h, by rw [dispose.eq_def]; rfl, fun x hx => absurd hx List.not_mem_nil, fun a _ => rfl⟩
  | cons x xs ih =>
      obtain ⟨a, v⟩ := x
      obtain ⟨fuel, rfl⟩ := Nat.exists_eq_succ_of_ne_zero (by simp at hfuel; omega : fuel ≠ 0)
      have hfuel' : xs.length ≤ fuel := Nat.le_of_succ_le_succ hfuel
      have hfree : a ∉ xs.map (·.1) := (List.nodup_cons.mp hs.nodup).1
      obtain ⟨rfl, next, ha, hxs⟩ := hs
      rw [dispose, ha]
      simp only [Option.bind_eq_bind, Option.bind_some]
      by_cases hdrop : drop v = true
      · obtain ⟨h', hdispose, hmem, hother⟩ := ih (hxs.erase hfree) hfuel'
        refine ⟨h', ?_, List.forall_mem_cons.mpr ⟨?_, fun x hx => ?_⟩, fun b hb => ?_⟩
        · rw [if_pos hdrop, hdispose, List.filter_cons_of_pos (by exact hdrop)]
          rfl
        · rw [if_pos hdrop, hother a hfree, get_erase, if_pos rfl]
        · have hne : x.1 ≠ a := fun he => hfree (he ▸ List.mem_map_of_mem hx)
          rw [hmem x hx, get_erase, if_neg hne]
        · rw [List.map_cons, List.mem_cons, not_or] at hb
          rw [hother b hb.2, get_erase, if_neg hb.1]
      · obtain ⟨h', hdispose, hmem, hother⟩ := ih hxs hfuel'
        refine ⟨h', ?_, List.forall_mem_cons.mpr ⟨?_, hmem⟩, fun b hb => ?_⟩
        · rw [if_neg hdrop, hdispose, List.filter_cons_of_neg (by exact hdrop)]
        · rw [if_neg hdrop, hother a hfree]
        · exact hother b fun h => hb (List.mem_cons_of_mem _ h)

/-- Where nodes on the way are freed and the others are as they were, there is no
list from the first one on: it leads to a node that is not allocated. -/
theorem Segment.dangling (drop : ν → Bool) (hs : Segment h p xs none)
    (hfreed : ∀ x ∈ xs, h'[x.1]? = if drop x.2 then none else h[x.1]?)
    (hdrop : ∃ x ∈ xs, drop x.2 = true) : ¬ ∃ ys, Segment h' p ys none := by
  rintro ⟨ys, hys⟩
  induction xs generalizing p ys with
  | nil =>
      obtain ⟨x, hx, -⟩ := hdrop
      exact absurd hx List.not_mem_nil
  | cons x xs ih =>
      obtain ⟨a, v⟩ := x
      obtain ⟨rfl, next, ha, hxs⟩ := hs
      obtain ⟨hhead, htail⟩ := List.forall_mem_cons.mp hfreed
      cases ys with
      | nil => cases hys
      | cons y ys =>
          obtain ⟨b, w⟩ := y
          obtain ⟨hab, next', hb, hys'⟩ := hys
          obtain rfl := Option.some.inj hab
          dsimp only at hhead
          rw [hb] at hhead
          by_cases hv : drop v = true
          · rw [if_pos hv] at hhead
            cases hhead
          · rw [if_neg hv, ha] at hhead
            obtain rfl := (Cell.mk.inj (Option.some.inj hhead)).2
            refine ih hxs htail ?_ ys hys'
            obtain ⟨x, hx, hxdrop⟩ := hdrop
            rcases List.mem_cons.mp hx with rfl | hx
            · exact absurd hxdrop hv
            · exact ⟨x, hx, hxdrop⟩

end PyConnect.LinkedList

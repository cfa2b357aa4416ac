import Mathlib.Algebra.Order.BigOperators.Group.List
import Mathlib.Algebra.Order.Ring.Nat
import Mathlib.Data.List.Nodup
import Mathlib.Data.List.Perm.Subperm

namespace PyConnect.Removal

/-- The removals that a program asks for, one after the other. `inner` are those
that it asks for while one is being made. -/
inductive Calls (τ : Type) where
  | done
  | call (target : τ) (inner next : Calls τ)

variable {α τ : Type} [DecidableEq α] (names : τ → α → Bool)

/-- Removals by position: where the target is, is found out before the inner
removals and used after them. Each removal is recorded with what it took out.
There is no outcome when there is nothing left at a position. -/
def run : Calls τ → List α → Option (List α × List (α × α))
  | .done, xs => some (xs, [])
  | .call target inner next, xs =>
      match xs.find? (names target) with
      | none => run next xs
      | some x => do
          let (ys, log) ← run inner xs
          let y ← ys[xs.idxOf x]?
          let (zs, log') ← run next (ys.eraseIdx (xs.idxOf x))
          some (zs, log ++ (x, y) :: log')

/-- What is left when each removal takes its own target out. -/
def remaining : Calls τ → List α → List α
  | .done, xs => xs
  | .call target inner next, xs =>
      match xs.find? (names target) with
      | none => remaining next xs
      | some x => remaining next ((remaining inner xs).erase x)

/-- No removal is in front of position `i`, and none is made that is not behind
the one that it is inside of. -/
def Orderly : Calls τ → Nat → List α → Prop
  | .done, _, _ => True
  | .call target inner next, i, xs =>
      match xs.find? (names target) with
      | none => Orderly next i xs
      | some x => i ≤ xs.idxOf x ∧ Orderly inner (xs.idxOf x + 1) xs ∧
          Orderly next i ((remaining names inner xs).erase x)

/-- Exactly the targets are gone, and each of them was taken out once. -/
def Clean (xs ys : List α) (log : List (α × α)) : Prop :=
  ys = xs.filter (· ∉ log.map (·.1)) ∧ (log.map (·.2)).Nodup

variable {names} {calls inner next : Calls τ} {target : τ} {xs ys zs : List α} {x y : α}
  {log : List (α × α)} {i : Nat}

theorem run_absent (h : xs.find? (names target) = none) :
    run names (.call target inner next) xs = run names next xs := by
  simp only [run, h]

theorem remaining_absent (h : xs.find? (names target) = none) :
    remaining names (.call target inner next) xs = remaining names next xs := by
  simp only [remaining, h]

theorem orderly_absent (h : xs.find? (names target) = none) :
    Orderly names (.call target inner next) i xs ↔ Orderly names next i xs := by
  simp only [Orderly, h]

theorem run_present (h : xs.find? (names target) = some x) :
    run names (.call target inner next) xs = some (zs, log) ↔
      ∃ ys log₁ y log₂, run names inner xs = some (ys, log₁) ∧ ys[xs.idxOf x]? = some y ∧
        run names next (ys.eraseIdx (xs.idxOf x)) = some (zs, log₂) ∧
        log = log₁ ++ (x, y) :: log₂ := by
  simp only [run, h, Option.bind_eq_bind, Option.bind_eq_some_iff, Prod.exists, Option.some.injEq,
    Prod.mk.injEq]
  constructor
  · rintro ⟨ys, log₁, hinner, y, hy, zs', log₂, hnext, rfl, rfl⟩
    exact ⟨ys, log₁, y, log₂, hinner, hy, hnext, rfl⟩
  · rintro ⟨ys, log₁, y, log₂, hinner, hy, hnext, rfl⟩
    exact ⟨ys, log₁, hinner, y, hy, zs, log₂, hnext, rfl, rfl⟩

theorem remaining_present (h : xs.find? (names target) = some x) :
    remaining names (.call target inner next) xs =
      remaining names next ((remaining names inner xs).erase x) := by
  simp only [remaining, h]

theorem orderly_present (h : xs.find? (names target) = some x) :
    Orderly names (.call target inner next) i xs ↔
      i ≤ xs.idxOf x ∧ Orderly names inner (xs.idxOf x + 1) xs ∧
        Orderly names next i ((remaining names inner xs).erase x) := by
  simp only [Orderly, h]

theorem idxOf_lt_of_find? (h : xs.find? (names target) = some x) : xs.idxOf x < xs.length :=
  List.idxOf_lt_length_iff.mpr (List.mem_of_find?_eq_some h)

omit [DecidableEq α] in
theorem mem_drop_of_sublist (h : ys.Sublist xs) (hy : ys[i]? = some y) : y ∈ xs.drop i := by
  refine (h.drop i).subset ?_
  rw [List.mem_iff_getElem?]
  exact ⟨0, by rw [List.getElem?_drop, Nat.add_zero, hy]⟩

theorem drop_idxOf (hx : x ∈ xs) : xs.drop (xs.idxOf x) = x :: xs.drop (xs.idxOf x + 1) := by
  rw [List.drop_eq_getElem_cons (List.idxOf_lt_length_iff.mpr hx), List.getElem_idxOf]

/-- Whatever the order of the removals, every one takes something out that was
at its position or behind it. -/
theorem run_spec (h : run names calls xs = some (ys, log)) :
    ys.Sublist xs ∧ xs.Perm (ys ++ log.map (·.2)) ∧ (∀ p ∈ log, p.1 ∈ xs) ∧
      ∀ r : α → Nat, xs.Pairwise (fun a b => r a < r b) → ∀ p ∈ log, r p.1 ≤ r p.2 := by
  induction calls generalizing xs ys log with
  | done =>
      obtain ⟨rfl, rfl⟩ := Prod.mk.inj (Option.some.inj h)
      simp
  | call target inner next ihInner ihNext =>
      cases hfind : xs.find? (names target) with
      | none => exact ihNext ((run_absent hfind).symm.trans h)
      | some x =>
          obtain ⟨ys₁, log₁, y, log₂, hinner, hy, hnext, rfl⟩ := (run_present hfind).mp h
          have hx := List.mem_of_find?_eq_some hfind
          obtain ⟨hsub₁, hperm₁, hmem₁, hrank₁⟩ := ihInner hinner
          obtain ⟨hsub₂, hperm₂, hmem₂, hrank₂⟩ := ihNext hnext
          have hsub : (ys₁.eraseIdx (xs.idxOf x)).Sublist xs := (ys₁.eraseIdx_sublist _).trans hsub₁
          refine ⟨hsub₂.trans hsub, ?_, ?_, fun r hr => ?_⟩
          · obtain ⟨hlt, rfl⟩ := List.getElem?_eq_some_iff.mp hy
            have herase := List.getElem_cons_eraseIdx_perm hlt
            apply List.perm_iff_count.mpr
            intro a
            have h₁ := List.perm_iff_count.mp hperm₁ a
            have h₂ := List.perm_iff_count.mp hperm₂ a
            have h₃ := List.perm_iff_count.mp herase a
            simp only [List.map_append, List.map_cons, List.count_append, List.count_cons] at *
            omega
          · simp only [List.mem_append, List.mem_cons]
            rintro p (hp | rfl | hp)
            · exact hmem₁ p hp
            · exact hx
            · exact hsub.subset (hmem₂ p hp)
          · simp only [List.mem_append, List.mem_cons]
            rintro p (hp | rfl | hp)
            · exact hrank₁ r hr p hp
            · have hbehind := mem_drop_of_sublist hsub₁ hy
              have htail := hr.sublist (List.drop_sublist (xs.idxOf x) xs)
              rw [drop_idxOf hx] at hbehind htail
              rcases List.mem_cons.mp hbehind with rfl | hlater
              · exact le_refl _
              · exact (List.rel_of_pairwise_cons htail hlater).le
            · exact hrank₂ r (hr.sublist hsub) p hp

theorem getElem?_of_take (hx : x ∈ xs) (h : ys.take (xs.idxOf x + 1) = xs.take (xs.idxOf x + 1)) :
    ys[xs.idxOf x]? = some x := by
  have hlt := List.idxOf_lt_length_iff.mpr hx
  have hget := congrArg (fun l => l[xs.idxOf x]?) h
  simpa [List.getElem?_take, List.getElem?_eq_getElem hlt] using hget

theorem eraseIdx_of_getElem? (hn : ys.Nodup) (h : ys[i]? = some x) : ys.eraseIdx i = ys.erase x := by
  obtain ⟨hlt, rfl⟩ := List.getElem?_eq_some_iff.mp h
  rw [← List.eraseIdx_idxOf_eq_erase, hn.idxOf_getElem]

theorem run_orderly (hn : xs.Nodup) (h : Orderly names calls i xs) :
    ∃ out, run names calls xs = some (remaining names calls xs, out.map fun x => (x, x)) ∧
      remaining names calls xs = xs.filter (· ∉ out) ∧ out.Nodup ∧ out ⊆ xs ∧
      (remaining names calls xs).take i = xs.take i := by
  induction calls generalizing xs i with
  | done => exact ⟨[], rfl, by simp [remaining], List.nodup_nil, List.nil_subset _, rfl⟩
  | call target inner next ihInner ihNext =>
      cases hfind : xs.find? (names target) with
      | none =>
          rw [orderly_absent hfind] at h
          rw [run_absent hfind, remaining_absent hfind]
          exact ihNext hn h
      | some x =>
          obtain ⟨hi, hinner, hnext⟩ := (orderly_present hfind).mp h
          have hx := List.mem_of_find?_eq_some hfind
          obtain ⟨out₁, hrun₁, hleft₁, hnodup₁, hsub₁, htake₁⟩ := ihInner hn hinner
          generalize hrem : remaining names inner xs = ys at *
          have hys : ys.Nodup := by
            rw [hleft₁]
            exact hn.filter _
          have hget := getElem?_of_take hx htake₁
          have herase := eraseIdx_of_getElem? hys hget
          have hmem : x ∈ ys := List.mem_of_getElem? hget
          have hout₁ : x ∉ out₁ := by
            rw [hleft₁] at hmem
            simpa using (List.mem_filter.mp hmem).2
          obtain ⟨out₂, hrun₂, hleft₂, hnodup₂, hsub₂, htake₂⟩ := ihNext (hys.erase x) hnext
          have hfresh : ∀ y ∈ out₂, y ∈ xs ∧ y ∉ out₁ ∧ y ≠ x := by
            intro y hy
            obtain ⟨hne, hyin⟩ := hys.mem_erase_iff.mp (hsub₂ hy)
            rw [hleft₁] at hyin
            obtain ⟨hyxs, hyout⟩ := List.mem_filter.mp hyin
            exact ⟨hyxs, by simpa using hyout, hne⟩
          refine ⟨out₁ ++ x :: out₂, ?_, ?_, ?_, ?_, ?_⟩
          · rw [remaining_present hfind, hrem, run_present hfind]
            refine ⟨ys, _, x, _, hrun₁, hget, ?_, List.map_append⟩
            rw [herase]
            exact hrun₂
          · rw [remaining_present hfind, hrem, hleft₂, hys.erase_eq_filter, hleft₁, List.filter_filter,
              List.filter_filter]
            refine List.filter_congr fun y _ => ?_
            by_cases h₁ : y ∈ out₁ <;> by_cases h₂ : y ∈ out₂ <;> by_cases h₃ : y = x <;>
              simp [h₁, h₂, h₃]
          · rw [List.nodup_append]
            refine ⟨hnodup₁, List.nodup_cons.mpr ⟨fun hxo => (hfresh x hxo).2.2 rfl, hnodup₂⟩, ?_⟩
            rintro y hy z hz rfl
            rcases List.mem_cons.mp hz with rfl | hz
            · exact hout₁ hy
            · exact (hfresh y hz).2.1 hy
          · intro y hy
            rcases List.mem_append.mp hy with hy | hy
            · exact hsub₁ hy
            rcases List.mem_cons.mp hy with rfl | hy
            · exact hx
            · exact (hfresh y hy).1
          · rw [remaining_present hfind, hrem, htake₂, ← herase, List.take_eraseIdx_eq_take_of_le _ _ _ hi]
            have := congrArg (List.take i) htake₁
            rwa [List.take_take, List.take_take, min_eq_left (by omega)] at this

theorem take_of_getElem? (hn : xs.Nodup) (hx : x ∈ xs) (hsub : ys.Sublist xs)
    (hget : ys[xs.idxOf x]? = some x) :
    ys.take (xs.idxOf x + 1) = xs.take (xs.idxOf x + 1) := by
  induction xs generalizing ys with
  | nil => cases hx
  | cons a xs ih =>
      obtain ⟨-, hn'⟩ := List.nodup_cons.mp hn
      by_cases ha : a = x
      · subst ha
        rw [List.idxOf_cons_self] at hget ⊢
        cases ys with
        | nil => cases hget
        | cons b ys =>
            obtain rfl := Option.some.inj hget
            rfl
      · have hxs : x ∈ xs := (List.mem_cons.mp hx).resolve_left fun he => ha he.symm
        rw [List.idxOf_cons_ne xs ha] at hget ⊢
        cases hsub with
        | cons _ hsub =>
            -- `ys` lacks `a`, so that `x` would be in `xs` a second time
            have htail := hn'.sublist (List.drop_sublist (xs.idxOf x) xs)
            rw [drop_idxOf hxs] at htail
            exact absurd (mem_drop_of_sublist hsub hget) (List.nodup_cons.mp htail).1
        | cons_cons _ hsub =>
            rw [List.take_succ_cons, List.take_succ_cons, ih hn' hxs hsub hget]

theorem orderly_of_own (hn : xs.Nodup) (h : run names calls xs = some (ys, log))
    (hown : ∀ p ∈ log, p.1 = p.2) (htake : ys.take i = xs.take i) : Orderly names calls i xs := by
  induction calls generalizing xs ys log i with
  | done => exact trivial
  | call target inner next ihInner ihNext =>
      cases hfind : xs.find? (names target) with
      | none =>
          rw [orderly_absent hfind]
          exact ihNext hn ((run_absent hfind).symm.trans h) hown htake
      | some x =>
          obtain ⟨ys₁, log₁, y, log₂, hinner, hy, hnext, rfl⟩ := (run_present hfind).mp h
          have hx := List.mem_of_find?_eq_some hfind
          obtain ⟨hsub₁, -⟩ := run_spec hinner
          obtain ⟨hsub₂, -⟩ := run_spec hnext
          have hn₁ := hn.sublist hsub₁
          obtain rfl : x = y := hown (x, y) (by simp)
          have htake₁ := take_of_getElem? hn hx hsub₁ hy
          have horderly := ihInner hn hinner (fun p hp => hown p (by simp [hp])) htake₁
          have hleft : remaining names inner xs = ys₁ := by
            obtain ⟨out, hrun, -⟩ := run_orderly hn horderly
            rw [hinner] at hrun
            exact (Prod.mk.inj (Option.some.inj hrun)).1.symm
          have herase := eraseIdx_of_getElem? hn₁ hy
          rw [herase] at hnext hsub₂
          have hi : i ≤ xs.idxOf x := by
            by_contra hlt
            have hfront : x ∈ xs.take i := by
              rw [List.mem_take_iff_getElem]
              exact ⟨xs.idxOf x, by have := idxOf_lt_of_find? hfind; omega, List.getElem_idxOf _⟩
            rw [← htake] at hfront
            exact (hn₁.mem_erase_iff.mp (hsub₂.subset (List.mem_of_mem_take hfront))).1 rfl
          have hfront : (ys₁.erase x).take i = xs.take i := by
            rw [← herase, List.take_eraseIdx_eq_take_of_le _ _ _ hi]
            have hcut := congrArg (List.take i) htake₁
            rwa [List.take_take, List.take_take, min_eq_left (by omega)] at hcut
          rw [orderly_present hfind, hleft]
          exact ⟨hi, horderly, ihNext (hn₁.erase x) hnext (fun p hp => hown p (by simp [hp]))
            (htake.trans hfront.symm)⟩

omit [DecidableEq α] in
theorem eq_of_sum_eq (r : α → Nat) (hle : ∀ p ∈ log, r p.1 ≤ r p.2)
    (hsum : (log.map fun p => r p.1).sum = (log.map fun p => r p.2).sum) :
    ∀ p ∈ log, r p.1 = r p.2 := by
  induction log with
  | nil => exact fun p hp => absurd hp List.not_mem_nil
  | cons q log ih =>
      obtain ⟨hq, hlog⟩ := List.forall_mem_cons.mp hle
      have hrest := List.sum_le_sum hlog
      simp only [List.map_cons, List.sum_cons] at hsum
      exact List.forall_mem_cons.mpr ⟨by omega, ih hlog (by omega)⟩

theorem pairwise_idxOf (hn : xs.Nodup) : xs.Pairwise fun a b => xs.idxOf a < xs.idxOf b := by
  rw [List.pairwise_iff_getElem]
  intro j k hj hk hjk
  rwa [hn.idxOf_getElem, hn.idxOf_getElem]

/-- If exactly the targets are gone, then each removal took its own: a removal
that took something else out took it from farther behind, and nothing makes up
for that. -/
theorem own_of_clean (hn : xs.Nodup) (h : run names calls xs = some (ys, log)) (hc : Clean xs ys log) :
    ∀ p ∈ log, p.1 = p.2 := by
  obtain ⟨-, hperm, hmem, hrank⟩ := run_spec h
  have hnodup := (hperm.nodup_iff.mp hn)
  have hsub : log.map (·.2) ⊆ log.map (·.1) := by
    intro y hy
    by_contra hout
    have hyxs : y ∈ xs := hperm.mem_iff.mpr (List.mem_append_right _ hy)
    have hyys : y ∈ ys := by
      rw [hc.1]
      exact List.mem_filter.mpr ⟨hyxs, by simpa using hout⟩
    exact (List.nodup_append.mp hnodup).2.2 y hyys y hy rfl
  have hsame : (log.map (·.2)).Perm (log.map (·.1)) :=
    (hc.2.subperm hsub).perm_of_length_le (by simp)
  have hle := hrank (xs.idxOf ·) (pairwise_idxOf hn)
  have hsum : (log.map fun p => xs.idxOf p.1).sum = (log.map fun p => xs.idxOf p.2).sum := by
    have := (hsame.map (xs.idxOf ·)).sum_eq
    rw [List.map_map, List.map_map] at this
    exact this.symm
  intro p hp
  exact (List.idxOf_inj (hmem p hp)).mp (eq_of_sum_eq (xs.idxOf ·) hle hsum p hp)

/-- Removals by position take out what they are meant to exactly when they are
orderly. -/
theorem clean_iff (names : τ → α → Bool) (calls : Calls τ) (hn : xs.Nodup) :
    (∃ r ∈ run names calls xs, Clean xs r.1 r.2) ↔ Orderly names calls 0 xs := by
  constructor
  · rintro ⟨r, hr, hc⟩
    exact orderly_of_own hn hr (own_of_clean hn hr hc) rfl
  · intro h
    obtain ⟨out, hrun, hleft, hnodup, -⟩ := run_orderly hn h
    refine ⟨_, hrun, ?_, ?_⟩
    · simpa [List.map_map, Function.comp_def] using hleft
    · simpa [List.map_map, Function.comp_def] using hnodup

theorem idxOf_eq_findIdx {p : α → Bool} (h : xs.find? p = some x) : xs.idxOf x = xs.findIdx p := by
  induction xs with
  | nil => cases h
  | cons a xs ih =>
      rw [List.find?_cons] at h
      rw [List.findIdx_cons]
      cases hp : p a with
      | true =>
          rw [hp] at h
          obtain rfl := Option.some.inj h
          rw [List.idxOf_cons_self]
          rfl
      | false =>
          rw [hp] at h
          have hne : a ≠ x := fun he => by
            rw [he, List.find?_some h] at hp
            cases hp
          rw [List.idxOf_cons_ne xs hne, ih h]
          rfl

end PyConnect.Removal

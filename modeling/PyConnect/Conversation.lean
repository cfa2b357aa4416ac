import Mathlib.Data.Multiset.DershowitzManna

namespace PyConnect.Conversation

open Multiset

variable {σ τ ρ : Type} [Preorder ρ]

/-- What waits to be done before and after something: all of it, but for what
comes in the place of a part of it, which ranks below. -/
def Answered (after before : Multiset ρ) : Prop := after = before ∨ IsDershowitzMannaLT after before

variable {M M' M'' replies : Multiset ρ} {a : ρ}

/-- One matter is dealt with and raises others. -/
theorem lt_of_replies (h : M = M' + {a}) (hreplies : ∀ y ∈ replies, y < a) :
    IsDershowitzMannaLT (M' + replies) M :=
  ⟨M', replies, {a}, Multiset.singleton_ne_zero a, rfl, h,
    fun y hy => ⟨a, Multiset.mem_singleton_self a, hreplies y hy⟩⟩

theorem Answered.lt (h : Answered M'' M') (hlt : IsDershowitzMannaLT M' M) :
    IsDershowitzMannaLT M'' M := by
  rcases h with rfl | h
  · exact hlt
  · exact h.trans hlt

/-- A system comes to an end when another can go along with it: each step deals with
some of what waits in the other then, or else does one of a number of chores and raises
nothing. -/
theorem acc_of_followed [WellFoundedLT ρ] {step : σ → σ → Prop} (R : σ → τ → Prop)
    (pending : τ → Multiset ρ) (chores : σ → τ → Nat)
    (hstep : ∀ s s' t, R s t → step s s' → ∃ t', R s' t' ∧
      (IsDershowitzMannaLT (pending t') (pending t) ∨
        pending t' = pending t ∧ chores s' t' < chores s t)) {s : σ} {t : τ} (hst : R s t) :
    Acc (fun s' s => step s s') s := by
  have hwf : WellFounded (Prod.Lex (IsDershowitzMannaLT : Multiset ρ → Multiset ρ → Prop)
      (· < · : Nat → Nat → Prop)) :=
    wellFounded_isDershowitzMannaLT.prod_lex Nat.lt_wfRel.wf
  induction hn : (pending t, chores s t) using hwf.induction generalizing s t with
  | _ n ih =>
      subst hn
      refine ⟨s, fun s' h => ?_⟩
      obtain ⟨t', hst', hlt | ⟨heq, hlt⟩⟩ := hstep s s' t hst h
      · exact ih _ (.left _ _ hlt) hst' rfl
      · refine ih _ ?_ hst' rfl
        rw [heq]
        exact .right _ hlt

theorem acc_of_descends [WellFoundedLT ρ] {step : σ → σ → Prop} {Good : σ → Prop}
    (pending : σ → Multiset ρ) (chores : σ → Nat)
    (hstep : ∀ s s', Good s → step s s' → Good s' ∧
      (IsDershowitzMannaLT (pending s') (pending s) ∨
        pending s' = pending s ∧ chores s' < chores s)) {s : σ} (hs : Good s) :
    Acc (fun s' s => step s s') s := by
  refine acc_of_followed (fun s t => t = s ∧ Good s) pending (fun _ => chores) ?_ ⟨rfl, hs⟩
  rintro s s' _ ⟨rfl, hs⟩ h
  obtain ⟨hs', hdown⟩ := hstep _ s' hs h
  exact ⟨s', ⟨rfl, hs'⟩, hdown⟩

/-- Every way of going on comes to `Q`. -/
inductive Leads (step : σ → σ → Prop) (Q : σ → Prop) : σ → Prop
  | here {s : σ} : Q s → Leads step Q s
  | on {s : σ} : (∃ s', step s s') → (∀ s', step s s' → Leads step Q s') → Leads step Q s

/-- A system that comes to an end, and cannot end elsewhere. -/
theorem leads_of_acc {step : σ → σ → Prop} {Q : σ → Prop} (Good : σ → Prop)
    (hkeep : ∀ s s', Good s → step s s' → Good s') (hgo : ∀ s, Good s → Q s ∨ ∃ s', step s s')
    {s : σ} (hacc : Acc (fun s' s => step s s') s) (hs : Good s) : Leads step Q s := by
  induction hacc with
  | intro s _ ih =>
      rcases hgo s hs with hq | hstep
      · exact .here hq
      · exact .on hstep fun s' h => ih s' h (hkeep s s' hs h)

end PyConnect.Conversation

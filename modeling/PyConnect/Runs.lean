import Mathlib.Data.Option.Basic

namespace PyConnect.Runs

variable {σ ε : Type} (step : σ → ε → Option σ)

def run : List ε → σ → Option σ
  | [], S => some S
  | e :: es, S => (step S e).bind (run es)

/-- Each step of the run is as `R` says. -/
def Always (R : σ → ε → σ → Prop) : List ε → σ → Prop
  | [], _ => True
  | e :: es, S => ∀ S' ∈ step S e, R S e S' ∧ Always R es S'

variable {step} {R Q : σ → ε → σ → Prop} {Inv Good : σ → Prop} {e : ε} {es : List ε} {S S' : σ}

theorem always_cons (h : step S e = some S') :
    Always step R (e :: es) S ↔ R S e S' ∧ Always step R es S' := by
  rw [Always, h]
  simp

theorem run_keeps (hstep : ∀ S e S', Inv S → step S e = some S' → Inv S') (hS : Inv S)
    (h : run step es S = some S') : Inv S' := by
  induction es generalizing S with
  | nil =>
      obtain rfl := Option.some.inj h
      exact hS
  | cons e es ih =>
      obtain ⟨S₁, h₁, hrest⟩ := Option.bind_eq_some_iff.mp h
      exact ih (hstep S e S₁ hS h₁) hrest

theorem always_last (hrun : run step es S = some S') {S'' : σ} (hlast : step S' e = some S'')
    (h : Always step R (es ++ [e]) S) : R S' e S'' := by
  induction es generalizing S with
  | nil =>
      obtain rfl := Option.some.inj hrun
      exact (h S'' hlast).1
  | cons e' es ih =>
      obtain ⟨S₁, h₁, hrest⟩ := Option.bind_eq_some_iff.mp hrun
      exact ih hrest (h S₁ h₁).2

/-- Two properties of a step that are the same under an invariant are the same
along every run, where they keep the invariant. -/
theorem always_iff_of_keeps
    (hstep : ∀ S e S', Inv S → step S e = some S' → (R S e S' ↔ Q S e S') ∧ (Q S e S' → Inv S'))
    (es : List ε) (hS : Inv S) : Always step R es S ↔ Always step Q es S := by
  induction es generalizing S with
  | nil => exact Iff.rfl
  | cons e es ih =>
      rw [Always, Always]
      refine forall₂_congr fun S' h => ?_
      obtain ⟨hiff, hkeep⟩ := hstep S e S' hS h
      rw [hiff]
      exact and_congr_right fun hQ => ih (hkeep hQ)

theorem always_iff (hstep : ∀ S e S', Inv S → step S e = some S' → Inv S' ∧ (R S e S' ↔ Q S e S'))
    (es : List ε) (hS : Inv S) : Always step R es S ↔ Always step Q es S := by
  refine always_iff_of_keeps (fun S e S' hS h => ?_) es hS
  obtain ⟨hinv, hiff⟩ := hstep S e S' hS h
  exact ⟨hiff, fun _ => hinv⟩

/-- A property of states that a step keeps just under a condition holds at the
end of a run just when it holds in the beginning and each step meets the
condition. -/
theorem good_iff
    (hstep : ∀ S e S', Inv S → step S e = some S' → Inv S' ∧ (Good S' ↔ Good S ∧ Q S e S'))
    (hS : Inv S) (h : run step es S = some S') : Good S' ↔ Good S ∧ Always step Q es S := by
  induction es generalizing S with
  | nil =>
      obtain rfl := Option.some.inj h
      exact (and_iff_left trivial).symm
  | cons e es ih =>
      obtain ⟨S₁, h₁, hrest⟩ := Option.bind_eq_some_iff.mp h
      obtain ⟨hinv, hiff⟩ := hstep S e S₁ hS h₁
      rw [ih hinv hrest, hiff, always_cons h₁, and_assoc]

end PyConnect.Runs

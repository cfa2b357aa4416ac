import Mathlib.Logic.Relation
import Mathlib.Logic.Function.Basic
import Mathlib.Algebra.Order.Ring.Int

namespace PyConnect.Replication

open Relation

/-- A replica of a keyed store: what it shows, its requests on their way to
the master, and the messages on their way to it, oldest first. A message
carries values for some of the keys. -/
structure Node (κ V C : Type) where
  cache : κ → C
  up : List (κ × V)
  down : List (κ → Option V)

structure State (ι κ V C : Type) where
  master : κ → V
  nodes : ι → Option (Node κ V C)

variable {ι κ V C : Type}

def single [DecidableEq κ] (k : κ) (v : V) : κ → Option V := Function.update (fun _ => none) k (some v)

def snapshot (master : κ → V) : κ → Option V := fun k => some (master k)

def receive (view : V → C) (msg : κ → Option V) (cache : κ → C) : κ → C :=
  fun k => (msg k).elim (cache k) view

/-- The master's value changes, and every replica is told. -/
def State.set [DecidableEq κ] (S : State ι κ V C) (k : κ) (v : V) : State ι κ V C where
  master := Function.update S.master k v
  nodes i := (S.nodes i).map fun n => { n with down := n.down ++ [single k v] }

def State.withNode [DecidableEq ι] (S : State ι κ V C) (i : ι) (n : Node κ V C) : State ι κ V C :=
  { S with nodes := Function.update S.nodes i (some n) }

/-- `view i` is how replica `i` shows a value. A replica may change what it
shows for a key on its own only when it requests a value for that key. -/
inductive Step [DecidableEq ι] [DecidableEq κ] (view : ι → V → C) : State ι κ V C → State ι κ V C → Prop
  | change (S : State ι κ V C) (k : κ) (v : V) : Step view S (S.set k v)
  | write (S : State ι κ V C) (i : ι) (n : Node κ V C) (k : κ) (v : V) (cache : κ → C) :
      S.nodes i = some n → (∀ j, j ≠ k → cache j = n.cache j) →
      Step view S (S.withNode i ⟨cache, n.up ++ [(k, v)], n.down⟩)
  | serve (S : State ι κ V C) (i : ι) (n : Node κ V C) (k : κ) (v : V) (up : List (κ × V)) :
      S.nodes i = some n → n.up = (k, v) :: up →
      Step view S ((S.withNode i { n with up := up }).set k v)
  | hear (S : State ι κ V C) (i : ι) (n : Node κ V C) (msg : κ → Option V)
      (down : List (κ → Option V)) : S.nodes i = some n → n.down = msg :: down →
      Step view S (S.withNode i ⟨receive (view i) msg n.cache, n.up, down⟩)
  | join (S : State ι κ V C) (i : ι) (cache : κ → C) (more : List (κ → Option V)) :
      S.nodes i = none → (∀ msg ∈ more, ∀ k, msg k = none) →
      Step view S (S.withNode i ⟨cache, [], snapshot S.master :: more⟩)

def pending (k : κ) : List (κ → Option V) → Option V
  | [] => none
  | msg :: down => (pending k down).or (msg k)

/-- A replica is told the master's value last of all, or shows it already, or
has a request on its way that will make it be told. -/
def Settles (view : V → C) (master : κ → V) (n : Node κ V C) (k : κ) : Prop :=
  match pending k n.down with
  | some v => v = master k
  | none => n.cache k = view (master k) ∨ ∃ v, (k, v) ∈ n.up

def Settled (view : ι → V → C) (S : State ι κ V C) : Prop :=
  ∀ i n, S.nodes i = some n → ∀ k, Settles (view i) S.master n k

theorem pending_append (k : κ) (down : List (κ → Option V)) (msg : κ → Option V) :
    pending k (down ++ [msg]) = (msg k).or (pending k down) := by
  induction down with
  | nil => simp [pending]
  | cons m down ih =>
      rw [List.cons_append, pending, pending, ih, Option.or_assoc]

theorem pending_eq_none {k : κ} {down : List (κ → Option V)} (h : ∀ msg ∈ down, msg k = none) :
    pending k down = none := by
  induction down with
  | nil => rfl
  | cons m down ih =>
      rw [pending, ih fun msg hm => h msg (List.mem_cons_of_mem m hm), Option.none_or]
      exact h m List.mem_cons_self

theorem single_self [DecidableEq κ] (k : κ) (v : V) : single k v k = some v := Function.update_self ..

theorem single_of_ne [DecidableEq κ] {j k : κ} (h : j ≠ k) (v : V) : single k v j = none :=
  Function.update_of_ne h ..

theorem receive_single [DecidableEq κ] (view : V → C) (k : κ) (v : V) (cache : κ → C) :
    receive view (single k v) cache = Function.update cache k (view v) := by
  funext j
  rw [receive]
  by_cases hj : j = k
  · subst hj
    rw [single_self, Function.update_self]
    rfl
  · rw [single_of_ne hj, Function.update_of_ne hj]
    rfl

theorem settled_set [DecidableEq κ] {view : ι → V → C} {S : State ι κ V C} {k : κ} {v : V}
    (h : ∀ i n, S.nodes i = some n → ∀ j, j ≠ k → Settles (view i) S.master n j) :
    Settled view (S.set k v) := by
  intro i n hn j
  simp only [State.set, Option.map_eq_some_iff] at hn
  obtain ⟨n, hn, rfl⟩ := hn
  rw [Settles, pending_append]
  by_cases hj : j = k
  · subst hj
    rw [single_self]
    exact (Function.update_self j v S.master).symm
  · have hs := h i n hn j hj
    have hm : (S.set k v).master j = S.master j := Function.update_of_ne hj ..
    rw [single_of_ne hj, Option.none_or, hm]
    exact hs

theorem settled_withNode [DecidableEq ι] {view : ι → V → C} {S : State ι κ V C} (hS : Settled view S) {i : ι}
    {n : Node κ V C} (hn : ∀ k, Settles (view i) S.master n k) : Settled view (S.withNode i n) := by
  intro i' n' hn' k
  rw [State.withNode] at hn' ⊢
  by_cases hi : i' = i
  · subst hi
    dsimp only at hn'
    rw [Function.update_self] at hn'
    obtain rfl := Option.some.inj hn'
    exact hn k
  · dsimp only at hn'
    rw [Function.update_of_ne hi] at hn'
    exact hS i' n' hn' k

theorem settles_write {view : V → C} {master : κ → V} {n : Node κ V C} {k : κ} {v : V} {cache : κ → C}
    (hcache : ∀ j, j ≠ k → cache j = n.cache j) {j : κ} (hs : Settles view master n j) :
    Settles view master ⟨cache, n.up ++ [(k, v)], n.down⟩ j := by
  rw [Settles] at hs ⊢
  dsimp only
  split at hs
  next => exact hs
  next =>
    by_cases hj : j = k
    · subst hj
      exact .inr ⟨v, by simp⟩
    · rw [hcache j hj]
      exact hs.imp_right fun ⟨u, hu⟩ => ⟨u, List.mem_append_left _ hu⟩

theorem settles_serve {view : V → C} {master : κ → V} {n : Node κ V C} {k : κ} {v : V}
    {up : List (κ × V)} (hup : n.up = (k, v) :: up) {j : κ} (hj : j ≠ k)
    (hs : Settles view master n j) : Settles view master { n with up := up } j := by
  rw [Settles] at hs ⊢
  dsimp only
  split at hs
  next => exact hs
  next =>
    refine hs.imp_right fun ⟨u, hu⟩ => ⟨u, ?_⟩
    rw [hup, List.mem_cons] at hu
    exact hu.resolve_left fun he => hj (Prod.mk.inj he).1

theorem settles_hear {view : V → C} {master : κ → V} {n : Node κ V C} {msg : κ → Option V}
    {down : List (κ → Option V)} (hdown : n.down = msg :: down) {k : κ}
    (hs : Settles view master n k) :
    Settles view master ⟨receive view msg n.cache, n.up, down⟩ k := by
  rw [Settles, hdown, pending] at hs
  rw [Settles]
  dsimp only
  cases hp : pending k down with
  | some u =>
      rw [hp, Option.some_or] at hs
      exact hs
  | none =>
      rw [hp, Option.none_or] at hs
      rw [receive]
      cases hm : msg k with
      | none =>
          rw [hm] at hs
          exact hs
      | some u =>
          rw [hm] at hs
          exact .inl (congrArg view hs)

theorem settled_step [DecidableEq ι] [DecidableEq κ] {view : ι → V → C} {S S' : State ι κ V C}
    (hstep : Step view S S') (hS : Settled view S) : Settled view S' := by
  cases hstep with
  | change k v => exact settled_set fun i n hn j _ => hS i n hn j
  | write i n k v cache hn hcache =>
      apply settled_withNode hS
      exact fun j => settles_write hcache (hS i n hn j)
  | serve i n k v up hn hup =>
      apply settled_set
      intro i' n' hn' j hj
      rw [State.withNode] at hn' ⊢
      dsimp only at hn' ⊢
      by_cases hi : i' = i
      · subst hi
        rw [Function.update_self] at hn'
        obtain rfl := Option.some.inj hn'
        exact settles_serve hup hj (hS i' n hn j)
      · rw [Function.update_of_ne hi] at hn'
        exact hS i' n' hn' j
  | hear i n msg down hn hdown =>
      apply settled_withNode hS
      exact fun k => settles_hear hdown (hS i n hn k)
  | join i cache more hn hmore =>
      apply settled_withNode hS
      intro k
      rw [Settles]
      dsimp only
      rw [pending, pending_eq_none fun msg hm => hmore msg hm k, Option.none_or, snapshot]

theorem settled_reach [DecidableEq ι] [DecidableEq κ] {view : ι → V → C} {S S' : State ι κ V C}
    (h : ReflTransGen (Step view) S S') (hS : Settled view S) : Settled view S' := by
  induction h with
  | refl => exact hS
  | tail _ hstep ih => exact settled_step hstep ih

/-- With nothing on its way a settled replica shows what the master has. -/
theorem converged {view : ι → V → C} {S : State ι κ V C} (hS : Settled view S) {i : ι}
    {n : Node κ V C} (hn : S.nodes i = some n) (hup : n.up = []) (hdown : n.down = []) :
    n.cache = view i ∘ S.master := by
  funext k
  have hs := hS i n hn k
  rw [Settles, hdown, pending, hup] at hs
  rcases hs with hs | ⟨v, hv⟩
  · exact hs
  · cases hv

end PyConnect.Replication

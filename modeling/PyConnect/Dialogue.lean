import Mathlib.Data.List.ReduceOption
import Mathlib.Logic.Relation

namespace PyConnect.Dialogue

open Relation

/-- A client of a server: its requests and the answers that it has had, and the
messages each way between them, oldest first. A message that is neither a
request nor an answer is none. -/
structure Node (R A : Type) where
  asked : List R
  served : List R
  up : List (Option R)
  heard : List A
  down : List (Option A)

variable {R A : Type} {answer : R → List A} {n n' : Node R A}

def Node.fresh : Node R A := ⟨[], [], [], [], []⟩

/-- Whatever else there is to tell may come between the answers. -/
inductive Step (answer : R → List A) : Node R A → Node R A → Prop
  | ask (n : Node R A) (r : Option R) :
      Step answer n { n with asked := n.asked ++ r.toList, up := n.up ++ [r] }
  | serve (n : Node R A) (r : Option R) (up : List (Option R)) : n.up = r :: up →
      Step answer n { n with
        served := n.served ++ r.toList
        up := up
        down := n.down ++ (r.toList.flatMap answer).map some }
  | tell (n : Node R A) (k : Nat) : Step answer n { n with down := n.down ++ List.replicate k none }
  | hear (n : Node R A) (a : Option A) (down : List (Option A)) : n.down = a :: down →
      Step answer n { n with heard := n.heard ++ a.toList, down := down }

/-- What was asked has been served or is on its way, and so have the answers to
what was served, both in order. -/
structure Balanced (answer : R → List A) (n : Node R A) : Prop where
  requests : n.asked = n.served ++ n.up.reduceOption
  answers : n.served.flatMap answer = n.heard ++ n.down.reduceOption

theorem reduceOption_cons {α : Type} (x : Option α) (xs : List (Option α)) :
    (x :: xs).reduceOption = x.toList ++ xs.reduceOption := by
  cases x with
  | none => simp
  | some a => simp

theorem reduceOption_map_some {α : Type} (xs : List α) : (xs.map some).reduceOption = xs := by
  induction xs with
  | nil => rfl
  | cons x xs ih => rw [List.map_cons, reduceOption_cons, ih, Option.toList_some, List.singleton_append]

theorem balanced_step (h : Balanced answer n) (hstep : Step answer n n') : Balanced answer n' := by
  cases hstep with
  | ask r =>
      refine ⟨?_, h.answers⟩
      simp only [h.requests, List.reduceOption_append, reduceOption_cons, List.append_assoc]
      simp
  | serve r up hup =>
      constructor
      · simp only [h.requests, hup, reduceOption_cons, List.append_assoc]
      · simp only [List.flatMap_append, h.answers, List.reduceOption_append, reduceOption_map_some,
          List.append_assoc]
  | tell k =>
      refine ⟨h.requests, ?_⟩
      simp only [h.answers, List.reduceOption_append, List.reduceOption_replicate_none]
      simp
  | hear a down hdown =>
      refine ⟨h.requests, ?_⟩
      simp only [h.answers, hdown, reduceOption_cons, List.append_assoc]

end PyConnect.Dialogue

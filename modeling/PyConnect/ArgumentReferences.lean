import PyConnect.AttributeWrites
import Mathlib.Data.List.TakeWhile

namespace PyConnect.ArgumentReferences

open Common Values Stub StubCall AttributeWrites

variable {ι : Type} [DecidableEq ι]

/-- An argument of a call: which object it is, and what it holds. The same object
can be there more than once. -/
structure Arg (ι : Type) where
  object : ι
  value : PyObject

abbrev References (ι : Type) := ι → Int

def incref (refs : References ι) (x : ι) : References ι := Function.update refs x (refs x + 1)

def decref (refs : References ι) (x : ι) : References ι := Function.update refs x (refs x - 1)

/-- The first loop of pyCall: arguments are checked and referenced one by one, up
to the first that is turned down. -/
def takeArgs : Nat → References ι → List (Arg ι × PyConnectArgument) →
    References ι × Except (Nat × PyConnectType) Int
  | _, refs, [] => (refs, .ok 0)
  | i, refs, x :: xs =>
      let sizeReq := validateTypeAndSize x.1.value x.2.type
      if sizeReq = 0 then (refs, .error (i, x.2.type))
      else
        let (refs, rest) := takeArgs (i + 1) (incref refs x.1.object) xs
        (refs, do
          let rest ← rest
          .ok (sizeReq + rest))

/-- packToStr. PyUnicode_FromObject of a str is the str itself, referenced once
more until its bytes have been asked for. -/
def packToStr (host : Host) (refs : References ι) (arg : Arg ι) (t : PyConnectType) :
    References ι × List UInt8 :=
  match t with
  | .string => (decref (incref refs arg.object) arg.object, Values.packToStr host arg.value .string)
  | t => (refs, Values.packToStr host arg.value t)

/-- The second loop, in the order of the list: each argument is packed and given up. -/
def packArgs (host : Host) : References ι → List (Arg ι × PyConnectArgument) →
    References ι × List UInt8
  | refs, [] => (refs, [])
  | refs, x :: xs =>
      let (refs, bytes) := packToStr host refs x.1 x.2.type
      let (refs, rest) := packArgs host (decref refs x.1.object) xs
      (refs, bytes ++ rest)

/-- PyConnectMethod::pyCall with the reference counts before and after it. -/
def pyCall (host : Host) (s : PyConnectStub) (owner : PyConnectObject) (metd : PyConnectMethod)
    (refs : References ι) (args : List (Arg ι)) : References ι × Attempt :=
  let minReqArgs := metd.args.length - metd.optArgs
  if args.length < minReqArgs ∨ args.length > minReqArgs + metd.optArgs then
    (refs, ⟨owner, [], some (.typeError (metd.name ++ text "() requires " ++
      (if metd.optArgs ≠ 0 then text "at least " else []) ++ number minReqArgs ++
      text " arguments, total " ++ number (minReqArgs + metd.optArgs) ++ text " arguments.")), false⟩)
  else
    let argList := args.zip metd.args
    let (refs, size) := takeArgs 0 refs argList
    match size with
    | .error (i, type) => (refs, ⟨owner, [], some (.valueError (metd.name ++ text "(): argument " ++
        number (i + 1) ++ text " is not a " ++ typeName type)), false⟩)
    | .ok totalArgSize =>
        let (refs, bytes) := packArgs host refs
          (if owner.argEvalReversed then argList else argList.reverse)
        let mindex := owner.pPyAttrs.length + metd.id
        (refs, ⟨owner, remoteAttrMethodCall host s owner mindex (bytes.take totalArgSize.toNat)
          (if owner.noCallback then .callAttrMetdNocb else .callAttrMetd), none,
          argList.any fun x => overflows x.1.value x.2.type⟩)

def fits (x : Arg ι × PyConnectArgument) : Bool := admits x.1.value x.2.type

def taken (xs : List (Arg ι × PyConnectArgument)) : List ι := (xs.takeWhile fits).map (·.1.object)

/-- No argument is taken before one is turned down: all are right, or the first
one is not. -/
def NoneTakenInVain (metd : PyConnectMethod) (args : List (Arg ι)) : Prop :=
  Counted metd args.length →
    (∀ x ∈ args.zip metd.args, fits x = true) ∨ ∃ x ∈ (args.zip metd.args).head?, fits x = false

variable {refs : References ι} {xs : List (Arg ι × PyConnectArgument)} {host : Host}

omit [DecidableEq ι] in
theorem fits_iff (x : Arg ι × PyConnectArgument) :
    fits x = true ↔ validateTypeAndSize x.1.value x.2.type ≠ 0 := by
  rw [ne_eq, validateTypeAndSize_eq_zero, fits, Bool.not_eq_false]

theorem count_head (x : ι) (xs : List ι) (y : ι) : (x :: xs).count y = [x].count y + xs.count y := by
  rw [← List.count_append, List.singleton_append]

theorem incref_apply (refs : References ι) (x y : ι) :
    incref refs x y = refs y + [x].count y := by
  by_cases h : y = x
  · subst h
    simp [incref]
  · rw [incref, Function.update_of_ne h, List.count_singleton]
    simp [Ne.symm h]

theorem decref_apply (refs : References ι) (x y : ι) :
    decref refs x y = refs y - [x].count y := by
  by_cases h : y = x
  · subst h
    simp [decref]
  · rw [decref, Function.update_of_ne h, List.count_singleton]
    simp [Ne.symm h]

theorem decref_incref (refs : References ι) (x : ι) : decref (incref refs x) x = refs := by
  funext y
  rw [decref_apply, incref_apply]
  omega

theorem packToStr_eq (refs : References ι) (arg : Arg ι) (t : PyConnectType) :
    packToStr host refs arg t = (refs, Values.packToStr host arg.value t) := by
  cases t <;> simp [packToStr, decref_incref]

theorem takeArgs_refs (i : Nat) (refs : References ι) (xs : List (Arg ι × PyConnectArgument)) (y : ι) :
    (takeArgs i refs xs).1 y = refs y + (taken xs).count y := by
  induction xs generalizing i refs with
  | nil => simp [takeArgs, taken]
  | cons x xs ih =>
      rw [takeArgs]
      by_cases h : validateTypeAndSize x.1.value x.2.type = 0
      · have hx : fits x = false := by rwa [fits, ← validateTypeAndSize_eq_zero]
        rw [if_pos h, taken, List.takeWhile_cons_of_neg (by simp [hx])]
        simp
      · have hx : fits x = true := (fits_iff x).mpr h
        rw [if_neg h, taken, List.takeWhile_cons_of_pos hx]
        dsimp only
        have hhead := count_head x.1.object ((xs.takeWhile fits).map (·.1.object)) y
        rw [ih, incref_apply, List.map_cons, taken]
        omega

theorem takeArgs_size (i : Nat) (refs : References ι) (xs : List (Arg ι × PyConnectArgument)) :
    (takeArgs i refs xs).2 = argsSize i (xs.map fun x => (x.1.value, x.2)) := by
  induction xs generalizing i refs with
  | nil => rfl
  | cons x xs ih =>
      rw [takeArgs, List.map_cons, argsSize]
      dsimp only
      split
      · rfl
      · dsimp only
        rw [ih]

theorem takeArgs_ok {i : Nat} {n : Int} (h : (takeArgs i refs xs).2 = .ok n) :
    ∀ x ∈ xs, fits x = true := by
  induction xs generalizing i refs n with
  | nil => exact fun x hx => absurd hx List.not_mem_nil
  | cons x xs ih =>
      rw [takeArgs] at h
      dsimp only at h
      split at h
      · cases h
      next hx =>
        dsimp only at h
        cases hrest : (takeArgs (i + 1) (incref refs x.1.object) xs).2 with
        | error e =>
            rw [hrest] at h
            cases h
        | ok m => exact List.forall_mem_cons.mpr ⟨(fits_iff x).mpr hx, ih hrest⟩

theorem takeArgs_error {i : Nat} {e : Nat × PyConnectType} (h : (takeArgs i refs xs).2 = .error e) :
    ¬ ∀ x ∈ xs, fits x = true := by
  induction xs generalizing i refs e with
  | nil => cases h
  | cons x xs ih =>
      rw [takeArgs] at h
      dsimp only at h
      split at h
      next hx => exact fun hall => absurd hx ((fits_iff x).mp (hall x List.mem_cons_self))
      next hx =>
        dsimp only at h
        cases hrest : (takeArgs (i + 1) (incref refs x.1.object) xs).2 with
        | error e => exact fun hall => ih hrest fun y hy => hall y (List.mem_cons_of_mem x hy)
        | ok m =>
            rw [hrest] at h
            cases h

theorem packArgs_refs (refs : References ι) (xs : List (Arg ι × PyConnectArgument)) (y : ι) :
    (packArgs host refs xs).1 y = refs y - (xs.map (·.1.object)).count y := by
  induction xs generalizing refs with
  | nil => simp [packArgs]
  | cons x xs ih =>
      rw [packArgs, packToStr_eq]
      dsimp only
      have hhead := count_head x.1.object (xs.map (·.1.object)) y
      rw [ih, decref_apply, List.map_cons]
      omega

theorem packArgs_bytes (refs : References ι) (xs : List (Arg ι × PyConnectArgument)) :
    (packArgs host refs xs).2 = xs.flatMap fun x => Values.packToStr host x.1.value x.2.type := by
  induction xs generalizing refs with
  | nil => rfl
  | cons x xs ih =>
      rw [packArgs, packToStr_eq]
      dsimp only
      rw [ih, List.flatMap_cons]

theorem count_directed (reversed : Bool) (xs : List (Arg ι × PyConnectArgument)) (y : ι) :
    ((if reversed then xs else xs.reverse).map (·.1.object)).count y =
      (xs.map (·.1.object)).count y := by
  cases reversed with
  | true => rfl
  | false => rw [if_neg Bool.false_ne_true, List.map_reverse, List.count_reverse]

/-- With its reference counts forgotten, this is the pyCall of the proxies. -/
theorem pyCall_attempt (host : Host) (s : PyConnectStub) (owner : PyConnectObject)
    (metd : PyConnectMethod) (refs : References ι) (args : List (Arg ι)) :
    (pyCall host s owner metd refs args).2 =
      StubCall.pyCall host s owner metd (args.map (·.value)) := by
  have hzip : (args.map (·.value)).zip metd.args =
      (args.zip metd.args).map fun x => (x.1.value, x.2) := by
    rw [List.zip_map_left]
    rfl
  have hsize := takeArgs_size 0 refs (args.zip metd.args)
  rw [pyCall, StubCall.pyCall]
  dsimp only
  rw [List.length_map, hzip, ← hsize]
  split
  · rfl
  · cases (takeArgs 0 refs (args.zip metd.args)).2 with
    | error e => rfl
    | ok n =>
        dsimp only
        rw [packArgs_bytes, StubCall.packArgs]
        cases owner.argEvalReversed with
        | true => simp [List.flatMap_map, List.any_map, Function.comp_def]
        | false => simp [List.flatMap_map, List.any_map, Function.comp_def, ← List.map_reverse]

theorem pyCall_refs (host : Host) (s : PyConnectStub) (owner : PyConnectObject)
    (metd : PyConnectMethod) (refs : References ι) (args : List (Arg ι)) (y : ι) :
    (Counted metd args.length → (∃ x ∈ args.zip metd.args, fits x = false) →
      (pyCall host s owner metd refs args).1 y =
        refs y + (taken (args.zip metd.args)).count y) ∧
    (¬ Counted metd args.length ∨ (∀ x ∈ args.zip metd.args, fits x = true) →
      (pyCall host s owner metd refs args).1 y = refs y) := by
  have hrefs := takeArgs_refs 0 refs (args.zip metd.args) y
  have hcounted : (args.length < metd.args.length - metd.optArgs ∨
      args.length > metd.args.length - metd.optArgs + metd.optArgs) ↔
        ¬ Counted metd args.length := by
    rw [Counted]
    omega
  rw [pyCall]
  dsimp only
  by_cases hcount : Counted metd args.length
  · rw [if_neg (by rw [hcounted]; exact not_not.mpr hcount)]
    cases hsize : (takeArgs 0 refs (args.zip metd.args)).2 with
    | error e =>
        refine ⟨fun _ _ => hrefs, ?_⟩
        rintro (h | h)
        · exact absurd hcount h
        · exact absurd h (takeArgs_error hsize)
    | ok n =>
        have hall := takeArgs_ok hsize
        constructor
        · rintro - ⟨x, hx, hbad⟩
          rw [hall x hx] at hbad
          cases hbad
        intro _
        have htaken : taken (args.zip metd.args) = (args.zip metd.args).map (·.1.object) := by
          rw [taken, List.takeWhile_eq_self_iff.mpr hall]
        dsimp only
        rw [packArgs_refs, count_directed, hrefs, htaken]
        omega
  · rw [if_pos (hcounted.mpr hcount)]
    exact ⟨fun h => absurd h hcount, fun _ => rfl⟩

/-- A call gives back all its arguments exactly when it takes none before it turns
one down. -/
theorem references_kept_iff (host : Host) (s : PyConnectStub) (owner : PyConnectObject)
    (metd : PyConnectMethod) (refs : References ι) (args : List (Arg ι)) :
    (∀ arg ∈ args, (pyCall host s owner metd refs args).1 arg.object = refs arg.object) ↔
      NoneTakenInVain metd args := by
  have hrefs := pyCall_refs host s owner metd refs args
  constructor
  · intro hkept hcount
    by_contra hnone
    rw [not_or] at hnone
    obtain ⟨hbad, hhead⟩ := hnone
    have hbad' : ∃ x ∈ args.zip metd.args, fits x = false := by simpa using hbad
    -- the first argument is not turned down, so it has been taken
    cases hzip : args.zip metd.args with
    | nil => simp [hzip] at hbad'
    | cons x xs =>
        have hx : fits x = true := by
          rw [hzip] at hhead
          simpa using hhead
        have hmem : x.1 ∈ args := (List.of_mem_zip (hzip ▸ List.mem_cons_self : x ∈ _)).1
        have hleak := (hrefs x.1.object).1 hcount hbad'
        rw [hkept x.1 hmem, hzip, taken, List.takeWhile_cons_of_pos hx, List.map_cons] at hleak
        have hpos : 0 < (x.1.object :: (xs.takeWhile fits).map (·.1.object)).count x.1.object :=
          List.count_pos_iff.mpr List.mem_cons_self
        omega
  · intro hnone arg _
    by_cases hcount : Counted metd args.length
    · rcases hnone hcount with hall | ⟨x, hx, hbad⟩
      · exact (hrefs arg.object).2 (.inr hall)
      · obtain ⟨xs, hzip⟩ := List.head?_eq_some_iff.mp hx
        have hleak := (hrefs arg.object).1 hcount ⟨x, hzip ▸ List.mem_cons_self, hbad⟩
        rw [hleak, hzip, taken, List.takeWhile_cons_of_neg (by simp [hbad])]
        simp
    · exact (hrefs arg.object).2 (.inl hcount)

def adder : PyConnectMethod := ⟨[43], .int, [⟨.int, false⟩, ⟨.int, false⟩], 0, 0, []⟩

/-- Called with a number and a text, it fails and keeps the number. -/
theorem not_references_kept : ¬ ∀ arg ∈ [(⟨0, .int 7⟩ : Arg Nat), ⟨1, .str [120]⟩],
    (pyCall .little ⟨false, [], 2, [], 5⟩ (PyConnectObject.create [97] 1 none 0) adder
      (fun _ => (1 : Int)) [(⟨0, .int 7⟩ : Arg Nat), ⟨1, .str [120]⟩]).1 arg.object = 1 := by
  decide +kernel

end PyConnect.ArgumentReferences

import Mathlib.Data.Finset.Dedup
import Mathlib.Data.List.Infix
import PyConnect.Decimal
import PyConnect.Ints
import PyConnect.ObjComm

namespace PyConnect.SocketScan

open Decimal Ints ObjComm

def domainSocketPath : List Char := ['/', 't', 'm', 'p']

/-- PYCONNECT_CLTSOCKET_PREFIX of each program: what the sockets of the other one are
called. -/
def cltSocketPrefix : Side → List Char
  | .server => ['p', 'y', 'c', 'l', 't']
  | .wrapper => ['p', 'y', 's', 'v', 'r']

/-- fnmatch for patterns in which nothing but the star stands for anything else. -/
def fnmatch : List Char → List Char → Bool
  | [], name => name.isEmpty
  | c :: pattern, name =>
      if c = '*' then name.tails.any (fnmatch pattern)
      else name.head? == some c && fnmatch pattern name.tail

def socketPattern (side : Side) : List Char := cltSocketPrefix side ++ ['.', '*']

/-- The names in /proc while the processes of `running` run: those alone are there as
numbers. -/
structure Proc where
  running : Finset Int
  names : List (List Char)
  positive : ∀ n ∈ running, 0 < n
  listed : ∀ n : Int, decimal 0 n ∈ names ↔ n ∈ running

/-- The processes of a list run, and no others. -/
def Proc.ofList (pids : List Int) (h : ∀ n ∈ pids, 0 < n) : Proc where
  running := pids.toFinset
  names := pids.map (decimal 0)
  positive n hn := h n (List.mem_toFinset.mp hn)
  listed n := by
    rw [List.mem_toFinset, List.mem_map]
    constructor
    · rintro ⟨m, hm, heq⟩
      rwa [← decimal_injective 0 heq]
    · exact fun hn => ⟨n, hn, rfl⟩

/-- The loop over /proc. -/
def findProc (procIDStr : List Char) : List (List Char) → Bool → Bool
  | [], foundProc => foundProc
  | name :: names, foundProc =>
      if foundProc then foundProc else findProc procIDStr names (procIDStr == name)

/-- What a scan has found, and the texts that it has formatted with the sizes of their
buffers. -/
structure Scan where
  live : List Int
  dead : List Int
  formatted : List (Nat × List Char)

def procID (side : Side) (name : List Char) : Int :=
  toInt (strtol (name.drop ((cltSocketPrefix side).length + 1)))

def scanName (side : Side) (P : Proc) (S : Scan) (name : List Char) : Scan :=
  if fnmatch (socketPattern side) name then
    if procID side name = 0 then S
    else
      let procIDStr := decimal 0 (procID side name)
      let formatted := S.formatted ++ [(6, procIDStr)]
      if findProc procIDStr P.names false then
        { S with live := S.live ++ [procID side name], formatted := formatted }
      else { S with dead := S.dead ++ [procID side name], formatted := formatted }
  else S

def deadSocket (side : Side) (n : Int) : List Char :=
  domainSocketPath ++ '/' :: (cltSocketPrefix side ++ '.' :: decimal 5 n)

structure Result where
  liveServerSocketList : List Int
  unlinked : List (List Char)
  formatted : List (Nat × List Char)

/-- A directory that cannot be read leaves the list as it is. -/
def consolidateIPCSockets (side : Side) (P : Proc) (liveServerSocketList : List Int) :
    Option (List (List Char)) → Result
  | none => ⟨liveServerSocketList, [], []⟩
  | some names =>
      let S := names.foldl (scanName side P) ⟨[], [], [(10, socketPattern side)]⟩
      let paths := S.dead.map (deadSocket side)
      ⟨S.live, paths, S.formatted ++ paths.map (20, ·)⟩

def parsedID (side : Side) (name : List Char) : Option Int :=
  if fnmatch (socketPattern side) name then some (procID side name) else none

structure Exact (side : Side) (P : Proc) (names : List (List Char)) (R : Result) : Prop where
  live : R.liveServerSocketList = (names.filterMap (parsedID side)).filter (· ∈ P.running)
  unlinked : ∀ path ∈ R.unlinked, ∃ name n, path = domainSocketPath ++ '/' :: name ∧
    parsedID side name = some n ∧ n ∉ P.running
  fits : ∀ x ∈ R.formatted, x.2.length + 1 ≤ x.1

variable {side : Side} {P : Proc} {S : Scan} {name : List Char} {names : List (List Char)} {n : Int}

theorem fnmatch_literal_star {lit : List Char} (hlit : '*' ∉ lit) (name : List Char) :
    fnmatch (lit ++ ['*']) name = true ↔ lit <+: name := by
  induction lit generalizing name with
  | nil =>
      refine iff_of_true ?_ List.nil_prefix
      rw [List.nil_append, fnmatch, if_pos rfl, List.any_eq_true]
      exact ⟨[], (List.mem_tails _ _).mpr List.nil_suffix, rfl⟩
  | cons c lit ih =>
      have hc : c ≠ '*' := fun h => hlit (h ▸ List.mem_cons_self)
      have ih' := ih fun h => hlit (List.mem_cons_of_mem c h)
      rw [List.cons_append, fnmatch, if_neg hc, Bool.and_eq_true, ih']
      cases name with
      | nil => simp
      | cons x name =>
          rw [List.head?_cons, List.tail_cons, List.cons_prefix_cons, beq_iff_eq, Option.some_inj,
            eq_comm (a := x)]

theorem parsedID_decimal (side : Side) (hlo : -2 ^ 31 ≤ n) (hhi : n < 2 ^ 31) (width : Nat) :
    parsedID side (cltSocketPrefix side ++ '.' :: decimal width n) = some n := by
  have hname : cltSocketPrefix side ++ '.' :: decimal width n =
      (cltSocketPrefix side ++ ['.']) ++ decimal width n := by simp
  have hpattern : socketPattern side = (cltSocketPrefix side ++ ['.']) ++ ['*'] := by
    rw [socketPattern, List.append_assoc]
    rfl
  have hlit : '*' ∉ cltSocketPrefix side ++ ['.'] := by cases side <;> decide
  have hdrop : (cltSocketPrefix side ++ '.' :: decimal width n).drop
      ((cltSocketPrefix side).length + 1) = decimal width n := by
    rw [hname, List.drop_left' (by simp)]
  have hid : procID side (cltSocketPrefix side ++ '.' :: decimal width n) = n := by
    rw [procID, hdrop, strtol_decimal width (by omega) (by omega), toInt_eq_self hlo hhi]
  rw [parsedID, hid, hname, hpattern, if_pos ((fnmatch_literal_star hlit _).mpr (List.prefix_append _ _))]

theorem findProc_eq (procIDStr : List Char) (names : List (List Char)) (foundProc : Bool) :
    findProc procIDStr names foundProc = (foundProc || names.contains procIDStr) := by
  induction names generalizing foundProc with
  | nil => simp [findProc]
  | cons name names ih =>
      cases foundProc with
      | true => rfl
      | false =>
          rw [findProc, if_neg (by decide), ih]
          simp [Bool.beq_eq_decide_eq]

theorem findProc_iff (P : Proc) (n : Int) :
    findProc (decimal 0 n) P.names false = true ↔ n ∈ P.running := by
  rw [findProc_eq, Bool.false_or, List.contains_iff_mem, P.listed]

def processIDs (side : Side) (names : List (List Char)) : List Int :=
  (names.filterMap (parsedID side)).filter (· ≠ 0)

theorem scanName_eq (side : Side) (P : Proc) (S : Scan) (name : List Char) :
    scanName side P S name =
      ⟨S.live ++ (processIDs side [name]).filter (· ∈ P.running),
        S.dead ++ (processIDs side [name]).filter (· ∉ P.running),
        S.formatted ++ (processIDs side [name]).map (6, decimal 0 ·)⟩ := by
  rw [scanName, processIDs, List.filterMap_cons, parsedID]
  cases fnmatch (socketPattern side) name with
  | false => simp
  | true =>
      by_cases h0 : procID side name = 0
      · simp [h0]
      · have hfind := findProc_iff P (procID side name)
        by_cases hrun : procID side name ∈ P.running
        · simp [h0, hrun, hfind.mpr hrun]
        · simp [h0, hrun, Bool.eq_false_iff.mpr (mt hfind.mp hrun)]

theorem processIDs_cons (side : Side) (name : List Char) (names : List (List Char)) :
    processIDs side (name :: names) = processIDs side [name] ++ processIDs side names := by
  rw [processIDs, processIDs, processIDs, ← List.filter_append, ← List.filterMap_append,
    List.singleton_append]

theorem foldl_scanName (side : Side) (P : Proc) (names : List (List Char)) (S : Scan) :
    names.foldl (scanName side P) S =
      ⟨S.live ++ (processIDs side names).filter (· ∈ P.running),
        S.dead ++ (processIDs side names).filter (· ∉ P.running),
        S.formatted ++ (processIDs side names).map (6, decimal 0 ·)⟩ := by
  induction names generalizing S with
  | nil => simp [processIDs]
  | cons name names ih =>
      rw [List.foldl_cons, ih, scanName_eq, processIDs_cons side name names, List.filter_append,
        List.filter_append, List.map_append, List.append_assoc, List.append_assoc, List.append_assoc]

theorem consolidate_eq (side : Side) (P : Proc) (before : List Int) (names : List (List Char)) :
    consolidateIPCSockets side P before (some names) =
      let ids := processIDs side names
      let paths := (ids.filter (· ∉ P.running)).map (deadSocket side)
      ⟨ids.filter (· ∈ P.running), paths,
        (10, socketPattern side) :: ids.map (6, decimal 0 ·) ++ paths.map (20, ·)⟩ := by
  rw [consolidateIPCSockets, foldl_scanName]
  rfl

theorem mem_processIDs : n ∈ processIDs side names ↔
    n ≠ 0 ∧ ∃ name ∈ names, parsedID side name = some n := by
  simp [processIDs, and_comm]

theorem parsedID_bounds (h : parsedID side name = some n) : -2 ^ 31 ≤ n ∧ n < 2 ^ 31 := by
  rw [parsedID] at h
  split at h
  · obtain rfl := Option.some.inj h
    exact toInt_bounds _
  · cases h

/-- Number 0 is passed over and does not run either. -/
theorem live_eq (side : Side) (P : Proc) (names : List (List Char)) :
    (processIDs side names).filter (· ∈ P.running) =
      (names.filterMap (parsedID side)).filter (· ∈ P.running) := by
  rw [processIDs, List.filter_filter]
  apply List.filter_congr
  intro n _
  by_cases hn : n ∈ P.running
  · have hpos := P.positive n hn
    simp [hn, hpos.ne']
  · simp [hn]

theorem length_deadSocket (side : Side) (n : Int) :
    (deadSocket side n).length = 11 + (decimal 5 n).length := by
  cases side <;> simp [deadSocket, domainSocketPath, cltSocketPrefix] <;> omega

theorem decimal_fits_iff (n : Int) :
    (decimal 0 n).length + 1 ≤ 6 ↔ -9999 ≤ n ∧ n ≤ 99999 := by
  have h : (decimal 0 n).length ≤ 5 ↔ -10 ^ 4 < n ∧ n < 10 ^ 5 :=
    length_decimal_le_iff (by decide) (by decide)
  omega

theorem fits_iff (side : Side) (P : Proc) (before : List Int) (names : List (List Char)) :
    (∀ x ∈ (consolidateIPCSockets side P before (some names)).formatted, x.2.length + 1 ≤ x.1) ↔
      ∀ n ∈ processIDs side names, -9999 ≤ n ∧ n ≤ 99999 := by
  rw [consolidate_eq]
  constructor
  · intro h n hn
    apply (decimal_fits_iff n).mp
    exact h (6, decimal 0 n) (List.mem_append_left _
      (List.mem_cons_of_mem _ (List.mem_map_of_mem hn)))
  · intro h x hx
    rcases List.mem_append.mp hx with hx | hx
    · rcases List.mem_cons.mp hx with rfl | hx
      · cases side <;> decide
      · obtain ⟨n, hn, rfl⟩ := List.mem_map.mp hx
        exact (decimal_fits_iff n).mpr (h n hn)
    · obtain ⟨path, hpath, rfl⟩ := List.mem_map.mp hx
      obtain ⟨n, hn, rfl⟩ := List.mem_map.mp hpath
      have hsmall := h n (List.mem_of_mem_filter hn)
      have hlen : (decimal 5 n).length ≤ 5 := by
        rw [length_decimal_le_iff (by decide) le_rfl]
        omega
      change (deadSocket side n).length + 1 ≤ 20
      rw [length_deadSocket]
      omega

theorem unlinked_exact (side : Side) (P : Proc) (before : List Int) (names : List (List Char)) :
    ∀ path ∈ (consolidateIPCSockets side P before (some names)).unlinked,
      ∃ name n, path = domainSocketPath ++ '/' :: name ∧ parsedID side name = some n ∧
        n ∉ P.running := by
  rw [consolidate_eq]
  intro path hpath
  obtain ⟨n, hn, rfl⟩ := List.mem_map.mp hpath
  rw [List.mem_filter, decide_eq_true_eq] at hn
  obtain ⟨-, name, -, hname⟩ := mem_processIDs.mp hn.1
  obtain ⟨hlo, hhi⟩ := parsedID_bounds hname
  exact ⟨_, n, rfl, parsedID_decimal side hlo hhi 5, hn.2⟩

/-- The scan is exact and stays in its buffers just where no file is of a process
whose number has more than five characters. -/
theorem exact_iff (side : Side) (P : Proc) (before : List Int) (names : List (List Char)) :
    Exact side P names (consolidateIPCSockets side P before (some names)) ↔
      ∀ name ∈ names, ∀ n, parsedID side name = some n → -9999 ≤ n ∧ n ≤ 99999 := by
  have hfits := fits_iff side P before names
  constructor
  · intro h name hname n hn
    by_cases h0 : n = 0
    · subst h0
      decide
    · exact hfits.mp h.fits n (mem_processIDs.mpr ⟨h0, name, hname, hn⟩)
  · intro h
    refine ⟨?_, unlinked_exact side P before names, hfits.mpr fun n hn => ?_⟩
    · rw [consolidate_eq]
      exact live_eq side P names
    · obtain ⟨-, name, hname, hn⟩ := mem_processIDs.mp hn
      exact h name hname n hn

def sixDigits : List Char := cltSocketPrefix .server ++ '.' :: decimal 0 100000

theorem not_exact_sixDigits :
    ¬ Exact .server (Proc.ofList [] (by simp)) [sixDigits]
      (consolidateIPCSockets .server (Proc.ofList [] (by simp)) [] (some [sixDigits])) := by
  intro h
  have hid : parsedID .server sixDigits = some 100000 :=
    parsedID_decimal .server (by decide) (by decide) 0
  have hmem : (100000 : Int) ∈ processIDs .server [sixDigits] :=
    mem_processIDs.mpr ⟨by decide, sixDigits, List.mem_cons_self, hid⟩
  exact absurd ((fits_iff .server _ [] [sixDigits]).mp h.fits 100000 hmem) (by decide)

end PyConnect.SocketScan

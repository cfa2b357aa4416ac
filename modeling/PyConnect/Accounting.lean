import PyConnect.MissingBytes

namespace PyConnect.Accounting

open Decoding Common Values
open MissingBytes (ValueType)

/-- The functions that read from a message, one call each. -/
inductive Step
  | unpackStrToInt
  | unpackLENumber (w : Nat)
  | unpackString (extendSize : Bool)
  | unpackStr (type : PyConnectType)
  | getData (t : ValueType) (status : PyConnectMsgStatus) (defaultValue : Option t.Carrier)

def Step.run (host : Host) : Step → Cursor → Cursor
  | unpackStrToInt, c => (Common.unpackStrToInt c).2
  | unpackLENumber w, c => (Common.unpackLENumber host.bigEndian w c).2
  | unpackString extendSize, c => (Common.unpackString extendSize c).2
  | unpackStr type, c => (Values.unpackStr host type c).2
  | getData t status defaultValue, c =>
      (MissingBytes.getData host.bigEndian t status defaultValue c).2

def cursorAt (host : Host) (steps : List Step) (c : Cursor) (n : Nat) : Cursor :=
  (steps.take n).foldl (fun c s => s.run host c) c

/-- Each step takes off the count what it moves the cursor by, and their sum stays. -/
def Accounted (host : Host) (steps : List Step) (c : Cursor) : Prop :=
  (∀ n < steps.length,
    (cursorAt host steps c n).remaining - (cursorAt host steps c (n + 1)).remaining =
      (cursorAt host steps c (n + 1)).position - (cursorAt host steps c n).position) ∧
  ∀ n, (cursorAt host steps c n).position + (cursorAt host steps c n).remaining =
    c.position + c.remaining

def Step.Counted (s : Step) : Prop := s ≠ .unpackString false ∧ s ≠ .unpackStr .bool

def Step.drift : Step → Int
  | unpackString false => 1
  | unpackStr .bool => 1
  | _ => 0

theorem offBy_unpackStrToInt : OffBy 0 Common.unpackStrToInt := by
  refine offBy_byte.step (k := -1) (fun b => ?_) rfl
  split_ifs
  · exact offBy_byte.step (fun e => (offBy_spend 2).step (fun _ => OffBy.pure _) rfl) rfl
  · exact (offBy_spend 1).step (fun _ => OffBy.pure _) rfl

theorem offBy_unpackLENumber (bigEndian : Bool) (w : Nat) :
    OffBy 0 (Common.unpackLENumber bigEndian w) :=
  (offBy_bytes w).step (fun _ => (offBy_spend w).bind fun _ => OffBy.pure _) (by omega)

theorem offBy_unpackString_body {k : Int} {d : Decoder Nat} (hd : OffBy k d) :
    OffBy k (do
      let strLen ← d
      if strLen = 0 then pure []
      else
        let str ← bytes strLen
        spend strLen
        pure (cString str)) := by
  refine hd.step (k := 0) (fun strLen => ?_) (Int.add_zero k)
  split_ifs
  · exact OffBy.pure []
  · exact (offBy_bytes strLen).step (fun _ => (offBy_spend strLen).bind fun _ => OffBy.pure _)
      (by omega)

theorem offBy_unpackString (extendSize : Bool) :
    OffBy (Step.unpackString extendSize).drift (Common.unpackString extendSize) := by
  cases extendSize with
  | true => exact offBy_unpackString_body offBy_unpackStrToInt
  | false => exact offBy_unpackString_body (offBy_byte.step (fun _ => OffBy.pure _) rfl)

theorem offBy_unpackStr (host : Host) (type : PyConnectType) :
    OffBy (Step.unpackStr type).drift (Values.unpackStr host type) := by
  cases type with
  | int => exact (offBy_unpackLENumber host.bigEndian 4).bind fun _ => OffBy.pure _
  | float => exact (offBy_unpackLENumber host.bigEndian 4).bind fun _ => OffBy.pure _
  | double => exact (offBy_unpackLENumber host.bigEndian 8).bind fun _ => OffBy.pure _
  | string => exact (offBy_unpackString true).bind fun _ => OffBy.pure _
  | bool => exact offBy_byte.bind fun _ => OffBy.pure _
  | composite => exact OffBy.pure _
  | pyVoid => exact OffBy.pure _
  | other code => exact OffBy.pure _

theorem offBy_number (bigEndian : Bool) (w : Nat) (status : PyConnectMsgStatus) :
    OffBy 0 (do
      let rData ← Common.unpackLENumber bigEndian w
      pure (BitVec.ofNat (8 * w) rData, status)) :=
  (offBy_unpackLENumber bigEndian w).bind fun _ => OffBy.pure _

theorem offBy_string (status : PyConnectMsgStatus) :
    OffBy 0 (do let str ← Common.unpackString true; pure (str, status)) :=
  (offBy_unpackString true).bind fun _ => OffBy.pure _

theorem offBy_bool (status : PyConnectMsgStatus) :
    OffBy 0 (do let b ← byte; spend 1; pure (decide (b ≠ 0), status)) :=
  offBy_byte.step (fun _ => (offBy_spend 1).bind fun _ => OffBy.pure _) rfl

/-- Both overloads of every type: what is turned down or defaulted moves nothing. -/
theorem offBy_getData (bigEndian : Bool) (t : ValueType) (status : PyConnectMsgStatus)
    (defaultValue : Option t.Carrier) :
    OffBy 0 (MissingBytes.getData bigEndian t status defaultValue) := by
  cases t with
  | number w =>
      have hread := offBy_number bigEndian w status
      cases defaultValue with
      | none => exact .unless _ (.afterRemaining fun _ => .unless _ hread)
      | some v => exact .unless _ (.afterRemaining fun _ => .unless _ (.unless _ hread))
  | bool =>
      have hread := offBy_bool status
      cases defaultValue with
      | none => exact .unless _ (.afterRemaining fun _ => .unless _ hread)
      | some v => exact .unless _ (.afterRemaining fun _ => .unless _ (.unless _ hread))
  | string =>
      have hread := offBy_string status
      cases defaultValue with
      | none => exact .unless _ hread
      | some v => exact .unless _ (.afterRemaining fun _ => .unless _ hread)

theorem run_drift (host : Host) (s : Step) (c : Cursor) :
    (s.run host c).position + (s.run host c).remaining = c.position + c.remaining + s.drift := by
  cases s with
  | unpackStrToInt => exact offBy_unpackStrToInt c
  | unpackLENumber w => exact offBy_unpackLENumber host.bigEndian w c
  | unpackString extendSize => exact offBy_unpackString extendSize c
  | unpackStr type => exact offBy_unpackStr host type c
  | getData t status defaultValue => exact offBy_getData host.bigEndian t status defaultValue c

theorem drift_eq_zero_iff (s : Step) : s.drift = 0 ↔ s.Counted := by
  cases s with
  | unpackString extendSize => cases extendSize <;> simp [Step.drift, Step.Counted]
  | unpackStr type => cases type <;> simp [Step.drift, Step.Counted]
  | _ => simp [Step.drift, Step.Counted]

theorem cursorAt_succ (host : Host) {steps : List Step} (c : Cursor) {n : Nat}
    (hn : n < steps.length) :
    cursorAt host steps c (n + 1) = (steps[n]).run host (cursorAt host steps c n) := by
  rw [cursorAt, List.take_succ_eq_append_getElem hn, List.foldl_append]
  rfl

theorem cursorAt_drift (host : Host) (steps : List Step) (c : Cursor)
    (h : ∀ s ∈ steps, s.Counted) (n : Nat) :
    (cursorAt host steps c n).position + (cursorAt host steps c n).remaining =
      c.position + c.remaining := by
  induction n with
  | zero => rfl
  | succ n ih =>
      by_cases hn : n < steps.length
      · have hd := (drift_eq_zero_iff _).mpr (h _ (List.getElem_mem hn))
        rw [cursorAt_succ host c hn, run_drift, hd, ih, Int.add_zero]
      · have hall : cursorAt host steps c (n + 1) = cursorAt host steps c n := by
          rw [cursorAt, cursorAt, List.take_of_length_le (by omega), List.take_of_length_le (by omega)]
        rw [hall, ih]

theorem counted_of_accounted {host : Host} {steps : List Step} {c : Cursor}
    (h : Accounted host steps c) : ∀ s ∈ steps, s.Counted := by
  intro s hs
  obtain ⟨n, hn, rfl⟩ := List.getElem_of_mem hs
  have hstep := h.1 n hn
  have hd := run_drift host steps[n] (cursorAt host steps c n)
  rw [← cursorAt_succ host c hn] at hd
  rw [← drift_eq_zero_iff]
  omega

theorem accounted_iff (host : Host) (steps : List Step) (c : Cursor) :
    Accounted host steps c ↔ ∀ s ∈ steps, s.Counted := by
  constructor
  · exact counted_of_accounted
  · intro h
    have hsum := cursorAt_drift host steps c h
    refine ⟨fun n hn => ?_, hsum⟩
    have h1 := hsum n
    have h2 := hsum (n + 1)
    omega

theorem not_accounted_name : ¬ Accounted Host.little [.unpackString false] ⟨[1, 97], 0, 2⟩ := by
  intro h
  have hc := counted_of_accounted h _ List.mem_cons_self
  exact hc.1 rfl

end PyConnect.Accounting

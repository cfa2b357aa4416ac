import Mathlib.Algebra.Order.Ring.Int
import Mathlib.Data.List.Basic

namespace PyConnect.Decoding

/-- A read position in a byte string. Bytes taken past the end read as zero
and are counted by `overrun`. `remaining` is the count that a caller passes by
reference beside the pointer; only the decoders keep the two in step. -/
structure Cursor where
  rest : List UInt8
  overrun : Nat
  remaining : Int
  deriving DecidableEq, Repr

abbrev Decoder (α : Type) := StateM Cursor α

def startAt (bs : List UInt8) (remaining : Int) : Cursor := ⟨bs, 0, remaining⟩

def byte : Decoder UInt8 := fun c =>
  (c.rest.headD 0, ⟨c.rest.tail, c.overrun + (1 - c.rest.length), c.remaining⟩)

def bytes (n : Nat) : Decoder (List UInt8) := fun c =>
  (c.rest.take n ++ List.replicate (n - c.rest.length) 0,
    ⟨c.rest.drop n, c.overrun + (n - c.rest.length), c.remaining⟩)

def spend (k : Int) : Decoder Unit := fun c => ((), ⟨c.rest, c.overrun, c.remaining - k⟩)

def getRemaining : Decoder Int := fun c => (c.remaining, c)

def setRemaining (k : Int) : Decoder Unit := fun c => ((), ⟨c.rest, c.overrun, k⟩)

/-- A counted loop whose body reads from the cursor and updates a value. -/
def forCount {σ : Type} (body : Nat → σ → Decoder σ) : Nat → Nat → σ → Decoder σ
  | _, 0, s => pure s
  | i, n + 1, s => do
      let s ← body i s
      forCount body (i + 1) n s

variable {α β σ ι : Type}

/-- The decoder turns these bytes into this value, whatever follows them, and
lowers the remaining count by `k`. -/
def Decodes (d : Decoder α) (bs : List UInt8) (a : α) (k : Int) : Prop :=
  ∀ rest overrun remaining, d ⟨bs ++ rest, overrun, remaining⟩ = (a, ⟨rest, overrun, remaining - k⟩)

theorem bind_apply (d : Decoder α) (f : α → Decoder β) (c : Cursor) :
    (d >>= f) c = f (d c).1 (d c).2 := rfl

theorem pure_apply (a : α) (c : Cursor) : (pure a : Decoder α) c = (a, c) := rfl

theorem byte_cons (x : UInt8) (rest : List UInt8) :
    byte (startAt (x :: rest) 0) = (x, startAt rest 0) := by
  simp [byte, startAt]

/-- Every value the decoder can give has the property. -/
def Yields (d : Decoder α) (P : α → Prop) : Prop := ∀ c, P (d c).1

theorem Yields.pure {P : α → Prop} {a : α} (ha : P a) : Yields (Pure.pure a) P := fun _ => ha

theorem Yields.bind {d : Decoder α} {f : α → Decoder β} {P : α → Prop} {Q : β → Prop}
    (hd : Yields d P) (hf : ∀ a, P a → Yields (f a) Q) : Yields (d >>= f) Q :=
  fun c => hf _ (hd c) _

theorem Yields.trivial (d : Decoder α) : Yields d fun _ => True := fun _ => True.intro

theorem Yields.after {d : Decoder α} {f : α → Decoder β} {Q : β → Prop}
    (hf : ∀ a, Yields (f a) Q) : Yields (d >>= f) Q :=
  (Yields.trivial d).bind fun a _ => hf a

theorem Yields.forCountFrom {body : Nat → σ → Decoder σ} {P : Nat → σ → Prop}
    (hbody : ∀ i s, P i s → Yields (body i s) (P (i + 1))) (i n : Nat) {s : σ} (hs : P i s) :
    Yields (Decoding.forCount body i n s) (P (i + n)) := by
  induction n generalizing i s with
  | zero => exact Yields.pure hs
  | succ n ih =>
      refine (hbody i s hs).bind fun s' hs' => ?_
      have hn : i + (n + 1) = i + 1 + n := by omega
      rw [hn]
      exact ih (i + 1) hs'

theorem Yields.forCount {body : Nat → σ → Decoder σ} {P : σ → Prop}
    (hbody : ∀ i s, P s → Yields (body i s) P) (i n : Nat) {s : σ} (hs : P s) :
    Yields (Decoding.forCount body i n s) P :=
  Yields.forCountFrom hbody i n hs

theorem Decodes.pure (a : α) : Decodes (Pure.pure a) [] a 0 := by
  intro rest overrun remaining
  rw [Int.sub_zero]
  rfl

theorem Decodes.bind {d : Decoder α} {f : α → Decoder β} {bs cs : List UInt8} {a : α} {b : β}
    {j k : Int} (hd : Decodes d bs a j) (hf : Decodes (f a) cs b k) :
    Decodes (d >>= f) (bs ++ cs) b (j + k) := by
  intro rest overrun remaining
  rw [List.append_assoc, bind_apply, hd]
  change f a _ = _
  rw [hf, Int.sub_sub]

theorem Decodes.step {d : Decoder α} {f : α → Decoder β} {x y z : List UInt8} {a : α} {b : β}
    {j k m : Int} (hd : Decodes d x a j) (hf : Decodes (f a) y b k) (hz : x ++ y = z)
    (hm : j + k = m) : Decodes (d >>= f) z b m := by
  rw [← hz, ← hm]
  exact hd.bind hf

theorem Decodes.map {d : Decoder α} {bs : List UInt8} {a : α} {k : Int} (f : α → β)
    (hd : Decodes d bs a k) : Decodes (do let x ← d; Pure.pure (f x)) bs (f a) k := by
  have h := hd.bind (f := fun x => Pure.pure (f x)) (Decodes.pure (f a))
  simpa using h

/-- The same for a decoder that first checks that enough is left. -/
def DecodesWithin (d : Decoder α) (bs : List UInt8) (a : α) (k : Int) : Prop :=
  ∀ rest overrun remaining, k ≤ remaining →
    d ⟨bs ++ rest, overrun, remaining⟩ = (a, ⟨rest, overrun, remaining - k⟩)

theorem Decodes.within {d : Decoder α} {bs : List UInt8} {a : α} {k : Int} (hd : Decodes d bs a k) :
    DecodesWithin d bs a k := fun rest overrun remaining _ => hd rest overrun remaining

theorem DecodesWithin.bind {d : Decoder α} {f : α → Decoder β} {bs cs : List UInt8} {a : α} {b : β}
    {j k : Int} (hd : DecodesWithin d bs a j) (hf : DecodesWithin (f a) cs b k) (hk : 0 ≤ k) :
    DecodesWithin (d >>= f) (bs ++ cs) b (j + k) := by
  intro rest overrun remaining hr
  rw [List.append_assoc, bind_apply, hd _ _ _ (by omega)]
  change f a _ = _
  rw [hf _ _ _ (by omega), Int.sub_sub]

theorem DecodesWithin.map {d : Decoder α} {bs : List UInt8} {a : α} {k : Int} (f : α → β)
    (hd : DecodesWithin d bs a k) :
    DecodesWithin (do let x ← d; Pure.pure (f x)) bs (f a) k := by
  have h := hd.bind (f := fun x => Pure.pure (f x)) (Decodes.pure (f a)).within (Int.le_refl 0)
  simpa using h

theorem decodes_byte (b : UInt8) : Decodes byte [b] b 0 := by
  intro rest overrun remaining
  simp [byte]

theorem decodes_bytes {n : Nat} {bs : List UInt8} (hn : bs.length = n) :
    Decodes (bytes n) bs bs 0 := by
  subst hn
  intro rest overrun remaining
  simp [bytes]

theorem decodes_spend (k : Int) : Decodes (spend k) [] () k := fun _ _ _ => rfl

/-- A counted loop over encoded items folds the items in their order. -/
theorem Decodes.forCount {body : Nat → σ → Decoder σ} (enc : ι → List UInt8)
    (step : Nat → ι → σ → σ) (cost : ι → Int) (xs : List ι) (i : Nat) (s : σ)
    (hbody : ∀ j s x, x ∈ xs → Decodes (body j s) (enc x) (step j x s) (cost x)) :
    Decodes (forCount body i xs.length s) (xs.flatMap enc)
      ((xs.zipIdx i).foldl (fun s p => step p.2 p.1 s) s) (xs.map cost).sum := by
  induction xs generalizing i s with
  | nil => exact Decodes.pure s
  | cons x xs ih =>
      have hx := hbody i s x List.mem_cons_self
      have hxs := ih (i + 1) (step i x s) (fun j s y hy => hbody j s y (List.mem_cons_of_mem x hy))
      simpa [Decoding.forCount] using hx.bind hxs

theorem Decodes.forEach {body : σ → Decoder σ} (enc : ι → List UInt8)
    (step : ι → σ → σ) (cost : ι → Int) (xs : List ι) (s : σ)
    (hbody : ∀ s x, x ∈ xs → Decodes (body s) (enc x) (step x s) (cost x)) :
    Decodes (Decoding.forCount (fun _ => body) 0 xs.length s) (xs.flatMap enc)
      (xs.foldl (fun s x => step x s) s) (xs.map cost).sum := by
  have h := Decodes.forCount enc (fun _ => step) cost xs 0 s (fun _ s x hx => hbody s x hx)
  have he : (xs.zipIdx 0).foldl (fun s p => step p.1 s) s = xs.foldl (fun s x => step x s) s := by
    conv_rhs => rw [← List.zipIdx_map_fst 0 xs, List.foldl_map]
  rwa [he] at h

/-- After these bytes the decoder gives a value that has the property, whatever
follows them. -/
def YieldsAfter (d : Decoder α) (bs : List UInt8) (P : α → Prop) : Prop :=
  ∀ rest overrun remaining, P (d ⟨bs ++ rest, overrun, remaining⟩).1

theorem YieldsAfter.step {d : Decoder α} {f : α → Decoder β} {x y z : List UInt8} {a : α} {k : Int}
    {P : β → Prop} (hd : Decodes d x a k) (hf : YieldsAfter (f a) y P) (hz : x ++ y = z) :
    YieldsAfter (d >>= f) z P := by
  intro rest overrun remaining
  rw [← hz, List.append_assoc, bind_apply, hd]
  exact hf rest overrun (remaining - k)

/-- Two decoders that read the same, to values that are related. -/
def InStep {τ : Type} (d : Decoder α) (d' : Decoder τ) (ρ : α → τ → Prop) : Prop :=
  ∀ c, ρ (d c).1 (d' c).1 ∧ (d c).2 = (d' c).2

theorem InStep.pure {τ : Type} {ρ : α → τ → Prop} {a : α} {b : τ} (h : ρ a b) :
    InStep (Pure.pure a) (Pure.pure b) ρ := fun _ => ⟨h, rfl⟩

theorem InStep.bind {τ υ : Type} {ρ : α → τ → Prop} {θ : β → υ → Prop} {d : Decoder α}
    {d' : Decoder τ} {f : α → Decoder β} {f' : τ → Decoder υ} (hd : InStep d d' ρ)
    (hf : ∀ a b, ρ a b → InStep (f a) (f' b) θ) : InStep (d >>= f) (d' >>= f') θ := by
  intro c
  obtain ⟨hρ, hc⟩ := hd c
  rw [bind_apply, bind_apply, hc]
  exact hf _ _ hρ _

theorem InStep.after {υ : Type} {ρ : β → υ → Prop} {d : Decoder α} {f : α → Decoder β}
    {f' : α → Decoder υ} (hf : ∀ a, InStep (f a) (f' a) ρ) : InStep (d >>= f) (d >>= f') ρ :=
  fun c => hf (d c).1 (d c).2

theorem InStep.forCount {τ : Type} {ρ : σ → τ → Prop} {body : Nat → σ → Decoder σ}
    {body' : Nat → τ → Decoder τ} (hbody : ∀ i s t, ρ s t → InStep (body i s) (body' i t) ρ)
    (i n : Nat) {s : σ} {t : τ} (hs : ρ s t) :
    InStep (Decoding.forCount body i n s) (Decoding.forCount body' i n t) ρ := by
  induction n generalizing i s t with
  | zero => exact InStep.pure hs
  | succ n ih => exact (hbody i s t hs).bind fun s' t' hs' => ih (i + 1) hs'

/-- Where the cursor stands, counted from the end of the bytes. -/
def Cursor.position (c : Cursor) : Int := c.overrun - c.rest.length

/-- The decoder moves the cursor by `k` more than it takes off the remaining count. -/
def OffBy (k : Int) (d : Decoder α) : Prop :=
  ∀ c, (d c).2.position + (d c).2.remaining = c.position + c.remaining + k

theorem OffBy.pure (a : α) : OffBy 0 (Pure.pure a : Decoder α) := fun _ => (Int.add_zero _).symm

theorem OffBy.bind {j k : Int} {d : Decoder α} {f : α → Decoder β} (hd : OffBy j d)
    (hf : ∀ a, OffBy k (f a)) : OffBy (j + k) (d >>= f) := by
  intro c
  have hc := hd c
  have hfc := hf (d c).1 (d c).2
  rw [bind_apply]
  omega

theorem OffBy.step {j k m : Int} {d : Decoder α} {f : α → Decoder β} (hd : OffBy j d)
    (hf : ∀ a, OffBy k (f a)) (hm : j + k = m) : OffBy m (d >>= f) := by
  rw [← hm]
  exact hd.bind hf

theorem offBy_byte : OffBy 1 byte := by
  intro c
  simp only [byte, Cursor.position, List.length_tail]
  omega

theorem offBy_bytes (n : Nat) : OffBy n (bytes n) := by
  intro c
  simp only [bytes, Cursor.position, List.length_drop]
  omega

theorem offBy_spend (k : Int) : OffBy (-k) (spend k) := by
  intro c
  simp only [spend, Cursor.position]
  omega

theorem OffBy.afterRemaining {f : Int → Decoder α} (hf : ∀ r, OffBy 0 (f r)) :
    OffBy 0 (getRemaining >>= f) := fun c => hf c.remaining c

/-- A check that gives up without reading. -/
theorem OffBy.unless {p : Prop} [Decidable p] (a : α) {d : Decoder α} (hd : OffBy 0 d) :
    OffBy 0 (if p then Pure.pure a else d) := by
  split_ifs
  · exact OffBy.pure a
  · exact hd

end PyConnect.Decoding

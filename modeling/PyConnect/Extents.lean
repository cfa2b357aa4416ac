import PyConnect.Decoding

namespace PyConnect.Extents

open Decoding

/-- What some bytes say, and how many of them it takes to say it. Bytes that are
not there count as zero. -/
def Extent (α : Type) := List UInt8 → α × Nat

instance : Monad Extent where
  pure a := fun _ => (a, 0)
  bind m f := fun bs => ((f (m bs).1 (bs.drop (m bs).2)).1, (m bs).2 + (f (m bs).1 (bs.drop (m bs).2)).2)

variable {α β γ σ : Type}

def Extent.content (m : Extent α) (bs : List UInt8) : α := (m bs).1

def Extent.size (m : Extent α) (bs : List UInt8) : Nat := (m bs).2

def one : Extent UInt8 := fun bs => (bs.headD 0, 1)

def many (n : Nat) : Extent (List UInt8) := fun bs => (bs.take n ++ List.replicate (n - bs.length) 0, n)

def skip (n : Nat) : Extent Unit := fun _ => ((), n)

def sized (m : Extent α) : Extent (α × Nat) := fun bs => (m bs, (m bs).2)

def times : Nat → Extent α → Extent Unit
  | 0, _ => pure ()
  | n + 1, m => do
      let _ ← m
      times n m

theorem pure_bind (a : α) (f : α → Extent β) : (pure a >>= f) = f a := by
  funext bs
  change ((f a bs).1, 0 + (f a bs).2) = f a bs
  rw [Nat.zero_add]

/-- A cursor that has moved on by so many bytes, those past the end counted. -/
structure Moved (c c' : Cursor) (n : Nat) : Prop where
  rest : c'.rest = c.rest.drop n
  overrun : c'.overrun = c.overrun + (n - c.rest.length)

theorem Moved.still {c c' : Cursor} (hr : c'.rest = c.rest) (ho : c'.overrun = c.overrun) :
    Moved c c' 0 := ⟨hr, by omega⟩

theorem Moved.trans {c c' c'' : Cursor} {n k : Nat} (h : Moved c c' n) (h' : Moved c' c'' k) :
    Moved c c'' (n + k) := by
  refine ⟨?_, ?_⟩
  · rw [h'.rest, h.rest, List.drop_drop]
  · rw [h'.overrun, h.overrun, h.rest, List.length_drop]
    omega

/-- From a cursor, a value has been read and the cursor moved as the extent
says; `f` is what it says of the value and the count that remains. -/
structure Follows (c : Cursor) (r : β × Cursor) (m : Extent α) (f : β → Int → α) : Prop where
  content : f r.1 r.2.remaining = m.content c.rest
  moved : Moved c r.2 (m.size c.rest)

theorem Follows.bind {c : Cursor} {r : β × Cursor} {r' : σ × Cursor} {m : Extent α} {f : β → Int → α}
    {q : α → Extent γ} {g : σ → Int → γ} (h : Follows c r m f)
    (h' : Follows r.2 r' (q (f r.1 r.2.remaining)) g) : Follows c r' (m >>= q) g := by
  obtain ⟨hcontent, hmoved⟩ := h
  obtain ⟨hcontent', hmoved'⟩ := h'
  rw [hcontent, hmoved.rest] at hcontent' hmoved'
  exact ⟨hcontent', hmoved.trans hmoved'⟩

/-- The decoder follows an extent, which may depend on the remaining count. -/
def SpansFrom (d : Decoder β) (m : Int → Extent α) (f : β → Int → α) : Prop :=
  ∀ c, Follows c (d c) (m c.remaining) f

/-- The decoder follows this extent, whatever the remaining count is. -/
def Spans (d : Decoder β) (m : Extent α) (f : β → α) : Prop :=
  SpansFrom d (fun _ => m) fun b _ => f b

variable {d : Decoder β} {m : Extent α} {f : β → α}

/-- For what comes next, all that is known of the value is what it says and what
every value of the decoder has in common. -/
theorem SpansFrom.bindOf {m : Int → Extent α} {f : β → Int → α} {P : β → Prop} {k : β → Decoder σ}
    {q : α → Extent γ} {g : σ → Int → γ} (hd : SpansFrom d m f) (hP : Yields d P)
    (hk : ∀ b, P b → SpansFrom (k b) (fun r => q (f b r)) g) :
    SpansFrom (d >>= k) (fun r => m r >>= q) g :=
  fun c => (hd c).bind (hk (d c).1 (hP c) (d c).2)

theorem SpansFrom.bind {m : Int → Extent α} {f : β → Int → α} {k : β → Decoder σ}
    {q : α → Extent γ} {g : σ → Int → γ} (hd : SpansFrom d m f)
    (hk : ∀ b, SpansFrom (k b) (fun r => q (f b r)) g) :
    SpansFrom (d >>= k) (fun r => m r >>= q) g :=
  hd.bindOf (Yields.trivial d) fun b _ => hk b

theorem SpansFrom.pure (b : β) (f : β → Int → α) :
    SpansFrom (Pure.pure b) (fun r => Pure.pure (f b r)) f :=
  fun _ => ⟨rfl, .still rfl rfl⟩

theorem Spans.pure (b : β) (f : β → α) : Spans (Pure.pure b) (Pure.pure (f b)) f :=
  SpansFrom.pure b fun b _ => f b

theorem Spans.bindOf {P : β → Prop} {k : β → Decoder σ} {q : α → Extent γ} {g : σ → γ}
    (hd : Spans d m f) (hP : Yields d P) (hk : ∀ b, P b → Spans (k b) (q (f b)) g) :
    Spans (d >>= k) (m >>= q) g :=
  SpansFrom.bindOf hd hP hk

theorem Spans.bind {k : β → Decoder σ} {q : α → Extent γ} {g : σ → γ} (hd : Spans d m f)
    (hk : ∀ b, Spans (k b) (q (f b)) g) : Spans (d >>= k) (m >>= q) g :=
  SpansFrom.bind hd hk

theorem Spans.after {k : β → Decoder σ} {q : Extent γ} {g : σ → γ}
    (hd : Spans d (Pure.pure ()) fun _ => ()) (hk : ∀ b, Spans (k b) q g) : Spans (d >>= k) q g := by
  rw [← pure_bind () fun _ => q]
  exact hd.bind hk

theorem Spans.observe {P : β → Prop} {g : β → γ} {h : α → γ} (hd : Spans d m f) (hP : Yields d P)
    (hg : ∀ b, P b → g b = h (f b)) : Spans d (do let a ← m; Pure.pure (h a)) g :=
  fun c => ⟨(hg _ (hP c)).trans (congrArg h (hd c).content), (hd c).moved⟩

theorem Spans.map {h : β → σ} {g : σ → α} (hg : ∀ b, g (h b) = f b) (hd : Spans d m f) :
    Spans (do let b ← d; Pure.pure (h b)) m g :=
  fun c => ⟨(hg _).trans (hd c).content, (hd c).moved⟩

theorem Spans.spends (hd : Spans d m f)
    (hs : ∀ c, (d c).2.remaining = c.remaining - m.size c.rest) :
    SpansFrom d (fun r => do let x ← sized m; Pure.pure (x.1, r - x.2)) fun b r => (f b, r) :=
  fun c => ⟨Prod.ext (hd c).content (hs c), (hd c).moved⟩

theorem spans_byte : Spans byte one id :=
  fun _ => ⟨rfl, ⟨List.drop_one.symm, rfl⟩⟩

theorem spans_bytes (n : Nat) : Spans (bytes n) (many n) id := fun _ => ⟨rfl, ⟨rfl, rfl⟩⟩

theorem spans_spend (k : Int) : Spans (spend k) (Pure.pure ()) fun _ => () :=
  fun _ => ⟨rfl, .still rfl rfl⟩

theorem spans_setRemaining (k : Int) : Spans (setRemaining k) (Pure.pure ()) fun _ => () :=
  fun _ => ⟨rfl, .still rfl rfl⟩

theorem SpansFrom.afterSet {m : Int → Extent α} {f : β → Int → α} (k : Int) (hd : SpansFrom d m f) :
    SpansFrom (do setRemaining k; d) (fun _ => m k) f := by
  intro c
  obtain ⟨hcontent, hmoved⟩ := hd (setRemaining k c).2
  exact ⟨hcontent, ⟨hmoved.rest, hmoved.overrun⟩⟩

theorem Spans.forCount {body : Nat → σ → Decoder σ} {m : Extent α} {f : σ → α}
    (hbody : ∀ i s, Spans (body i s) m f) (i n : Nat) (s : σ) :
    Spans (Decoding.forCount body i n s) (times n m) fun _ => () := by
  induction n generalizing i s with
  | zero => exact Spans.pure s fun _ => ()
  | succ n ih => exact (hbody i s).bind fun s' => ih (i + 1) s'

end PyConnect.Extents

import PyConnect.Common
import PyConnect.FrameStream

namespace PyConnect.Framing

open Bytes Common FrameStream

/-- The bytes that clientDataSend writes around one encrypted message. The
length is a short of the sending host. -/
def frame (bigEndian : Bool) (outputData : List UInt8) : List UInt8 :=
  msgInit :: (hostBytes bigEndian 2 outputData.length ++ outputData ++ [msgEnd])

/-- The short in two bytes, as a memcpy into it leaves it. -/
def shortValue (bigEndian : Bool) (bs : List UInt8) : Int :=
  (BitVec.ofNat 16 (hostValue bigEndian bs)).toInt

/-- What the bytes after the last message amount to: a frame, the part of one
that is worth keeping, or bytes that no later read can turn into a frame. -/
def resolve (bigEndian : Bool) (u : List UInt8) : Resolution UInt8 :=
  let count := shortValue bigEndian ((u.drop 1).take 2)
  let body := u.drop 3
  if u.head? = some msgInit ∧ 4 ≤ u.length ∧ 0 ≤ count ∧ count ≤ msgBufferSize then
    if body.length < count.toNat then .hold
    else if body[count.toNat]? = some msgEnd then
      .frame (body.take count.toNat) (body.drop (count.toNat + 1))
    else .lose
  else .lose

theorem shortValue_hostBytes (bigEndian : Bool) {n : Nat} (hn : n ≤ msgBufferSize) :
    shortValue bigEndian (hostBytes bigEndian 2 n) = n := by
  have hlt : n < 2 ^ 16 := lt_of_le_of_lt hn (by decide)
  have hlo : 2 * n < 2 ^ 16 := lt_of_le_of_lt (Nat.mul_le_mul_left 2 hn) (by decide)
  rw [shortValue, hostValue_hostBytes bigEndian hlt, BitVec.toInt_eq_toNat_cond,
    BitVec.toNat_ofNat, Nat.mod_eq_of_lt hlt, if_pos hlo]

theorem hostBytes_shortValue (bigEndian : Bool) {b : List UInt8} (hb : b.length = 2)
    (h0 : 0 ≤ shortValue bigEndian b) :
    hostBytes bigEndian 2 (shortValue bigEndian b).toNat = b := by
  have hlt : hostValue bigEndian b < 2 ^ 16 := by
    have h := hostValue_lt bigEndian b
    rwa [hb] at h
  have he : shortValue bigEndian b = hostValue bigEndian b := by
    rw [shortValue, BitVec.toInt_eq_toNat_cond, BitVec.toNat_ofNat, Nat.mod_eq_of_lt hlt] at *
    split at h0
    · rw [if_pos (by assumption)]
    · omega
  rw [he, Int.toNat_natCast, ← hb]
  exact hostBytes_hostValue bigEndian b

@[simp] theorem frame_length (bigEndian : Bool) (p : List UInt8) :
    (frame bigEndian p).length = p.length + 4 := by
  simp [frame]
  omega

theorem resolve_header (bigEndian : Bool) {n : Nat} (hn : n ≤ msgBufferSize) {body : List UInt8}
    (hb : body ≠ []) :
    resolve bigEndian (msgInit :: (hostBytes bigEndian 2 n ++ body)) =
      if body.length < n then .hold
      else if body[n]? = some msgEnd then .frame (body.take n) (body.drop (n + 1))
      else .lose := by
  have hl := hostBytes_length bigEndian 2 n
  have hpos := List.length_pos_iff.mpr hb
  have ht : ((msgInit :: (hostBytes bigEndian 2 n ++ body)).drop 1).take 2 =
      hostBytes bigEndian 2 n := by
    rw [List.drop_one, List.tail_cons, List.take_append_of_le_length (by omega),
      List.take_of_length_le (by omega)]
  have hd : (msgInit :: (hostBytes bigEndian 2 n ++ body)).drop 3 = body := by
    rw [List.drop_succ_cons, List.drop_append_of_le_length (by omega),
      List.drop_eq_nil_of_le (by omega), List.nil_append]
  have hc := shortValue_hostBytes bigEndian hn
  simp only [resolve, ht, hd, hc, Int.toNat_natCast, List.head?_cons, true_and]
  rw [if_pos ⟨by simp; omega, by omega, by exact_mod_cast hn⟩]

theorem resolve_frame (bigEndian : Bool) {p : List UInt8} (hp : p.length ≤ msgBufferSize)
    (rest : List UInt8) : resolve bigEndian (frame bigEndian p ++ rest) = .frame p rest := by
  have he : frame bigEndian p ++ rest =
      msgInit :: (hostBytes bigEndian 2 p.length ++ (p ++ msgEnd :: rest)) := by
    simp [frame]
  rw [he, resolve_header bigEndian hp (by simp), if_neg (by simp), if_pos (by simp)]
  simp [List.drop_append]

theorem header_of_resolve (bigEndian : Bool) {u : List UInt8}
    (h : resolve bigEndian u ≠ .lose) :
    ∃ n body, n ≤ msgBufferSize ∧ body ≠ [] ∧
      u = msgInit :: (hostBytes bigEndian 2 n ++ body) := by
  rw [resolve] at h
  split at h
  next hc =>
    obtain ⟨hh, hl, h0, hm⟩ := hc
    obtain ⟨u', rfl⟩ : ∃ u', u = msgInit :: u' := by
      cases u with
      | nil => cases hh
      | cons b u' => exact ⟨u', by simpa using hh⟩
    simp only [List.drop_one, List.tail_cons, List.length_cons] at *
    have ht : (u'.take 2).length = 2 := by simp; omega
    refine ⟨(shortValue bigEndian (u'.take 2)).toNat, u'.drop 2, by omega, ?_, ?_⟩
    · apply List.ne_nil_of_length_pos
      simp
      omega
    · rw [hostBytes_shortValue bigEndian ht h0, List.take_append_drop]
  next => exact absurd rfl h

theorem of_resolve_frame (bigEndian : Bool) {u p rest : List UInt8}
    (h : resolve bigEndian u = .frame p rest) :
    p.length ≤ msgBufferSize ∧ u = frame bigEndian p ++ rest := by
  obtain ⟨n, body, hn, hb, rfl⟩ := header_of_resolve bigEndian (u := u) (by simp [h])
  rw [resolve_header bigEndian hn hb] at h
  split at h
  · cases h
  · split at h
    next hl he =>
      obtain ⟨rfl, rfl⟩ : body.take n = p ∧ body.drop (n + 1) = rest := by simpa using h
      have hlt := (List.getElem?_eq_some_iff.mp he).1
      have hx := (List.getElem?_eq_some_iff.mp he).2
      have ht : (body.take n).length = n := by simp; omega
      refine ⟨by omega, ?_⟩
      have hsplit : body = body.take n ++ msgEnd :: body.drop (n + 1) := by
        conv_lhs => rw [← List.take_append_drop n body, List.drop_eq_getElem_cons hlt, hx]
      rw [frame, ht]
      conv_lhs => rw [hsplit]
      simp
    next => cases h

/-- The stream format of a connection. -/
def messages (bigEndian : Bool) : Format UInt8 where
  Valid p := p.length ≤ msgBufferSize
  frame := frame bigEndian
  resolve := resolve bigEndian
  resolve_frame hp rest := resolve_frame bigEndian hp rest
  of_resolve_frame h := of_resolve_frame bigEndian h
  frame_ne_nil p := by simp [frame]

/-- A beginning of a frame is kept unless it stops in the header or right
before the end marker. -/
theorem resolve_take_frame (bigEndian : Bool) {p : List UInt8} (hp : p.length ≤ msgBufferSize)
    {c : Nat} (hc : c < p.length + 4) :
    resolve bigEndian ((frame bigEndian p).take c) = .hold ↔ 4 ≤ c ∧ c < p.length + 3 := by
  by_cases h4 : 4 ≤ c
  · have hl := hostBytes_length bigEndian 2 p.length
    have he : (frame bigEndian p).take c = msgInit :: (hostBytes bigEndian 2 p.length ++
        (p ++ [msgEnd]).take (c - 3)) := by
      obtain ⟨c, rfl⟩ : ∃ d, c = d + 1 := ⟨c - 1, by omega⟩
      rw [frame, List.take_succ_cons, List.append_assoc, List.take_append, hl,
        List.take_of_length_le (by omega)]
      congr 3
    have hlen : ((p ++ [msgEnd]).take (c - 3)).length = c - 3 := by simp; omega
    rw [he, resolve_header bigEndian hp (by apply List.ne_nil_of_length_pos; omega), hlen]
    have hnone : ((p ++ [msgEnd]).take (c - 3))[p.length]? = none :=
      List.getElem?_eq_none (by omega)
    rw [hnone]
    simp
    omega
  · have hl : ¬ 4 ≤ ((frame bigEndian p).take c).length := by simp; omega
    have hlose : resolve bigEndian ((frame bigEndian p).take c) = .lose := by
      rw [resolve, if_neg (fun hh => hl hh.2.1)]
    simp [hlose, h4]

/-- A cut of the stream of these payloads that falls one to three bytes into a
frame or right before its end marker. -/
def badCut : List (List UInt8) → Nat → Bool
  | [], _ => false
  | p :: ps, c =>
      if c < p.length + 4 then decide (1 ≤ c ∧ c ≤ 3) || decide (c = p.length + 3)
      else badCut ps (c - (p.length + 4))

theorem heldCut_iff (bigEndian : Bool) {ps : List (List UInt8)}
    (hp : ∀ p ∈ ps, p.length ≤ msgBufferSize) (c : Nat) :
    HeldCut (messages bigEndian) ps c ↔ badCut ps c = false := by
  induction ps generalizing c with
  | nil => simp [HeldCut, badCut]
  | cons p ps ih =>
      have hl : ((messages bigEndian).frame p).length = p.length + 4 := frame_length bigEndian p
      rw [HeldCut, badCut, hl]
      by_cases hc : c < p.length + 4
      · have hr := resolve_take_frame bigEndian (hp p List.mem_cons_self) hc
        rw [if_pos hc, if_pos hc]
        change c = 0 ∨ resolve bigEndian ((frame bigEndian p).take c) = .hold ↔ _
        rw [hr]
        simp
        omega
      · rw [if_neg hc, if_neg hc]
        exact ih (fun x hx => hp x (List.mem_cons_of_mem p hx)) _

end PyConnect.Framing

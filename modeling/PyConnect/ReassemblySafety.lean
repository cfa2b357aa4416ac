import PyConnect.Reassembly

namespace PyConnect.ReassemblySafety

open Common Framing Reassembly

variable {bigEndian : Bool} {s : LoopState} {info info' : SocketDataBufferInfo}

/-- What every iteration keeps: it stays inside the chunk and the buffer, and
either leaves the loop or has consumed something. -/
structure Safe (s : LoopState) (it : Iteration) : Prop where
  inBounds : ∀ a ∈ it.accesses, a.InBounds
  lengths : it.next.dataInfo.WithinBuffer
  readLen_nonneg : 0 ≤ it.next.readLen
  decreases : it.branch.breaks = false → it.next.readLen < s.readLen
  unread : it.branch.breaks = false → 0 < it.next.readLen →
    (it.next.dataPtr.length : Int) = it.next.readLen

theorem withinBuffer_empty (buf : DataBuffer) :
    SocketDataBufferInfo.WithinBuffer ⟨buf, 0, 0⟩ :=
  ⟨Int.le_refl 0, Int.le_refl 0, by simp⟩

theorem newMessage_safe (hs : s.Sound) (he : s.dataInfo.expectedDataLength = 0) :
    Safe s (newMessage bigEndian s) := by
  obtain ⟨hu, hpos, hb0, -, hsum⟩ := hs
  have hw : s.dataInfo.WithinBuffer := ⟨hb0, by omega, hsum⟩
  rw [newMessage]
  dsimp only
  generalize shortValue bigEndian ((s.dataPtr.drop 1).take 2) = dataCount
  split
  case isTrue h4 => exact ⟨by simp, hw, Int.le_of_lt hpos, nofun, nofun⟩
  case isFalse h4 =>
    split
    case isTrue hbad =>
      refine ⟨?_, hw, by simp only; omega, nofun, nofun⟩
      simp only [List.forall_mem_cons, Access.InBounds]
      simp
      omega
    case isFalse hbad =>
      split
      case isTrue hmore =>
        refine ⟨?_, ⟨by simp only; omega, by simp only; omega, by simp only; omega⟩, Int.le_refl _,
          fun _ => hpos, fun _ h => absurd h (Int.lt_irrefl 0)⟩
        simp only [List.forall_mem_append, List.forall_mem_cons, Access.InBounds]
        simp
        omega
      case isFalse hmore =>
        split
        case isTrue hend =>
          refine ⟨?_, hw, by simp only; omega, fun _ => by simp only; omega, fun _ _ => ?_⟩
          · simp only [List.forall_mem_append, List.forall_mem_cons, Access.InBounds]
            simp
            omega
          · simp only [List.length_drop]
            omega
        case isFalse hend =>
          refine ⟨?_, hw, by simp only; omega, nofun, nofun⟩
          simp only [List.forall_mem_append, List.forall_mem_cons, Access.InBounds]
          simp
          omega

theorem continueMessage_safe (hs : s.Sound) (he : 0 < s.dataInfo.expectedDataLength) :
    Safe s (continueMessage s) := by
  obtain ⟨hu, hpos, hb0, -, hsum⟩ := hs
  rw [continueMessage]
  dsimp only
  split
  case isTrue hmore =>
    refine ⟨?_, ⟨by simp only; omega, by simp only; omega, by simp only; omega⟩, Int.le_refl _,
      fun _ => hpos, fun _ h => absurd h (Int.lt_irrefl 0)⟩
    simp only [List.forall_mem_cons, Access.InBounds]
    simp
    omega
  case isFalse hmore =>
    split
    case isTrue hend =>
      refine ⟨?_, withinBuffer_empty _, by simp only; omega,
        fun _ => by simp only; omega, fun _ h => ?_⟩
      · simp only [List.forall_mem_cons, Access.InBounds]
        simp
        omega
      · simp only [gt_iff_lt] at h ⊢
        rw [if_pos h, List.length_drop]
        omega
    case isFalse hend =>
      refine ⟨?_, withinBuffer_empty _, by simp only; omega, nofun, nofun⟩
      simp only [List.forall_mem_cons, Access.InBounds]
      simp
      omega

theorem iteration_safe (bigEndian : Bool) (hs : s.Sound) : Safe s (iteration bigEndian s) := by
  have hread : (Access.read 0 s.readLen).InBounds := ⟨Int.le_refl 0, hs.positive⟩
  have add : ∀ it : Iteration, Safe s it →
      Safe s { it with accesses := .read 0 s.readLen :: it.accesses } := by
    rintro it ⟨hb, hl, hn, hd, hu⟩
    exact ⟨List.forall_mem_cons.mpr ⟨hread, hb⟩, hl, hn, hd, hu⟩
  rw [iteration]
  refine add _ ?_
  split
  case isTrue h => exact newMessage_safe hs h.2
  case isFalse h =>
    split
    case isTrue he => exact continueMessage_safe hs he
    case isFalse he =>
      exact ⟨by simp, withinBuffer_empty _, Int.le_of_lt hs.positive, nofun, nofun⟩

theorem iteration_sound (hs : s.Sound) (hb : (iteration bigEndian s).branch.breaks = false)
    (hr : 0 < (iteration bigEndian s).next.readLen) : (iteration bigEndian s).next.Sound :=
  have h := iteration_safe bigEndian hs
  ⟨h.unread hb hr, hr, h.lengths⟩

/-- The bounds that hold of an iteration whatever state it started from. -/
def Bounded (it : Iteration) : Prop :=
  it.next.dataInfo.WithinBuffer ∧ 0 ≤ it.next.readLen ∧ ∀ a ∈ it.accesses, a.InBounds

theorem loop_safe (bigEndian : Bool) (fuel : Nat) (hs : s.Sound) (hf : s.readLen ≤ fuel) :
    ∃ trace info', loop bigEndian fuel s = some (trace, info') ∧
      info'.WithinBuffer ∧ ∀ it ∈ trace, Bounded it := by
  induction fuel generalizing s with
  | zero => exact absurd hs.positive (by simpa using hf)
  | succ fuel ih =>
      have h := iteration_safe bigEndian hs
      have hit : Bounded (iteration bigEndian s) := ⟨h.lengths, h.readLen_nonneg, h.inBounds⟩
      rw [loop]
      dsimp only
      split
      next hc =>
        have hd := h.decreases hc.1
        obtain ⟨trace, info', he, hi, ht⟩ := ih (iteration_sound hs hc.1 hc.2) (by omega)
        refine ⟨_ :: trace, info', ?_, hi, List.forall_mem_cons.mpr ⟨hit, ht⟩⟩
        rw [he]
        rfl
      next => exact ⟨_, _, rfl, h.lengths, by simpa using hit⟩

theorem startOfRead_sound {chunk : List UInt8} (hi : info.WithinBuffer) (hc : 1 ≤ chunk.length) :
    LoopState.Sound ⟨chunk, chunk.length, info⟩ := ⟨rfl, by simp only; omega, hi⟩

theorem processReads_safe (bigEndian : Bool) {chunks : List (List UInt8)} (hi : info.WithinBuffer)
    (hc : ∀ c ∈ chunks, 1 ≤ c.length) :
    ∃ trace info', processReads bigEndian info chunks = some (trace, info') ∧
      info'.WithinBuffer ∧ ∀ it ∈ trace, Bounded it := by
  induction chunks generalizing info with
  | nil => exact ⟨[], info, rfl, hi, nofun⟩
  | cons c cs ih =>
      obtain ⟨hlen, hcs⟩ := List.forall_mem_cons.mp hc
      obtain ⟨trace, info', he, hi', ht⟩ :=
        loop_safe bigEndian c.length (startOfRead_sound hi hlen) (Int.le_refl _)
      obtain ⟨trace', info'', he', hi'', ht'⟩ := ih hi' hcs
      refine ⟨trace ++ trace', info'', ?_, hi'', List.forall_mem_append.mpr ⟨ht, ht'⟩⟩
      simp [processReads, processRead, he, he']

/-- On every sequence of reads of a connection the loop ends, the lengths fit
the buffer at every iteration, and no access leaves the chunk or the buffer. -/
theorem processReads_bounded (bigEndian : Bool) (buf : DataBuffer) (chunks : List (List UInt8))
    (hc : ∀ c ∈ chunks, 1 ≤ c.length ∧ c.length ≤ tcpMss) :
    ∃ trace info', processReads bigEndian (addFdToClientList buf) chunks = some (trace, info') ∧
      info'.WithinBuffer ∧
      ∀ it ∈ trace, it.next.dataInfo.WithinBuffer ∧ 0 ≤ it.next.readLen ∧
        ∀ a ∈ it.accesses, a.InBounds :=
  processReads_safe bigEndian (withinBuffer_empty buf) (fun c h => (hc c h).1)

theorem processReads_bounded_long_length :
    ∃ trace info', processReads false (addFdToClientList default) [[35, 0, 40, 1], [64]] =
        some (trace, info') ∧ info'.WithinBuffer ∧
      ∀ it ∈ trace, it.next.dataInfo.WithinBuffer ∧ 0 ≤ it.next.readLen ∧
        ∀ a ∈ it.accesses, a.InBounds :=
  processReads_bounded false default _ (by decide)

end PyConnect.ReassemblySafety

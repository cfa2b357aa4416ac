import PyConnect.ReassemblySafety

namespace PyConnect.ReassemblyScan

open Bytes Common FrameStream Framing Reassembly ReassemblySafety

variable {bigEndian : Bool} {s : LoopState} {it : Iteration} {info info' : SocketDataBufferInfo}

/-- The bytes of an unfinished message, as the stream had them. -/
def held (bigEndian : Bool) (info : SocketDataBufferInfo) : List UInt8 :=
  if 0 < info.expectedDataLength then
    msgInit :: (hostBytes bigEndian 2 (info.bufferedDataLength + info.expectedDataLength).toNat ++
      info.bufferedData.bytes.take info.bufferedDataLength.toNat)
  else []

/-- No stale length is left behind when nothing is expected. -/
def Tidy (info : SocketDataBufferInfo) : Prop :=
  info.expectedDataLength = 0 → info.bufferedDataLength = 0

/-- No error branch is taken, and a message that needs more reads needs more
than its end marker. -/
def Clean (it : Iteration) : Prop :=
  it.branch.breaks = false ∧
    (it.branch = .buffer ∨ it.branch = .cache → 0 < it.next.dataInfo.expectedDataLength)

/-- An iteration does to the lengths and the buffer what the verdict on the
bytes in hand asks for. -/
inductive Tracks (bigEndian : Bool) (u : List UInt8) (info : SocketDataBufferInfo)
    (it : Iteration) : Resolution UInt8 → Prop
  | frame {p rest} : it.delivered = some p → Clean it → (rest.length : Int) = it.next.readLen →
      (rest ≠ [] → it.next.dataPtr = rest) → it.next.dataInfo.expectedDataLength = 0 →
      (Tidy info → Tidy it.next.dataInfo) → Tracks bigEndian u info it (.frame p rest)
  | hold : it.delivered = none → Clean it → it.next.readLen = 0 →
      0 < it.next.dataInfo.expectedDataLength → held bigEndian it.next.dataInfo = u →
      Tracks bigEndian u info it .hold
  | lose : it.delivered = none → it.branch.breaks = true ∨ it.next.readLen = 0 →
      it.next.dataInfo.expectedDataLength = 0 → Tracks bigEndian u info it .lose

theorem held_eq_nil (h : info.expectedDataLength = 0) : held bigEndian info = [] := by
  rw [held, if_neg (by omega)]

theorem take_memcpy (buf : DataBuffer) (off : Nat) (src : List UInt8)
    (h : off + src.length ≤ msgBufferSize) :
    (buf.memcpy off src).bytes.take (off + src.length) = buf.bytes.take off ++ src := by
  have hl := buf.length_eq
  have ht : (buf.bytes.take off ++ src).length = off + src.length := by simp; omega
  rw [DataBuffer.memcpy, List.take_take, Nat.min_eq_left h, List.take_append_of_le_length (by omega),
    List.take_of_length_le (by omega)]

theorem byteAt_eq_iff (p : List UInt8) (i : Int) (b : UInt8) (hi : i.toNat < p.length) :
    byteAt p i = b ↔ p[i.toNat]? = some b := by
  simp [byteAt, List.getD_eq_getElem?_getD, List.getElem?_eq_getElem hi]

theorem held_newMessage (bigEndian : Bool) (buf : DataBuffer) {ptr : List UInt8} (hh : ptr.head? = some msgInit)
    (h4 : 4 ≤ ptr.length) (hmax : shortValue bigEndian ((ptr.drop 1).take 2) ≤ msgBufferSize)
    (hmore : (ptr.drop 3).length < shortValue bigEndian ((ptr.drop 1).take 2)) :
    held bigEndian ⟨buf.memcpy 0 (ptr.drop 3),
      shortValue bigEndian ((ptr.drop 1).take 2) - (ptr.drop 3).length,
      (ptr.drop 3).length⟩ = ptr := by
  have hbuf := take_memcpy buf 0 (ptr.drop 3) (by omega)
  rw [Nat.zero_add, List.take_zero, List.nil_append] at hbuf
  have hheader := hostBytes_shortValue bigEndian (b := (ptr.drop 1).take 2) (by simp; omega)
    (by omega)
  rw [held, if_pos (by simp only; omega)]
  simp only [Int.toNat_natCast, hbuf, add_sub_cancel, hheader]
  obtain ⟨ptr', rfl⟩ : ∃ ptr', ptr = msgInit :: ptr' := by
    cases ptr with
    | nil => cases hh
    | cons b ptr' => exact ⟨ptr', by simpa using hh⟩
  rw [List.drop_one, List.tail_cons, List.drop_succ_cons, List.take_append_drop]

theorem newMessage_tracks (hs : s.Sound) (hd : byteAt s.dataPtr 0 = msgInit)
    (he : s.dataInfo.expectedDataLength = 0) :
    Tracks bigEndian s.dataPtr s.dataInfo (newMessage bigEndian s)
      (resolve bigEndian s.dataPtr) := by
  obtain ⟨hu, hpos, hb0, -, hsum⟩ := hs
  have hhead : s.dataPtr.head? = some msgInit := by
    rw [List.head?_eq_getElem?]
    exact (byteAt_eq_iff _ 0 _ (by simp; omega)).mp hd
  rw [newMessage]
  dsimp only
  by_cases h4 : s.readLen < 4
  · rw [if_pos h4, resolve, if_neg (by omega)]
    exact .lose rfl (.inl rfl) he
  rw [if_neg h4]
  have hlen : ((s.dataPtr.drop 3).length : Int) = s.readLen - 3 := by simp; omega
  have htake : (s.dataPtr.drop 3).take (s.readLen - 3).toNat = s.dataPtr.drop 3 :=
    List.take_of_length_le (by omega)
  have hkeep := held_newMessage bigEndian s.dataInfo.bufferedData hhead
    (by omega)
  rw [hlen] at hkeep
  rw [htake, resolve]
  generalize shortValue bigEndian ((s.dataPtr.drop 1).take 2) = dataCount at *
  by_cases hbad : dataCount < 0 ∨ dataCount > msgBufferSize
  · rw [if_pos hbad, if_neg (show ¬ (_ ∧ _ ∧ 0 ≤ dataCount ∧ dataCount ≤ msgBufferSize) by omega)]
    exact .lose rfl (.inl rfl) he
  have hheader : s.dataPtr.head? = some msgInit ∧ 4 ≤ s.dataPtr.length ∧ 0 ≤ dataCount ∧
      dataCount ≤ msgBufferSize := ⟨hhead, by omega, by omega, by omega⟩
  rw [if_neg hbad, if_pos hheader]
  by_cases hmore : dataCount > s.readLen - 3 - 1
  · rw [if_pos hmore]
    by_cases hlt : (s.dataPtr.drop 3).length < dataCount.toNat
    · rw [if_pos hlt]
      exact .hold rfl ⟨rfl, fun _ => by simp only; omega⟩ rfl (by simp only; omega)
        (hkeep (by omega) (by omega))
    · rw [if_neg hlt, List.getElem?_eq_none (by omega), if_neg (by simp)]
      exact .lose rfl (.inr rfl) (by simp only; omega)
  · have hi := byteAt_eq_iff (s.dataPtr.drop 3) dataCount msgEnd (by omega)
    rw [if_neg hmore, if_neg (show ¬ (s.dataPtr.drop 3).length < dataCount.toNat by omega)]
    by_cases hend : byteAt (s.dataPtr.drop 3) dataCount = msgEnd
    · rw [if_pos hend, if_pos (hi.mp hend)]
      refine .frame rfl ⟨rfl, by simp⟩ ?_ (fun _ => ?_) he id
      · rw [List.length_drop]
        simp only
        omega
      · simp only
        congr 1
        omega
    · rw [if_neg hend, if_neg (mt hi.mpr hend)]
      exact .lose rfl (.inl rfl) he

theorem held_continueMessage (bigEndian : Bool) (buf : DataBuffer) {ptr : List UInt8} {b e : Nat}
    {readLen : Int} (hread : (ptr.length : Int) = readLen) (hlt : ptr.length < e)
    (hfit : b + ptr.length ≤ msgBufferSize) :
    held bigEndian ⟨buf.memcpy b ptr, e - readLen, b + readLen⟩ =
      msgInit :: (hostBytes bigEndian 2 (b + e) ++ (buf.bytes.take b ++ ptr)) := by
  have hbuf := take_memcpy buf b ptr hfit
  have hkept : ((b : Int) + readLen).toNat = b + ptr.length := by omega
  have htotal : ((b : Int) + readLen + (e - readLen)).toNat = b + e := by omega
  rw [held, if_pos (by simp only; omega)]
  dsimp only
  rw [hkept, htotal, hbuf]

theorem continueMessage_tracks (hs : s.Sound) (he : 0 < s.dataInfo.expectedDataLength) :
    Tracks bigEndian (held bigEndian s.dataInfo ++ s.dataPtr) s.dataInfo (continueMessage s)
      (resolve bigEndian (held bigEndian s.dataInfo ++ s.dataPtr)) := by
  obtain ⟨hu, hpos, hb0, -, hsum⟩ := hs
  obtain ⟨ptr, readLen, ⟨buf, expected, buffered⟩⟩ := s
  simp only at *
  have hbl := buf.length_eq
  obtain ⟨e, rfl⟩ := Int.eq_ofNat_of_zero_le (Int.le_of_lt he)
  obtain ⟨b, rfl⟩ := Int.eq_ofNat_of_zero_le hb0
  have hl : (buf.bytes.take b).length = b := by simp; omega
  have hheld : held bigEndian ⟨buf, e, b⟩ ++ ptr =
      msgInit :: (hostBytes bigEndian 2 (b + e) ++ (buf.bytes.take b ++ ptr)) := by
    rw [held, if_pos he]
    simp only [← Int.natCast_add, Int.toNat_natCast, List.cons_append, List.append_assoc]
  have hne : buf.bytes.take b ++ ptr ≠ [] := by
    apply List.ne_nil_of_length_pos
    rw [List.length_append]
    omega
  rw [continueMessage]
  dsimp only
  by_cases hmore : (e : Int) > readLen - 1
  · rw [if_pos hmore, hheld, resolve_header bigEndian (by omega) hne, List.length_append, hl]
    by_cases hlt : b + ptr.length < b + e
    · rw [if_pos hlt]
      have htake : ptr.take readLen.toNat = ptr := List.take_of_length_le (by omega)
      refine .hold rfl ⟨rfl, fun _ => by simp only; omega⟩ rfl (by simp only; omega) ?_
      dsimp only
      rw [htake, Int.toNat_natCast]
      exact held_continueMessage bigEndian buf (by omega) (by omega) (by omega)
    · rw [if_neg hlt, List.getElem?_eq_none (by rw [List.length_append]; omega), if_neg (by simp)]
      exact .lose rfl (.inr rfl) (by simp only; omega)
  · have hi := byteAt_eq_iff ptr e msgEnd (by omega)
    have hidx : (buf.bytes.take b ++ ptr)[b + e]? = ptr[e]? := by
      rw [List.getElem?_append_right (by omega), hl, Nat.add_sub_cancel_left]
    rw [Int.toNat_natCast] at hi
    rw [if_neg hmore, hheld, resolve_header bigEndian (by omega) hne, List.length_append, hl,
      if_neg (show ¬ b + ptr.length < b + e by omega), hidx]
    by_cases hend : byteAt ptr e = msgEnd
    · rw [if_pos hend, if_pos (hi.mp hend)]
      refine .frame ?_ ⟨rfl, by simp⟩ ?_ (fun hrest => ?_) rfl (fun _ _ => rfl)
      · have hsrc : (ptr.take e).length = e := by rw [List.length_take]; omega
        have hbuf := take_memcpy buf b (ptr.take e) (by omega)
        rw [hsrc] at hbuf
        simp only [← Int.natCast_add, Int.toNat_natCast, hbuf, List.take_append, hl,
          Nat.add_sub_cancel_left, Option.some.injEq]
        rw [List.take_of_length_le (Nat.le_of_eq hl |>.trans (Nat.le_add_right b e))]
      · rw [List.length_drop, List.length_append, hl]
        simp only
        omega
      · have hlt : b + e + 1 < (buf.bytes.take b ++ ptr).length := by
          by_contra hge
          exact hrest (List.drop_eq_nil_of_le (by omega))
        rw [List.length_append, hl] at hlt
        simp only
        rw [if_pos (by omega), List.drop_append,
          List.drop_eq_nil_of_le (show (buf.bytes.take b).length ≤ b + e + 1 by omega), hl,
          List.nil_append]
        congr 1
        omega
    · rw [if_neg hend, if_neg (mt hi.mpr hend)]
      exact .lose rfl (.inl rfl) rfl

theorem iteration_tracks (bigEndian : Bool) (hs : s.Sound) :
    Tracks bigEndian (held bigEndian s.dataInfo ++ s.dataPtr) s.dataInfo (iteration bigEndian s)
      (resolve bigEndian (held bigEndian s.dataInfo ++ s.dataPtr)) := by
  have add : ∀ {r} {it : Iteration}, Tracks bigEndian (held bigEndian s.dataInfo ++ s.dataPtr)
      s.dataInfo it r → Tracks bigEndian (held bigEndian s.dataInfo ++ s.dataPtr) s.dataInfo
        { it with accesses := .read 0 s.readLen :: it.accesses } r := by
    intro r it h
    cases h with
    | frame hd hc hr hp he ht => exact .frame hd hc hr hp he ht
    | hold hd hc hr he hh => exact .hold hd hc hr he hh
    | lose hd hr he => exact .lose hd hr he
  rw [iteration]
  refine add ?_
  split
  case isTrue h =>
    rw [held_eq_nil h.2, List.nil_append]
    exact newMessage_tracks hs h.1 h.2
  case isFalse h =>
    split
    case isTrue he => exact continueMessage_tracks hs he
    case isFalse he =>
      have h0 : s.dataInfo.expectedDataLength = 0 := by
        have := hs.lengths.2.1
        omega
      have hr : resolve bigEndian (held bigEndian s.dataInfo ++ s.dataPtr) = .lose := by
        rw [held_eq_nil h0, List.nil_append, resolve]
        refine if_neg (fun hh => h ⟨?_, h0⟩)
        rw [byteAt_eq_iff _ _ _ (by have := hs.unread; have := hs.positive; simp; omega)]
        simpa [List.head?_eq_getElem?] using hh.1
      rw [hr]
      exact .lose rfl (.inl rfl) rfl

/-- What a loss-free run shows beside its deliveries. -/
def LossFree (trace : List Iteration) (info info' : SocketDataBufferInfo) : Prop :=
  (∀ it ∈ trace, Clean it) ∧ (Tidy info → Tidy info')

theorem deliveries_cons_some {p : List UInt8} (hd : it.delivered = some p) (its : List Iteration) :
    deliveries (it :: its) = p :: deliveries its := List.filterMap_cons_some hd

theorem deliveries_none (hd : it.delivered = none) : deliveries [it] = [] :=
  List.filterMap_cons_none hd

/-- The loop over one read scans the bytes held before it and the bytes of the
read. -/
theorem loop_scan {fuel : Nat} {trace : List Iteration} (hs : s.Sound)
    (h : loop bigEndian fuel s = some (trace, info')) :
    ∃ k, Scan (messages bigEndian) (held bigEndian s.dataInfo ++ s.dataPtr) (deliveries trace)
      (held bigEndian info') k ∧ (k = 0 → LossFree trace s.dataInfo info') := by
  induction fuel generalizing s trace with
  | zero => cases h
  | succ fuel ih =>
      have ht := iteration_tracks bigEndian hs
      rw [loop] at h
      dsimp only at h
      split at h
      next hc =>
        have hnext := iteration_sound hs hc.1 hc.2
        cases hl : loop bigEndian fuel (iteration bigEndian s).next with
        | none => simp [hl] at h
        | some r =>
            obtain ⟨its, info⟩ := r
            simp only [hl, Option.bind_eq_bind, Option.bind_some, Option.some.injEq,
              Prod.mk.injEq] at h
            obtain ⟨rfl, rfl⟩ := h
            generalize hr : resolve bigEndian (held bigEndian s.dataInfo ++ s.dataPtr) = r at ht
            cases ht with
            | @frame p rest hd hclean hrest hptr he htidy =>
                have hne : rest ≠ [] := by
                  rintro rfl
                  have := hc.2
                  simp at hrest
                  omega
                obtain ⟨k, hscan, hk⟩ := ih hnext hl
                rw [held_eq_nil he, List.nil_append, hptr hne] at hscan
                rw [deliveries_cons_some hd]
                refine ⟨k, .more hr hne hscan, fun h0 => ?_⟩
                obtain ⟨hcs, ht⟩ := hk h0
                exact ⟨List.forall_mem_cons.mpr ⟨hclean, hcs⟩, ht ∘ htidy⟩
            | hold _ _ hz => omega
            | lose _ hb =>
                obtain hb | hz := hb
                · simp [hb] at hc
                · omega
      next hc =>
        simp only [Option.some.injEq, Prod.mk.injEq] at h
        obtain ⟨rfl, rfl⟩ := h
        generalize hr : resolve bigEndian (held bigEndian s.dataInfo ++ s.dataPtr) = r at ht
        cases ht with
        | @frame p rest hd hclean hrest _ he htidy =>
            have hnil : rest = [] := by
              have hstop : ¬ 0 < (iteration bigEndian s).next.readLen :=
                fun hpos => hc ⟨hclean.1, hpos⟩
              exact List.length_eq_zero_iff.mp (by omega)
            subst hnil
            rw [deliveries_cons_some hd, held_eq_nil he]
            exact ⟨0, .last hr, fun _ => ⟨by simpa using hclean, htidy⟩⟩
        | hold hd hclean _ he hh =>
            rw [deliveries_none hd, hh]
            exact ⟨0, .hold hr, fun _ => ⟨by simpa using hclean, fun _ h0 => absurd h0 (by omega)⟩⟩
        | lose hd _ he =>
            rw [deliveries_none hd, held_eq_nil he]
            refine ⟨_, .lose hr, fun h0 => ?_⟩
            have := hs.unread
            have := hs.positive
            rw [List.length_append] at h0
            omega

/-- Over all the reads of a connection, the code is the receiver of framed
messages. -/
theorem processReads_reads {chunks : List (List UInt8)} {trace : List Iteration}
    (hi : info.WithinBuffer) (hc : ∀ c ∈ chunks, 1 ≤ c.length)
    (h : processReads bigEndian info chunks = some (trace, info')) :
    ∃ k, Reads (messages bigEndian) (held bigEndian info) chunks (deliveries trace)
      (held bigEndian info') k ∧ (k = 0 → LossFree trace info info') := by
  induction chunks generalizing info trace with
  | nil =>
      simp only [processReads, Option.some.injEq, Prod.mk.injEq] at h
      obtain ⟨rfl, rfl⟩ := h
      exact ⟨0, .nil, fun _ => ⟨by simp, id⟩⟩
  | cons c cs ih =>
      obtain ⟨hlen, hcs⟩ := List.forall_mem_cons.mp hc
      have hs := startOfRead_sound hi hlen
      obtain ⟨its, mid, hl, hmid, -⟩ := loop_safe bigEndian c.length hs
        (Int.le_refl _)
      simp only [processReads, processRead, hl, Option.bind_eq_bind, Option.bind_some] at h
      cases hr : processReads bigEndian mid cs with
      | none => simp [hr] at h
      | some r =>
          obtain ⟨its', info''⟩ := r
          simp only [hr, Option.bind_some, Option.some.injEq, Prod.mk.injEq] at h
          obtain ⟨rfl, rfl⟩ := h
          obtain ⟨k, hscan, hk⟩ := loop_scan hs hl
          obtain ⟨l, hreads, hl'⟩ := ih hmid hcs hr
          rw [deliveries, List.filterMap_append]
          refine ⟨k + l, .cons hscan hreads, fun h0 => ?_⟩
          obtain ⟨hcl, ht⟩ := hk (by omega)
          obtain ⟨hcl', ht'⟩ := hl' (by omega)
          exact ⟨List.forall_mem_append.mpr ⟨hcl, hcl'⟩, ht' ∘ ht⟩

end PyConnect.ReassemblyScan

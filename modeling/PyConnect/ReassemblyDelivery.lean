import PyConnect.ReassemblyScan

namespace PyConnect.ReassemblyDelivery

open Common FrameStream Framing Reassembly ReassemblySafety ReassemblyScan

variable {bigEndian : Bool} {info info' : SocketDataBufferInfo}
  {payloads chunks : List (List UInt8)}

/-- A payload framed at a position of the stream: '#', the length of the
payload as a short, the payload and '@' lie there. -/
def FrameAt (bigEndian : Bool) (stream : List UInt8) (pos : Nat) (p : List UInt8) : Prop :=
  p.length ≤ msgBufferSize ∧ frame bigEndian p <+: stream.drop pos

theorem withinBuffer_of_idle (hi : info.Idle) : info.WithinBuffer := by
  obtain ⟨he, hb⟩ := hi
  exact ⟨by omega, by omega, by omega⟩

theorem held_eq_nil_iff (hw : info.WithinBuffer) :
    held bigEndian info = [] ↔ info.expectedDataLength = 0 := by
  have := hw.2.1
  refine ⟨fun h => ?_, held_eq_nil⟩
  by_contra hne
  rw [held, if_pos (by omega)] at h
  cases h

theorem idle_addFdToClientList (buf : DataBuffer) : (addFdToClientList buf).Idle := ⟨rfl, rfl⟩

theorem idle_reads (bigEndian : Bool) (hi : info.Idle) (hc : ∀ c ∈ chunks, 1 ≤ c.length) :
    ∃ trace info' k, processReads bigEndian info chunks = some (trace, info') ∧
      info'.WithinBuffer ∧
      Reads (messages bigEndian) [] chunks (deliveries trace) (held bigEndian info') k ∧
      (k = 0 → LossFree trace info info') := by
  have hw := withinBuffer_of_idle hi
  obtain ⟨trace, info', h, hw', -⟩ := processReads_safe bigEndian hw hc
  obtain ⟨k, hr, hk⟩ := processReads_reads hw hc h
  rw [held_eq_nil hi.1] at hr
  exact ⟨trace, info', k, h, hw', hr, hk⟩

theorem chunks_ne_nil (hc : ∀ c ∈ chunks, 1 ≤ c.length) : ∀ c ∈ chunks, c ≠ [] :=
  fun c h => List.ne_nil_of_length_pos (hc c h)

theorem badCut_zero (ps : List (List UInt8)) : badCut ps 0 = false := by
  cases ps <;> simp [badCut]

/-- For framed payloads the deliveries are complete exactly when no read ends
at a bad cut, and then the run is loss-free and ends idle. -/
theorem deliveries_eq_iff (bigEndian : Bool) (hi : info.Idle) (hp : ∀ p ∈ payloads, p.length ≤ msgBufferSize)
    (hc : ∀ c ∈ chunks, 1 ≤ c.length)
    (hs : chunks.flatten = payloads.flatMap (frame bigEndian)) :
    ∃ trace info', processReads bigEndian info chunks = some (trace, info') ∧
      (deliveries trace = payloads ↔
        ∀ i ≤ chunks.length, badCut payloads (chunks.take i).flatten.length = false) ∧
      (deliveries trace = payloads → info'.Idle ∧ ∀ it ∈ trace, Clean it) := by
  obtain ⟨trace, info', k, h, hw, hr, hk⟩ := idle_reads bigEndian hi hc
  obtain ⟨hiff, hdone⟩ := hr.complete_iff (chunks_ne_nil hc) hp hs
  refine ⟨trace, info', h, ?_, fun hd => ?_⟩
  · rw [hiff]
    simp only [heldCut_iff bigEndian hp]
    refine ⟨fun hcut i hle => ?_, fun hcut i _ hle => hcut i hle⟩
    by_cases h0 : 0 < i
    · exact hcut i h0 hle
    · obtain rfl : i = 0 := by omega
      exact badCut_zero payloads
  · obtain ⟨hnil, h0⟩ := hdone hd
    obtain ⟨hclean, htidy⟩ := hk h0
    have he := (held_eq_nil_iff hw).mp hnil
    exact ⟨⟨he, htidy (fun _ => hi.2) he⟩, hclean⟩

/-- A framed stream is reassembled exactly when no read ends one to three
bytes into a frame or right before an end marker. -/
theorem reassembles_iff (bigEndian : Bool) (info : SocketDataBufferInfo)
    (payloads chunks : List (List UInt8)) (hi : info.Idle)
    (hp : ∀ p ∈ payloads, 1 ≤ p.length ∧ p.length ≤ msgBufferSize)
    (hc : ∀ c ∈ chunks, 1 ≤ c.length ∧ c.length ≤ tcpMss)
    (hs : chunks.flatten = payloads.flatMap (frame bigEndian)) :
    Reassembles bigEndian info payloads chunks ↔
      ∀ i ≤ chunks.length, badCut payloads (chunks.take i).flatten.length = false := by
  obtain ⟨trace, info', h, hiff, hdone⟩ :=
    deliveries_eq_iff bigEndian hi (fun p hm => (hp p hm).2) (fun c hm => (hc c hm).1) hs
  rw [← hiff, Reassembles, h]
  simp only [Option.mem_def, Option.some.injEq, exists_eq_left']
  exact ⟨fun hd => hd.1, fun hd => ⟨hd, (hdone hd).1⟩⟩

theorem reassembles_iff_two_reads :
    Reassembles false (addFdToClientList default) [[7, 8]] [[35, 2, 0, 7], [8, 64]] ↔
      ∀ i ≤ 2, badCut [[7, 8]] (([[35, 2, 0, 7], [8, 64]] : List (List UInt8)).take i).flatten.length
        = false :=
  reassembles_iff false _ _ _ (by decide) (by decide) (by decide) (by decide)

/-- One read that ends right after the '#' loses the message. -/
theorem not_reassembles_marker_alone :
    ([[35], [1, 0, 7, 64]] : List (List UInt8)).flatten = [[7]].flatMap (frame false) ∧
      ¬ Reassembles false (addFdToClientList default) [[7]] [[35], [1, 0, 7, 64]] := by
  decide

/-- Whatever bytes arrive, every payload handed on lies framed in the stream,
and the frames follow one another without overlap. -/
theorem deliveries_framed (bigEndian : Bool) (buf : DataBuffer) (chunks : List (List UInt8))
    (hc : ∀ c ∈ chunks, 1 ≤ c.length ∧ c.length ≤ tcpMss) :
    ∃ trace info', processReads bigEndian (addFdToClientList buf) chunks = some (trace, info') ∧
      ∃ positions : List Nat, positions.length = (deliveries trace).length ∧
        (∀ x ∈ positions.zip (deliveries trace), FrameAt bigEndian chunks.flatten x.1 x.2) ∧
        (positions.zip (deliveries trace)).Pairwise fun x y => x.1 + (x.2.length + 4) ≤ y.1 := by
  obtain ⟨trace, info', k, h, -, hr, -⟩ := idle_reads bigEndian
    (idle_addFdToClientList buf) (fun c hm => (hc c hm).1)
  refine ⟨trace, info', h, ?_⟩
  obtain ⟨w, hw, hlaid⟩ := hr.laid
  obtain ⟨positions, hlen, hat, hord⟩ := hlaid.positions
  refine ⟨positions, hlen, fun x hx => ?_, hord.imp fun hxy => ?_⟩
  · obtain ⟨hv, hpre⟩ := hat x hx
    rw [List.nil_append] at hw
    refine ⟨hv, hpre.trans ?_⟩
    rw [hw, List.drop_append]
    exact List.prefix_append _ _
  · rwa [show ((messages bigEndian).frame _).length = _ from frame_length bigEndian _] at hxy

theorem deliveries_framed_stray_byte :
    ∃ trace info', processReads false (addFdToClientList default) [[1], [35, 1, 0, 7, 64]] =
        some (trace, info') ∧
      ∃ positions : List Nat, positions.length = (deliveries trace).length ∧
        (∀ x ∈ positions.zip (deliveries trace),
          FrameAt false [[1], [35, 1, 0, 7, 64]].flatten x.1 x.2) ∧
        (positions.zip (deliveries trace)).Pairwise fun x y => x.1 + (x.2.length + 4) ≤ y.1 :=
  deliveries_framed false default _ (by decide)

theorem badCut_aligned {ps : List (List UInt8)} (hp : ∀ p ∈ ps, p.length % 4 = 0) {c : Nat}
    (hc : c % 4 = 0) : badCut ps c = false := by
  induction ps generalizing c with
  | nil => rfl
  | cons p ps ih =>
      obtain ⟨hl, hps⟩ := List.forall_mem_cons.mp hp
      rw [badCut]
      split
      · simp
        omega
      · exact ih hps (by omega)

theorem flatten_length_aligned {cs : List (List UInt8)} (hc : ∀ c ∈ cs, c.length % 4 = 0) :
    cs.flatten.length % 4 = 0 := by
  induction cs with
  | nil => rfl
  | cons c cs ih =>
      obtain ⟨hl, hcs⟩ := List.forall_mem_cons.mp hc
      have := ih hcs
      rw [List.flatten_cons, List.length_append]
      omega

/-- Blocks of the cipher, four framing bytes and reads of multiples of four
keep every cut clear of the header and of the end marker. -/
theorem aligned_reassembles (bigEndian : Bool) (buf : DataBuffer)
    (payloads chunks : List (List UInt8))
    (hp : ∀ p ∈ payloads, 0 < p.length ∧ p.length % 8 = 0 ∧ p.length ≤ msgBufferSize)
    (hc : ∀ c ∈ chunks, 4 ≤ c.length ∧ c.length ≤ tcpMss ∧ c.length % 4 = 0)
    (hs : chunks.flatten = payloads.flatMap (frame bigEndian)) :
    ∃ trace info', processReads bigEndian (addFdToClientList buf) chunks = some (trace, info') ∧
      deliveries trace = payloads ∧ info'.expectedDataLength = 0 ∧
      ∀ it ∈ trace, it.branch.breaks = false ∧ it.branch ≠ .tooSmall ∧
        (it.branch = .buffer ∨ it.branch = .cache → 0 < it.next.dataInfo.expectedDataLength) := by
  obtain ⟨trace, info', h, hiff, hdone⟩ := deliveries_eq_iff bigEndian
    (idle_addFdToClientList buf) (fun p hm => (hp p hm).2.2)
    (fun c hm => by have := (hc c hm).1; omega) hs
  have hd : deliveries trace = payloads := by
    rw [hiff]
    intro i _
    refine badCut_aligned (fun p hm => by have := (hp p hm).2.1; omega) (flatten_length_aligned ?_)
    exact fun c hm => (hc c (List.mem_of_mem_take hm)).2.2
  obtain ⟨hidle, hclean⟩ := hdone hd
  refine ⟨trace, info', h, hd, hidle.1, fun it hm => ?_⟩
  obtain ⟨hb, hmore⟩ := hclean it hm
  refine ⟨hb, ?_, hmore⟩
  rintro hsmall
  rw [hsmall] at hb
  cases hb

theorem aligned_reassembles_three_reads :
    ∃ trace info', processReads false (addFdToClientList default)
        [[35, 8, 0, 1], [2, 3, 4, 5], [6, 7, 8, 64]] = some (trace, info') ∧
      deliveries trace = [[1, 2, 3, 4, 5, 6, 7, 8]] ∧ info'.expectedDataLength = 0 ∧
      ∀ it ∈ trace, it.branch.breaks = false ∧ it.branch ≠ .tooSmall ∧
        (it.branch = .buffer ∨ it.branch = .cache → 0 < it.next.dataInfo.expectedDataLength) :=
  aligned_reassembles false default _ _ (by decide) (by decide) (by decide)

end PyConnect.ReassemblyDelivery

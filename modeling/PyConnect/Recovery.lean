import PyConnect.ReassemblyDelivery

namespace PyConnect.Recovery

open Common FrameStream Framing Reassembly ReassemblySafety ReassemblyScan

variable {bigEndian : Bool} {s : LoopState} {it : Iteration} {its : List Iteration}
  {info info' : SocketDataBufferInfo}

def Fails (its : List Iteration) : Prop := ∃ it ∈ its, it.branch.breaks = true

instance (its : List Iteration) : Decidable (Fails its) :=
  inferInstanceAs (Decidable (∃ it ∈ its, it.branch.breaks = true))

/-- No error branch leaves a message unfinished: two of the five clear the
lengths, and in the others nothing was expected. -/
theorem iteration_fails (hs : s.Sound) (hb : (iteration bigEndian s).branch.breaks = true) :
    (iteration bigEndian s).next.dataInfo.expectedDataLength = 0 := by
  have ht := iteration_tracks bigEndian hs
  generalize resolve bigEndian (held bigEndian s.dataInfo ++ s.dataPtr) = r at ht
  cases ht with
  | frame _ hclean => exact absurd (hclean.1.symm.trans hb) Bool.false_ne_true
  | hold _ hclean => exact absurd (hclean.1.symm.trans hb) Bool.false_ne_true
  | lose _ _ he => exact he

theorem loop_fails {fuel : Nat} (hs : s.Sound) (h : loop bigEndian fuel s = some (its, info'))
    (hf : Fails its) : info'.expectedDataLength = 0 := by
  induction fuel generalizing s its with
  | zero => cases h
  | succ fuel ih =>
      rw [loop] at h
      dsimp only at h
      split at h
      next hc =>
        have hnext := iteration_sound hs hc.1 hc.2
        simp only [Option.bind_eq_bind, Option.bind_eq_some_iff, Prod.exists] at h
        obtain ⟨rest, info, hl, he⟩ := h
        obtain ⟨rfl, rfl⟩ := Prod.mk.inj (Option.some.inj he)
        obtain ⟨it, hmem, hb⟩ := hf
        rcases List.mem_cons.mp hmem with rfl | hmem
        · exact absurd (hc.1.symm.trans hb) Bool.false_ne_true
        · exact ih hnext hl ⟨it, hmem, hb⟩
      next =>
        obtain ⟨rfl, rfl⟩ := Prod.mk.inj (Option.some.inj h)
        obtain ⟨it, hmem, hb⟩ := hf
        obtain rfl := List.mem_singleton.mp hmem
        exact iteration_fails hs hb

theorem processRead_frames (bigEndian : Bool) {payloads : List (List UInt8)} (hi : info.WithinBuffer)
    (he : info.expectedDataLength = 0) (hne : payloads ≠ [])
    (hlen : (payloads.flatMap (frame bigEndian)).length ≤ tcpMss) :
    ∃ its info', processRead bigEndian info (payloads.flatMap (frame bigEndian)) = some (its, info') ∧
      deliveries its = payloads := by
  have hvalid : ∀ p ∈ payloads, p.length ≤ msgBufferSize := by
    intro p hp
    obtain ⟨ps, qs, rfl⟩ := List.append_of_mem hp
    simp only [List.flatMap_append, List.flatMap_cons, List.length_append, frame_length, tcpMss]
      at hlen
    rw [msgBufferSize]
    omega
  have hpos : 1 ≤ (payloads.flatMap (frame bigEndian)).length := by
    obtain ⟨p, ps, rfl⟩ := List.exists_cons_of_ne_nil hne
    simp
    omega
  have hs := startOfRead_sound hi hpos
  obtain ⟨its, info', hl, -, -⟩ := loop_safe bigEndian _ hs (Int.le_refl _)
  refine ⟨its, info', hl, ?_⟩
  obtain ⟨k, hscan, -⟩ := loop_scan hs hl
  rw [held_eq_nil he, List.nil_append] at hscan
  exact (hscan.whole rfl hne hvalid).1

/-- After any history of reads, a read that ends in an error leaves nothing
expected, and whole frames in the next read are delivered, and nothing else. -/
theorem recovers (bigEndian : Bool) (buf : DataBuffer) (chunks : List (List UInt8)) (chunk : List UInt8)
    (hc : ∀ c ∈ chunks ++ [chunk], 1 ≤ c.length ∧ c.length ≤ tcpMss) :
    ∃ trace info its info',
      processReads bigEndian (addFdToClientList buf) chunks = some (trace, info) ∧
      processRead bigEndian info chunk = some (its, info') ∧
      (Fails its → info'.expectedDataLength = 0 ∧
        ∀ payloads : List (List UInt8), payloads ≠ [] →
          (payloads.flatMap (frame bigEndian)).length ≤ tcpMss →
          ∃ its' info'', processRead bigEndian info' (payloads.flatMap (frame bigEndian)) =
              some (its', info'') ∧ deliveries its' = payloads) := by
  obtain ⟨hchunks, hchunk⟩ := List.forall_mem_append.mp hc
  obtain ⟨trace, info, htrace, hi, -⟩ := processReads_safe bigEndian (withinBuffer_empty buf)
    fun c h => (hchunks c h).1
  have hs := startOfRead_sound hi (hchunk chunk List.mem_cons_self).1
  obtain ⟨its, info', hl, hi', -⟩ := loop_safe bigEndian chunk.length hs (Int.le_refl _)
  refine ⟨trace, info, its, info', htrace, hl, fun hf => ?_⟩
  have he := loop_fails hs hl hf
  exact ⟨he, fun payloads hne hlen => processRead_frames bigEndian hi' he hne hlen⟩

/-- A message that is broken off: its second read has no end marker where it
should be, and the read after that brings two frames. -/
theorem recovers_broken_message : ∃ trace info its info',
    processReads false (addFdToClientList default) [[35, 3, 0, 1]] = some (trace, info) ∧
    processRead false info [2, 3, 4, 5] = some (its, info') ∧
    (Fails its → info'.expectedDataLength = 0 ∧
      ∀ payloads : List (List UInt8), payloads ≠ [] →
        (payloads.flatMap (frame false)).length ≤ tcpMss →
        ∃ its' info'', processRead false info' (payloads.flatMap (frame false)) =
            some (its', info'') ∧ deliveries its' = payloads) :=
  recovers false default [[35, 3, 0, 1]] [2, 3, 4, 5] (by decide)

end PyConnect.Recovery

import PyConnect.ReassemblyDelivery
import PyConnect.Delivery

namespace PyConnect.Interoperation

open Bytes Decoding Common FrameStream Framing Reassembly ReassemblyDelivery Delivery

/-- Two hosts, each with a build of its own byte order, exchange an encrypted
message: the sender has it in dispatchDataBuffer_, the receiver reads the
number that the sender wrote in front of it, every number inside comes back,
and the message is handed on, however the stream is cut clear of the frame's
header and of its end marker. -/
structure Interoperates (sender receiver : Bool) (outputData : List UInt8) : Prop where
  dispatched : (frame sender outputData).length ≤ msgBufferSize
  length : shortValue receiver (hostBytes sender 2 outputData.length) = outputData.length
  numbers : ∀ w v, v < 256 ^ w → Decodes (unpackLENumber receiver w) (packToLENumber sender w v) v w
  delivered : ∀ (info : SocketDataBufferInfo) (chunks : List (List UInt8)), info.Idle →
    (∀ c ∈ chunks, 1 ≤ c.length ∧ c.length ≤ tcpMss) → chunks.flatten = frame sender outputData →
    (∀ i ≤ chunks.length, badCut [outputData] (chunks.take i).flatten.length = false) →
    Reassembles receiver info [outputData] chunks

theorem shortValue_eq_iff (sender receiver : Bool) {n : Nat} (hn : n ≤ msgBufferSize) :
    shortValue receiver (hostBytes sender 2 n) = n ↔ receiver = sender ∨ n % 256 = n / 256 := by
  by_cases hsame : receiver = sender
  · rw [hsame]
    exact iff_of_true (shortValue_hostBytes sender hn) (.inl rfl)
  · have hmax : n ≤ 10240 := hn
    obtain ⟨hi, lo, hlo, rfl⟩ : ∃ hi lo, lo < 256 ∧ n = 256 * hi + lo :=
      ⟨n / 256, n % 256, by omega, by omega⟩
    have hdiv : (256 * hi + lo) / 256 = hi := by omega
    have hmod : (256 * hi + lo) % 256 = lo := by omega
    have hlt : hi + 256 * lo < 2 ^ 16 := by omega
    rw [shortValue_swapped hsame (by omega), hdiv, hmod, or_iff_right hsame,
      BitVec.toInt_eq_toNat_cond, BitVec.toNat_ofNat, Nat.mod_eq_of_lt hlt]
    split <;> omega

theorem frame_eq {sender receiver : Bool} {p : List UInt8}
    (h : shortValue receiver (hostBytes sender 2 p.length) = p.length) :
    frame sender p = frame receiver p := by
  have hback := hostBytes_shortValue receiver (hostBytes_length sender 2 p.length) (by omega)
  rw [h, Int.toNat_natCast] at hback
  rw [frame, frame, hback]

theorem reassembles_of_frame {receiver : Bool} {info : SocketDataBufferInfo} {p : List UInt8}
    {chunks : List (List UInt8)} (hi : info.Idle) (hp : p.length ≤ msgBufferSize)
    (hc : ∀ c ∈ chunks, 1 ≤ c.length ∧ c.length ≤ tcpMss) (hs : chunks.flatten = frame receiver p)
    (hcut : ∀ i ≤ chunks.length, badCut [p] (chunks.take i).flatten.length = false) :
    Reassembles receiver info [p] chunks := by
  have hstream : chunks.flatten = [p].flatMap (frame receiver) := by
    rw [hs, List.flatMap_singleton]
  obtain ⟨trace, info', h, hiff, hdone⟩ := deliveries_eq_iff receiver hi
    (List.forall_mem_singleton.mpr hp) (fun c hm => (hc c hm).1) hstream
  have hd : deliveries trace = [p] := hiff.mpr hcut
  exact ⟨(trace, info'), h, hd, (hdone hd).1⟩

/-- Hosts of different byte order interoperate at the lengths that read the
same from both ends; the numbers inside a message do at every length. -/
theorem interoperates_iff (sender receiver : Bool) (outputData : List UInt8) :
    Interoperates sender receiver outputData ↔
      outputData.length + 4 ≤ msgBufferSize ∧
        (receiver = sender ∨ outputData.length % 256 = outputData.length / 256) := by
  have hfits : outputData.length + 4 ≤ msgBufferSize → outputData.length ≤ msgBufferSize := by omega
  constructor
  · intro h
    have hlen := h.dispatched
    rw [frame_length] at hlen
    exact ⟨hlen, (shortValue_eq_iff sender receiver (hfits hlen)).mp h.length⟩
  · rintro ⟨hlen, horder⟩
    have hvalue := (shortValue_eq_iff sender receiver (hfits hlen)).mpr horder
    have hframe := frame_eq hvalue
    refine ⟨by rwa [frame_length], hvalue, fun w v hv => decodes_packToLENumber sender receiver hv,
      fun info chunks hi hc hs hcut => ?_⟩
    rw [hframe] at hs
    exact reassembles_of_frame hi (hfits hlen) hc hs hcut

/-- The eight bytes that one block of the cipher fills are 2048 to a host of
the other byte order. -/
theorem not_interoperates_block :
    ¬ ∀ (sender receiver : Bool) (outputData : List UInt8),
      outputData.length + 4 ≤ msgBufferSize → Interoperates sender receiver outputData := by
  intro h
  have hlen := (h false true [1, 2, 3, 4, 5, 6, 7, 8] (by decide)).length
  exact absurd hlen (by decide)

end PyConnect.Interoperation

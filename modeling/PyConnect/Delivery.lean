import PyConnect.Reassembly
import PyConnect.WrapperSends

namespace PyConnect.Delivery

open Bytes Common Values ValueCodec Framing Reassembly Wrapper WrapperSends

/-- PYCONNECT_MSG_ENDECRYPT_BUFFER_SIZE, the size of encryptbuffer. -/
def msgEndecryptBufferSize : Nat := 10240

/-- What EVP_bf_cbc makes of `n` bytes: the padding fills the last block, with
a whole one where nothing is missing. -/
def cipherSize (n : Nat) : Nat := 8 * (n / 8 + 1)

/-- A ciphertext on its way from one host to another: encryptMessage has put it
in encryptbuffer, clientDataSend frames it in dispatchDataBuffer_, and the
receiver comes to the frame in its stream. -/
structure Deliverable (sender receiver : Bool) (outputData : List UInt8) : Prop where
  encrypted : outputData.length ≤ msgEndecryptBufferSize
  dispatched : (frame sender outputData).length ≤ msgBufferSize
  length : shortValue sender (hostBytes sender 2 outputData.length) = outputData.length
  accepted : ∀ s : LoopState, s.dataPtr.take 3 = (frame sender outputData).take 3 →
    (newMessage receiver s).branch ≠ .badSize

def messageSize (amId : Nat) (str : List UInt8) : Nat :=
  8 + ((packString str true).length + (packIntToStr amId).length)

theorem newMessage_badSize (receiver : Bool) (s : LoopState) :
    (newMessage receiver s).branch = .badSize ↔ 4 ≤ s.readLen ∧
      ¬ (0 ≤ shortValue receiver ((s.dataPtr.drop 1).take 2) ∧
        shortValue receiver ((s.dataPtr.drop 1).take 2) ≤ msgBufferSize) := by
  rw [newMessage]
  by_cases hsmall : s.readLen < 4
  · rw [if_pos hsmall]
    simp [Int.not_le.mpr hsmall]
  · rw [if_neg hsmall]
    dsimp only
    by_cases hsize : shortValue receiver ((s.dataPtr.drop 1).take 2) < 0 ∨
        shortValue receiver ((s.dataPtr.drop 1).take 2) > msgBufferSize
    · rw [if_pos hsize]
      simp only [true_iff]
      omega
    · rw [if_neg hsize]
      have hnot : ∀ it : Iteration, it.branch ≠ .badSize → (it.branch = .badSize ↔ 4 ≤ s.readLen ∧
          ¬ (0 ≤ shortValue receiver ((s.dataPtr.drop 1).take 2) ∧
            shortValue receiver ((s.dataPtr.drop 1).take 2) ≤ msgBufferSize)) := by
        intro it hit
        refine iff_of_false hit ?_
        omega
      split
      · exact hnot _ Branch.noConfusion
      · split
        · exact hnot _ Branch.noConfusion
        · exact hnot _ Branch.noConfusion

theorem take_of_header {sender : Bool} {p ptr : List UInt8}
    (h : ptr.take 3 = (frame sender p).take 3) :
    (ptr.drop 1).take 2 = hostBytes sender 2 p.length := by
  have hfield : (ptr.drop 1).take 2 = (ptr.take 3).drop 1 := by rw [List.drop_take]
  rw [hfield, h, frame, List.take_succ_cons, List.drop_one, List.tail_cons, List.append_assoc]
  exact List.take_left' (hostBytes_length sender 2 p.length)

theorem accepted_iff {sender receiver : Bool} (p : List UInt8) :
    (∀ s : LoopState, s.dataPtr.take 3 = (frame sender p).take 3 →
      (newMessage receiver s).branch ≠ .badSize) ↔
    0 ≤ shortValue receiver (hostBytes sender 2 p.length) ∧
      shortValue receiver (hostBytes sender 2 p.length) ≤ msgBufferSize := by
  constructor
  · intro h
    have hbad := h ⟨frame sender p, 4, addFdToClientList default⟩ rfl
    rw [ne_eq, newMessage_badSize, take_of_header rfl] at hbad
    by_contra hc
    exact hbad ⟨le_refl 4, hc⟩
  · intro h s hs hbad
    rw [newMessage_badSize, take_of_header hs] at hbad
    exact hbad.2 h

theorem shortValue_swapped {sender receiver : Bool} (hne : receiver ≠ sender) {n : Nat}
    (hn : n < 65536) :
    shortValue receiver (hostBytes sender 2 n) =
      (BitVec.ofNat 16 (n / 256 + 256 * (n % 256))).toInt := by
  have hlo : (UInt8.ofNat n).toNat = n % 256 := by rw [UInt8.toNat_ofNat']
  have hhi : (UInt8.ofNat (n / 256)).toNat = n / 256 := by
    rw [UInt8.toNat_ofNat']
    omega
  have hbytes : leBytes 2 n = [UInt8.ofNat n, UInt8.ofNat (n / 256)] := rfl
  have hvalue : hostValue receiver (hostBytes sender 2 n) = n / 256 + 256 * (n % 256) := by
    cases sender with
    | false =>
        obtain rfl := Bool.eq_true_of_not_eq_false hne
        simp only [hostValue, hostBytes, hbytes, if_pos, Bool.false_eq_true, if_false,
          List.reverse_cons, List.reverse_nil, List.nil_append, List.cons_append, ofLeBytes, hlo, hhi]
        omega
    | true =>
        obtain rfl := Bool.eq_false_of_not_eq_true hne
        simp only [hostValue, hostBytes, hbytes, if_pos, Bool.false_eq_true, if_false,
          List.reverse_cons, List.reverse_nil, List.nil_append, List.cons_append, ofLeBytes, hlo, hhi]
        omega
  rw [shortValue, hvalue]

theorem swapped_in_range {n : Nat} (hn : n ≤ msgBufferSize) :
    0 ≤ (BitVec.ofNat 16 (n / 256 + 256 * (n % 256))).toInt ∧
      (BitVec.ofNat 16 (n / 256 + 256 * (n % 256))).toInt ≤ msgBufferSize ↔
    n % 256 < 40 ∨ n = 40 := by
  have hmax : n ≤ 10240 := hn
  obtain ⟨hi, lo, hlo, rfl⟩ : ∃ hi lo, lo < 256 ∧ n = 256 * hi + lo :=
    ⟨n / 256, n % 256, by omega, by omega⟩
  have hdiv : (256 * hi + lo) / 256 = hi := by omega
  have hmod : (256 * hi + lo) % 256 = lo := by omega
  have hlt : hi + 256 * lo < 2 ^ 16 := by omega
  rw [hdiv, hmod, BitVec.toInt_eq_toNat_cond, BitVec.toNat_ofNat, Nat.mod_eq_of_lt hlt,
    msgBufferSize]
  split <;> omega

/-- The four limits together: the two buffers decide for hosts of one byte
order, since a length within them is also one that a short holds. -/
theorem deliverable_iff {sender receiver : Bool} (p : List UInt8) :
    Deliverable sender receiver p ↔
      p.length + 4 ≤ msgBufferSize ∧
        (receiver = sender ∨ p.length % 256 < 40 ∨ p.length = 40) := by
  have hfits : p.length + 4 ≤ msgBufferSize → p.length ≤ msgBufferSize := by omega
  have haccepted : p.length ≤ msgBufferSize →
      ((∀ s : LoopState, s.dataPtr.take 3 = (frame sender p).take 3 →
        (newMessage receiver s).branch ≠ .badSize) ↔
      (receiver = sender ∨ p.length % 256 < 40 ∨ p.length = 40)) := by
    intro hp
    rw [accepted_iff]
    by_cases hsame : receiver = sender
    · rw [hsame, shortValue_hostBytes sender hp]
      refine iff_of_true ⟨Int.natCast_nonneg _, by exact_mod_cast hp⟩ (.inl rfl)
    · have hlt : p.length < 65536 := lt_of_le_of_lt hp (by decide)
      rw [shortValue_swapped hsame hlt, swapped_in_range hp, or_iff_right hsame]
  constructor
  · intro h
    have hlen := h.dispatched
    rw [frame_length] at hlen
    exact ⟨hlen, (haccepted (hfits hlen)).mp h.accepted⟩
  · rintro ⟨hlen, horder⟩
    refine ⟨hfits hlen, ?_, shortValue_hostBytes sender (hfits hlen),
      (haccepted (hfits hlen)).mpr horder⟩
    rwa [frame_length]

theorem posted_length {b : Build} {w : PyConnectWrapper} {str : List UInt8}
    (hstr : str.length ≤ maxStrLength) {amId : Nat} {sid : Int} {t : PyConnectMsg} {data : List UInt8}
    {broadcast : Bool} (hdata : .dispatch data broadcast ∈
      (postAttrMetdData b w amId (.string str) .noErrors sid t).2) :
    data.length = messageSize amId str := by
  have hset := setData_sized b.host (show (Value.string str).Sized from hstr)
  have henc : encode b.host (.string str) = packString str true := rfl
  have hamId := packIntToStr_length amId
  rw [postAttrMetdData, hset, henc, sendAttrMetdResponse] at hdata
  rw [data_of_mem_send hdata, Packet.data_eq]
  · simp only [responsePacket, List.length_cons, List.length_append, List.length_nil,
      List.length_take, packLEInt, packNumber_length, messageSize]
    omega
  · simp only [responsePacket, List.length_cons, List.length_append, List.length_nil,
      List.length_take, packLEInt, packNumber_length]
    omega

/-- A string that the module posts is delivered exactly when its message has at
most 10231 bytes, and the short in front of it is one that the receiver takes. -/
theorem posted_deliverable (b : Build) (w : PyConnectWrapper) (receiver : Bool)
    (encrypt : List UInt8 → List UInt8)
    (hencrypt : ∀ data, (encrypt data).length = cipherSize data.length)
    (str : List UInt8) (hstr : str.length ≤ maxStrLength) (amId : Nat) (sid : Int) (t : PyConnectMsg)
    {data : List UInt8} {broadcast : Bool} (hdata : .dispatch data broadcast ∈
      (postAttrMetdData b w amId (.string str) .noErrors sid t).2) :
    Deliverable b.host.bigEndian receiver (encrypt data) ↔
      messageSize amId str ≤ 10231 ∧ (receiver = b.host.bigEndian ∨
        cipherSize (messageSize amId str) % 256 < 40 ∨ cipherSize (messageSize amId str) = 40) := by
  have hsize : cipherSize (messageSize amId str) + 4 ≤ msgBufferSize ↔ messageSize amId str ≤ 10231 := by
    rw [cipherSize, msgBufferSize]
    omega
  rw [deliverable_iff, hencrypt, posted_length hstr hdata, hsize]

def posting : PyConnectWrapper where
  pyConnectModule := none
  serverMap := Std.ExtTreeMap.empty.insert 1 ⟨5, true⟩
  noResponse := false

/-- The padding of the cipher without the cipher. -/
def padded (data : List UInt8) : List UInt8 :=
  data ++ List.replicate (8 - data.length % 8) (UInt8.ofNat (8 - data.length % 8))

theorem padded_length (data : List UInt8) : (padded data).length = cipherSize data.length := by
  rw [padded, List.length_append, List.length_replicate, cipherSize]
  omega

theorem posted_deliverable_short :
    Deliverable false true (padded [header .attrValueUpdate 1, 5, 0, 4, 0, 0, 0, 0, 2, 104, 105, 64]) ↔
      messageSize 0 [104, 105] ≤ 10231 ∧ (true = false ∨
        cipherSize (messageSize 0 [104, 105]) % 256 < 40 ∨ cipherSize (messageSize 0 [104, 105]) = 40) :=
  posted_deliverable ⟨.little, true, true⟩ posting true padded padded_length [104, 105] (by decide)
    0 1 .attrValueUpdate (show Effect.dispatch _ false ∈ _ by decide)

/-- A string that setData accepts overruns both buffers. -/
theorem not_posted_deliverable :
    ¬ ∀ (str data : List UInt8), str.length ≤ maxStrLength →
      .dispatch data false ∈ (postAttrMetdData ⟨.little, true, true⟩ posting 0 (.string str)
        .noErrors 1 .attrValueUpdate).2 →
      Deliverable false false (padded data) := by
  intro h
  have hstr : (List.replicate 10300 (97 : UInt8)).length ≤ maxStrLength := by
    rw [List.length_replicate]
    decide
  have hentry : posting.serverMap[(1 : Int)]? = some ⟨5, true⟩ := by decide
  obtain ⟨data, hdata⟩ : ∃ data, .dispatch data false ∈ (postAttrMetdData ⟨.little, true, true⟩ posting
      0 (.string (List.replicate 10300 97)) .noErrors 1 .attrValueUpdate).2 :=
    ⟨_, by
      rw [postAttrMetdData_registered hentry]
      exact List.mem_singleton_self _⟩
  have hlen : data.length = messageSize 0 (List.replicate 10300 97) := posted_length hstr hdata
  have hsize : 10300 ≤ messageSize 0 (List.replicate 10300 97) := by
    simp only [messageSize, packString, List.length_append, List.length_replicate]
    omega
  have hlong := (h _ _ hstr hdata).encrypted
  rw [padded_length, hlen, cipherSize, msgEndecryptBufferSize] at hlong
  omega

end PyConnect.Delivery

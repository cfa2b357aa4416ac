import PyConnect.Bytes
import PyConnect.Decoding
import Mathlib.Data.Nat.Bitwise

namespace PyConnect.Common

open Bytes Decoding

def maxStrLength : Nat := 32767

/-- PYCONNECT_MSG_BUFFER_SIZE, the size of every reassembly and dispatch buffer. -/
def msgBufferSize : Nat := 10240

/-- PYCONNECT_MSG_INIT, '#'. -/
def msgInit : UInt8 := 35

/-- PYCONNECT_MSG_END, '@'. -/
def msgEnd : UInt8 := 64

inductive PyConnectMsg
  | moduleDiscovery
  | moduleDeclare
  | moduleAssignId
  | attrMetdExpose
  | callAttrMetd
  | callAttrMetdNocb
  | attrMetdResp
  | attrValueUpdate
  | getAttrMetdDesc
  | attrMetdDesc
  | moduleShutdown
  | serverShutdown
  | peerServerDiscovery
  | peerServerMsg
  deriving DecidableEq, Repr

def PyConnectMsg.code : PyConnectMsg → Nat
  | moduleDiscovery => 0x1
  | moduleDeclare => 0x2
  | moduleAssignId => 0x3
  | attrMetdExpose => 0x4
  | callAttrMetd => 0x5
  | callAttrMetdNocb => 0x6
  | attrMetdResp => 0x7
  | attrValueUpdate => 0x8
  | getAttrMetdDesc => 0x9
  | attrMetdDesc => 0xa
  | moduleShutdown => 0xb
  | serverShutdown => 0xc
  | peerServerDiscovery => 0xd
  | peerServerMsg => 0xe

/-- The type nibble of a header byte; 0 and 15 name no message. -/
def PyConnectMsg.ofCode : Nat → Option PyConnectMsg
  | 0x1 => some moduleDiscovery
  | 0x2 => some moduleDeclare
  | 0x3 => some moduleAssignId
  | 0x4 => some attrMetdExpose
  | 0x5 => some callAttrMetd
  | 0x6 => some callAttrMetdNocb
  | 0x7 => some attrMetdResp
  | 0x8 => some attrValueUpdate
  | 0x9 => some getAttrMetdDesc
  | 0xa => some attrMetdDesc
  | 0xb => some moduleShutdown
  | 0xc => some serverShutdown
  | 0xd => some peerServerDiscovery
  | 0xe => some peerServerMsg
  | _ => none

@[simp] theorem PyConnectMsg.ofCode_code (t : PyConnectMsg) : ofCode t.code = some t := by
  cases t <;> rfl

inductive PyConnectMsgStatus
  | noErrors
  | noAttrMetd
  | strTooLong
  | indexMismatch
  | noPyConnectObject
  | metdException
  | msgCorrupted
  deriving DecidableEq, Repr

def PyConnectMsgStatus.code : PyConnectMsgStatus → Int
  | noErrors => 0x0
  | noAttrMetd => 0x1
  | strTooLong => 0x2
  | indexMismatch => 0x4
  | noPyConnectObject => 0x8
  | metdException => 0xa
  | msgCorrupted => 0xf

/-- PyConnectType::Type. A cast from the wire can carry a code that names no
enumerator; it is kept by `other`. -/
inductive PyConnectType
  | int
  | float
  | double
  | string
  | bool
  | composite
  | pyVoid
  | other (code : Nat)
  deriving DecidableEq, Repr

def PyConnectType.code : PyConnectType → Nat
  | int => 0
  | float => 1
  | double => 2
  | string => 3
  | bool => 4
  | composite => 5
  | pyVoid => 6
  | other code => code

def PyConnectType.ofCode : Nat → PyConnectType
  | 0 => int
  | 1 => float
  | 2 => double
  | 3 => string
  | 4 => bool
  | 5 => composite
  | 6 => pyVoid
  | code => other code

/-- The types a program can name; a cast from the wire aside, no other exists. -/
def PyConnectType.Declared : PyConnectType → Prop
  | other _ => False
  | _ => True

theorem PyConnectType.ofCode_code {t : PyConnectType} (ht : t.Declared) : ofCode t.code = t := by
  cases t with
  | other code => exact ht.elim
  | _ => rfl

/-- The header byte of a message: its type over the low nibble of a server id. -/
def header (t : PyConnectMsg) (serverId : Int) : UInt8 :=
  UInt8.ofNat (t.code <<< 4 ||| (serverId % 16).toNat)

def msgTypeOf (b : UInt8) : Nat := b.toNat >>> 4 &&& 0xf

def lowNibble (b : UInt8) : Nat := b.toNat &&& 0xf

/-- A byte-sized store of an `int`. -/
def toByte (n : Int) : UInt8 := UInt8.ofNat (n % 256).toNat

def packToLENumber (bigEndian : Bool) (w v : Nat) : List UInt8 :=
  let valPtr := hostBytes bigEndian w v
  if bigEndian then valPtr.reverse else valPtr

def unpackLENumber (bigEndian : Bool) (w : Nat) : Decoder Nat := do
  let data ← bytes w
  spend w
  pure (hostValue bigEndian (if bigEndian then data.reverse else data))

/-- The same codec at an `int`. -/
def packLEInt (bigEndian : Bool) (v : Int) : List UInt8 :=
  packToLENumber bigEndian 4 (BitVec.ofInt 32 v).toNat

def unpackLEInt (bigEndian : Bool) : Decoder Int := do
  let val ← unpackLENumber bigEndian 4
  pure (BitVec.ofNat 32 val).toInt

def unpackStrToInt : Decoder Nat := do
  let b ← byte
  if b &&& 0x80 ≠ 0 then
    let e ← byte
    spend 2
    pure ((e.toNat <<< 7) ||| (b.toNat &&& 0x7f))
  else
    spend 1
    pure b.toNat

def packIntToStr (num : Int) : List UInt8 :=
  if num < 0 then []
  else if num < 128 then [UInt8.ofNat num.toNat]
  else if num < 32768 then
    [UInt8.ofNat ((num.toNat &&& 0x7f) ||| 0x80), UInt8.ofNat ((num.toNat &&& 0x7f80) >>> 7)]
  else []

def packedIntLen (num : Int) : Int :=
  if 0 ≤ num ∧ num < 128 then 1
  else if num < 32768 then 2
  else 0

def packString (str : List UInt8) (extendSize : Bool) : List UInt8 :=
  (if extendSize then packIntToStr str.length else [UInt8.ofNat str.length]) ++ str

/-- The string a C character pointer denotes: it stops before the first NUL. -/
def cString (bs : List UInt8) : List UInt8 := bs.takeWhile (· ≠ 0)

def unpackString (extendSize : Bool) : Decoder (List UInt8) := do
  let strLen ← if extendSize then unpackStrToInt else do
    let b ← byte
    pure b.toNat
  if strLen = 0 then pure []
  else
    let str ← bytes strLen
    spend strLen
    pure (cString str)

/-- A message as its builder leaves it: the bytes written to the buffer, and
the size reckoned for it beforehand. -/
structure Packet where
  written : List UInt8
  totalMsgSize : Int
  deriving DecidableEq, Repr

/-- The bytes dispatched; what the buffer holds beyond the bytes written is
not determined. -/
def Packet.data (p : Packet) : List UInt8 := p.written.take p.totalMsgSize.toNat

inductive MesgProcessResult
  | processedOk
  | processedFailed
  | toShutdown
  deriving DecidableEq, Repr

/-- The message that processInput comes to read, if there is one. -/
def decrypted (decrypt : List UInt8 → Option (List UInt8)) (recData : List UInt8)
    (skipdecrypt : Bool) : Option (List UInt8) :=
  if recData.length < 1 then none else if skipdecrypt then some recData else decrypt recData

theorem decrypted_eq {decrypt : List UInt8 → Option (List UInt8)} {recData message : List UInt8}
    (skipdecrypt : Bool) (hrec : 1 ≤ recData.length)
    (hdec : (if skipdecrypt then some recData else decrypt recData) = some message) :
    decrypted decrypt recData skipdecrypt = some message := by
  rw [decrypted, if_neg (by omega), hdec]

theorem Packet.data_eq {p : Packet} (h : (p.written.length : Int) = p.totalMsgSize) :
    p.data = p.written := by
  rw [Packet.data, List.take_of_length_le]
  omega

theorem and_mask (n k : Nat) : n &&& (2 ^ k - 1) = n % 2 ^ k := Nat.and_two_pow_sub_one_eq_mod n k

theorem lowNibble_eq (b : UInt8) : lowNibble b = b.toNat % 16 := and_mask b.toNat 4

theorem msgTypeOf_eq (b : UInt8) : msgTypeOf b = b.toNat / 16 := by
  have hb := b.toNat_lt
  have h : msgTypeOf b = (b.toNat >>> 4) % 16 := and_mask _ 4
  rw [h, Nat.shiftRight_eq_div_pow]
  omega

theorem header_toNat (t : PyConnectMsg) (serverId : Int) :
    (header t serverId).toNat = t.code * 16 + (serverId % 16).toNat := by
  have hs : (serverId % 16).toNat < 2 ^ 4 := by omega
  have ht : t.code < 15 := by cases t <;> decide
  rw [header, ← Nat.shiftLeft_add_eq_or_of_lt hs, Nat.shiftLeft_eq, UInt8.toNat_ofNat']
  omega

theorem msgTypeOf_header (t : PyConnectMsg) (serverId : Int) :
    msgTypeOf (header t serverId) = t.code := by
  rw [msgTypeOf_eq, header_toNat]
  omega

theorem lowNibble_header (t : PyConnectMsg) (serverId : Int) :
    (lowNibble (header t serverId) : Int) = serverId % 16 := by
  rw [lowNibble_eq, header_toNat]
  omega

@[simp] theorem toByte_toNat (n : Int) : (toByte n).toNat = (n % 256).toNat := by
  rw [toByte, UInt8.toNat_ofNat']
  omega

/-- Both builds put the least significant byte first on the wire. -/
theorem packToLENumber_eq (bigEndian : Bool) (w v : Nat) :
    packToLENumber bigEndian w v = leBytes w v := by
  cases bigEndian <;> simp [packToLENumber, hostBytes]

theorem decodes_unpackLENumber (bigEndian : Bool) {w : Nat} {data : List UInt8} (hw : data.length = w) :
    Decodes (unpackLENumber bigEndian w) data
      (hostValue bigEndian (if bigEndian then data.reverse else data)) w :=
  (decodes_bytes hw).step ((decodes_spend w).step (Decodes.pure _) rfl rfl) (List.append_nil _)
    (by omega)

theorem decodes_packToLENumber (sender receiver : Bool) {w v : Nat} (hv : v < 256 ^ w) :
    Decodes (unpackLENumber receiver w) (packToLENumber sender w v) v w := by
  have he : hostValue receiver (if receiver then (leBytes w v).reverse else leBytes w v) = v := by
    cases receiver <;> simp [hostValue, ofLeBytes_leBytes hv]
  have h := decodes_unpackLENumber receiver (leBytes_length w v)
  rwa [he, ← packToLENumber_eq sender w v] at h

theorem decodes_packLEInt (sender receiver : Bool) {v : Int} (hlo : -2 ^ 31 ≤ v) (hhi : v < 2 ^ 31) :
    Decodes (unpackLEInt receiver) (packLEInt sender v) v 4 := by
  have h := (decodes_packToLENumber sender receiver (w := 4) (BitVec.ofInt 32 v).isLt).map
    fun n => (BitVec.ofNat 32 n).toInt
  rw [BitVec.ofNat_toNat, BitVec.setWidth_eq,
    BitVec.toInt_ofInt_eq_self (by decide) (by simpa using hlo) (by simpa using hhi)] at h
  exact h

theorem packedIntLen_nonneg (n : Int) : 0 ≤ packedIntLen n := by
  rw [packedIntLen]
  split_ifs <;> decide

theorem packedIntLen_le (n : Int) : packedIntLen n ≤ 2 := by
  rw [packedIntLen]
  split_ifs <;> decide

theorem packIntToStr_length (n : Nat) : ((packIntToStr n).length : Int) = packedIntLen n := by
  unfold packIntToStr packedIntLen
  split_ifs <;> simp_all
  all_goals omega

theorem highBit_iff (b : UInt8) : b &&& 0x80 ≠ 0 ↔ 128 ≤ b.toNat := by
  have hb := b.toNat_lt
  have h : (b &&& 0x80).toNat = (b.toNat.testBit 7).toNat * 2 ^ 7 := by
    rw [UInt8.toNat_and]
    exact Nat.and_two_pow b.toNat 7
  rw [ne_eq, ← UInt8.toNat_inj, h, Nat.testBit_eq_decide_div_mod_eq]
  by_cases hc : b.toNat / 2 ^ 7 % 2 = 1
  · simp only [hc, decide_true, Bool.toNat_true]
    simp
    omega
  · simp only [hc, decide_false, Bool.toNat_false]
    simp
    omega

theorem packIntToStr_short {n : Nat} (hn : n < 128) : packIntToStr n = [UInt8.ofNat n] := by
  rw [packIntToStr, if_neg (by omega), if_pos (by omega), Int.toNat_natCast]

theorem packIntToStr_long {n : Nat} (hlo : 128 ≤ n) (hn : n < 32768) :
    packIntToStr n = [UInt8.ofNat (n % 128 + 128), UInt8.ofNat (n / 128)] := by
  have hl : n % 128 < 2 ^ 7 := by omega
  have ha : (n &&& 0x7f) ||| 0x80 = n % 128 + 128 := by
    have h : 2 ^ 7 * 1 + n % 128 = 128 ||| n % 128 := Nat.two_pow_add_eq_or_of_lt hl 1
    rw [Nat.or_comm, show n &&& 0x7f = n % 128 from and_mask n 7, ← h]
    omega
  have hb : (n &&& 0x7f80) >>> 7 = n / 128 := by
    have h := and_mask (n >>> 7) 8
    rw [Nat.shiftRight_and_distrib, Nat.shiftRight_eq_div_pow] at *
    change n / 2 ^ 7 &&& 2 ^ 8 - 1 = _
    omega
  rw [packIntToStr, if_neg (by omega), if_neg (by omega), if_pos (by omega), Int.toNat_natCast,
    ha, hb]

theorem extended_eq (low high : Nat) :
    (high <<< 7) ||| (low &&& 0x7f) = high * 128 + low % 128 := by
  have hl : low % 128 < 2 ^ 7 := by omega
  rw [show low &&& 0x7f = low % 128 from and_mask low 7,
    ← Nat.shiftLeft_add_eq_or_of_lt hl, Nat.shiftLeft_eq]

theorem decodes_packIntToStr {n : Nat} (hn : n < 32768) :
    Decodes unpackStrToInt (packIntToStr n) n (packIntToStr n).length := by
  by_cases h : n < 128
  · have hv : (UInt8.ofNat n).toNat = n := by rw [UInt8.toNat_ofNat']; omega
    rw [packIntToStr_short h]
    refine (decodes_byte (UInt8.ofNat n)).step (y := []) (k := 1) ?_ rfl rfl
    rw [if_neg (by rw [highBit_iff]; omega)]
    exact (decodes_spend 1).step (by simpa [hv] using Decodes.pure n) rfl rfl
  · have hv : (UInt8.ofNat (n % 128 + 128)).toNat = n % 128 + 128 := by
      rw [UInt8.toNat_ofNat']; omega
    have he : (UInt8.ofNat (n / 128)).toNat = n / 128 := by rw [UInt8.toNat_ofNat']; omega
    have hm : ((n / 128) <<< 7) ||| ((n % 128 + 128) &&& 0x7f) = n := by
      rw [extended_eq]
      omega
    rw [packIntToStr_long (by omega) hn]
    refine (decodes_byte _).step (y := [UInt8.ofNat (n / 128)]) (k := 2) ?_ rfl rfl
    rw [if_pos (by rw [highBit_iff]; omega)]
    refine (decodes_byte _).step (y := []) (k := 2) ?_ rfl rfl
    refine (decodes_spend 2).step (y := []) (k := 0) ?_ rfl rfl
    rw [hv, he, hm]
    exact Decodes.pure n

theorem yields_unpackStrToInt : Yields unpackStrToInt fun n => n ≤ 32767 := by
  refine .after fun b => ?_
  split
  · refine .after fun e => .after fun _ => .pure ?_
    have hhigh : e.toNat <<< 7 < 2 ^ 15 := by
      have he := e.toNat_lt
      rw [Nat.shiftLeft_eq]
      omega
    have hlow : b.toNat &&& 0x7f < 2 ^ 15 := Nat.and_lt_two_pow _ (by decide)
    exact Nat.le_of_lt_succ (Nat.or_lt_two_pow hhigh hlow)
  · have hb := b.toNat_lt
    exact .after fun _ => .pure (by omega)

theorem yields_bytes (n : Nat) : Yields (bytes n) (·.length = n) := by
  intro c
  simp only [bytes, List.length_append, List.length_take, List.length_replicate]
  omega

theorem decodes_sections {σ : Type} {f g : Nat → σ → Decoder σ} {n m : Nat} {xs ys : List UInt8}
    {s s' s'' : σ} {k l : Int} (hn : n ≤ 32767) (hm : m ≤ 32767)
    (hf : Decodes (forCount f 0 n s) xs s' k) (hg : Decodes (forCount g 0 m s') ys s'' l) :
    ∃ k, Decodes (unpackStrToInt >>= fun n => forCount f 0 n s >>= fun s' =>
        unpackStrToInt >>= fun m => forCount g 0 m s')
      (packIntToStr n ++ xs ++ (packIntToStr m ++ ys)) s'' k := by
  have hn' := decodes_packIntToStr (n := n) (by omega)
  have hm' := decodes_packIntToStr (n := m) (by omega)
  exact ⟨_, hn'.step (hf.bind (hm'.bind hg)) (List.append_assoc _ _ _).symm rfl⟩

theorem sizeAndIndex_apply {α : Type} (sender receiver : Bool) {index length : Nat} {size : Int}
    (hsize : size = length + packedIntLen index) (hindex : index < 32768) (hlen : length ≤ 2147483645)
    (f : Nat → Decoder α) (rest : List UInt8) (overrun : Nat) (remaining : Int) :
    (unpackLEInt receiver >>= fun n => setRemaining n >>= fun _ => unpackStrToInt >>= f)
        ⟨packLEInt sender size ++ (packIntToStr index ++ rest), overrun, remaining⟩ =
      f index ⟨rest, overrun, length⟩ := by
  have hp := packedIntLen_le index
  have hp0 := packedIntLen_nonneg index
  have hdata := decodes_packLEInt sender receiver (v := size) (by omega) (by omega)
  rw [bind_apply, hdata]
  dsimp only
  rw [bind_apply, setRemaining, bind_apply, decodes_packIntToStr hindex, packIntToStr_length, hsize,
    Int.add_sub_cancel]

theorem cString_eq {bs : List UInt8} (h : 0 ∉ bs) : cString bs = bs := by
  induction bs with
  | nil => rfl
  | cons b bs ih =>
      simp only [List.mem_cons, not_or] at h
      have hb : b ≠ 0 := fun he => h.1 he.symm
      simpa [cString, hb] using ih h.2

theorem not_mem_cString (bs : List UInt8) : 0 ∉ cString bs := by
  intro h
  have hz := List.all_eq_true.mp List.all_takeWhile _ h
  simp at hz

theorem yields_unpackString : Yields (unpackString true) fun str => 0 ∉ str ∧ str.length ≤ maxStrLength := by
  refine yields_unpackStrToInt.bind fun strLen hlen => ?_
  dsimp only
  split_ifs
  · exact .pure ⟨by simp, Nat.zero_le _⟩
  · refine (yields_bytes strLen).bind fun str hstr => .after fun _ => .pure ⟨not_mem_cString str, ?_⟩
    exact (List.takeWhile_prefix _).length_le.trans (by rw [hstr]; exact hlen)

theorem cString_eq_self_iff (str : List UInt8) : cString str = str ↔ 0 ∉ str := by
  constructor
  · intro h
    rw [← h]
    exact not_mem_cString str
  · exact cString_eq

theorem decodes_unpackString_body {bs : List UInt8} {d : Decoder Nat} {enc : List UInt8} {k : Int}
    (hd : Decodes d enc bs.length k) :
    Decodes (do
      let strLen ← d
      if strLen = 0 then pure []
      else
        let str ← bytes strLen
        spend strLen
        pure (cString str)) (enc ++ bs) (cString bs) (k + bs.length) := by
  refine hd.bind ?_
  by_cases hz : bs.length = 0
  · have hn : bs = [] := List.length_eq_zero_iff.mp hz
    subst hn
    exact Decodes.pure []
  · rw [if_neg hz]
    refine (decodes_bytes rfl).step (y := []) (k := bs.length) ?_ (List.append_nil _)
      (Int.zero_add _)
    exact (decodes_spend bs.length).step (y := []) (k := 0) (Decodes.pure _) rfl (Int.add_zero _)

theorem decodes_packString_cut {bs : List UInt8} (hl : bs.length ≤ maxStrLength) :
    Decodes (unpackString true) (packString bs true) (cString bs)
      ((packIntToStr bs.length).length + bs.length) := by
  have hlen : bs.length < 32768 := by rw [maxStrLength] at hl; omega
  have h := decodes_unpackString_body (decodes_packIntToStr hlen)
  simpa only [unpackString, packString, if_true] using h

theorem decodes_packString_extended {bs : List UInt8} (hl : bs.length ≤ maxStrLength)
    (h0 : 0 ∉ bs) : Decodes (unpackString true) (packString bs true) bs
      ((packIntToStr bs.length).length + bs.length) := by
  have h := decodes_packString_cut hl
  rwa [cString_eq h0] at h

/-- The length byte is not taken off the count. -/
theorem decodes_packString_name_cut {bs : List UInt8} (hl : bs.length ≤ 255) :
    Decodes (unpackString false) (packString bs false) (cString bs) bs.length := by
  have hv : (UInt8.ofNat bs.length).toNat = bs.length := by rw [UInt8.toNat_ofNat']; omega
  have hd : Decodes (do let b ← byte; pure b.toNat) [UInt8.ofNat bs.length] bs.length 0 := by
    have h := (decodes_byte (UInt8.ofNat bs.length)).map UInt8.toNat
    rwa [hv] at h
  have h := decodes_unpackString_body hd
  rwa [Int.zero_add] at h

theorem decodes_packString_name {bs : List UInt8} (hl : bs.length ≤ 255) (h0 : 0 ∉ bs) :
    Decodes (unpackString false) (packString bs false) bs bs.length := by
  have h := decodes_packString_name_cut hl
  rwa [cString_eq h0] at h

end PyConnect.Common

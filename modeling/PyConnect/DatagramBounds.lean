import PyConnect.CommLayer
import PyConnect.WrapperSends

namespace PyConnect.DatagramBounds

open Bytes Common ObjComm Stub CommLayer
open NetComm (opensTalker restoreMessage)
open WrapperSends (typeOf)

/-- A use of the byte at an offset from the first one of the plaintext. -/
inductive Access
  | read (offset : Int)
  | write (offset : Int)
  deriving DecidableEq, Repr

def Access.offset : Access → Int
  | read offset => offset
  | write offset => offset

/-- The bytes at all offsets from the plaintext. -/
abbrev Memory := Int → UInt8

/-- A plaintext in a memory that holds whatever it holds around it. -/
def place (around : Memory) (message : List UInt8) : Memory := fun i =>
  if 0 ≤ i then (message[i.toNat]?).getD (around i) else around i

def bytesAt (memory : Memory) (n : Int) : List UInt8 :=
  (List.range n.toNat).map fun i : Nat => memory (i : Int)

/-- What is done with a plaintext: the bytes used on the way, the port of the
connection that is opened, and what goes to processInput. -/
structure Handling where
  accesses : List Access
  talker : Option Nat
  processed : Option (List UInt8)
  deriving DecidableEq, Repr

def verifyNegotiationMsg (recBuffer : Memory) (receivedBytes : Int) :
    Option PyConnectMsg × List Access :=
  if recBuffer (receivedBytes - 1) ≠ msgEnd then (none, [.read (receivedBytes - 1)])
  else (PyConnectMsg.ofCode (msgTypeOf (recBuffer 0)), [.read (receivedBytes - 1), .read 0])

/-- processUDPInput from the decrypted message on; `connected` is what
createTCPTalker returns. -/
def handleMessage (side : Side) (bigEndian connected : Bool) (message : Memory) (messageSize : Int) :
    Handling :=
  let (msgType, accesses) := verifyNegotiationMsg message messageSize
  if side = .server ∧ msgType = some .peerServerMsg then
    ⟨accesses, none, some (bytesAt message messageSize)⟩
  else if opensTalker side msgType then
    -- the size is unsigned, but the address wraps around with it
    let portStrPtr := messageSize - 2 - 1
    let port := hostValue bigEndian [message portStrPtr, message (portStrPtr + 1)]
    let restored : Memory := Function.update message portStrPtr msgEnd
    ⟨accesses ++ [.read portStrPtr, .read (portStrPtr + 1), .write portStrPtr], some port,
      if connected then some (bytesAt restored (messageSize - 2)) else none⟩
  else ⟨accesses, none, none⟩

def processUDPInput (side : Side) (bigEndian connected : Bool)
    (decrypt : List UInt8 → Option (List UInt8)) (around : Memory) (recBuffer : List UInt8) :
    Option Handling :=
  (decrypt recBuffer).map fun message =>
    handleMessage side bigEndian connected (place around message) message.length

/-- Only bytes of the plaintext are used, and no connection is opened for a
declaration or a discovery without room for a type, a port and an end marker. -/
structure Safe (message : List UInt8) (h : Handling) : Prop where
  within : ∀ a ∈ h.accesses, 0 ≤ a.offset ∧ a.offset < message.length
  rejected : message.length < 4 →
    typeOf message = some .moduleDeclare ∨ typeOf message = some .moduleDiscovery → h.talker = none

/-- Long enough for what the code does with it: not empty, and when it makes the
program open a connection, four bytes, or three for a PEER_SERVER_DISCOVERY. -/
def LongEnough (side : Side) (message : List UInt8) : Prop :=
  message ≠ [] ∧ (message.getLast? = some msgEnd → opensTalker side (typeOf message) = true →
    message.length ≠ 2 ∧ (message.length = 3 → typeOf message = some .peerServerDiscovery))

instance (side : Side) (message : List UInt8) : Decidable (LongEnough side message) :=
  inferInstanceAs (Decidable (_ ∧ (_ → _ → _ ∧ (_ → _))))

variable {side : Side} {bigEndian connected : Bool} {around : Memory} {message : List UInt8}

theorem place_getElem {i : Nat} (hi : i < message.length) : place around message i = message[i] := by
  rw [place, if_pos (Int.natCast_nonneg i), Int.toNat_natCast, List.getElem?_eq_getElem hi,
    Option.getD_some]

theorem place_last (hne : message ≠ []) :
    place around message (message.length - 1) = message.getLast hne := by
  have hpos := List.length_pos_iff.mpr hne
  have hcast : (message.length : Int) - 1 = (message.length - 1 : Nat) := by omega
  rw [hcast, place_getElem (by omega), List.getLast_eq_getElem]

theorem place_first (hne : message ≠ []) : place around message 0 = message.headD 0 := by
  obtain ⟨x, xs, rfl⟩ := List.exists_cons_of_ne_nil hne
  rfl

theorem bytesAt_place (around : Memory) (message : List UInt8) :
    bytesAt (place around message) message.length = message := by
  apply List.ext_getElem
  · simp [bytesAt]
  · intro i hi hi'
    simp only [bytesAt, List.getElem_map, List.getElem_range]
    exact place_getElem hi'

theorem verifyNegotiationMsg_place (around : Memory) (hne : message ≠ []) :
    verifyNegotiationMsg (place around message) message.length =
      if message.getLast? = some msgEnd then
        (typeOf message, [.read (message.length - 1), .read 0])
      else (none, [.read (message.length - 1)]) := by
  rw [verifyNegotiationMsg, place_last hne, place_first hne, List.getLast?_eq_some_getLast hne]
  by_cases hend : message.getLast hne = msgEnd
  · rw [if_neg (not_not.mpr hend), hend, if_pos rfl]
    rfl
  · rw [if_pos hend, if_neg fun h => hend (Option.some.inj h)]

theorem verifyNegotiationMsg_type (around : Memory) (hne : message ≠ []) :
    (verifyNegotiationMsg (place around message) message.length).1 =
      NetComm.verifyNegotiationMsg message := by
  rw [verifyNegotiationMsg_place around hne, NetComm.verifyNegotiationMsg]
  split <;> rfl

theorem reads_last (side : Side) (bigEndian connected : Bool) (memory : Memory) (n : Int) :
    .read (n - 1) ∈ (handleMessage side bigEndian connected memory n).accesses := by
  have hfirst : .read (n - 1) ∈ (verifyNegotiationMsg memory n).2 := by
    rw [verifyNegotiationMsg]
    split <;> simp
  rw [handleMessage]
  dsimp only
  split
  · exact hfirst
  · split
    · exact List.mem_append_left _ hfirst
    · exact hfirst

theorem typeOf_msgEnd : typeOf [msgEnd] = some .attrMetdExpose := by decide

theorem two_le_length (hend : message.getLast? = some msgEnd)
    (hopens : opensTalker side (typeOf message) = true) : 2 ≤ message.length := by
  obtain ⟨bs, rfl⟩ := List.getLast?_eq_some_iff.mp hend
  cases bs with
  | nil =>
      rw [List.nil_append, typeOf_msgEnd] at hopens
      cases side <;> simp [opensTalker] at hopens
  | cons x bs => simp

theorem opensTalker_cases {t : Option PyConnectMsg} (h : opensTalker side t = true) :
    t = some .moduleDeclare ∨ t = some .moduleDiscovery ∨ t = some .peerServerDiscovery := by
  cases side with
  | server =>
      rw [opensTalker, Bool.or_eq_true, decide_eq_true_eq, decide_eq_true_eq] at h
      exact h.elim .inl fun h => .inr (.inr h)
  | wrapper => exact .inr (.inl (by simpa [opensTalker] using h))

theorem not_opensTalker_peerServerMsg (side : Side) : opensTalker side (some .peerServerMsg) = false := by
  cases side <;> rfl

theorem handleMessage_talker (hne : message ≠ []) (hend : message.getLast? = some msgEnd)
    (hopens : opensTalker side (typeOf message) = true) :
    handleMessage side bigEndian connected (place around message) message.length =
      ⟨[.read (message.length - 1), .read 0, .read (message.length - 2 - 1),
          .read (message.length - 2 - 1 + 1), .write (message.length - 2 - 1)],
        some (hostValue bigEndian [place around message (message.length - 2 - 1),
          place around message (message.length - 2 - 1 + 1)]),
        if connected then some (bytesAt (Function.update (place around message)
          (message.length - 2 - 1) msgEnd) (message.length - 2)) else none⟩ := by
  have hpeer : ¬ (side = .server ∧ typeOf message = some .peerServerMsg) := by
    rintro ⟨-, h⟩
    rw [h, not_opensTalker_peerServerMsg] at hopens
    cases hopens
  rw [handleMessage, verifyNegotiationMsg_place around hne, if_pos hend]
  dsimp only
  rw [if_neg hpeer, if_pos hopens]
  rfl

theorem handleMessage_other (bigEndian connected : Bool) (around : Memory) (hne : message ≠ [])
    (hother : ¬ (message.getLast? = some msgEnd ∧ opensTalker side (typeOf message) = true)) :
    (handleMessage side bigEndian connected (place around message) message.length).talker = none ∧
      ∀ a ∈ (handleMessage side bigEndian connected (place around message) message.length).accesses,
        a.offset = message.length - 1 ∨ a.offset = 0 := by
  rw [handleMessage, verifyNegotiationMsg_place around hne]
  by_cases hend : message.getLast? = some msgEnd
  · have hnot : ¬ opensTalker side (typeOf message) = true := fun h => hother ⟨hend, h⟩
    rw [if_pos hend]
    dsimp only
    rw [if_neg hnot]
    split
    · exact ⟨rfl, by simp [Access.offset]⟩
    · exact ⟨rfl, by simp [Access.offset]⟩
  · have hnot : ¬ opensTalker side none = true := by cases side <;> simp [opensTalker]
    rw [if_neg hend]
    dsimp only
    rw [if_neg (by simp), if_neg hnot]
    exact ⟨rfl, by simp [Access.offset]⟩

theorem safe_talker_iff (hne : message ≠ []) (hend : message.getLast? = some msgEnd)
    (hopens : opensTalker side (typeOf message) = true) :
    Safe message (handleMessage side bigEndian connected (place around message) message.length) ↔
      message.length ≠ 2 ∧ (message.length = 3 → typeOf message = some .peerServerDiscovery) := by
  have hlen := two_le_length hend hopens
  rw [handleMessage_talker hne hend hopens]
  constructor
  · rintro ⟨hwithin, hrejected⟩
    have hport := hwithin (.read (message.length - 2 - 1)) (by simp)
    simp only [Access.offset] at hport
    refine ⟨by omega, fun h3 => ?_⟩
    rcases opensTalker_cases hopens with h | h | h
    · cases hrejected (by omega) (.inl h)
    · cases hrejected (by omega) (.inr h)
    · exact h
  · rintro ⟨h2, h3⟩
    refine ⟨fun a ha => ?_, fun h4 htype => ?_⟩
    · simp only [List.mem_cons, List.not_mem_nil, or_false] at ha
      rcases ha with rfl | rfl | rfl | rfl | rfl <;> simp only [Access.offset] <;> omega
    · rw [h3 (by omega)] at htype
      simp at htype

/-- A datagram is handled inside of its plaintext, and is not too short for the
connection that it opens, exactly when the plaintext is long enough. -/
theorem safe_iff (side : Side) (bigEndian connected : Bool)
    (decrypt : List UInt8 → Option (List UInt8)) (around : Memory) (recBuffer message : List UInt8)
    (hdec : decrypt recBuffer = some message) :
    (∃ h, processUDPInput side bigEndian connected decrypt around recBuffer = some h ∧
      Safe message h) ↔ LongEnough side message := by
  have hinput : processUDPInput side bigEndian connected decrypt around recBuffer =
      some (handleMessage side bigEndian connected (place around message) message.length) := by
    rw [processUDPInput, hdec]
    rfl
  have hone : (∃ h, processUDPInput side bigEndian connected decrypt around recBuffer = some h ∧
      Safe message h) ↔
      Safe message (handleMessage side bigEndian connected (place around message) message.length) := by
    rw [hinput]
    exact ⟨fun ⟨h, he, hs⟩ => Option.some.inj he ▸ hs, fun hs => ⟨_, rfl, hs⟩⟩
  rw [hone]
  by_cases hne : message = []
  · subst hne
    refine ⟨fun hs => ?_, fun h => absurd rfl h.1⟩
    have hread := hs.within _ (reads_last side bigEndian connected (place around []) 0)
    exact absurd hread.1 (by decide)
  · by_cases htalk : message.getLast? = some msgEnd ∧ opensTalker side (typeOf message) = true
    · rw [safe_talker_iff hne htalk.1 htalk.2]
      exact ⟨fun h => ⟨hne, fun _ _ => h⟩, fun h => h.2 htalk.1 htalk.2⟩
    · refine ⟨fun _ => ⟨hne, fun hend hopens => absurd ⟨hend, hopens⟩ htalk⟩, fun _ => ?_⟩
      obtain ⟨htalker, haccesses⟩ := handleMessage_other bigEndian connected around hne htalk
      have hpos := List.length_pos_iff.mpr hne
      refine ⟨fun a ha => ?_, fun _ _ => htalker⟩
      rcases haccesses a ha with h | h <;> omega

theorem safe_iff_declare : ∃ h,
    processUDPInput .server false true some (fun _ => 0) [0x20, 0x28, 0x0b, msgEnd] = some h ∧
      Safe [0x20, 0x28, 0x0b, msgEnd] h :=
  (safe_iff .server false true some (fun _ => 0) [0x20, 0x28, 0x0b, msgEnd] _ rfl).mpr (by decide)

/-- Two bytes that pass for a declaration: the port is looked for in front of them. -/
theorem not_safe_two_bytes : ¬ ∃ h,
    processUDPInput .server false true some (fun _ => 0) [0x20, msgEnd] = some h ∧
      Safe [0x20, msgEnd] h := by
  rintro ⟨h, he, hs⟩
  obtain rfl := Option.some.inj he
  have hwrite := hs.within (.write (-1)) (by decide)
  exact absurd hwrite.1 (by decide)

theorem handleMessage_peerMsg (bigEndian connected : Bool) (around : Memory)
    (hend : message.getLast? = some msgEnd) (htype : typeOf message = some .peerServerMsg) :
    handleMessage .server bigEndian connected (place around message) message.length =
      ⟨[.read (message.length - 1), .read 0], none, some message⟩ := by
  have hne : message ≠ [] := by
    rintro rfl
    cases hend
  rw [handleMessage, verifyNegotiationMsg_place around hne, if_pos hend, htype]
  dsimp only
  rw [if_pos ⟨rfl, rfl⟩, bytesAt_place]

theorem bytesAt_update (around : Memory) (bs : List UInt8) (p q z x : UInt8) :
    bytesAt (Function.update (place around (bs ++ [p, q, z])) bs.length x) (bs.length + 1) =
      bs ++ [x] := by
  apply List.ext_getElem
  · simp [bytesAt]
  · intro i hi hi'
    have hlt : i < bs.length + 1 := by simpa using hi'
    simp only [bytesAt, List.getElem_map, List.getElem_range]
    by_cases he : i = bs.length
    · subst he
      simp
    · have hne : (i : Int) ≠ bs.length := by omega
      rw [Function.update_of_ne hne, place_getElem (by simp; omega),
        List.getElem_append_left (by omega), List.getElem_append_left (by omega)]

/-- Where the plaintext is long enough to be cut, what is opened and what is
processed are what the comm layer's processUDPInput has. -/
theorem handleMessage_commLayer (cAddr : SockAddr) (hend : message.getLast? = some msgEnd)
    (hopens : opensTalker side (typeOf message) = true) (hlen : 3 ≤ message.length) :
    (handleMessage side bigEndian connected (place around message) message.length).talker.map
        (fun port => (port : Int)) = some (talkerAddr bigEndian cAddr message).port ∧
      (handleMessage side bigEndian connected (place around message) message.length).processed =
        if connected then some (restoreMessage message) else none := by
  obtain ⟨p, q, z, htail⟩ : ∃ p q z, message.drop (message.length - 3) = [p, q, z] :=
    List.length_eq_three.mp (by rw [List.length_drop]; omega)
  obtain ⟨bs, rfl⟩ : ∃ bs, message = bs ++ [p, q, z] :=
    ⟨message.take (message.length - 3), by rw [← htail, List.take_append_drop]⟩
  have hsize : ((bs ++ [p, q, z]).length : Int) - 2 - 1 = bs.length := by simp; omega
  have hcut : ((bs ++ [p, q, z]).length : Int) - 2 = bs.length + 1 := by simp; omega
  have hdrop : (bs ++ [p, q, z]).length - 3 = bs.length := by simp
  have hp : place around (bs ++ [p, q, z]) bs.length = p := by
    rw [place_getElem (by simp)]
    simp
  have hq : place around (bs ++ [p, q, z]) (bs.length + 1) = q := by
    have hlt : bs.length + 1 < (bs ++ [p, q, z]).length := by simp
    have hplace : place around (bs ++ [p, q, z]) ((bs.length + 1 : Nat) : Int) =
        (bs ++ [p, q, z])[bs.length + 1] := place_getElem hlt
    simpa using hplace
  rw [handleMessage_talker (by simp) hend hopens, hsize, hcut, hp, hq, bytesAt_update, talkerAddr,
    restoreMessage, hdrop, List.drop_left, List.take_left]
  exact ⟨rfl, rfl⟩

end PyConnect.DatagramBounds

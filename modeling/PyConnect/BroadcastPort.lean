import PyConnect.CommLayer
import PyConnect.WrapperSends

namespace PyConnect.BroadcastPort

open Bytes Common Framing ObjComm Stub CommLayer
open NetComm (Programs verifyNegotiationMsg broadcastForm opensTalker restoreMessage)
open WrapperSends (typeOf)

/-- A port as the system keeps it, in network byte order: the number that a host
reads from its two bytes. -/
def htons (bigEndian : Bool) (port : Nat) : Nat := hostValue bigEndian (hostBytes true 2 port)

/-- What a comm layer that broadcasts goes by. `portInUse` is in network byte
order. -/
structure Broadcaster where
  netCommEnabled : Bool
  IPCCommEnabled : Bool
  bigEndian : Bool
  portInUse : Nat

/-- What is put on the wire: one datagram for the network, and one message for
each local socket. -/
structure Broadcast where
  datagram : Option (List UInt8)
  localMessage : Option (List UInt8)
  deriving DecidableEq, Repr

def netBroadcastSend (encrypt : List UInt8 → List UInt8) (data : List UInt8) : Option (List UInt8) :=
  if data.length ≤ 0 then none else some (encrypt data)

def localBroadcastSend (B : Broadcaster) (encrypt : List UInt8 → List UInt8) (data : List UInt8) :
    Option (List UInt8) :=
  if data.length ≤ 0 then none else some (frame B.bigEndian (encrypt data))

/-- `modData`: the message without its end marker, the port, and an end marker. -/
def modData (B : Broadcaster) (data : List UInt8) : List UInt8 :=
  data.take (data.length - 1) ++ hostBytes B.bigEndian 2 B.portInUse ++ [msgEnd]

def dataPacketSender (B : Broadcaster) (encrypt : List UInt8 → List UInt8) (data : List UInt8) :
    Broadcast :=
  let msgType := verifyNegotiationMsg data
  if msgType = some .moduleDiscovery ∨ msgType = some .moduleDeclare then
    ⟨if B.netCommEnabled then netBroadcastSend encrypt (modData B data) else none,
      if B.IPCCommEnabled then localBroadcastSend B encrypt data else none⟩
  else
    ⟨if B.netCommEnabled then netBroadcastSend encrypt data else none,
      if B.IPCCommEnabled then localBroadcastSend B encrypt data else none⟩

def ToldThePort : Side → Option PyConnectMsg → Prop
  | .server, t => t = some .moduleDeclare
  | .wrapper, t => t = some .moduleDiscovery

variable {σ : Type} {P : Processor σ} {B : Broadcaster} {encrypt : List UInt8 → List UInt8}
  {data : List UInt8}

theorem modData_eq_broadcastForm {τ : Side → Type} (P : Programs τ) (side : Side) {p q : UInt8}
    (hport : hostBytes B.bigEndian 2 B.portInUse = [p, q]) (hP : P.port side = (p, q))
    (ht : verifyNegotiationMsg data = some .moduleDiscovery ∨
      verifyNegotiationMsg data = some .moduleDeclare) :
    modData B data = broadcastForm P side data := by
  rw [modData, broadcastForm, if_pos ht, hport, hP, List.dropLast_eq_take, List.append_assoc]
  rfl

theorem hostBytes_htons (bigEndian : Bool) (port : Nat) :
    hostBytes bigEndian 2 (htons bigEndian port) = hostBytes true 2 port := by
  have h := hostBytes_hostValue bigEndian (hostBytes true 2 port)
  rwa [hostBytes_length] at h

theorem verifyNegotiationMsg_concat (bs : List UInt8) :
    verifyNegotiationMsg (bs ++ [msgEnd]) = typeOf (bs ++ [msgEnd]) := by
  rw [verifyNegotiationMsg, List.getLast?_concat, if_pos rfl]
  rfl

section Received

variable {bs port : List UInt8}

/-- Whatever the message and the port are, the port is put in front of the end
marker and found there again. -/
theorem restoreMessage_port (hport : port.length = 2) :
    restoreMessage (bs ++ port ++ [msgEnd]) = bs ++ [msgEnd] := by
  have hlen : (bs ++ port ++ [msgEnd]).length - 3 = bs.length := by
    simp [hport]
  rw [restoreMessage, hlen, List.append_assoc, List.take_left]

theorem talkerAddr_port (bigEndian : Bool) (cAddr : SockAddr) (hport : port.length = 2) :
    talkerAddr bigEndian cAddr (bs ++ port ++ [msgEnd]) =
      { cAddr with port := hostValue bigEndian port } := by
  have hlen : (bs ++ port ++ [msgEnd]).length - 3 = bs.length := by
    simp [hport]
  rw [talkerAddr, hlen, List.append_assoc, List.drop_left, ← hport, List.take_left]

theorem verifyNegotiationMsg_port (hbs : bs ≠ []) :
    verifyNegotiationMsg (bs ++ port ++ [msgEnd]) = verifyNegotiationMsg (bs ++ [msgEnd]) := by
  obtain ⟨x, bs, rfl⟩ := List.exists_cons_of_ne_nil hbs
  rw [verifyNegotiationMsg_concat, verifyNegotiationMsg_concat]
  rfl

end Received

theorem processUDPInput_talker {talker : Opened} {cAddr : SockAddr} {recBuffer message : List UInt8}
    {L : PyConnectNetComm σ} (hdec : P.decrypt recBuffer = some message)
    (ht : ToldThePort P.side (verifyNegotiationMsg message)) (hlen : 3 ≤ message.length) :
    processUDPInput P L (some talker) cAddr recBuffer =
      (talkerInput P (addFdToClientList L talker (talkerAddr P.bigEndian cAddr message))
        (talkerAddr P.bigEndian cAddr message) (restoreMessage message)).map
          fun r => (r.1, [r.2]) := by
  have hpeer : ¬ (P.side = .server ∧ verifyNegotiationMsg message = some .peerServerMsg) := by
    rintro ⟨hside, hmsg⟩
    rw [hside, hmsg] at ht
    cases ht
  have hopens : opensTalker P.side (verifyNegotiationMsg message) = true := by
    cases hside : P.side <;> rw [hside] at ht <;> simp only [ToldThePort] at ht <;>
      simp [opensTalker, ht]
  rw [processUDPInput, hdec]
  dsimp only
  rw [if_neg hpeer, if_pos hopens, if_neg (by omega)]

/-- A message with an end marker goes through the broadcast: the one that is told
the port connects to it and processes the message as it was, and no other message
is changed on its way. -/
theorem port_transparent (P : Processor σ) (L : PyConnectNetComm σ) (B : Broadcaster)
    (encrypt : List UInt8 → List UInt8) (talker : Opened) (cAddr : SockAddr) (m : List UInt8)
    (port : UInt16) (hcipher : ∀ data, P.decrypt (encrypt data) = some data)
    (hport : B.portInUse = htons B.bigEndian port.toNat) (hlen : 2 ≤ m.length)
    (hend : m.getLast? = some msgEnd) :
    (ToldThePort P.side (typeOf m) → B.netCommEnabled = true →
      ∃ datagram cAddr', (dataPacketSender B encrypt m).datagram = some datagram ∧
        cAddr' = { cAddr with port := htons P.bigEndian port.toNat } ∧
        processUDPInput P L (some talker) cAddr datagram =
          (talkerInput P (addFdToClientList L talker cAddr') cAddr' m).map fun r => (r.1, [r.2])) ∧
    (typeOf m ≠ some .moduleDeclare → typeOf m ≠ some .moduleDiscovery →
      dataPacketSender B encrypt m =
        ⟨if B.netCommEnabled then some (encrypt m) else none,
          if B.IPCCommEnabled then some (frame B.bigEndian (encrypt m)) else none⟩) := by
  obtain ⟨bs, rfl⟩ := List.getLast?_eq_some_iff.mp hend
  have hbs : bs ≠ [] := by
    rintro rfl
    simp at hlen
  have hpos : ¬ (bs ++ [msgEnd]).length ≤ 0 := by simp
  rw [← verifyNegotiationMsg_concat]
  constructor
  · intro ht hon
    have hsend : verifyNegotiationMsg (bs ++ [msgEnd]) = some .moduleDiscovery ∨
        verifyNegotiationMsg (bs ++ [msgEnd]) = some .moduleDeclare := by
      cases hside : P.side with
      | server =>
          rw [hside] at ht
          exact .inr ht
      | wrapper =>
          rw [hside] at ht
          exact .inl ht
    have hmod : modData B (bs ++ [msgEnd]) = bs ++ hostBytes true 2 port.toNat ++ [msgEnd] := by
      rw [modData, hport, hostBytes_htons, List.length_append, List.length_singleton,
        Nat.add_sub_cancel, List.take_left]
    have hnet : netBroadcastSend encrypt (modData B (bs ++ [msgEnd])) =
        some (encrypt (bs ++ hostBytes true 2 port.toNat ++ [msgEnd])) := by
      rw [hmod, netBroadcastSend, if_neg (by simp)]
    refine ⟨encrypt (bs ++ hostBytes true 2 port.toNat ++ [msgEnd]), _, ?_, rfl, ?_⟩
    · rw [dataPacketSender, if_pos hsend]
      dsimp only
      rw [if_pos hon, hnet]
    · have ht' : ToldThePort P.side
          (verifyNegotiationMsg (bs ++ hostBytes true 2 port.toNat ++ [msgEnd])) := by
        rw [verifyNegotiationMsg_port hbs]
        exact ht
      rw [processUDPInput_talker (hcipher _) ht' (by simp),
        talkerAddr_port P.bigEndian cAddr (hostBytes_length true 2 _),
        restoreMessage_port (hostBytes_length true 2 _)]
      rfl
  · intro hdeclare hdiscovery
    rw [dataPacketSender, if_neg (by simp [hdeclare, hdiscovery])]
    simp only [netBroadcastSend, localBroadcastSend, if_neg hpos]

def recorder (side : Side) (bigEndian : Bool) : Processor (List (SockAddr × List UInt8)) where
  side := side
  bigEndian := bigEndian
  decrypt := some
  processInput st recData cAddr _ := some ⟨st ++ [(cAddr, recData)], .processedOk, []⟩

/-- A MODULE_DECLARE of two bytes from a little-endian host to a big-endian one. -/
theorem port_transparent_declare : ∃ datagram L',
    (dataPacketSender ⟨true, true, false, htons false 10251⟩ id [0x20, msgEnd]).datagram =
      some datagram ∧
    processUDPInput (recorder .server true) ⟨ObjComm.init, [], [], []⟩ (some ⟨7, default⟩)
      ⟨true, 0, [49]⟩ datagram = some (L', [.processedOk]) ∧
    L'.program = [(⟨true, 10251, [49]⟩, [0x20, msgEnd])] := by
  obtain ⟨htold, -⟩ := port_transparent (recorder .server true) ⟨ObjComm.init, [], [], []⟩
    ⟨true, true, false, htons false 10251⟩ id ⟨7, default⟩ ⟨true, 0, [49]⟩ [0x20, msgEnd] 10251
    (fun _ => rfl) rfl (by decide) rfl
  obtain ⟨datagram, cAddr', hsent, rfl, hreceived⟩ := htold rfl rfl
  exact ⟨datagram, _, hsent, hreceived.trans rfl, rfl⟩

end PyConnect.BroadcastPort

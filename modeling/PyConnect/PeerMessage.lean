import PyConnect.Channels
import PyConnect.Delivery
import PyConnect.Disconnection
import PyConnect.ModuleTable
import PyConnect.ReassemblyDelivery
import PyConnect.ScriptCallbacks

namespace PyConnect.PeerMessage

open Decoding Common Values Stub StubMessage ScriptCallbacks ModuleTable Framing Reassembly
open ReassemblyDelivery CommLayer
open ObjComm (setLastUsedCommChannel)
open Delivery (cipherSize)
open Handshake (programs stubDispatches stubReaction)
open NetComm (Reaction verifyNegotiationMsg broadcastForm)
open WrapperSends (typeOf)

/-- PYCONNECT_UDP_BUFFER_SIZE, the most that is read of a datagram. -/
def udpBufferSize : Nat := 2048

def peerPacket (s : PyConnectStub) (mesg : List UInt8) : Packet where
  written := header .peerServerMsg s.serverID :: (packString mesg true ++ [msgEnd])
  totalMsgSize := mesg.length + packedIntLen mesg.length + 2

def sendPeerMessage (s : PyConnectStub) (mesg : List UInt8) : Effect :=
  .dispatch (peerPacket s (cString mesg)).data true

def peerData (serverID : Int) (text : List UInt8) : List UInt8 :=
  header .peerServerMsg serverID :: (packString text true ++ [msgEnd])

/-- What a server puts on the air: the datagram of netBroadcastSend. -/
def netBroadcastSend (b : Wrapper.Build) (host : Host) (port : ObjComm.Side → UInt8 × UInt8)
    (encrypt : List UInt8 → List UInt8) (data : List UInt8) : List UInt8 :=
  encrypt (broadcastForm (programs b host port) .server data)

/-- What it writes to the local socket of each other server. -/
def localBroadcastSend (host : Host) (encrypt : List UInt8 → List UInt8) (data : List UInt8) :
    List UInt8 := frame host.bigEndian (encrypt data)

/-- The server behind a comm layer, with all that it does kept in its log. -/
def listener (host : Host) (decrypt : List UInt8 → Option (List UInt8)) : Processor Session where
  side := .server
  bigEndian := host.bigEndian
  decrypt := decrypt
  processInput S recData cAddr skipdecrypt :=
    let o := StubInput.processInput host decrypt S.stub recData cAddr skipdecrypt
    (stubReaction o).map fun r => ⟨⟨r.program, S.log ++ o.effects⟩, r.result, r.dispatches⟩

def receiveAll {σ : Type} (P : Processor σ) (fd : Int) :
    List (List UInt8) → PyConnectNetComm σ → Option (PyConnectNetComm σ)
  | [], L => some L
  | chunk :: chunks, L => do
      let (L, _) ← processIncomingData P L fd chunk
      receiveAll P fd chunks L

def heard (S : Session) : List Callback :=
  (scriptCallbacks S.log).filter (·.fnName = text "onPeerMessage")

def asHeard (serverID : Int) (text : List UInt8) : Callback :=
  ⟨Stub.text "onPeerMessage", [.int (serverID % 16), .str text]⟩

/-- A cipher that works in blocks of eight bytes, with the padding of
EVP_bf_cbc, and whose decryption undoes it. -/
structure Cipher (encrypt : List UInt8 → List UInt8) (decrypt : List UInt8 → Option (List UInt8)) :
    Prop where
  inverse : ∀ data, decrypt (encrypt data) = some data
  blocks : ∀ c, c.length % 8 ≠ 0 → decrypt c = none
  size : ∀ data, (encrypt data).length = cipherSize data.length

structure Text (text : List UInt8) : Prop where
  nulFree : 0 ∉ text
  length : 1 ≤ text.length ∧ text.length ≤ 1900

/-- The text that server `serverID` sends is heard once: as the datagram, and
from the local stream, however that is cut clear of the frame's header and of
its end marker. -/
structure Arrives (b : Wrapper.Build) (host : Host) (port : ObjComm.Side → UInt8 × UInt8)
    (encrypt : List UInt8 → List UInt8) (decrypt : List UInt8 → Option (List UInt8)) (serverID : Int)
    (text : List UInt8) (data : List UInt8) (L : PyConnectNetComm Session) : Prop where
  datagram : ∀ talker cAddr, ∃ L' results, processUDPInput (listener host decrypt) L talker cAddr
      ((netBroadcastSend b host port encrypt data).take udpBufferSize) = some (L', results) ∧
    heard L'.program = heard L.program ++ [asHeard serverID text]
  stream : ∀ fd client chunks, L.clientFDList.find? (·.fd = fd) = some client → client.dataInfo.Idle →
    (∀ c ∈ chunks, 1 ≤ c.length ∧ c.length ≤ tcpMss) →
    chunks.flatten = localBroadcastSend host encrypt data →
    (∀ i ≤ chunks.length, badCut [encrypt data] (chunks.take i).flatten.length = false) →
    ∃ L', receiveAll (listener host decrypt) fd chunks L = some L' ∧
      heard L'.program = heard L.program ++ [asHeard serverID text]

/-- As many zero bytes as the message has decrypt to a PEER_SERVER_MSG with the
same id and text. -/
def Redecrypts (decrypt : List UInt8 → Option (List UInt8)) (serverID : Int) (text data : List UInt8) :
    Prop :=
  data.length % 8 = 0 ∧ ∃ message ∈ decrypt (List.replicate data.length 0),
    typeOf message = some .peerServerMsg ∧ (lowNibble (message.headD 0) : Int) = serverID % 16 ∧
      peerText message = text

variable {σ : Type} {P : Processor σ} {L L' : PyConnectNetComm σ} {host : Host}
  {encrypt : List UInt8 → List UInt8} {decrypt : List UInt8 → Option (List UInt8)}
  {S : Session} {message : List UInt8}

theorem sendPeerMessage_eq (s : PyConnectStub) {mesg : List UInt8} (h0 : 0 ∉ mesg) :
    sendPeerMessage s mesg = .dispatch (peerData s.serverID mesg) true := by
  have hl := packIntToStr_length mesg.length
  rw [sendPeerMessage, cString_eq h0, Packet.data_eq]
  · rfl
  · simp only [peerPacket, packString, if_true, List.length_cons, List.length_append,
      List.length_nil]
    omega

def handleAll (P : Processor σ) (cAddr : SockAddr) : List (List UInt8) → σ → Option σ
  | [], st => some st
  | recData :: rest, st => do
      let r ← P.processInput st recData cAddr false
      handleAll P cAddr rest r.program

theorem handleAll_append (cAddr : SockAddr) (xs ys : List (List UInt8)) (st : σ) :
    handleAll P cAddr (xs ++ ys) st = (handleAll P cAddr xs st).bind (handleAll P cAddr ys) := by
  induction xs generalizing st with
  | nil => rfl
  | cons x xs ih =>
      rw [List.cons_append, handleAll, handleAll]
      cases P.processInput st x cAddr false with
      | none => rfl
      | some r => exact ih r.program

theorem inputs_of_handleAll {cAddr : SockAddr} {payloads : List (List UInt8)} {st : σ}
    (h : handleAll P cAddr payloads L.program = some st) :
    ∃ L' results, inputs P cAddr payloads L = some (L', results) ∧ L'.program = st := by
  induction payloads generalizing L with
  | nil => exact ⟨L, [], rfl, Option.some.inj h⟩
  | cons recData rest ih =>
      rw [handleAll] at h
      obtain ⟨r, hr, hrest⟩ := Option.bind_eq_some_iff.mp h
      have hin : input P L cAddr recData false =
          some (r.dispatches.foldl (fun L x => dataPacketSender P L x.1 x.2)
            { L with program := r.program }, r.result) := by
        rw [input, hr]
        rfl
      have hprogram : handleAll P cAddr rest
          (r.dispatches.foldl (fun L x => dataPacketSender P L x.1 x.2)
            { L with program := r.program }).program = some st := by
        rw [program_dispatches]
        exact hrest
      obtain ⟨L', results, hin', he⟩ := ih hprogram
      refine ⟨L', r.result :: results, ?_, he⟩
      rw [inputs, hin]
      simp [hin']

theorem deliveries_append (its its' : List Iteration) :
    deliveries (its ++ its') = deliveries its ++ deliveries its' := List.filterMap_append

theorem find?_read {clientFDList : List ClientFD} {fd : Int} {client : ClientFD}
    (info : SocketDataBufferInfo) (h : clientFDList.find? (·.fd = fd) = some client) :
    (clientFDList.map fun x => if x.fd = fd then { x with dataInfo := info } else x).find?
      (·.fd = fd) = some { client with dataInfo := info } := by
  have hfd : client.fd = fd := by simpa using List.find?_some h
  rw [List.find?_map]
  have hpred : ((fun x : ClientFD => decide (x.fd = fd)) ∘
      fun x => if x.fd = fd then { x with dataInfo := info } else x) = fun x => decide (x.fd = fd) := by
    funext x
    rw [Function.comp_apply]
    split <;> rfl
  rw [hpred, h, Option.map_some, if_pos hfd]

theorem receiveAll_of_handleAll {fd : Int} {client : ClientFD} {chunks : List (List UInt8)}
    {trace : List Iteration} {info' : SocketDataBufferInfo} {st : σ}
    (hclient : L.clientFDList.find? (·.fd = fd) = some client)
    (hreads : processReads P.bigEndian client.dataInfo chunks = some (trace, info'))
    (h : handleAll P client.cAddr (deliveries trace) L.program = some st) :
    ∃ L', receiveAll P fd chunks L = some L' ∧ L'.program = st := by
  induction chunks generalizing L client trace with
  | nil =>
      obtain ⟨rfl, -⟩ := Prod.mk.inj (Option.some.inj hreads)
      exact ⟨L, rfl, Option.some.inj h⟩
  | cons chunk chunks ih =>
      simp only [processReads, Option.bind_eq_bind, Option.bind_eq_some_iff, Prod.exists] at hreads
      obtain ⟨its, info, hread, its', info'', hrest, he⟩ := hreads
      obtain ⟨rfl, rfl⟩ := Prod.mk.inj (Option.some.inj he)
      rw [deliveries_append, handleAll_append] at h
      obtain ⟨st₁, hfirst, hlater⟩ := Option.bind_eq_some_iff.mp h
      obtain ⟨L₁, results, hin, rfl⟩ := inputs_of_handleAll
        (L := { L with
          comm := setLastUsedCommChannel L.comm fd
          clientFDList := L.clientFDList.map fun x =>
            if x.fd = fd then { x with dataInfo := info } else x }) hfirst
      have hone : processIncomingData P L fd chunk = some (L₁, results) := by
        simp only [processIncomingData, hclient, hread, Option.bind_eq_bind, Option.bind_some, hin]
        rfl
      have hclient₁ : L₁.clientFDList.find? (·.fd = fd) = some { client with dataInfo := info } := by
        rw [clientFDList_inputs hin]
        exact find?_read info hclient
      obtain ⟨L', hall, hL'⟩ := ih hclient₁ hrest hlater
      refine ⟨L', ?_, hL'⟩
      rw [receiveAll, hone]
      exact hall

@[simp] theorem onPeerMessage_fnName (id : Int) (peerMsg : List UInt8) :
    (ScriptCallbacks.onPeerMessage id peerMsg).fnName = Stub.text "onPeerMessage" := rfl

theorem told_filter (s : PyConnectStub) (message : List UInt8) :
    (told s message).filter (·.fnName = Stub.text "onPeerMessage") =
      if typeOf message = some .peerServerMsg then
        [ScriptCallbacks.onPeerMessage (lowNibble (message.headD 0)) (peerText message)]
      else [] := by
  have hdestroyed : ∀ name id, (onModuleDestroyed name id).fnName ≠ Stub.text "onPeerMessage" :=
    fun _ _ => by
      change Stub.text "onModuleDestroyed" ≠ Stub.text "onPeerMessage"
      decide
  have hcreated : ∀ id, (onModuleCreated id).fnName ≠ Stub.text "onPeerMessage" := fun _ => by
    change Stub.text "onModuleCreated" ≠ Stub.text "onPeerMessage"
    decide
  rw [told, typeOf]
  generalize PyConnectMsg.ofCode (msgTypeOf (message.headD 0)) = t
  by_cases hpeer : t = some .peerServerMsg
  · subst hpeer
    simp
  rw [if_neg hpeer, if_neg hpeer]
  by_cases hshutdown : t = some .moduleShutdown
  · rw [if_pos hshutdown]
    cases findModuleByID s (lowNibble (message.getD 1 0)) with
    | none => rfl
    | some obj => simp [hdestroyed]
  rw [if_neg hshutdown]
  split
  · cases findModuleByID s (lowNibble (message.getD 1 0)) with
    | none => rfl
    | some obj => simp [hcreated]
  · rfl

theorem heard_append (stub stub' : PyConnectStub) (log effects : List Effect) :
    heard ⟨stub', log ++ effects⟩ =
      heard ⟨stub, log⟩ ++ (scriptCallbacks effects).filter (·.fnName = Stub.text "onPeerMessage") := by
  rw [heard, heard, scriptCallbacks_append, List.filter_append]

theorem listener_eq (S : Session) (recData : List UInt8) (cAddr : SockAddr) :
    (listener host decrypt).processInput S recData cAddr false =
      let o := StubInput.processInput host decrypt S.stub recData cAddr false
      if alive o.effects then
        some ⟨⟨o.stub, S.log ++ o.effects⟩, o.result, stubDispatches o.effects⟩
      else none := by
  change (stubReaction _).map _ = _
  dsimp only
  rw [stubReaction]
  split <;> rfl

theorem listener_failed {recData : List UInt8} {cAddr : SockAddr} {r : Reaction Session}
    (hdec : decrypt recData = none)
    (h : (listener host decrypt).processInput S recData cAddr false = some r) :
    heard r.program = heard S := by
  have hdecrypted : decrypted decrypt recData false = none := by
    rw [decrypted]
    split
    · rfl
    · exact hdec
  rw [listener_eq, StubInput.processInput_eq, hdecrypted] at h
  obtain rfl := Option.some.inj h
  exact (heard_append S.stub _ _ _).trans (List.append_nil _)

theorem listener_heard {recData : List UInt8} {cAddr : SockAddr} {r : Reaction Session}
    (hrec : 1 ≤ recData.length) (hdec : decrypt recData = some message)
    (h : (listener host decrypt).processInput S recData cAddr false = some r) :
    heard r.program = heard S ++
      if typeOf message = some .peerServerMsg then
        [ScriptCallbacks.onPeerMessage (lowNibble (message.headD 0)) (peerText message)]
      else [] := by
  rw [listener_eq, StubInput.processInput_eq, decrypted_eq false hrec hdec] at h
  dsimp only [Option.elim] at h
  split at h
  next halive =>
    obtain rfl := Option.some.inj h
    rw [heard_append S.stub, scriptCallbacks_processMessage _ _ _ _ (of_decide_eq_true halive).1,
      told_filter]
  · cases h

theorem listener_peer (host : Host) {recData : List UInt8} (cAddr : SockAddr) (S : Session)
    (hrec : 1 ≤ recData.length) (hdec : decrypt recData = some message)
    (ht : typeOf message = some .peerServerMsg) (hvalid : validUtf8 (peerText message) = true) :
    ∃ r, (listener host decrypt).processInput S recData cAddr false = some r := by
  have halive : alive (StubInput.processMessage host S.stub message cAddr).effects = true := by
    have h0 : msgTypeOf (message.headD 0) ≠ 0 := fun h0 => by
      rw [typeOf, h0] at ht
      cases ht
    obtain ⟨x, rest, rfl⟩ : ∃ x rest, message = x :: rest := by
      cases message with
      | nil => cases ht
      | cons x rest => exact ⟨x, rest, rfl⟩
    have hcall : StubInput.peerServerMsg S.stub x (startAt rest 0) =
        (locked (invoke S.stub.scope (Stub.text "onPeerMessage") [.int (lowNibble x), unicodeFromString
          (peerText (x :: rest))]), (unpackString true (startAt rest 0)).2) := rfl
    rw [typeOf] at ht
    rw [StubMessage.processMessage_typed]
    dsimp only
    simp only [ht, if_neg h0, reduceCtorEq, Option.some.injEq, if_false, if_true]
    rw [byte_cons, List.headD_cons, hcall, unicodeFromString, if_pos hvalid, invoke_eq (by simp),
      locked_alive rfl]
    rfl
  rw [listener_eq, StubInput.processInput_eq, decrypted_eq false hrec hdec]
  exact ⟨_, if_pos halive⟩

theorem onPeerMessage_eq_iff (id serverID : Int) (peerMsg text : List UInt8) :
    ScriptCallbacks.onPeerMessage id peerMsg = asHeard serverID text ↔
      id = serverID % 16 ∧ peerMsg = text ∧ validUtf8 text = true := by
  rw [ScriptCallbacks.onPeerMessage, asHeard, unicodeFromString]
  constructor
  · intro h
    split at h
    next hvalid =>
      simp only [Callback.mk.injEq, List.cons.injEq, PyObject.int.injEq, PyObject.str.injEq] at h
      obtain ⟨-, hid, rfl, -⟩ := h
      exact ⟨hid, rfl, hvalid⟩
    next => simp at h
  · rintro ⟨rfl, rfl, hvalid⟩
    rw [if_pos hvalid]

theorem typeOf_peerData (serverID : Int) (text : List UInt8) :
    typeOf (peerData serverID text) = some .peerServerMsg := WrapperSends.typeOf_header ..

theorem verifyNegotiationMsg_peerData (serverID : Int) (text : List UInt8) :
    verifyNegotiationMsg (peerData serverID text) = some .peerServerMsg :=
  (Channels.verifyNegotiationMsg_eq ..).trans (msgType_header .peerServerMsg serverID).2

theorem peerText_peerData (serverID : Int) {text : List UInt8} (htext : Text text) :
    peerText (peerData serverID text) = text := by
  have hlen : text.length ≤ maxStrLength := htext.length.2.trans (by decide)
  exact congrArg Prod.fst (decodes_packString_extended hlen htext.nulFree [msgEnd] 0 0)

theorem peerData_length (serverID : Int) {text : List UInt8} (htext : Text text) :
    2 ≤ (peerData serverID text).length ∧ (peerData serverID text).length ≤ 1904 := by
  have hpacked := packIntToStr_length text.length
  have hle := packedIntLen_le text.length
  have := htext.length
  simp only [peerData, packString, if_true, List.length_cons, List.length_append, List.length_nil]
  omega

theorem heard_peerData (host : Host) (S : Session) (serverID : Int) {text recData : List UInt8} (cAddr : SockAddr)
    (htext : Text text) (hvalid : validUtf8 text = true) (hrec : 1 ≤ recData.length)
    (hdec : decrypt recData = some (peerData serverID text)) :
    ∃ r, (listener host decrypt).processInput S recData cAddr false = some r ∧
      heard r.program = heard S ++ [asHeard serverID text] := by
  have ht := typeOf_peerData serverID text
  have hpeer := peerText_peerData serverID htext
  obtain ⟨r, hr⟩ := listener_peer host cAddr S hrec hdec ht (hpeer.symm ▸ hvalid)
  refine ⟨r, hr, ?_⟩
  rw [listener_heard hrec hdec hr, if_pos ht]
  refine congrArg _ (congrArg (fun x => [x]) ?_)
  apply (onPeerMessage_eq_iff ..).mpr
  exact ⟨lowNibble_header .peerServerMsg serverID, hpeer, hvalid⟩

/-- The cleared buffer is heard as the text exactly when it decrypts to it. -/
theorem heard_cleared_iff (hcipher : Cipher encrypt decrypt) (S : Session) (serverID : Int)
    {text data : List UInt8} (cAddr : SockAddr) (hdata : 1 ≤ data.length) :
    (∃ r, (listener host decrypt).processInput S (List.replicate data.length 0) cAddr false = some r ∧
      heard r.program = heard S ++ [asHeard serverID text]) ↔
    validUtf8 text = true ∧ Redecrypts decrypt serverID text data := by
  have hrec : 1 ≤ (List.replicate data.length (0 : UInt8)).length := by rwa [List.length_replicate]
  constructor
  · rintro ⟨r, hr, hheard⟩
    cases hdec : decrypt (List.replicate data.length 0) with
    | none =>
        rw [listener_failed hdec hr] at hheard
        simp at hheard
    | some message =>
        have hblocks : data.length % 8 = 0 := by
          by_contra hne
          have hnone := hcipher.blocks (List.replicate data.length 0) (by rwa [List.length_replicate])
          rw [hdec] at hnone
          cases hnone
        rw [listener_heard hrec hdec hr] at hheard
        have hsame := List.append_cancel_left hheard
        by_cases ht : typeOf message = some .peerServerMsg
        · rw [if_pos ht] at hsame
          obtain ⟨hid, hpeer, hvalid⟩ := (onPeerMessage_eq_iff ..).mp (List.cons.inj hsame).1
          exact ⟨hvalid, hblocks, message, hdec, ht, hid, hpeer⟩
        · rw [if_neg ht] at hsame
          cases hsame
  · rintro ⟨hvalid, -, message, hdec, ht, hid, hpeer⟩
    obtain ⟨r, hr⟩ := listener_peer host cAddr S hrec hdec ht (hpeer.symm ▸ hvalid)
    refine ⟨r, hr, ?_⟩
    rw [listener_heard hrec hdec hr, if_pos ht]
    refine congrArg _ (congrArg (fun x => [x]) ?_)
    exact (onPeerMessage_eq_iff ..).mpr ⟨hid, hpeer, hvalid⟩

/-- A PEER_SERVER_MSG that arrives as a datagram is processed as the buffer
that it was decrypted into, cleared. -/
theorem processUDPInput_peer {data recBuffer : List UInt8} (hP : P.side = .server)
    (hdec : P.decrypt recBuffer = some data) (ht : verifyNegotiationMsg data = some .peerServerMsg)
    (talker : Option Opened) (cAddr : SockAddr) :
    processUDPInput P L talker cAddr recBuffer =
      (input P L cAddr (List.replicate data.length 0) false).map fun r => (r.1, []) := by
  rw [processUDPInput, hdec]
  exact if_pos ⟨hP, ht⟩

theorem input_program_iff {cAddr : SockAddr} {recData : List UInt8} {Q : σ → Prop} :
    (∃ L' results, (input P L cAddr recData false).map (fun r => (r.1, ([] : List MesgProcessResult))) =
        some (L', results) ∧ Q L'.program) ↔
      ∃ r, P.processInput L.program recData cAddr false = some r ∧ Q r.program := by
  rw [input]
  cases P.processInput L.program recData cAddr false with
  | none => simp
  | some r => simp [program_dispatches]

theorem stream_arrives (hcipher : Cipher encrypt decrypt) (serverID : Int) {text : List UInt8}
    (htext : Text text) (hvalid : validUtf8 text = true) (L : PyConnectNetComm Session) {fd : Int}
    {client : ClientFD} {chunks : List (List UInt8)}
    (hclient : L.clientFDList.find? (·.fd = fd) = some client) (hidle : client.dataInfo.Idle)
    (hc : ∀ c ∈ chunks, 1 ≤ c.length ∧ c.length ≤ tcpMss)
    (hs : chunks.flatten = localBroadcastSend host encrypt (peerData serverID text))
    (hcuts : ∀ i ≤ chunks.length,
      badCut [encrypt (peerData serverID text)] (chunks.take i).flatten.length = false) :
    ∃ L', receiveAll (listener host decrypt) fd chunks L = some L' ∧
      heard L'.program = heard L.program ++ [asHeard serverID text] := by
  have hlen := peerData_length serverID htext
  have hsize := hcipher.size (peerData serverID text)
  rw [cipherSize] at hsize
  have hfits : ∀ p ∈ [encrypt (peerData serverID text)], p.length ≤ msgBufferSize := by
    intro p hp
    rw [List.mem_singleton.mp hp, hsize, msgBufferSize]
    omega
  obtain ⟨trace, info', hreads, hiff, -⟩ := deliveries_eq_iff host.bigEndian hidle hfits
    (fun c hm => (hc c hm).1) (by rw [hs, localBroadcastSend, List.flatMap_singleton])
  obtain ⟨r, hr, hheard⟩ := heard_peerData host L.program serverID client.cAddr htext hvalid
    (by omega) (hcipher.inverse _)
  have hall : handleAll (listener host decrypt) client.cAddr (deliveries trace) L.program =
      some r.program := by
    rw [hiff.mpr hcuts, handleAll, hr]
    rfl
  obtain ⟨L', hL', he⟩ := receiveAll_of_handleAll hclient hreads hall
  exact ⟨L', hL', he ▸ hheard⟩

theorem datagram_arrives_iff (b : Wrapper.Build) (port : ObjComm.Side → UInt8 × UInt8)
    (hcipher : Cipher encrypt decrypt) (serverID : Int) {text : List UInt8} (htext : Text text)
    (L : PyConnectNetComm Session) (talker : Option Opened) (cAddr : SockAddr) :
    (∃ L' results, processUDPInput (listener host decrypt) L talker cAddr
        ((netBroadcastSend b host port encrypt (peerData serverID text)).take udpBufferSize) =
          some (L', results) ∧ heard L'.program = heard L.program ++ [asHeard serverID text]) ↔
      validUtf8 text = true ∧ Redecrypts decrypt serverID text (peerData serverID text) := by
  have hlen := peerData_length serverID htext
  have hsize := hcipher.size (peerData serverID text)
  rw [cipherSize] at hsize
  have ht := verifyNegotiationMsg_peerData serverID text
  have hform : broadcastForm (programs b host port) .server (peerData serverID text) =
      peerData serverID text := by
    rw [broadcastForm, ht]
    rfl
  rw [netBroadcastSend, hform, List.take_of_length_le (by rw [udpBufferSize]; omega),
    processUDPInput_peer rfl (hcipher.inverse _) ht]
  exact (input_program_iff (Q := fun S => heard S = heard L.program ++ [asHeard serverID text])).trans
    (heard_cleared_iff hcipher L.program serverID cAddr (by omega))

/-- The local copy of a text always arrives; the datagram does only where the
cleared buffer decrypts to the text again. -/
theorem arrives_iff (b : Wrapper.Build) (host : Host) (port : ObjComm.Side → UInt8 × UInt8)
    (encrypt : List UInt8 → List UInt8) (decrypt : List UInt8 → Option (List UInt8))
    (hcipher : Cipher encrypt decrypt) (s : PyConnectStub) (text data : List UInt8) (htext : Text text)
    (hdata : sendPeerMessage s text = .dispatch data true) (L : PyConnectNetComm Session) :
    Arrives b host port encrypt decrypt s.serverID text data L ↔
      validUtf8 text = true ∧ Redecrypts decrypt s.serverID text data := by
  obtain rfl : peerData s.serverID text = data := by
    rw [sendPeerMessage_eq s htext.nulFree] at hdata
    exact (Effect.dispatch.inj hdata).1
  constructor
  · intro h
    exact (datagram_arrives_iff b port hcipher s.serverID htext L none dummyAddr).mp
      (h.datagram none dummyAddr)
  · intro h
    refine ⟨fun talker cAddr => ?_, fun fd client chunks hclient hidle hc hs hcuts => ?_⟩
    · exact (datagram_arrives_iff b port hcipher s.serverID htext L talker cAddr).mpr h
    · exact stream_arrives hcipher s.serverID htext h.1 L hclient hidle hc hs hcuts

/-- What the last byte says was added is taken off, as EVP_DecryptFinal does. -/
def unpadded (c : List UInt8) : Option (List UInt8) :=
  let n := (c.getLastD 0).toNat
  if c.length % 8 = 0 ∧ 1 ≤ n ∧ n ≤ 8 ∧ c.drop (c.length - n) = List.replicate n (UInt8.ofNat n) then
    some (c.take (c.length - n))
  else none

theorem unpadded_padded (data : List UInt8) : unpadded (Delivery.padded data) = some data := by
  obtain ⟨k, hk, hk7⟩ : ∃ k, 8 - data.length % 8 = k + 1 ∧ k ≤ 7 :=
    ⟨7 - data.length % 8, by omega, by omega⟩
  have hbyte : (UInt8.ofNat (k + 1)).toNat = k + 1 := by
    rw [UInt8.toNat_ofNat']
    omega
  have hlast : ((Delivery.padded data).getLastD 0).toNat = k + 1 := by
    rw [Delivery.padded, hk, List.replicate_succ', ← List.append_assoc, List.getLastD_concat, hbyte]
  have hlen : (Delivery.padded data).length - (k + 1) = data.length := by
    rw [Delivery.padded, hk, List.length_append, List.length_replicate]
    omega
  have hblocks : (Delivery.padded data).length % 8 = 0 := by
    rw [Delivery.padded_length, cipherSize]
    omega
  rw [unpadded, hlast, hlen, Delivery.padded, hk] at *
  rw [List.drop_left, List.take_left]
  exact if_pos ⟨hblocks, by omega, by omega, rfl⟩

theorem cipher_padded : Cipher Delivery.padded unpadded where
  inverse := unpadded_padded
  blocks _ hc := if_neg fun h => hc h.1
  size := Delivery.padded_length

def listening : PyConnectNetComm Session where
  comm := Disconnection.listening.comm
  clientFDList := Disconnection.listening.clientFDList
  program := ⟨Disconnection.listening.program, []⟩
  written := []

theorem text_hello : Text (Stub.text "hello") := ⟨by decide, by decide⟩

theorem arrives_iff_hello :
    Arrives ⟨.little, true, true⟩ .little (fun _ => (0, 0)) Delivery.padded unpadded
        listening.program.stub.serverID (Stub.text "hello")
        (peerData listening.program.stub.serverID (Stub.text "hello")) listening ↔
      validUtf8 (Stub.text "hello") = true ∧ Redecrypts unpadded listening.program.stub.serverID
        (Stub.text "hello") (peerData listening.program.stub.serverID (Stub.text "hello")) :=
  arrives_iff _ _ _ _ _ cipher_padded listening.program.stub _ _ text_hello
    (sendPeerMessage_eq _ text_hello.nulFree) listening

/-- Zero bytes do not end in a padding. -/
theorem not_arrives_hello :
    Cipher Delivery.padded unpadded ∧ Text (Stub.text "hello") ∧
      validUtf8 (Stub.text "hello") = true ∧
      ¬ Arrives ⟨.little, true, true⟩ .little (fun _ => (0, 0)) Delivery.padded unpadded 1
        (Stub.text "hello") (peerData 1 (Stub.text "hello")) listening := by
  refine ⟨cipher_padded, text_hello, by decide, fun h => ?_⟩
  obtain ⟨-, -, message, hmessage, -⟩ :=
    (datagram_arrives_iff _ _ cipher_padded 1 text_hello listening none dummyAddr).mp
      (h.datagram none dummyAddr)
  have hnone : unpadded (List.replicate (peerData 1 (Stub.text "hello")).length 0) = none := by decide
  rw [hnone] at hmessage
  cases hmessage

end PyConnect.PeerMessage

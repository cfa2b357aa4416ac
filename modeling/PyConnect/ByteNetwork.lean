import PyConnect.PeerMessage
import PyConnect.Runs

namespace PyConnect.ByteNetwork

open Common ObjComm NetComm Stub Framing Reassembly CommLayer Runs
open PeerMessage (udpBufferSize)

/-- The two ends of a TCP connection, the bytes on their way to each, and what
each has of a message that it has not read whole. -/
structure Connection where
  sockets : Side → Socket
  stream : Side → List UInt8
  dataInfo : Side → SocketDataBufferInfo

/-- The two programs with the bytes between them; `air` keeps every datagram. -/
structure Network (σ : Side → Type) where
  parties : (side : Side) → Party (σ side)
  conns : List Connection
  air : List (List UInt8)

/-- The cipher that both programs share, and the byte order of their hosts. -/
structure Wire where
  encrypt : List UInt8 → List UInt8
  decrypt : List UInt8 → Option (List UInt8)
  bigEndian : Bool

variable {σ : Side → Type}

def Connection.fresh : Connection :=
  ⟨fun _ => .backlog, fun _ => [], fun _ => Reassembly.addFdToClientList default⟩

def Connection.write (k : Connection) (side : Side) (bytes : List UInt8) : Connection :=
  { k with stream := Function.update k.stream side.other (k.stream side.other ++ bytes) }

def Connection.setSocket (k : Connection) (side : Side) (socket : Socket) : Connection :=
  { k with sockets := Function.update k.sockets side socket }

def Connection.setData (k : Connection) (side : Side) (stream : List UInt8)
    (dataInfo : SocketDataBufferInfo) : Connection :=
  { k with
    stream := Function.update k.stream side stream
    dataInfo := Function.update k.dataInfo side dataInfo }

def Network.withParty (N : Network σ) (side : Side) (p : Party (σ side)) : Network σ :=
  { N with parties := Function.update N.parties side p }

def Network.withComm (N : Network σ) (side : Side) (comm : ObjectComm) : Network σ :=
  N.withParty side { N.parties side with comm := comm }

def Network.withConn (N : Network σ) (c : Nat) (k : Connection) : Network σ :=
  { N with conns := N.conns.set c k }

/-- What a call on a descriptor does to the connection behind it. -/
def Network.onSocket (N : Network σ) (side : Side) (fd : Int) (f : Connection → Connection) :
    Network σ :=
  { N with conns := N.conns.map fun k => if k.sockets side = .client fd then f k else k }

/-- There is no state behind a ciphertext that does not fit encryptbuffer, or
with its frame dispatchDataBuffer_. -/
def clientDataSend (W : Wire) (N : Network σ) (side : Side) (data : List UInt8) :
    Option (Network σ) :=
  let outputData := W.encrypt data
  if outputData.length > msgBufferSize then none
  else
    let p := N.parties side
    let (comm, mysock) := findOrAddCommChanByMsgID side p.comm data
    let N := N.withParty side { p with comm := comm, sent := p.sent ++ [data] }
    if mysock = invalidSocket then some N
    else if (frame W.bigEndian outputData).length > msgBufferSize then none
    else some (N.onSocket side mysock (·.write side (frame W.bigEndian outputData)))

def netBroadcastSend (W : Wire) (N : Network σ) (data : List UInt8) : Option (Network σ) :=
  let outputData := W.encrypt data
  if outputData.length > msgBufferSize then none else some { N with air := N.air ++ [outputData] }

def dataPacketSender (P : Programs σ) (W : Wire) (N : Network σ) (side : Side) (data : List UInt8)
    (broadcast : Bool) : Option (Network σ) :=
  if broadcast then netBroadcastSend W N (broadcastForm P side data)
  else clientDataSend W N side data

def dispatchAll (P : Programs σ) (W : Wire) (side : Side) :
    List (List UInt8 × Bool) → Network σ → Option (Network σ)
  | [], N => some N
  | x :: xs, N => (dataPacketSender P W N side x.1 x.2).bind (dispatchAll P W side xs)

/-- A decrypted message is processed and what it makes the program dispatch is
sent. -/
def deliver (P : Programs σ) (W : Wire) (N : Network σ) (side : Side) (cAddr : SockAddr)
    (message : List UInt8) : Option (Network σ × MesgProcessResult) :=
  let p := N.parties side
  (P.processInput side p.program cAddr message).bind fun r =>
    (dispatchAll P W side r.dispatches
      (N.withParty side { p with program := r.program, processed := p.processed ++ [message] })).map
        fun N => (N, r.result)

/-- The payloads of a read, one after the other. One that cannot be decrypted
is ignored. -/
def inputs (P : Programs σ) (W : Wire) (side : Side) (cAddr : SockAddr) :
    List (List UInt8) → Network σ → Option (Network σ)
  | [], N => some N
  | recData :: rest, N =>
      match decrypted W.decrypt recData false with
      | none => inputs P W side cAddr rest N
      | some message =>
          (deliver P W N side cAddr message).bind fun r => inputs P W side cAddr rest r.1

def addFdToClientList (N : Network σ) (side : Side) (c : Nat) (k : Connection) (o : Opened) :
    Network σ :=
  (N.withConn c ((k.setSocket side (.client o.fd)).setData side (k.stream side)
    (Reassembly.addFdToClientList o.bufferedData))).withComm side
      (setLastUsedCommChannel (N.parties side).comm o.fd)

/-- The connection that is made is the last one then. -/
def createTCPTalker (N : Network σ) (side : Side) (o : Opened) : Network σ :=
  addFdToClientList { N with conns := N.conns ++ [.fresh] } side N.conns.length .fresh o

def channelShutdown (P : Programs σ) (N : Network σ) (side : Side) (cAddr : SockAddr) (fd : Int)
    (notifyMesgProc : Bool) : Network σ :=
  let p := N.parties side
  let (comm, program) := objCommChannelShutdown side
    (fun st data => ((P.processInput side st cAddr data).map (·.program)).getD st)
    p.comm p.program fd notifyMesgProc
  N.withParty side { p with comm := comm, program := program }

def destroyCurrentClient (N : Network σ) (side : Side) (fd : Int) : Network σ :=
  N.onSocket side fd (·.setSocket side .closed)

def rejectTalker (P : Programs σ) (N : Network σ) (side : Side) (cAddr : SockAddr) : Network σ :=
  let (comm, fd) := getLastUsedCommChannel (N.parties side).comm
  destroyCurrentClient (channelShutdown P (N.withComm side comm) side cAddr fd false) side fd

/-- recvfrom takes no more of a datagram than its buffer holds. -/
def processUDPInput (P : Programs σ) (W : Wire) (N : Network σ) (side : Side) (o : Opened)
    (cAddr : SockAddr) (recBuffer : List UInt8) : Option (Network σ) :=
  match W.decrypt (recBuffer.take udpBufferSize) with
  | none => some N
  | some message =>
      if side = .server ∧ verifyNegotiationMsg message = some .peerServerMsg then
        -- decryptMessage clears the buffer that the decrypted message lies in
        inputs P W side cAddr [List.replicate message.length 0] N
      else if opensTalker side (verifyNegotiationMsg message) then
        if message.length < 3 then none
        else
          let cAddr := talkerAddr W.bigEndian cAddr message
          (deliver P W (createTCPTalker N side o) side cAddr (restoreMessage message)).map fun r =>
            if r.2 = .toShutdown then rejectTalker P r.1 side cAddr else r.1
      else some N

/-- `n` bytes come with the read. -/
def processIncomingData (P : Programs σ) (W : Wire) (N : Network σ) (side : Side) (c : Nat)
    (k : Connection) (fd : Int) (cAddr : SockAddr) (n : Nat) : Option (Network σ) :=
  (processRead W.bigEndian (k.dataInfo side) ((k.stream side).take n)).bind fun r =>
    inputs P W side cAddr (deliveries r.1)
      ((N.withComm side (setLastUsedCommChannel (N.parties side).comm fd)).withConn c
        (k.setData side ((k.stream side).drop n) r.2))

def Unused (N : Network σ) (side : Side) (fd : Int) : Prop :=
  0 ≤ fd ∧ ∀ k ∈ N.conns, k.sockets side ≠ .client fd

instance (N : Network σ) (side : Side) (fd : Int) : Decidable (Unused N side fd) :=
  inferInstanceAs (Decidable (_ ∧ _))

/-- A broadcast, or one round of a program's loop on one of its sockets. -/
inductive Event
  | broadcast (side : Side) (data : List UInt8)
  | datagram (side : Side) (o : Opened) (cAddr : SockAddr) (recBuffer : List UInt8)
  | accept (side : Side) (c : Nat) (o : Opened)
  | read (side : Side) (c : Nat) (cAddr : SockAddr) (n : Nat)
  | eof (side : Side) (c : Nat) (cAddr : SockAddr)

local instance memDecidable (data : List UInt8) (datagrams : List (List UInt8)) : Decidable (data ∈ datagrams) :=
  decidable_of_iff (datagrams.contains data = true) List.contains_iff_mem

def step (P : Programs σ) (W : Wire) (N : Network σ) : Event → Option (Network σ)
  | .broadcast side data =>
      if data ∈ P.announcements side (N.parties side).program then
        dataPacketSender P W N side data true
      else none
  | .datagram side o cAddr recBuffer =>
      if recBuffer ∈ N.air ∧ Unused N side o.fd then processUDPInput P W N side o cAddr recBuffer
      else none
  | .accept side c o =>
      match N.conns[c]? with
      | none => none
      | some k =>
          if k.sockets side = .backlog ∧ Unused N side o.fd then
            some (addFdToClientList N side c k o)
          else none
  | .read side c cAddr n =>
      match N.conns[c]? with
      | none => none
      | some k =>
          match k.sockets side with
          | .client fd =>
              if 0 < n ∧ n ≤ tcpMss ∧ n ≤ (k.stream side).length then
                processIncomingData P W N side c k fd cAddr n
              else none
          | _ => none
  | .eof side c cAddr =>
      match N.conns[c]? with
      | none => none
      | some k =>
          match k.sockets side with
          | .client fd =>
              if k.sockets side.other = .closed ∧ k.stream side = [] then
                some (destroyCurrentClient (channelShutdown P N side cAddr fd true) side fd)
              else none
          | _ => none

section

variable {P : Programs σ} {W : Wire} {N N' : Network σ} {side : Side} {c n : Nat} {o : Opened}
  {cAddr : SockAddr} {data recBuffer : List UInt8}

theorem step_broadcast (h : step P W N (.broadcast side data) = some N') :
    data ∈ P.announcements side (N.parties side).program ∧
      dataPacketSender P W N side data true = some N' := by
  rw [step, Option.ite_none_right_eq_some] at h
  exact h

theorem step_datagram (h : step P W N (.datagram side o cAddr recBuffer) = some N') :
    recBuffer ∈ N.air ∧ Unused N side o.fd ∧ processUDPInput P W N side o cAddr recBuffer = some N' := by
  rw [step, Option.ite_none_right_eq_some] at h
  exact ⟨h.1.1, h.1.2, h.2⟩

theorem step_accept (h : step P W N (.accept side c o) = some N') :
    ∃ k, N.conns[c]? = some k ∧ k.sockets side = .backlog ∧ Unused N side o.fd ∧
      N' = addFdToClientList N side c k o := by
  rw [step] at h
  split at h
  · cases h
  next k hk =>
    rw [Option.ite_none_right_eq_some] at h
    exact ⟨k, hk, h.1.1, h.1.2, (Option.some.inj h.2).symm⟩

theorem step_read (h : step P W N (.read side c cAddr n) = some N') :
    ∃ k fd, N.conns[c]? = some k ∧ k.sockets side = .client fd ∧ 0 < n ∧ n ≤ (k.stream side).length ∧
      processIncomingData P W N side c k fd cAddr n = some N' := by
  rw [step] at h
  split at h
  · cases h
  next k hk =>
    split at h
    next fd hfd =>
      rw [Option.ite_none_right_eq_some] at h
      exact ⟨k, fd, hk, hfd, h.1.1, h.1.2.2, h.2⟩
    · cases h

theorem step_eof (h : step P W N (.eof side c cAddr) = some N') :
    ∃ k fd, N.conns[c]? = some k ∧ k.sockets side = .client fd ∧ k.sockets side.other = .closed ∧
      k.stream side = [] ∧
      N' = destroyCurrentClient (channelShutdown P N side cAddr fd true) side fd := by
  rw [step] at h
  split at h
  · cases h
  next k hk =>
    split at h
    next fd hfd =>
      rw [Option.ite_none_right_eq_some] at h
      exact ⟨k, fd, hk, hfd, h.1.1, h.1.2, (Option.some.inj h.2).symm⟩
    · cases h

end

/-- Reads take multiples of four bytes, as long as the cipher's blocks and the
four bytes around them let them take what is there, and no datagram is longer
than the buffer. -/
def Event.Whole : Event → Prop
  | .datagram _ _ _ recBuffer => recBuffer.length ≤ udpBufferSize
  | .read _ _ _ n => n % 4 = 0
  | _ => True

instance : (e : Event) → Decidable e.Whole
  | .broadcast .. | .accept .. | .eof .. => inferInstanceAs (Decidable True)
  | .datagram .. => inferInstanceAs (Decidable (_ ≤ _))
  | .read .. => inferInstanceAs (Decidable (_ = _))

def Announces (data : List UInt8) : Prop :=
  verifyNegotiationMsg data = some .moduleDiscovery ∨ verifyNegotiationMsg data = some .moduleDeclare

instance (data : List UInt8) : Decidable (Announces data) := inferInstanceAs (Decidable (_ ∨ _))

end PyConnect.ByteNetwork

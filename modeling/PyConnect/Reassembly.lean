import PyConnect.Framing

namespace PyConnect.Reassembly

open Common Framing

/-- kTCPMSS, the most that one read of a stream takes. -/
def tcpMss : Nat := 1024

/-- A buffer of PYCONNECT_MSG_BUFFER_SIZE bytes. -/
structure DataBuffer where
  bytes : List UInt8
  length_eq : bytes.length = msgBufferSize

instance : Inhabited DataBuffer := ⟨⟨List.replicate msgBufferSize 0, List.length_replicate⟩⟩

/-- A memcpy to an offset of the buffer. What would go past its end is cut off
here; the accesses of an iteration record where a copy ends. -/
def DataBuffer.memcpy (buf : DataBuffer) (off : Nat) (src : List UInt8) : DataBuffer where
  bytes := (buf.bytes.take off ++ src ++ buf.bytes.drop (off + src.length)).take msgBufferSize
  length_eq := by
    have h := buf.length_eq
    simp
    omega

structure SocketDataBufferInfo where
  bufferedData : DataBuffer
  expectedDataLength : Int
  bufferedDataLength : Int

/-- The state addFdToClientList gives a connection. The contents of a new
buffer are whatever the allocator left there. -/
def addFdToClientList (bufferedData : DataBuffer) : SocketDataBufferInfo where
  bufferedData := bufferedData
  bufferedDataLength := 0
  expectedDataLength := 0

def SocketDataBufferInfo.Idle (info : SocketDataBufferInfo) : Prop :=
  info.expectedDataLength = 0 ∧ info.bufferedDataLength = 0

instance (info : SocketDataBufferInfo) : Decidable info.Idle := inferInstanceAs (Decidable (_ ∧ _))

inductive Branch
  | tooSmall
  | badSize
  | buffer
  | deliver
  | badPacket
  | cache
  | deliverCached
  | badFragment
  | badStream
  deriving DecidableEq, Repr

/-- The error branches report and leave the loop. -/
def Branch.breaks : Branch → Bool
  | tooSmall | badSize | badPacket | badFragment | badStream => true
  | _ => false

/-- What an iteration touches: a byte of the chunk, a run of bytes copied out
of the chunk, or a copy into bufferedData. `unread` counts the bytes of the
chunk from dataPtr on. -/
inductive Access
  | read (index unread : Int)
  | copyFrom (count unread : Int)
  | copyTo (start stop : Int)
  deriving DecidableEq, Repr

structure LoopState where
  dataPtr : List UInt8
  readLen : Int
  dataInfo : SocketDataBufferInfo

structure Iteration where
  branch : Branch
  next : LoopState
  delivered : Option (List UInt8)
  accesses : List Access

/-- The byte at a pointer. The chunk has no bytes outside it; the accesses of
an iteration record that none is asked for. -/
def byteAt (ptr : List UInt8) (index : Int) : UInt8 := ptr.getD index.toNat 0

def continueMessage (s : LoopState) : Iteration :=
  let info := s.dataInfo
  let cachedPtr := info.bufferedDataLength
  if info.expectedDataLength > s.readLen - 1 then
    { branch := .cache
      next := ⟨s.dataPtr, 0,
        ⟨info.bufferedData.memcpy cachedPtr.toNat (s.dataPtr.take s.readLen.toNat),
          info.expectedDataLength - s.readLen, info.bufferedDataLength + s.readLen⟩⟩
      delivered := none
      accesses := [.copyFrom s.readLen s.readLen, .copyTo cachedPtr (cachedPtr + s.readLen)] }
  else if byteAt s.dataPtr info.expectedDataLength = msgEnd then
    let bufferedData := info.bufferedData.memcpy cachedPtr.toNat
      (s.dataPtr.take info.expectedDataLength.toNat)
    let readLen := s.readLen - (info.expectedDataLength + 1)
    { branch := .deliverCached
      next :=
        ⟨if readLen > 0 then s.dataPtr.drop (info.expectedDataLength + 1).toNat else s.dataPtr,
          readLen, ⟨bufferedData, 0, 0⟩⟩
      delivered := some (bufferedData.bytes.take
        (info.bufferedDataLength + info.expectedDataLength).toNat)
      accesses := [.read info.expectedDataLength s.readLen,
        .copyFrom info.expectedDataLength s.readLen,
        .copyTo cachedPtr (cachedPtr + info.expectedDataLength)] }
  else
    { branch := .badFragment
      next := ⟨s.dataPtr, s.readLen, ⟨info.bufferedData, 0, 0⟩⟩
      delivered := none
      accesses := [.read info.expectedDataLength s.readLen] }

def newMessage (bigEndian : Bool) (s : LoopState) : Iteration :=
  let info := s.dataInfo
  if s.readLen < 4 then
    { branch := .tooSmall, next := s, delivered := none, accesses := [] }
  else
    let dataCount := shortValue bigEndian ((s.dataPtr.drop 1).take 2)
    let dataPtr := s.dataPtr.drop 3
    let readLen := s.readLen - 3
    let header := [Access.read 1 s.readLen, .read 2 s.readLen]
    if dataCount < 0 ∨ dataCount > msgBufferSize then
      { branch := .badSize, next := ⟨dataPtr, readLen, info⟩, delivered := none,
        accesses := header }
    else if dataCount > readLen - 1 then
      { branch := .buffer
        next := ⟨dataPtr, 0, ⟨info.bufferedData.memcpy 0 (dataPtr.take readLen.toNat),
          dataCount - readLen, readLen⟩⟩
        delivered := none
        accesses := header ++ [.copyFrom readLen readLen, .copyTo 0 readLen] }
    else if byteAt dataPtr dataCount = msgEnd then
      { branch := .deliver
        next := ⟨dataPtr.drop (dataCount + 1).toNat, readLen - (dataCount + 1), info⟩
        delivered := some (dataPtr.take dataCount.toNat)
        accesses := header ++ [.read dataCount readLen] }
    else
      { branch := .badPacket, next := ⟨dataPtr, readLen, info⟩, delivered := none,
        accesses := header ++ [.read dataCount readLen] }

/-- One pass of the body of the do-while loop of processIncomingData. -/
def iteration (bigEndian : Bool) (s : LoopState) : Iteration :=
  let it :=
    if byteAt s.dataPtr 0 = msgInit ∧ s.dataInfo.expectedDataLength = 0 then
      newMessage bigEndian s
    else if s.dataInfo.expectedDataLength > 0 then continueMessage s
    else
      { branch := .badStream
        next := ⟨s.dataPtr, s.readLen, ⟨s.dataInfo.bufferedData, 0, 0⟩⟩
        delivered := none
        accesses := [] }
  { it with accesses := .read 0 s.readLen :: it.accesses }

/-- The do-while loop. No value means that the fuel ran out before the loop
came to its end. -/
def loop (bigEndian : Bool) : Nat → LoopState → Option (List Iteration × SocketDataBufferInfo)
  | 0, _ => none
  | fuel + 1, s =>
      let it := iteration bigEndian s
      if it.branch.breaks = false ∧ it.next.readLen > 0 then do
        let (its, info) ← loop bigEndian fuel it.next
        some (it :: its, info)
      else some ([it], it.next.dataInfo)

/-- What processIncomingData does with the bytes of one read. -/
def processRead (bigEndian : Bool) (info : SocketDataBufferInfo) (chunk : List UInt8) :
    Option (List Iteration × SocketDataBufferInfo) :=
  loop bigEndian chunk.length ⟨chunk, chunk.length, info⟩

def processReads (bigEndian : Bool) :
    SocketDataBufferInfo → List (List UInt8) → Option (List Iteration × SocketDataBufferInfo)
  | info, [] => some ([], info)
  | info, chunk :: chunks => do
      let (its, info) ← processRead bigEndian info chunk
      let (its', info) ← processReads bigEndian info chunks
      some (its ++ its', info)

def deliveries (trace : List Iteration) : List (List UInt8) := trace.filterMap (·.delivered)

/-- The reads hand exactly these payloads on and leave the connection idle. -/
def Reassembles (bigEndian : Bool) (info : SocketDataBufferInfo) (payloads chunks : List (List UInt8)) :
    Prop :=
  ∃ r ∈ processReads bigEndian info chunks, deliveries r.1 = payloads ∧ r.2.Idle

instance (bigEndian : Bool) (info : SocketDataBufferInfo) (payloads chunks : List (List UInt8)) :
    Decidable (Reassembles bigEndian info payloads chunks) :=
  inferInstanceAs (Decidable (∃ r ∈ processReads bigEndian info chunks, _))

/-- The lengths that the loop keeps: what is cached and what is missing of the
message fit the buffer together. -/
def SocketDataBufferInfo.WithinBuffer (info : SocketDataBufferInfo) : Prop :=
  0 ≤ info.bufferedDataLength ∧ 0 ≤ info.expectedDataLength ∧
    info.bufferedDataLength + info.expectedDataLength ≤ msgBufferSize

def Access.InBounds : Access → Prop
  | read index unread => 0 ≤ index ∧ index < unread
  | copyFrom count unread => 0 ≤ count ∧ count ≤ unread
  | copyTo start stop => 0 ≤ start ∧ start ≤ stop ∧ stop ≤ msgBufferSize

structure LoopState.Sound (s : LoopState) : Prop where
  unread : (s.dataPtr.length : Int) = s.readLen
  positive : 0 < s.readLen
  lengths : s.dataInfo.WithinBuffer

end PyConnect.Reassembly

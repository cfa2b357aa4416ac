import PyConnect.ObjComm
import PyConnect.Stub
import Mathlib.Logic.Relation

namespace PyConnect.NetComm

open Common ObjComm Stub

/-- One end of a connection: not accepted yet, in the client list under its
descriptor, or closed. -/
inductive Socket
  | backlog
  | client (fd : Int)
  | closed
  deriving DecidableEq, Repr

/-- The two ends of a TCP connection, and the messages on their way to each,
oldest first. -/
structure Connection where
  sockets : Side → Socket
  inbox : Side → List (List UInt8)

/-- One of the two programs, with the messages that it has handed over for a
connection and those that it has processed so far. -/
structure Party (σ : Type) where
  comm : ObjectComm
  program : σ
  sent : List (List UInt8)
  processed : List (List UInt8)

/-- `air` keeps every UDP packet: it may be delivered at any time, any number
of times or never. -/
structure Network (σ : Side → Type) where
  parties : (side : Side) → Party (σ side)
  conns : Nat → Option Connection
  air : List (List UInt8)

structure Reaction (σ : Type) where
  program : σ
  result : MesgProcessResult
  dispatches : List (List UInt8 × Bool)

/-- The message processors of the two programs, what they announce by
broadcast, and their TCP ports in network order. There is no reaction where
the language leaves undefined what the code does. -/
structure Programs (σ : Side → Type) where
  processInput : (side : Side) → σ side → SockAddr → List UInt8 → Option (Reaction (σ side))
  announcements : (side : Side) → σ side → List (List UInt8)
  port : Side → UInt8 × UInt8

variable {σ : Side → Type}

def Connection.fresh : Connection := ⟨fun _ => .backlog, fun _ => []⟩

def Connection.write (k : Connection) (side : Side) (data : List UInt8) : Connection :=
  { k with inbox := Function.update k.inbox side.other (k.inbox side.other ++ [data]) }

def Connection.setSocket (k : Connection) (side : Side) (socket : Socket) : Connection :=
  { k with sockets := Function.update k.sockets side socket }

def Connection.setInbox (k : Connection) (side : Side) (inbox : List (List UInt8)) : Connection :=
  { k with inbox := Function.update k.inbox side inbox }

def Network.withParty (N : Network σ) (side : Side) (p : Party (σ side)) : Network σ :=
  { N with parties := Function.update N.parties side p }

def Network.withComm (N : Network σ) (side : Side) (comm : ObjectComm) : Network σ :=
  N.withParty side { N.parties side with comm := comm }

def Network.withConn (N : Network σ) (c : Nat) (k : Connection) : Network σ :=
  { N with conns := Function.update N.conns c (some k) }

/-- What a call on a descriptor does to the connection behind it. -/
def Network.onSocket (N : Network σ) (side : Side) (fd : Int) (f : Connection → Connection) :
    Network σ :=
  { N with
    conns := fun c => (N.conns c).map fun k => if k.sockets side = .client fd then f k else k }

/-- A message travels whole; one that does not fit the buffers has no state behind it in
ByteNetwork. -/
def clientDataSend (N : Network σ) (side : Side) (data : List UInt8) : Network σ :=
  let p := N.parties side
  let (comm, mysock) := findOrAddCommChanByMsgID side p.comm data
  let N := N.withParty side { p with comm := comm, sent := p.sent ++ [data] }
  if mysock = invalidSocket then N else N.onSocket side mysock (·.write side data)

def verifyNegotiationMsg (recBuffer : List UInt8) : Option PyConnectMsg :=
  if recBuffer.getLast? = some msgEnd then PyConnectMsg.ofCode (msgTypeOf (recBuffer.headD 0))
  else none

/-- Discoveries and declarations are broadcast with the TCP port before their
end marker. -/
def broadcastForm (P : Programs σ) (side : Side) (data : List UInt8) : List UInt8 :=
  if verifyNegotiationMsg data = some .moduleDiscovery ∨
      verifyNegotiationMsg data = some .moduleDeclare then
    data.dropLast ++ [(P.port side).1, (P.port side).2, msgEnd]
  else data

def dataPacketSender (P : Programs σ) (N : Network σ) (side : Side) (data : List UInt8)
    (broadcast : Bool) : Network σ :=
  if broadcast then { N with air := N.air ++ [broadcastForm P side data] }
  else clientDataSend N side data

/-- A message is processed and what it makes the program dispatch is sent. -/
def deliver (P : Programs σ) (N : Network σ) (side : Side) (cAddr : SockAddr)
    (message : List UInt8) : Option (Network σ × MesgProcessResult) :=
  let p := N.parties side
  (P.processInput side p.program cAddr message).map fun r =>
    (r.dispatches.foldl (fun N x => dataPacketSender P N side x.1 x.2)
      (N.withParty side { p with program := r.program, processed := p.processed ++ [message] }),
      r.result)

def addFdToClientList (N : Network σ) (side : Side) (c : Nat) (k : Connection) (fd : Int) :
    Network σ :=
  (N.withConn c (k.setSocket side (.client fd))).withComm side
    (setLastUsedCommChannel (N.parties side).comm fd)

/-- `c` is the connection that the connect call makes. -/
def createTCPTalker (N : Network σ) (side : Side) (c : Nat) (fd : Int) : Network σ :=
  addFdToClientList N side c .fresh fd

def channelShutdown (P : Programs σ) (N : Network σ) (side : Side) (cAddr : SockAddr) (fd : Int)
    (notifyMesgProc : Bool) : Network σ :=
  let p := N.parties side
  let (comm, program) := objCommChannelShutdown side
    (fun st data => ((P.processInput side st cAddr data).map (·.program)).getD st)
    p.comm p.program fd notifyMesgProc
  N.withParty side { p with comm := comm, program := program }

def destroyCurrentClient (N : Network σ) (side : Side) (fd : Int) : Network σ :=
  N.onSocket side fd (·.setSocket side .closed)

def rejectTalker (P : Programs σ) (N : Network σ) (side : Side) (cAddr : SockAddr) : Network σ :=
  let (comm, fd) := getLastUsedCommChannel (N.parties side).comm
  destroyCurrentClient (channelShutdown P (N.withComm side comm) side cAddr fd false) side fd

/-- The announcements of the other program; its own are ignored. -/
def opensTalker : Side → Option PyConnectMsg → Bool
  | .server, t => t = some .moduleDeclare || t = some .peerServerDiscovery
  | .wrapper, t => t = some .moduleDiscovery

def restoreMessage (recBuffer : List UInt8) : List UInt8 :=
  recBuffer.take (recBuffer.length - 3) ++ [msgEnd]

def processUDPInput (P : Programs σ) (N : Network σ) (side : Side) (c : Nat) (fd : Int)
    (cAddr : SockAddr) (recBuffer : List UInt8) : Option (Network σ) :=
  if opensTalker side (verifyNegotiationMsg recBuffer) then
    if recBuffer.length < 3 then none
    else (deliver P (createTCPTalker N side c fd) side cAddr (restoreMessage recBuffer)).map fun r =>
      if r.2 = .toShutdown then rejectTalker P r.1 side cAddr else r.1
  else some N

/-- The messages of one read, one after the other; a connection stays open
whatever their results. -/
def processMessages (P : Programs σ) (side : Side) (c : Nat) (cAddr : SockAddr) :
    Nat → Network σ → Option (Network σ)
  | 0, N => some N
  | n + 1, N =>
      match N.conns c with
      | none => none
      | some k =>
          match k.inbox side with
          | [] => none
          | message :: inbox =>
              match deliver P (N.withConn c (k.setInbox side inbox)) side cAddr message with
              | none => none
              | some r => processMessages P side c cAddr n r.1

def Unused (N : Network σ) (side : Side) (fd : Int) : Prop :=
  0 ≤ fd ∧ ∀ c k, N.conns c = some k → k.sockets side ≠ .client fd

/-- One step: a broadcast, or one round of a program's loop on one of its
sockets. A read takes some of the messages that are there, or none of them
whole. -/
inductive Step (P : Programs σ) : Network σ → Network σ → Prop
  | broadcast (N : Network σ) (side : Side) (data : List UInt8) :
      data ∈ P.announcements side (N.parties side).program →
      Step P N (dataPacketSender P N side data true)
  | datagram (N N' : Network σ) (side : Side) (c : Nat) (fd : Int) (cAddr : SockAddr)
      (recBuffer : List UInt8) : recBuffer ∈ N.air → N.conns c = none → Unused N side fd →
      processUDPInput P N side c fd cAddr recBuffer = some N' → Step P N N'
  | accept (N : Network σ) (side : Side) (c : Nat) (k : Connection) (fd : Int) :
      N.conns c = some k → k.sockets side = .backlog → Unused N side fd →
      Step P N (addFdToClientList N side c k fd)
  | read (N N' : Network σ) (side : Side) (c : Nat) (k : Connection) (fd : Int) (cAddr : SockAddr)
      (n : Nat) : N.conns c = some k → k.sockets side = .client fd → k.inbox side ≠ [] →
      processMessages P side c cAddr n
        (N.withComm side (setLastUsedCommChannel (N.parties side).comm fd)) = some N' →
      Step P N N'
  | eof (N : Network σ) (side : Side) (c : Nat) (k : Connection) (fd : Int) (cAddr : SockAddr) :
      N.conns c = some k → k.sockets side = .client fd →
      k.sockets side.other = .closed → k.inbox side = [] →
      Step P N (destroyCurrentClient (channelShutdown P N side cAddr fd true) side fd)

end PyConnect.NetComm

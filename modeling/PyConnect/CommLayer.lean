import PyConnect.NetComm
import PyConnect.Reassembly
import PyConnect.Maps

namespace PyConnect.CommLayer

open Bytes Common ObjComm Stub NetComm Reassembly

/-- An entry of clientFDList_. -/
structure ClientFD where
  fd : Int
  cAddr : SockAddr
  dataInfo : SocketDataBufferInfo

/-- A program with its comm layer. `written` keeps every message that it has
written, with the descriptor. -/
structure PyConnectNetComm (σ : Type) where
  comm : ObjectComm
  clientFDList : List ClientFD
  program : σ
  written : List (Int × List UInt8)

/-- What a comm layer is built with. There is no reaction where the language
leaves undefined what the code does. -/
structure Processor (σ : Type) where
  side : Side
  bigEndian : Bool
  decrypt : List UInt8 → Option (List UInt8)
  processInput : σ → List UInt8 → SockAddr → Bool → Option (Reaction σ)

/-- A descriptor as the system hands it out, and its new buffer. -/
structure Opened where
  fd : Int
  bufferedData : DataBuffer

variable {σ : Type} {P : Processor σ} {L L' : PyConnectNetComm σ}

/-- The address of a message that stands in for a lost peer's. -/
def dummyAddr : SockAddr := ⟨false, 0, [0, 0, 0, 0]⟩

/-- The address of a datagram, with the port that its message carries. -/
def talkerAddr (bigEndian : Bool) (cAddr : SockAddr) (message : List UInt8) : SockAddr :=
  { cAddr with port := hostValue bigEndian ((message.drop (message.length - 3)).take 2) }

def clientDataSend (P : Processor σ) (L : PyConnectNetComm σ) (data : List UInt8) : PyConnectNetComm σ :=
  let (comm, mysock) := findOrAddCommChanByMsgID P.side L.comm data
  if mysock = invalidSocket then { L with comm := comm }
  else { L with comm := comm, written := L.written ++ [(mysock, data)] }

/-- A broadcast goes to no connection. -/
def dataPacketSender (P : Processor σ) (L : PyConnectNetComm σ) (data : List UInt8) (broadcast : Bool) :
    PyConnectNetComm σ :=
  if broadcast then L else clientDataSend P L data

def input (P : Processor σ) (L : PyConnectNetComm σ) (cAddr : SockAddr) (recData : List UInt8)
    (skipdecrypt : Bool) : Option (PyConnectNetComm σ × MesgProcessResult) :=
  (P.processInput L.program recData cAddr skipdecrypt).map fun r =>
    (r.dispatches.foldl (fun L x => dataPacketSender P L x.1 x.2) { L with program := r.program },
      r.result)

def inputs (P : Processor σ) (cAddr : SockAddr) :
    List (List UInt8) → PyConnectNetComm σ → Option (PyConnectNetComm σ × List MesgProcessResult)
  | [], L => some (L, [])
  | recData :: rest, L => do
      let (L, result) ← input P L cAddr recData false
      let (L, results) ← inputs P cAddr rest L
      some (L, result :: results)

def addFdToClientList (L : PyConnectNetComm σ) (o : Opened) (cAddr : SockAddr) : PyConnectNetComm σ :=
  { L with
    clientFDList := L.clientFDList ++ [⟨o.fd, cAddr, Reassembly.addFdToClientList o.bufferedData⟩]
    comm := setLastUsedCommChannel L.comm o.fd }

/-- The message that it makes up is processed as a decrypted one; what it makes
the program dispatch is nothing. -/
def channelShutdown (P : Processor σ) (L : PyConnectNetComm σ) (fd : Int) (notifyMesgProc : Bool) :
    PyConnectNetComm σ :=
  let (comm, program) := objCommChannelShutdown P.side
    (fun st data => ((P.processInput st data dummyAddr true).map (·.program)).getD st)
    L.comm L.program fd notifyMesgProc
  { L with comm := comm, program := program }

def destroyCurrentClient (L : PyConnectNetComm σ) (fd : Int) : PyConnectNetComm σ :=
  { L with clientFDList := L.clientFDList.eraseP (·.fd = fd) }

/-- What processIncomingData does with the bytes that a descriptor has. It
keeps no result of processInput: `procResult` stays what it was set to before
the loop. The results are recorded beside the state. -/
def processIncomingData (P : Processor σ) (L : PyConnectNetComm σ) (fd : Int) (chunk : List UInt8) :
    Option (PyConnectNetComm σ × List MesgProcessResult) := do
  let client ← L.clientFDList.find? (·.fd = fd)
  let (its, info) ← processRead P.bigEndian client.dataInfo chunk
  let procResult : MesgProcessResult := .processedOk
  let clientFDList := L.clientFDList.map fun x => if x.fd = fd then { x with dataInfo := info } else x
  let (L, results) ← inputs P client.cAddr (deliveries its)
    { L with comm := setLastUsedCommChannel L.comm fd, clientFDList := clientFDList }
  some (if procResult = .toShutdown then destroyCurrentClient (channelShutdown P L fd false) fd else L,
    results)

def socketClosed (P : Processor σ) (L : PyConnectNetComm σ) (fd : Int) : PyConnectNetComm σ :=
  destroyCurrentClient (channelShutdown P L fd true) fd

def talkerInput (P : Processor σ) (L : PyConnectNetComm σ) (cAddr : SockAddr) (message : List UInt8) :
    Option (PyConnectNetComm σ × MesgProcessResult) := do
  let (L, procResult) ← input P L cAddr message true
  if procResult = .toShutdown then
    let (comm, fd) := getLastUsedCommChannel L.comm
    some (destroyCurrentClient (channelShutdown P { L with comm := comm } fd false) fd, procResult)
  else some (L, procResult)

/-- processUDPInput, where `talker` is the connection that it can make, if any.
The results are those for a message that has one. -/
def processUDPInput (P : Processor σ) (L : PyConnectNetComm σ) (talker : Option Opened) (cAddr : SockAddr)
    (recBuffer : List UInt8) : Option (PyConnectNetComm σ × List MesgProcessResult) :=
  match P.decrypt recBuffer with
  | none => some (L, [])
  | some message =>
      if P.side = .server ∧ verifyNegotiationMsg message = some .peerServerMsg then
        -- decryptMessage clears the buffer that the decrypted message lies in
        (input P L cAddr (List.replicate message.length 0) false).map fun r => (r.1, [])
      else if opensTalker P.side (verifyNegotiationMsg message) then
        if message.length < 3 then none
        else match talker with
          | none => some (L, [])
          | some o =>
              let cAddr := talkerAddr P.bigEndian cAddr message
              (talkerInput P (addFdToClientList L o cAddr) cAddr (restoreMessage message)).map
                fun r => (r.1, [r.2])
      else some (L, [])

def Unused (L : PyConnectNetComm σ) (fd : Int) : Prop := 0 ≤ fd ∧ ∀ client ∈ L.clientFDList, client.fd ≠ fd

instance (L : PyConnectNetComm σ) (fd : Int) : Decidable (Unused L fd) := inferInstanceAs (Decidable (_ ∧ _))

@[simp] theorem clientFDList_dataPacketSender (data : List UInt8) (broadcast : Bool) :
    (dataPacketSender P L data broadcast).clientFDList = L.clientFDList := by
  rw [dataPacketSender]
  split
  · rfl
  · rw [clientDataSend]
    dsimp only
    split <;> rfl

@[simp] theorem program_dataPacketSender (data : List UInt8) (broadcast : Bool) :
    (dataPacketSender P L data broadcast).program = L.program := by
  rw [dataPacketSender]
  split
  · rfl
  · rw [clientDataSend]
    dsimp only
    split <;> rfl

theorem program_dispatches (dispatches : List (List UInt8 × Bool)) :
    (dispatches.foldl (fun L x => dataPacketSender P L x.1 x.2) L).program = L.program := by
  induction dispatches generalizing L with
  | nil => rfl
  | cons x dispatches ih => rw [List.foldl_cons, ih, program_dataPacketSender]

theorem clientFDList_dispatches (dispatches : List (List UInt8 × Bool)) :
    (dispatches.foldl (fun L x => dataPacketSender P L x.1 x.2) L).clientFDList = L.clientFDList := by
  induction dispatches generalizing L with
  | nil => rfl
  | cons x dispatches ih => rw [List.foldl_cons, ih, clientFDList_dataPacketSender]

theorem clientFDList_input {cAddr : SockAddr} {recData : List UInt8} {skipdecrypt : Bool}
    {result : MesgProcessResult} (h : input P L cAddr recData skipdecrypt = some (L', result)) :
    L'.clientFDList = L.clientFDList := by
  obtain ⟨r, -, hr⟩ := Option.map_eq_some_iff.mp h
  obtain rfl := congrArg Prod.fst hr
  exact clientFDList_dispatches _

theorem inputs_cons {cAddr : SockAddr} {recData : List UInt8} {rest : List (List UInt8)}
    {results : List MesgProcessResult}
    (h : inputs P cAddr (recData :: rest) L = some (L', results)) :
    ∃ L₁ result results', input P L cAddr recData false = some (L₁, result) ∧
      inputs P cAddr rest L₁ = some (L', results') ∧ results = result :: results' := by
  simp only [inputs, Option.bind_eq_bind, Option.bind_eq_some_iff, Prod.exists] at h
  obtain ⟨L₁, result, h₁, L₂, results', h₂, he⟩ := h
  obtain ⟨rfl, rfl⟩ := Prod.mk.inj (Option.some.inj he)
  exact ⟨L₁, result, results', h₁, h₂, rfl⟩

theorem clientFDList_inputs {cAddr : SockAddr} {rest : List (List UInt8)}
    {results : List MesgProcessResult} (h : inputs P cAddr rest L = some (L', results)) :
    L'.clientFDList = L.clientFDList := by
  induction rest generalizing L results with
  | nil =>
      obtain ⟨rfl, -⟩ := Prod.mk.inj (Option.some.inj h)
      rfl
  | cons recData rest ih =>
      obtain ⟨L₁, result, results', h₁, h₂, -⟩ := inputs_cons h
      exact (ih h₂).trans (clientFDList_input h₁)

/-- What the code of processIncomingData comes to: the messages of the read are
processed one by one, and the connection stays. -/
theorem of_processIncomingData {fd : Int} {chunk : List UInt8} {results : List MesgProcessResult}
    (h : processIncomingData P L fd chunk = some (L', results)) :
    ∃ client its info clientFDList, L.clientFDList.find? (·.fd = fd) = some client ∧
      processRead P.bigEndian client.dataInfo chunk = some (its, info) ∧
      clientFDList.map (·.fd) = L.clientFDList.map (·.fd) ∧
      inputs P client.cAddr (deliveries its)
        { L with comm := setLastUsedCommChannel L.comm fd, clientFDList := clientFDList } =
          some (L', results) := by
  simp only [processIncomingData, Option.bind_eq_bind, Option.bind_eq_some_iff, Prod.exists] at h
  obtain ⟨client, hclient, its, info, hread, L₁, results', hin, he⟩ := h
  rw [if_neg (by decide)] at he
  obtain ⟨rfl, rfl⟩ := Prod.mk.inj (Option.some.inj he)
  refine ⟨client, its, info, _, hclient, hread, ?_, hin⟩
  rw [List.map_map]
  refine List.map_congr_left fun x _ => ?_
  rw [Function.comp_apply]
  split <;> rfl

end PyConnect.CommLayer

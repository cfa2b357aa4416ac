import PyConnect.Values

namespace PyConnect.Wrapper

open Bytes Decoding Common Values

structure Argument where
  type : PyConnectType
  isOptional : Bool
  deriving DecidableEq, Repr

/-- An attribute of the module's object: `value` is the member that the
generated accessors read and write. -/
structure Attribute where
  desc : List UInt8
  value : Value
  isWritable : Bool
  deriving DecidableEq, Repr

/-- getVarType of the member. -/
def Attribute.type (attr : Attribute) : PyConnectType := attr.value.dataType.pyType

inductive MethodResult
  | returns (v : Value)
  | returnsVoid
  | throws
  deriving DecidableEq, Repr

/-- A method: what addNewMethod is told about it, and the C++ function behind
its generated accessor. The function's own parameter types, not `args`, say
how a call is read. -/
structure Method where
  desc : List UInt8
  type : PyConnectType
  args : List Argument
  params : List DataType
  isVoid : Bool
  body : List Value → MethodResult

abbrev Attributes := Std.ExtTreeMap (List UInt8) Attribute

abbrev Methods := Std.ExtTreeMap (List UInt8) Method

structure PyConnectModule where
  name : List UInt8
  desc : List UInt8
  attributes : Attributes
  methods : Methods

structure ServerInfo where
  assignedModuleID : Int
  attributeUpdate : Bool
  deriving DecidableEq, Repr

structure PyConnectWrapper where
  pyConnectModule : Option PyConnectModule
  serverMap : Std.ExtTreeMap Int ServerInfo
  noResponse : Bool

/-- What a build of the module's program fixes. Only a clang build declares
that it evaluates arguments from the left. -/
structure Build where
  host : Host
  clang : Bool
  evalLeftToRight : Bool

/-- What the wrapper does to the world. `stray` is what the language leaves
undefined: a use of an iterator or a pointer that points nowhere, or a size
beyond an int. -/
inductive Effect
  | dispatch (data : List UInt8) (broadcast : Bool)
  | onClientConnected (clientid : Int)
  | onClientDisconnected (clientid : Int)
  | invoke (name : List UInt8) (args : List Value)
  | stray
  deriving DecidableEq, Repr

/-- PyConnectWrapper::init with the module of EXPORT_PYCONNECT_MODULE. -/
def init (name desc : List UInt8) : PyConnectWrapper where
  pyConnectModule := some ⟨name, desc, ∅, ∅⟩
  serverMap := ∅
  noResponse := false

def PyConnectModule.addNewAttribute (m : PyConnectModule) (attrName desc : List UInt8)
    (value : Value) (isWritable : Bool) : PyConnectModule :=
  let name := cString attrName
  if name.length > 255 then m
  else if name ∈ m.attributes then m
  else { m with attributes := m.attributes.insert name ⟨cString desc, value, isWritable⟩ }

def PyConnectModule.addNewMethod (m : PyConnectModule) (metdName desc : List UInt8)
    (type : PyConnectType) (params : List DataType) (isVoid : Bool)
    (body : List Value → MethodResult) (args : List Argument) : PyConnectModule :=
  let name := cString metdName
  if name.length > 255 then m
  else if name ∈ m.methods then m
  else { m with methods := m.methods.insert name ⟨cString desc, type, args, params, isVoid, body⟩ }

/-- EXPORT_PYCONNECT_METHOD: everything is taken from the function's type. -/
def PyConnectModule.exportMethod (m : PyConnectModule) (metdName desc : List UInt8)
    (params : List DataType) (returnType : Option DataType) (body : List Value → MethodResult) :
    PyConnectModule :=
  m.addNewMethod metdName desc (returnType.elim .pyVoid DataType.pyType) params returnType.isNone
    body (params.map fun t => ⟨t.pyType, false⟩)

/-- The first byte of a description of an attribute or an argument. -/
def typeByte (flag : Bool) (type : PyConnectType) : UInt8 :=
  UInt8.ofNat ((if flag then 1 else 0) <<< 6 ||| (type.code &&& 0x3f))

/-- `serverMap_[serverId]`, which makes an entry where there is none. -/
def PyConnectWrapper.serverEntry (w : PyConnectWrapper) (serverId : Int) :
    PyConnectWrapper × ServerInfo :=
  match w.serverMap[serverId]? with
  | some info => (w, info)
  | none => ({ w with serverMap := w.serverMap.insert serverId ⟨0, false⟩ }, ⟨0, false⟩)

def send (p : Packet) (toBroadcast : Bool) : Effect :=
  if p.totalMsgSize < 2 ^ 31 then .dispatch p.data toBroadcast else .stray

theorem send_eq {p : Packet} (hp : p.totalMsgSize < 2 ^ 31) (toBroadcast : Bool) :
    send p toBroadcast = .dispatch p.data toBroadcast := if_pos hp

theorem data_of_mem_send {p : Packet} {data : List UInt8} {toBroadcast broadcast : Bool}
    (h : .dispatch data broadcast ∈ [send p toBroadcast]) : data = p.data := by
  rw [List.mem_singleton, send] at h
  split at h
  · exact (Effect.dispatch.inj h).1
  · cases h

theorem serverEntry_eq {w : PyConnectWrapper} {serverId : Int} {info : ServerInfo}
    (h : w.serverMap[serverId]? = some info) : w.serverEntry serverId = (w, info) := by
  rw [PyConnectWrapper.serverEntry, h]

def declarePacket (b : Build) (m : PyConnectModule) (serverId : Int) : Packet where
  written := header .moduleDeclare serverId :: (if b.clang then 1 else 0) ::
    (packString m.name false ++ packString m.desc true ++ [msgEnd])
  totalMsgSize := 4 + (m.name.length + m.desc.length + packedIntLen m.desc.length)

def declarePyConnectModule (b : Build) (w : PyConnectWrapper) (serverId : Int)
    (toBroadcast : Bool) : List Effect :=
  match w.pyConnectModule with
  | none => []
  | some m => [send (declarePacket b m serverId) toBroadcast]

def packAttribute (host : Host) (x : List UInt8 × Attribute) : List UInt8 :=
  let raw := packRawAttrData host x.2.value
  typeByte x.2.isWritable x.2.type ::
    (packString x.1 false ++ raw.written.take raw.dataLength.toNat)

def packMethod (x : List UInt8 × Method) : List UInt8 :=
  UInt8.ofNat (x.2.type.code &&& 0x3f) ::
    (packString x.1 false ++ UInt8.ofNat x.2.args.length ::
      x.2.args.map fun arg => typeByte arg.isOptional arg.type)

def attrMetdPacket (host : Host) (m : PyConnectModule) (serverId moduleId : Int) : Packet where
  written := header .attrMetdExpose serverId :: toByte moduleId ::
    (packIntToStr m.attributes.size ++ m.attributes.toList.flatMap (packAttribute host) ++
      (packIntToStr m.methods.size ++ m.methods.toList.flatMap packMethod) ++ [msgEnd])
  totalMsgSize :=
    let attrlens := (m.attributes.toList.map fun x => (x.1.length : Int)).sum
    let attrValueLens := (m.attributes.toList.map fun x =>
      (packRawAttrData host x.2.value).dataLength).sum
    let metdlens := (m.methods.toList.map fun x => (x.1.length + x.2.args.length : Int)).sum
    let totalAttrSize := attrlens + attrValueLens + m.attributes.size * 2
    let totalMetdSize := metdlens + m.methods.size * 3
    3 + packedIntLen m.attributes.size + packedIntLen m.methods.size + totalAttrSize + totalMetdSize

def declareModuleAttrMetd (b : Build) (w : PyConnectWrapper) (serverId : Int) :
    PyConnectWrapper × List Effect :=
  match w.pyConnectModule with
  | none => (w, [])
  | some m =>
      let (w, info) := w.serverEntry serverId
      (w, [send (attrMetdPacket b.host m serverId info.assignedModuleID) false])

def attrMetdDescPacket (m : PyConnectModule) (serverId moduleId : Int) : Packet where
  written := header .attrMetdDesc serverId :: toByte moduleId ::
    (packIntToStr m.attributes.size ++
      (m.attributes.toList.flatMap fun x => packString x.2.desc true) ++
      (packIntToStr m.methods.size ++
        m.methods.toList.flatMap fun x => packString x.2.desc true) ++ [msgEnd])
  totalMsgSize :=
    let totalAttrSize := (m.attributes.toList.map fun x =>
      x.2.desc.length + packedIntLen x.2.desc.length).sum
    let totalMetdSize := (m.methods.toList.map fun x =>
      x.2.desc.length + packedIntLen x.2.desc.length).sum
    3 + packedIntLen m.attributes.size + packedIntLen m.methods.size + totalAttrSize + totalMetdSize

def declareModuleAttrMetdDesc (w : PyConnectWrapper) (serverId : Int) :
    PyConnectWrapper × List Effect :=
  match w.pyConnectModule with
  | none => (w, [])
  | some m =>
      let (w, info) := w.serverEntry serverId
      (w, [send (attrMetdDescPacket m serverId info.assignedModuleID) false])

def responsePacket (host : Host) (msgType : PyConnectMsg) (serverId moduleId err index length : Int)
    (data : List UInt8) : Packet where
  written := header msgType serverId :: toByte moduleId :: toByte err ::
    (packLEInt host.bigEndian (length + packedIntLen index) ++ packIntToStr index ++
      data.take length.toNat ++ [msgEnd])
  totalMsgSize := 4 + 4 + (length + packedIntLen index)

def sendAttrMetdResponse (b : Build) (w : PyConnectWrapper) (err index length : Int)
    (data : List UInt8) (serverId : Int) (msgType : PyConnectMsg) :
    PyConnectWrapper × List Effect :=
  let (w, info) := w.serverEntry serverId
  (w, [send
    (responsePacket b.host msgType serverId info.assignedModuleID err index length data) false])

def postAttrMetdData (b : Build) (w : PyConnectWrapper) (amId : Int) (amValue : Value)
    (status : PyConnectMsgStatus) (serverId : Int) (msgType : PyConnectMsg) :
    PyConnectWrapper × List Effect :=
  let ret := setData b.host amValue status
  sendAttrMetdResponse b w ret.status.code amId ret.dataLength ret.written serverId msgType

/-- The distance from begin() to where find stops. -/
def distance {β : Type} (map : Std.ExtTreeMap (List UInt8) β) (name : List UInt8) : Nat :=
  map.keys.idxOf name

theorem distance_getElem {β : Type} {map : Std.ExtTreeMap (List UInt8) β} {i : Nat}
    {x : List UInt8 × β} (hi : map.toList[i]? = some x) : distance map x.1 = i := by
  have hk : map.keys[i]? = some x.1 := by
    rw [← Std.ExtTreeMap.map_fst_toList_eq_keys, List.getElem?_map, hi]
    rfl
  obtain ⟨hlt, he⟩ := List.getElem?_eq_some_iff.mp hk
  rw [distance, ← he]
  exact (Std.ExtTreeMap.nodup_keys (t := map)).idxOf_getElem i hlt

def updateServers (b : Build) (attrId : Int) (attrValue : Value) :
    List (Int × ServerInfo) → PyConnectWrapper → PyConnectWrapper × List Effect
  | [], w => (w, [])
  | x :: servers, w =>
      if x.2.attributeUpdate then
        let (w, sent) := postAttrMetdData b w attrId attrValue .noErrors x.1 .attrValueUpdate
        let (w, rest) := updateServers b attrId attrValue servers w
        (w, sent ++ rest)
      else updateServers b attrId attrValue servers w

def updateAttribute (b : Build) (w : PyConnectWrapper) (attrName : List UInt8) (attrValue : Value) :
    PyConnectWrapper × List Effect :=
  match w.pyConnectModule with
  | none => (w, [.stray])
  | some m =>
      if attrName ∈ m.attributes then
        updateServers b (distance m.attributes attrName) attrValue w.serverMap.toList w
      else (w, [])

/-- `this->NAME = value`. -/
def PyConnectModule.assign (m : PyConnectModule) (name : List UInt8) (value : Value) :
    PyConnectModule :=
  { m with attributes := m.attributes.modify name fun attr => { attr with value := value } }

/-- set_NAME_value: the assignment and PYCONNECT_ATTRIBUTE_UPDATE. -/
def setValue (b : Build) (w : PyConnectWrapper) (name : List UInt8) (value : Value) :
    PyConnectWrapper × List Effect :=
  updateAttribute b { w with pyConnectModule := w.pyConnectModule.map (·.assign name value) }
    name value

def moduleShutdown (w : PyConnectWrapper) : PyConnectWrapper × List Effect :=
  ({ w with serverMap := ∅, pyConnectModule := none },
    w.serverMap.toList.map fun x =>
      .dispatch [header .moduleShutdown x.1, toByte x.2.assignedModuleID, msgEnd] false)

end PyConnect.Wrapper

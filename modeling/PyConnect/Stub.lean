import PyConnect.Values

namespace PyConnect.Stub

open Bytes Decoding Common Values

/-- The bytes of a literal of the source. -/
def text (s : String) : List UInt8 := s.toList.map fun c => UInt8.ofNat c.toNat

/-- The name of a type in an error message. -/
def typeName : PyConnectType → List UInt8
  | .int => text "integer"
  | .float => text "float"
  | .double => text "double"
  | .string => text "string"
  | .bool => text "boolean"
  | .composite => text "composite object"
  | _ => text "unknown"

structure PyConnectArgument where
  type : PyConnectType
  isOptional : Bool
  deriving DecidableEq, Repr

structure PyConnectAttribute where
  name : List UInt8
  type : PyConnectType
  readonly : Bool
  value : PyObject
  desc : List UInt8
  deriving DecidableEq, Repr

structure PyConnectMethod where
  name : List UInt8
  type : PyConnectType
  args : List PyConnectArgument
  optArgs : Nat
  id : Nat
  desc : List UInt8
  deriving DecidableEq, Repr

/-- A dictionary with text keys, in the order of insertion. -/
abbrev PyDict := List (List UInt8 × PyObject)

structure PyConnectObject where
  id : Int
  noCallback : Bool
  argEvalReversed : Bool
  name : List UInt8
  desc : List UInt8
  pPyAttrs : List PyConnectAttribute
  pPyMetds : List PyConnectMethod
  myDict : PyDict
  deriving DecidableEq, Repr

structure SockAddr where
  isInet : Bool
  port : Int
  ip : List UInt8
  deriving DecidableEq, Repr

/-- Whom invokeCallback looks the function up in. -/
inductive CallbackScope
  | mainScript
  | pyConnect
  | object (id : Int)
  deriving DecidableEq, Repr

/-- A function that invokeCallback calls, with its arguments. -/
structure Callback where
  fnName : List UInt8
  arg : List PyObject
  deriving DecidableEq, Repr

/-- What the server does to the world. `stray` is an index beyond the end of a
vector, or a size beyond an int. At a `crash` Python is given NULL for an object,
and the process ends: the state that comes with one is nobody's. -/
inductive Effect
  | dispatch (data : List UInt8) (broadcast : Bool)
  | invokeCallback (scope : CallbackScope) (fnName : List UInt8) (arg : List PyObject)
  | gilEnsure
  | gilRelease
  | stray
  | crash
  deriving DecidableEq, Repr

/-- The server. `pow` tells whether there is an output writer with a main
script, and `pyConnect` holds the attributes set on the extension module. -/
structure PyConnectStub where
  pow : Bool
  pyConnect : PyDict
  nextObjId : Int
  modules : List PyConnectObject
  serverID : Int
  deriving DecidableEq, Repr

/-- PyDict_SetItemString. A key that is not text raises and sets nothing. -/
def setItemString (dict : PyDict) (key : List UInt8) (value : PyObject) : PyDict :=
  if validUtf8 key then
    if dict.any (·.1 = key) then dict.map fun x => if x.1 = key then (key, value) else x
    else dict ++ [(key, value)]
  else dict

def delItemString (dict : PyDict) (key : List UInt8) : PyDict := dict.filter (·.1 ≠ key)

def getItemString (dict : PyDict) (key : List UInt8) : Option PyObject :=
  (dict.find? (·.1 = key)).map (·.2)

def PyConnectStub.scope (s : PyConnectStub) : CallbackScope :=
  if s.pow then .mainScript else .pyConnect

def PyConnectObject.create (name : List UInt8) (id : Int) (desc : Option (List UInt8))
    (options : UInt8) : PyConnectObject where
  id := id
  noCallback := false
  argEvalReversed := options = 1
  name := name
  desc := desc.getD (text "Undocumented PyConnect object")
  pPyAttrs := []
  pPyMetds := []
  myDict := setItemString (setItemString [] (text "id") (.int id)) (text "__name__")
    (unicodeFromString name)

def PyConnectObject.setNetworkAddress (obj : PyConnectObject) (cAddr : SockAddr) :
    PyConnectObject :=
  if cAddr.isInet then
    let myDict := setItemString obj.myDict (text "__port__") (.int cAddr.port)
    { obj with myDict := setItemString myDict (text "__ip__") (unicodeFromString cAddr.ip) }
  else obj

def PyConnectObject.addNewAttribute (obj : PyConnectObject) (name : List UInt8)
    (type : PyConnectType) (readOnly : Bool) (initValue : PyObject) : PyConnectObject :=
  { obj with
    pPyAttrs := obj.pPyAttrs ++ [⟨name, type, readOnly, initValue, []⟩]
    myDict := setItemString obj.myDict name initValue }

def PyConnectObject.addNewMethod (obj : PyConnectObject) (metdName : List UInt8)
    (type : PyConnectType) (args : List PyConnectArgument) (optArgs : Nat) : PyConnectObject :=
  { obj with
    pPyMetds := obj.pPyMetds ++ [⟨metdName, type, args, optArgs, obj.pPyMetds.length, []⟩]
    myDict := setItemString obj.myDict metdName (.connectMethod obj.pPyMetds.length) }

def PyConnectObject.setValue (obj : PyConnectObject) (index : Nat) (value : PyObject) :
    PyConnectObject :=
  { obj with pPyAttrs := obj.pPyAttrs.modify index fun attr => { attr with value := value } }

/-- Py_BuildValue, invokeCallback and Py_DECREF of what was built. With NULL
among the arguments there is no tuple: the function is called without any, and
Py_DECREF ends the process. -/
def invoke (scope : CallbackScope) (fnName : List UInt8) (arg : List PyObject) : List Effect :=
  if .null ∈ arg then [.invokeCallback scope fnName [], .crash] else [.invokeCallback scope fnName arg]

/-- Whether what comes next is reached. -/
def alive (effects : List Effect) : Bool := decide (.crash ∉ effects ∧ .stray ∉ effects)

/-- What is done between PyGILState_Ensure and PyGILState_Release. -/
def locked (effects : List Effect) : List Effect :=
  .gilEnsure :: (effects ++ if alive effects then [.gilRelease] else [])

theorem invoke_eq {scope : CallbackScope} {fnName : List UInt8} {arg : List PyObject}
    (h : .null ∉ arg) : invoke scope fnName arg = [.invokeCallback scope fnName arg] := if_neg h

/-- Where the process lives on, the function has been called with the arguments. -/
theorem invoke_lives {scope : CallbackScope} {fnName : List UInt8} {arg : List PyObject}
    (h : .crash ∉ invoke scope fnName arg) :
    invoke scope fnName arg = [.invokeCallback scope fnName arg] := by
  rw [invoke] at h ⊢
  split at h
  · exact absurd (List.mem_cons_of_mem _ (List.mem_singleton_self _)) h
  next hnull => rw [if_neg hnull]

theorem forall_invoke {P : Effect → Prop} {scope : CallbackScope} {fnName : List UInt8}
    (arg : List PyObject) (hcall : ∀ arg, P (.invokeCallback scope fnName arg)) (hcrash : P .crash) :
    ∀ e ∈ invoke scope fnName arg, P e := by
  rw [invoke]
  split
  · exact List.forall_mem_cons.mpr ⟨hcall [], List.forall_mem_singleton.mpr hcrash⟩
  · exact List.forall_mem_singleton.mpr (hcall arg)

theorem locked_alive {effects : List Effect} (h : alive effects = true) :
    locked effects = .gilEnsure :: (effects ++ [.gilRelease]) := by
  rw [locked, if_pos h]

theorem forall_locked {P : Effect → Prop} {effects : List Effect} (hensure : P .gilEnsure)
    (hrelease : P .gilRelease) (h : ∀ e ∈ effects, P e) : ∀ e ∈ locked effects, P e := by
  refine List.forall_mem_cons.mpr ⟨hensure, List.forall_mem_append.mpr ⟨h, ?_⟩⟩
  split
  · exact List.forall_mem_singleton.mpr hrelease
  · exact fun e he => absurd he List.not_mem_nil

theorem mem_locked {effects : List Effect} {e : Effect} (h : e ∈ effects) : e ∈ locked effects :=
  List.mem_cons_of_mem _ (List.mem_append_left _ h)

theorem filterMap_locked {α : Type} {f : Effect → Option α} (hensure : f .gilEnsure = none)
    (hrelease : f .gilRelease = none) (effects : List Effect) :
    (locked effects).filterMap f = effects.filterMap f := by
  rw [locked, List.filterMap_cons_none hensure, List.filterMap_append]
  split
  · rw [List.filterMap_cons_none hrelease, List.filterMap_nil, List.append_nil]
  · rw [List.filterMap_nil, List.append_nil]

theorem filterMap_invoke {α : Type} {f : Effect → Option α} {scope : CallbackScope}
    {fnName : List UInt8} (arg : List PyObject)
    (hcall : ∀ arg, f (.invokeCallback scope fnName arg) = none) (hcrash : f .crash = none) :
    (invoke scope fnName arg).filterMap f = [] :=
  List.filterMap_eq_nil_iff.mpr (forall_invoke (P := fun e => f e = none) arg hcall hcrash)

def PyConnectObject.invoke (obj : PyConnectObject) : List UInt8 → List PyObject → List Effect :=
  Stub.invoke (.object obj.id)

def PyConnectObject.onSetAttrMetdResp (host : Host) (obj : PyConnectObject) (index err : Nat) :
    Decoder (PyConnectObject × List Effect) :=
  match obj.pPyAttrs[index]? with
  | some attr =>
      if err ≠ 0 then
        pure (obj, obj.invoke (text "onSet" ++ attr.name ++ text "Failed") [.int err])
      else do
        let retVal ← unpackStr host attr.type
        pure (obj.setValue index retVal, obj.invoke (text "onSet" ++ attr.name) [retVal])
  | none =>
      match obj.pPyMetds[index - obj.pPyAttrs.length]? with
      | some metd =>
          if err ≠ 0 then
            pure (obj, obj.invoke (text "on" ++ metd.name ++ text "Failed") [.int err])
          else do
            let retVal ← unpackStr host metd.type
            -- the result itself is given up before the callback
            pure (obj, if retVal = .null then [.crash]
              else obj.invoke (text "on" ++ metd.name ++ text "Completed") [retVal])
      | none => pure (obj, obj.invoke (text "onUnknownAttrMetdError") [.int index])

def PyConnectObject.onGetAttrResp (host : Host) (obj : PyConnectObject) (index err : Nat) :
    Decoder (PyConnectObject × List Effect) :=
  match obj.pPyAttrs[index]? with
  | some attr =>
      if err ≠ 0 then
        pure (obj, obj.invoke (text "on" ++ attr.name ++ text "UpdateFailed") [.int err])
      else do
        let retVal ← unpackStr host attr.type
        pure (obj.setValue index retVal, obj.invoke (text "on" ++ attr.name ++ text "Update") [retVal])
  | none => pure (obj, obj.invoke (text "onUnknownAttrbuteError") [.int index])

/-- The object a description message is being applied to, and whether an index
has gone past its attributes or methods. -/
structure Described where
  obj : PyConnectObject
  stray : Bool

def describeAttribute (i : Nat) (d : Described) : Decoder Described := do
  let desc ← unpackString true
  pure ⟨{ d.obj with pPyAttrs := d.obj.pPyAttrs.modify i fun attr => { attr with desc := desc } },
    d.stray || decide (d.obj.pPyAttrs.length ≤ i)⟩

def describeMethod (i : Nat) (d : Described) : Decoder Described := do
  let desc ← unpackString true
  pure ⟨{ d.obj with pPyMetds := d.obj.pPyMetds.modify i fun metd => { metd with desc := desc } },
    d.stray || decide (d.obj.pPyMetds.length ≤ i)⟩

def PyConnectObject.onSetAttrMetdDesc (obj : PyConnectObject) : Decoder Described := do
  let nofattrs ← unpackStrToInt
  let d ← forCount describeAttribute 0 nofattrs ⟨obj, false⟩
  let nofmetds ← unpackStrToInt
  forCount describeMethod 0 nofmetds d

def exposeAttribute (host : Host) (obj : PyConnectObject) : Decoder PyConnectObject := do
  let flag ← byte
  let type := PyConnectType.ofCode (flag.toNat &&& 0x3f)
  let attrName ← unpackString false
  let initValue ← unpackStr host type
  pure (obj.addNewAttribute attrName type (flag >>> 6 = 0) initValue)

def exposeArgument (args : List PyConnectArgument) : Decoder (List PyConnectArgument) := do
  let flag ← byte
  pure (args ++ [⟨PyConnectType.ofCode (flag.toNat &&& 0x3f), flag >>> 6 ≠ 0⟩])

def exposeMethod (obj : PyConnectObject) : Decoder PyConnectObject := do
  let flag ← byte
  let metdName ← unpackString false
  let nofargs ← byte
  let args ← forCount (fun _ => exposeArgument) 0 (nofargs.toNat &&& 0xf) []
  pure (obj.addNewMethod metdName (PyConnectType.ofCode (flag.toNat &&& 0x3f)) args
    (args.filter (·.isOptional)).length)

/-- The body of the ATTR_METD_EXPOSE branch. -/
def attrMetdExpose (host : Host) (obj : PyConnectObject) : Decoder PyConnectObject := do
  let nofattrs ← unpackStrToInt
  let obj ← forCount (fun _ => exposeAttribute host) 0 nofattrs obj
  let nofmetds ← unpackStrToInt
  forCount (fun _ => exposeMethod) 0 nofmetds obj

def send (p : Packet) : Effect :=
  if p.totalMsgSize < 2 ^ 31 then .dispatch p.data false else .stray

theorem send_eq {p : Packet} (hp : p.totalMsgSize < 2 ^ 31) : send p = .dispatch p.data false :=
  if_pos hp

def assignPacket (s : PyConnectStub) (name : List UInt8) (id : Int) : Packet where
  written := header .moduleAssignId s.serverID :: toByte id :: (packString name false ++ [msgEnd])
  totalMsgSize := 4 + name.length

/-- The constructor of the object puts its name into a dictionary, as the str that
it makes of it. -/
def addNewModule (s : PyConnectStub) (name desc : List UInt8) (options : UInt8)
    (cAddr : SockAddr) : PyConnectStub × List Effect :=
  if name = [] then (s, [])
  else if s.nextObjId > 0xff then (s, [])
  else if unicodeFromString name = .null then (s, [.gilEnsure, .crash])
  else
    let obj := (PyConnectObject.create name s.nextObjId (if desc = [] then none else some desc)
      options).setNetworkAddress cAddr
    ({ s with
        pyConnect := setItemString s.pyConnect name (.connectObject s.nextObjId)
        modules := s.modules ++ [obj]
        nextObjId := s.nextObjId + 1 },
      [.gilEnsure, .gilRelease, send (assignPacket s name s.nextObjId)])

def findModuleByID (s : PyConnectStub) (id : Int) : Option PyConnectObject :=
  s.modules.find? (·.id = id)

def findModuleByName (s : PyConnectStub) (name : List UInt8) : Option PyConnectObject :=
  s.modules.find? (·.name = name)

def deleteModuleByID (s : PyConnectStub) (id : Int) : PyConnectStub × List Effect :=
  match findModuleByID s id with
  | none => (s, [])
  | some obj =>
      ({ s with
          pyConnect := delItemString s.pyConnect obj.name
          modules := s.modules.eraseP (·.id = id) },
        locked (invoke s.scope (text "onModuleDestroyed") [unicodeFromString obj.name, .int id]))

/-- PyConnectStub::shutdownModuleByRef. A pointer to an object stands as the id
that the object has for good. -/
def shutdownModuleByRef (s : PyConnectStub) (id : Int) : PyConnectStub × List Effect :=
  match findModuleByID s id with
  | none => (s, [])
  | some obj =>
      ({ s with
          pyConnect := delItemString s.pyConnect obj.name
          modules := s.modules.eraseP (·.id = id) },
        .dispatch [header .serverShutdown s.serverID, toByte obj.id, msgEnd] false ::
          locked (invoke s.scope (text "onModuleDestroyed")
            [unicodeFromString obj.name, .int obj.id]))

def callPacket (host : Host) (s : PyConnectStub) (objID index : Int) (argStr : List UInt8)
    (msgType : PyConnectMsg) : Packet where
  written := header msgType s.serverID :: toByte objID ::
    (packLEInt host.bigEndian (packedIntLen index + argStr.length) ++ packIntToStr index ++
      argStr ++ [msgEnd])
  totalMsgSize := 3 + 4 + packedIntLen index + argStr.length

/-- An object without an id is not a module's; its calls go nowhere. -/
def remoteAttrMethodCall (host : Host) (s : PyConnectStub) (pObject : PyConnectObject) (index : Int)
    (argStr : List UInt8) (msgType : PyConnectMsg) : List Effect :=
  if pObject.id < 0 then []
  else [send (callPacket host s pObject.id index argStr msgType)]

end PyConnect.Stub

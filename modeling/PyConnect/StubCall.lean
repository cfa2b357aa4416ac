import PyConnect.Stub

namespace PyConnect.StubCall

open Bytes Decoding Common Values Stub

inductive PyErr
  | attributeError (message : List UInt8)
  | valueError (message : List UInt8)
  | typeError (message : List UInt8)
  deriving DecidableEq, Repr

/-- What a call from Python leaves: the object, what was done, the exception of
a call that fails, and whether one that does not leaves an OverflowError behind,
of which the interpreter makes a SystemError. -/
structure Attempt where
  obj : PyConnectObject
  effects : List Effect
  err : Option PyErr
  overflow : Bool
  deriving DecidableEq, Repr

def number (n : Int) : List UInt8 := text (toString n)

def setRemote (host : Host) (s : PyConnectStub) (obj : PyConnectObject) (aind : Nat)
    (attr : PyConnectAttribute) (value : PyObject) : Attempt :=
  let name := attr.name
  if attr.readonly then
    ⟨obj, [], some (.attributeError (text "attribute " ++ name ++ text " is read-only.")), false⟩
  else
    let valSize := validateTypeAndSize value attr.type
    if valSize = 0 then
      ⟨obj, [], some (.valueError
        (text "value for attribute " ++ name ++ text " is not a " ++ typeName attr.type)), false⟩
    else
      let valBuf := (packToStr host value attr.type).take valSize.toNat
      if obj.noCallback then
        ⟨obj.setValue aind value, remoteAttrMethodCall host s obj aind valBuf .callAttrMetdNocb, none,
          overflows value attr.type⟩
      else
        ⟨obj, remoteAttrMethodCall host s obj aind valBuf .callAttrMetd, none, overflows value attr.type⟩

/-- setAttribute for a name that is none of the built-in ones. -/
def setNamed (host : Host) (s : PyConnectStub) (obj : PyConnectObject) (name : List UInt8)
    (value : PyObject) : Attempt :=
  let aind := obj.pPyAttrs.findIdx (·.name = name)
  match obj.pPyAttrs[aind]? with
  | some attr => setRemote host s obj aind attr value
  | none =>
      if obj.pPyMetds.any (·.name = name) then
        ⟨obj, [], some (.typeError (name ++ text " is a built-in method provided by " ++ obj.name ++
          text " PyConnect Object. You cannot override it!")), false⟩
      else if (getItemString obj.myDict name).isSome ∧ value = .none then
        ⟨{ obj with myDict := delItemString obj.myDict name }, [], none, false⟩
      else ⟨{ obj with myDict := setItemString obj.myDict name value }, [], none, false⟩

/-- PyConnectObject::setAttribute. Setting `__nocallback__` goes on to the
dictionary. -/
def setAttribute (host : Host) (s : PyConnectStub) (obj : PyConnectObject) (name : List UInt8)
    (value : PyObject) : Attempt :=
  if name = text "__nocallback__" then
    match value with
    | .bool b => setNamed host s { obj with noCallback := b } name value
    | _ => ⟨obj, [], some (.attributeError (name ++ text " must take a boolean value.")), false⟩
  else if name = text "__name__" ∨ name = text "id" then
    ⟨obj, [], some (.attributeError (name ++ text " is a read-only build-in attribute.")), false⟩
  else if name = text "__doc__" then
    match value with
    | .str utf8 => ⟨{ obj with desc := cString utf8 }, [], none, false⟩
    | _ => ⟨obj, [.crash], none, false⟩
  else setNamed host s obj name value

/-- The size of all the arguments, or the place of the first that is of the
wrong type. -/
def argsSize : Nat → List (PyObject × PyConnectArgument) → Except (Nat × PyConnectType) Int
  | _, [] => .ok 0
  | i, x :: xs =>
      let sizeReq := validateTypeAndSize x.1 x.2.type
      if sizeReq = 0 then .error (i, x.2.type)
      else do
        let rest ← argsSize (i + 1) xs
        .ok (sizeReq + rest)

def packArgs (host : Host) (reversed : Bool) (xs : List (PyObject × PyConnectArgument)) :
    List UInt8 :=
  (if reversed then xs else xs.reverse).flatMap fun x => packToStr host x.1 x.2.type

/-- PyConnectMethod::pyCall, with the arguments after self. -/
def pyCall (host : Host) (s : PyConnectStub) (owner : PyConnectObject) (metd : PyConnectMethod)
    (args : List PyObject) : Attempt :=
  let minReqArgs := metd.args.length - metd.optArgs
  if args.length < minReqArgs ∨ args.length > minReqArgs + metd.optArgs then
    ⟨owner, [], some (.typeError (metd.name ++ text "() requires " ++
      (if metd.optArgs ≠ 0 then text "at least " else []) ++ number minReqArgs ++
      text " arguments, total " ++ number (minReqArgs + metd.optArgs) ++ text " arguments.")), false⟩
  else
    let argList := args.zip metd.args
    match argsSize 0 argList with
    | .error (i, type) => ⟨owner, [], some (.valueError (metd.name ++ text "(): argument " ++
        number (i + 1) ++ text " is not a " ++ typeName type)), false⟩
    | .ok totalArgSize =>
        let argsBuf := (packArgs host owner.argEvalReversed argList).take totalArgSize.toNat
        let mindex := owner.pPyAttrs.length + metd.id
        ⟨owner, remoteAttrMethodCall host s owner mindex argsBuf
          (if owner.noCallback then .callAttrMetdNocb else .callAttrMetd), none,
          argList.any fun x => overflows x.1 x.2.type⟩

end PyConnect.StubCall

import PyConnect.AttributeWrites
import PyConnect.DeclaredMirror
import PyConnect.Ints
import PyConnect.PeerMessage

namespace PyConnect.BuilderSizes

open Bytes Common Values Stub Wrapper Mirror Ints

structure AttrValuePack where
  len : Int
  buf : List UInt8

/-- `new unsigned char[totalMsgSize]`, which a negative size makes throw, and what
is written to it. -/
def buffer (totalMsgSize : Int) (written : List UInt8) : Option Packet :=
  if 0 ≤ totalMsgSize then some ⟨written, totalMsgSize⟩ else none

/-- packString. Nothing is copied where the length is negative. -/
def packString (str : List UInt8) (length : Int) (extendSize : Bool) : List UInt8 :=
  (if extendSize then packIntToStr length else [toByte length]) ++ str.take length.toNat

/-- The builders as they reckon, in ints. Where the arithmetic is undefined or the
buffer cannot be had, there is no message. -/
def declarePyConnectModule (b : Build) (m : PyConnectModule) (serverId : Int) : Option Packet := do
  let nameLen := toInt m.name.length
  let descLen := toInt m.desc.length
  let dsl := packedIntLen descLen
  let dataLength ← addAll [nameLen, descLen, dsl]
  let totalMsgSize ← int32 (4 + dataLength)
  buffer totalMsgSize (header .moduleDeclare serverId :: (if b.clang then 1 else 0) ::
    (packString m.name nameLen false ++ packString m.desc descLen true ++ [msgEnd]))

def packAttribute (getRawValue : Attribute → AttrValuePack) (x : List UInt8 × Attribute) :
    List UInt8 :=
  typeByte x.2.isWritable x.2.type :: (packString x.1 (toInt x.1.length) false ++
    (getRawValue x.2).buf.take (getRawValue x.2).len.toNat)

def packMethod (x : List UInt8 × Method) : List UInt8 :=
  UInt8.ofNat (x.2.type.code &&& 0x3f) ::
    (packString x.1 (toInt x.1.length) false ++ UInt8.ofNat x.2.args.length ::
      x.2.args.map fun arg => typeByte arg.isOptional arg.type)

def declareModuleAttrMetd (getRawValue : Attribute → AttrValuePack) (m : PyConnectModule)
    (serverId moduleId : Int) : Option Packet := do
  let attrlens := wrapAll (m.attributes.toList.map fun x => (x.1.length : Int))
  let attrValueLens ← addAll (m.attributes.toList.map fun x => (getRawValue x.2).len)
  let nofattrs := toInt m.attributes.size
  let typeLens ← int32 (nofattrs * 2)
  let totalAttrSize ← addAll [attrlens, attrValueLens, typeLens]
  let metdlens := wrapAll (m.methods.toList.flatMap fun x => [(x.1.length : Int), x.2.args.length])
  let nofmethods := toInt m.methods.size
  let metdTypeLens ← int32 (nofmethods * 3)
  let totalMetdSize ← int32 (metdlens + metdTypeLens)
  let asl := packedIntLen nofattrs
  let msl := packedIntLen nofmethods
  let totalMsgSize ← addAll [3, asl, msl, totalAttrSize, totalMetdSize]
  buffer totalMsgSize (header .attrMetdExpose serverId :: toByte moduleId ::
    (packIntToStr nofattrs ++ m.attributes.toList.flatMap (packAttribute getRawValue) ++
      (packIntToStr nofmethods ++ m.methods.toList.flatMap packMethod) ++ [msgEnd]))

/-- The first pass over the descriptions, and the second. -/
def descriptionLens (descs : List (List UInt8)) : Option Int := do
  let lens ← descs.mapM fun desc => int32 (toInt desc.length + packedIntLen (toInt desc.length))
  addAll lens

def packDescriptions (descs : List (List UInt8)) : List UInt8 :=
  descs.flatMap fun desc => packString desc (toInt desc.length) true

def declareModuleAttrMetdDesc (m : PyConnectModule) (serverId moduleId : Int) : Option Packet := do
  let attrDescs := m.attributes.toList.map fun x => x.2.desc
  let metdDescs := m.methods.toList.map fun x => x.2.desc
  let totalAttrSize ← descriptionLens attrDescs
  let nofattrs := toInt m.attributes.size
  let totalMetdSize ← descriptionLens metdDescs
  let nofmethods := toInt m.methods.size
  let asl := packedIntLen nofattrs
  let msl := packedIntLen nofmethods
  let totalMsgSize ← addAll [3, asl, msl, totalAttrSize, totalMetdSize]
  buffer totalMsgSize (header .attrMetdDesc serverId :: toByte moduleId ::
    (packIntToStr nofattrs ++ packDescriptions attrDescs ++
      (packIntToStr nofmethods ++ packDescriptions metdDescs) ++ [msgEnd]))

/-- `4 + sizeof(int) + dataLength` is a sum of sizes. -/
def sendAttrMetdResponse (host : Host) (msgType : PyConnectMsg)
    (serverId moduleId err index length : Int) (data : List UInt8) : Option Packet := do
  let al := packedIntLen index
  let dataLength ← int32 (length + al)
  let totalMsgSize := toInt (4 + 4 + dataLength)
  buffer totalMsgSize (header msgType serverId :: toByte moduleId :: toByte err ::
    (packLEInt host.bigEndian dataLength ++ packIntToStr index ++ data.take length.toNat ++ [msgEnd]))

def remoteAttrMethodCall (host : Host) (s : PyConnectStub) (objID index : Int) (argStr : List UInt8)
    (argLen : Int) (msgType : PyConnectMsg) : Option Packet :=
  if objID < 0 then none
  else do
    let asl := packedIntLen index
    let totalMsgSize := toInt (3 + 4 + asl + argLen)
    let dataLength ← int32 (asl + argLen)
    buffer totalMsgSize (header msgType s.serverID :: toByte objID ::
      (packLEInt host.bigEndian dataLength ++ packIntToStr index ++ argStr.take argLen.toNat ++
        [msgEnd]))

def packToStr (host : Host) : PyObject → PyConnectType → List UInt8
  | .str utf8, .string => packString (cString utf8) (toInt (cString utf8).length) true
  | arg, type => Values.packToStr host arg type

/-- The buffer of the arguments that pyCall makes for accepted ones. -/
def argsBuf (host : Host) (reversed : Bool) (xs : List (PyObject × PyConnectArgument)) :
    Option Packet := do
  let sizes := xs.map fun x => validateTypeAndSize x.1 x.2.type
  if 0 ∈ sizes then none
  else
    let totalArgSize ← addAll sizes
    buffer totalArgSize ((if reversed then xs else xs.reverse).flatMap fun x =>
      packToStr host x.1 x.2.type)

def callType (owner : PyConnectObject) : PyConnectMsg :=
  if owner.noCallback then .callAttrMetdNocb else .callAttrMetd

def pyCall (host : Host) (s : PyConnectStub) (owner : PyConnectObject) (metd : PyConnectMethod)
    (args : List PyObject) : Option Packet :=
  let minReqArgs := metd.args.length - metd.optArgs
  if args.length < minReqArgs ∨ args.length > minReqArgs + metd.optArgs then none
  else do
    let buf ← argsBuf host owner.argEvalReversed (args.zip metd.args)
    let mindex ← int32 (toInt owner.pPyAttrs.length + metd.id)
    remoteAttrMethodCall host s owner.id mindex buf.data buf.totalMsgSize (callType owner)

/-- The write of the attribute that setAttribute has found. -/
def setAttribute (host : Host) (s : PyConnectStub) (obj : PyConnectObject) (aind : Nat)
    (attr : PyConnectAttribute) (value : PyObject) : Option Packet :=
  if attr.readonly then none
  else
    let valSize := validateTypeAndSize value attr.type
    if valSize = 0 then none
    else do
      let valBuf ← buffer valSize (packToStr host value attr.type)
      remoteAttrMethodCall host s obj.id (toInt aind) valBuf.data valSize (callType obj)

def assignModuleID (s : PyConnectStub) (name : List UInt8) (id : Int) : Option Packet := do
  let totalMsgSize ← int32 (4 + toInt name.length)
  buffer totalMsgSize (header .moduleAssignId s.serverID :: toByte id ::
    (packString name (toInt name.length) false ++ [msgEnd]))

def sendPeerMessage (s : PyConnectStub) (mesg : List UInt8) : Option Packet := do
  let msgLen := toInt (cString mesg).length
  let dsl := packedIntLen msgLen
  let dataLength ← addAll [msgLen, dsl, 2]
  buffer dataLength (header .peerServerMsg s.serverID ::
    (packString (cString mesg) msgLen true ++ [msgEnd]))

def exposePacket (getRawValue : Attribute → AttrValuePack) (m : PyConnectModule)
    (serverId moduleId : Int) : Packet where
  written := header .attrMetdExpose serverId :: toByte moduleId ::
    (packIntToStr m.attributes.size ++ m.attributes.toList.flatMap (fun x =>
        typeByte x.2.isWritable x.2.type :: (Common.packString x.1 false ++
          (getRawValue x.2).buf.take (getRawValue x.2).len.toNat)) ++
      (packIntToStr m.methods.size ++ m.methods.toList.flatMap Wrapper.packMethod) ++ [msgEnd])
  totalMsgSize :=
    let attrlens := (m.attributes.toList.map fun x => (x.1.length : Int)).sum
    let attrValueLens := (m.attributes.toList.map fun x => (getRawValue x.2).len).sum
    let metdlens := (m.methods.toList.map fun x => (x.1.length + x.2.args.length : Int)).sum
    let totalAttrSize := attrlens + attrValueLens + m.attributes.size * 2
    let totalMetdSize := metdlens + m.methods.size * 3
    3 + packedIntLen m.attributes.size + packedIntLen m.methods.size + totalAttrSize + totalMetdSize

def rawValue (host : Host) (attr : Attribute) : AttrValuePack :=
  ⟨(packRawAttrData host attr.value).dataLength, (packRawAttrData host attr.value).written⟩

theorem exposePacket_rawValue (host : Host) (m : PyConnectModule) (serverId moduleId : Int) :
    exposePacket (rawValue host) m serverId moduleId = attrMetdPacket host m serverId moduleId :=
  rfl

inductive Message
  | declare (b : Build) (m : PyConnectModule) (serverId : Int)
  | attrMetd (getRawValue : Attribute → AttrValuePack) (m : PyConnectModule)
      (serverId moduleId : Int)
  | attrMetdDesc (m : PyConnectModule) (serverId moduleId : Int)
  | response (host : Host) (msgType : PyConnectMsg) (serverId moduleId err index length : Int)
      (data : List UInt8)
  | call (host : Host) (s : PyConnectStub) (owner : PyConnectObject) (metd : PyConnectMethod)
      (args : List PyObject)
  | write (host : Host) (s : PyConnectStub) (obj : PyConnectObject) (aind : Nat)
      (attr : PyConnectAttribute) (value : PyObject)
  | assignId (s : PyConnectStub) (name : List UInt8) (id : Int)
  | peer (s : PyConnectStub) (mesg : List UInt8)

def Message.build : Message → Option Packet
  | declare b m serverId => declarePyConnectModule b m serverId
  | attrMetd getRawValue m serverId moduleId =>
      declareModuleAttrMetd getRawValue m serverId moduleId
  | attrMetdDesc m serverId moduleId => declareModuleAttrMetdDesc m serverId moduleId
  | response host msgType serverId moduleId err index length data =>
      sendAttrMetdResponse host msgType serverId moduleId err index length data
  | call host s owner metd args => pyCall host s owner metd args
  | write host s obj aind attr value => setAttribute host s obj aind attr value
  | assignId s name id => assignModuleID s name id
  | peer s mesg => sendPeerMessage s mesg

/-- What is built where numbers may have any size. -/
def Message.packet : Message → Packet
  | declare b m serverId => declarePacket b m serverId
  | attrMetd getRawValue m serverId moduleId => exposePacket getRawValue m serverId moduleId
  | attrMetdDesc m serverId moduleId => attrMetdDescPacket m serverId moduleId
  | response host msgType serverId moduleId err index length data =>
      responsePacket host msgType serverId moduleId err index length data
  | call host s owner metd args =>
      callPacket host s owner.id (owner.pPyAttrs.length + metd.id)
        (StubCall.packArgs host owner.argEvalReversed (args.zip metd.args)) (callType owner)
  | write host s obj aind attr value =>
      callPacket host s obj.id aind (Values.packToStr host value attr.type) (callType obj)
  | assignId s name id => assignPacket s name id
  | peer s mesg => PeerMessage.peerPacket s (cString mesg)

/-- The buffers given hold what is reported of them, indices are ints that are not
negative, and a call is one that is accepted, of an object with an id. -/
def Message.Valid : Message → Prop
  | attrMetd getRawValue m _ _ => ∀ x ∈ m.attributes.toList,
      0 ≤ (getRawValue x.2).len ∧ (getRawValue x.2).len ≤ (getRawValue x.2).buf.length
  | response _ _ _ _ _ index length data => 0 ≤ index ∧ 0 ≤ length ∧ length ≤ data.length
  | call host s owner metd args => (StubCall.pyCall host s owner metd args).err = none ∧
      0 ≤ owner.id ∧ (owner.pPyAttrs.length + metd.id : Int) < 2 ^ 31
  | write host s obj aind attr value =>
      (StubCall.setRemote host s obj aind attr value).err = none ∧ 0 ≤ obj.id ∧ (aind : Int) < 2 ^ 31
  | _ => True

theorem buffer_eq {totalMsgSize : Int} (h : 0 ≤ totalMsgSize) (written : List UInt8) :
    buffer totalMsgSize written = some ⟨written, totalMsgSize⟩ := if_pos h

theorem packString_eq {str : List UInt8} (h : (str.length : Int) < 2 ^ 31) (extendSize : Bool) :
    packString str (toInt str.length) extendSize = Common.packString str extendSize := by
  rw [packString, toInt_eq (Int.natCast_nonneg _) h, Int.toNat_natCast, List.take_length,
    Common.packString]
  cases extendSize with
  | true => rfl
  | false =>
      simp only [Bool.false_eq_true, if_false, List.cons_append, List.nil_append, List.cons.injEq,
        and_true, ← UInt8.toNat_inj, toByte_toNat, UInt8.toNat_ofNat']
      omega

theorem packName_length (name : List UInt8) :
    ((Common.packString name false).length : Int) = name.length + 1 := by
  simp [Common.packString]

theorem declare_written (b : Build) (m : PyConnectModule) (serverId : Int) :
    ((declarePacket b m serverId).written.length : Int) =
      (declarePacket b m serverId).totalMsgSize := by
  have hname := packName_length m.name
  have hdesc := ValueCodec.packString_length m.desc
  simp only [declarePacket, List.length_cons, List.length_append, List.length_nil]
  omega

theorem declare_builds {b : Build} {m : PyConnectModule} {serverId : Int}
    (h : (declarePacket b m serverId).totalMsgSize < 2 ^ 31) :
    declarePyConnectModule b m serverId = some (declarePacket b m serverId) := by
  have hp := packedIntLen_nonneg m.desc.length
  simp only [declarePacket] at h
  have hname : (m.name.length : Int) < 2 ^ 31 := by omega
  have hdesc : (m.desc.length : Int) < 2 ^ 31 := by omega
  have hsum : addAll [toInt m.name.length, toInt m.desc.length, packedIntLen (toInt m.desc.length)] =
      some (m.name.length + m.desc.length + packedIntLen m.desc.length) := by
    rw [toInt_eq (by omega) hname, toInt_eq (by omega) hdesc,
      addAll_eq (by simp; omega) (by simp; omega)]
    simp [add_assoc]
  rw [declarePyConnectModule, hsum, Option.bind_eq_bind, Option.bind_some, int32_eq (by omega) h,
    Option.bind_some, buffer_eq (by omega), packString_eq hname, packString_eq hdesc]
  rfl

theorem expose_written {getRawValue : Attribute → AttrValuePack} {m : PyConnectModule}
    (hraw : ∀ x ∈ m.attributes.toList,
      0 ≤ (getRawValue x.2).len ∧ (getRawValue x.2).len ≤ (getRawValue x.2).buf.length)
    (serverId moduleId : Int) :
    ((exposePacket getRawValue m serverId moduleId).written.length : Int) =
      (exposePacket getRawValue m serverId moduleId).totalMsgSize := by
  have ha := DeclaredMirror.attributes_length (m := m)
    (fun x => typeByte x.2.isWritable x.2.type :: (Common.packString x.1 false ++
      (getRawValue x.2).buf.take (getRawValue x.2).len.toNat))
    (fun x => (getRawValue x.2).len) fun x hx => by
      obtain ⟨hlo, hhi⟩ := hraw x hx
      have hname := packName_length x.1
      simp only [List.length_cons, List.length_append, List.length_take]
      omega
  have hm := DeclaredMirror.methods_length m
  have hna := packIntToStr_length m.attributes.size
  have hnm := packIntToStr_length m.methods.size
  simp only [exposePacket, List.length_cons, List.length_append, List.length_nil]
  omega

theorem name_length_le {β : Type} {xs : List (List UInt8 × β)} {x : List UInt8 × β} (hx : x ∈ xs) :
    (x.1.length : Int) ≤ (xs.map fun x => (x.1.length : Int)).sum :=
  List.single_le_sum (List.forall_mem_map.mpr fun _ _ => Int.natCast_nonneg _) _
    (List.mem_map_of_mem hx)

theorem attributes_pack {getRawValue : Attribute → AttrValuePack}
    {xs : List (List UInt8 × Attribute)}
    (h : (xs.map fun x => (x.1.length : Int)).sum < 2 ^ 31) :
    xs.flatMap (packAttribute getRawValue) = xs.flatMap fun x =>
      typeByte x.2.isWritable x.2.type :: (Common.packString x.1 false ++
        (getRawValue x.2).buf.take (getRawValue x.2).len.toNat) :=
  List.flatMap_congr fun x hx => by
    have hname := name_length_le hx
    rw [packAttribute, packString_eq (by omega)]

theorem methods_pack {xs : List (List UInt8 × Method)}
    (h : (xs.map fun x => (x.1.length : Int)).sum < 2 ^ 31) :
    xs.flatMap packMethod = xs.flatMap Wrapper.packMethod :=
  List.flatMap_congr fun x hx => by
    have hname := name_length_le hx
    rw [packMethod, packString_eq (by omega), Wrapper.packMethod]

theorem expose_builds {getRawValue : Attribute → AttrValuePack} {m : PyConnectModule}
    (hraw : ∀ x ∈ m.attributes.toList,
      0 ≤ (getRawValue x.2).len ∧ (getRawValue x.2).len ≤ (getRawValue x.2).buf.length)
    {serverId moduleId : Int}
    (h : (exposePacket getRawValue m serverId moduleId).totalMsgSize < 2 ^ 31) :
    declareModuleAttrMetd getRawValue m serverId moduleId =
      some (exposePacket getRawValue m serverId moduleId) := by
  have hnames : ∀ n ∈ m.attributes.toList.map fun x => (x.1.length : Int), 0 ≤ n :=
    List.forall_mem_map.mpr fun _ _ => Int.natCast_nonneg _
  have hlens : ∀ n ∈ m.attributes.toList.map fun x => (getRawValue x.2).len, 0 ≤ n :=
    List.forall_mem_map.mpr fun x hx => (hraw x hx).1
  have hmetdNames : ∀ n ∈ m.methods.toList.map fun x => (x.1.length : Int), 0 ≤ n :=
    List.forall_mem_map.mpr fun _ _ => Int.natCast_nonneg _
  have hargs : ∀ n ∈ m.methods.toList.map fun x => (x.2.args.length : Int), 0 ≤ n :=
    List.forall_mem_map.mpr fun _ _ => Int.natCast_nonneg _
  have hpairs := sum_pairs m.methods.toList (fun x => (x.1.length : Int)) fun x => x.2.args.length
  have hsum := List.sum_map_add (l := m.methods.toList) (f := fun x => (x.1.length : Int))
    (g := fun x => (x.2.args.length : Int))
  have hmetds : ∀ n ∈ m.methods.toList.flatMap fun x => [(x.1.length : Int), x.2.args.length],
      0 ≤ n := by
    intro n hn
    obtain ⟨x, -, hx⟩ := List.mem_flatMap.mp hn
    obtain rfl | rfl := List.mem_pair.mp hx
    all_goals exact Int.natCast_nonneg _
  have hnames' := List.sum_nonneg hnames
  have hlens' := List.sum_nonneg hlens
  have hmetdNames' := List.sum_nonneg hmetdNames
  have hargs' := List.sum_nonneg hargs
  have hna := packedIntLen_nonneg m.attributes.size
  have hnm := packedIntLen_nonneg m.methods.size
  simp only [exposePacket] at h
  rw [declareModuleAttrMetd, wrapAll_eq hnames (by omega), addAll_eq hlens (by omega),
    wrapAll_eq hmetds (by omega), hpairs, toInt_eq (Int.natCast_nonneg _) (by omega),
    toInt_eq (Int.natCast_nonneg _) (by omega), Option.bind_eq_bind, Option.bind_some]
  dsimp only
  rw [int32_eq (by omega) (by omega), Option.bind_some, addAll_eq (by simp; omega) (by simp; omega),
    Option.bind_some, int32_eq (by omega) (by omega), Option.bind_some,
    int32_eq (by omega) (by omega), Option.bind_some, addAll_eq (by simp; omega) (by simp; omega),
    Option.bind_some, buffer_eq (by simp; omega), attributes_pack (by omega),
    methods_pack (by omega), exposePacket]
  simp [add_assoc]

theorem descSize_nonneg (desc : List UInt8) : 0 ≤ (desc.length + packedIntLen desc.length : Int) := by
  have hp := packedIntLen_nonneg desc.length
  omega

theorem descs_nonneg (descs : List (List UInt8)) :
    ∀ n ∈ descs.map fun desc => (desc.length + packedIntLen desc.length : Int), 0 ≤ n :=
  List.forall_mem_map.mpr fun desc _ => descSize_nonneg desc

theorem descSize_le {descs : List (List UInt8)} {desc : List UInt8} (hdesc : desc ∈ descs) :
    (desc.length + packedIntLen desc.length : Int) ≤
      (descs.map fun desc => (desc.length + packedIntLen desc.length : Int)).sum :=
  List.single_le_sum (descs_nonneg descs) _
    (List.mem_map_of_mem (f := fun desc : List UInt8 => (desc.length + packedIntLen desc.length : Int))
      hdesc)

theorem length_le_descSize (desc : List UInt8) :
    (desc.length : Int) ≤ desc.length + packedIntLen desc.length := by
  have hp := packedIntLen_nonneg desc.length
  omega

theorem descriptionLens_eq (descs : List (List UInt8))
    (h : (descs.map fun desc => (desc.length + packedIntLen desc.length : Int)).sum < 2 ^ 31) :
    descriptionLens descs =
      some (descs.map fun desc => (desc.length + packedIntLen desc.length : Int)).sum := by
  have hlens : descs.mapM (fun desc => int32 (toInt desc.length + packedIntLen (toInt desc.length))) =
      some (descs.map fun desc => (desc.length + packedIntLen desc.length : Int)) :=
    mapM_some fun desc hdesc => by
      have hle := descSize_le hdesc
      have hlen := length_le_descSize desc
      rw [toInt_eq (Int.natCast_nonneg _) (by omega), int32_eq (descSize_nonneg desc) (by omega)]
  rw [descriptionLens, hlens, Option.bind_eq_bind, Option.bind_some,
    addAll_eq (descs_nonneg descs) h]

theorem packDescriptions_eq (descs : List (List UInt8))
    (h : (descs.map fun desc => (desc.length + packedIntLen desc.length : Int)).sum < 2 ^ 31) :
    packDescriptions descs = descs.flatMap fun desc => Common.packString desc true :=
  List.flatMap_congr fun desc hdesc => by
    have hle := descSize_le hdesc
    have hlen := length_le_descSize desc
    rw [packString_eq (by omega)]

theorem length_le_descSizes (descs : List (List UInt8)) :
    (descs.length : Int) ≤
      (descs.map fun desc => (desc.length + packedIntLen desc.length : Int)).sum := by
  induction descs with
  | nil => simp
  | cons desc descs ih =>
      have hpos := AttributeWrites.stringSize_pos desc.length
      rw [List.map_cons, List.sum_cons, List.length_cons]
      omega

theorem desc_builds {m : PyConnectModule} {serverId moduleId : Int}
    (h : (attrMetdDescPacket m serverId moduleId).totalMsgSize < 2 ^ 31) :
    declareModuleAttrMetdDesc m serverId moduleId = some (attrMetdDescPacket m serverId moduleId) := by
  have hna := packedIntLen_nonneg m.attributes.size
  have hnm := packedIntLen_nonneg m.methods.size
  have hattrs := length_le_descSizes (m.attributes.toList.map fun x => x.2.desc)
  have hmetds := length_le_descSizes (m.methods.toList.map fun x => x.2.desc)
  have hattrLens := descriptionLens_eq (m.attributes.toList.map fun x => x.2.desc)
  have hmetdLens := descriptionLens_eq (m.methods.toList.map fun x => x.2.desc)
  have hattrDescs := packDescriptions_eq (m.attributes.toList.map fun x => x.2.desc)
  have hmetdDescs := packDescriptions_eq (m.methods.toList.map fun x => x.2.desc)
  simp only [attrMetdDescPacket] at h
  rw [List.length_map, Std.ExtTreeMap.length_toList] at hattrs hmetds
  rw [List.map_map] at hattrs hmetds hattrLens hmetdLens hattrDescs hmetdDescs
  simp only [Function.comp_def] at hattrs hmetds hattrLens hmetdLens hattrDescs hmetdDescs
  rw [List.flatMap_map] at hattrDescs hmetdDescs
  rw [declareModuleAttrMetdDesc]
  dsimp only
  rw [hattrLens (by omega), hmetdLens (by omega), hattrDescs (by omega), hmetdDescs (by omega),
    Option.bind_eq_bind, Option.bind_some, Option.bind_some,
    toInt_eq (Int.natCast_nonneg _) (by omega), toInt_eq (Int.natCast_nonneg _) (by omega),
    addAll_eq (by simp only [List.forall_mem_cons, List.not_mem_nil, false_implies,
        implies_true, and_true]; omega)
      (by simp only [List.sum_cons, List.sum_nil]; omega), Option.bind_some,
    buffer_eq (by simp only [List.sum_cons, List.sum_nil]; omega), attrMetdDescPacket]
  simp only [List.sum_cons, List.sum_nil, add_zero, add_assoc]

theorem response_written (host : Host) (msgType : PyConnectMsg) (serverId moduleId err : Int)
    {index length : Int} {data : List UInt8} (hindex : 0 ≤ index) (hlo : 0 ≤ length)
    (hhi : length ≤ data.length) :
    ((responsePacket host msgType serverId moduleId err index length data).written.length : Int) =
      (responsePacket host msgType serverId moduleId err index length data).totalMsgSize := by
  obtain ⟨n, rfl⟩ := Int.eq_ofNat_of_zero_le hindex
  have hn := packIntToStr_length n
  simp only [responsePacket, List.length_cons, List.length_append, List.length_nil, List.length_take,
    packLEInt, ValueCodec.packNumber_length]
  omega

theorem response_builds {host : Host} {msgType : PyConnectMsg} {serverId moduleId err index : Int}
    {length : Int} {data : List UInt8} (hlo : 0 ≤ length)
    (h : (responsePacket host msgType serverId moduleId err index length data).totalMsgSize < 2 ^ 31) :
    sendAttrMetdResponse host msgType serverId moduleId err index length data =
      some (responsePacket host msgType serverId moduleId err index length data) := by
  have hp := packedIntLen_nonneg index
  simp only [responsePacket] at h
  rw [sendAttrMetdResponse, int32_eq (by omega) (by omega), Option.bind_eq_bind, Option.bind_some,
    toInt_eq (by omega) h, buffer_eq (by omega)]
  rfl

theorem call_written (host : Host) (s : PyConnectStub) (objID : Int) {index : Int}
    (hindex : 0 ≤ index) (argStr : List UInt8) (t : PyConnectMsg) :
    ((callPacket host s objID index argStr t).written.length : Int) =
      (callPacket host s objID index argStr t).totalMsgSize := by
  obtain ⟨n, rfl⟩ := Int.eq_ofNat_of_zero_le hindex
  have hn := packIntToStr_length n
  simp only [callPacket, List.length_cons, List.length_append, List.length_nil, packLEInt,
    ValueCodec.packNumber_length]
  omega

theorem remote_builds {host : Host} {s : PyConnectStub} {objID index : Int} {argStr : List UInt8}
    {t : PyConnectMsg} (hid : 0 ≤ objID)
    (h : (callPacket host s objID index argStr t).totalMsgSize < 2 ^ 31) :
    remoteAttrMethodCall host s objID index argStr argStr.length t =
      some (callPacket host s objID index argStr t) := by
  have hp := packedIntLen_nonneg index
  simp only [callPacket] at h
  rw [remoteAttrMethodCall, if_neg (by omega)]
  dsimp only
  rw [toInt_eq (by omega) h, int32_eq (by omega) (by omega), Option.bind_eq_bind, Option.bind_some,
    buffer_eq (by omega), Int.toNat_natCast, List.take_length]
  rfl

theorem packToStr_eq (host : Host) {value : PyObject} {t : PyConnectType}
    (h : ((Values.packToStr host value t).length : Int) < 2 ^ 31) :
    packToStr host value t = Values.packToStr host value t := by
  cases value with
  | str utf8 =>
      cases t with
      | string =>
          have hlen := ValueCodec.packString_length (cString utf8)
          have hp := packedIntLen_nonneg (cString utf8).length
          have hpack : Values.packToStr host (.str utf8) .string = Common.packString (cString utf8) true :=
            rfl
          rw [hpack] at h
          rw [packToStr, packString_eq (by omega)]
          rfl
      | _ => rfl
  | _ => rfl

theorem packToStr_length_le (host : Host) (reversed : Bool) {xs : List (PyObject × PyConnectArgument)}
    {x : PyObject × PyConnectArgument} (hx : x ∈ xs) :
    (Values.packToStr host x.1 x.2.type).length ≤ (StubCall.packArgs host reversed xs).length := by
  have hmem : x ∈ if reversed then xs else xs.reverse := by split <;> simpa using hx
  rw [StubCall.packArgs, List.flatMap_def]
  have hmem' := List.mem_map_of_mem (f := fun x : PyObject × PyConnectArgument =>
    Values.packToStr host x.1 x.2.type) hmem
  exact (List.sublist_flatten_of_mem hmem').length_le

theorem packArgs_length {host : Host} {reversed : Bool} {xs : List (PyObject × PyConnectArgument)}
    (htypes : ∀ x ∈ xs, AttributeWrites.hasType x.1 x.2.type = true)
    (h : ((StubCall.packArgs host reversed xs).length : Int) < 2 ^ 31) :
    ((StubCall.packArgs host reversed xs).length : Int) =
      (xs.map fun x => validateTypeAndSize x.1 x.2.type).sum := by
  have hlength := DeclaredMirror.length_flatMap xs (fun x => Values.packToStr host x.1 x.2.type) _
    fun x hx => AttributeWrites.packToStr_size host (htypes x hx) (by
      have hle := packToStr_length_le host reversed hx
      omega)
  rw [← hlength, StubCall.packArgs]
  cases reversed with
  | true => rfl
  | false =>
      rw [if_neg Bool.false_ne_true, List.length_flatMap, List.length_flatMap, List.map_reverse,
        List.sum_reverse]

theorem argsBuf_eq {host : Host} {reversed : Bool} {xs : List (PyObject × PyConnectArgument)}
    (htypes : ∀ x ∈ xs, AttributeWrites.admits x.1 x.2.type = true)
    (h : ((StubCall.packArgs host reversed xs).length : Int) < 2 ^ 31) :
    argsBuf host reversed xs = some ⟨StubCall.packArgs host reversed xs,
      (StubCall.packArgs host reversed xs).length⟩ := by
  have hlength := packArgs_length (fun x hx => AttributeWrites.hasType_of_admits (htypes x hx)) h
  have hbound : ∀ x ∈ xs, ((Values.packToStr host x.1 x.2.type).length : Int) < 2 ^ 31 := fun x hx => by
    have hle := packToStr_length_le host reversed hx
    omega
  have hpos : ∀ n ∈ xs.map fun x => validateTypeAndSize x.1 x.2.type, 0 ≤ n :=
    List.forall_mem_map.mpr fun x hx => by
      rw [← AttributeWrites.packToStr_size host (AttributeWrites.hasType_of_admits (htypes x hx))
        (hbound x hx)]
      exact Int.natCast_nonneg _
  have hnone : 0 ∉ xs.map fun x => validateTypeAndSize x.1 x.2.type := fun hzero => by
    obtain ⟨x, hx, hsize⟩ := List.mem_map.mp hzero
    rw [AttributeWrites.validateTypeAndSize_eq_zero, htypes x hx] at hsize
    cases hsize
  have hpack : (if reversed then xs else xs.reverse).flatMap
      (fun x => packToStr host x.1 x.2.type) = StubCall.packArgs host reversed xs :=
    List.flatMap_congr fun x hx => packToStr_eq host (hbound x (by split at hx <;> simpa using hx))
  rw [argsBuf, if_neg hnone, addAll_eq hpos (by omega), Option.bind_eq_bind, Option.bind_some,
    buffer_eq (by omega), hpack, hlength]

theorem pyCall_builds {host : Host} {s : PyConnectStub} {owner : PyConnectObject}
    {metd : PyConnectMethod} {args : List PyObject}
    (haccepted : (StubCall.pyCall host s owner metd args).err = none) (hid : 0 ≤ owner.id)
    (hindex : (owner.pPyAttrs.length + metd.id : Int) < 2 ^ 31)
    (h : (Message.call host s owner metd args).packet.totalMsgSize < 2 ^ 31) :
    pyCall host s owner metd args = some (Message.call host s owner metd args).packet := by
  obtain ⟨hcount, htypes⟩ := (AttributeWrites.pyCall_spec host s owner metd args).1.mp haccepted
  have hp := packedIntLen_nonneg (owner.pPyAttrs.length + metd.id : Int)
  have hargs : ((StubCall.packArgs host owner.argEvalReversed (args.zip metd.args)).length : Int) <
      2 ^ 31 := by
    simp only [Message.packet, callPacket] at h
    omega
  rw [AttributeWrites.Counted] at hcount
  rw [pyCall, if_neg (by omega), argsBuf_eq htypes hargs, Option.bind_eq_bind, Option.bind_some,
    toInt_eq (Int.natCast_nonneg _) (by omega), int32_eq (by omega) hindex,
    Option.bind_eq_bind, Option.bind_some, Packet.data_eq rfl]
  exact remote_builds hid h

theorem setAttribute_builds {host : Host} {s : PyConnectStub} {obj : PyConnectObject} {aind : Nat}
    {attr : PyConnectAttribute} {value : PyObject}
    (haccepted : (StubCall.setRemote host s obj aind attr value).err = none) (hid : 0 ≤ obj.id)
    (hindex : (aind : Int) < 2 ^ 31)
    (h : (Message.write host s obj aind attr value).packet.totalMsgSize < 2 ^ 31) :
    setAttribute host s obj aind attr value =
      some (Message.write host s obj aind attr value).packet := by
  have hp := packedIntLen_nonneg aind
  rw [StubCall.setRemote] at haccepted
  dsimp only at haccepted
  split at haccepted
  · cases haccepted
  next hwritable =>
    split at haccepted
    · cases haccepted
    next hsize =>
      have htype : AttributeWrites.admits value attr.type = true := by
        rwa [AttributeWrites.validateTypeAndSize_eq_zero, Bool.not_eq_false] at hsize
      have hbound : ((Values.packToStr host value attr.type).length : Int) < 2 ^ 31 := by
        simp only [Message.packet, callPacket] at h
        omega
      have hlength := AttributeWrites.packToStr_size host (AttributeWrites.hasType_of_admits htype) hbound
      rw [setAttribute, if_neg hwritable]
      dsimp only
      rw [if_neg hsize, ← hlength, buffer_eq (Int.natCast_nonneg _),
        Option.bind_eq_bind, Option.bind_some, packToStr_eq host hbound, Packet.data_eq rfl,
        toInt_eq (Int.natCast_nonneg _) hindex]
      exact remote_builds hid h

theorem assign_written (s : PyConnectStub) (name : List UInt8) (id : Int) :
    ((assignPacket s name id).written.length : Int) = (assignPacket s name id).totalMsgSize := by
  have hname := packName_length name
  simp only [assignPacket, List.length_cons, List.length_append, List.length_nil]
  omega

theorem assign_builds {s : PyConnectStub} {name : List UInt8} {id : Int}
    (h : (assignPacket s name id).totalMsgSize < 2 ^ 31) :
    assignModuleID s name id = some (assignPacket s name id) := by
  simp only [assignPacket] at h
  have hname : (name.length : Int) < 2 ^ 31 := by omega
  rw [assignModuleID, packString_eq hname, toInt_eq (by omega) hname, int32_eq (by omega) h,
    Option.bind_eq_bind, Option.bind_some, buffer_eq (by omega)]
  rfl

theorem peer_written (s : PyConnectStub) (mesg : List UInt8) :
    ((PeerMessage.peerPacket s mesg).written.length : Int) =
      (PeerMessage.peerPacket s mesg).totalMsgSize := by
  have hmesg := ValueCodec.packString_length mesg
  simp only [PeerMessage.peerPacket, List.length_cons, List.length_append, List.length_nil]
  omega

theorem peer_builds {s : PyConnectStub} {mesg : List UInt8}
    (h : (PeerMessage.peerPacket s (cString mesg)).totalMsgSize < 2 ^ 31) :
    sendPeerMessage s mesg = some (PeerMessage.peerPacket s (cString mesg)) := by
  have hp := packedIntLen_nonneg (cString mesg).length
  simp only [PeerMessage.peerPacket] at h
  have hmesg : ((cString mesg).length : Int) < 2 ^ 31 := by omega
  rw [sendPeerMessage, packString_eq hmesg, toInt_eq (by omega) hmesg,
    addAll_eq (by simp; omega) (by simp; omega), Option.bind_eq_bind, Option.bind_some, buffer_eq (by simp; omega), PeerMessage.peerPacket]
  simp [add_assoc]

theorem packet_written (x : Message) (hx : x.Valid) :
    (x.packet.written.length : Int) = x.packet.totalMsgSize := by
  cases x with
  | declare b m serverId => exact declare_written b m serverId
  | attrMetd getRawValue m serverId moduleId => exact expose_written hx serverId moduleId
  | attrMetdDesc m serverId moduleId =>
      exact DeclaredMirror.attrMetdDescPacket_written m serverId moduleId
  | response host msgType serverId moduleId err index length data =>
      obtain ⟨hindex, hlo, hhi⟩ := hx
      exact response_written host msgType serverId moduleId err hindex hlo hhi
  | call host s owner metd args => exact call_written host s owner.id (by omega) _ _
  | write host s obj aind attr value => exact call_written host s obj.id (by omega) _ _
  | assignId s name id => exact assign_written s name id
  | peer s mesg => exact peer_written s (cString mesg)

theorem build_eq (x : Message) (hx : x.Valid) (hsize : x.packet.totalMsgSize < 2 ^ 31) :
    x.build = some x.packet := by
  cases x with
  | declare b m serverId => exact declare_builds hsize
  | attrMetd getRawValue m serverId moduleId => exact expose_builds hx hsize
  | attrMetdDesc m serverId moduleId => exact desc_builds hsize
  | response host msgType serverId moduleId err index length data =>
      exact response_builds hx.2.1 hsize
  | call host s owner metd args => exact pyCall_builds hx.1 hx.2.1 hx.2.2 hsize
  | write host s obj aind attr value => exact setAttribute_builds hx.1 hx.2.1 hx.2.2 hsize
  | assignId s name id => exact assign_builds hsize
  | peer s mesg => exact peer_builds hsize

theorem packet_msgEnd (x : Message) : x.packet.written.getLast? = some msgEnd := by
  cases x <;> simp [Message.packet, declarePacket, exposePacket, attrMetdDescPacket, responsePacket,
    callPacket, assignPacket, PeerMessage.peerPacket, List.getLast?_cons]

/-- Each builder fills the buffer that it allocates, up to the end marker, for every
message whose size is an int. -/
theorem fills_buffer (x : Message) (hx : x.Valid) (hsize : x.packet.written.length < 2 ^ 31) :
    ∃ p, x.build = some p ∧ (p.written.length : Int) = p.totalMsgSize ∧
      p.written = x.packet.written ∧ p.written.getLast? = some msgEnd := by
  have hwritten := packet_written x hx
  exact ⟨x.packet, build_eq x hx (by omega), hwritten, rfl, packet_msgEnd x⟩

theorem valid_sensors : (Message.attrMetd (rawValue .little)
    (register [115] [] DeclaredMirror.sensors) 1 2).Valid := by
  change ∀ x ∈ (register [115] [] DeclaredMirror.sensors).attributes.toList, _
  rw [DeclaredMirror.sensors_attributes]
  decide

theorem fills_buffer_sensors : ∃ p,
    declareModuleAttrMetd (rawValue .little) (register [115] [] DeclaredMirror.sensors) 1 2 = some p ∧
      (p.written.length : Int) = p.totalMsgSize ∧
      p.written = (Message.attrMetd (rawValue .little) (register [115] [] DeclaredMirror.sensors)
        1 2).packet.written ∧ p.written.getLast? = some msgEnd :=
  fills_buffer (.attrMetd (rawValue .little) (register [115] [] DeclaredMirror.sensors) 1 2)
    valid_sensors (by decide)

/-- A description whose length is -1 to an int. -/
def endless : PyConnectModule := ⟨[109], List.replicate 4294967295 97, ∅, ∅⟩

/-- packedIntLen has two bytes for it, and packIntToStr writes none. -/
theorem endless_builds : (Message.declare ⟨.little, false, false⟩ endless 1).build =
    some ⟨[header .moduleDeclare 1, 0, 1, 109, msgEnd], 6⟩ := by
  have hlength : endless.desc.length = 4294967295 := List.length_replicate
  have hdesc : toInt endless.desc.length = -1 := by
    rw [hlength]
    decide
  have hpack : packString endless.desc (-1) true = [] := rfl
  rw [Message.build, declarePyConnectModule, hdesc, hpack]
  rfl

theorem not_fills_buffer_endless : ¬ ∀ x : Message, x.Valid → ∀ p, x.build = some p →
    (p.written.length : Int) = p.totalMsgSize := by
  intro h
  have hsize := h (.declare ⟨.little, false, false⟩ endless 1) trivial _ endless_builds
  revert hsize
  decide

end PyConnect.BuilderSizes

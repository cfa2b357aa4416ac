import PyConnect.Replicas
import PyConnect.CallElements

namespace PyConnect.ElementListing

open Bytes Decoding Common Values ValueCodec Stub StubInput StubMessage StubCall Wrapper
open WrapperInput WrapperSends CallElements Mirror MirrorMessage DeclaredMirror Replicas

variable {host whost : Host} {m : PyConnectModule} {obj : PyConnectObject}

def names (m : PyConnectModule) : List (List UInt8) := m.attributes.keys ++ m.methods.keys

/-- What a proxy lists: its attributes, and its methods with their ids. -/
def listed (obj : PyConnectObject) : List (List UInt8) × List (List UInt8 × Nat) :=
  (obj.pPyAttrs.map (·.name), obj.pPyMetds.map fun metd => (metd.name, metd.id))

structure Lists (obj : PyConnectObject) (told : List (List UInt8)) : Prop where
  names : (listed obj).1 ++ (listed obj).2.map (·.1) = told
  ids : ∀ (i : Nat) (x : List UInt8 × Nat), (listed obj).2[i]? = some x → x.2 = i

theorem names_attribute {i : Nat} {x : List UInt8 × Attribute}
    (hx : m.attributes.toList[i]? = some x) : (names m)[i]? = some x.1 := by
  have hlt := lt_size_of_getElem hx
  rw [names, List.getElem?_append_left (by rwa [Std.ExtTreeMap.length_keys]),
    ← Std.ExtTreeMap.map_fst_toList_eq_keys, List.getElem?_map, hx]
  rfl

theorem names_method {i : Nat} {x : List UInt8 × Method} (hx : m.methods.toList[i]? = some x) :
    (names m)[m.attributes.size + i]? = some x.1 := by
  rw [names, List.getElem?_append_right (by rw [Std.ExtTreeMap.length_keys]; omega),
    Std.ExtTreeMap.length_keys, Nat.add_sub_cancel_left, ← Std.ExtTreeMap.map_fst_toList_eq_keys,
    List.getElem?_map, hx]
  rfl

theorem names_assign (m : PyConnectModule) (name : List UInt8) (v : Value) :
    names (m.assign name v) = names m := by
  have hkeys : (m.assign name v).attributes.keys = m.attributes.keys := by
    rw [← Std.ExtTreeMap.map_fst_toList_eq_keys, ← Std.ExtTreeMap.map_fst_toList_eq_keys,
      AttributeUpdate.toList_assign, List.map_map]
    apply List.map_congr_left
    intro x _
    dsimp only [Function.comp_apply]
    split <;> rfl
  rw [names, hkeys]
  rfl

def readArg (arg : Argument) : PyConnectArgument :=
  ⟨PyConnectType.ofCode ((typeByte arg.isOptional arg.type).toNat &&& 0x3f),
    typeByte arg.isOptional arg.type >>> 6 ≠ 0⟩

def readArgs (args : List Argument) : List PyConnectArgument :=
  args.foldl (fun acc arg => acc ++ [readArg arg]) []

def listAttribute (host : Host) (x : List UInt8 × Attribute) (obj : PyConnectObject) :
    PyConnectObject :=
  obj.addNewAttribute x.1 x.2.type (!x.2.isWritable) (received host x.2.value)

def listMethod (x : List UInt8 × Method) (obj : PyConnectObject) : PyConnectObject :=
  obj.addNewMethod x.1
    (PyConnectType.ofCode ((UInt8.ofNat (x.2.type.code &&& 0x3f)).toNat &&& 0x3f))
    (readArgs x.2.args) ((readArgs x.2.args).filter (·.isOptional)).length

theorem decodes_readArg (arg : Argument) (args : List PyConnectArgument) :
    Decodes (exposeArgument args) [typeByte arg.isOptional arg.type] (args ++ [readArg arg]) 0 :=
  (decodes_byte (typeByte arg.isOptional arg.type)).map fun flag : UInt8 =>
    args ++ [(⟨PyConnectType.ofCode (flag.toNat &&& 0x3f), flag >>> 6 ≠ 0⟩ : PyConnectArgument)]

/-- A method with the arguments that its count says. -/
def counted (x : List UInt8 × Method) : List UInt8 × Method :=
  (x.1, { x.2 with args := x.2.args.take (x.2.args.length % 16) })

def countedBytes (x : List UInt8 × Method) : List UInt8 :=
  UInt8.ofNat (x.2.type.code &&& 0x3f) :: (packString x.1 false ++ UInt8.ofNat x.2.args.length ::
    (counted x).2.args.map fun arg => typeByte arg.isOptional arg.type)

theorem packMethod_counted (x : List UInt8 × Method) :
    packMethod x = countedBytes x ++ (x.2.args.drop (x.2.args.length % 16)).map fun arg =>
      typeByte arg.isOptional arg.type := by
  rw [packMethod, countedBytes, counted, List.cons_append, List.append_assoc, List.cons_append,
    ← List.map_append, List.take_append_drop]

theorem counted_eq {x : List UInt8 × Method} (harity : x.2.args.length ≤ 15) : counted x = x := by
  rw [counted, Nat.mod_eq_of_lt (by omega), List.take_length]

theorem decodes_counted (obj : PyConnectObject) {x : List UInt8 × Method} (hn : Named x.1) :
    Decodes (exposeMethod obj) (countedBytes x) (listMethod (counted x) obj) x.1.length := by
  refine (decodes_byte _).step (k := x.1.length) ?_ rfl (Int.zero_add _)
  refine (decodes_packString_name hn.2 hn.1).step (k := 0) ?_ rfl (Int.add_zero _)
  refine (decodes_byte _).step (k := 0) ?_ rfl (Int.add_zero 0)
  have h := (Decodes.forEach (fun arg : Argument => [typeByte arg.isOptional arg.type])
    (fun arg acc => acc ++ [readArg arg]) (fun _ => 0) (counted x).2.args []
    fun acc arg _ => decodes_readArg arg acc).map fun args =>
      obj.addNewMethod x.1
        (PyConnectType.ofCode ((UInt8.ofNat (x.2.type.code &&& 0x3f)).toNat &&& 0x3f)) args
        (args.filter (·.isOptional)).length
  have hlength : (counted x).2.args.length = x.2.args.length % 16 := by
    rw [counted, List.length_take, Nat.min_eq_left (Nat.mod_le _ _)]
  rw [← List.map_eq_flatMap, show ((counted x).2.args.map fun _ => (0 : Int)).sum = 0 by simp,
    hlength] at h
  rw [count_byte]
  exact h

theorem packMethod_eq_countedBytes {x : List UInt8 × Method} (harity : x.2.args.length ≤ 15) :
    packMethod x = countedBytes x := by
  rw [packMethod_counted, Nat.mod_eq_of_lt (by omega), List.drop_length, List.map_nil,
    List.append_nil]

theorem decodes_listMethod (obj : PyConnectObject) {x : List UInt8 × Method} (hn : Named x.1)
    (harity : x.2.args.length ≤ 15) :
    Decodes (exposeMethod obj) (packMethod x) (listMethod x obj) x.1.length := by
  have h := decodes_counted obj hn
  rwa [counted_eq harity, ← packMethod_eq_countedBytes harity] at h

theorem listed_foldl_listAttribute (host : Host) (xs : List (List UInt8 × Attribute))
    (obj : PyConnectObject) :
    listed (xs.foldl (fun obj x => listAttribute host x obj) obj) =
      ((listed obj).1 ++ xs.map (·.1), (listed obj).2) := by
  induction xs generalizing obj with
  | nil => simp
  | cons x xs ih =>
      rw [List.foldl_cons, ih]
      simp [listed, listAttribute, PyConnectObject.addNewAttribute]

theorem listed_foldl_listMethod (xs : List (List UInt8 × Method)) (obj : PyConnectObject) :
    listed (xs.foldl (fun obj x => listMethod x obj) obj) =
      ((listed obj).1,
        (listed obj).2 ++ xs.mapIdx fun i x => (x.1, (listed obj).2.length + i)) := by
  induction xs generalizing obj with
  | nil => simp
  | cons x xs ih =>
      have hone : listed (listMethod x obj) =
          ((listed obj).1, (listed obj).2 ++ [(x.1, (listed obj).2.length)]) := by
        simp [listed, listMethod, PyConnectObject.addNewMethod]
      rw [List.foldl_cons, ih, hone, List.mapIdx_cons]
      simp [Nat.add_assoc, Nat.add_comm 1]

theorem decodes_exposed (host whost : Host) (hm : Fits m) (hna : ∀ k ∈ m.attributes, Named k)
    (hnm : ∀ k ∈ m.methods, Named k) (obj : PyConnectObject) :
    ∃ k, Decodes (attrMetdExpose host obj) (exposeBytes whost m)
      (m.methods.toList.foldl (fun obj x => listMethod x obj)
        (m.attributes.toList.foldl (fun obj x => listAttribute host x obj) obj)) k := by
  have hattrs := Decodes.forEach (packAttribute whost) (listAttribute host)
    (fun x => x.1.length + unpackCost x.2.value) m.attributes.toList obj
    fun obj x hx => decodes_exposeAttribute host whost obj (hna _ (mem_of_toList hx))
      (hm.values x hx)
  have hmetds := Decodes.forEach packMethod listMethod (fun x => (x.1.length : Int))
    m.methods.toList (m.attributes.toList.foldl (fun obj x => listAttribute host x obj) obj)
    fun obj x hx => decodes_listMethod obj (hnm _ (mem_of_toList hx)) (hm.arity x hx)
  rw [Std.ExtTreeMap.length_toList] at hattrs hmetds
  exact decodes_sections hm.attrCount hm.metdCount hattrs hmetds

theorem decodes_listing (host whost : Host) (hm : Fits m) (hna : ∀ k ∈ m.attributes, Named k)
    (hnm : ∀ k ∈ m.methods, Named k) (hfresh : Fresh obj) :
    ∃ obj' k, Decodes (attrMetdExpose host obj) (exposeBytes whost m) obj' k ∧
      Lists obj' (names m) := by
  obtain ⟨k, hdecodes⟩ := decodes_exposed host whost hm hna hnm obj
  have hlisted : listed (m.methods.toList.foldl (fun obj x => listMethod x obj)
      (m.attributes.toList.foldl (fun obj x => listAttribute host x obj) obj)) =
      (m.attributes.keys, m.methods.toList.mapIdx fun i x => (x.1, i)) := by
    rw [listed_foldl_listMethod, listed_foldl_listAttribute]
    simp [listed, hfresh.1, hfresh.2]
  refine ⟨_, k, hdecodes, ?_, ?_⟩
  · have hids : (m.methods.toList.mapIdx fun i x => (x.1, i)).map (·.1) = m.methods.keys := by
      apply List.ext_getElem?
      intro i
      rw [← Std.ExtTreeMap.map_fst_toList_eq_keys, List.getElem?_map, List.getElem?_map,
        List.getElem?_mapIdx, Option.map_map]
      rfl
    rw [hlisted, names, hids]
  · intro i x hx
    rw [hlisted] at hx
    simp only [List.getElem?_mapIdx, Option.map_eq_some_iff] at hx
    obtain ⟨y, -, rfl⟩ := hx
    rfl

theorem Lists.congr {obj' : PyConnectObject} {told : List (List UInt8)} (h : Lists obj told)
    (he : listed obj' = listed obj) : Lists obj' told :=
  ⟨by rw [he]; exact h.names, by rw [he]; exact h.ids⟩

theorem fresh_iff : Fresh obj ↔ listed obj = ([], []) := by
  rw [Fresh, listed, Prod.mk.injEq, List.map_eq_nil_iff, List.map_eq_nil_iff]

theorem listed_setValue (obj : PyConnectObject) (i : Nat) (value : PyObject) :
    listed (obj.setValue i value) = listed obj := by
  refine Prod.ext ?_ rfl
  apply Maps.map_modify
  exact fun _ => rfl

theorem onSetAttrMetdResp_listed (obj : PyConnectObject) (index err : Nat) :
    Yields (obj.onSetAttrMetdResp host index err) fun x => listed x.1 = listed obj := by
  rw [PyConnectObject.onSetAttrMetdResp]
  split
  · split
    · exact .pure rfl
    · exact .after fun _ => .pure (listed_setValue obj index _)
  · split
    · split
      · exact .pure rfl
      · exact .after fun _ => .pure rfl
    · exact .pure rfl

theorem onGetAttrResp_listed (obj : PyConnectObject) (index err : Nat) :
    Yields (obj.onGetAttrResp host index err) fun x => listed x.1 = listed obj := by
  rw [PyConnectObject.onGetAttrResp]
  split
  · split
    · exact .pure rfl
    · exact .after fun _ => .pure (listed_setValue obj index _)
  · exact .pure rfl

theorem onSetAttrMetdDesc_listed (obj : PyConnectObject) :
    Yields obj.onSetAttrMetdDesc fun d => listed d.obj = listed obj := by
  have hattr : ∀ (i : Nat) (d : Described), listed d.obj = listed obj →
      Yields (describeAttribute i d) fun d => listed d.obj = listed obj := by
    intro i d hd
    refine .after fun desc => .pure (Eq.trans ?_ hd)
    refine Prod.ext ?_ rfl
    apply Maps.map_modify
    exact fun _ => rfl
  have hmetd : ∀ (i : Nat) (d : Described), listed d.obj = listed obj →
      Yields (describeMethod i d) fun d => listed d.obj = listed obj := by
    intro i d hd
    refine .after fun desc => .pure (Eq.trans ?_ hd)
    refine Prod.ext rfl ?_
    apply Maps.map_modify
    exact fun _ => rfl
  exact .after fun n => (Yields.forCount hattr 0 n rfl).bind fun _ hd =>
    .after fun n' => .forCount hmetd 0 n' hd

theorem objectMessage_listed (host : Host) (scope : CallbackScope) (obj : PyConnectObject)
    {t : Option PyConnectMsg} (ht : t ≠ some .attrMetdExpose) :
    Yields (objectMessage host scope obj t) fun h => listed h.obj = listed obj := by
  rw [objectMessage.eq_def]
  split
  · exact absurd rfl ht
  · exact .after fun x => (onSetAttrMetdResp_listed obj x.1 x.2).bind fun _ h => .pure h
  · exact .after fun x => (onGetAttrResp_listed obj x.1 x.2).bind fun _ h => .pure h
  · exact (onSetAttrMetdDesc_listed obj).bind fun _ h => .pure h
  · exact .pure rfl

structure Calls (data : List UInt8) (index : Nat) : Prop where
  type : typeOf data = some .callAttrMetd ∨ typeOf data = some .callAttrMetdNocb
  index : ∀ b : Build, requestedIndex b (byte (byte (startAt data 0)).2).2 = index

theorem Calls.called {data : List UInt8} {index : Nat} (h : Calls data index) (b : Build) :
    calledElement b (typeOf data) (byte (byte (startAt data 0)).2).2 = some index := by
  rw [calledElement, if_pos h.type, h.index]

theorem calls_remote {s : PyConnectStub} {index : Nat} {argStr : List UInt8} {t : PyConnectMsg}
    (ht : t = .callAttrMetd ∨ t = .callAttrMetdNocb) (hi : index < 32768) :
    ∀ data ∈ sent (remoteAttrMethodCall host s obj index argStr t), Calls data index := by
  intro data hdata
  rw [remoteAttrMethodCall] at hdata
  split at hdata
  · cases hdata
  have hn := packIntToStr_length index
  have hp : (callPacket host s obj.id index argStr t).data = header t s.serverID ::
      toByte obj.id :: (packLEInt host.bigEndian (packedIntLen index + argStr.length) ++
        (packIntToStr index ++ (argStr ++ [msgEnd]))) := by
    refine (Packet.data_eq ?_).trans ?_
    · simp only [callPacket, List.length_cons, List.length_append, List.length_nil, packLEInt,
        packNumber_length]
      omega
    · simp [callPacket]
  rw [Stub.send] at hdata
  split at hdata
  · rw [hp] at hdata
    obtain rfl := List.mem_singleton.mp hdata
    refine ⟨?_, fun b => ?_⟩
    · rw [typeOf, List.headD_cons, msgTypeOf_header, PyConnectMsg.ofCode_code]
      exact ht.imp (congrArg some) (congrArg some)
    · have hfour : (packLEInt host.bigEndian (packedIntLen index + argStr.length)).length = 4 := by
        rw [packLEInt, packNumber_length]
      obtain ⟨n, hsize⟩ := decodes_unpackLEInt b.host.bigEndian hfour
      rw [byte_cons, byte_cons, requestedIndex, startAt, hsize]
      dsimp only
      rw [setRemaining, decodes_packIntToStr hi]
  · cases hdata

/-- A script's doing leaves the listing, and sends only calls of an element
that is listed under this name. -/
structure CallsNamed (obj : PyConnectObject) (name : List UInt8) (a : Attempt) : Prop where
  keeps : listed a.obj = listed obj
  calls : ∀ told, Lists obj told → told.length ≤ 32768 → ∀ data ∈ sent a.effects,
    ∃ i, told[i]? = some name ∧ Calls data i

theorem CallsNamed.silent {name : List UInt8} {a : Attempt} (h : listed a.obj = listed obj)
    (hs : sent a.effects = []) : CallsNamed obj name a :=
  ⟨h, fun _ _ _ data hd => by rw [hs] at hd; cases hd⟩

theorem Lists.attribute {told : List (List UInt8)} (h : Lists obj told) {i : Nat}
    {attr : PyConnectAttribute} (ha : obj.pPyAttrs[i]? = some attr) : told[i]? = some attr.name := by
  obtain ⟨hlt, -⟩ := List.getElem?_eq_some_iff.mp ha
  rw [← h.names, listed, List.getElem?_append_left (by rwa [List.length_map]), List.getElem?_map, ha]
  rfl

theorem Lists.method {told : List (List UInt8)} (h : Lists obj told) {metd : PyConnectMethod}
    (hm : metd ∈ obj.pPyMetds) : told[obj.pPyAttrs.length + metd.id]? = some metd.name := by
  obtain ⟨i, hi⟩ := List.mem_iff_getElem?.mp hm
  have hpair : (listed obj).2[i]? = some (metd.name, metd.id) := by
    rw [listed, List.getElem?_map, hi]
    rfl
  have hid : metd.id = i := h.ids i _ hpair
  have hlen : (listed obj).1.length = obj.pPyAttrs.length := List.length_map _
  rw [← h.names, List.getElem?_append_right (by omega), hlen, Nat.add_sub_cancel_left,
    List.getElem?_map, hid, hpair]
  rfl

theorem setRemote_named (host : Host) (s : PyConnectStub) {i : Nat} {attr : PyConnectAttribute}
    (ha : obj.pPyAttrs[i]? = some attr) (value : PyObject) :
    CallsNamed obj attr.name (setRemote host s obj i attr value) := by
  have hcalls : ∀ (obj' : PyConnectObject) (argStr : List UInt8) (t : PyConnectMsg) (overflow : Bool),
      (t = .callAttrMetd ∨ t = .callAttrMetdNocb) → listed obj' = listed obj →
      CallsNamed obj attr.name ⟨obj', remoteAttrMethodCall host s obj i argStr t, none, overflow⟩ := by
    intro obj' argStr t overflow ht hobj
    refine ⟨hobj, fun told htold hlen data hd => ?_⟩
    have hi := htold.attribute ha
    obtain ⟨hlt, -⟩ := List.getElem?_eq_some_iff.mp hi
    exact ⟨i, hi, calls_remote ht (by omega) data hd⟩
  rw [setRemote]
  split
  · exact .silent rfl rfl
  dsimp only
  split
  · exact .silent rfl rfl
  split
  · exact hcalls _ _ _ _ (.inr rfl) (listed_setValue obj i value)
  · exact hcalls _ _ _ _ (.inl rfl) rfl

theorem setNamed_named (host : Host) (s : PyConnectStub) (obj : PyConnectObject)
    (name : List UInt8) (value : PyObject) : CallsNamed obj name (setNamed host s obj name value) := by
  rw [setNamed]
  cases ha : obj.pPyAttrs[obj.pPyAttrs.findIdx (·.name = name)]? with
  | some attr =>
      obtain ⟨hlt, he⟩ := List.getElem?_eq_some_iff.mp ha
      have hname := List.findIdx_getElem (w := hlt)
      rw [he] at hname
      rw [← of_decide_eq_true hname]
      rw [← of_decide_eq_true hname] at ha
      exact setRemote_named host s ha value
  | none =>
      dsimp only
      split
      · exact .silent rfl rfl
      · split
        · exact .silent rfl rfl
        · exact .silent rfl rfl

theorem setAttribute_named (host : Host) (s : PyConnectStub) (obj : PyConnectObject)
    (name : List UInt8) (value : PyObject) :
    CallsNamed obj name (setAttribute host s obj name value) := by
  unfold setAttribute
  split
  · cases value with
    | bool c =>
        have h := setNamed_named host s { obj with noCallback := c } name (.bool c)
        exact ⟨h.keeps, fun told htold => h.calls told (htold.congr rfl)⟩
    | _ => exact .silent rfl rfl
  · split
    · exact .silent rfl rfl
    · split
      · cases value with
        | str utf8 => exact .silent rfl rfl
        | _ => exact .silent rfl rfl
      · exact setNamed_named host s obj name value

theorem pyCall_named (host : Host) (s : PyConnectStub) {metd : PyConnectMethod}
    (hm : metd ∈ obj.pPyMetds) (args : List PyObject) :
    CallsNamed obj metd.name (pyCall host s obj metd args) := by
  rw [pyCall]
  dsimp only
  split
  · exact .silent rfl rfl
  split
  · exact .silent rfl rfl
  · refine ⟨rfl, fun told htold hlen data hd => ?_⟩
    have hi := htold.method hm
    obtain ⟨hlt, -⟩ := List.getElem?_eq_some_iff.mp hi
    have ht : (if obj.noCallback then PyConnectMsg.callAttrMetdNocb else .callAttrMetd) =
        .callAttrMetd ∨ (if obj.noCallback then PyConnectMsg.callAttrMetdNocb else .callAttrMetd) =
          .callAttrMetdNocb := by
      cases obj.noCallback <;> simp
    exact ⟨_, hi, calls_remote ht (by omega) data hd⟩

end PyConnect.ElementListing

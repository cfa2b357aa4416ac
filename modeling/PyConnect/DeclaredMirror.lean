import PyConnect.MirrorMessage
import PyConnect.StubInput
import PyConnect.Maps
import Mathlib.Algebra.Order.BigOperators.Group.List
import Mathlib.Tactic.Ring

namespace PyConnect.DeclaredMirror

open Bytes Decoding Common Values ValueCodec Stub Wrapper Mirror MirrorMessage StubInput

variable {whost : Host} {m : PyConnectModule}

theorem length_flatMap {ι : Type} (xs : List ι) (enc : ι → List UInt8) (size : ι → Int)
    (h : ∀ x ∈ xs, ((enc x).length : Int) = size x) :
    ((xs.flatMap enc).length : Int) = (xs.map size).sum := by
  induction xs with
  | nil => rfl
  | cons x xs ih =>
      have hx := h x List.mem_cons_self
      have hxs := ih fun y hy => h y (List.mem_cons_of_mem x hy)
      simp only [List.flatMap_cons, List.length_append, List.map_cons, List.sum_cons]
      omega

theorem packAttribute_length {x : List UInt8 × Attribute} (hv : x.2.value.Sized) :
    ((packAttribute whost x).length : Int) =
      x.1.length + (packRawAttrData whost x.2.value).dataLength + 2 := by
  have hraw := setData_sized whost hv
  rw [packAttribute, packRawAttrData, hraw, Int.toNat_natCast, List.take_length]
  simp [packString]
  ring

theorem packMethod_length (x : List UInt8 × Method) :
    ((packMethod x).length : Int) = (x.1.length + x.2.args.length) + 3 := by
  simp [packMethod, packString]
  ring

theorem attributes_length (pack : List UInt8 × Attribute → List UInt8)
    (len : List UInt8 × Attribute → Int)
    (h : ∀ x ∈ m.attributes.toList, ((pack x).length : Int) = x.1.length + len x + 2) :
    ((m.attributes.toList.flatMap pack).length : Int) =
      (m.attributes.toList.map fun x => (x.1.length : Int)).sum + (m.attributes.toList.map len).sum +
        m.attributes.size * 2 := by
  have ha := length_flatMap m.attributes.toList pack _ h
  rwa [List.sum_map_add, List.sum_map_add, List.map_const', List.sum_replicate, nsmul_eq_mul,
    Std.ExtTreeMap.length_toList] at ha

theorem methods_length (m : PyConnectModule) :
    ((m.methods.toList.flatMap packMethod).length : Int) =
      (m.methods.toList.map fun x => ((x.1.length : Int) + x.2.args.length)).sum +
        m.methods.size * 3 := by
  have hm := length_flatMap m.methods.toList packMethod _ fun x _ => packMethod_length x
  rwa [List.sum_map_add, List.map_const', List.sum_replicate, nsmul_eq_mul,
    Std.ExtTreeMap.length_toList] at hm

theorem attrMetdPacket_written (whost : Host)
    (hm : ∀ x ∈ m.attributes.toList, x.2.value.Sized) (serverId moduleId : Int) :
    ((attrMetdPacket whost m serverId moduleId).written.length : Int) =
      (attrMetdPacket whost m serverId moduleId).totalMsgSize := by
  have ha := attributes_length (packAttribute whost) _ fun x hx => packAttribute_length (hm x hx)
  have hmt := methods_length m
  have hna := packIntToStr_length m.attributes.size
  have hnm := packIntToStr_length m.methods.size
  simp only [attrMetdPacket, List.length_cons, List.length_append, List.length_nil]
  omega

theorem attrMetdDescPacket_written (m : PyConnectModule) (serverId moduleId : Int) :
    ((attrMetdDescPacket m serverId moduleId).written.length : Int) =
      (attrMetdDescPacket m serverId moduleId).totalMsgSize := by
  have ha := length_flatMap m.attributes.toList (fun x => packString x.2.desc true) _
    fun x _ => packString_length x.2.desc
  have hmt := length_flatMap m.methods.toList (fun x => packString x.2.desc true) _
    fun x _ => packString_length x.2.desc
  have hna := packIntToStr_length m.attributes.size
  have hnm := packIntToStr_length m.methods.size
  simp only [attrMetdDescPacket, List.length_cons, List.length_append, List.length_nil]
  omega

theorem dataLength_le {v : Value} (hv : v.Sized) :
    (packRawAttrData whost v).dataLength ≤ 32769 := by
  have hlen := encode_length_le whost hv
  rw [packRawAttrData, setData_sized whost hv]
  dsimp only
  omega

theorem sum_map_le {ι : Type} (xs : List ι) (f : ι → Int) (k : Int) (h : ∀ x ∈ xs, f x ≤ k) :
    (xs.map f).sum ≤ xs.length * k := by
  have hs := List.sum_le_card_nsmul (xs.map f) k (by simpa using h)
  rwa [List.length_map, nsmul_eq_mul] at hs

theorem attrMetdPacket_sized (whost : Host) (hm : Fits m) (hna : ∀ k ∈ m.attributes, Named k)
    (hnm : ∀ k ∈ m.methods, Named k) (serverId moduleId : Int) :
    (attrMetdPacket whost m serverId moduleId).totalMsgSize < 2 ^ 31 := by
  have ha := sum_map_le m.attributes.toList (fun x => (x.1.length : Int)) 255
    fun x hx => by simpa using (hna x.1 (mem_of_toList hx)).2
  have hv := sum_map_le m.attributes.toList
    (fun x => (packRawAttrData whost x.2.value).dataLength) 32769
    fun x hx => dataLength_le (hm.values x hx)
  have hmt := sum_map_le m.methods.toList (fun x => (x.1.length + x.2.args.length : Int)) 270
    fun x hx => by
      have hn := (hnm x.1 (mem_of_toList hx)).2
      have hargs := hm.arity x hx
      omega
  have hna' := packedIntLen_le m.attributes.size
  have hnm' := packedIntLen_le m.methods.size
  have hac := hm.attrCount
  have hmc := hm.metdCount
  rw [Std.ExtTreeMap.length_toList] at ha hv hmt
  simp only [attrMetdPacket]
  omega

theorem declareModuleAttrMetd_effects {w : PyConnectWrapper} (b : Build)
    (hw : w.pyConnectModule = some m) (hm : Fits m) (hna : ∀ k ∈ m.attributes, Named k)
    (hnm : ∀ k ∈ m.methods, Named k) (serverId : Int) :
    (declareModuleAttrMetd b w serverId).2 = [.dispatch (header .attrMetdExpose serverId ::
      toByte (w.serverEntry serverId).2.assignedModuleID :: (exposeBytes b.host m ++ [msgEnd]))
      false] := by
  have hs := attrMetdPacket_sized b.host hm hna hnm serverId
    (w.serverEntry serverId).2.assignedModuleID
  have hd := Packet.data_eq (attrMetdPacket_written b.host hm.values serverId
    (w.serverEntry serverId).2.assignedModuleID)
  rw [declareModuleAttrMetd, hw]
  exact congrArg (fun e => [e]) ((Wrapper.send_eq hs false).trans (by rw [hd]; rfl))

theorem serverEntry_module (w : PyConnectWrapper) (serverId : Int) :
    (w.serverEntry serverId).1.pyConnectModule = w.pyConnectModule := by
  rw [PyConnectWrapper.serverEntry]
  split <;> rfl

theorem declareModuleAttrMetd_module (b : Build) (w : PyConnectWrapper) (serverId : Int) :
    (declareModuleAttrMetd b w serverId).1.pyConnectModule = w.pyConnectModule := by
  rw [declareModuleAttrMetd]
  split
  · rfl
  · exact serverEntry_module w serverId

def descSize (m : PyConnectModule) : Nat := (descBytes m).length + 3

theorem attrMetdDescPacket_size_eq (m : PyConnectModule) (serverId moduleId : Int) :
    (attrMetdDescPacket m serverId moduleId).totalMsgSize = descSize m := by
  rw [← attrMetdDescPacket_written m]
  simp only [attrMetdDescPacket, descSize, descBytes, List.length_cons, List.length_append,
    List.length_nil]

theorem declareModuleAttrMetdDesc_effects {w : PyConnectWrapper} (hw : w.pyConnectModule = some m)
    (hs : descSize m < 2 ^ 31) (serverId : Int) :
    (declareModuleAttrMetdDesc w serverId).2 = [.dispatch (header .attrMetdDesc serverId ::
      toByte (w.serverEntry serverId).2.assignedModuleID :: (descBytes m ++ [msgEnd])) false] := by
  have hs' := attrMetdDescPacket_size_eq m serverId (w.serverEntry serverId).2.assignedModuleID
  have hd := Packet.data_eq (attrMetdDescPacket_written m serverId
    (w.serverEntry serverId).2.assignedModuleID)
  rw [declareModuleAttrMetdDesc, hw]
  exact congrArg (fun e => [e]) ((Wrapper.send_eq (by omega) false).trans (by rw [hd]; rfl))

theorem handled_of_decodes {α : Type} {d : Decoder α} {bs : List UInt8} {a : α} {k : Int}
    (hd : Decodes d bs a k) (h : α → Handled) (remaining : Int) :
    (do let a ← d; pure (h a)) (startAt (bs ++ [msgEnd]) remaining) =
      (h a, ⟨[msgEnd], 0, remaining - k⟩) :=
  (hd.map h) [msgEnd] 0 remaining

theorem toPy_ne_null (host : Host) (v : Value) : v.toPy host ≠ .null := by
  cases v <;> exact PyObject.noConfusion

theorem nullAdded_exposed {host : Host} {m : PyConnectModule} {obj obj' : PyConnectObject}
    (ha : obj.pPyAttrs = []) (h : Exposed host m obj') : nullAdded obj obj' = false := by
  have hadded : obj'.pPyAttrs = obj.pPyAttrs ++
      m.attributes.toList.map (undescribed ∘ mirrorAttribute host) := by
    rw [ha, h.attributes, List.nil_append]
  rw [nullAdded_append hadded, List.any_eq_false]
  intro attr hattr
  obtain ⟨x, -, rfl⟩ := List.mem_map.mp hattr
  exact fun hnull => toPy_ne_null host x.2.value (of_decide_eq_true hnull)

/-- What a module declares of itself, decoded on an object, makes the object
its mirror image, and each message is read up to its end marker. -/
def DeclaresMirror (b : Build) (w : PyConnectWrapper) (serverId : Int) (host : Host)
    (scope : CallbackScope) (obj : PyConnectObject) (remaining : Int) (m : PyConnectModule) : Prop :=
  ∃ h i body h' i' body' exposed described k k',
    (declareModuleAttrMetd b w serverId).2 = [.dispatch (h :: i :: body) false] ∧
    (declareModuleAttrMetdDesc (declareModuleAttrMetd b w serverId).1 serverId).2 =
      [.dispatch (h' :: i' :: body') false] ∧
    objectMessage host scope obj (PyConnectMsg.ofCode (msgTypeOf h)) (startAt body remaining) =
      (exposed, ⟨[msgEnd], 0, k⟩) ∧
    objectMessage host scope exposed.obj (PyConnectMsg.ofCode (msgTypeOf h'))
      (startAt body' remaining) = (described, ⟨[msgEnd], 0, k'⟩) ∧
    exposed.known ∧ described.known ∧
    exposed.effects = [.invokeCallback scope (text "onModuleCreated") [.connectObject exposed.obj.id]] ∧
    described.effects = [] ∧ Mirrors host m described.obj

/-- Whatever was registered with the module, decoding its two descriptions on
a fresh object shows all of it. -/
theorem declared_mirrors {name desc : List UInt8} {rs : List Registration} {w : PyConnectWrapper}
    (b : Build) (host : Host) (scope : CallbackScope) (serverId : Int) {obj : PyConnectObject}
    (hw : w.pyConnectModule = some (register name desc rs)) (hm : Exportable (register name desc rs))
    (hs : descSize (register name desc rs) < 2 ^ 31)
    (ha : obj.pPyAttrs = []) (hmt : obj.pPyMetds = []) (remaining : Int) :
    DeclaresMirror b w serverId host scope obj remaining (register name desc rs) := by
  obtain ⟨hna, hnm⟩ := register_named name desc rs
  obtain ⟨obj₁, k₁, hexpose, hexposed⟩ :=
    exposed_attrMetdExpose host b.host hm.toExposable hna hnm ha hmt
  obtain ⟨obj₂, k₂, hdescribe, hmirrors⟩ := mirrors_onSetAttrMetdDesc hm hexposed
  have hw' := (declareModuleAttrMetd_module b w serverId).trans hw
  refine ⟨_, _, _, _, _, _, ⟨obj₁, [.invokeCallback scope (text "onModuleCreated")
    [.connectObject obj₁.id]], true⟩, ⟨obj₂, [], true⟩, remaining - k₁, remaining - k₂,
    declareModuleAttrMetd_effects b hw hm.fits hna hnm serverId,
    declareModuleAttrMetdDesc_effects hw' hs serverId, ?_, ?_, rfl, rfl, rfl, rfl, hmirrors⟩
  · rw [msgTypeOf_header, PyConnectMsg.ofCode_code]
    have hhandled := handled_of_decodes hexpose (fun obj' => ⟨obj', if nullAdded obj obj' then [.crash]
      else Stub.invoke scope (text "onModuleCreated") [.connectObject obj'.id], true⟩) remaining
    rw [nullAdded_exposed ha hexposed, if_neg Bool.false_ne_true, invoke_eq (by simp)] at hhandled
    exact hhandled
  · rw [msgTypeOf_header, PyConnectMsg.ofCode_code]
    exact handled_of_decodes hdescribe
      (fun d => ⟨d.obj, if d.stray then [.stray] else [], true⟩) remaining

def sensors : List Registration :=
  [.attr [110] [104, 105] (.string [120]) true, .attr [99] [] (.int 7) false,
    .metd [109] [] .pyVoid [.int, .bool] true (fun _ => .returnsVoid)
      [⟨.int, false⟩, ⟨.bool, true⟩]]

theorem sensors_attributes : (register [115] [] sensors).attributes.toList =
    [([99], ⟨[], .int 7, false⟩), ([110], ⟨[104, 105], .string [120], true⟩)] := by
  decide

theorem sensors_methods : (register [115] [] sensors).methods.toList =
    [([109], ⟨[], .pyVoid, [⟨.int, false⟩, ⟨.bool, true⟩], [.int, .bool], true,
      fun _ => .returnsVoid⟩)] := rfl

theorem exportable_sensors : Exportable (register [115] [] sensors) where
  values x hx := by
    rw [sensors_attributes, List.mem_pair] at hx
    obtain rfl | rfl := hx
    · exact trivial
    · exact ⟨by decide, by decide, by decide⟩
  attrDescs := by
    rw [sensors_attributes]
    decide
  types x hx := by
    rw [sensors_methods, List.mem_singleton] at hx
    subst hx
    simp [PyConnectType.Declared]
  arity := by
    rw [sensors_methods]
    decide
  metdDescs := by
    rw [sensors_methods]
    decide
  attrCount := by decide
  metdCount := by decide

theorem declared_mirrors_sensors : ∃ obj : PyConnectObject,
    obj.pPyAttrs = [⟨[99], .int, true, .int 7, []⟩, ⟨[110], .string, false, .str [120], [104, 105]⟩] ∧
      obj.pPyMetds = [⟨[109], .pyVoid, [⟨.int, false⟩, ⟨.bool, true⟩], 1, 0, []⟩] := by
  have h : DeclaresMirror ⟨.little, false, false⟩ ⟨some (register [115] [] sensors), ∅, false⟩ 3
      .little .mainScript (PyConnectObject.create [115] 1 none 0) 0 (register [115] [] sensors) :=
    declared_mirrors _ _ _ 3 rfl exportable_sensors (by decide) rfl rfl 0
  obtain ⟨_, _, _, _, _, _, _, described, _, _, _, _, _, _, _, _, _, _, hm⟩ := h
  refine ⟨described.obj, hm.attributes.trans ?_, hm.methods.trans ?_⟩
  · rw [sensors_attributes]
    decide
  · rw [sensors_methods]
    decide

def nameOf (i : Nat) : List UInt8 := [UInt8.ofNat (i % 200 + 1), UInt8.ofNat (i / 200 + 1)]

theorem nameOf_inj {i j : Nat} (hi : i < 51000) (hj : j < 51000) (h : nameOf i = nameOf j) : i = j := by
  rw [nameOf, nameOf, List.cons.injEq, List.cons.injEq, ← UInt8.toNat_inj, ← UInt8.toNat_inj,
    UInt8.toNat_ofNat', UInt8.toNat_ofNat', UInt8.toNat_ofNat', UInt8.toNat_ofNat'] at h
  omega

theorem cString_nameOf {i : Nat} (hi : i < 51000) : cString (nameOf i) = nameOf i := by
  apply cString_eq
  rw [nameOf, List.mem_pair, ← UInt8.toNat_inj, ← UInt8.toNat_inj, UInt8.toNat_ofNat',
    UInt8.toNat_ofNat']
  change ¬ (0 = _ ∨ 0 = _)
  omega

/-- A map that has the same value under each of the first names. -/
structure Filled {β : Type} (v : β) (n : Nat) (map : Std.ExtTreeMap (List UInt8) β) : Prop where
  size : map.size = n
  entries : ∀ (k : List UInt8) (x : β), map[k]? = some x → x = v ∧ ∃ i < n, k = nameOf i

theorem Filled.nameOf_not_mem {β : Type} {v : β} {n : Nat} {map : Std.ExtTreeMap (List UInt8) β}
    (h : Filled v n map) (hn : n < 51000) : nameOf n ∉ map := by
  intro hm
  rw [Std.ExtTreeMap.mem_iff_isSome_getElem?, Option.isSome_iff_exists] at hm
  obtain ⟨x, hx⟩ := hm
  obtain ⟨-, i, hi, he⟩ := h.entries _ x hx
  have := nameOf_inj hn (by omega) he
  omega

theorem Filled.insert {β : Type} {v : β} {n : Nat} {map : Std.ExtTreeMap (List UInt8) β}
    (h : Filled v n map) (hn : n < 51000) : Filled v (n + 1) (map.insert (nameOf n) v) := by
  refine ⟨?_, fun k x hk => ?_⟩
  · simp [Std.ExtTreeMap.size_insert, h.nameOf_not_mem hn, h.size]
  · rw [Maps.get_insert] at hk
    split at hk
    next he => exact ⟨(Option.some.inj hk).symm, n, by omega, by simp [he]⟩
    next =>
      obtain ⟨hx, i, hi, he⟩ := h.entries k x hk
      exact ⟨hx, i, by omega, he⟩

theorem Filled.mem_toList {β : Type} {v : β} {n : Nat} {map : Std.ExtTreeMap (List UInt8) β}
    (h : Filled v n map) {x : List UInt8 × β} (hx : x ∈ map.toList) : x.2 = v :=
  (h.entries x.1 x.2 (Std.ExtTreeMap.mem_toList_iff_getElem?_eq_some.mp hx)).1

def longest : List UInt8 := List.replicate maxStrLength 97

theorem not_mem_longest : 0 ∉ longest := by
  rw [longest, List.mem_replicate]
  exact fun h => absurd h.2 (by decide)

def talkative (n : Nat) : List Registration :=
  (List.range n).flatMap fun i => [.attr (nameOf i) longest (.bool false) false,
    .metd (nameOf i) longest .pyVoid [] true (fun _ => .returnsVoid) []]

theorem filled_talkative (n : Nat) (hn : n < 51000) :
    Filled ⟨longest, .bool false, false⟩ n (register [116] [] (talkative n)).attributes ∧
      Filled ⟨longest, .pyVoid, [], [], true, fun _ => .returnsVoid⟩ n
        (register [116] [] (talkative n)).methods := by
  induction n with
  | zero => exact ⟨⟨rfl, by simp [talkative, register]⟩, ⟨rfl, by simp [talkative, register]⟩⟩
  | succ n ih =>
      obtain ⟨ha, hm⟩ := ih (by omega)
      have hname := cString_nameOf (i := n) (by omega)
      have hlen : ¬ (nameOf n).length > 255 := by simp [nameOf]
      have hstep : register [116] [] (talkative (n + 1)) =
          ((register [116] [] (talkative n)).addNewAttribute (nameOf n) longest (.bool false)
            false).addNewMethod (nameOf n) longest .pyVoid [] true (fun _ => .returnsVoid) [] := by
        simp [register, talkative, List.range_succ, Registration.apply]
      rw [hstep, PyConnectModule.addNewAttribute, hname, cString_eq not_mem_longest, if_neg hlen,
        if_neg (ha.nameOf_not_mem (by omega)), PyConnectModule.addNewMethod, hname,
        cString_eq not_mem_longest, if_neg hlen]
      dsimp only
      rw [if_neg (hm.nameOf_not_mem (by omega))]
      exact ⟨ha.insert (by omega), hm.insert (by omega)⟩

theorem describable_longest : Describable longest :=
  ⟨not_mem_longest, by rw [longest, List.length_replicate]⟩

theorem exportable_talkative : Exportable (register [116] [] (talkative 32767)) := by
  obtain ⟨ha, hm⟩ := filled_talkative 32767 (by decide)
  constructor
  · constructor
    · intro x hx
      rw [ha.mem_toList hx]
      exact trivial
    · intro x hx
      rw [hm.mem_toList hx]
      exact ⟨trivial, by simp⟩
    · intro x hx
      rw [hm.mem_toList hx]
      decide
    · exact ha.size.le
    · exact hm.size.le
  · intro x hx
    rw [ha.mem_toList hx]
    exact describable_longest
  · intro x hx
    rw [hm.mem_toList hx]
    exact describable_longest

theorem packString_longest : ((packString longest true).length : Int) = 32769 := by
  rw [packString_length, longest, List.length_replicate]
  decide

theorem descSize_filled {a : Attribute} {f : Method} {n : Nat} {k : Int}
    (ha : Filled a n m.attributes) (hm : Filled f n m.methods)
    (hak : ((packString a.desc true).length : Int) = k)
    (hfk : ((packString f.desc true).length : Int) = k) :
    (descSize m : Int) = 2 * (packedIntLen n + n * k) + 3 := by
  have hattrs := length_flatMap m.attributes.toList (fun x => packString x.2.desc true)
    (fun _ => k) fun x hx => by rw [ha.mem_toList hx]; exact hak
  have hmetds := length_flatMap m.methods.toList (fun x => packString x.2.desc true)
    (fun _ => k) fun x hx => by rw [hm.mem_toList hx]; exact hfk
  have hn := packIntToStr_length n
  rw [List.map_const', List.sum_replicate, nsmul_eq_mul, Std.ExtTreeMap.length_toList, ha.size]
    at hattrs
  rw [List.map_const', List.sum_replicate, nsmul_eq_mul, Std.ExtTreeMap.length_toList, hm.size]
    at hmetds
  simp only [descSize, descBytes, List.length_append, ha.size, hm.size]
  omega

theorem descSize_talkative : descSize (register [116] [] (talkative 32767)) = 2147483653 := by
  obtain ⟨ha, hm⟩ := filled_talkative 32767 (by decide)
  have h := descSize_filled ha hm packString_longest packString_longest
  have hn : packedIntLen (32767 : Nat) = 2 := by decide
  rw [hn] at h
  omega

/-- With as many and as long descriptions as the rest of the protocol admits,
the size of the message that carries them is no int. -/
theorem not_declaresMirror_talkative :
    Exportable (register [116] [] (talkative 32767)) ∧
      ¬ DeclaresMirror ⟨.little, false, false⟩
        ⟨some (register [116] [] (talkative 32767)), ∅, false⟩ 3 .little .mainScript
        (PyConnectObject.create [116] 1 none 0) 0 (register [116] [] (talkative 32767)) := by
  refine ⟨exportable_talkative, ?_⟩
  rintro ⟨_, _, _, _, _, _, _, _, _, _, -, hdesc, -⟩
  have hsize := attrMetdDescPacket_size_eq (register [116] [] (talkative 32767)) 3
  rw [declareModuleAttrMetdDesc, declareModuleAttrMetd_module] at hdesc
  dsimp only at hdesc
  rw [Wrapper.send, if_neg (by rw [hsize, descSize_talkative]; decide)] at hdesc
  simp at hdesc

end PyConnect.DeclaredMirror

import PyConnect.AttributeWrites
import PyConnect.ModuleRouting
import PyConnect.ModuleTable

namespace PyConnect.Multiplexing

open Bytes Decoding Common Values Stub StubInput StubCall StubMessage AttributeWrites
open ModuleRouting ModuleTable

/-- What happens to a server: a message on any of its connections, or a script
that writes to a proxy, calls one of its methods or disconnects it. -/
inductive Event
  | receive (data : List UInt8) (cAddr : SockAddr)
  | write (id : Int) (name : List UInt8) (value : PyObject)
  | call (id : Int) (metd : Nat) (args : List PyObject)
  | disconnect (id : Int)

/-- What an event has the server do, the exception of a call from Python that fails,
and whether one that does not leaves an OverflowError behind. -/
structure Reaction where
  effects : List Effect
  err : Option PyErr
  overflow : Bool
  deriving DecidableEq, Repr

def reacts (effects : List Effect) : Reaction := ⟨effects, none, false⟩

def Attempt.reaction (a : Attempt) : Reaction := ⟨a.effects, a.err, a.overflow⟩

def act (host : Host) (s : PyConnectStub) : Event → PyConnectStub × Reaction
  | .receive data cAddr =>
      let o := processMessage host s data cAddr
      (o.stub, reacts o.effects)
  | .write id name value =>
      match findModuleByID s id with
      | none => (s, reacts [])
      | some obj =>
          let a := setAttribute host s obj name value
          (PyConnectStub.update s id a.obj, Attempt.reaction a)
  | .call id metd args =>
      match findModuleByID s id with
      | none => (s, reacts [])
      | some obj =>
          match obj.pPyMetds[metd]? with
          | none => (s, reacts [])
          | some m => (s, Attempt.reaction (pyCall host s obj m args))
  | .disconnect id =>
      let (s, effects) := shutdownModuleByRef s id
      (s, reacts effects)

def trace (host : Host) : PyConnectStub → List Event → List (Event × Reaction)
  | _, [] => []
  | s, e :: es => (e, (act host s e).2) :: trace host (act host s e).1 es

/-- The types of messages whose second byte is the id of a module. -/
def carriesId (data : List UInt8) : Bool :=
  let t := PyConnectMsg.ofCode (msgTypeOf (data.headD 0))
  decide (msgTypeOf (data.headD 0) ≠ 0) && decide (t ≠ some .moduleDeclare) &&
    decide (t ≠ some .peerServerMsg) && decide (t ≠ some .peerServerDiscovery)

def sender (data : List UInt8) : Int := (data.getD 1 0).toNat

/-- The messages of a module, whatever else is in them, and what scripts do with
its proxy. -/
def concerns (k : Int) : Event → Bool
  | .receive data _ => carriesId data && decide (sender data = k)
  | .write id _ _ => decide (id = k)
  | .call id _ _ => decide (id = k)
  | .disconnect id => decide (id = k)

/-- A message is not from a module with an id above 15, of which the server would
read four bits only. -/
def Numbered : Event → Prop
  | .receive data _ => carriesId data = true → sender data ≤ 15
  | _ => True

instance instDecidableNumbered : DecidablePred Numbered
  | .receive data _ => inferInstanceAs (Decidable (carriesId data = true → sender data ≤ 15))
  | .write _ _ _ | .call _ _ _ | .disconnect _ => .isTrue trivial

def proxies (k : Int) (s : PyConnectStub) : List PyConnectObject := s.modules.filter (·.id = k)

def only (k : Int) (s : PyConnectStub) : PyConnectStub := { s with modules := proxies k s }

def start (pow : Bool) (pyConnect : PyDict) (serverID : Int) : PyConnectStub :=
  ⟨pow, pyConnect, 1, [], serverID⟩

structure Same (k : Int) (s s' : PyConnectStub) : Prop where
  pow : s.pow = s'.pow
  serverID : s.serverID = s'.serverID
  proxies : proxies k s = proxies k s'

variable {host : Host} {s s' : PyConnectStub} {k id : Int} {e : Event} {obj : PyConnectObject}

theorem findModuleByID_eq (s : PyConnectStub) (k : Int) :
    findModuleByID s k = (proxies k s).head? := by
  rw [findModuleByID, proxies, List.head?_filter]

theorem Same.find (h : Same k s s') : findModuleByID s k = findModuleByID s' k := by
  rw [findModuleByID_eq, findModuleByID_eq, h.proxies]

theorem Same.scope (h : Same k s s') : s.scope = s'.scope := by
  rw [PyConnectStub.scope, PyConnectStub.scope, h.pow]

theorem filter_modify {α : Type} (p : α → Bool) (x y : α) (hy : p y = true) :
    ∀ xs : List α, xs.find? p = some x →
      (xs.modify (xs.findIdx p) fun _ => y).filter p = y :: (xs.filter p).tail := by
  intro xs
  induction xs with
  | nil => intro h; cases h
  | cons a xs ih =>
      intro h
      rw [List.find?_cons] at h
      cases ha : p a with
      | true => simp [List.findIdx_cons, ha, hy]
      | false =>
          rw [ha] at h
          simpa [List.findIdx_cons, ha] using ih h

theorem proxies_update (hfind : (findModuleByID s id).isSome) (hobj : obj.id = id) :
    proxies id (PyConnectStub.update s id obj) = obj :: (proxies id s).tail := by
  obtain ⟨x, hx⟩ := Option.isSome_iff_exists.mp hfind
  exact filter_modify (fun obj : PyConnectObject => decide (obj.id = id)) x obj (decide_eq_true hobj) s.modules hx

theorem proxies_deleteModuleByID (s : PyConnectStub) (id : Int) :
    proxies id (deleteModuleByID s id).1 = (proxies id s).tail := by
  rw [proxies, deleteModuleByID_modules, proxies]
  induction s.modules with
  | nil => rfl
  | cons x xs ih =>
      by_cases hx : x.id = id
      · simp [hx]
      · simpa [hx] using ih

theorem callPacket_congr (h : s.serverID = s'.serverID) (objID index : Int) (argStr : List UInt8)
    (msgType : PyConnectMsg) :
    callPacket host s objID index argStr msgType = callPacket host s' objID index argStr msgType := by
  rw [callPacket, callPacket, h]

theorem remoteAttrMethodCall_congr (h : s.serverID = s'.serverID) (obj : PyConnectObject) (index : Int)
    (argStr : List UInt8) (msgType : PyConnectMsg) :
    remoteAttrMethodCall host s obj index argStr msgType =
      remoteAttrMethodCall host s' obj index argStr msgType := by
  rw [remoteAttrMethodCall, remoteAttrMethodCall, callPacket_congr h]

theorem setAttribute_congr (h : s.serverID = s'.serverID) (obj : PyConnectObject) (name : List UInt8)
    (value : PyObject) : setAttribute host s obj name value = setAttribute host s' obj name value := by
  have hnamed : ∀ obj, setNamed host s obj name value = setNamed host s' obj name value := by
    intro obj
    simp only [setNamed, setRemote, remoteAttrMethodCall_congr h]
  simp only [setAttribute, hnamed]

theorem pyCall_congr (h : s.serverID = s'.serverID) (obj : PyConnectObject) (metd : PyConnectMethod)
    (args : List PyObject) : pyCall host s obj metd args = pyCall host s' obj metd args := by
  simp only [pyCall, remoteAttrMethodCall_congr h]

theorem Same.update (h : Same id s s') (hfind : findModuleByID s id = some obj) {obj' : PyConnectObject}
    (hobj : obj'.id = id) : Same id (PyConnectStub.update s id obj') (PyConnectStub.update s' id obj') := by
  refine ⟨h.pow, h.serverID, ?_⟩
  rw [proxies_update (by rw [hfind]; rfl) hobj, proxies_update (by rw [← h.find, hfind]; rfl) hobj,
    h.proxies]

theorem Same.delete (h : Same id s s') : Same id (deleteModuleByID s id).1 (deleteModuleByID s' id).1 := by
  have hkept : ∀ s : PyConnectStub, (deleteModuleByID s id).1.pow = s.pow ∧
      (deleteModuleByID s id).1.serverID = s.serverID := by
    intro s
    rw [deleteModuleByID]
    split
    · exact ⟨rfl, rfl⟩
    · exact ⟨rfl, rfl⟩
  refine ⟨?_, ?_, ?_⟩
  · rw [(hkept s).1, (hkept s').1, h.pow]
  · rw [(hkept s).2, (hkept s').2, h.serverID]
  · rw [proxies_deleteModuleByID, proxies_deleteModuleByID, h.proxies]

theorem objectInput_same (host : Host) (h : Same k s s') (t : Option PyConnectMsg) (c : Cursor) :
    Same k (objectInput host s k t c).stub (objectInput host s' k t c).stub ∧
      (objectInput host s k t c).effects = (objectInput host s' k t c).effects := by
  rw [objectInput, objectInput, ← h.find]
  cases hfind : findModuleByID s k with
  | none => exact ⟨h, rfl⟩
  | some obj =>
      dsimp only
      rw [← h.scope]
      exact ⟨h.update hfind ((objectMessage_id s.scope obj t c).trans (findModuleByID_id hfind)), rfl⟩

theorem shutdownInput_same (h : Same k s s') (c : Cursor) :
    Same k (shutdownInput s k c).stub (shutdownInput s' k c).stub ∧
      (shutdownInput s k c).effects = (shutdownInput s' k c).effects := by
  refine ⟨h.delete, ?_⟩
  dsimp only [shutdownInput]
  rw [deleteModuleByID, deleteModuleByID, ← h.find, ← h.scope]
  split <;> rfl

theorem lowNibble_sender {data : List UInt8} (h : sender data ≤ 15) :
    (lowNibble (data.getD 1 0) : Int) = sender data := by
  rw [sender] at h ⊢
  rw [lowNibble_eq]
  omega

theorem processMessage_concerned {data : List UInt8} {cAddr : SockAddr}
    (hnumbered : Numbered (.receive data cAddr)) (h : concerns k (.receive data cAddr) = true)
    (host : Host) (s : PyConnectStub) :
    processMessage host s data cAddr =
      let t := PyConnectMsg.ofCode (msgTypeOf (data.headD 0))
      let c := (byte (byte (startAt data 0)).2).2
      if t = some .moduleShutdown then shutdownInput s k c else objectInput host s k t c := by
  rw [concerns, Bool.and_eq_true, decide_eq_true_eq] at h
  obtain ⟨hcarries, rfl⟩ := h
  rw [← lowNibble_sender (hnumbered hcarries)]
  simp only [carriesId, Bool.and_eq_true, decide_eq_true_eq] at hcarries
  obtain ⟨⟨⟨h0, hdeclare⟩, hpeer⟩, hdiscovery⟩ := hcarries
  rw [processMessage_typed]
  dsimp only
  rw [if_neg h0, if_neg hdeclare, if_neg hpeer, if_neg hdiscovery]

/-- What concerns a proxy depends on nothing else and has the same effects. -/
theorem Same.act (h : Same k s s') (host : Host) (hnumbered : Numbered e) (he : concerns k e = true) :
    Same k (act host s e).1 (act host s' e).1 ∧ (act host s e).2 = (act host s' e).2 := by
  cases e with
  | receive data cAddr =>
      simp only [Multiplexing.act, processMessage_concerned hnumbered he]
      split
      · obtain ⟨hsame, heffects⟩ := shutdownInput_same h (byte (byte (startAt data 0)).2).2
        exact ⟨hsame, congrArg reacts heffects⟩
      · obtain ⟨hsame, heffects⟩ := objectInput_same host h
          (PyConnectMsg.ofCode (msgTypeOf (data.headD 0))) (byte (byte (startAt data 0)).2).2
        exact ⟨hsame, congrArg reacts heffects⟩
  | write id name value =>
      obtain rfl := of_decide_eq_true he
      simp only [Multiplexing.act, ← h.find]
      cases hfind : findModuleByID s id with
      | none => exact ⟨h, rfl⟩
      | some obj =>
          have hid : (setAttribute host s obj name value).obj.id = id :=
            (congrArg Prod.fst (setAttribute_fixed host s obj name value)).trans (findModuleByID_id hfind)
          dsimp only
          rw [← setAttribute_congr h.serverID]
          exact ⟨h.update hfind hid, rfl⟩
  | call id metd args =>
      obtain rfl := of_decide_eq_true he
      simp only [Multiplexing.act, ← h.find]
      cases findModuleByID s id with
      | none => exact ⟨h, rfl⟩
      | some obj =>
          dsimp only
          cases obj.pPyMetds[metd]? with
          | none => exact ⟨h, rfl⟩
          | some m => exact ⟨h, congrArg Attempt.reaction (pyCall_congr h.serverID obj m args)⟩
  | disconnect id =>
      obtain rfl := of_decide_eq_true he
      simp only [Multiplexing.act]
      rw [shutdownModuleByRef_stub, shutdownModuleByRef_stub]
      refine ⟨h.delete, ?_⟩
      rw [shutdownModuleByRef, shutdownModuleByRef, ← h.find, ← h.scope, ← h.serverID]
      split <;> rfl

theorem Same.refl (k : Int) (s : PyConnectStub) : Same k s s := ⟨rfl, rfl, rfl⟩

end PyConnect.Multiplexing

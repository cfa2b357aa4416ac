import PyConnect.Brackets
import PyConnect.HandedObjects

namespace PyConnect.GilBalance

open Brackets Decoding Common Values Stub StubInput StubMessage MessageSize MessageBounds WrapperSends
open HandedObjects

variable {host : Host} {s : PyConnectStub} {cAddr : SockAddr}

/-- PyGILState_Ensure and PyGILState_Release. -/
def gilState : Effect → Option Bool
  | .gilEnsure => some true
  | .gilRelease => some false
  | _ => none

/-- The messages that processInput knows what to do with. -/
def Known (t : Option PyConnectMsg) : Prop :=
  stubSwitch t = true ∨ t = some .moduleDeclare ∨ t = some .moduleShutdown ∨
    t = some .peerServerMsg ∨ t = some .peerServerDiscovery

instance (t : Option PyConnectMsg) : Decidable (Known t) :=
  inferInstanceAs (Decidable (_ ∨ _))

/-- A message that gets as far as the switch and that the switch does not know. -/
def Stranded (s : PyConnectStub) (message : List UInt8) : Prop :=
  msgTypeOf (message.getD 0 0) ≠ 0 ∧ ¬ Known (typeOf message) ∧
    (findModuleByID s (lowNibble (message.getD 1 0))).isSome

theorem plain_objectMessage (host : Host) (scope : CallbackScope) (obj : PyConnectObject)
    (t : Option PyConnectMsg) :
    Yields (objectMessage host scope obj t) fun h => ∀ e ∈ h.effects, gilState e = none :=
  forall_objectMessage host scope obj t (fun _ _ => rfl) (fun _ _ => rfl) rfl rfl

theorem matched_locked {effects : List Effect} (h : ∀ e ∈ effects, gilState e = none) :
    Matched gilState (locked effects) ↔ alive (locked effects) = true := by
  have halive : alive (locked effects) = alive effects := by
    rw [alive, alive, locked]
    split <;> simp
  rw [halive]
  cases hlives : alive effects with
  | true =>
      rw [locked_alive hlives]
      exact iff_of_true (matched_enclosed rfl rfl h fun x hx => absurd hx List.not_mem_nil) rfl
  | false =>
      rw [locked, hlives, if_neg Bool.false_ne_true, List.append_nil]
      exact iff_of_false (not_matched_open rfl h) Bool.false_ne_true

theorem matched_locked_invoke (scope : CallbackScope) (fnName : List UInt8) (arg : List PyObject) :
    Matched gilState (locked (Stub.invoke scope fnName arg)) ↔
      alive (locked (Stub.invoke scope fnName arg)) = true :=
  matched_locked (forall_invoke (P := fun e => gilState e = none) arg (fun _ => rfl) rfl)

theorem matched_addNewModule (s : PyConnectStub) {name : List UInt8} (hl : name.length ≤ 255)
    (desc : List UInt8) (options : UInt8) (cAddr : SockAddr) :
    Matched gilState (addNewModule s name desc options cAddr).2 ↔
      alive (addNewModule s name desc options cAddr).2 = true := by
  have hsend : Stub.send (assignPacket s name s.nextObjId) =
      .dispatch (assignPacket s name s.nextObjId).data false := by
    refine Stub.send_eq ?_
    change (4 : Int) + name.length < 2 ^ 31
    omega
  rw [addNewModule]
  split
  · exact iff_of_true rfl rfl
  split
  · exact iff_of_true rfl rfl
  split
  · exact iff_of_false (not_matched_open rfl (List.forall_mem_singleton.mpr rfl)) (by simp [alive])
  · dsimp only
    rw [hsend]
    refine iff_of_true (matched_pair rfl rfl (List.forall_mem_singleton.mpr rfl)) ?_
    simp [alive]

theorem matched_declareInput (s : PyConnectStub) (cAddr : SockAddr) (c : Cursor) :
    Matched gilState (declareInput s cAddr c).effects ↔
      alive (declareInput s cAddr c).effects = true := by
  rw [declareInput, moduleDeclare, bind_apply, bind_apply]
  cases findModuleByName s (unpackString false (byte c).2).1 with
  | some obj => exact iff_of_true rfl rfl
  | none => exact matched_addNewModule s (Handshake.unpackString_named _).2 _ _ cAddr

theorem matched_deleteModuleByID (s : PyConnectStub) (id : Int) :
    Matched gilState (deleteModuleByID s id).2 ↔ alive (deleteModuleByID s id).2 = true := by
  rw [deleteModuleByID]
  split
  · exact iff_of_true rfl rfl
  · exact matched_locked_invoke _ _ _

/-- The lock that is taken before the switch is given back behind it. -/
theorem matched_objectInput (host : Host) (s : PyConnectStub) (id : Int) (t : Option PyConnectMsg)
    (c : Cursor) : Matched gilState (objectInput host s id t c).effects ↔
      (stubSwitch t = true ∨ findModuleByID s id = none) ∧
        alive (objectInput host s id t c).effects = true := by
  rw [objectInput]
  cases findModuleByID s id with
  | none => exact iff_of_true rfl ⟨.inr rfl, rfl⟩
  | some obj =>
      dsimp only
      have hknown := known_objectMessage host s.scope obj t c
      have hplain := plain_objectMessage host s.scope obj t c
      generalize objectMessage host s.scope obj t c = r at hknown hplain ⊢
      obtain ⟨handled, c'⟩ := r
      dsimp only at hknown hplain ⊢
      rw [hknown]
      cases hswitch : stubSwitch t with
      | true =>
          rw [if_pos rfl, matched_locked hplain]
          simp
      | false =>
          refine iff_of_false ?_ (by simp)
          rw [if_neg Bool.false_ne_true]
          exact not_matched_open rfl hplain

theorem matched_processMessage (host : Host) (s : PyConnectStub) (message : List UInt8)
    (cAddr : SockAddr) :
    Matched gilState (processMessage host s message cAddr).effects ↔
      ¬ Stranded s message ∧ alive (processMessage host s message cAddr).effects = true := by
  have hhead : message.headD 0 = message.getD 0 0 := by cases message <;> rfl
  rw [Stranded, ← hhead, typeOf]
  refine processMessage_cases host s message cAddr ?unknown ?declare ?shutdown ?peer ?discovery ?object
  case unknown => exact fun h0 => iff_of_true rfl ⟨fun h => h.1 h0, rfl⟩
  case declare =>
    exact fun ht => (matched_declareInput s cAddr _).trans
      (iff_and_self.mpr fun _ h => h.2.1 (.inr (.inl ht)))
  case shutdown =>
    exact fun ht _ => (matched_deleteModuleByID s _).trans
      (iff_and_self.mpr fun _ h => h.2.1 (.inr (.inr (.inl ht))))
  case peer =>
    exact fun ht => (matched_locked_invoke _ _ _).trans
      (iff_and_self.mpr fun _ h => h.2.1 (.inr (.inr (.inr (.inl ht)))))
  case discovery =>
    exact fun ht => iff_of_true rfl ⟨fun h => h.2.1 (.inr (.inr (.inr (.inr ht)))), rfl⟩
  case object =>
    intro h0 ht c
    simp only [List.mem_cons, List.not_mem_nil, or_false] at ht
    rw [matched_objectInput]
    simp only [Known, ht, or_false, not_and, Option.isSome_iff_ne_none, ne_eq, not_not, h0,
      not_false_eq_true, true_implies]
    tauto

end PyConnect.GilBalance

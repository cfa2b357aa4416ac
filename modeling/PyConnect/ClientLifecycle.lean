import PyConnect.Alternation
import PyConnect.AssignedIds

namespace PyConnect.ClientLifecycle

open Alternation Decoding Common Values Wrapper WrapperInput WrapperSends CallElements Handshake Maps
open AssignedIds hiding Session

variable {b : Build} {decrypt : List UInt8 → Option (List UInt8)} {w w' : PyConnectWrapper}
  {m : PyConnectModule} {sid : Int} {data : List UInt8} {effects : List Effect}

/-- What the module is told of one server: that it has come, or gone. -/
def clientEvent (sid : Int) : Effect → Option Bool
  | .onClientConnected id => if id = sid then some true else none
  | .onClientDisconnected id => if id = sid then some false else none
  | _ => none

def Connected (w : PyConnectWrapper) (sid : Int) : Prop :=
  ∃ info, w.serverMap[sid]? = some info ∧ info.assignedModuleID ≠ -1

/-- A server assigns the module an id only where it has not done so since it
came, and shuts down only after it has. -/
structure InTurn (decrypt : List UInt8 → Option (List UInt8)) (w : PyConnectWrapper)
    (a : Action) : Prop where
  assigns : ∀ data ∈ received decrypt a, (givenId w data).isSome → ¬ Connected w (senderOf data)
  shutsDown : ∀ data ∈ received decrypt a, typeOf data = some .serverShutdown →
    senderOf data ∈ w.serverMap → Connected w (senderOf data)

/-- A wrapper in its run, with all that it has done. -/
structure ClientSession where
  wrapper : PyConnectWrapper
  log : List Effect

inductive ClientRun (b : Build) (decrypt : List UInt8 → Option (List UInt8)) (m : PyConnectModule)
    (allowed : PyConnectWrapper → Action → Prop) : ClientSession → Prop
  | start : ClientRun b decrypt m allowed ⟨⟨some m, ∅, false⟩, []⟩
  | step {C : ClientSession} {a : Action} : ClientRun b decrypt m allowed C → allowed C.wrapper a →
      ClientRun b decrypt m allowed
        ⟨(react b decrypt C.wrapper a).1, C.log ++ (react b decrypt C.wrapper a).2⟩

/-- What an action amounts to for one server. A wrapper whose module is gone
calls nobody back any more. -/
inductive Change (w w' : PyConnectWrapper) (sid : Int) : List Bool → Prop
  | same : (w'.pyConnectModule.isSome → w.pyConnectModule.isSome ∧ (Connected w' sid ↔ Connected w sid)) →
      Change w w' sid []
  | connected : w.pyConnectModule.isSome → ¬ Connected w sid → Connected w' sid →
      Change w w' sid [true]
  | disconnected : w.pyConnectModule.isSome → Connected w sid → ¬ Connected w' sid →
      Change w w' sid [false]

theorem Change.refl (w : PyConnectWrapper) (sid : Int) : Change w w sid [] :=
  .same fun h => ⟨h, Iff.rfl⟩

theorem connected_of_servers (h : w'.serverMap = w.serverMap) : Connected w' sid ↔ Connected w sid := by
  rw [Connected, Connected, h]

theorem events_plain (h : ∀ e ∈ effects, clientEvent sid e = none) :
    effects.filterMap (clientEvent sid) = [] := List.filterMap_eq_nil_iff.mpr h

theorem clientEvent_send (p : Packet) (toBroadcast : Bool) : clientEvent sid (send p toBroadcast) = none := by
  rw [send]
  split <;> rfl

theorem events_connected {k : Int} (h : ∀ e ∈ effects, clientEvent sid e = none) :
    (Effect.onClientConnected k :: effects).filterMap (clientEvent sid) =
      if k = sid then [true] else [] := by
  rw [List.filterMap_cons, clientEvent, events_plain h]
  by_cases hk : k = sid
  · rw [if_pos hk, if_pos hk]
  · rw [if_neg hk, if_neg hk]

theorem connected_insert (w : PyConnectWrapper) (k : Int) (info : ServerInfo) :
    Connected { w with serverMap := w.serverMap.insert k info } sid ↔
      if sid = k then info.assignedModuleID ≠ -1 else Connected w sid := by
  rw [Connected]
  dsimp only
  rw [get_insert]
  split
  · simp
  · rfl

theorem connected_erase (w : PyConnectWrapper) (sid k : Int) :
    Connected { w with serverMap := w.serverMap.erase k } sid ↔ sid ≠ k ∧ Connected w sid := by
  rw [Connected, Connected]
  dsimp only
  rw [get_erase]
  by_cases hj : sid = k <;> simp [hj]

theorem connected_assignEntry (w : PyConnectWrapper) (sid k : Int) (modId : UInt8) :
    Connected (assignEntry w k modId.toNat) sid ↔ sid = k ∨ Connected w sid := by
  have hid : (modId.toNat : Int) ≠ -1 := by omega
  have hinsert : ∀ info : ServerInfo, info.assignedModuleID = modId.toNat →
      (Connected { w with serverMap := w.serverMap.insert k info } sid ↔ sid = k ∨ Connected w sid) := by
    intro info hinfo
    rw [connected_insert, hinfo]
    by_cases hk : sid = k
    · rw [if_pos hk]
      exact iff_of_true hid (.inl hk)
    · rw [if_neg hk, or_iff_right hk]
  rw [assignEntry]
  split
  · exact hinsert _ rfl
  · exact hinsert _ rfl

theorem change_discovery (b : Build) (w : PyConnectWrapper) (sid k : Int) :
    Change w (moduleDiscovery b w k).1 sid
      ((moduleDiscovery b w k).2.2.filterMap (clientEvent sid)) := by
  rw [moduleDiscovery]
  split
  · exact .refl w sid
  next hk =>
    have hplain : ∀ w' : PyConnectWrapper, (declarePyConnectModule b w' k false).filterMap
        (clientEvent sid) = [] := by
      refine fun w' => events_plain fun e he => ?_
      rw [declarePyConnectModule] at he
      split at he
      · cases he
      · rw [List.mem_singleton.mp he]
        exact clientEvent_send _ _
    dsimp only
    rw [hplain]
    refine .same fun h => ⟨h, ?_⟩
    rw [connected_insert]
    split
    next he =>
      subst he
      refine iff_of_false (fun h => h rfl) ?_
      rintro ⟨info, hinfo, -⟩
      exact hk (Std.ExtTreeMap.mem_iff_isSome_getElem?.mpr (by rw [hinfo]; rfl))
    next => rfl

theorem change_serverShutdown {k : Int} (hin : k ∈ w.serverMap → Connected w k) :
    Change w (serverShutdown w k).1 sid
      ((serverShutdown w k).2.2.filterMap (clientEvent sid)) := by
  rw [serverShutdown]
  split
  next hk =>
    have herase := connected_erase w sid k
    cases hm : w.pyConnectModule with
    | none =>
        rw [hm] at herase
        exact .same fun h => by cases h
    | some m =>
        have hsome : w.pyConnectModule.isSome := by rw [hm]; rfl
        rw [hm] at herase
        dsimp only [Option.isSome_some, if_true]
        rw [if_pos rfl, List.filterMap_cons, clientEvent, List.filterMap_nil]
        by_cases hsid : k = sid
        · subst hsid
          rw [if_pos rfl]
          exact .disconnected hsome (hin hk) fun h => (herase.mp h).1 rfl
        · rw [if_neg hsid]
          refine .same fun _ => ⟨hsome, ?_⟩
          rw [herase, and_iff_right (Ne.symm hsid)]
  next => exact .refl w sid

theorem change_moduleAssigned (b : Build) (hm : w.pyConnectModule = some m) {k : Int} (modId : UInt8)
    (hin : ¬ Connected w k) : Change w (moduleAssigned b w k modId.toNat).1 sid
      ((moduleAssigned b w k modId.toNat).2.filterMap (clientEvent sid)) := by
  have hsome : w.pyConnectModule.isSome := by rw [hm]; rfl
  have hassigned := connected_assignEntry w sid k modId
  have hplain : ∀ e ∈ [send (attrMetdPacket b.host m k modId.toNat) false,
      send (attrMetdDescPacket m k modId.toNat) false], clientEvent sid e = none := by
    simp only [List.mem_cons, List.not_mem_nil, or_false, forall_eq_or_imp, forall_eq, clientEvent_send,
      and_self]
  rw [moduleAssigned_eq b hm]
  dsimp only
  rw [events_connected hplain]
  by_cases hsid : k = sid
  · subst hsid
    rw [if_pos rfl]
    exact .connected hsome hin (hassigned.mpr (.inl rfl))
  · rw [if_neg hsid]
    refine .same fun _ => ⟨hsome, ?_⟩
    rw [hassigned, or_iff_right (Ne.symm hsid)]

theorem change_message (b : Build) {data : List UInt8} (sid : Int)
    (hassigns : (givenId w data).isSome → ¬ Connected w (senderOf data))
    (hshuts : typeOf data = some .serverShutdown → senderOf data ∈ w.serverMap →
      Connected w (senderOf data)) :
    Change w (processMessage b w data).wrapper sid
      ((processMessage b w data).effects.filterMap (clientEvent sid)) := by
  have hp := processMessage_processes b w data
  generalize (processMessage b w data).wrapper = w', (processMessage b w data).result = result,
    (processMessage b w data).effects = effects at *
  cases hp with
  | refused => exact .refl w sid
  | discovery => exact change_discovery b w sid _
  | serverShutdown ht => exact change_serverShutdown (hshuts ht)
  | absent => exact .refl w sid
  | served m info r ht hm hinfo hi hr =>
      have hserved := served_moduleMessage (b := b) hinfo hm (typeOf data)
        (byte (byte (startAt data 0)).2).2
      rw [← hr] at hserved
      rw [events_plain fun e he => by cases hserved.effects e he <;> rfl]
      exact .same fun _ => ⟨by rw [hm]; rfl, connected_of_servers hserved.servers⟩
  | assign r ht hr =>
      rw [hr]
      cases hm : w.pyConnectModule with
      | none =>
          have hnone : (moduleAssignId b w (senderOf data) (startAt data.tail 0)).1 =
              (w, .processedOk, [.stray]) := by
            rw [moduleAssignId, bind_apply, bind_apply, bind_apply, hm]
            rfl
          rw [hnone]
          exact .refl w sid
      | some m =>
          rw [moduleAssignId_read hm]
          by_cases hname : carriedName (data.drop 2) = m.name
          · have hgiven : givenId w data = some (data.getD 1 0) :=
              if_pos ⟨ht, by rw [hm, hname]; rfl⟩
            rw [if_pos hname]
            exact change_moduleAssigned b hm _ (hassigns (by rw [hgiven]; rfl))
          · rw [if_neg hname]
            exact .refl w sid

theorem change_react (b : Build) (sid : Int) {a : Action} (hin : InTurn decrypt w a) :
    Change w (react b decrypt w a).1 sid
      ((react b decrypt w a).2.filterMap (clientEvent sid)) := by
  cases a with
  | receive recData skipdecrypt =>
      obtain ⟨hwrapper, heffects⟩ := processInput_received b decrypt w recData skipdecrypt
      rw [react, hwrapper, heffects]
      cases hdata : received decrypt (.receive recData skipdecrypt) with
      | none => exact .refl w sid
      | some data => exact change_message b sid (hin.assigns data hdata) (hin.shutsDown data hdata)
  | updateAttribute attrName v =>
      cases hm : w.pyConnectModule with
      | none =>
          rw [react, updateAttribute, hm]
          exact .refl w sid
      | some m =>
          by_cases hname : attrName ∈ m.attributes
          · rw [react, updateAttribute_registered hm hname, events_plain]
            · exact .refl w sid
            · intro e he
              obtain ⟨x, -, rfl⟩ := List.mem_map.mp he
              rfl
          · rw [react, updateAttribute, hm]
            dsimp only
            rw [if_neg hname]
            exact .refl w sid
  | moduleShutdown =>
      rw [react, moduleShutdown, events_plain]
      · exact .same fun h => by cases h
      · intro e he
        obtain ⟨x, -, rfl⟩ := List.mem_map.mp he
        rfl

/-- While there is a module, it is told that a server has come exactly when the
server is not connected yet. -/
structure Told (C : ClientSession) (sid : Int) : Prop where
  alternating : Alternating true (C.log.filterMap (clientEvent sid))
  turn : C.wrapper.pyConnectModule.isSome →
    (turn true (C.log.filterMap (clientEvent sid)) = false ↔ Connected C.wrapper sid)

theorem Told.step {C : ClientSession} (h : Told C sid) {w' : PyConnectWrapper} {effects : List Effect}
    (hc : Change C.wrapper w' sid (effects.filterMap (clientEvent sid))) :
    Told ⟨w', C.log ++ effects⟩ sid := by
  have hlog : (C.log ++ effects).filterMap (clientEvent sid) =
      C.log.filterMap (clientEvent sid) ++ effects.filterMap (clientEvent sid) :=
    List.filterMap_append
  generalize heffects : effects.filterMap (clientEvent sid) = events at hc hlog
  cases hc with
  | same hsame =>
      refine ⟨by rw [hlog, List.append_nil]; exact h.alternating, fun hsome => ?_⟩
      obtain ⟨hbefore, hiff⟩ := hsame hsome
      rw [hlog, List.append_nil, hiff]
      exact h.turn hbefore
  | connected hsome hbefore hafter =>
      have hturn := mt (h.turn hsome).mp hbefore
      rw [Bool.not_eq_false] at hturn
      obtain ⟨halt, hnext⟩ := h.alternating.snoc hturn
      rw [← hlog] at halt hnext
      exact ⟨halt, fun _ => iff_of_true hnext hafter⟩
  | disconnected hsome hbefore hafter =>
      obtain ⟨halt, hnext⟩ := h.alternating.snoc ((h.turn hsome).mpr hbefore)
      rw [← hlog] at halt hnext
      refine ⟨halt, fun _ => iff_of_false ?_ hafter⟩
      dsimp only
      rw [hnext]
      decide

theorem told_run {C : ClientSession} (h : ClientRun b decrypt m (InTurn decrypt) C) (sid : Int) : Told C sid := by
  induction h with
  | start =>
      refine ⟨trivial, fun _ => iff_of_false Bool.noConfusion ?_⟩
      rintro ⟨info, hinfo, -⟩
      rw [Std.ExtTreeMap.getElem?_empty] at hinfo
      cases hinfo
  | step _ hin ih => exact ih.step (change_react b sid hin)

end PyConnect.ClientLifecycle

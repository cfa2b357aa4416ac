import PyConnect.ClientList
import PyConnect.Framing

namespace PyConnect.LocalBroadcast

open ObjComm ClientList LinkedList Framing

/-- The part of the comm layer that a local broadcast uses, with its list of clients
as the values of the nodes. -/
structure Comm where
  clientFDList : List ClientFD
  masterFDSet : Finset Int
  activeCommChannel : Int

/-- What the system makes of opening a connection to a process. -/
inductive Attempt
  | noSocket
  | refused (fd : Nat)
  | connected (fd : Nat)

/-- A comm layer in the course of a broadcast, the connections that it has opened and
what it has sent. -/
structure Pass extends Comm where
  opened : List (Int × Nat)
  sent : List (Int × List UInt8)

def start (S : Comm) : Pass := ⟨S, [], []⟩

/-- An error is the state in which the process is aborted. -/
def setLastUsedCommChannel (P : Pass) (index : Int) : Except Pass Pass :=
  if index = invalidSocket then .error P else .ok { P with activeCommChannel := index }

def isIPCClient (procID : Int) (v : ClientFD) : Bool :=
  v.domain == .localIPC && v.localProcID == procID

def addFdToClientList (P : Pass) (v : ClientFD) : Except Pass Pass :=
  setLastUsedCommChannel { P with
    clientFDList := P.clientFDList ++ [v]
    masterFDSet := insert v.fd P.masterFDSet } v.fd

def findFdFromClientListByProcID (P : Pass) (procID : Int) : Except Pass (Pass × Int) :=
  match P.clientFDList.find? (isIPCClient procID) with
  | some v => do
      let P ← setLastUsedCommChannel P v.fd
      pure (P, v.fd)
  | none => pure (P, invalidSocket)

def findOrCreateIPCTalker (P : Pass) (procID : Int) (o : Attempt) : Except Pass (Pass × Int) := do
  let (P, mySocket) ← findFdFromClientListByProcID P procID
  if mySocket ≠ invalidSocket then pure (P, mySocket)
  else match o with
    | .noSocket => pure (P, invalidSocket)
    | .refused _ => do
        let P ← addFdToClientList P ⟨invalidSocket, .localIPC, procID⟩
        pure (P, invalidSocket)
    | .connected fd => do
        let P ← addFdToClientList { P with opened := P.opened ++ [(procID, fd)] }
          ⟨fd, .localIPC, procID⟩
        pure (P, fd)

/-- The loop over liveServerSocketList_; with each process comes what would be made of
a connection to it. -/
def sendAll (message : List UInt8) : List (Int × Attempt) → Pass → Except Pass Pass
  | [], P => pure P
  | (procID, o) :: peers, P => do
      let (P, fd) ← findOrCreateIPCTalker P procID o
      sendAll message peers
        (if fd ≠ invalidSocket then { P with sent := P.sent ++ [(fd, message)] } else P)

/-- What localBroadcastSend puts in its buffer, if it comes so far. -/
def dispatched (IPCCommEnabled bigEndian : Bool) (encrypt : List UInt8 → Option (List UInt8))
    (data : List UInt8) : Option (List UInt8) :=
  if data.length ≤ 0 then none
  else match encrypt data with
    | none => none
    | some outputData => if IPCCommEnabled then some (frame bigEndian outputData) else none

def localBroadcastSend (IPCCommEnabled bigEndian : Bool)
    (encrypt : List UInt8 → Option (List UInt8)) (S : Comm) (data : List UInt8)
    (peers : List (Int × Attempt)) : Except Pass Pass :=
  match dispatched IPCCommEnabled bigEndian encrypt data with
  | none => pure (start S)
  | some message => sendAll message peers (start S)

def channel (clients : List ClientFD) (procID : Int) : Option Int :=
  (clients.find? (isIPCClient procID)).map (·.fd)

/-- The process goes on; what is new in the list and the set are the connections that
have been opened, and the peers that are connected have got the message. -/
structure Delivers (message : Option (List UInt8)) (peers : List (Int × Attempt)) (S : Comm)
    (P : Pass) : Prop where
  list : P.clientFDList = S.clientFDList ++ P.opened.map fun x => ⟨x.2, .localIPC, x.1⟩
  masterFDSet : P.masterFDSet = S.masterFDSet ∪ (P.opened.map fun x => (x.2 : Int)).toFinset
  active : P.activeCommChannel = S.activeCommChannel ∨ P.activeCommChannel ≠ invalidSocket
  sent : ∀ fd data, (fd, data) ∈ P.sent ↔
    message = some data ∧ ∃ x ∈ peers, channel P.clientFDList x.1 = some fd

def Harmless (message : Option (List UInt8)) (peers : List (Int × Attempt)) (S : Comm)
    (r : Except Pass Pass) : Prop :=
  ∃ P, r = .ok P ∧ Delivers message peers S P

/-- No process that is not connected yet refuses; and no descriptor in the list is the
invalid one, which none is unless it has been added as a connection. -/
def Reachable (clients : List ClientFD) (peers : List (Int × Attempt)) : Prop :=
  (∀ x ∈ peers, channel clients x.1 ≠ some invalidSocket) ∧
  ∀ before procID fd after, peers = before ++ (procID, .refused fd) :: after →
    (channel clients procID).isSome ∨ ∃ fd', (procID, .connected fd') ∈ before

variable {message : List UInt8} {peers : List (Int × Attempt)} {clients : List ClientFD} {S : Comm}
  {P : Pass} {procID : Int} {o : Attempt}

theorem natCast_ne_invalid (fd : Nat) : (fd : Int) ≠ invalidSocket := by
  rw [invalidSocket]
  omega

theorem ok_bind {ε α β : Type} (a : α) (f : α → Except ε β) : (Except.ok a >>= f) = f a := rfl

theorem error_bind {ε α β : Type} (e : ε) (f : α → Except ε β) :
    (Except.error e >>= f) = .error e := rfl

theorem setLastUsed_valid {index : Int} (h : index ≠ invalidSocket) (P : Pass) :
    setLastUsedCommChannel P index = .ok { P with activeCommChannel := index } := if_neg h

theorem findFd_found {fd : Int} (h : channel P.clientFDList procID = some fd)
    (hfd : fd ≠ invalidSocket) :
    findFdFromClientListByProcID P procID = .ok ({ P with activeCommChannel := fd }, fd) := by
  obtain ⟨v, hv, rfl⟩ := Option.map_eq_some_iff.mp h
  rw [findFdFromClientListByProcID, hv]
  dsimp only
  rw [setLastUsed_valid hfd]
  rfl

theorem findOrCreate_found {fd : Int} (h : channel P.clientFDList procID = some fd)
    (hfd : fd ≠ invalidSocket) (o : Attempt) :
    findOrCreateIPCTalker P procID o = .ok ({ P with activeCommChannel := fd }, fd) := by
  rw [findOrCreateIPCTalker, findFd_found h hfd, ok_bind]
  dsimp only
  rw [if_pos hfd]
  rfl

theorem findOrCreate_invalid (h : channel P.clientFDList procID = some invalidSocket) (o : Attempt) :
    findOrCreateIPCTalker P procID o = .error P := by
  obtain ⟨v, hv, hfd⟩ := Option.map_eq_some_iff.mp h
  rw [findOrCreateIPCTalker, findFdFromClientListByProcID, hv]
  dsimp only
  rw [setLastUsedCommChannel, if_pos hfd, error_bind, error_bind]

theorem findFd_absent (h : channel P.clientFDList procID = none) :
    findFdFromClientListByProcID P procID = .ok (P, invalidSocket) := by
  rw [findFdFromClientListByProcID, Option.map_eq_none_iff.mp h]
  rfl

theorem findOrCreate_noSocket (h : channel P.clientFDList procID = none) :
    findOrCreateIPCTalker P procID .noSocket = .ok (P, invalidSocket) := by
  rw [findOrCreateIPCTalker, findFd_absent h, ok_bind]
  rfl

/-- The failed path shares the tail of the successful one. -/
theorem findOrCreate_refused (h : channel P.clientFDList procID = none) (fd : Nat) :
    findOrCreateIPCTalker P procID (.refused fd) = .error { P with
      clientFDList := P.clientFDList ++ [⟨invalidSocket, .localIPC, procID⟩]
      masterFDSet := insert invalidSocket P.masterFDSet } := by
  rw [findOrCreateIPCTalker, findFd_absent h, ok_bind]
  rfl

def Pass.connect (P : Pass) (procID : Int) (fd : Nat) : Pass :=
  { P with
    clientFDList := P.clientFDList ++ [⟨fd, .localIPC, procID⟩]
    masterFDSet := insert (fd : Int) P.masterFDSet
    activeCommChannel := fd
    opened := P.opened ++ [(procID, fd)] }

theorem findOrCreate_connected (h : channel P.clientFDList procID = none) (fd : Nat) :
    findOrCreateIPCTalker P procID (.connected fd) = .ok (P.connect procID fd, (fd : Int)) := by
  rw [findOrCreateIPCTalker, findFd_absent h, ok_bind]
  dsimp only
  rw [if_neg (not_not.mpr rfl), addFdToClientList, setLastUsed_valid (natCast_ne_invalid fd)]
  rfl

theorem channel_append (clients : List ClientFD) (procID q : Int) (fd : Int) :
    channel (clients ++ [⟨fd, .localIPC, procID⟩]) q =
      (channel clients q).or (if q = procID then some fd else none) := by
  rw [channel, List.find?_append, channel]
  have hone : [(⟨fd, .localIPC, procID⟩ : ClientFD)].find? (isIPCClient q) =
      if q = procID then some ⟨fd, .localIPC, procID⟩ else none := by
    by_cases hq : q = procID
    · rw [if_pos hq, List.find?_cons_of_pos]
      simp [isIPCClient, hq]
    · rw [if_neg hq, List.find?_cons_of_neg]
      · rfl
      · simp [isIPCClient, Ne.symm hq]
  rw [hone]
  cases clients.find? (isIPCClient q) <;> split_ifs <;> rfl

theorem channel_connect (procID q : Int) (fd : Nat) :
    channel (P.connect procID fd).clientFDList q =
      (channel P.clientFDList q).or (if q = procID then some (fd : Int) else none) :=
  channel_append _ _ _ _

section Reachability

variable {after : List (Int × Attempt)}

theorem reachable_cons_iff (hvalid : channel clients procID ≠ some invalidSocket)
    (hfirst : ∀ fd, o = .refused fd → (channel clients procID).isSome)
    {clients' : List ClientFD}
    (hchannel : ∀ q, channel clients' q = channel clients q ∨
      (channel clients q = none ∧ q = procID ∧ ∃ fd : Nat, o = .connected fd ∧
        channel clients' q = some (fd : Int)))
    (hnew : ∀ fd, o = .connected fd → (channel clients' procID).isSome) :
    Reachable clients ((procID, o) :: peers) ↔ Reachable clients' peers := by
  have hinvalid (q : Int) :
      channel clients' q = some invalidSocket ↔ channel clients q = some invalidSocket := by
    obtain heq | ⟨hnone, rfl, fd, -, hsome⟩ := hchannel q
    · rw [heq]
    · rw [hnone, hsome]
      simp [natCast_ne_invalid]
  have hsome (q : Int) : (channel clients' q).isSome ↔
      (channel clients q).isSome ∨ ∃ fd, (procID, o) = (q, .connected fd) := by
    obtain heq | ⟨hnone, rfl, fd, rfl, hsome⟩ := hchannel q
    · rw [heq]
      refine ⟨.inl, ?_⟩
      rintro (h | ⟨fd, h⟩)
      · exact h
      · obtain ⟨rfl, rfl⟩ := Prod.mk.inj h
        rw [← heq]
        exact hnew fd rfl
    · simp [hnone, hsome]
  constructor
  · rintro ⟨hall, hrefused⟩
    refine ⟨fun x hx h => hall x (List.mem_cons_of_mem _ hx) ((hinvalid x.1).mp h), ?_⟩
    rintro before q fd after rfl
    rw [hsome]
    rcases hrefused ((procID, o) :: before) q fd after rfl with h | ⟨fd', h⟩
    · exact .inl (.inl h)
    · rcases List.mem_cons.mp h with h | h
      · exact .inl (.inr ⟨fd', h.symm⟩)
      · exact .inr ⟨fd', h⟩
  · rintro ⟨hall, hrefused⟩
    refine ⟨List.forall_mem_cons.mpr ⟨hvalid, fun x hx h => hall x hx ((hinvalid x.1).mpr h)⟩, ?_⟩
    intro before q fd after heq
    rcases List.cons_eq_append_iff.mp heq with ⟨rfl, hcons⟩ | ⟨before', rfl, rfl⟩
    · obtain ⟨rfl, rfl⟩ := Prod.mk.inj (List.cons.inj hcons).1
      exact .inl (hfirst fd rfl)
    · rcases hrefused before' q fd after rfl with h | ⟨fd', h⟩
      · rcases (hsome q).mp h with h | ⟨fd', h⟩
        · exact .inl h
        · exact .inr ⟨fd', h ▸ List.mem_cons_self⟩
      · exact .inr ⟨fd', List.mem_cons_of_mem _ h⟩

end Reachability

def Pass.send (P : Pass) (fd : Int) (message : List UInt8) : Pass :=
  { P with sent := P.sent ++ [(fd, message)] }

theorem sendAll_found {fd : Int} (h : channel P.clientFDList procID = some fd)
    (hfd : fd ≠ invalidSocket) (o : Attempt) (message : List UInt8) (peers : List (Int × Attempt)) :
    sendAll message ((procID, o) :: peers) P =
      sendAll message peers (Pass.send { P with activeCommChannel := fd } fd message) := by
  rw [sendAll, findOrCreate_found h hfd, ok_bind]
  dsimp only
  rw [if_pos hfd]
  rfl

theorem sendAll_noSocket (h : channel P.clientFDList procID = none) (message : List UInt8)
    (peers : List (Int × Attempt)) :
    sendAll message ((procID, .noSocket) :: peers) P = sendAll message peers P := by
  rw [sendAll, findOrCreate_noSocket h, ok_bind]
  rfl

theorem sendAll_connected (h : channel P.clientFDList procID = none) (fd : Nat)
    (message : List UInt8) (peers : List (Int × Attempt)) :
    sendAll message ((procID, .connected fd) :: peers) P =
      sendAll message peers ((P.connect procID fd).send fd message) := by
  rw [sendAll, findOrCreate_connected h, ok_bind]
  dsimp only
  rw [if_pos (natCast_ne_invalid fd)]
  rfl

theorem sendAll_invalid (h : channel P.clientFDList procID = some invalidSocket) (o : Attempt)
    (message : List UInt8) (peers : List (Int × Attempt)) :
    sendAll message ((procID, o) :: peers) P = .error P := by
  rw [sendAll, findOrCreate_invalid h, error_bind]

theorem sendAll_refused (h : channel P.clientFDList procID = none) (fd : Nat)
    (message : List UInt8) (peers : List (Int × Attempt)) :
    ∃ P', sendAll message ((procID, .refused fd) :: peers) P = .error P' := by
  rw [sendAll, findOrCreate_refused h, error_bind]
  exact ⟨_, rfl⟩

theorem channel_connect_self (h : channel P.clientFDList procID = none) (fd : Nat) :
    channel (P.connect procID fd).clientFDList procID = some (fd : Int) := by
  rw [channel_connect, h, if_pos rfl]
  rfl

theorem channel_connect_ne {q : Int} (hq : q ≠ procID) (fd : Nat) :
    channel (P.connect procID fd).clientFDList q = channel P.clientFDList q := by
  rw [channel_connect, if_neg hq, Option.or_none]

theorem sendAll_ok_iff (message : List UInt8) (peers : List (Int × Attempt)) (P : Pass) :
    (∃ P', sendAll message peers P = .ok P') ↔ Reachable P.clientFDList peers := by
  induction peers generalizing P with
  | nil =>
      refine iff_of_true ⟨P, rfl⟩ ⟨fun x hx => absurd hx List.not_mem_nil, fun before procID fd after h => ?_⟩
      simp at h
  | cons x peers ih =>
      obtain ⟨procID, o⟩ := x
      cases hchannel : channel P.clientFDList procID with
      | some fd =>
          by_cases hfd : fd = invalidSocket
          · subst hfd
            refine iff_of_false ?_ fun h => h.1 (procID, o) List.mem_cons_self hchannel
            rintro ⟨P', h⟩
            rw [sendAll_invalid hchannel] at h
            cases h
          · have hsome : (channel P.clientFDList procID).isSome := by rw [hchannel]; rfl
            have hvalid : channel P.clientFDList procID ≠ some invalidSocket := by
              rw [hchannel]
              simpa using hfd
            have hnext : Reachable P.clientFDList ((procID, o) :: peers) ↔
                Reachable P.clientFDList peers :=
              reachable_cons_iff hvalid (fun _ _ => hsome) (fun q => .inl rfl) fun _ _ => hsome
            rw [sendAll_found hchannel hfd, ih]
            exact hnext.symm
      | none =>
          have hvalid : channel P.clientFDList procID ≠ some invalidSocket := by simp [hchannel]
          cases o with
          | noSocket =>
              rw [sendAll_noSocket hchannel, ih]
              exact (reachable_cons_iff hvalid (fun _ h => by cases h) (fun q => .inl rfl)
                fun _ h => by cases h).symm
          | refused fd =>
              refine iff_of_false ?_ fun h => ?_
              · rintro ⟨P', h⟩
                obtain ⟨P'', herror⟩ := sendAll_refused hchannel fd message peers
                rw [herror] at h
                cases h
              · rcases h.2 [] procID fd peers rfl with hsome | ⟨fd', hmem⟩
                · rw [hchannel] at hsome
                  cases hsome
                · exact List.not_mem_nil hmem
          | connected fd =>
              rw [sendAll_connected hchannel, ih]
              have hown := channel_connect_self hchannel fd
              refine (reachable_cons_iff hvalid (fun _ h => by cases h) (fun q => ?_)
                fun _ _ => ?_).symm
              · by_cases hq : q = procID
                · subst hq
                  exact .inr ⟨hchannel, rfl, fd, rfl, hown⟩
                · exact .inl (channel_connect_ne hq fd)
              · change (channel (P.connect procID fd).clientFDList procID).isSome
                rw [hown]
                rfl

theorem delivers_found {message : List UInt8} {past : List (Int × Attempt)}
    (h : Delivers (some message) past S P) {fd : Int} (hchannel : channel P.clientFDList procID = some fd)
    (hfd : fd ≠ invalidSocket) (o : Attempt) :
    Delivers (some message) (past ++ [(procID, o)]) S
      (Pass.send { P with activeCommChannel := fd } fd message) where
  list := h.list
  masterFDSet := h.masterFDSet
  active := .inr hfd
  sent fd' data := by
    have hsent := h.sent fd' data
    simp only [Pass.send, List.mem_append, List.mem_singleton, hsent, Prod.mk.injEq, Option.some.injEq]
    constructor
    · rintro (⟨rfl, x, hx, hc⟩ | ⟨rfl, rfl⟩)
      · exact ⟨rfl, x, .inl hx, hc⟩
      · exact ⟨rfl, _, .inr rfl, hchannel⟩
    · rintro ⟨rfl, x, hx | rfl, hc⟩
      · exact .inl ⟨rfl, x, hx, hc⟩
      · exact .inr ⟨Option.some.inj (hc.symm.trans hchannel), rfl⟩

theorem delivers_noSocket {message : List UInt8} {past : List (Int × Attempt)}
    (h : Delivers (some message) past S P) (hchannel : channel P.clientFDList procID = none) :
    Delivers (some message) (past ++ [(procID, .noSocket)]) S P where
  list := h.list
  masterFDSet := h.masterFDSet
  active := h.active
  sent fd' data := by
    rw [h.sent]
    refine and_congr_right fun _ => ⟨fun ⟨x, hx, hc⟩ => ⟨x, List.mem_append_left _ hx, hc⟩, ?_⟩
    rintro ⟨x, hx, hc⟩
    rcases List.mem_append.mp hx with hx | hx
    · exact ⟨x, hx, hc⟩
    · rw [List.mem_singleton.mp hx, hchannel] at hc
      cases hc

theorem delivers_connected {message : List UInt8} {past : List (Int × Attempt)}
    (h : Delivers (some message) past S P) (hchannel : channel P.clientFDList procID = none)
    (fd : Nat) :
    Delivers (some message) (past ++ [(procID, .connected fd)]) S
      ((P.connect procID fd).send fd message) where
  list := by
    change P.clientFDList ++ _ = _
    rw [h.list, List.append_assoc]
    change _ = S.clientFDList ++ (P.opened ++ [(procID, fd)]).map _
    rw [List.map_append]
    rfl
  masterFDSet := by
    change insert (fd : Int) P.masterFDSet = S.masterFDSet ∪
      ((P.opened ++ [(procID, fd)]).map fun x => (x.2 : Int)).toFinset
    rw [h.masterFDSet, List.map_append, List.toFinset_append, ← Finset.union_assoc,
      Finset.insert_eq, Finset.union_comm]
    rfl
  active := .inr (natCast_ne_invalid fd)
  sent fd' data := by
    have hown := channel_connect_self hchannel fd
    have hsent := h.sent fd' data
    change (fd', data) ∈ P.sent ++ [((fd : Int), message)] ↔ _ ∧
      ∃ x ∈ past ++ [(procID, Attempt.connected fd)],
        channel (P.connect procID fd).clientFDList x.1 = some fd'
    rw [List.mem_append, hsent, List.mem_singleton, Prod.mk.injEq]
    constructor
    · rintro (⟨hmessage, x, hx, hc⟩ | ⟨rfl, rfl⟩)
      · refine ⟨hmessage, x, List.mem_append_left _ hx, ?_⟩
        rw [channel_connect_ne (fun hq => ?_) fd, hc]
        rw [hq, hchannel] at hc
        cases hc
      · exact ⟨rfl, _, List.mem_append_right _ List.mem_cons_self, hown⟩
    · rintro ⟨hmessage, x, hx, hc⟩
      by_cases hq : x.1 = procID
      · rw [hq, hown] at hc
        exact .inr ⟨(Option.some.inj hc).symm, (Option.some.inj hmessage).symm⟩
      · rw [channel_connect_ne hq] at hc
        rcases List.mem_append.mp hx with hx | hx
        · exact .inl ⟨hmessage, x, hx, hc⟩
        · rw [List.mem_singleton.mp hx] at hq
          exact absurd rfl hq

theorem delivers_sendAll {message : List UInt8} {past peers : List (Int × Attempt)} {P' : Pass}
    (h : Delivers (some message) past S P) (hrun : sendAll message peers P = .ok P') :
    Delivers (some message) (past ++ peers) S P' := by
  induction peers generalizing past P with
  | nil =>
      obtain rfl := Except.ok.inj hrun
      rwa [List.append_nil]
  | cons x peers ih =>
      obtain ⟨procID, o⟩ := x
      rw [List.append_cons]
      cases hchannel : channel P.clientFDList procID with
      | some fd =>
          by_cases hfd : fd = invalidSocket
          · subst hfd
            rw [sendAll_invalid hchannel] at hrun
            cases hrun
          · rw [sendAll_found hchannel hfd] at hrun
            exact ih (delivers_found h hchannel hfd o) hrun
      | none =>
          cases o with
          | noSocket =>
              rw [sendAll_noSocket hchannel] at hrun
              exact ih (delivers_noSocket h hchannel) hrun
          | refused fd =>
              obtain ⟨P'', herror⟩ := sendAll_refused hchannel fd message peers
              rw [herror] at hrun
              cases hrun
          | connected fd =>
              rw [sendAll_connected hchannel] at hrun
              exact ih (delivers_connected h hchannel fd) hrun

theorem delivers_start (message : Option (List UInt8)) (S : Comm) :
    Delivers message [] S (start S) where
  list := (List.append_nil _).symm
  masterFDSet := (Finset.union_empty _).symm
  active := .inl rfl
  sent fd data := by simp [start]

theorem delivers_nothing (peers : List (Int × Attempt)) (S : Comm) :
    Delivers none peers S (start S) where
  list := (List.append_nil _).symm
  masterFDSet := (Finset.union_empty _).symm
  active := .inl rfl
  sent fd data := by simp [start]

theorem harmless_iff (IPCCommEnabled bigEndian : Bool)
    (encrypt : List UInt8 → Option (List UInt8)) (S : Comm) (data : List UInt8)
    (peers : List (Int × Attempt)) :
    Harmless (dispatched IPCCommEnabled bigEndian encrypt data) peers S
        (localBroadcastSend IPCCommEnabled bigEndian encrypt S data peers) ↔
      ((dispatched IPCCommEnabled bigEndian encrypt data).isSome →
        Reachable S.clientFDList peers) := by
  rw [localBroadcastSend]
  cases dispatched IPCCommEnabled bigEndian encrypt data with
  | none => exact iff_of_true ⟨start S, rfl, delivers_nothing peers S⟩ fun h => by cases h
  | some message =>
      have hok := sendAll_ok_iff message peers (start S)
      constructor
      · rintro ⟨P, hrun, -⟩ -
        exact hok.mp ⟨P, hrun⟩
      · intro h
        obtain ⟨P, hrun⟩ := hok.mpr (h rfl)
        exact ⟨P, hrun, delivers_sendAll (delivers_start (some message) S) hrun⟩

/-- One peer, whose socket file has outlived it. -/
theorem not_harmless_stale :
    ¬ Harmless (dispatched true false some [50, 64]) [(42, .refused 7)] ⟨[], ∅, invalidSocket⟩
      (localBroadcastSend true false some ⟨[], ∅, invalidSocket⟩ [50, 64] [(42, .refused 7)]) := by
  rintro ⟨P, hrun, -⟩
  have hchannel : channel (start ⟨[], ∅, invalidSocket⟩).clientFDList 42 = none := rfl
  rw [localBroadcastSend] at hrun
  change sendAll _ _ _ = _ at hrun
  obtain ⟨P', herror⟩ := sendAll_refused hchannel 7 _ []
  rw [herror] at hrun
  cases hrun

/-- The list of clients as ClientList keeps it on its heap. -/
theorem findFd_represents {H : System} {xs : List (Nat × ClientFD)}
    (hs : Segment H.heap H.clientFDList xs none) (procID : Int) :
    ClientList.findFdFromClientListByProcID H procID =
      some ((channel (xs.map (·.2)) procID).getD invalidSocket) := by
  rw [ClientList.findFdFromClientListByProcID, channel]
  rcases seek_spec (fun v => v.domain == .localIPC && v.localProcID == procID) hs
    (.inl rfl : Behind H.clientFDList []) hs.length_le with
    ⟨prev, hseek, hnone⟩ | ⟨ks, a, v, zs, prev, rfl, hks, hv, hseek, -⟩
  · have hfind : (xs.map (·.2)).find? (isIPCClient procID) = none := by
      rw [List.find?_eq_none]
      intro v hv
      obtain ⟨x, hx, rfl⟩ := List.mem_map.mp hv
      exact Bool.eq_false_iff.mp (hnone x hx)
    simp only [hseek, Option.bind_eq_bind, Option.bind_some, hfind]
    rfl
  · obtain ⟨r, -, hcell, next, hget, -⟩ := segment_append.mp hs
    have hfind : ((ks ++ (a, v) :: zs).map (·.2)).find? (isIPCClient procID) = some v := by
      have hclient : isIPCClient procID v = true := hv
      rw [List.map_append, List.find?_append, List.map_cons, List.find?_cons_of_pos hclient]
      have hbefore : (ks.map (·.2)).find? (isIPCClient procID) = none := by
        rw [List.find?_eq_none]
        intro w hw
        obtain ⟨x, hx, rfl⟩ := List.mem_map.mp hw
        exact Bool.eq_false_iff.mp (hks x hx)
      rw [hbefore]
      rfl
    simp only [hseek, Option.bind_eq_bind, Option.bind_some, hfind, hget]
    rfl

theorem findOrCreate_represents {H : System} {xs : List (Nat × ClientFD)} {a : Nat}
    (hs : Segment H.heap H.clientFDList xs none) (ha : H.heap[a]? = none)
    (hP : P.clientFDList = xs.map (·.2)) (hvalid : channel P.clientFDList procID ≠ some invalidSocket)
    (fd : Nat) :
    ∃ xs' P' fd', findOrCreateIPCTalker P procID (.connected fd) = .ok (P', fd') ∧
      P'.clientFDList = xs'.map (·.2) ∧
      Segment (ClientList.findOrCreateIPCTalker H procID a fd).heap
        (ClientList.findOrCreateIPCTalker H procID a fd).clientFDList xs' none := by
  have hfind := findFd_represents hs procID
  rw [← hP] at hfind
  rw [ClientList.findOrCreateIPCTalker, hfind]
  dsimp only
  cases hchannel : channel P.clientFDList procID with
  | some fd' =>
      have hfd : fd' ≠ invalidSocket := fun h => hvalid (by rw [hchannel, h])
      refine ⟨xs, _, fd', findOrCreate_found hchannel hfd _, hP, ?_⟩
      rw [Option.getD_some, if_neg hfd]
      exact hs
  | none =>
      obtain ⟨heap, head, happend, hs'⟩ := append_spec hs ha ⟨fd, .localIPC, procID⟩
      refine ⟨xs ++ [(a, ⟨fd, .localIPC, procID⟩)], _, fd, findOrCreate_connected hchannel fd, ?_, ?_⟩
      · change P.clientFDList ++ _ = _
        rw [hP, List.map_append]
        rfl
      · rw [Option.getD_none, if_pos rfl, ClientList.addFdToClientList]
        simp only [System.fdSet, happend]
        exact hs'

end PyConnect.LocalBroadcast

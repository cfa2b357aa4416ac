import PyConnect.ByteRefinement
import PyConnect.Disconnection

namespace PyConnect.Endpoints

open Common ObjComm Stub NetComm Framing Reassembly CommLayer ByteNetwork Handshake
open PeerMessage (udpBufferSize)

/-- The descriptor that a program has of a connection, with what it has of a message. -/
def listed (side : Side) (k : ByteNetwork.Connection) : Option (Int × SocketDataBufferInfo) :=
  match k.sockets side with
  | .client fd => some (fd, k.dataInfo side)
  | _ => none

/-- Messages that are written stand on the streams of their descriptors as frames. -/
def sends (W : Wire) (side : Side) (written : List (Int × List UInt8)) (k : ByteNetwork.Connection) :
    ByteNetwork.Connection :=
  k.write side ((written.filter fun x => k.sockets side = .client x.1).flatMap fun x =>
    frame W.bigEndian (W.encrypt x.2))

/-- The comm layer's message processor is the network's, behind the cipher. -/
structure Speaks {σ : Side → Type} (P : Programs σ) (W : Wire) (side : Side) (Q : Processor (σ side)) :
    Prop where
  plays : Q.side = side
  bigEndian : Q.bigEndian = W.bigEndian
  decrypt : Q.decrypt = W.decrypt
  processes : ∀ st recData cAddr skipdecrypt message,
    decrypted W.decrypt recData skipdecrypt = some message →
      Q.processInput st recData cAddr skipdecrypt = P.processInput side st cAddr message
  ignores : ∀ st recData cAddr skipdecrypt, decrypted W.decrypt recData skipdecrypt = none →
    Q.processInput st recData cAddr skipdecrypt = some ⟨st, .processedFailed, []⟩

/-- A program of the network with this comm layer, which lists the connections in the
order in which they have come. -/
structure Endpoint {σ : Side → Type} (side : Side) (N : ByteNetwork.Network σ)
    (L : PyConnectNetComm (σ side)) : Prop where
  comm : L.comm = (N.parties side).comm
  program : L.program = (N.parties side).program
  clients : (L.clientFDList.map fun client => (client.fd, client.dataInfo)).Perm
    (N.conns.filterMap (listed side))
  distinct : (L.clientFDList.map (·.fd)).Nodup

/-- What the comm layer has written has gone out on the network. -/
structure Sent {σ : Side → Type} (W : Wire) (side : Side) (N : ByteNetwork.Network σ)
    (L : PyConnectNetComm (σ side)) (N' : ByteNetwork.Network σ) (L' : PyConnectNetComm (σ side)) :
    Prop where
  endpoint : Endpoint side N' L'
  clientFDList : L'.clientFDList = L.clientFDList
  written : ∃ xs, L'.written = L.written ++ xs ∧ N'.conns = N.conns.map (sends W side xs)

/-- What a program's loop does with its comm layer in one round. -/
inductive Works {τ : Type} (Q : Processor τ) : PyConnectNetComm τ → PyConnectNetComm τ → Prop
  | announces (L : PyConnectNetComm τ) (data : List UInt8) :
      Works Q L (CommLayer.dataPacketSender Q L data true)
  | datagram (L L' : PyConnectNetComm τ) (o : Opened) (cAddr : SockAddr) (recBuffer : List UInt8)
      (results : List MesgProcessResult) : CommLayer.Unused L o.fd →
      CommLayer.processUDPInput Q L (some o) cAddr recBuffer = some (L', results) → Works Q L L'
  | accept (L : PyConnectNetComm τ) (o : Opened) (cAddr : SockAddr) : CommLayer.Unused L o.fd →
      Works Q L (CommLayer.addFdToClientList L o cAddr)
  | read (L L' : PyConnectNetComm τ) (fd : Int) (chunk : List UInt8) (results : List MesgProcessResult) :
      CommLayer.processIncomingData Q L fd chunk = some (L', results) → Works Q L L'
  | closed (L : PyConnectNetComm τ) (fd : Int) : fd ∈ L.clientFDList.map (·.fd) →
      Works Q L (socketClosed Q L fd)

def actor : ByteNetwork.Event → Side
  | .broadcast side _ | .datagram side _ _ _ | .accept side _ _ | .read side _ _ _ | .eof side _ _ => side

variable {σ : Side → Type} {P : Programs σ} {W : Wire} {N N' : ByteNetwork.Network σ} {side : Side}
  {Q : Processor (σ side)} {L L' : PyConnectNetComm (σ side)} {k : ByteNetwork.Connection} {c n : Nat}
  {fd : Int} {o : Opened} {cAddr : SockAddr} {data : List UInt8} {e : ByteNetwork.Event}

/-- Bytes come from the address that the comm layer has for the connection, and the
message for a lost peer from none. -/
def Addressed (N : ByteNetwork.Network σ) (L : PyConnectNetComm (σ side)) : ByteNetwork.Event → Prop
  | .read _ c cAddr _ => ∀ k, N.conns[c]? = some k → ∀ client ∈ L.clientFDList,
      k.sockets side = .client client.fd → client.cAddr = cAddr
  | .eof _ _ cAddr => cAddr = dummyAddr
  | .broadcast .. | .datagram .. | .accept .. => True

theorem listed_eq_some {info : SocketDataBufferInfo} (hfd : k.sockets side = .client fd)
    (hinfo : k.dataInfo side = info) : listed side k = some (fd, info) := by
  rw [listed, hfd, hinfo]

theorem mem_listed : fd ∈ (N.conns.filterMap (listed side)).map (·.1) ↔
    ∃ k ∈ N.conns, k.sockets side = .client fd := by
  rw [List.map_filterMap, List.mem_filterMap]
  refine exists_congr fun k => and_congr_right fun _ => ?_
  rw [listed]
  cases k.sockets side <;> simp

theorem sends_nil (W : Wire) (side : Side) (k : ByteNetwork.Connection) : sends W side [] k = k := by
  rw [sends, List.filter_nil, List.flatMap_nil, ByteNetwork.Connection.write, List.append_nil,
    Function.update_eq_self]

theorem sends_single (W : Wire) (side : Side) (fd : Int) (data : List UInt8) (k : ByteNetwork.Connection) :
    sends W side [(fd, data)] k =
      if k.sockets side = .client fd then k.write side (frame W.bigEndian (W.encrypt data)) else k := by
  split
  next h => rw [sends, List.filter_singleton, decide_eq_true h, cond_true, List.flatMap_singleton]
  next h =>
    rw [sends, List.filter_singleton, decide_eq_false h]
    exact sends_nil W side k

theorem sends_sends (W : Wire) (side : Side) (xs ys : List (Int × List UInt8)) (k : ByteNetwork.Connection) :
    sends W side ys (sends W side xs k) = sends W side (xs ++ ys) k := by
  simp only [sends, ByteNetwork.Connection.write, List.filter_append, List.flatMap_append,
    Function.update_self, Function.update_idem, List.append_assoc]
  rfl

theorem filterMap_sends (W : Wire) (side side' : Side) (xs : List (Int × List UInt8))
    (conns : List ByteNetwork.Connection) :
    (conns.map (sends W side xs)).filterMap (listed side') = conns.filterMap (listed side') := by
  rw [List.filterMap_map]
  rfl

theorem Sent.refl (h : Endpoint side N L) : Sent W side N L N L :=
  ⟨h, rfl, [], (List.append_nil _).symm, by rw [funext (sends_nil W side), List.map_id']⟩

theorem Sent.trans {N₁ : ByteNetwork.Network σ} {L₁ : PyConnectNetComm (σ side)}
    (h₁ : Sent W side N L N₁ L₁) (h₂ : Sent W side N₁ L₁ N' L') : Sent W side N L N' L' := by
  obtain ⟨xs, hxs, hconns⟩ := h₁.written
  obtain ⟨ys, hys, hconns'⟩ := h₂.written
  refine ⟨h₂.endpoint, h₂.clientFDList.trans h₁.clientFDList, xs ++ ys, ?_, ?_⟩
  · rw [hys, hxs, List.append_assoc]
  · rw [hconns', hconns, List.map_map]
    exact List.map_congr_left fun k _ => sends_sends W side xs ys k

theorem endpoint_update {p : Party (σ side)} (hparties : N'.parties = Function.update N.parties side p)
    (hcomm : L'.comm = p.comm) (hprogram : L'.program = p.program)
    (hclients : (L'.clientFDList.map fun client => (client.fd, client.dataInfo)).Perm
      (N'.conns.filterMap (listed side)))
    (hdistinct : (L'.clientFDList.map (·.fd)).Nodup) : Endpoint side N' L' where
  comm := by rw [hparties, Function.update_self, hcomm]
  program := by rw [hparties, Function.update_self, hprogram]
  clients := hclients
  distinct := hdistinct

theorem Endpoint.withParty (h : Endpoint side N L) {p : Party (σ side)} (hcomm : L'.comm = p.comm)
    (hprogram : L'.program = p.program) (hlist : L'.clientFDList = L.clientFDList) :
    Endpoint side (N.withParty side p) L' :=
  endpoint_update rfl hcomm hprogram (hlist ▸ h.clients) (hlist ▸ h.distinct)

theorem Endpoint.clientDataSend (hQ : Speaks P W side Q) (h : Endpoint side N L)
    (hsend : ByteNetwork.clientDataSend W N side data = some N') :
    Sent W side N L N' (CommLayer.clientDataSend Q L data) := by
  simp only [ByteNetwork.clientDataSend, CommLayer.clientDataSend, h.comm, hQ.plays] at hsend ⊢
  generalize findOrAddCommChanByMsgID side (N.parties side).comm data = r at *
  obtain ⟨comm, mysock⟩ := r
  dsimp only at hsend ⊢
  split at hsend
  · cases hsend
  · split at hsend
    next hinvalid =>
      rw [if_pos hinvalid, ← Option.some.inj hsend]
      have h' : Endpoint side (N.withParty side
          { N.parties side with comm := comm, sent := (N.parties side).sent ++ [data] })
          { L with comm := comm } := h.withParty rfl h.program rfl
      exact ⟨h', rfl, (Sent.refl h' (W := W)).written⟩
    next hvalid =>
      split at hsend
      · cases hsend
      · rw [if_neg hvalid, ← Option.some.inj hsend]
        have hconns : (N.conns.map fun k => if k.sockets side = .client mysock then
            k.write side (frame W.bigEndian (W.encrypt data)) else k) =
              N.conns.map (sends W side [(mysock, data)]) :=
          List.map_congr_left fun k _ => (sends_single W side mysock data k).symm
        refine ⟨endpoint_update rfl rfl h.program ?_ h.distinct, rfl, [(mysock, data)], rfl, hconns⟩
        · change List.Perm _ ((N.conns.map fun k => if k.sockets side = .client mysock then
            k.write side (frame W.bigEndian (W.encrypt data)) else k).filterMap (listed side))
          rw [hconns, filterMap_sends]
          exact h.clients

theorem Endpoint.dataPacketSender (hQ : Speaks P W side Q) (h : Endpoint side N L) {broadcast : Bool}
    (hsend : ByteNetwork.dataPacketSender P W N side data broadcast = some N') :
    Sent W side N L N' (CommLayer.dataPacketSender Q L data broadcast) := by
  rw [ByteNetwork.dataPacketSender] at hsend
  rw [CommLayer.dataPacketSender]
  cases broadcast with
  | true =>
      rw [if_pos rfl, netBroadcastSend] at hsend
      split at hsend
      · cases hsend
      · rw [if_pos rfl, ← Option.some.inj hsend]
        have h' : Endpoint side { N with air := N.air ++ [W.encrypt (broadcastForm P side data)] } L :=
          ⟨h.comm, h.program, h.clients, h.distinct⟩
        exact ⟨h', rfl, (Sent.refl h' (W := W)).written⟩
  | false => exact h.clientDataSend hQ hsend

theorem Endpoint.dispatchAll (hQ : Speaks P W side Q) {dispatches : List (List UInt8 × Bool)}
    (h : Endpoint side N L) (hsend : ByteNetwork.dispatchAll P W side dispatches N = some N') :
    Sent W side N L N' (dispatches.foldl (fun L x => CommLayer.dataPacketSender Q L x.1 x.2) L) := by
  induction dispatches generalizing N L with
  | nil =>
      obtain rfl := Option.some.inj hsend
      exact .refl h
  | cons x dispatches ih =>
      obtain ⟨N₁, hfirst, hrest⟩ := Option.bind_eq_some_iff.mp hsend
      have hsent := h.dataPacketSender hQ hfirst
      exact hsent.trans (ih hsent.endpoint hrest)

theorem Endpoint.input (hQ : Speaks P W side Q) (h : Endpoint side N L) {recData message : List UInt8}
    {skipdecrypt : Bool} {result : MesgProcessResult}
    (hdec : decrypted W.decrypt recData skipdecrypt = some message)
    (hdeliver : deliver P W N side cAddr message = some (N', result)) :
    ∃ L', CommLayer.input Q L cAddr recData skipdecrypt = some (L', result) ∧ Sent W side N L N' L' := by
  obtain ⟨r, hr, hsend⟩ := Option.bind_eq_some_iff.mp hdeliver
  obtain ⟨N₁, hall, he⟩ := Option.map_eq_some_iff.mp hsend
  obtain ⟨rfl, rfl⟩ := Prod.mk.inj he
  have h' : Endpoint side (N.withParty side { N.parties side with
      program := r.program, processed := (N.parties side).processed ++ [message] })
      { L with program := r.program } := h.withParty h.comm rfl rfl
  have hsent := h'.dispatchAll hQ hall
  refine ⟨_, ?_, hsent.endpoint, hsent.clientFDList, hsent.written⟩
  rw [CommLayer.input, hQ.processes _ _ _ _ _ hdec, h.program, hr]
  rfl

theorem input_ignored (hQ : Speaks P W side Q) (cAddr : SockAddr) {recData : List UInt8} {skipdecrypt : Bool}
    (hdec : decrypted W.decrypt recData skipdecrypt = none) :
    CommLayer.input Q L cAddr recData skipdecrypt = some (L, .processedFailed) := by
  rw [CommLayer.input, hQ.ignores _ _ _ _ hdec]
  rfl

theorem Endpoint.inputs (hQ : Speaks P W side Q) {payloads : List (List UInt8)} (h : Endpoint side N L)
    (hin : ByteNetwork.inputs P W side cAddr payloads N = some N') :
    ∃ L' results, CommLayer.inputs Q cAddr payloads L = some (L', results) ∧ Sent W side N L N' L' := by
  induction payloads generalizing N L with
  | nil =>
      obtain rfl := Option.some.inj hin
      exact ⟨L, [], rfl, .refl h⟩
  | cons recData payloads ih =>
      rw [ByteNetwork.inputs] at hin
      cases hdec : decrypted W.decrypt recData false with
      | none =>
          rw [hdec] at hin
          obtain ⟨L', results, hrest, hsent⟩ := ih h hin
          refine ⟨L', .processedFailed :: results, ?_, hsent⟩
          simp only [CommLayer.inputs, input_ignored hQ cAddr hdec, hrest, Option.bind_eq_bind,
            Option.bind_some]
      | some message =>
          rw [hdec] at hin
          obtain ⟨⟨N₁, result⟩, hfirst, hin'⟩ := Option.bind_eq_some_iff.mp hin
          obtain ⟨L₁, hinput, hsent₁⟩ := h.input hQ hdec hfirst
          obtain ⟨L', results, hrest, hsent⟩ := ih hsent₁.endpoint hin'
          refine ⟨L', result :: results, ?_, hsent₁.trans hsent⟩
          simp only [CommLayer.inputs, hinput, hrest, Option.bind_eq_bind, Option.bind_some]

theorem Endpoint.mem (h : Endpoint side N L) : fd ∈ L.clientFDList.map (·.fd) ↔
    ∃ k ∈ N.conns, k.sockets side = .client fd := by
  rw [← mem_listed, ← (h.clients.map _).mem_iff, List.map_map]
  rfl

theorem Endpoint.unused (h : Endpoint side N L) (hfd : ByteNetwork.Unused N side fd) :
    CommLayer.Unused L fd := by
  refine ⟨hfd.1, fun client hclient hsame => ?_⟩
  obtain ⟨k, hk, hsocket⟩ := h.mem.mp (List.mem_map.mpr ⟨client, hclient, hsame⟩)
  exact hfd.2 k hk hsocket

theorem filterMap_set {α β : Type} {f : α → Option β} {xs : List α} (hlt : c < xs.length) (y : α) :
    (xs.set c y).filterMap f =
      (xs.take c).filterMap f ++ ((f y).toList ++ (xs.drop (c + 1)).filterMap f) := by
  rw [List.set_eq_take_append_cons_drop, if_pos hlt, List.filterMap_append, List.filterMap_cons]
  cases f y <;> rfl

theorem filterMap_at {α β : Type} {f : α → Option β} {xs : List α} {x : α} (hc : xs[c]? = some x) :
    xs.filterMap f = (xs.take c).filterMap f ++ ((f x).toList ++ (xs.drop (c + 1)).filterMap f) := by
  obtain ⟨hlt, rfl⟩ := List.getElem?_eq_some_iff.mp hc
  conv => lhs; rw [← List.set_getElem_self hlt]
  exact filterMap_set hlt xs[c]

theorem Endpoint.addFdToClientList (h : Endpoint side N L) (hk : N.conns[c]? = some k)
    (hbacklog : k.sockets side = .backlog) (hfd : ByteNetwork.Unused N side o.fd) (cAddr : SockAddr) :
    Endpoint side (ByteNetwork.addFdToClientList N side c k o)
      (CommLayer.addFdToClientList L o cAddr) := by
  refine endpoint_update rfl (congrArg (setLastUsedCommChannel · o.fd) h.comm) h.program ?_ ?_
  · have hnew : listed side ((k.setSocket side (.client o.fd)).setData side (k.stream side)
        (Reassembly.addFdToClientList o.bufferedData)) =
          some (o.fd, Reassembly.addFdToClientList o.bufferedData) :=
      listed_eq_some (Function.update_self ..) (Function.update_self ..)
    have hold : listed side k = none := by rw [listed, hbacklog]
    rw [CommLayer.addFdToClientList, List.map_append, List.map_singleton]
    refine (List.perm_append_singleton _ _).trans ((h.clients.cons _).trans ?_)
    change List.Perm _ ((N.conns.set c _).filterMap (listed side))
    rw [filterMap_at hk, filterMap_set (List.getElem?_eq_some_iff.mp hk).1, hold, hnew]
    exact List.perm_middle.symm
  · rw [CommLayer.addFdToClientList, List.map_append, List.map_singleton]
    refine List.nodup_append.mpr ⟨h.distinct, List.nodup_singleton _, fun x hx y hy => ?_⟩
    rintro rfl
    rw [List.mem_singleton.mp hy] at hx
    obtain ⟨k', hk', hsocket⟩ := h.mem.mp hx
    exact hfd.2 k' hk' hsocket

theorem Endpoint.createTCPTalker (h : Endpoint side N L) (hfd : ByteNetwork.Unused N side o.fd)
    (cAddr : SockAddr) :
    Endpoint side (ByteNetwork.createTCPTalker N side o) (CommLayer.addFdToClientList L o cAddr) := by
  have h' : Endpoint side { N with conns := N.conns ++ [.fresh] } L := by
    refine ⟨h.comm, h.program, ?_, h.distinct⟩
    rw [List.filterMap_append]
    exact (List.append_nil (N.conns.filterMap (listed side))).symm ▸ h.clients
  refine h'.addFdToClientList List.getElem?_concat_length rfl ⟨hfd.1, fun k hk => ?_⟩ cAddr
  rcases List.mem_append.mp hk with hk | hk
  · exact hfd.2 k hk
  · rw [List.mem_singleton.mp hk]
    exact Socket.noConfusion

theorem Endpoint.channelShutdown (hQ : Speaks P W side Q) (h : Endpoint side N L) (fd : Int)
    {notifyMesgProc : Bool} (hcAddr : notifyMesgProc = true → cAddr = dummyAddr) :
    Endpoint side (ByteNetwork.channelShutdown P N side cAddr fd notifyMesgProc)
      (CommLayer.channelShutdown Q L fd notifyMesgProc) := by
  have hprocesses : ∀ id, Q.processInput L.program (shutdownMessage side id) dummyAddr true =
      P.processInput side L.program dummyAddr (shutdownMessage side id) := by
    intro id
    refine hQ.processes _ _ _ _ _ (decrypted_eq true ?_ rfl)
    cases side <;> exact Nat.le_add_left 1 _
  have hsame : objCommChannelShutdown side
      (fun st data => ((Q.processInput st data dummyAddr true).map (·.program)).getD st)
        L.comm L.program fd notifyMesgProc =
      objCommChannelShutdown side
        (fun st data => ((P.processInput side st cAddr data).map (·.program)).getD st)
          L.comm L.program fd notifyMesgProc := by
    rw [objCommChannelShutdown, objCommChannelShutdown]
    cases findMapping L.comm fd with
    | none => rfl
    | some id =>
        cases notifyMesgProc with
        | false => rfl
        | true =>
            dsimp only
            rw [hprocesses, hcAddr rfl]
  rw [CommLayer.channelShutdown, ByteNetwork.channelShutdown]
  dsimp only
  rw [hQ.plays, hsame, h.comm, h.program]
  exact h.withParty rfl rfl rfl

theorem eraseP_eq_filter {xs : List ClientFD} (h : (xs.map (·.fd)).Nodup) (fd : Int) :
    xs.eraseP (·.fd = fd) = xs.filter (·.fd ≠ fd) := by
  induction xs with
  | nil => rfl
  | cons x xs ih =>
      rw [List.map_cons, List.nodup_cons] at h
      by_cases hx : x.fd = fd
      · have hkept : xs.filter (·.fd ≠ fd) = xs := by
          refine List.filter_eq_self.mpr fun y hy => decide_eq_true fun hsame => h.1 ?_
          exact List.mem_map.mpr ⟨y, hy, hsame.trans hx.symm⟩
        simpa [List.eraseP_cons, hx] using hkept.symm
      · simpa [List.eraseP_cons, hx] using ih h.2

theorem Endpoint.destroyCurrentClient (h : Endpoint side N L) (fd : Int) :
    Endpoint side (ByteNetwork.destroyCurrentClient N side fd) (CommLayer.destroyCurrentClient L fd) where
  comm := h.comm
  program := h.program
  clients := by
    have hlisted : (ByteNetwork.destroyCurrentClient N side fd).conns.filterMap (listed side) =
        (N.conns.filterMap (listed side)).filter (·.1 ≠ fd) := by
      rw [ByteNetwork.destroyCurrentClient, ByteNetwork.Network.onSocket, List.filterMap_map,
        List.filter_filterMap]
      refine List.filterMap_congr fun k _ => ?_
      rw [Function.comp_apply, listed]
      cases hk : k.sockets side with
      | client fd' =>
          by_cases hfd : fd' = fd
          · simp [hfd, listed, hk, ByteNetwork.Connection.setSocket, Option.filter]
          · simp [hfd, listed, hk, Option.filter]
      | _ => simp [listed, hk, Option.filter]
    rw [hlisted, CommLayer.destroyCurrentClient, eraseP_eq_filter h.distinct]
    have hmap : ((L.clientFDList.filter (·.fd ≠ fd)).map fun client => (client.fd, client.dataInfo)) =
        (L.clientFDList.map fun client => (client.fd, client.dataInfo)).filter (·.1 ≠ fd) := by
      rw [List.filter_map]
      rfl
    rw [hmap]
    exact h.clients.filter _
  distinct := (List.eraseP_sublist.map _).nodup h.distinct

theorem filterMap_setData {conns : List ByteNetwork.Connection} {k' : ByteNetwork.Connection}
    {old new : SocketDataBufferInfo} (hc : conns[c]? = some k) (hk : listed side k = some (fd, old))
    (hk' : listed side k' = some (fd, new))
    (hdistinct : ((conns.filterMap (listed side)).map (·.1)).Nodup) :
    (conns.set c k').filterMap (listed side) =
      (conns.filterMap (listed side)).map fun x => if x.1 = fd then (fd, new) else x := by
  have hlisted := filterMap_at (f := listed side) hc
  rw [hk] at hlisted
  rw [filterMap_set (List.getElem?_eq_some_iff.mp hc).1, hk', hlisted]
  rw [hlisted, List.map_append, List.map_append, Option.toList_some, List.map_singleton,
    List.singleton_append, List.nodup_middle, List.nodup_cons] at hdistinct
  have hkept : ∀ xs : List (Int × SocketDataBufferInfo), fd ∉ xs.map (·.1) →
      xs.map (fun x => if x.1 = fd then (fd, new) else x) = xs := by
    intro xs hxs
    refine (List.map_congr_left fun x hx => if_neg fun he => hxs ?_).trans (List.map_id xs)
    exact List.mem_map.mpr ⟨x, hx, he⟩
  simp only [List.mem_append, not_or] at hdistinct
  rw [List.map_append, List.map_append, hkept _ hdistinct.1.1, hkept _ hdistinct.1.2]
  simp

theorem Endpoint.find (h : Endpoint side N L) (hk : N.conns[c]? = some k)
    (hfd : k.sockets side = .client fd) :
    ∃ client, L.clientFDList.find? (·.fd = fd) = some client ∧ client ∈ L.clientFDList ∧
      client.fd = fd ∧ client.dataInfo = k.dataInfo side := by
  have hmem : (fd, k.dataInfo side) ∈ N.conns.filterMap (listed side) :=
    List.mem_filterMap.mpr ⟨k, List.mem_of_getElem? hk, listed_eq_some hfd rfl⟩
  obtain ⟨client, hclient, he⟩ := List.mem_map.mp (h.clients.mem_iff.mpr hmem)
  obtain ⟨hsame, hinfo⟩ := Prod.mk.inj he
  have hsome : (L.clientFDList.find? (·.fd = fd)).isSome :=
    List.find?_isSome.mpr ⟨client, hclient, decide_eq_true hsame⟩
  obtain ⟨found, hfound⟩ := Option.isSome_iff_exists.mp hsome
  have hin := List.mem_of_find?_eq_some hfound
  have hkey : found.fd = fd := by simpa using List.find?_some hfound
  obtain rfl := List.inj_on_of_nodup_map h.distinct hin hclient (hkey.trans hsame.symm)
  exact ⟨found, hfound, hin, hkey, hinfo⟩

theorem Endpoint.processIncomingData (hQ : Speaks P W side Q) (h : Endpoint side N L)
    (hk : N.conns[c]? = some k) (hfd : k.sockets side = .client fd)
    (haddr : ∀ client ∈ L.clientFDList, client.fd = fd → client.cAddr = cAddr)
    (hread : ByteNetwork.processIncomingData P W N side c k fd cAddr n = some N') :
    ∃ L' results, CommLayer.processIncomingData Q L fd ((k.stream side).take n) = some (L', results) ∧
      Endpoint side N' L' := by
  obtain ⟨⟨its, info⟩, hloop, hin⟩ := Option.bind_eq_some_iff.mp hread
  obtain ⟨client, hfind, hmem, hkey, hinfo⟩ := h.find hk hfd
  obtain ⟨N₁, hN₁⟩ : ∃ N₁, N₁ =
    (N.withComm side (setLastUsedCommChannel (N.parties side).comm fd)).withConn c
      (k.setData side ((k.stream side).drop n) info) := ⟨_, rfl⟩
  obtain ⟨L₁, hL₁⟩ : ∃ L₁ : PyConnectNetComm (σ side), L₁ = { L with
    comm := setLastUsedCommChannel L.comm fd
    clientFDList := L.clientFDList.map fun x => if x.fd = fd then { x with dataInfo := info } else x } :=
      ⟨_, rfl⟩
  have hset : (k.setData side ((k.stream side).drop n) info).sockets side = .client fd := hfd
  have hdistinct : ((N.conns.filterMap (listed side)).map (·.1)).Nodup := by
    refine (h.clients.map Prod.fst).nodup_iff.mp ?_
    rw [List.map_map]
    exact h.distinct
  have h₁ : Endpoint side N₁ L₁ := by
    rw [hN₁, hL₁]
    refine endpoint_update rfl (congrArg (setLastUsedCommChannel · fd) h.comm) h.program ?_ ?_
    · have hlisted := filterMap_setData hk (listed_eq_some hfd rfl)
        (listed_eq_some hset (Function.update_self ..)) hdistinct
      change List.Perm _ ((N.conns.set c _).filterMap (listed side))
      rw [hlisted, List.map_map]
      have hmap := h.clients.map fun x => if x.1 = fd then (fd, info) else x
      rw [List.map_map] at hmap
      refine List.Perm.trans (.of_eq (List.map_congr_left fun x _ => ?_)) hmap
      by_cases hx : x.fd = fd <;> simp [hx]
    · rw [List.map_map]
      have hkeys : (L.clientFDList.map fun x =>
          (if x.fd = fd then { x with dataInfo := info } else x).fd) = L.clientFDList.map (·.fd) := by
        refine List.map_congr_left fun x _ => ?_
        split <;> rfl
      exact hkeys ▸ h.distinct
  dsimp only at hin
  rw [← hN₁] at hin
  obtain ⟨L', results, hinputs, hsent⟩ := h₁.inputs hQ hin
  refine ⟨L', results, ?_, hsent.endpoint⟩
  rw [CommLayer.processIncomingData, hfind, hQ.bigEndian]
  simp only [Option.bind_eq_bind, Option.bind_some, hinfo, hloop, haddr client hmem hkey, ← hL₁, hinputs]
  rw [if_neg (by decide)]

theorem Endpoint.processUDPInput (hQ : Speaks P W side Q) (h : Endpoint side N L)
    (hfd : ByteNetwork.Unused N side o.fd) {recBuffer : List UInt8}
    (hdatagram : ByteNetwork.processUDPInput P W N side o cAddr recBuffer = some N') :
    ∃ L' results, CommLayer.processUDPInput Q L (some o) cAddr (recBuffer.take udpBufferSize) =
      some (L', results) ∧ Endpoint side N' L' := by
  rw [ByteNetwork.processUDPInput] at hdatagram
  rw [CommLayer.processUDPInput, hQ.decrypt, hQ.plays, hQ.bigEndian]
  cases hdec : W.decrypt (recBuffer.take udpBufferSize) with
  | none =>
      rw [hdec] at hdatagram
      exact ⟨L, [], rfl, Option.some.inj hdatagram ▸ h⟩
  | some message =>
      rw [hdec] at hdatagram
      dsimp only at hdatagram ⊢
      split at hdatagram
      next hpeer =>
        obtain ⟨L', results, hin, hsent⟩ := h.inputs hQ hdatagram
        obtain ⟨L₁, result, results', hinput, hrest, -⟩ := inputs_cons hin
        obtain ⟨rfl, -⟩ := Prod.mk.inj (Option.some.inj hrest)
        rw [if_pos hpeer, hinput]
        exact ⟨L₁, [], rfl, hsent.endpoint⟩
      next hpeer =>
        rw [if_neg hpeer]
        split at hdatagram
        next hopens =>
          split at hdatagram
          · cases hdatagram
          next hshort =>
            obtain ⟨⟨N₁, result⟩, hdeliver, hend⟩ := Option.map_eq_some_iff.mp hdatagram
            have hrestored : decrypted W.decrypt (restoreMessage message) true =
                some (restoreMessage message) :=
              decrypted_eq true (by rw [restoreMessage, List.length_append]; exact Nat.le_add_left 1 _) rfl
            obtain ⟨L₁, hinput, hsent⟩ := (h.createTCPTalker hfd (talkerAddr W.bigEndian cAddr message)).input
              hQ hrestored hdeliver
            rw [if_pos hopens, if_neg hshort]
            simp only [talkerInput, hinput, Option.bind_eq_bind, Option.bind_some]
            dsimp only at hend
            split at hend
            next hclosed =>
              rw [if_pos hclosed]
              refine ⟨_, _, rfl, ?_⟩
              have h₁ := hsent.endpoint
              have hcomm : Endpoint side
                  (N₁.withComm side (getLastUsedCommChannel (N₁.parties side).comm).1)
                  { L₁ with comm := (getLastUsedCommChannel (N₁.parties side).comm).1 } :=
                h₁.withParty rfl h₁.program rfl
              rw [← hend, ByteNetwork.rejectTalker, h₁.comm]
              exact (hcomm.channelShutdown hQ _
                fun he => absurd he Bool.false_ne_true).destroyCurrentClient _
            next hopen =>
              rw [if_neg hopen]
              exact ⟨L₁, [result], rfl, hend ▸ hsent.endpoint⟩
        next hopens =>
          rw [if_neg hopens]
          exact ⟨L, [], rfl, Option.some.inj hdatagram ▸ h⟩

/-- What one program does changes nothing of what the other has. -/
structure Unseen {σ : Side → Type} (side : Side) (N N' : ByteNetwork.Network σ) : Prop where
  party : N'.parties side = N.parties side
  listed : N'.conns.filterMap (listed side) = N.conns.filterMap (listed side)

theorem Endpoint.unseen (h : Endpoint side N L) (hunseen : Unseen side N N') : Endpoint side N' L :=
  ⟨hunseen.party ▸ h.comm, hunseen.party ▸ h.program, hunseen.listed ▸ h.clients, h.distinct⟩

theorem Unseen.refl (side : Side) (N : ByteNetwork.Network σ) : Unseen side N N := ⟨rfl, rfl⟩

theorem Unseen.trans {N₁ : ByteNetwork.Network σ} (h₁ : Unseen side N N₁) (h₂ : Unseen side N₁ N') :
    Unseen side N N' :=
  ⟨h₂.party.trans h₁.party, h₂.listed.trans h₁.listed⟩

variable {actor' : Side}

theorem unseen_withParty (hne : side ≠ actor') (N : ByteNetwork.Network σ) (p : Party (σ actor')) :
    Unseen side N (N.withParty actor' p) :=
  ⟨Function.update_of_ne hne .., rfl⟩

theorem unseen_withConn {k' : ByteNetwork.Connection} (hk : N.conns[c]? = some k)
    (hlisted : listed side k' = listed side k) : Unseen side N (N.withConn c k') := by
  refine ⟨rfl, ?_⟩
  rw [filterMap_at hk, ← hlisted]
  exact filterMap_set (List.getElem?_eq_some_iff.mp hk).1 k'

theorem unseen_onSocket {f : ByteNetwork.Connection → ByteNetwork.Connection}
    (hf : ∀ k, listed side (f k) = listed side k) (N : ByteNetwork.Network σ) (fd : Int) :
    Unseen side N (N.onSocket actor' fd f) := by
  refine ⟨rfl, ?_⟩
  rw [ByteNetwork.Network.onSocket, List.filterMap_map]
  refine List.filterMap_congr fun k _ => ?_
  rw [Function.comp_apply]
  split
  · exact hf k
  · rfl

theorem unseen_clientDataSend (hne : side ≠ actor')
    (hsend : ByteNetwork.clientDataSend W N actor' data = some N') : Unseen side N N' := by
  simp only [ByteNetwork.clientDataSend] at hsend
  split at hsend
  · cases hsend
  · split at hsend
    · exact Option.some.inj hsend ▸ unseen_withParty hne N _
    · split at hsend
      · cases hsend
      · exact Option.some.inj hsend ▸
          (unseen_withParty hne N _).trans
            (unseen_onSocket (f := (·.write actor' (frame W.bigEndian (W.encrypt data)))) (fun _ => rfl) _ _)

theorem unseen_dataPacketSender (hne : side ≠ actor') {broadcast : Bool}
    (hsend : ByteNetwork.dataPacketSender P W N actor' data broadcast = some N') : Unseen side N N' := by
  rw [ByteNetwork.dataPacketSender] at hsend
  split at hsend
  · rw [netBroadcastSend] at hsend
    split at hsend
    · cases hsend
    · exact Option.some.inj hsend ▸ ⟨rfl, rfl⟩
  · exact unseen_clientDataSend hne hsend

theorem unseen_dispatchAll (hne : side ≠ actor') {dispatches : List (List UInt8 × Bool)}
    (hsend : ByteNetwork.dispatchAll P W actor' dispatches N = some N') : Unseen side N N' := by
  induction dispatches generalizing N with
  | nil => exact Option.some.inj hsend ▸ .refl side N
  | cons x dispatches ih =>
      obtain ⟨N₁, hfirst, hrest⟩ := Option.bind_eq_some_iff.mp hsend
      exact (unseen_dataPacketSender hne hfirst).trans (ih hrest)

theorem unseen_deliver (hne : side ≠ actor') {message : List UInt8}
    {r : ByteNetwork.Network σ × MesgProcessResult}
    (hdeliver : deliver P W N actor' cAddr message = some r) : Unseen side N r.1 := by
  obtain ⟨reaction, -, hsend⟩ := Option.bind_eq_some_iff.mp hdeliver
  obtain ⟨N₁, hall, rfl⟩ := Option.map_eq_some_iff.mp hsend
  exact (unseen_withParty hne N _).trans (unseen_dispatchAll hne hall)

theorem unseen_inputs (hne : side ≠ actor') {payloads : List (List UInt8)}
    (hin : ByteNetwork.inputs P W actor' cAddr payloads N = some N') : Unseen side N N' := by
  induction payloads generalizing N with
  | nil => exact Option.some.inj hin ▸ .refl side N
  | cons recData payloads ih =>
      rw [ByteNetwork.inputs] at hin
      split at hin
      · exact ih hin
      · obtain ⟨r, hfirst, hrest⟩ := Option.bind_eq_some_iff.mp hin
        exact (unseen_deliver hne hfirst).trans (ih hrest)

theorem unseen_addFdToClientList (hne : side ≠ actor') (hk : N.conns[c]? = some k) (o : Opened) :
    Unseen side N (ByteNetwork.addFdToClientList N actor' c k o) := by
  refine (unseen_withConn hk ?_).trans (unseen_withParty hne _ _)
  simp only [listed, ByteNetwork.Connection.setSocket, Connection.setData, Function.update_of_ne hne]

theorem unseen_createTCPTalker (hne : side ≠ actor') (N : ByteNetwork.Network σ) (o : Opened) :
    Unseen side N (ByteNetwork.createTCPTalker N actor' o) := by
  have hmade : Unseen side N { N with conns := N.conns ++ [.fresh] } := by
    refine ⟨rfl, ?_⟩
    rw [List.filterMap_append]
    exact List.append_nil _
  exact hmade.trans (unseen_addFdToClientList hne List.getElem?_concat_length o)

theorem unseen_destroyCurrentClient (hne : side ≠ actor') (N : ByteNetwork.Network σ) (fd : Int) :
    Unseen side N (ByteNetwork.destroyCurrentClient N actor' fd) := by
  refine unseen_onSocket (fun k => ?_) N fd
  simp only [listed, ByteNetwork.Connection.setSocket, Function.update_of_ne hne]

theorem unseen_rejectTalker (hne : side ≠ actor') (P : Programs σ) (N : ByteNetwork.Network σ)
    (cAddr : SockAddr) : Unseen side N (ByteNetwork.rejectTalker P N actor' cAddr) :=
  ((unseen_withParty hne N _).trans (unseen_withParty hne _ _)).trans
    (unseen_destroyCurrentClient hne _ _)

theorem unseen_processUDPInput (hne : side ≠ actor') {recBuffer : List UInt8}
    (hdatagram : ByteNetwork.processUDPInput P W N actor' o cAddr recBuffer = some N') :
    Unseen side N N' := by
  rw [ByteNetwork.processUDPInput] at hdatagram
  split at hdatagram
  · exact Option.some.inj hdatagram ▸ .refl side N
  · split at hdatagram
    · exact unseen_inputs hne hdatagram
    · split at hdatagram
      · split at hdatagram
        · cases hdatagram
        · obtain ⟨r, hdeliver, hend⟩ := Option.map_eq_some_iff.mp hdatagram
          have hdelivered := (unseen_createTCPTalker hne N o).trans (unseen_deliver hne hdeliver)
          split at hend
          · exact hend ▸ hdelivered.trans (unseen_rejectTalker hne P r.1 _)
          · exact hend ▸ hdelivered
      · exact Option.some.inj hdatagram ▸ .refl side N

theorem unseen_processIncomingData (hne : side ≠ actor') (hk : N.conns[c]? = some k)
    (hread : ByteNetwork.processIncomingData P W N actor' c k fd cAddr n = some N') : Unseen side N N' := by
  obtain ⟨r, -, hin⟩ := Option.bind_eq_some_iff.mp hread
  refine ((unseen_withParty hne N _).trans (unseen_withConn hk ?_)).trans (unseen_inputs hne hin)
  simp only [listed, Connection.setData, Function.update_of_ne hne]

theorem step_unseen (hne : side ≠ actor e) (hstep : ByteNetwork.step P W N e = some N') :
    Unseen side N N' := by
  cases e with
  | broadcast actor' data => exact unseen_dataPacketSender hne (step_broadcast hstep).2
  | datagram actor' o cAddr recBuffer => exact unseen_processUDPInput hne (step_datagram hstep).2.2
  | accept actor' c o =>
      obtain ⟨k, hk, -, -, rfl⟩ := step_accept hstep
      exact unseen_addFdToClientList hne hk o
  | read actor' c cAddr n =>
      obtain ⟨k, fd, hk, -, -, -, hread⟩ := step_read hstep
      exact unseen_processIncomingData hne hk hread
  | eof actor' c cAddr =>
      obtain ⟨k, fd, hk, -, -, -, rfl⟩ := step_eof hstep
      exact (unseen_withParty hne N _).trans (unseen_destroyCurrentClient hne _ fd)

theorem step_works {Q : Processor (σ (actor e))} {L : PyConnectNetComm (σ (actor e))}
    (hQ : Speaks P W (actor e) Q) (h : Endpoint (actor e) N L) (haddr : Addressed N L e)
    (hstep : ByteNetwork.step P W N e = some N') : ∃ L', Works Q L L' ∧ Endpoint (actor e) N' L' := by
  cases e with
  | broadcast side data =>
      exact ⟨_, .announces L data, (h.dataPacketSender hQ (step_broadcast hstep).2).endpoint⟩
  | datagram side o cAddr recBuffer =>
      obtain ⟨-, hfd, hdatagram⟩ := step_datagram hstep
      obtain ⟨L', results, hinput, h'⟩ := h.processUDPInput hQ hfd hdatagram
      exact ⟨L', .datagram L L' o cAddr _ results (h.unused hfd) hinput, h'⟩
  | accept side c o =>
      obtain ⟨k, hk, hbacklog, hfd, rfl⟩ := step_accept hstep
      exact ⟨_, .accept L o dummyAddr (h.unused hfd), h.addFdToClientList hk hbacklog hfd dummyAddr⟩
  | read side c cAddr n =>
      obtain ⟨k, fd, hk, hfd, -, -, hread⟩ := step_read hstep
      have hfrom : ∀ client ∈ L.clientFDList, client.fd = fd → client.cAddr = cAddr :=
        fun client hclient hsame => haddr k hk client hclient (hsame ▸ hfd)
      obtain ⟨L', results, hinput, h'⟩ := h.processIncomingData hQ hk hfd hfrom hread
      exact ⟨L', .read L L' fd _ results hinput, h'⟩
  | eof side c cAddr =>
      obtain ⟨k, fd, hk, hfd, -, -, rfl⟩ := step_eof hstep
      have hshut : Endpoint side (ByteNetwork.channelShutdown P N side cAddr fd true)
          (CommLayer.channelShutdown Q L fd true) := h.channelShutdown hQ fd fun _ => haddr
      exact ⟨_, .closed L fd (h.mem.mpr ⟨k, List.mem_of_getElem? hk, hfd⟩), hshut.destroyCurrentClient fd⟩

/-- Each step of the network is a round of the comm layer of the program that takes it, and
is not seen by that of the other. -/
theorem step_endpoints {Q : (side : Side) → Processor (σ side)}
    {layers : (side : Side) → PyConnectNetComm (σ side)} (hQ : ∀ side, Speaks P W side (Q side))
    (h : ∀ side, Endpoint side N (layers side)) (haddr : Addressed N (layers (actor e)) e)
    (hstep : ByteNetwork.step P W N e = some N') :
    ∃ L', Works (Q (actor e)) (layers (actor e)) L' ∧
      ∀ side, Endpoint side N' (Function.update layers (actor e) L' side) := by
  obtain ⟨L', hworks, h'⟩ := step_works (hQ (actor e)) (h (actor e)) haddr hstep
  refine ⟨L', hworks, fun side => ?_⟩
  by_cases hside : side = actor e
  · subst hside
    rw [Function.update_self]
    exact h'
  · rw [Function.update_of_ne hside]
    exact (h side).unseen (step_unseen hside hstep)

theorem endpoint_quiet (parties : (side : Side) → Party (σ side)) (side : Side) :
    Endpoint side (ByteRefinement.quiet parties) ⟨(parties side).comm, [], (parties side).program, []⟩ :=
  ⟨rfl, rfl, .nil, List.nodup_nil⟩

/-- The programs of the network are those that the comm layers are built with. -/
theorem speaks_processor {b : Wrapper.Build} {host : Values.Host} (port : Side → UInt8 × UInt8) {W : Wire}
    (hhost : host.bigEndian = W.bigEndian) (hb : b.host.bigEndian = W.bigEndian) (side : Side) :
    Speaks (programs b host port) W side (Disconnection.processor b host W.decrypt side) := by
  cases side with
  | server =>
      refine ⟨rfl, hhost, rfl, fun st recData cAddr skipdecrypt message hdec => ?_,
        fun st recData cAddr skipdecrypt hdec => ?_⟩
      · change stubReaction (StubInput.processInput host W.decrypt st recData cAddr skipdecrypt) = _
        rw [StubInput.processInput_eq, hdec]
        rfl
      · change stubReaction (StubInput.processInput host W.decrypt st recData cAddr skipdecrypt) = _
        rw [StubInput.processInput_eq, hdec]
        rfl
  | wrapper =>
      refine ⟨rfl, hb, rfl, fun st recData cAddr skipdecrypt message hdec => ?_,
        fun st recData cAddr skipdecrypt hdec => ?_⟩
      · change wrapperReaction (WrapperInput.processInput b W.decrypt st recData skipdecrypt) = _
        rw [WrapperInput.processInput_eq, hdec]
        rfl
      · change wrapperReaction (WrapperInput.processInput b W.decrypt st recData skipdecrypt) = _
        rw [WrapperInput.processInput_eq, hdec]
        rfl

/-- What happens to the bytes between a server and a module is what their comm layers do. -/
theorem programs_endpoints {b : Wrapper.Build} {host : Values.Host} (port : Side → UInt8 × UInt8) {W : Wire}
    (hhost : host.bigEndian = W.bigEndian) (hb : b.host.bigEndian = W.bigEndian)
    {N N' : ByteNetwork.Network State} {layers : (side : Side) → PyConnectNetComm (State side)}
    (h : ∀ side, Endpoint side N (layers side)) (haddr : Addressed N (layers (actor e)) e)
    (hstep : ByteNetwork.step (programs b host port) W N e = some N') :
    ∃ L', Works (Disconnection.processor b host W.decrypt (actor e)) (layers (actor e)) L' ∧
      ∀ side, Endpoint side N' (Function.update layers (actor e) L' side) :=
  step_endpoints (speaks_processor port hhost hb) h haddr hstep

end PyConnect.Endpoints

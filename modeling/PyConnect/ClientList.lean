import Mathlib.Data.Finset.Basic
import Mathlib.Data.Finset.Lattice.Lemmas
import PyConnect.LinkedList
import PyConnect.ObjComm
import PyConnect.Runs

namespace PyConnect.ClientList

open Common ObjComm LinkedList Runs

inductive FDDomain
  | network
  | localIPC
  deriving DecidableEq

structure ClientFD where
  fd : Int
  domain : FDDomain
  localProcID : Int

/-- FD_SETSIZE: a set is an array of so many bits, and FD_SET does not look where
it writes. -/
def fdSetSize : Int := 1024

/-- `connections` and `listeners` are what the system has open, and `stray`
remembers that the code has used a node that is not allocated, has gone round for
ever or has written behind masterFDSet_. -/
structure System where
  heap : Heap ClientFD
  clientFDList : Option Nat
  masterFDSet : Finset Int
  udpSocket : Int
  tcpSocket : Int
  domainSocket : Int
  netCommEnabled : Bool
  IPCCommEnabled : Bool
  connections : Finset Int
  listeners : Finset Int
  stray : Bool

/-- As init leaves it, where the server has not enabled anything yet. -/
def init : System where
  heap := ∅
  clientFDList := none
  masterFDSet := ∅
  udpSocket := invalidSocket
  tcpSocket := invalidSocket
  domainSocket := invalidSocket
  netCommEnabled := false
  IPCCommEnabled := false
  connections := ∅
  listeners := ∅
  stray := false

/-- How the opening of a listener comes out, and the descriptor it was tried with. -/
structure Attempt where
  fd : Int
  ok : Bool

def Attempt.fds (o : Attempt) : Finset Int := if o.ok then {o.fd} else ∅

namespace System

def astray (S : System) : System := { S with stray := true }

def Unused (S : System) (fd : Int) : Prop := 0 ≤ fd ∧ fd ∉ S.connections ∧ fd ∉ S.listeners

instance (S : System) (fd : Int) : Decidable (S.Unused fd) :=
  inferInstanceAs (Decidable (_ ∧ _ ∧ _))

def fdSet (S : System) (fd : Int) : System :=
  { S with masterFDSet := insert fd S.masterFDSet, stray := S.stray || decide (fdSetSize ≤ fd) }

def close (S : System) (fds : Finset Int) : System :=
  { S with connections := S.connections \ fds, listeners := S.listeners \ fds }

end System

/-- FD_CLR and close, for the nodes that are deleted. -/
def clearFds (S : System) (vs : List ClientFD) : System :=
  let fds := (vs.map (·.fd)).toFinset
  { S.close fds with masterFDSet := S.masterFDSet \ fds }

def listenOn (S : System) (o : Attempt) : System :=
  if o.ok then { S.fdSet o.fd with listeners := insert o.fd S.listeners } else S

def initUDPListener (S : System) (o : Attempt) : System :=
  { listenOn S o with udpSocket := o.fd }

def initTCPListener (S : System) (o : Attempt) : System :=
  { listenOn S o with tcpSocket := o.fd }

/-- The second listener is tried when the first one has failed, too. -/
def enableNetComm (S : System) (udp tcp : Attempt) : System :=
  if S.netCommEnabled then S
  else { initTCPListener (initUDPListener S udp) tcp with netCommEnabled := udp.ok && tcp.ok }

def enableIPCComm (S : System) (o : Attempt) : System :=
  if S.IPCCommEnabled then S
  else { listenOn S o with domainSocket := o.fd, IPCCommEnabled := o.ok }

/-- `a` is where the node is allocated. -/
def addFdToClientList (S : System) (a : Nat) (v : ClientFD) : System :=
  let S := { S.fdSet v.fd with connections := insert v.fd S.connections }
  match append S.heap S.clientFDList a v with
  | none => S.astray
  | some (heap, clientFDList) => { S with heap := heap, clientFDList := clientFDList }

def findFdFromClientListByProcID (S : System) (procID : Int) : Option Int := do
  let (_, p) ← seek (fun v => v.domain == .localIPC && v.localProcID == procID) S.heap S.heap.size
    S.clientFDList S.clientFDList
  match p with
  | none => some invalidSocket
  | some a => (S.heap[a]?).map (·.val.fd)

/-- `fd` is a connection that has been made: one that cannot be made is added as
INVALID_SOCKET, and setLastUsedCommChannel aborts the process. -/
def findOrCreateIPCTalker (S : System) (procID : Int) (a : Nat) (fd : Int) : System :=
  match findFdFromClientListByProcID S procID with
  | none => S.astray
  | some mySocket =>
      if mySocket = invalidSocket then addFdToClientList S a ⟨fd, .localIPC, procID⟩ else S

/-- The heap and the list after nodes have been taken out, which have been freed. -/
def takeOut (S : System) (r : Option (Heap ClientFD × Option Nat × List ClientFD)) : System :=
  match r with
  | none => S.astray
  | some (heap, clientFDList, vs) =>
      { clearFds S vs with heap := heap, clientFDList := clientFDList }

/-- One pass over the clients; those in `closed` have been closed by the other end
or cannot be read. -/
def processIncomingData (S : System) (closed : Finset Int) : System :=
  takeOut S (sweep (fun v => decide (v.fd ∈ closed)) S.heap.size S.heap S.clientFDList S.clientFDList
    S.clientFDList)

def destroyCurrentClient (S : System) (fd : Int) : System :=
  if fd = invalidSocket then S
  else takeOut S (unlink (fun v => decide (v.fd = fd)) S.heap S.clientFDList)

/-- The nodes of a domain are deleted and its listeners closed. The list stays as
it is; the bits of the listeners are for pFDOwner_ to clear, if there is one. -/
def disable (S : System) (domain : FDDomain) (listeners : Finset Int) : System :=
  match dispose (fun v => decide (v.domain = domain)) S.heap.size S.heap S.clientFDList with
  | none => S.astray
  | some (heap, vs) => { clearFds S vs with heap := heap }.close listeners

def disableNetComm (S : System) : System :=
  if S.netCommEnabled then
    { disable S .network {S.udpSocket, S.tcpSocket} with netCommEnabled := false }
  else S

def disableIPCComm (S : System) : System :=
  if S.IPCCommEnabled then { disable S .localIPC {S.domainSocket} with IPCCommEnabled := false }
  else S

/-- What the program and its peers do. The addresses and descriptors are those the
allocator and the operating system give out. -/
inductive Event
  | enableNetComm (udp tcp : Attempt)
  | enableIPCComm (o : Attempt)
  | accept (domain : FDDomain) (a : Nat) (fd : Int)
  | createTCPTalker (a : Nat) (fd : Int)
  | findOrCreateIPCTalker (procID : Int) (a : Nat) (fd : Int)
  | processIncomingData (closed : Finset Int)
  | destroyCurrentClient (fd : Int)
  | disableNetComm
  | disableIPCComm

/-- Whether the listener of a domain is one that select reports. -/
def accepts (S : System) : FDDomain → Bool
  | .network => S.netCommEnabled && decide (S.tcpSocket ∈ S.masterFDSet)
  | .localIPC => S.IPCCommEnabled && decide (S.domainSocket ∈ S.masterFDSet)

/-- A step has no outcome where it cannot happen. -/
def step (S : System) : Event → Option System
  | .enableNetComm udp tcp =>
      if (udp.ok → S.Unused udp.fd) ∧ (tcp.ok → (initUDPListener S udp).Unused tcp.fd) then
        some (enableNetComm S udp tcp)
      else none
  | .enableIPCComm o => if o.ok → S.Unused o.fd then some (enableIPCComm S o) else none
  | .accept domain a fd =>
      if accepts S domain ∧ S.heap[a]? = none ∧ S.Unused fd then
        some (addFdToClientList S a ⟨fd, domain, 0⟩)
      else none
  | .createTCPTalker a fd =>
      if S.heap[a]? = none ∧ S.Unused fd then some (addFdToClientList S a ⟨fd, .network, 0⟩)
      else none
  | .findOrCreateIPCTalker procID a fd =>
      if S.IPCCommEnabled ∧ S.heap[a]? = none ∧ S.Unused fd then
        some (findOrCreateIPCTalker S procID a fd)
      else none
  | .processIncomingData closed =>
      if closed ⊆ S.masterFDSet then some (processIncomingData S closed) else none
  | .destroyCurrentClient fd => some (destroyCurrentClient S fd)
  | .disableNetComm => some (disableNetComm S)
  | .disableIPCComm => some (disableIPCComm S)

namespace System

def netListeners (S : System) : Finset Int := if S.netCommEnabled then {S.udpSocket, S.tcpSocket} else ∅

def ipcListeners (S : System) : Finset Int := if S.IPCCommEnabled then {S.domainSocket} else ∅

def enabledListeners (S : System) : Finset Int := S.netListeners ∪ S.ipcListeners

end System

/-- The list is one of the open connections, each once, and masterFDSet_ has these
and the listeners that are enabled. -/
structure Represented (S : System) : Prop where
  defined : S.stray = false
  list : ∃ xs, Segment S.heap S.clientFDList xs none ∧ (xs.map (·.2.fd)).Nodup ∧
    (xs.map (·.2.fd)).toFinset = S.connections
  masterFDSet : S.masterFDSet = S.connections ∪ S.enabledListeners

/-- The steps that do not go wrong: nothing that is enabled is disabled, the
listeners of the network are both opened or neither is, and a descriptor that is
set is one of a set. -/
def Clean (S : System) : Event → Prop
  | .enableNetComm udp tcp => S.netCommEnabled = false →
      udp.ok = tcp.ok ∧ (udp.ok → udp.fd < fdSetSize) ∧ (tcp.ok → tcp.fd < fdSetSize)
  | .enableIPCComm o => S.IPCCommEnabled = false → o.ok → o.fd < fdSetSize
  | .accept _ _ fd => fd < fdSetSize
  | .createTCPTalker _ fd => fd < fdSetSize
  | .findOrCreateIPCTalker procID _ fd =>
      findFdFromClientListByProcID S procID = some invalidSocket → fd < fdSetSize
  | .processIncomingData _ => True
  | .destroyCurrentClient _ => True
  | .disableNetComm => S.netCommEnabled = false
  | .disableIPCComm => S.IPCCommEnabled = false

structure Inv (S : System) : Prop extends Represented S where
  apart : Disjoint S.netListeners S.ipcListeners
  opened : S.enabledListeners ⊆ S.listeners
  disjoint : Disjoint S.connections S.listeners

variable {S S' : System} {e : Event} {a : Nat} {v : ClientFD} {xs : List (Nat × ClientFD)}
  {o udp tcp : Attempt}

theorem inv_init : Inv init where
  defined := rfl
  list := ⟨[], rfl, List.nodup_nil, rfl⟩
  masterFDSet := rfl
  apart := Finset.disjoint_empty_left _
  opened := Finset.Subset.refl _
  disjoint := Finset.disjoint_empty_left _

theorem not_represented {fd : Int} (hmem : fd ∈ S.masterFDSet) (hconn : fd ∉ S.connections)
    (hlisten : fd ∉ S.enabledListeners) : ¬ Represented S := by
  intro hr
  rw [hr.masterFDSet, Finset.mem_union] at hmem
  exact hmem.elim hconn hlisten

theorem inv_addFdToClientList (hinv : Inv S) (ha : S.heap[a]? = none) (hfd : S.Unused v.fd)
    (hsize : v.fd < fdSetSize) : Inv (addFdToClientList S a v) := by
  obtain ⟨xs, hs, hnodup, hfds⟩ := hinv.list
  obtain ⟨heap, head, happend, hs'⟩ := append_spec hs ha v
  have hnew : v.fd ∉ xs.map (·.2.fd) := by
    rw [← List.mem_toFinset, hfds]
    exact hfd.2.1
  rw [addFdToClientList]
  simp only [System.fdSet, happend]
  refine { defined := ?_, list := ⟨_, hs', ?_, ?_⟩, masterFDSet := ?_, apart := hinv.apart,
           opened := hinv.opened, disjoint := ?_ }
  · rw [hinv.defined, Bool.false_or, decide_eq_false_iff_not, not_le]
    exact hsize
  · rw [List.map_append, List.nodup_append]
    refine ⟨hnodup, List.nodup_singleton _, ?_⟩
    rintro fd hmem _ hsingle rfl
    obtain rfl : fd = v.fd := List.mem_singleton.mp hsingle
    exact hnew hmem
  · rw [List.map_append, List.toFinset_append, hfds, Finset.union_comm]
    exact (Finset.insert_eq _ _).symm
  · exact (congrArg _ hinv.masterFDSet).trans (Finset.insert_union _ _ _).symm
  · exact Finset.disjoint_insert_left.mpr ⟨hfd.2.2, hinv.disjoint⟩

theorem addFdToClientList_represented (hr : Represented (addFdToClientList S a v)) :
    v.fd < fdSetSize := by
  have hstray := hr.defined
  rw [addFdToClientList] at hstray
  cases happend : append S.heap S.clientFDList a v with
  | none =>
      simp only [System.fdSet, happend] at hstray
      cases hstray
  | some r =>
      simp only [System.fdSet, happend, Bool.or_eq_false_iff, decide_eq_false_iff_not, not_le] at hstray
      exact hstray.2

theorem inv_takeOut (hinv : Inv S) {r : Option (Heap ClientFD × Option Nat × List ClientFD)}
    (hr : ∀ xs, Segment S.heap S.clientFDList xs none → ∃ heap head ys vs, r = some (heap, head, vs) ∧
      Segment heap head ys none ∧ (xs.map (·.2)).Perm (ys.map (·.2) ++ vs)) : Inv (takeOut S r) := by
  obtain ⟨xs, hs, hnodup, hfds⟩ := hinv.list
  obtain ⟨heap, head, ys, vs, rfl, hs', hperm⟩ := hr xs hs
  have hfdPerm : (xs.map (·.2.fd)).Perm (ys.map (·.2.fd) ++ vs.map (·.fd)) := by
    have hmap := hperm.map (·.fd)
    rwa [List.map_append, List.map_map, List.map_map] at hmap
  obtain ⟨hys, -, hdisjoint⟩ := List.nodup_append.mp (hfdPerm.nodup hnodup)
  have hapart : Disjoint (ys.map (·.2.fd)).toFinset (vs.map (·.fd)).toFinset := by
    rw [Finset.disjoint_left]
    intro fd hfd hfd'
    exact hdisjoint fd (List.mem_toFinset.mp hfd) fd (List.mem_toFinset.mp hfd') rfl
  have hconn : S.connections = (ys.map (·.2.fd)).toFinset ∪ (vs.map (·.fd)).toFinset := by
    rw [← hfds, List.toFinset_eq_of_perm _ _ hfdPerm, List.toFinset_append]
  have hlisten : Disjoint S.listeners (vs.map (·.fd)).toFinset := by
    refine (Finset.disjoint_of_subset_left ?_ hinv.disjoint).symm
    rw [hconn]
    exact Finset.subset_union_right
  have henabled := Finset.disjoint_of_subset_left hinv.opened hlisten
  refine { defined := hinv.defined, list := ⟨ys, hs', hys, ?_⟩, masterFDSet := ?_,
           apart := hinv.apart, opened := ?_, disjoint := ?_ }
  · exact ((congrArg (· \ _) hconn).trans (Finset.union_sdiff_cancel_right hapart)).symm
  · calc S.masterFDSet \ (vs.map (·.fd)).toFinset
        = (S.connections ∪ S.enabledListeners) \ (vs.map (·.fd)).toFinset := by rw [hinv.masterFDSet]
      _ = S.connections \ (vs.map (·.fd)).toFinset ∪ S.enabledListeners := by
          rw [Finset.union_sdiff_distrib, Finset.sdiff_eq_self_of_disjoint henabled]
  · exact Finset.subset_sdiff.mpr ⟨hinv.opened, henabled⟩
  · exact Finset.disjoint_of_subset_left Finset.sdiff_subset
      (Finset.disjoint_of_subset_right Finset.sdiff_subset hinv.disjoint)

theorem inv_processIncomingData (hinv : Inv S) (closed : Finset Int) :
    Inv (processIncomingData S closed) :=
  inv_takeOut hinv fun _ hs => sweep_perm _ hs

theorem inv_destroyCurrentClient (hinv : Inv S) (fd : Int) : Inv (destroyCurrentClient S fd) := by
  rw [destroyCurrentClient]
  split
  · exact hinv
  · exact inv_takeOut hinv fun _ hs => unlink_perm _ hs

theorem findFdFromClientListByProcID_isSome (hr : Represented S) (procID : Int) :
    (findFdFromClientListByProcID S procID).isSome := by
  obtain ⟨xs, hs, -⟩ := hr.list
  rw [findFdFromClientListByProcID]
  rcases seek_spec (fun v => v.domain == .localIPC && v.localProcID == procID) hs
    (.inl rfl : Behind S.clientFDList []) hs.length_le with
    ⟨prev, hseek, -⟩ | ⟨ks, a, v, zs, prev, rfl, -, -, hseek, -⟩
  · simp only [hseek, Option.bind_eq_bind, Option.bind_some, Option.isSome_some]
  · have ha := hs.allocated (a, v) (List.mem_append_right _ List.mem_cons_self)
    simpa only [hseek, Option.bind_eq_bind, Option.bind_some, Option.isSome_map] using ha

theorem inv_findOrCreateIPCTalker (hinv : Inv S) {procID fd : Int} (ha : S.heap[a]? = none)
    (hfd : S.Unused fd)
    (hsize : findFdFromClientListByProcID S procID = some invalidSocket → fd < fdSetSize) :
    Inv (findOrCreateIPCTalker S procID a fd) := by
  obtain ⟨mySocket, hfound⟩ :=
    Option.isSome_iff_exists.mp (findFdFromClientListByProcID_isSome hinv.toRepresented procID)
  rw [findOrCreateIPCTalker, hfound]
  dsimp only
  split
  case isTrue hnone =>
    subst hnone
    exact inv_addFdToClientList hinv ha hfd (hsize hfound)
  case isFalse => exact hinv

theorem findOrCreateIPCTalker_represented {procID fd : Int}
    (hr : Represented (findOrCreateIPCTalker S procID a fd))
    (hnone : findFdFromClientListByProcID S procID = some invalidSocket) : fd < fdSetSize := by
  rw [findOrCreateIPCTalker, hnone] at hr
  dsimp only at hr
  rw [if_pos rfl] at hr
  exact addFdToClientList_represented hr

theorem listenOn_eq (S : System) (o : Attempt) : listenOn S o = { S with
    masterFDSet := o.fds ∪ S.masterFDSet
    listeners := o.fds ∪ S.listeners
    stray := S.stray || (o.ok && decide (fdSetSize ≤ o.fd)) } := by
  rw [listenOn, Attempt.fds]
  cases o.ok with
  | true => rfl
  | false => simp

theorem fits_iff : (o.ok && decide (fdSetSize ≤ o.fd)) = false ↔ (o.ok → o.fd < fdSetSize) := by
  cases o.ok <;> simp

theorem Attempt.disjoint_fds (h : o.ok → S.Unused o.fd) :
    Disjoint S.connections o.fds ∧ Disjoint S.listeners o.fds := by
  rw [Attempt.fds]
  split
  case isTrue hok =>
    obtain ⟨-, hconn, hlisten⟩ := h hok
    exact ⟨Finset.disjoint_singleton_right.mpr hconn, Finset.disjoint_singleton_right.mpr hlisten⟩
  case isFalse => exact ⟨Finset.disjoint_empty_right _, Finset.disjoint_empty_right _⟩

theorem inv_listen (fds : Finset Int) (hinv : Inv S) (hheap : S'.heap = S.heap)
    (hlist : S'.clientFDList = S.clientFDList) (hconn : S'.connections = S.connections)
    (hmaster : S'.masterFDSet = fds ∪ S.masterFDSet) (hlisten : S'.listeners = fds ∪ S.listeners)
    (henabled : S'.enabledListeners = fds ∪ S.enabledListeners) (hstray : S'.stray = false)
    (hapart : Disjoint S'.netListeners S'.ipcListeners) (hfds : Disjoint S.connections fds) :
    Inv S' := by
  refine { defined := hstray, list := ?_, masterFDSet := ?_, apart := hapart, opened := ?_,
           disjoint := ?_ }
  · rw [hheap, hlist, hconn]
    exact hinv.list
  · rw [hmaster, hconn, henabled, hinv.masterFDSet, Finset.union_left_comm]
  · rw [henabled, hlisten]
    exact Finset.union_subset_union_right hinv.opened
  · rw [hconn, hlisten]
    exact Finset.disjoint_union_right.mpr ⟨hfds, hinv.disjoint⟩

theorem enableNetComm_eq (hoff : S.netCommEnabled = false) (udp tcp : Attempt) :
    enableNetComm S udp tcp = { S with
      masterFDSet := tcp.fds ∪ (udp.fds ∪ S.masterFDSet)
      listeners := tcp.fds ∪ (udp.fds ∪ S.listeners)
      stray := S.stray || (udp.ok && decide (fdSetSize ≤ udp.fd)) ||
        (tcp.ok && decide (fdSetSize ≤ tcp.fd))
      udpSocket := udp.fd
      tcpSocket := tcp.fd
      netCommEnabled := udp.ok && tcp.ok } := by
  rw [enableNetComm, hoff, if_neg Bool.false_ne_true, initTCPListener, initUDPListener, listenOn_eq,
    listenOn_eq]

theorem unused_tcp (h : (initUDPListener S udp).Unused tcp.fd) : S.Unused tcp.fd := by
  obtain ⟨hnonneg, hconn, hlisten⟩ := h
  rw [initUDPListener, listenOn_eq] at hconn hlisten
  exact ⟨hnonneg, hconn, fun h => hlisten (Finset.mem_union_right _ h)⟩

theorem inv_enableNetComm (hinv : Inv S) (hoff : S.netCommEnabled = false)
    (hudp : udp.ok → S.Unused udp.fd) (htcp : tcp.ok → S.Unused tcp.fd) (hok : udp.ok = tcp.ok)
    (hudpSize : udp.ok → udp.fd < fdSetSize) (htcpSize : tcp.ok → tcp.fd < fdSetSize) :
    Inv (enableNetComm S udp tcp) := by
  obtain ⟨hudpConn, hudpListen⟩ := Attempt.disjoint_fds hudp
  obtain ⟨htcpConn, htcpListen⟩ := Attempt.disjoint_fds htcp
  have hnet : (enableNetComm S udp tcp).netListeners = tcp.fds ∪ udp.fds := by
    rw [enableNetComm_eq hoff, System.netListeners, Attempt.fds, Attempt.fds, hok]
    cases tcp.ok with
    | true => exact Finset.pair_comm _ _
    | false => rfl
  have hipc : (enableNetComm S udp tcp).ipcListeners = S.ipcListeners := by
    rw [enableNetComm_eq hoff]
    rfl
  have hnone : S.enabledListeners = S.ipcListeners := by
    rw [System.enabledListeners, System.netListeners, hoff, if_neg Bool.false_ne_true,
      Finset.empty_union]
  have hipcListen : S.ipcListeners ⊆ S.listeners := hnone ▸ hinv.opened
  have hapart : Disjoint S.ipcListeners (tcp.fds ∪ udp.fds) :=
    Finset.disjoint_of_subset_left hipcListen (Finset.disjoint_union_right.mpr ⟨htcpListen, hudpListen⟩)
  refine inv_listen (tcp.fds ∪ udp.fds) hinv ?_ ?_ ?_ ?_ ?_ ?_ ?_ ?_
    (Finset.disjoint_union_right.mpr ⟨htcpConn, hudpConn⟩)
  · rw [enableNetComm_eq hoff]
  · rw [enableNetComm_eq hoff]
  · rw [enableNetComm_eq hoff]
  · rw [enableNetComm_eq hoff, Finset.union_assoc]
  · rw [enableNetComm_eq hoff, Finset.union_assoc]
  · rw [System.enabledListeners, hnet, hipc, hnone]
  · rw [enableNetComm_eq hoff]
    dsimp only
    rw [hinv.defined, fits_iff.mpr hudpSize, fits_iff.mpr htcpSize]
    rfl
  · rw [hnet, hipc]
    exact hapart.symm

theorem enableNetComm_represented (hinv : Inv S) (hoff : S.netCommEnabled = false)
    (hudp : udp.ok → S.Unused udp.fd) (htcp : tcp.ok → S.Unused tcp.fd)
    (hr : Represented (enableNetComm S udp tcp)) :
    udp.ok = tcp.ok ∧ (udp.ok → udp.fd < fdSetSize) ∧ (tcp.ok → tcp.fd < fdSetSize) := by
  have hstray := hr.defined
  rw [enableNetComm_eq hoff] at hstray hr
  simp only [Bool.or_eq_false_iff] at hstray
  refine ⟨?_, fits_iff.mp hstray.1.2, fits_iff.mp hstray.2⟩
  -- a listener that is open alone is not enabled
  have hipcListen : S.ipcListeners ⊆ S.listeners :=
    Finset.Subset.trans Finset.subset_union_right hinv.opened
  by_contra hne
  have hbad : ∃ fd, fd ∈ tcp.fds ∪ (udp.fds ∪ S.masterFDSet) ∧ S.Unused fd := by
    cases hu : udp.ok <;> cases ht : tcp.ok
    · exact absurd (hu.trans ht.symm) hne
    · exact ⟨tcp.fd, Finset.mem_union_left _ (by simp [Attempt.fds, ht]), htcp ht⟩
    · exact ⟨udp.fd, Finset.mem_union_right _ (Finset.mem_union_left _ (by simp [Attempt.fds, hu])),
        hudp hu⟩
    · exact absurd (hu.trans ht.symm) hne
  have hoff' : (udp.ok && tcp.ok) = false := by
    cases hu : udp.ok <;> cases ht : tcp.ok
    · rfl
    · rfl
    · rfl
    · exact absurd (hu.trans ht.symm) hne
  obtain ⟨fd, hmem, -, hconn, hlisten⟩ := hbad
  refine absurd hr (not_represented hmem hconn ?_)
  rw [System.enabledListeners, System.netListeners]
  dsimp only
  rw [hoff', if_neg Bool.false_ne_true, Finset.empty_union]
  exact fun h => hlisten (hipcListen h)

theorem enableIPCComm_eq (hoff : S.IPCCommEnabled = false) (o : Attempt) :
    enableIPCComm S o = { S with
      masterFDSet := o.fds ∪ S.masterFDSet
      listeners := o.fds ∪ S.listeners
      stray := S.stray || (o.ok && decide (fdSetSize ≤ o.fd))
      domainSocket := o.fd
      IPCCommEnabled := o.ok } := by
  rw [enableIPCComm, hoff, if_neg Bool.false_ne_true, listenOn_eq]

theorem inv_enableIPCComm (hinv : Inv S) (hoff : S.IPCCommEnabled = false)
    (ho : o.ok → S.Unused o.fd) (hsize : o.ok → o.fd < fdSetSize) : Inv (enableIPCComm S o) := by
  obtain ⟨hconn, hlisten⟩ := Attempt.disjoint_fds ho
  have hipc : (enableIPCComm S o).ipcListeners = o.fds := by
    rw [enableIPCComm_eq hoff]
    rfl
  have hnet : (enableIPCComm S o).netListeners = S.netListeners := by
    rw [enableIPCComm_eq hoff]
    rfl
  have hnone : S.enabledListeners = S.netListeners := by
    rw [System.enabledListeners, System.ipcListeners, hoff, if_neg Bool.false_ne_true,
      Finset.union_empty]
  have hnetListen : S.netListeners ⊆ S.listeners := hnone ▸ hinv.opened
  refine inv_listen o.fds hinv ?_ ?_ ?_ ?_ ?_ ?_ ?_ ?_ hconn
  · rw [enableIPCComm_eq hoff]
  · rw [enableIPCComm_eq hoff]
  · rw [enableIPCComm_eq hoff]
  · rw [enableIPCComm_eq hoff]
  · rw [enableIPCComm_eq hoff]
  · rw [System.enabledListeners, hnet, hipc, hnone, Finset.union_comm]
  · rw [enableIPCComm_eq hoff]
    dsimp only
    rw [hinv.defined, fits_iff.mpr hsize]
    rfl
  · rw [hnet, hipc]
    exact Finset.disjoint_of_subset_left hnetListen hlisten

theorem enableIPCComm_represented (hoff : S.IPCCommEnabled = false)
    (hr : Represented (enableIPCComm S o)) : o.ok → o.fd < fdSetSize := by
  have hstray := hr.defined
  rw [enableIPCComm_eq hoff] at hstray
  simp only [Bool.or_eq_false_iff] at hstray
  exact fits_iff.mp hstray.2

theorem disable_eq (hs : Segment S.heap S.clientFDList xs none) (domain : FDDomain)
    (listeners : Finset Int) :
    ∃ heap,
      disable S domain listeners = System.close { clearFds S ((xs.filter fun x =>
        decide (x.2.domain = domain)).map (·.2)) with heap := heap } listeners ∧
      ((∃ x ∈ xs, x.2.domain = domain) → ¬ ∃ ys, Segment heap S.clientFDList ys none) := by
  obtain ⟨heap, hdispose, hfreed, -⟩ :=
    dispose_spec (fun v => decide (v.domain = domain)) hs hs.length_le
  refine ⟨heap, by rw [disable, hdispose], ?_⟩
  rintro ⟨x, hx, hdomain⟩
  exact hs.dangling (fun v => decide (v.domain = domain)) hfreed ⟨x, hx, decide_eq_true hdomain⟩

theorem disable_listener (hinv : Inv S) (domain : FDDomain) (listeners : Finset Int) {fd : Int}
    (hfd : fd ∈ S.enabledListeners) : fd ∈ (disable S domain listeners).masterFDSet ∧
      fd ∉ (disable S domain listeners).connections := by
  obtain ⟨xs, hs, -, hfds⟩ := hinv.list
  obtain ⟨heap, hdisable, -⟩ := disable_eq hs domain listeners
  have hconn : fd ∉ S.connections := fun h =>
    Finset.disjoint_left.mp hinv.disjoint h (hinv.opened hfd)
  rw [hdisable]
  refine ⟨Finset.mem_sdiff.mpr ⟨?_, fun hmem => hconn ?_⟩, fun hmem => hconn ?_⟩
  · rw [hinv.masterFDSet]
    exact Finset.mem_union_right _ hfd
  · rw [← hfds, List.mem_toFinset]
    rw [List.mem_toFinset, List.map_map] at hmem
    exact List.map_subset _ (List.filter_subset_self _) hmem
  · exact Finset.sdiff_subset (Finset.sdiff_subset hmem)

theorem disable_netListeners (S : System) (domain : FDDomain) (listeners : Finset Int) :
    (disable S domain listeners).netListeners = S.netListeners := by
  rw [disable]
  split <;> rfl

theorem disable_ipcListeners (S : System) (domain : FDDomain) (listeners : Finset Int) :
    (disable S domain listeners).ipcListeners = S.ipcListeners := by
  rw [disable]
  split <;> rfl

theorem disableNetComm_not_represented (hinv : Inv S) (hon : S.netCommEnabled = true) :
    ¬ Represented (disableNetComm S) := by
  have hnet : S.udpSocket ∈ S.netListeners := by
    rw [System.netListeners, hon, if_pos rfl]
    exact Finset.mem_insert_self _ _
  obtain ⟨hmem, hconn⟩ := disable_listener hinv .network {S.udpSocket, S.tcpSocket}
    (Finset.mem_union_left _ hnet : S.udpSocket ∈ S.enabledListeners)
  rw [disableNetComm, hon, if_pos rfl]
  refine not_represented hmem hconn ?_
  have hipc := disable_ipcListeners S .network {S.udpSocket, S.tcpSocket}
  rw [System.enabledListeners, Finset.mem_union, not_or]
  refine ⟨Finset.notMem_empty _, fun h => ?_⟩
  exact Finset.disjoint_left.mp hinv.apart hnet (hipc ▸ h)

theorem disableIPCComm_not_represented (hinv : Inv S) (hon : S.IPCCommEnabled = true) :
    ¬ Represented (disableIPCComm S) := by
  have hipc : S.domainSocket ∈ S.ipcListeners := by
    rw [System.ipcListeners, hon, if_pos rfl]
    exact Finset.mem_singleton_self _
  obtain ⟨hmem, hconn⟩ := disable_listener hinv .localIPC {S.domainSocket}
    (Finset.mem_union_right _ hipc : S.domainSocket ∈ S.enabledListeners)
  rw [disableIPCComm, hon, if_pos rfl]
  refine not_represented hmem hconn ?_
  have hnet := disable_netListeners S .localIPC {S.domainSocket}
  rw [System.enabledListeners, Finset.mem_union, not_or]
  refine ⟨fun h => ?_, Finset.notMem_empty _⟩
  exact Finset.disjoint_left.mp hinv.apart (hnet ▸ h) hipc

/-- Where a domain with clients is disabled, the list leads to a node that is not
there any more. -/
theorem disableNetComm_dangling (hs : Segment S.heap S.clientFDList xs none)
    (hon : S.netCommEnabled = true) (hx : ∃ x ∈ xs, x.2.domain = .network) :
    ¬ ∃ ys, Segment (disableNetComm S).heap (disableNetComm S).clientFDList ys none := by
  obtain ⟨heap, hdisable, hdangling⟩ := disable_eq hs .network {S.udpSocket, S.tcpSocket}
  rw [disableNetComm, hon, if_pos rfl, hdisable]
  exact hdangling hx

theorem disableIPCComm_dangling (hs : Segment S.heap S.clientFDList xs none)
    (hon : S.IPCCommEnabled = true) (hx : ∃ x ∈ xs, x.2.domain = .localIPC) :
    ¬ ∃ ys, Segment (disableIPCComm S).heap (disableIPCComm S).clientFDList ys none := by
  obtain ⟨heap, hdisable, hdangling⟩ := disable_eq hs .localIPC {S.domainSocket}
  rw [disableIPCComm, hon, if_pos rfl, hdisable]
  exact hdangling hx

theorem enableNetComm_on (hon : S.netCommEnabled = true) (udp tcp : Attempt) :
    enableNetComm S udp tcp = S := by
  rw [enableNetComm, hon, if_pos rfl]

theorem enableIPCComm_on (hon : S.IPCCommEnabled = true) (o : Attempt) : enableIPCComm S o = S := by
  rw [enableIPCComm, hon, if_pos rfl]

theorem disableNetComm_off (hoff : S.netCommEnabled = false) : disableNetComm S = S := by
  rw [disableNetComm, hoff, if_neg Bool.false_ne_true]

theorem disableIPCComm_off (hoff : S.IPCCommEnabled = false) : disableIPCComm S = S := by
  rw [disableIPCComm, hoff, if_neg Bool.false_ne_true]

/-- A clean step keeps the representation; no other one has one behind it. -/
theorem step_represented (hinv : Inv S) (h : step S e = some S') :
    (Represented S' ↔ Clean S e) ∧ (Clean S e → Inv S') := by
  suffices hsteps : (Clean S e → Inv S') ∧ (Represented S' → Clean S e) from
    ⟨⟨hsteps.2, fun hclean => (hsteps.1 hclean).toRepresented⟩, hsteps.1⟩
  cases e with
  | enableNetComm udp tcp =>
      rw [step, Option.ite_none_right_eq_some] at h
      obtain ⟨⟨hudp, htcp⟩, h⟩ := h
      obtain rfl := Option.some.inj h
      have htcp' : tcp.ok → S.Unused tcp.fd := fun hok => unused_tcp (htcp hok)
      cases hoff : S.netCommEnabled with
      | true =>
          rw [enableNetComm_on hoff]
          exact ⟨fun _ => hinv, fun _ hon => Bool.noConfusion (hoff.symm.trans hon)⟩
      | false =>
          constructor
          · intro hclean
            obtain ⟨hok, hudpSize, htcpSize⟩ := hclean hoff
            exact inv_enableNetComm hinv hoff hudp htcp' hok hudpSize htcpSize
          · exact fun hr _ => enableNetComm_represented hinv hoff hudp htcp' hr
  | enableIPCComm o =>
      rw [step, Option.ite_none_right_eq_some] at h
      obtain ⟨ho, h⟩ := h
      obtain rfl := Option.some.inj h
      cases hoff : S.IPCCommEnabled with
      | true =>
          rw [enableIPCComm_on hoff]
          exact ⟨fun _ => hinv, fun _ hon => Bool.noConfusion (hoff.symm.trans hon)⟩
      | false =>
          exact ⟨fun hclean => inv_enableIPCComm hinv hoff ho (hclean hoff),
            fun hr _ => enableIPCComm_represented hoff hr⟩
  | accept domain a fd =>
      rw [step, Option.ite_none_right_eq_some] at h
      obtain ⟨⟨-, ha, hfd⟩, h⟩ := h
      obtain rfl := Option.some.inj h
      exact ⟨fun hclean => inv_addFdToClientList hinv ha hfd hclean, addFdToClientList_represented⟩
  | createTCPTalker a fd =>
      rw [step, Option.ite_none_right_eq_some] at h
      obtain ⟨⟨ha, hfd⟩, h⟩ := h
      obtain rfl := Option.some.inj h
      exact ⟨fun hclean => inv_addFdToClientList hinv ha hfd hclean, addFdToClientList_represented⟩
  | findOrCreateIPCTalker procID a fd =>
      rw [step, Option.ite_none_right_eq_some] at h
      obtain ⟨⟨-, ha, hfd⟩, h⟩ := h
      obtain rfl := Option.some.inj h
      exact ⟨fun hclean => inv_findOrCreateIPCTalker hinv ha hfd hclean,
        findOrCreateIPCTalker_represented⟩
  | processIncomingData closed =>
      rw [step, Option.ite_none_right_eq_some] at h
      obtain rfl := Option.some.inj h.2
      exact ⟨fun _ => inv_processIncomingData hinv closed, fun _ => trivial⟩
  | destroyCurrentClient fd =>
      obtain rfl := Option.some.inj h
      exact ⟨fun _ => inv_destroyCurrentClient hinv fd, fun _ => trivial⟩
  | disableNetComm =>
      obtain rfl := Option.some.inj h
      constructor
      · intro (hoff : S.netCommEnabled = false)
        rwa [disableNetComm_off hoff]
      · exact fun hr => Bool.eq_false_iff.mpr fun hon => disableNetComm_not_represented hinv hon hr
  | disableIPCComm =>
      obtain rfl := Option.some.inj h
      constructor
      · intro (hoff : S.IPCCommEnabled = false)
        rwa [disableIPCComm_off hoff]
      · exact fun hr => Bool.eq_false_iff.mpr fun hon => disableIPCComm_not_represented hinv hon hr

/-- The list and masterFDSet_ are as they should be after every step of a run just
when all its steps are clean. -/
theorem represented_iff (es : List Event) :
    Always step (fun _ _ S' => Represented S') es init ↔ Always step (fun S e _ => Clean S e) es init :=
  always_iff_of_keeps (R := fun _ _ S' => Represented S') (Q := fun S e _ => Clean S e)
    (fun _ _ _ hinv h => step_represented hinv h) es inv_init

example : (run step [.enableNetComm ⟨3, true⟩ ⟨4, true⟩, .accept .network 0 5, .createTCPTalker 1 6,
    .processIncomingData {5}] init).map (·.masterFDSet) = some {3, 4, 6} := by decide +kernel

/-- A client has connected when the network is disabled. Its node is gone, and the
list begins with it; and select looks at the two listeners, which are closed. -/
theorem not_represented_disabled :
    ∃ S, run step [.enableNetComm ⟨3, true⟩ ⟨4, true⟩, .accept .network 0 5, .disableNetComm] init =
        some S ∧
      (¬ ∃ xs, Segment S.heap S.clientFDList xs none) ∧ ¬ Represented S := by
  refine ⟨_, rfl, ?_, fun hr => ?_⟩
  · rintro ⟨xs, hs⟩
    cases xs with
    | nil => cases hs
    | cons x xs =>
        obtain ⟨a, v⟩ := x
        obtain ⟨ha, next, hcell, -⟩ := hs
        obtain rfl := Option.some.inj ha
        cases hcell
  · have hset := hr.masterFDSet
    revert hset
    decide +kernel

end PyConnect.ClientList

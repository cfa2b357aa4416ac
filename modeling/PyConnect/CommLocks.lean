import Mathlib.Algebra.BigOperators.Ring.List
import Mathlib.Order.Preorder.Finite
import PyConnect.GilBalance
import PyConnect.LockOrder

namespace PyConnect.CommLocks

open Relation Common Values StubInput Brackets GilBalance LockOrder
open Stub hiding locked
open scoped Computability

/-- The locks of a server with threads: Python's, g_mutex, and the two of the
ciphers. -/
inductive Lock
  | gil
  | gMutex
  | tMutex1
  | tMutex2
  deriving DecidableEq, Repr

def Lock.rank : Lock → Nat
  | gil => 0
  | gMutex => 1
  | tMutex1 => 2
  | tMutex2 => 3

theorem Lock.rank_injective : Function.Injective Lock.rank := by
  intro l l' h
  cases l <;> cases l' <;> first | rfl | cases h

instance : LinearOrder Lock := LinearOrder.lift' Lock.rank Lock.rank_injective

instance : Finite Lock := by
  refine Finite.of_injective (fun l => (⟨l.rank, ?_⟩ : Fin 4)) fun l l' h => ?_
  · cases l <;> decide
  · exact Lock.rank_injective (congrArg Fin.val h)

theorem gil_le (l : Lock) : Lock.gil ≤ l := Nat.zero_le l.rank

/-- What a function can do with the locks, one list for each way through it. -/
abbrev Trace := Language (Action Lock)

def decryptMessage : Trace := locked .tMutex1 1

def encryptMessage : Trace := locked .tMutex2 1

def addFdToClientList : Trace := locked .gMutex 1

def createTCPTalker : Trace := 1 + addFdToClientList

def findOrCreateIPCTalker : Trace := 1 + addFdToClientList

def destroyCurrentClient : Trace := locked .gMutex 1

def netBroadcastSend : Trace := 1 + encryptMessage * (1 + locked .gMutex 1)

/-- The lock is held while the talkers are found or made. -/
def localBroadcastSend : Trace := 1 + encryptMessage * (1 + locked .gMutex findOrCreateIPCTalker∗)

def clientDataSend : Trace := 1 + encryptMessage * (1 + locked .gMutex 1)

def dataPacketSender : Trace := (1 + netBroadcastSend) * (1 + localBroadcastSend) + clientDataSend

def dispatchMessage : Trace := dataPacketSender∗

def connect : Trace := createTCPTalker∗ * (1 + dispatchMessage)

/-- PyConnect.disconnect; `callback` is what onModuleDestroyed does. -/
def shutdownModuleByRef (callback : Trace) : Trace := 1 + dispatchMessage * locked .gil callback

/-- The interpreter runs a script: it calls the module's functions, it calls
methods and sets attributes of the proxies, and from time to time it lets other
threads have their turn. Calls of PyConnect.disconnect run callbacks, `n` deep
at most. -/
def script : Nat → Trace
  | 0 => (dispatchMessage + connect + just (.yield .gil))∗
  | n + 1 => (dispatchMessage + connect + shutdownModuleByRef (script n) + just (.yield .gil))∗

/-- There is no telling what follows where the language leaves it undefined, and
nothing does where the process ends. -/
def locksOf (callback : Trace) : Effect → Trace
  | .gilEnsure => just (.acquire .gil)
  | .gilRelease => just (.release .gil)
  | .dispatch _ _ => dispatchMessage
  | .invokeCallback _ _ _ => callback
  | .stray => 0
  | .crash => 0

/-- The messages that the server is made for, whatever it knows. -/
def processMessage (callback : Trace) : Trace :=
  {as | ∃ x : Host × PyConnectStub × List UInt8 × SockAddr, as ∈ ({as | ¬ Stranded x.2.1 x.2.2.1 ∧
    as ∈ ((StubInput.processMessage x.1 x.2.1 x.2.2.1 x.2.2.2).effects.map (locksOf callback)).prod} :
      Trace)}

def processInput (callback : Trace) : Trace := (1 + decryptMessage) * (1 + processMessage callback)

def objCommChannelShutdown (callback : Trace) (notifyMesgProc : Bool) : Trace :=
  if notifyMesgProc then 1 + processInput callback else 1

def processUDPInput (callback : Trace) : Trace :=
  decryptMessage * (1 + processInput callback + createTCPTalker * (1 + processInput callback *
    (1 + objCommChannelShutdown callback false * destroyCurrentClient)))

/-- One client's turn in processIncomingData. -/
def readClient (callback : Trace) : Trace :=
  1 + objCommChannelShutdown callback true * destroyCurrentClient +
    locked .gMutex 1 * (processInput callback)∗

def processIncomingData (callback : Trace) : Trace :=
  (1 + processUDPInput callback) * (1 + addFdToClientList) * (1 + addFdToClientList) *
    (readClient callback)∗

def disableNetComm (callback : Trace) (onExit : Bool) : Trace :=
  1 + locked .gMutex (objCommChannelShutdown callback (!onExit))∗

def disableIPCComm (callback : Trace) (onExit : Bool) : Trace :=
  1 + locked .gMutex (objCommChannelShutdown callback (!onExit))∗

def fini (callback : Trace) : Trace := disableNetComm callback true * disableIPCComm callback true

/-- A round of ioprocess_thread, a script on a thread of the interpreter, and
finiPyConnect. -/
inductive Role
  | ioprocess
  | interpreter
  | exit

def operations : Role → Trace
  | .ioprocess => {as | ∃ n, as ∈ processIncomingData (script n)}
  | .interpreter => {as | ∃ n, as ∈ locked .gil (script n)}
  | .exit => {as | ∃ n, as ∈ fini (script n)}

variable {A : Set Lock} {K callback : Trace} {es : List Effect} {held : Multiset Lock}

theorem safe_locked {l : Lock} (hK : Safe A K) (hl : ∀ a ∈ A, l ≤ a) : Safe Set.univ (locked l K) :=
  (hK.locked hl).mono (Set.subset_univ _)

theorem safe_leaf (l : Lock) : Safe {l} (locked l 1) := by
  have h := (Safe.one : Safe ∅ (1 : Trace)).locked (l := l) fun a ha => absurd ha (Set.notMem_empty a)
  rwa [insert_empty_eq] at h

theorem safe_own (l : Lock) : Safe Set.univ (locked l 1) := (safe_leaf l).mono (Set.subset_univ _)

theorem safe_findOrCreateIPCTalker : Safe {.gMutex} findOrCreateIPCTalker :=
  Safe.one.add (safe_leaf .gMutex)

theorem safe_localBroadcastSend : Safe Set.univ localBroadcastSend := by
  have htalkers : Safe Set.univ (locked .gMutex findOrCreateIPCTalker∗) :=
    safe_locked safe_findOrCreateIPCTalker.kstar fun a ha => le_of_eq (Set.mem_singleton_iff.mp ha).symm
  exact Safe.one.add ((safe_own .tMutex2).mul (Safe.one.add htalkers))

theorem safe_dispatchMessage : Safe Set.univ dispatchMessage := by
  have hsend : Safe Set.univ netBroadcastSend :=
    Safe.one.add ((safe_own .tMutex2).mul (Safe.one.add (safe_own .gMutex)))
  exact (((Safe.one.add hsend).mul (Safe.one.add safe_localBroadcastSend)).add hsend).kstar

theorem safe_connect : Safe Set.univ connect :=
  (Safe.one.add (safe_own .gMutex)).kstar.mul (Safe.one.add safe_dispatchMessage)

theorem safe_shutdownModuleByRef (h : Safe Set.univ callback) :
    Safe Set.univ (shutdownModuleByRef callback) :=
  Safe.one.add (safe_dispatchMessage.mul (safe_locked h fun a _ => gil_le a))

theorem safe_script (n : Nat) : Safe Set.univ (script n) := by
  have hyield : Safe Set.univ (just (.yield Lock.gil)) := (Safe.yield Lock.gil).mono (Set.subset_univ _)
  induction n with
  | zero => exact ((safe_dispatchMessage.add safe_connect).add hyield).kstar
  | succ n ih =>
      exact (((safe_dispatchMessage.add safe_connect).add (safe_shutdownModuleByRef ih)).add hyield).kstar

theorem le_gil_add {n : Nat} (hheld : ∀ x ∈ held, x ≤ Lock.gil) {x : Lock}
    (hx : x ∈ Multiset.replicate n Lock.gil + held) : x ≤ Lock.gil := by
  rcases Multiset.mem_add.mp hx with hx | hx
  · exact le_of_eq (Multiset.eq_of_mem_replicate hx)
  · exact hheld x hx

/-- The thread holds Python's lock as often as there are brackets open. -/
theorem keeps_effects (h : Safe Set.univ callback) (hheld : ∀ x ∈ held, x ≤ Lock.gil) {n k : Nat}
    (hopened : opened gilState es n = some k) {as : List (Action Lock)}
    (has : as ∈ (es.map (locksOf callback)).prod) :
    Keeps (Multiset.replicate n Lock.gil + held) as (Multiset.replicate k Lock.gil + held) := by
  induction es generalizing n as with
  | nil =>
      obtain rfl := Option.some.inj hopened
      rw [(Language.mem_one as).mp has]
      rfl
  | cons e es ih =>
      rw [List.map_cons, List.prod_cons] at has
      obtain ⟨xs, hxs, ys, hys, rfl⟩ := Language.mem_mul.mp has
      have hbelow : ∀ l ∈ Set.univ, ∀ x ∈ Multiset.replicate n Lock.gil + held, x ≤ l :=
        fun l _ x hx => (le_gil_add hheld hx).trans (gil_le l)
      cases e with
      | gilEnsure =>
          obtain rfl : xs = [.acquire .gil] := hxs
          refine ⟨fun x hx => le_gil_add hheld hx, ?_⟩
          have hrest := ih hopened hys
          rw [Multiset.replicate_succ, Multiset.cons_add] at hrest
          exact hrest
      | gilRelease =>
          obtain rfl : xs = [.release .gil] := hxs
          rw [opened] at hopened
          dsimp only [gilState] at hopened
          split at hopened
          · cases hopened
          next hn =>
            obtain ⟨n, rfl⟩ := Nat.exists_eq_succ_of_ne_zero hn
            have hrest := ih hopened hys
            rw [Nat.succ_eq_add_one, Multiset.replicate_succ, Multiset.cons_add]
            refine ⟨Multiset.mem_cons_self _ _, ?_⟩
            rw [Multiset.erase_cons_head]
            exact hrest
      | dispatch data broadcast => exact (safe_dispatchMessage _ hbelow xs hxs).append (ih hopened hys)
      | invokeCallback scope fnName arg => exact (h _ hbelow xs hxs).append (ih hopened hys)
      | stray => cases hxs
      | crash => cases hxs

theorem alive_of_mem {as : List (Action Lock)} (has : as ∈ (es.map (locksOf callback)).prod) :
    alive es = true := by
  have hnone : ∀ e, locksOf callback e = 0 → e ∉ es := fun e he hmem => by
    rw [List.prod_eq_zero (he ▸ List.mem_map_of_mem hmem)] at has
    cases has
  exact decide_eq_true ⟨hnone .crash rfl, hnone .stray rfl⟩

theorem safe_processMessage (h : Safe Set.univ callback) : Safe Set.univ (processMessage callback) := by
  refine Safe.iUnion fun x => ?_
  rintro held hheld as ⟨hstranded, has⟩
  have hmatched := (matched_processMessage x.1 x.2.1 x.2.2.1 x.2.2.2).mpr ⟨hstranded, alive_of_mem has⟩
  have hkeeps := keeps_effects h (hheld .gil (Set.mem_univ _)) hmatched has
  rw [Multiset.replicate_zero, Multiset.zero_add] at hkeeps
  exact hkeeps

theorem safe_processInput (h : Safe Set.univ callback) : Safe Set.univ (processInput callback) :=
  (Safe.one.add (safe_own .tMutex1)).mul (Safe.one.add (safe_processMessage h))

theorem safe_objCommChannelShutdown (h : Safe Set.univ callback) (notifyMesgProc : Bool) :
    Safe Set.univ (objCommChannelShutdown callback notifyMesgProc) := by
  rw [objCommChannelShutdown]
  split
  · exact Safe.one.add (safe_processInput h)
  · exact Safe.one

theorem safe_processIncomingData (h : Safe Set.univ callback) :
    Safe Set.univ (processIncomingData callback) := by
  have hinput := safe_processInput h
  have htalker : Safe Set.univ createTCPTalker := Safe.one.add (safe_own .gMutex)
  have hreject := (safe_objCommChannelShutdown h false).mul (safe_own .gMutex)
  have hdatagram : Safe Set.univ (processUDPInput callback) :=
    (safe_own .tMutex1).mul ((Safe.one.add hinput).add
      (htalker.mul (Safe.one.add (hinput.mul (Safe.one.add hreject)))))
  have hread : Safe Set.univ (readClient callback) :=
    (Safe.one.add ((safe_objCommChannelShutdown h true).mul (safe_own .gMutex))).add
      ((safe_own .gMutex).mul hinput.kstar)
  have haccept : Safe Set.univ (1 + addFdToClientList) := Safe.one.add (safe_own .gMutex)
  exact (((Safe.one.add hdatagram).mul haccept).mul haccept).mul hread.kstar

theorem safe_fini (callback : Trace) : Safe Set.univ (fini callback) := by
  have hdisable : Safe Set.univ (1 + locked .gMutex (objCommChannelShutdown callback (!true))∗) := by
    refine Safe.one.add (safe_locked (A := ∅) Safe.one.kstar fun a ha => absurd ha (Set.notMem_empty a))
  exact hdisable.mul hdisable

theorem safe_operations (role : Role) : Safe Set.univ (operations role) := by
  cases role with
  | ioprocess => exact Safe.iUnion fun n => safe_processIncomingData (safe_script n)
  | interpreter => exact Safe.iUnion fun n => safe_locked (safe_script n) fun a _ => gil_le a
  | exit => exact Safe.iUnion fun n => safe_fini (script n)

/-- Wherever the threads of a server have come to, all of them can finish what
they have begun, and none keeps a lock then. -/
theorem threads_drain {T : Type} [Finite T] [DecidableEq T] (role : T → Role) {S : System T Lock}
    (h : Reach (fun t => operations (role t)) S) :
    ∃ S', ReflTransGen Advance S S' ∧ ∀ t, (S' t).todo = [] ∧ (S' t).held = 0 := by
  have hops : ∀ t, ∀ as ∈ operations (role t), Keeps 0 as 0 :=
    fun t => safe_operations (role t) 0 fun _ _ x hx => absurd hx (Multiset.notMem_zero x)
  have hsound := sound_reach hops h
  obtain ⟨S', hrun, hdone⟩ := drains hsound
  refine ⟨S', hrun, fun t => ⟨hdone t, ?_⟩⟩
  have hkeeps := (sound_run hsound hrun).keeps t
  rw [hdone t] at hkeeps
  exact hkeeps

def crossing : System Bool Lock :=
  Function.update
    (Function.update
      (Function.update
        (Function.update
          (Function.update
            (Function.update idle true ⟨0, [.acquire .gMutex, .release .gMutex]⟩)
            true ⟨{.gMutex}, [.release .gMutex]⟩)
          false ⟨0, [.acquire .gil, .acquire .tMutex2, .release .tMutex2, .acquire .gMutex,
            .release .gMutex, .release .gil]⟩)
        false ⟨{.gil}, [.acquire .tMutex2, .release .tMutex2, .acquire .gMutex, .release .gMutex,
          .release .gil]⟩)
      false ⟨{.tMutex2, .gil}, [.release .tMutex2, .acquire .gMutex, .release .gMutex, .release .gil]⟩)
    false ⟨{.gil}, [.acquire .gMutex, .release .gMutex, .release .gil]⟩

def crossingRole (t : Bool) : Role := if t then .ioprocess else .interpreter

theorem reach_crossing : Reach (fun t => operations (crossingRole t)) crossing := by
  have hnil : ∀ K : Trace, [] ∈ 1 + K := fun K => .inl rfl
  have hstar : ∀ (K : Trace), ∀ as ∈ K, as ∈ K∗ := fun K as has => (le_kstar : K ≤ K∗) has
  have haccept : [.acquire .gMutex, .release .gMutex] ∈ operations .ioprocess := by
    refine ⟨0, ?_⟩
    have hadd : [.acquire .gMutex, .release .gMutex] ∈ 1 + addFdToClientList :=
      .inr (mem_locked (Language.nil_mem_one))
    exact Language.append_mem_mul (Language.append_mem_mul (Language.append_mem_mul
      (hnil _) hadd) (hnil _)) (Language.nil_mem_kstar _)
  have hsend : [.acquire .tMutex2, .release .tMutex2, .acquire .gMutex, .release .gMutex] ∈
      clientDataSend :=
    .inr (Language.append_mem_mul (mem_locked Language.nil_mem_one)
      (.inr (mem_locked Language.nil_mem_one)))
  have hrun : [.acquire .tMutex2, .release .tMutex2, .acquire .gMutex, .release .gMutex] ∈ script 0 :=
    hstar _ _ (.inl (.inl (hstar _ _ (.inr hsend))))
  have hscript : [.acquire .gil, .acquire .tMutex2, .release .tMutex2, .acquire .gMutex,
      .release .gMutex, .release .gil] ∈ operations .interpreter := ⟨0, mem_locked hrun⟩
  have hfree : ∀ S : System Bool Lock, ∀ t l, l ∉ (S (!t)).held → Free S t l := by
    intro S t l h t' ht
    rwa [Bool.eq_not_of_ne ht]
  have h₁ := ReflTransGen.tail (r := fun S S' => Advance S S' ∨
    Begin (fun t => operations (crossingRole t)) S S') .refl (.inr (.begin idle true _ rfl haccept))
  have h₂ := h₁.tail (.inl (.acquire _ true .gMutex _ rfl (hfree _ _ _ (by decide))))
  have h₃ := h₂.tail (.inr (.begin _ false _ rfl hscript))
  have h₄ := h₃.tail (.inl (.acquire _ false .gil _ rfl (hfree _ _ _ (by decide))))
  have h₅ := h₄.tail (.inl (.acquire _ false .tMutex2 _ rfl (hfree _ _ _ (by decide))))
  exact h₅.tail (.inl (.release _ false Lock.tMutex2 _ rfl (by decide)))

theorem threads_drain_crossing :
    ∃ S', ReflTransGen Advance crossing S' ∧ ∀ t, (S' t).todo = [] ∧ (S' t).held = 0 :=
  threads_drain crossingRole reach_crossing

end PyConnect.CommLocks

import PyConnect.ClientList

namespace PyConnect.ClientSweep

open Std Maps LinkedList ClientList

/-- What select and the read that follows tell of a client; a read that gives no
bytes or an error counts as closed. -/
inductive Readiness
  | notReady
  | data
  | closed
  deriving DecidableEq, Repr

/-- What the pass does to a node: the loop comes to it, one of its fields is used,
or it is deleted. -/
inductive Event
  | visit (a : Nat)
  | touch (a : Nat)
  | free (a : Nat)
  deriving DecidableEq, Repr

def Event.node : Event → Nat
  | visit a => a
  | touch a => a
  | free a => a

/-- The variables of the loop, and what it has done so far. -/
structure Pass where
  heap : Heap ClientFD
  clientFDList : Option Nat
  FDPtr : Option Nat
  prevFDPtr : Option Nat
  events : List Event

def Pass.log (s : Pass) (events : List Event) : Pass := { s with events := s.events ++ events }

/-- destroyCurrentClient(FDPtr, prevFDPtr), which takes both by reference. -/
def destroyCurrentClient (s : Pass) : Option Pass :=
  match s.FDPtr, s.prevFDPtr with
  | some a, some b => do
      let c ← s.heap[a]?
      if s.clientFDList = some a then
        some ⟨s.heap.erase a, c.next, c.next, c.next, s.events ++ [.touch a, .free a]⟩
      else do
        let heap ← setNext s.heap b c.next
        let heap := heap.erase a
        let c' ← heap[b]?
        some ⟨heap, s.clientFDList, c'.next, s.prevFDPtr,
          s.events ++ [.touch a, .touch b, .free a, .touch b]⟩
  | _, _ => some s

/-- The end of the loop's body: `prevFDPtr = FDPtr; FDPtr = FDPtr->pNext`. -/
def advance (s : Pass) (a : Nat) : Option Pass := do
  let c ← s.heap[a]?
  some { s with FDPtr := c.next, prevFDPtr := some a, events := s.events ++ [.touch a] }

/-- The body of the loop at a node. The bytes of a client go to its dataInfo. -/
def body (readiness : Int → Readiness) (s : Pass) (a : Nat) : Option Pass := do
  let c ← s.heap[a]?
  match readiness c.val.fd with
  | .notReady => advance (s.log [.visit a]) a
  | .data => advance (s.log [.visit a, .touch a]) a
  | .closed => destroyCurrentClient (s.log [.visit a])

/-- The loop. It has no outcome where the code uses a node that is not allocated
or goes round for ever. -/
def loop (readiness : Int → Readiness) : Nat → Pass → Option Pass
  | 0, s => if s.FDPtr = none then some s else none
  | fuel + 1, s =>
      match s.FDPtr with
      | none => some s
      | some a => do
          let s ← body readiness s a
          loop readiness fuel s

def processIncomingData (readiness : Int → Readiness) (heap : Heap ClientFD)
    (clientFDList : Option Nat) : Option Pass :=
  loop readiness heap.size ⟨heap, clientFDList, clientFDList, clientFDList, []⟩

/-- What there is to do at a node behind `prev`, the last one that has stayed. -/
def eventsAt (readiness : Int → Readiness) (prev : Option Nat) (x : Nat × ClientFD) : List Event :=
  match readiness x.2.fd, prev with
  | .notReady, _ => [.visit x.1, .touch x.1]
  | .data, _ => [.visit x.1, .touch x.1, .touch x.1]
  | .closed, none => [.visit x.1, .touch x.1, .free x.1]
  | .closed, some b => [.visit x.1, .touch x.1, .touch b, .free x.1, .touch b]

def stays (readiness : Int → Readiness) (x : Nat × ClientFD) : Bool :=
  decide (readiness x.2.fd ≠ .closed)

def passEvents (readiness : Int → Readiness) : Option Nat → List (Nat × ClientFD) → List Event
  | _, [] => []
  | prev, x :: xs =>
      eventsAt readiness prev x ++
        passEvents readiness (if stays readiness x then some x.1 else prev) xs

def visits (events : List Event) : List Nat :=
  events.filterMap fun e => match e with
    | .visit a => some a
    | _ => none

def frees (events : List Event) : List Nat :=
  events.filterMap fun e => match e with
    | .free a => some a
    | _ => none

/-- Nothing is done any more to a node that has been deleted. -/
def NoUseAfterFree (events : List Event) : Prop :=
  events.Pairwise fun e e' => ∀ a, e = .free a → e'.node ≠ a

variable {readiness : Int → Readiness} {s : Pass} {ks ys xs : List (Nat × ClientFD)} {fuel : Nat}
  {prev : Option Nat}

/-- prevFDPtr is the last node that has stayed, or, while there is none, FDPtr. -/
def Trails (prevFDPtr FDPtr : Option Nat) (ks : List (Nat × ClientFD)) : Prop :=
  (ks = [] ∧ prevFDPtr = FDPtr) ∨ ∃ zs b w, ks = zs ++ [(b, w)] ∧ prevFDPtr = some b

def lastAddr (ks : List (Nat × ClientFD)) : Option Nat := ks.getLast?.map (·.1)

@[simp] theorem lastAddr_nil : lastAddr [] = none := rfl

@[simp] theorem lastAddr_concat (ks : List (Nat × ClientFD)) (b : Nat) (w : ClientFD) :
    lastAddr (ks ++ [(b, w)]) = some b := by
  rw [lastAddr, List.getLast?_concat]
  rfl

/-- Between two rounds: `ks` have stayed, and the loop has `ys` before it. -/
structure Midway (s : Pass) (ks ys : List (Nat × ClientFD)) : Prop where
  front : Segment s.heap s.clientFDList ks s.FDPtr
  rest : Segment s.heap s.FDPtr ys none
  trails : Trails s.prevFDPtr s.FDPtr ks

theorem Midway.log (h : Midway s ks ys) (events : List Event) : Midway (s.log events) ks ys :=
  ⟨h.front, h.rest, h.trails⟩

theorem advance_spec {a : Nat} {v : ClientFD} (h : Midway s ks ((a, v) :: ys)) :
    ∃ s', advance s a = some s' ∧ s'.events = s.events ++ [.touch a] ∧
      Midway s' (ks ++ [(a, v)]) ys := by
  obtain ⟨hptr, next, ha, hys⟩ := h.rest
  have hfront := h.front
  rw [hptr] at hfront
  refine ⟨_, by rw [advance, ha]; rfl, rfl, ?_, hys, .inr ⟨ks, a, v, rfl, rfl⟩⟩
  exact segment_append.mpr ⟨some a, hfront, rfl, next, ha, rfl⟩

theorem destroyCurrentClient_spec {a : Nat} {v : ClientFD} (h : Midway s ks ((a, v) :: ys)) :
    ∃ s', destroyCurrentClient s = some s' ∧
      s'.events = s.events ++ (match lastAddr ks with
        | none => [.touch a, .free a]
        | some b => [.touch a, .touch b, .free a, .touch b]) ∧
      Midway s' ks ys := by
  have hall : Segment s.heap s.clientFDList (ks ++ (a, v) :: ys) none :=
    segment_append.mpr ⟨s.FDPtr, h.front, h.rest⟩
  obtain ⟨hptr, next, ha, -⟩ := h.rest
  rw [destroyCurrentClient, hptr]
  rcases h.trails with ⟨rfl, hprev⟩ | ⟨zs, b, w, rfl, hprev⟩
  · obtain ⟨hhead, next', ha', hrest⟩ := hall.remove_first
    rw [ha] at ha'
    obtain rfl := (Cell.mk.inj (Option.some.inj ha')).2
    rw [hprev, hptr]
    refine ⟨⟨s.heap.erase a, next, next, next, s.events ++ [.touch a, .free a]⟩, ?_, rfl,
      segment_nil.mpr rfl, hrest, .inl ⟨rfl, rfl⟩⟩
    simp only [ha, Option.bind_eq_bind, Option.bind_some]
    rw [if_pos hhead]
  · rw [← List.append_cons] at hall
    obtain ⟨hne, next', ha', hset, hb, hfront, hrest⟩ := hall.remove
    rw [ha] at ha'
    obtain rfl := (Cell.mk.inj (Option.some.inj ha')).2
    rw [hprev, lastAddr_concat]
    refine ⟨⟨(s.heap.insert b ⟨w, next⟩).erase a, s.clientFDList, next, some b,
      s.events ++ [.touch a, .touch b, .free a, .touch b]⟩, ?_, rfl, hfront, hrest,
      .inr ⟨zs, b, w, rfl, rfl⟩⟩
    simp only [ha, Option.bind_eq_bind, Option.bind_some]
    rw [if_neg hne, hset, Option.bind_some, hb, Option.bind_some]

theorem body_spec (readiness : Int → Readiness) {a : Nat} {v : ClientFD}
    (h : Midway s ks ((a, v) :: ys)) :
    ∃ s', body readiness s a = some s' ∧
      s'.events = s.events ++ eventsAt readiness (lastAddr ks) (a, v) ∧
      Midway s' (ks ++ [(a, v)].filter (stays readiness)) ys := by
  obtain ⟨hptr, next, ha, -⟩ := h.rest
  rw [body, ha]
  simp only [Option.bind_eq_bind, Option.bind_some]
  cases hr : readiness v.fd with
  | notReady =>
      obtain ⟨s', hs', he, hm⟩ := advance_spec (h.log [.visit a])
      refine ⟨s', hs', ?_, ?_⟩
      · simp [he, Pass.log, eventsAt, hr]
      · rwa [List.filter_cons_of_pos (by simp [stays, hr]), List.filter_nil]
  | data =>
      obtain ⟨s', hs', he, hm⟩ := advance_spec (h.log [.visit a, .touch a])
      refine ⟨s', hs', ?_, ?_⟩
      · simp [he, Pass.log, eventsAt, hr]
      · rwa [List.filter_cons_of_pos (by simp [stays, hr]), List.filter_nil]
  | closed =>
      obtain ⟨s', hs', he, hm⟩ := destroyCurrentClient_spec (h.log [.visit a])
      refine ⟨s', hs', ?_, ?_⟩
      · rw [he]
        cases hl : lastAddr ks <;> simp [Pass.log, eventsAt, hr]
      · rwa [List.filter_cons_of_neg (by simp [stays, hr]), List.filter_nil, List.append_nil]

theorem lastAddr_filter (ks : List (Nat × ClientFD)) (a : Nat) (v : ClientFD) :
    lastAddr (ks ++ [(a, v)].filter (stays readiness)) =
      if stays readiness (a, v) then some a else lastAddr ks := by
  cases h : stays readiness (a, v) with
  | true => rw [List.filter_cons_of_pos h, List.filter_nil, lastAddr_concat, if_pos rfl]
  | false =>
      rw [List.filter_cons_of_neg (by simp [h]), List.filter_nil, List.append_nil,
        if_neg Bool.false_ne_true]

theorem loop_spec (readiness : Int → Readiness) (h : Midway s ks ys) (hfuel : ys.length ≤ fuel) :
    ∃ s', loop readiness fuel s = some s' ∧
      s'.events = s.events ++ passEvents readiness (lastAddr ks) ys ∧
      Segment s'.heap s'.clientFDList (ks ++ ys.filter (stays readiness)) none := by
  induction ys generalizing s ks fuel with
  | nil =>
      have hnull : s.FDPtr = none := h.rest
      refine ⟨s, ?_, (List.append_nil _).symm, ?_⟩
      · cases fuel <;> simp [loop, hnull]
      · have hfront := h.front
        rwa [List.filter_nil, List.append_nil, ← hnull]
  | cons y ys ih =>
      obtain ⟨a, v⟩ := y
      obtain ⟨fuel, rfl⟩ := Nat.exists_eq_succ_of_ne_zero (by simp at hfuel; omega : fuel ≠ 0)
      obtain ⟨s₁, hbody, he₁, hm⟩ := body_spec readiness h
      obtain ⟨s', hloop, he, hs'⟩ := ih hm (Nat.le_of_succ_le_succ hfuel)
      refine ⟨s', ?_, ?_, ?_⟩
      · rw [loop, h.rest.1]
        simp only [hbody, Option.bind_eq_bind, Option.bind_some, hloop]
      · rw [he, he₁, passEvents, lastAddr_filter, List.append_assoc]
      · rwa [List.append_assoc, ← List.filter_append, List.singleton_append] at hs'

theorem visits_append (es es' : List Event) : visits (es ++ es') = visits es ++ visits es' :=
  List.filterMap_append

theorem frees_append (es es' : List Event) : frees (es ++ es') = frees es ++ frees es' :=
  List.filterMap_append

theorem visits_eventsAt (readiness : Int → Readiness) (prev : Option Nat) (x : Nat × ClientFD) :
    visits (eventsAt readiness prev x) = [x.1] := by
  cases h : readiness x.2.fd <;> cases prev <;> simp [eventsAt, visits, h]

theorem frees_eventsAt (readiness : Int → Readiness) (prev : Option Nat) (x : Nat × ClientFD) :
    frees (eventsAt readiness prev x) = if stays readiness x then [] else [x.1] := by
  cases h : readiness x.2.fd <;> cases prev <;> simp [eventsAt, frees, stays, h]

theorem visits_passEvents (readiness : Int → Readiness) (prev : Option Nat)
    (xs : List (Nat × ClientFD)) : visits (passEvents readiness prev xs) = xs.map (·.1) := by
  induction xs generalizing prev with
  | nil => rfl
  | cons x xs ih =>
      rw [passEvents, visits_append, visits_eventsAt, ih, List.singleton_append, List.map_cons]

theorem frees_passEvents (readiness : Int → Readiness) (prev : Option Nat)
    (xs : List (Nat × ClientFD)) :
    frees (passEvents readiness prev xs) = (xs.filter fun x => !stays readiness x).map (·.1) := by
  induction xs generalizing prev with
  | nil => rfl
  | cons x xs ih =>
      rw [passEvents, frees_append, frees_eventsAt, ih, List.filter_cons]
      cases stays readiness x <;> rfl

theorem node_eventsAt {e : Event} {x : Nat × ClientFD} (he : e ∈ eventsAt readiness prev x) :
    e.node = x.1 ∨ prev = some e.node := by
  cases h : readiness x.2.fd with
  | notReady | data =>
      simp only [eventsAt, h, List.mem_cons, List.not_mem_nil, or_false] at he
      rcases he with rfl | rfl | rfl <;> exact .inl rfl
  | closed =>
      cases prev with
      | none =>
          simp only [eventsAt, h, List.mem_cons, List.not_mem_nil, or_false] at he
          rcases he with rfl | rfl | rfl <;> exact .inl rfl
      | some b =>
          simp only [eventsAt, h, List.mem_cons, List.not_mem_nil, or_false] at he
          rcases he with rfl | rfl | rfl | rfl | rfl
          · exact .inl rfl
          · exact .inl rfl
          · exact .inr rfl
          · exact .inl rfl
          · exact .inr rfl

theorem node_passEvents {e : Event} (he : e ∈ passEvents readiness prev xs) :
    e.node ∈ xs.map (·.1) ∨ prev = some e.node := by
  induction xs generalizing prev with
  | nil => cases he
  | cons x xs ih =>
      rw [List.map_cons, List.mem_cons]
      rcases List.mem_append.mp he with he | he
      · rcases node_eventsAt he with hx | hp
        · exact .inl (.inl hx)
        · exact .inr hp
      · rcases ih he with hmem | hp
        · exact .inl (.inr hmem)
        · split at hp
          · exact .inl (.inl (Option.some.inj hp).symm)
          · exact .inr hp

theorem free_eventsAt {a : Nat} {x : Nat × ClientFD} (he : .free a ∈ eventsAt readiness prev x) :
    a = x.1 ∧ stays readiness x = false := by
  have hmem : a ∈ frees (eventsAt readiness prev x) := List.mem_filterMap.mpr ⟨_, he, rfl⟩
  rw [frees_eventsAt] at hmem
  split at hmem
  · cases hmem
  next h => exact ⟨List.mem_singleton.mp hmem, Bool.eq_false_iff.mpr h⟩

theorem noUseAfterFree_eventsAt {x : Nat × ClientFD} (hprev : prev ≠ some x.1) :
    NoUseAfterFree (eventsAt readiness prev x) := by
  cases h : readiness x.2.fd with
  | notReady | data => simp [NoUseAfterFree, eventsAt, h]
  | closed =>
      cases prev with
      | none => simp [NoUseAfterFree, eventsAt, h]
      | some b =>
          have hne : b ≠ x.1 := fun he => hprev (congrArg some he)
          simp [NoUseAfterFree, eventsAt, h, Event.node, hne]

theorem noUseAfterFree_passEvents (hnodup : (xs.map (·.1)).Nodup)
    (hprev : ∀ b, prev = some b → b ∉ xs.map (·.1)) :
    NoUseAfterFree (passEvents readiness prev xs) := by
  induction xs generalizing prev with
  | nil => exact List.Pairwise.nil
  | cons x xs ih =>
      obtain ⟨hx, hxs⟩ := List.nodup_cons.mp hnodup
      have hprev' : prev ≠ some x.1 := fun h => hprev x.1 h List.mem_cons_self
      refine List.pairwise_append.mpr ⟨noUseAfterFree_eventsAt hprev', ih hxs ?_, ?_⟩
      · intro b hb
        split at hb
        · obtain rfl := Option.some.inj hb
          exact hx
        · exact fun hmem => hprev b hb (List.mem_cons_of_mem _ hmem)
      · rintro e he e' he' a rfl rfl
        obtain ⟨ha, hstays⟩ := free_eventsAt he
        rcases node_passEvents he' with hmem | hp
        · rw [ha] at hmem
          exact hx hmem
        · rw [hstays, if_neg Bool.false_ne_true, ha] at hp
          exact hprev' hp

theorem processIncomingData_spec {heap : Heap ClientFD} {clientFDList : Option Nat}
    (readiness : Int → Readiness) (hs : Segment heap clientFDList xs none) :
    ∃ s, processIncomingData readiness heap clientFDList = some s ∧
      s.events = passEvents readiness none xs ∧
      Segment s.heap s.clientFDList (xs.filter (stays readiness)) none := by
  have hstart : Midway ⟨heap, clientFDList, clientFDList, clientFDList, []⟩ [] xs :=
    ⟨segment_nil.mpr rfl, hs, .inl ⟨rfl, rfl⟩⟩
  obtain ⟨s, hloop, he, hrest⟩ := loop_spec readiness hstart hs.length_le
  rw [List.nil_append, lastAddr_nil] at he
  exact ⟨s, hloop, he, hrest⟩

/-- A pass comes to every node once, in the order of the list, deletes those that
are closed, uses none that it has deleted, and leaves the others linked in their
order. -/
theorem pass_visits {heap : Heap ClientFD} {clientFDList : Option Nat}
    (readiness : Int → Readiness) (hs : Segment heap clientFDList xs none) :
    ∃ s, processIncomingData readiness heap clientFDList = some s ∧
      visits s.events = xs.map (·.1) ∧
      frees s.events = (xs.filter fun x => readiness x.2.fd = .closed).map (·.1) ∧
      NoUseAfterFree s.events ∧
      Segment s.heap s.clientFDList (xs.filter fun x => readiness x.2.fd ≠ .closed) none := by
  obtain ⟨s, hpass, he, hrest⟩ := processIncomingData_spec readiness hs
  refine ⟨s, hpass, ?_, ?_, ?_, hrest⟩
  · rw [he, visits_passEvents]
  · rw [he, frees_passEvents]
    congr 2
    funext x
    simp [stays]
  · rw [he]
    exact noUseAfterFree_passEvents hs.nodup fun b h => by cases h

def threeClients : Heap ClientFD :=
  ((((∅ : Heap ClientFD).insert 0 ⟨⟨5, .network, 0⟩, some 1⟩).insert 1
    ⟨⟨6, .network, 0⟩, some 2⟩)).insert 2 ⟨⟨7, .network, 0⟩, none⟩

def firstTwo (fd : Int) : Readiness := if fd < 7 then .closed else .data

theorem segment_threeClients : Segment threeClients (some 0)
    [(0, ⟨5, .network, 0⟩), (1, ⟨6, .network, 0⟩), (2, ⟨7, .network, 0⟩)] none :=
  ⟨rfl, some 1, rfl, rfl, some 2, rfl, rfl, none, rfl, rfl⟩

theorem pass_visits_threeClients : ∃ s,
    processIncomingData firstTwo threeClients (some 0) = some s ∧ visits s.events = [0, 1, 2] ∧
      frees s.events = [0, 1] ∧ NoUseAfterFree s.events ∧
      Segment s.heap s.clientFDList [(2, ⟨7, .network, 0⟩)] none :=
  pass_visits firstTwo segment_threeClients

theorem loop_eq_sweep (readiness : Int → Readiness) (s : Pass) (fuel : Nat)
    (hprev : s.FDPtr ≠ none → s.prevFDPtr ≠ none) :
    (loop readiness fuel s).map (fun s => (s.heap, s.clientFDList)) =
      (sweep (fun v => decide (readiness v.fd = .closed)) fuel s.heap s.clientFDList s.prevFDPtr
        s.FDPtr).map fun r => (r.1, r.2.1) := by
  induction fuel generalizing s with
  | zero => cases h : s.FDPtr <;> simp [loop, sweep, h]
  | succ fuel ih =>
      cases hptr : s.FDPtr with
      | none => simp [loop, sweep, hptr]
      | some a =>
          obtain ⟨b, hb⟩ := Option.ne_none_iff_exists'.mp (hprev (by simp [hptr]))
          rw [loop, hptr, hb, sweep]
          simp only [body, Option.bind_eq_bind]
          cases hc : s.heap[a]? with
          | none => rfl
          | some c =>
              simp only [Option.bind_some]
              have hadvance (events : List Event) : advance (s.log events) a =
                  some ⟨s.heap, s.clientFDList, c.next, some a, s.events ++ events ++ [.touch a]⟩ := by
                simp [advance, Pass.log, hc]
              cases hr : readiness c.val.fd with
              | notReady | data =>
                  dsimp only
                  rw [hadvance, if_neg (by simp), Option.bind_some]
                  exact ih _ fun _ => by simp
              | closed =>
                  rw [if_pos (by simp)]
                  simp only [destroyCurrentClient, Pass.log, hptr, hb, hc, Option.bind_eq_bind,
                    Option.bind_some]
                  by_cases hhead : s.clientFDList = some a
                  · rw [if_pos hhead, if_pos hhead, Option.bind_some, ih _ fun h => h]
                    cases sweep (fun v => decide (readiness v.fd = .closed)) fuel (s.heap.erase a)
                      c.next c.next c.next <;> rfl
                  · rw [if_neg hhead, if_neg hhead]
                    cases setNext s.heap b c.next with
                    | none => rfl
                    | some heap =>
                        simp only [Option.bind_some]
                        cases (heap.erase a)[b]? with
                        | none => rfl
                        | some c' =>
                            simp only [Option.bind_some]
                            rw [ih _ fun _ => by simp]
                            cases sweep (fun v => decide (readiness v.fd = .closed)) fuel
                              (heap.erase a) s.clientFDList (some b) c'.next <;> rfl

/-- ClientList's pass over the clients, where only the closed ones are told apart,
leaves the same list. -/
theorem processIncomingData_list {S : System} {closed : Finset Int}
    (hclosed : ∀ fd, readiness fd = .closed ↔ fd ∈ closed)
    (hs : Segment S.heap S.clientFDList xs none) :
    ∃ s, processIncomingData readiness S.heap S.clientFDList = some s ∧
      (ClientList.processIncomingData S closed).heap = s.heap ∧
      (ClientList.processIncomingData S closed).clientFDList = s.clientFDList := by
  obtain ⟨s, hs', -⟩ := processIncomingData_spec readiness hs
  have hsweep := loop_eq_sweep readiness
    ⟨S.heap, S.clientFDList, S.clientFDList, S.clientFDList, []⟩ S.heap.size fun h => h
  have hdrop : (fun v : ClientFD => decide (readiness v.fd = .closed)) =
      fun v => decide (v.fd ∈ closed) := funext fun v => decide_eq_decide.mpr (hclosed v.fd)
  rw [processIncomingData] at hs'
  rw [hs', hdrop] at hsweep
  obtain ⟨⟨heap, head, vs⟩, hr, he⟩ := Option.map_eq_some_iff.mp hsweep.symm
  obtain ⟨rfl, rfl⟩ := Prod.mk.inj he
  refine ⟨s, hs', ?_, ?_⟩ <;> rw [ClientList.processIncomingData, hr] <;> rfl

end PyConnect.ClientSweep

import PyConnect.Rendezvous

namespace PyConnect.LocalDelivery

open Relation ObjComm LocalBroadcast SocketScan Rendezvous

/-- Where a process runs behind a socket that a broadcast finds, it listens. -/
def Attended (S : Host) (side : Side) : Prop :=
  ∀ name ∈ S.dir, ∀ k, parsedID side name = some k → k ∈ S.proc.running → Listens S side k

/-- What happens while a process broadcasts and its audience neither leaves nor grows. -/
inductive Calm (n : Int) (side : Side) : Host → Host → Prop
  | works {S S' : Host} (p : Process) : S.procs n = some p → p.task ≠ .enabled → Works S n S' →
      Calm n side S S'
  | others {S S' : Host} : Step S S' → S'.procs n = S.procs n →
      (∀ k, Listens S' side k ↔ Listens S side k) → Calm n side S S'

/-- The message has been sent to these processes, each over its channel, and nothing
else has been sent. -/
def Sent (sent : List (Int × List UInt8)) (message : List UInt8) (P : Pass) (ks : List Int) : Prop :=
  ∃ fds, P.sent = sent ++ fds.map (·, message) ∧
    List.Forall₂ (fun k fd => channel P.clientFDList k = some fd ∧ fd ≠ invalidSocket) ks fds

/-- How far the broadcast has come whose audience is `ks`. -/
inductive Stage (S : Host) (sent : List (Int × List UInt8)) (message : List UInt8) (ks : List Int)
    (p : Process) : Prop
  | scanning (names : List (List Char)) (scan : Scan) : p.task = .scanning names scan (some message) →
      scan.live ++ (processIDs p.side names).filter (· ∈ S.proc.running) = ks →
      Sent sent message p.pass [] → Stage S sent message ks p
  | unlinking (dead : List Int) : p.task = .unlinking dead ks (some message) →
      Sent sent message p.pass [] → Stage S sent message ks p
  | sending (past live : List Int) : p.task = .sending live message → past ++ live = ks →
      Sent sent message p.pass past → Stage S sent message ks p
  | enabled : p.task = .enabled → Sent sent message p.pass ks → Stage S sent message ks p

def weight : Task → Nat
  | .scanning names scan _ => 2 * names.length + scan.dead.length + scan.live.length + 3
  | .unlinking dead live _ => dead.length + live.length + 2
  | .sending live _ => live.length + 1
  | _ => 0

variable {S S' : Host} {n k : Int} {p p' : Process} {side : Side} {names : List (List Char)}
  {dir : Finset (List Char)} {scan : Scan} {dead live ks past : List Int} {message : List UInt8}
  {sent : List (Int × List UInt8)} {P P' : Pass}

section Calls

/-! What each task's next call can be. -/

theorem acts_scanning (htask : p.task = .scanning names scan (some message))
    (hacts : Acts S n p p' dir) :
    (∃ name rest, names = name :: rest ∧ p' = { p with
      task := .scanning rest (scanName p.side S.proc scan name) (some message) }) ∨
    (names = [] ∧ p' = { p with task := .unlinking scan.dead scan.live (some message) }) := by
  cases hacts with
  | look name names scan message h =>
      rw [htask] at h
      obtain ⟨rfl, rfl, rfl⟩ := Task.scanning.inj h
      exact .inl ⟨name, names, rfl, rfl⟩
  | closedir scan message h =>
      rw [htask] at h
      obtain ⟨rfl, rfl, rfl⟩ := Task.scanning.inj h
      exact .inr ⟨rfl, rfl⟩
  | _ => simp_all [Begins]

theorem acts_unlinking (htask : p.task = .unlinking dead live (some message))
    (hacts : Acts S n p p' dir) :
    (∃ d rest, dead = d :: rest ∧ p' = { p with task := .unlinking rest live (some message) }) ∨
    (dead = [] ∧ p' = { p with task := .sending live message }) := by
  cases hacts with
  | unlinkDead d dead live message h =>
      rw [htask] at h
      obtain ⟨rfl, rfl, rfl⟩ := Task.unlinking.inj h
      exact .inl ⟨d, dead, rfl, rfl⟩
  | dispatch live message h =>
      rw [htask] at h
      obtain ⟨rfl, rfl, hm⟩ := Task.unlinking.inj h
      obtain rfl := Option.some.inj hm
      exact .inr ⟨rfl, rfl⟩
  | _ => simp_all [Begins]

theorem acts_sending (htask : p.task = .sending live message) (hacts : Acts S n p p' dir) :
    (∃ k rest o P' fd, live = k :: rest ∧ Truthful S p.side k o ∧
      findOrCreateIPCTalker p.pass k o = .ok (P', fd) ∧ p' = { p with
        task := .sending rest message
        pass := if fd ≠ invalidSocket then P'.send fd message else P' }) ∨
    (live = [] ∧ p' = { p with task := .enabled }) := by
  cases hacts with
  | send k live message o P' fd h ho hrun =>
      rw [htask] at h
      obtain ⟨rfl, rfl⟩ := Task.sending.inj h
      exact .inl ⟨k, live, o, P', fd, rfl, ho, hrun, rfl⟩
  | sent message h =>
      rw [htask] at h
      obtain ⟨rfl, rfl⟩ := Task.sending.inj h
      exact .inr ⟨rfl, rfl⟩
  | _ => simp_all [Begins]

end Calls

theorem Sent.send {fd : Int} (h : Sent sent message P past) (hreached : Reached P P' k fd) :
    Sent sent message (P'.send fd message) (past ++ [k]) := by
  obtain ⟨fds, hsent, hfds⟩ := h
  refine ⟨fds ++ [fd], ?_, ?_⟩
  · change P'.sent ++ [(fd, message)] = _
    rw [hreached.sent, hsent, List.map_append, List.append_assoc]
    rfl
  · refine List.rel_append (hfds.imp fun j fd' hj => ⟨hreached.kept j fd' hj.1, hj.2⟩) ?_
    exact .cons ⟨hreached.channel, hreached.valid_fd⟩ .nil

theorem reached_listening (hvalid : Valid P) (hk : Listens S side k) {o : Attempt}
    (ho : Truthful S side k o) : ∃ P' fd, findOrCreateIPCTalker P k o = .ok (P', fd) := by
  cases hchannel : channel P.clientFDList k with
  | some fd =>
      have hfd : fd ≠ invalidSocket := fun heq => hvalid.channel k (heq ▸ hchannel)
      exact ⟨_, _, findOrCreate_found hchannel hfd o⟩
  | none =>
      cases o with
      | noSocket => exact ho.elim
      | refused fd => exact absurd hk ho
      | connected fd => exact ⟨_, _, findOrCreate_connected hchannel fd⟩

theorem stage_acts (h : Inv S) (hp : S.procs n = some p) (hstage : Stage S sent message ks p)
    (htask : p.task ≠ .enabled) (hacts : Acts S n p p' dir) :
    Stage (S.put n (some p') dir) sent message ks p' := by
  cases hstage with
  | scanning names scan htask hks hsent =>
      rcases acts_scanning htask hacts with ⟨name, rest, rfl, rfl⟩ | ⟨rfl, rfl⟩
      · refine .scanning rest _ rfl ?_ hsent
        rw [← hks, processIDs_cons, List.filter_append, ← List.append_assoc, scanName_eq]
        rfl
      · refine .unlinking scan.dead ?_ hsent
        rw [← hks]
        change Task.unlinking _ _ _ = _
        rw [processIDs, List.filterMap_nil, List.filter_nil, List.filter_nil, List.append_nil]
  | unlinking dead htask hsent =>
      rcases acts_unlinking htask hacts with ⟨d, rest, rfl, rfl⟩ | ⟨rfl, rfl⟩
      · exact .unlinking rest rfl hsent
      · exact .sending [] ks rfl rfl hsent
  | sending past live htask hks hsent =>
      rcases acts_sending htask hacts with ⟨k, rest, o, P', fd, rfl, ho, hrun, rfl⟩ | ⟨rfl, rfl⟩
      · have hreached := reached_ok (h.valid n p hp) ho hrun
        refine .sending (past ++ [k]) rest rfl ?_ ?_
        · rw [← hks, List.append_assoc]
          rfl
        · dsimp only
          rw [if_pos hreached.valid_fd]
          exact hsent.send hreached
      · refine .enabled rfl ?_
        rw [← hks, List.append_nil]
        exact hsent
  | enabled h _ => exact absurd h htask

theorem running_of_used (hstep : Step S S') : ∀ k ∈ S.used, k ∈ S'.proc.running → k ∈ S.proc.running := by
  intro k hused hrun
  cases hstep with
  | works n hworks => cases hworks <;> exact hrun
  | exit n => exact hrun
  | start n side proc hnew _ hproc =>
      dsimp only at hrun
      rw [hproc] at hrun
      rcases Finset.mem_insert.mp hrun with rfl | hrun
      · exact absurd hused hnew
      · exact hrun
  | others proc dir hnew _ _ =>
      by_contra hnot
      exact hnew k hrun hnot hused

theorem stage_others (h : Inv S) (h' : Inv S') (hp : S.procs n = some p)
    (hlisten : ∀ k ∈ ks, Listens S' p.side k) (hstage : Stage S sent message ks p) (hstep : Step S S') :
    Stage S' sent message ks p := by
  cases hstage with
  | scanning names scan htask hks hsent =>
      have hmarked := h.marked n p hp
      rw [htask] at hmarked
      refine .scanning names scan htask ?_ hsent
      rw [← hks]
      refine congrArg (scan.live ++ ·) (List.filter_congr fun k hk => ?_)
      refine decide_eq_decide.mpr ⟨running_of_used hstep k (hmarked.1 k hk), fun hrun => ?_⟩
      have hmem : k ∈ ks := by
        rw [← hks]
        exact List.mem_append_right _ (List.mem_filter.mpr ⟨hk, decide_eq_true hrun⟩)
      obtain ⟨q, hq, -⟩ := hlisten k hmem
      exact (h'.running k q hq).1
  | unlinking dead htask hsent => exact .unlinking dead htask hsent
  | sending past live htask hks hsent => exact .sending past live htask hks hsent
  | enabled htask hsent => exact .enabled htask hsent

theorem listens_put (hp : S.procs n = some p) {p' : Option Process}
    (hside : ∀ q, p' = some q → q.side = p.side) (k : Int) :
    Listens (S.put n p' dir) p.side k ↔ Listens S p.side k := by
  have hne : p.side ≠ p.side.other := by cases p.side <;> decide
  by_cases hk : k = n
  · subst hk
    refine iff_of_false ?_ ?_
    · rintro ⟨q, hq, hq', -⟩
      rw [put_self] at hq
      exact hne ((hside q hq).symm.trans hq')
    · rintro ⟨q, hq, hq', -⟩
      obtain rfl := Option.some.inj (hp.symm.trans hq)
      exact hne hq'
  · rw [Listens, Listens, put_ne S hk]

/-- The broadcast of a process and its audience, at any stage. -/
structure Broadcasts (S : Host) (n : Int) (side : Side) (sent : List (Int × List UInt8))
    (message : List UInt8) (ks : List Int) (p : Process) : Prop where
  inv : Inv S
  process : S.procs n = some p
  own : p.side = side
  stage : Stage S sent message ks p
  audience : ∀ k, k ∈ ks ↔ Listens S side k

theorem Broadcasts.acts (h : Broadcasts S n side sent message ks p) (htask : p.task ≠ .enabled)
    (hacts : Acts S n p p' dir) : Broadcasts (S.put n (some p') dir) n side sent message ks p' := by
  obtain ⟨hinv, hp, rfl, hstage, haudience⟩ := h
  have hside := (acts_kept hinv hp hacts).side
  refine ⟨inv_acts hinv hp hacts, put_self .., hside, ?_, fun k => ?_⟩
  · exact stage_acts hinv hp hstage htask hacts
  · rw [haudience, listens_put hp fun q hq => ?_]
    rwa [← Option.some.inj hq]

theorem Broadcasts.keeps_on (h : Broadcasts S n side sent message ks p) {o : Attempt}
    (htask : p.task = .sending (k :: live) message) (ho : Truthful S p.side k o) :
    ∃ P' fd, findOrCreateIPCTalker p.pass k o = .ok (P', fd) := by
  refine reached_listening (h.inv.valid n p h.process) ?_ ho
  rw [h.own, ← h.audience]
  cases h.stage with
  | sending past live' htask' hks _ =>
      rw [htask] at htask'
      obtain ⟨rfl, -⟩ := Task.sending.inj htask'
      rw [← hks]
      exact List.mem_append_right _ List.mem_cons_self
  | scanning _ _ h | unlinking _ h | enabled h =>
      rw [htask] at h
      cases h

theorem Broadcasts.calm (h : Broadcasts S n side sent message ks p) (hcalm : Calm n side S S') :
    ∃ p', Broadcasts S' n side sent message ks p' := by
  cases hcalm with
  | works p₀ hp₀ htask hworks =>
      obtain rfl := Option.some.inj (h.process.symm.trans hp₀)
      cases hworks with
      | acts p₁ p' dir hp₁ hacts =>
          obtain rfl := Option.some.inj (h.process.symm.trans hp₁)
          exact ⟨p', h.acts htask hacts⟩
      | aborts p₁ k live m o P' hp₁ htask' ho hrun =>
          obtain rfl := Option.some.inj (h.process.symm.trans hp₁)
          have hm : m = message := by
            cases h.stage with
            | sending past live' h' _ _ =>
                rw [htask'] at h'
                exact (Task.sending.inj h').2
            | scanning _ _ h' | unlinking _ h' | enabled h' =>
                rw [htask'] at h'
                cases h'
          subst hm
          obtain ⟨P'', fd, hok⟩ := h.keeps_on htask' ho
          rw [hok] at hrun
          cases hrun
  | others hstep hn hsame =>
      have hinv := inv_step h.inv hstep
      have haudience : ∀ k, k ∈ ks ↔ Listens S' side k := fun k => (h.audience k).trans (hsame k).symm
      refine ⟨p, hinv, hn.trans h.process, h.own, ?_, haudience⟩
      refine stage_others h.inv hinv h.process (fun k hk => ?_) h.stage hstep
      rw [h.own]
      exact (haudience k).mp hk

theorem Broadcasts.run (h : Broadcasts S n side sent message ks p)
    (hrun : ReflTransGen (Calm n side) S S') : ∃ p', Broadcasts S' n side sent message ks p' := by
  induction hrun with
  | refl => exact ⟨p, h⟩
  | tail _ hcalm ih =>
      obtain ⟨p', h'⟩ := ih
      exact h'.calm hcalm

theorem weight_look (side : Side) (P : Proc) (scan : Scan) (name : List Char)
    (names : List (List Char)) (m : Option (List UInt8)) :
    weight (.scanning names (scanName side P scan name) m) < weight (.scanning (name :: names) scan m) := by
  have hone : (processIDs side [name]).length ≤ 1 :=
    (List.length_filter_le ..).trans (List.length_filterMap_le ..)
  have hsplit : ((processIDs side [name]).filter (· ∈ P.running)).length +
      ((processIDs side [name]).filter (· ∉ P.running)).length = (processIDs side [name]).length := by
    rw [← List.countP_eq_length_filter, ← List.countP_eq_length_filter]
    rw [List.length_eq_countP_add_countP (· ∈ P.running)]
    simp
  rw [scanName_eq, weight, weight]
  simp only [List.length_append, List.length_cons]
  omega

theorem Broadcasts.progress (h : Broadcasts S n side sent message ks p) (htask : p.task ≠ .enabled) :
    ∃ p' dir, Acts S n p p' dir ∧ weight p'.task < weight p.task := by
  cases h.stage with
  | scanning names scan ht _ _ =>
      cases names with
      | nil =>
          refine ⟨_, _, .closedir scan (some message) ht, ?_⟩
          rw [ht]
          simp only [weight]
          omega
      | cons name names =>
          refine ⟨_, _, .look name names scan (some message) ht, ?_⟩
          rw [ht]
          exact weight_look ..
  | unlinking dead ht _ =>
      cases dead with
      | nil =>
          refine ⟨_, _, .dispatch ks message ht, ?_⟩
          rw [ht]
          simp only [weight]
          omega
      | cons d dead =>
          refine ⟨_, _, .unlinkDead d dead ks (some message) ht, ?_⟩
          rw [ht]
          simp only [weight, List.length_cons]
          omega
  | sending past live ht hks _ =>
      cases live with
      | nil =>
          refine ⟨_, _, .sent message ht, ?_⟩
          rw [ht]
          exact Nat.succ_pos _
      | cons k live =>
          have hk : Listens S p.side k := by
            rw [h.own, ← h.audience, ← hks]
            exact List.mem_append_right _ List.mem_cons_self
          have ho : Truthful S p.side k (.connected 0) := hk
          obtain ⟨P', fd, hrun⟩ := h.keeps_on ht ho
          refine ⟨_, _, .send k live message (.connected 0) P' fd ht ho hrun, ?_⟩
          rw [ht]
          simp only [weight, List.length_cons]
          omega
  | enabled ht _ => exact absurd ht htask

theorem Broadcasts.ends (h : Broadcasts S n side sent message ks p) :
    ∃ S' p', ReflTransGen (Calm n side) S S' ∧ S'.procs n = some p' ∧ p'.task = .enabled := by
  induction hw : weight p.task using Nat.strong_induction_on generalizing S p with
  | _ w ih =>
      by_cases htask : p.task = .enabled
      · exact ⟨S, p, .refl, h.process, htask⟩
      · obtain ⟨p', dir, hacts, hlt⟩ := h.progress htask
        obtain ⟨S', p'', hrun, hp'', htask''⟩ := ih _ (hw ▸ hlt) (h.acts htask hacts) rfl
        exact ⟨S', p'', .head (.works p h.process htask (.acts p p' dir h.process hacts)) hrun, hp'', htask''⟩

/-- A scan of a directory that is attended finds the audience, each of it once. -/
theorem broadcasts_opendir (h : Inv S) (hp : S.procs n = some p) (hattended : Attended S p.side)
    (hnodup : names.Nodup) (hdir : names.toFinset = S.dir) (htask : p.task = .enabled)
    (message : List UInt8) :
    Broadcasts (S.put n (some { p with task := .scanning names ⟨[], [], []⟩ (some message) }) S.dir) n
        p.side p.pass.sent message ((processIDs p.side names).filter (· ∈ S.proc.running))
        { p with task := .scanning names ⟨[], [], []⟩ (some message) } ∧
      ((processIDs p.side names).filter (· ∈ S.proc.running)).Nodup := by
  have hfound : ∀ k ∈ processIDs p.side names, k ∈ S.proc.running → Listens S p.side k := by
    intro k hk hrun
    obtain ⟨-, name, hname, hparsed⟩ := mem_processIDs.mp hk
    exact hattended name (hdir ▸ List.mem_toFinset.mpr hname) k hparsed hrun
  have hbegins : Begins p.task (some message) := by
    rw [htask]
    trivial
  have hacts : Acts S n p { p with task := .scanning names ⟨[], [], []⟩ (some message) } S.dir :=
    .opendir names (some message) hbegins hnodup hdir
  refine ⟨⟨inv_acts h hp hacts, put_self .., rfl, ?_, fun k => ?_⟩, ?_⟩
  · refine .scanning names ⟨[], [], []⟩ rfl rfl ⟨[], ?_, .nil⟩
    exact (List.append_nil _).symm
  · rw [listens_put hp fun q hq => by rw [← Option.some.inj hq], List.mem_filter, decide_eq_true_iff]
    constructor
    · exact fun hk => hfound k hk.1 hk.2
    · rintro ⟨q, hq, hside, hlistening⟩
      have hnamed : q.task.Named := by
        cases ht : q.task <;> rw [ht] at hlistening <;> first | exact hlistening | trivial
      obtain ⟨hlo, hhi⟩ := h.range hq
      have hrun := (h.running k q hq).1
      have hparsed : parsedID q.side.other (ownName q.side k) = some k := parsedID_own hlo hhi
      have hother : q.side.other = p.side := by rw [hside]; cases p.side <;> rfl
      rw [hother] at hparsed
      refine ⟨mem_processIDs.mpr ⟨(S.proc.positive k hrun).ne', ownName q.side k, ?_, hparsed⟩, hrun⟩
      exact List.mem_toFinset.mp (hdir ▸ h.bound k q hq hnamed)
  · refine nodup_processIDs h hnodup hdir fun k hk hrun => ?_
    obtain ⟨q, hq, -⟩ := hfound k hk (of_decide_eq_true hrun)
    exact ⟨q, hq⟩

/-- While the processes of the other program neither leave nor join, a local broadcast
aborts nowhere, comes to its end, and has been sent once to each of them then,
whatever else happens on the host. -/
theorem broadcast_reaches {S₀ : Host} (hstart : Start S₀) (hrun : ReflTransGen Step S₀ S)
    (hp : S.procs n = some p) (htask : p.task = .enabled) (hattended : Attended S p.side)
    (hnodup : names.Nodup) (hdir : names.toFinset = S.dir) (message : List UInt8)
    (hcalm : ReflTransGen (Calm n p.side)
      (S.put n (some { p with task := .scanning names ⟨[], [], []⟩ (some message) }) S.dir) S') :
    ∃ p', S'.procs n = some p' ∧
      (p'.task = .enabled → ∃ ks : List Int, ks.Nodup ∧ (∀ k, k ∈ ks ↔ Listens S p.side k) ∧
        Sent p.pass.sent message p'.pass ks) ∧
      ∃ S'' p'', ReflTransGen (Calm n p.side) S' S'' ∧ S''.procs n = some p'' ∧ p''.task = .enabled := by
  have h := inv_reach hstart.inv hrun
  obtain ⟨hbegun, hks⟩ := broadcasts_opendir h hp hattended hnodup hdir htask message
  obtain ⟨p', h'⟩ := hbegun.run hcalm
  refine ⟨p', h'.process, fun htask' => ⟨_, hks, fun k => ?_, ?_⟩, h'.ends⟩
  · rw [hbegun.audience, listens_put hp fun q hq => by rw [← Option.some.inj hq]]
  · cases h'.stage with
    | enabled _ hsent => exact hsent
    | scanning _ _ ht | unlinking _ ht | sending _ _ ht =>
        rw [htask'] at ht
        cases ht

/-- A server with the number 57 broadcasts while a module with the number 42 listens. -/
theorem broadcast_reaches_one : ∃ S S' p p', ReflTransGen Step quiet S ∧ Listens S .server 42 ∧
    S.procs 57 = some p ∧ ReflTransGen (Calm 57 .server)
      (S.put 57 (some { p with task := .scanning S.dir.toList ⟨[], [], []⟩ (some [50, 64]) }) S.dir) S' ∧
    S'.procs 57 = some p' ∧ ∃ ks : List Int, ks.Nodup ∧ (∀ k, k ∈ ks ↔ Listens S .server k) ∧
      Sent p.pass.sent [50, 64] p'.pass ks := by
  have hnew : (42 : Int) ∉ quiet.used := by
    change (42 : Int) ∉ ({1} : Set Int)
    rw [Set.mem_singleton_iff]
    decide
  obtain ⟨S₁, hrun₁, hp₁, hdir₁, hused₁, -⟩ := can_join quiet .wrapper hnew (by decide) (by decide)
  have hnew₁ : (57 : Int) ∉ S₁.used := by
    rw [hused₁]
    change (57 : Int) ∉ insert 42 ({1} : Set Int)
    rw [Set.mem_insert_iff, Set.mem_singleton_iff]
    decide
  obtain ⟨S, hrun, hp, hdir, -, hothers⟩ := can_join S₁ .server hnew₁ (by decide) (by decide)
  have hlistens : Listens S .server 42 :=
    ⟨⟨.wrapper, .enabled, idlePass⟩, (hothers 42 (by decide)).trans hp₁, rfl, trivial⟩
  have hattended : Attended S .server := by
    intro name hname k hparsed _
    rcases Finset.mem_insert.mp (hdir hname) with rfl | hname
    · rw [parsedID_self] at hparsed
      cases hparsed
    · rcases Finset.mem_insert.mp (hdir₁ hname) with rfl | hname
      · obtain ⟨-, rfl⟩ := parsedID_ownName (by decide) (by decide) hparsed
        exact hlistens
      · exact absurd hname (Finset.notMem_empty name)
  have hnodup := Finset.nodup_toList S.dir
  have hnames := Finset.toList_toFinset S.dir
  obtain ⟨-, -, -, S', p', hcalm, hp', htask'⟩ := broadcast_reaches start_quiet (hrun₁.trans hrun) hp rfl
    hattended hnodup hnames [50, 64] .refl
  obtain ⟨p'', hp'', hsent, -⟩ := broadcast_reaches start_quiet (hrun₁.trans hrun) hp rfl hattended
    hnodup hnames [50, 64] hcalm
  obtain rfl := Option.some.inj (hp'.symm.trans hp'')
  exact ⟨S, S', _, p', hrun₁.trans hrun, hlistens, hp, hcalm, hp', hsent htask'⟩

end PyConnect.LocalDelivery

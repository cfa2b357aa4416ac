import Mathlib.Logic.Function.Basic
import Mathlib.Logic.Relation
import PyConnect.LocalBroadcast
import PyConnect.SocketScan

namespace PyConnect.Rendezvous

open Relation Decimal ObjComm LocalBroadcast SocketScan
open ClientList (ClientFD)

/-- PYCONNECT_SVRSOCKET_PREFIX of each program. -/
def svrSocketPrefix : Side → List Char
  | .server => ['p', 'y', 's', 'v', 'r']
  | .wrapper => ['p', 'y', 'c', 'l', 't']

/-- sun_path of the process with this number, of which `ownName` is the name in the
directory. -/
def ownName (side : Side) (n : Int) : List Char := svrSocketPrefix side ++ '.' :: decimal 5 n

def sunPath (side : Side) (n : Int) : List Char := domainSocketPath ++ '/' :: ownName side n

/-- Where a process is between two system calls. A scan is made to enable the
communication or, with its message, to broadcast. -/
inductive Task
  | idle
  | prepared
  | scanning (names : List (List Char)) (scan : Scan) (message : Option (List UInt8))
  | unlinking (dead live : List Int) (message : Option (List UInt8))
  | bound
  | enabled
  | sending (live : List Int) (message : List UInt8)
  | closed
  | finished

def Task.Named : Task → Prop
  | .scanning _ _ message | .unlinking _ _ message => message ≠ none
  | .bound | .enabled | .sending .. => True
  | _ => False

def Task.Listening : Task → Prop
  | .bound => False
  | task => task.Named

structure Process where
  side : Side
  task : Task
  pass : Pass

/-- The processes of a host, those of this library with what they are at, and the
names in the directory of the sockets. `used` are the numbers that processes have had
or that sockets bear. -/
structure Host where
  proc : Proc
  procs : Int → Option Process
  dir : Finset (List Char)
  used : Set Int

def unlink (dir : Finset (List Char)) (path : List Char) : Finset (List Char) :=
  dir.filter fun name => domainSocketPath ++ '/' :: name ≠ path

/-- A name is bound by the process whose number it bears, so who listens behind it is
that process. -/
def Listens (S : Host) (side : Side) (k : Int) : Prop :=
  ∃ q, S.procs k = some q ∧ q.side = side.other ∧ q.task.Listening

/-- What becomes of connecting to a process; descriptors do not run out. -/
def Truthful (S : Host) (side : Side) (k : Int) : Attempt → Prop
  | .noSocket => False
  | .refused _ => ¬ Listens S side k
  | .connected _ => Listens S side k

def Begins : Task → Option (List UInt8) → Prop
  | .prepared, none => True
  | .enabled, some _ => True
  | _, _ => False

/-- The next system call of a process, with what it makes of the process and of the
directory. The names that opendir finds are looked up in /proc one after the other. -/
inductive Acts (S : Host) (n : Int) (p : Process) : Process → Finset (List Char) → Prop
  | prepare : p.task = .idle →
      Acts S n p { p with task := .prepared } (unlink S.dir (sunPath p.side n))
  | opendir (names : List (List Char)) (message : Option (List UInt8)) : Begins p.task message →
      names.Nodup → names.toFinset = S.dir →
      Acts S n p { p with task := .scanning names ⟨[], [], []⟩ message } S.dir
  | look (name : List Char) (names : List (List Char)) (scan : Scan) (message : Option (List UInt8)) :
      p.task = .scanning (name :: names) scan message →
      Acts S n p { p with task := .scanning names (scanName p.side S.proc scan name) message } S.dir
  | closedir (scan : Scan) (message : Option (List UInt8)) : p.task = .scanning [] scan message →
      Acts S n p { p with task := .unlinking scan.dead scan.live message } S.dir
  | unlinkDead (d : Int) (dead live : List Int) (message : Option (List UInt8)) :
      p.task = .unlinking (d :: dead) live message →
      Acts S n p { p with task := .unlinking dead live message } (unlink S.dir (deadSocket p.side d))
  | bind (live : List Int) : p.task = .unlinking [] live none → ownName p.side n ∉ S.dir →
      Acts S n p { p with task := .bound } (insert (ownName p.side n) S.dir)
  | bindFails (live : List Int) : p.task = .unlinking [] live none →
      Acts S n p { p with task := .idle } S.dir
  | listen : p.task = .bound → Acts S n p { p with task := .enabled } S.dir
  | listenFails : p.task = .bound → Acts S n p { p with task := .idle } S.dir
  | dispatch (live : List Int) (message : List UInt8) : p.task = .unlinking [] live (some message) →
      Acts S n p { p with task := .sending live message } S.dir
  | send (k : Int) (live : List Int) (message : List UInt8) (o : Attempt) (P' : Pass) (fd : Int) :
      p.task = .sending (k :: live) message → Truthful S p.side k o →
      findOrCreateIPCTalker p.pass k o = .ok (P', fd) →
      Acts S n p { p with
        task := .sending live message
        pass := if fd ≠ invalidSocket then P'.send fd message else P' } S.dir
  | sent (message : List UInt8) : p.task = .sending [] message →
      Acts S n p { p with task := .enabled } S.dir
  | accept (fd : Nat) (P' : Pass) : p.task = .enabled →
      addFdToClientList p.pass ⟨fd, .localIPC, 0⟩ = .ok P' → Acts S n p { p with pass := P' } S.dir
  | destroyClient (before after : List ClientFD) (v : ClientFD) : p.task = .enabled →
      p.pass.clientFDList = before ++ v :: after →
      Acts S n p { p with pass := { p.pass with
        clientFDList := before ++ after
        masterFDSet := p.pass.masterFDSet.erase v.fd } } S.dir
  | disable : p.task = .enabled → Acts S n p { p with task := .closed } S.dir
  | cleanup : p.task = .closed →
      Acts S n p { p with task := .finished } (unlink S.dir (sunPath p.side n))

def Host.put (S : Host) (n : Int) (p : Option Process) (dir : Finset (List Char)) : Host :=
  { S with procs := Function.update S.procs n p, dir := dir }

/-- A step of one process, which aborts where it adds no valid channel. -/
inductive Works (S : Host) (n : Int) : Host → Prop
  | acts (p p' : Process) (dir : Finset (List Char)) : S.procs n = some p → Acts S n p p' dir →
      Works S n (S.put n (some p') dir)
  | aborts (p : Process) (k : Int) (live : List Int) (message : List UInt8) (o : Attempt) (P' : Pass) :
      S.procs n = some p → p.task = .sending (k :: live) message → Truthful S p.side k o →
      findOrCreateIPCTalker p.pass k o = .error P' → Works S n (S.put n none S.dir)

def idlePass : Pass := LocalBroadcast.start ⟨[], ∅, invalidSocket⟩

/-- The number of a process that starts has not been in use and no socket bears it.
Other programs leave the names alone that a scan would match. -/
inductive Step : Host → Host → Prop
  | works {S S' : Host} (n : Int) : Works S n S' → Step S S'
  | exit (S : Host) (n : Int) : Step S (S.put n none S.dir)
  | start (S : Host) (n : Int) (side : Side) (proc : Proc) : n ∉ S.used → n ≤ 99999 →
      proc.running = insert n S.proc.running →
      Step S { S.put n (some ⟨side, .idle, idlePass⟩) S.dir with
        proc := proc, used := insert n S.used }
  | others (S : Host) (proc : Proc) (dir : Finset (List Char)) :
      (∀ k ∈ proc.running, k ∉ S.proc.running → k ∉ S.used) →
      (∀ k p, S.procs k = some p → k ∈ proc.running) →
      (∀ name side k, parsedID side name = some k → (name ∈ dir ↔ name ∈ S.dir)) →
      Step S { S with proc := proc, dir := dir, used := S.used ∪ ↑proc.running }

/-- No process of this library runs yet; what sockets are left over bear numbers that
a scan has buffers for. -/
structure Start (S : Host) : Prop where
  procs : S.procs = fun _ => none
  running : ∀ k ∈ S.proc.running, k ∈ S.used
  names : ∀ name ∈ S.dir, ∀ side k, parsedID side name = some k → k ∈ S.used ∧ -9999 ≤ k ∧ k ≤ 99999

variable {S S' : Host} {n k d : Int} {p p' q : Process} {side : Side} {name path : List Char}
  {names : List (List Char)} {dir : Finset (List Char)} {scan : Scan} {dead live : List Int}
  {message : Option (List UInt8)}

theorem mem_unlink : name ∈ unlink dir path ↔ name ∈ dir ∧ domainSocketPath ++ '/' :: name ≠ path :=
  Finset.mem_filter

theorem path_inj {name' : List Char} :
    domainSocketPath ++ '/' :: name = domainSocketPath ++ '/' :: name' ↔ name = name' := by
  rw [List.append_cancel_left_eq, List.cons.injEq]
  exact and_iff_right rfl

theorem svrSocketPrefix_eq (side : Side) : svrSocketPrefix side = cltSocketPrefix side.other := by
  cases side <;> rfl

theorem ownName_inj {side' : Side} {m : Int} : ownName side n = ownName side' m ↔ side = side' ∧ n = m := by
  constructor
  · intro h
    have hlen : (svrSocketPrefix side).length = (svrSocketPrefix side').length := by
      cases side <;> cases side' <;> rfl
    obtain ⟨hpre, hnum⟩ := List.append_inj h hlen
    refine ⟨?_, decimal_injective 5 (List.cons.inj hnum).2⟩
    cases side <;> cases side' <;> first | rfl | cases hpre
  · rintro ⟨rfl, rfl⟩
    rfl

theorem deadSocket_eq (side : Side) (d : Int) : deadSocket side d = sunPath side.other d := by
  cases side <;> rfl

theorem parsedID_own (hlo : -2 ^ 31 ≤ n) (hhi : n < 2 ^ 31) :
    parsedID side.other (ownName side n) = some n := by
  rw [ownName, svrSocketPrefix_eq]
  exact parsedID_decimal side.other hlo hhi 5

theorem parsedID_self (side : Side) (n : Int) : parsedID side (ownName side n) = none := by
  have hpattern : socketPattern side = (cltSocketPrefix side ++ ['.']) ++ ['*'] := by
    rw [socketPattern, List.append_assoc]
    rfl
  have hlit : '*' ∉ cltSocketPrefix side ++ ['.'] := by cases side <;> decide
  rw [parsedID, hpattern, if_neg]
  rw [fnmatch_literal_star hlit]
  rintro ⟨tail, h⟩
  cases side <;> simp [cltSocketPrefix, ownName, svrSocketPrefix] at h

theorem parsedID_ownName {side' : Side} (hlo : -2 ^ 31 ≤ n) (hhi : n < 2 ^ 31)
    (h : parsedID side (ownName side' n) = some k) : side = side'.other ∧ k = n := by
  by_cases hside : side = side'
  · rw [hside, parsedID_self] at h
    cases h
  · have hother : side = side'.other := by
      cases side <;> cases side' <;> first | rfl | exact absurd rfl hside
    rw [hother, parsedID_own hlo hhi] at h
    exact ⟨hother, (Option.some.inj h).symm⟩

/-- What a process that scans has found is right, and stays so. -/
def Marked (S : Host) (side : Side) : Task → Prop
  | .scanning names scan _ => (∀ k ∈ processIDs side names, k ∈ S.used) ∧
      ∀ d ∈ scan.dead, d ∈ S.used ∧ d ∉ S.proc.running
  | .unlinking dead _ _ => ∀ d ∈ dead, d ∈ S.used ∧ d ∉ S.proc.running
  | _ => True

def Valid (P : Pass) : Prop := ∀ v ∈ P.clientFDList, v.fd ≠ invalidSocket

structure Inv (S : Host) : Prop where
  running : ∀ n p, S.procs n = some p → n ∈ S.proc.running ∧ n ≤ 99999
  used : ∀ k ∈ S.proc.running, k ∈ S.used
  names : ∀ name ∈ S.dir, ∀ side k, parsedID side name = some k → k ∈ S.used
  own : ∀ name ∈ S.dir, ∀ side k q, parsedID side name = some k → S.procs k = some q →
    name = ownName q.side k
  bound : ∀ n p, S.procs n = some p → p.task.Named → ownName p.side n ∈ S.dir
  marked : ∀ n p, S.procs n = some p → Marked S p.side p.task
  valid : ∀ n p, S.procs n = some p → Valid p.pass

structure Kept (S : Host) (n : Int) (p p' : Process) (dir : Finset (List Char)) : Prop where
  side : p'.side = p.side
  names : ∀ name ∈ dir, name ∈ S.dir ∨ name = ownName p.side n
  others : ∀ m q, m ≠ n → S.procs m = some q → q.task.Named → ownName q.side m ∈ dir
  bound : p'.task.Named → ownName p.side n ∈ dir
  marked : Marked S p.side p'.task
  valid : Valid p'.pass

theorem Inv.range (h : Inv S) (hp : S.procs n = some p) : -2 ^ 31 ≤ n ∧ n < 2 ^ 31 := by
  obtain ⟨hrun, hle⟩ := h.running n p hp
  have hpos := S.proc.positive n hrun
  omega

theorem Kept.of_dir (h : Inv S) {dir : Finset (List Char)} (hdir : dir = S.dir) (hside : p'.side = p.side)
    (hbound : p'.task.Named → ownName p.side n ∈ S.dir) (hmarked : Marked S p.side p'.task)
    (hvalid : Valid p'.pass) : Kept S n p p' dir := by
  subst hdir
  exact ⟨hside, fun _ hname => .inl hname, fun m q _ hq hnamed => h.bound m q hq hnamed, hbound,
    hmarked, hvalid⟩

theorem Kept.of_unlinkOwn (h : Inv S) (hside : p'.side = p.side) (hnamed : ¬ p'.task.Named)
    (hmarked : Marked S p.side p'.task) (hvalid : Valid p'.pass) :
    Kept S n p p' (unlink S.dir (sunPath p.side n)) where
  side := hside
  names _ hname := .inl (mem_unlink.mp hname).1
  others m q hne hq hq' := by
    refine mem_unlink.mpr ⟨h.bound m q hq hq', fun heq => hne ?_⟩
    exact (ownName_inj.mp (path_inj.mp heq)).2
  bound hp' := absurd hp' hnamed
  marked := hmarked
  valid := hvalid

theorem processIDs_used (h : Inv S) (hdir : names.toFinset = S.dir) :
    ∀ k ∈ processIDs side names, k ∈ S.used := by
  intro k hk
  obtain ⟨-, name, hname, hparsed⟩ := mem_processIDs.mp hk
  exact h.names name (hdir ▸ List.mem_toFinset.mpr hname) side k hparsed

theorem marked_look (hmarked : Marked S side (.scanning (name :: names) scan message)) :
    Marked S side (.scanning names (scanName side S.proc scan name) message) := by
  obtain ⟨hnames, hdead⟩ := hmarked
  refine ⟨fun k hk => hnames k ?_, fun d hd => ?_⟩
  · rw [processIDs_cons]
    exact List.mem_append_right _ hk
  · rw [scanName_eq] at hd
    rcases List.mem_append.mp hd with hd | hd
    · exact hdead d hd
    · obtain ⟨hd, hrun⟩ := List.mem_filter.mp hd
      refine ⟨hnames d ?_, of_decide_eq_true hrun⟩
      rw [processIDs_cons]
      exact List.mem_append_left _ hd

theorem valid_append {P P' : Pass} {v : ClientFD} (h : Valid P) (hv : v.fd ≠ invalidSocket)
    (hP : P'.clientFDList = P.clientFDList ++ [v]) : Valid P' := by
  intro w hw
  rw [hP] at hw
  rcases List.mem_append.mp hw with hw | hw
  · exact h w hw
  · rwa [List.mem_singleton.mp hw]

theorem Valid.channel {P : Pass} (h : Valid P) (k : Int) :
    channel P.clientFDList k ≠ some invalidSocket := by
  intro hk
  obtain ⟨v, hv, hfd⟩ := Option.map_eq_some_iff.mp hk
  exact h v (List.mem_of_find?_eq_some hv) hfd

/-- What a connection that is found or made is good for. -/
structure Reached (P P' : Pass) (k fd : Int) : Prop where
  valid_fd : fd ≠ invalidSocket
  channel : channel P'.clientFDList k = some fd
  kept : ∀ j fd', LocalBroadcast.channel P.clientFDList j = some fd' →
    LocalBroadcast.channel P'.clientFDList j = some fd'
  sent : P'.sent = P.sent
  valid : Valid P'

theorem reached_ok {P P' : Pass} {o : Attempt} {fd : Int} (h : Valid P) (ho : Truthful S side k o)
    (hrun : findOrCreateIPCTalker P k o = .ok (P', fd)) : Reached P P' k fd := by
  cases hchannel : channel P.clientFDList k with
  | some fd' =>
      have hfd' : fd' ≠ invalidSocket := fun heq => h.channel k (heq ▸ hchannel)
      rw [findOrCreate_found hchannel hfd'] at hrun
      obtain ⟨rfl, rfl⟩ := Prod.mk.inj (Except.ok.inj hrun)
      exact ⟨hfd', hchannel, fun _ _ hj => hj, rfl, h⟩
  | none =>
      cases o with
      | noSocket => exact ho.elim
      | refused fd' =>
          rw [findOrCreate_refused hchannel] at hrun
          cases hrun
      | connected fd' =>
          rw [findOrCreate_connected hchannel] at hrun
          obtain ⟨rfl, rfl⟩ := Prod.mk.inj (Except.ok.inj hrun)
          refine ⟨natCast_ne_invalid fd', channel_connect_self hchannel fd', fun j fd hj => ?_, rfl,
            valid_append h (natCast_ne_invalid fd') rfl⟩
          rw [channel_connect, hj, Option.some_or]

theorem acts_kept (h : Inv S) (hp : S.procs n = some p) (hacts : Acts S n p p' dir) :
    Kept S n p p' dir := by
  have hvalid := h.valid n p hp
  have hmarked := h.marked n p hp
  have hbound := h.bound n p hp
  cases hacts with
  | prepare _ => exact .of_unlinkOwn h rfl id trivial hvalid
  | opendir names message hbegins _ hdir =>
      refine .of_dir h rfl rfl (fun hnamed => hbound ?_) ⟨processIDs_used h hdir, ?_⟩ hvalid
      · cases htask : p.task <;> rw [htask] at hbegins <;> cases message <;> first
          | exact hbegins.elim
          | exact absurd rfl hnamed
          | trivial
      · exact fun d hd => absurd hd List.not_mem_nil
  | look name names scan message htask =>
      rw [htask] at hmarked hbound
      exact .of_dir h rfl rfl hbound (marked_look hmarked) hvalid
  | closedir scan message htask =>
      rw [htask] at hmarked hbound
      exact .of_dir h rfl rfl hbound hmarked.2 hvalid
  | unlinkDead d dead live message htask =>
      rw [htask] at hmarked hbound
      obtain ⟨-, hd⟩ := hmarked d List.mem_cons_self
      have hkeep : ∀ m q, S.procs m = some q → q.task.Named →
          ownName q.side m ∈ unlink S.dir (deadSocket p.side d) := by
        intro m q hq hnamed
        refine mem_unlink.mpr ⟨h.bound m q hq hnamed, fun heq => hd ?_⟩
        rw [deadSocket_eq] at heq
        rw [← (ownName_inj.mp (path_inj.mp heq)).2]
        exact (h.running m q hq).1
      refine ⟨rfl, fun _ hname => .inl (mem_unlink.mp hname).1, fun m q _ => hkeep m q,
        fun hnamed => hkeep n p hp ?_, fun d hd => hmarked d (List.mem_cons_of_mem _ hd), hvalid⟩
      rw [htask]
      exact hnamed
  | bind live _ hnot =>
      refine ⟨rfl, fun name hname => ?_, fun m q _ hq hnamed => ?_, fun _ => Finset.mem_insert_self ..,
        trivial, hvalid⟩
      · rcases Finset.mem_insert.mp hname with hname | hname
        · exact .inr hname
        · exact .inl hname
      · exact Finset.mem_insert_of_mem (h.bound m q hq hnamed)
  | bindFails live _ => exact .of_dir h rfl rfl False.elim trivial hvalid
  | listen htask =>
      rw [htask] at hbound
      exact .of_dir h rfl rfl hbound trivial hvalid
  | listenFails _ => exact .of_dir h rfl rfl False.elim trivial hvalid
  | dispatch live message htask =>
      rw [htask] at hbound
      exact .of_dir h rfl rfl (fun _ => hbound (Option.some_ne_none message)) trivial hvalid
  | send k live message o P' fd htask ho hrun =>
      rw [htask] at hbound
      have hreached := reached_ok hvalid ho hrun
      refine .of_dir h rfl rfl hbound trivial ?_
      rw [if_pos hreached.valid_fd]
      exact hreached.valid
  | sent message htask =>
      rw [htask] at hbound
      exact .of_dir h rfl rfl hbound trivial hvalid
  | accept fd P' htask hadd =>
      rw [htask] at hbound
      refine .of_dir h rfl rfl (fun _ => hbound trivial) (by rw [htask]; trivial) ?_
      rw [LocalBroadcast.addFdToClientList, setLastUsed_valid (natCast_ne_invalid fd)] at hadd
      obtain rfl := Except.ok.inj hadd
      exact valid_append hvalid (natCast_ne_invalid fd) rfl
  | destroyClient before after v htask hlist =>
      rw [htask] at hbound
      refine .of_dir h rfl rfl (fun _ => hbound trivial) (by rw [htask]; trivial) fun w hw => hvalid w ?_
      rw [hlist]
      rcases List.mem_append.mp hw with hw | hw
      · exact List.mem_append_left _ hw
      · exact List.mem_append_right _ (List.mem_cons_of_mem v hw)
  | disable _ => exact .of_dir h rfl rfl False.elim trivial hvalid
  | cleanup _ => exact .of_unlinkOwn h rfl id trivial hvalid

theorem put_self (S : Host) (n : Int) (p : Option Process) (dir : Finset (List Char)) :
    (S.put n p dir).procs n = p := Function.update_self ..

theorem put_ne (S : Host) {m : Int} (hne : m ≠ n) (p : Option Process) (dir : Finset (List Char)) :
    (S.put n p dir).procs m = S.procs m := Function.update_of_ne hne ..

theorem inv_acts (h : Inv S) (hp : S.procs n = some p) (hacts : Acts S n p p' dir) :
    Inv (S.put n (some p') dir) := by
  have hkept := acts_kept h hp hacts
  obtain ⟨hlo, hhi⟩ := h.range hp
  -- a process that is there was there before, and it keeps its program
  have hold : ∀ m q, (S.put n (some p') dir).procs m = some q →
      ∃ r, S.procs m = some r ∧ r.side = q.side := by
    intro m q hq
    by_cases hm : m = n
    · subst hm
      rw [put_self] at hq
      obtain rfl := Option.some.inj hq
      exact ⟨p, hp, hkept.side.symm⟩
    · rw [put_ne S hm] at hq
      exact ⟨q, hq, rfl⟩
  refine ⟨fun m q hq => ?_, h.used, fun name hname side k hparsed => ?_,
    fun name hname side k q hparsed hq => ?_, fun m q hq hnamed => ?_, fun m q hq => ?_, fun m q hq => ?_⟩
  · obtain ⟨r, hr, -⟩ := hold m q hq
    exact h.running m r hr
  · rcases hkept.names name hname with hname | rfl
    · exact h.names name hname side k hparsed
    · rw [(parsedID_ownName hlo hhi hparsed).2]
      exact h.used n (h.running n p hp).1
  · obtain ⟨r, hr, hside⟩ := hold k q hq
    rw [← hside]
    rcases hkept.names name hname with hname | rfl
    · exact h.own name hname side k r hparsed hr
    · obtain rfl := (parsedID_ownName hlo hhi hparsed).2
      obtain rfl := Option.some.inj (hp.symm.trans hr)
      rfl
  · by_cases hm : m = n
    · subst hm
      rw [put_self] at hq
      obtain rfl := Option.some.inj hq
      rw [hkept.side]
      exact hkept.bound hnamed
    · rw [put_ne S hm] at hq
      exact hkept.others m q hm hq hnamed
  · by_cases hm : m = n
    · subst hm
      rw [put_self] at hq
      obtain rfl := Option.some.inj hq
      rw [hkept.side]
      exact hkept.marked
    · rw [put_ne S hm] at hq
      exact h.marked m q hq
  · by_cases hm : m = n
    · subst hm
      rw [put_self] at hq
      obtain rfl := Option.some.inj hq
      exact hkept.valid
    · rw [put_ne S hm] at hq
      exact h.valid m q hq

theorem inv_gone (h : Inv S) (n : Int) : Inv (S.put n none S.dir) := by
  have hold : ∀ m q, (S.put n none S.dir).procs m = some q → S.procs m = some q := by
    intro m q hq
    by_cases hm : m = n
    · subst hm
      rw [put_self] at hq
      cases hq
    · rwa [put_ne S hm] at hq
  exact ⟨fun m q hq => h.running m q (hold m q hq), h.used, h.names,
    fun name hname side k q hparsed hq => h.own name hname side k q hparsed (hold k q hq),
    fun m q hq => h.bound m q (hold m q hq), fun m q hq => h.marked m q (hold m q hq),
    fun m q hq => h.valid m q (hold m q hq)⟩

theorem marked_mono {task : Task} (hused : S.used ⊆ S'.used)
    (hrunning : ∀ k ∈ S.used, k ∈ S'.proc.running → k ∈ S.proc.running) (h : Marked S side task) :
    Marked S' side task := by
  have hdead : ∀ d, d ∈ S.used ∧ d ∉ S.proc.running → d ∈ S'.used ∧ d ∉ S'.proc.running :=
    fun d hd => ⟨hused hd.1, fun hrun => hd.2 (hrunning d hd.1 hrun)⟩
  cases task with
  | scanning names scan message =>
      exact ⟨fun k hk => hused (h.1 k hk), fun d hd => hdead d (h.2 d hd)⟩
  | unlinking dead live message => exact fun d hd => hdead d (h d hd)
  | _ => trivial

theorem inv_start (h : Inv S) (n : Int) (side : Side) (proc : Proc) (hnew : n ∉ S.used)
    (hle : n ≤ 99999) (hproc : proc.running = insert n S.proc.running) :
    Inv { S.put n (some ⟨side, .idle, idlePass⟩) S.dir with
      proc := proc, used := insert n S.used } := by
  have hcases : ∀ m q, (S.put n (some ⟨side, .idle, idlePass⟩) S.dir).procs m = some q →
      (m = n ∧ q = ⟨side, .idle, idlePass⟩) ∨ S.procs m = some q := by
    intro m q hq
    by_cases hm : m = n
    · subst hm
      rw [put_self] at hq
      exact .inl ⟨rfl, (Option.some.inj hq).symm⟩
    · rw [put_ne S hm] at hq
      exact .inr hq
  refine ⟨fun m q hq => ?_, fun k hk => ?_, fun name hname side' k hparsed => ?_,
    fun name hname side' k q hparsed hq => ?_, fun m q hq hnamed => ?_, fun m q hq => ?_, fun m q hq => ?_⟩
  · dsimp only
    rw [hproc]
    rcases hcases m q hq with ⟨rfl, rfl⟩ | hq
    · exact ⟨Finset.mem_insert_self .., hle⟩
    · exact ⟨Finset.mem_insert_of_mem (h.running m q hq).1, (h.running m q hq).2⟩
  · dsimp only at hk ⊢
    rw [hproc] at hk
    rcases Finset.mem_insert.mp hk with rfl | hk
    · exact Set.mem_insert ..
    · exact Set.mem_insert_of_mem n (h.used k hk)
  · exact Set.mem_insert_of_mem n (h.names name hname side' k hparsed)
  · rcases hcases k q hq with ⟨rfl, -⟩ | hq
    · exact absurd (h.names name hname side' k hparsed) hnew
    · exact h.own name hname side' k q hparsed hq
  · rcases hcases m q hq with ⟨rfl, rfl⟩ | hq
    · exact hnamed.elim
    · exact h.bound m q hq hnamed
  · rcases hcases m q hq with ⟨rfl, rfl⟩ | hq
    · trivial
    · refine marked_mono (Set.subset_insert n S.used) (fun k hk hrun => ?_) (h.marked m q hq)
      dsimp only at hrun
      rw [hproc] at hrun
      rcases Finset.mem_insert.mp hrun with rfl | hrun
      · exact absurd hk hnew
      · exact hrun
  · rcases hcases m q hq with ⟨rfl, rfl⟩ | hq
    · exact fun v hv => absurd hv List.not_mem_nil
    · exact h.valid m q hq

theorem inv_others (h : Inv S) (proc : Proc) (dir : Finset (List Char))
    (hnew : ∀ k ∈ proc.running, k ∉ S.proc.running → k ∉ S.used)
    (hprocs : ∀ k p, S.procs k = some p → k ∈ proc.running)
    (hdir : ∀ name side k, parsedID side name = some k → (name ∈ dir ↔ name ∈ S.dir)) :
    Inv { S with proc := proc, dir := dir, used := S.used ∪ ↑proc.running } := by
  refine ⟨fun m q hq => ⟨hprocs m q hq, (h.running m q hq).2⟩, fun k hk => .inr hk,
    fun name hname side k hparsed => ?_, fun name hname side k q hparsed hq => ?_,
    fun m q hq hnamed => ?_, fun m q hq => ?_, h.valid⟩
  · exact .inl (h.names name ((hdir name side k hparsed).mp hname) side k hparsed)
  · exact h.own name ((hdir name side k hparsed).mp hname) side k q hparsed hq
  · obtain ⟨hlo, hhi⟩ := h.range hq
    exact (hdir _ _ _ (parsedID_own hlo hhi)).mpr (h.bound m q hq hnamed)
  · refine marked_mono Set.subset_union_left (fun k hk hrun => ?_) (h.marked m q hq)
    by_contra hnot
    exact hnew k hrun hnot hk

theorem inv_works (h : Inv S) (hworks : Works S n S') : Inv S' := by
  cases hworks with
  | acts p p' dir hp hacts => exact inv_acts h hp hacts
  | aborts p k live message o P' hp htask ho hrun => exact inv_gone h n

theorem inv_step (h : Inv S) (hstep : Step S S') : Inv S' := by
  cases hstep with
  | works n hworks => exact inv_works h hworks
  | exit n => exact inv_gone h n
  | start n side proc hnew hle hproc => exact inv_start h n side proc hnew hle hproc
  | others proc dir hnew hprocs hdir => exact inv_others h proc dir hnew hprocs hdir

theorem Start.inv (h : Start S) : Inv S := by
  have hnone : ∀ n p, S.procs n = some p → False := by
    intro n p hp
    rw [h.procs] at hp
    cases hp
  exact ⟨fun n p hp => (hnone n p hp).elim, h.running,
    fun name hname side k hparsed => (h.names name hname side k hparsed).1,
    fun _ _ _ k q _ hq => (hnone k q hq).elim, fun n p hp => (hnone n p hp).elim,
    fun n p hp => (hnone n p hp).elim, fun n p hp => (hnone n p hp).elim⟩

theorem inv_reach {S₀ : Host} (h : Inv S₀) (hrun : ReflTransGen Step S₀ S) : Inv S := by
  induction hrun with
  | refl => exact h
  | tail _ hstep ih => exact inv_step ih hstep

def Moves (n : Int) : Host → Host → Prop := ReflTransGen fun S S' => Works S n S'

theorem Moves.run (h : Moves n S S') : ReflTransGen Step S S' := by
  induction h with
  | refl => exact .refl
  | tail _ hworks ih => exact ih.tail (.works n hworks)

theorem Moves.others (h : Moves n S S') : S'.proc = S.proc ∧ S'.used = S.used ∧
    ∀ m, m ≠ n → S'.procs m = S.procs m := by
  induction h with
  | refl => exact ⟨rfl, rfl, fun _ _ => rfl⟩
  | tail _ hworks ih =>
      cases hworks with
      | acts p p' dir hp hacts => exact ⟨ih.1, ih.2.1, fun m hm => (put_ne _ hm ..).trans (ih.2.2 m hm)⟩
      | aborts p k live message o P' hp htask ho hrun =>
          exact ⟨ih.1, ih.2.1, fun m hm => (put_ne _ hm ..).trans (ih.2.2 m hm)⟩

theorem Moves.acts (hp : S.procs n = some p) (hacts : Acts S n p p' dir)
    (h : Moves n (S.put n (some p') dir) S') : Moves n S S' :=
  .head (.acts p p' dir hp hacts) h

theorem can_scan {P : Pass} (message : Option (List UInt8)) (names : List (List Char)) :
    ∀ (scan : Scan) (S : Host), S.procs n = some ⟨side, .scanning names scan message, P⟩ →
      ∃ dead live S', Moves n S S' ∧ S'.procs n = some ⟨side, .unlinking dead live message, P⟩ ∧
        S'.dir = S.dir := by
  induction names with
  | nil =>
      intro scan S hp
      exact ⟨scan.dead, scan.live, _, .acts hp (.closedir scan message rfl) .refl, put_self .., rfl⟩
  | cons name names ih =>
      intro scan S hp
      obtain ⟨dead, live, S', hmoves, hp', hdir⟩ := ih _ (S.put n (some _) S.dir) (put_self ..)
      exact ⟨dead, live, S', .acts hp (.look name names scan message rfl) hmoves, hp', hdir⟩

theorem can_unlink {P : Pass} (live : List Int) (message : Option (List UInt8)) (dead : List Int) :
    ∀ S : Host, S.procs n = some ⟨side, .unlinking dead live message, P⟩ →
      ∃ S', Moves n S S' ∧ S'.procs n = some ⟨side, .unlinking [] live message, P⟩ ∧ S'.dir ⊆ S.dir := by
  induction dead with
  | nil => exact fun S hp => ⟨S, .refl, hp, subset_rfl⟩
  | cons d dead ih =>
      intro S hp
      obtain ⟨S', hmoves, hp', hdir⟩ := ih (S.put n (some _) (unlink S.dir (deadSocket side d))) (put_self ..)
      exact ⟨S', .acts hp (.unlinkDead d dead live message rfl) hmoves, hp',
        hdir.trans (Finset.filter_subset ..)⟩

theorem can_enable {P : Pass} (hp : S.procs n = some ⟨side, .idle, P⟩) :
    ∃ S', Moves n S S' ∧ S'.procs n = some ⟨side, .enabled, P⟩ ∧ S'.dir ⊆ insert (ownName side n) S.dir := by
  let dir := unlink S.dir (sunPath side n)
  obtain ⟨dead, live, S₁, hmoves₁, hp₁, hdir₁⟩ := can_scan none dir.toList ⟨[], [], []⟩
    ((S.put n (some ⟨side, .prepared, P⟩) dir).put n
      (some ⟨side, .scanning dir.toList ⟨[], [], []⟩ none, P⟩) dir) (put_self ..)
  obtain ⟨S₂, hmoves₂, hp₂, hdir₂⟩ := can_unlink live none dead S₁ hp₁
  have hsub : S₂.dir ⊆ dir := hdir₂.trans hdir₁.subset
  have hnot : ownName side n ∉ S₂.dir := fun h => (mem_unlink.mp (hsub h)).2 rfl
  have hbind : Moves n S₂ ((S₂.put n (some ⟨side, .bound, P⟩) (insert (ownName side n) S₂.dir)).put n
      (some ⟨side, .enabled, P⟩) (insert (ownName side n) S₂.dir)) :=
    .acts hp₂ (.bind live rfl hnot) (.acts (put_self ..) (.listen rfl) .refl)
  refine ⟨_, .acts hp (.prepare rfl) (.acts (put_self ..)
    (.opendir dir.toList none trivial (Finset.nodup_toList dir) (Finset.toList_toFinset dir))
    (hmoves₁.trans (hmoves₂.trans hbind))), put_self .., ?_⟩
  exact Finset.insert_subset_insert _ (hsub.trans (Finset.filter_subset ..))

theorem nodup_processIDs (h : Inv S) (hnodup : names.Nodup) (hdir : names.toFinset = S.dir)
    {r : Int → Bool} (hprocs : ∀ k ∈ processIDs side names, r k = true → ∃ q, S.procs k = some q) :
    ((processIDs side names).filter r).Nodup := by
  rw [processIDs, List.filter_filter, List.filter_filterMap, List.Nodup, List.pairwise_filterMap]
  refine hnodup.imp_of_mem fun {a a'} ha ha' hne k hk k' hk' heq => hne ?_
  subst heq
  obtain ⟨hparsed, hr⟩ := Option.filter_eq_some_iff.mp hk
  obtain ⟨hparsed', -⟩ := Option.filter_eq_some_iff.mp hk'
  obtain ⟨hr, h0⟩ := Bool.and_eq_true_iff.mp hr
  have hmem : k ∈ processIDs side names := mem_processIDs.mpr ⟨of_decide_eq_true h0, a, ha, hparsed⟩
  obtain ⟨q, hq⟩ := hprocs k hmem hr
  have ha := hdir ▸ List.mem_toFinset.mpr ha
  have ha' := hdir ▸ List.mem_toFinset.mpr ha'
  rw [h.own a ha side k q hparsed hq, h.own a' ha' side k q hparsed' hq]

/-- Whatever the processes of a host are at and whenever they come and go, none of
them loses its name to another's scan: each scan finds it once. -/
theorem names_kept {S₀ : Host} (hstart : Start S₀) (hrun : ReflTransGen Step S₀ S)
    (hp : S.procs n = some p) (hnamed : p.task.Named) :
    ownName p.side n ∈ S.dir ∧ ∀ names before, names.Nodup → names.toFinset = S.dir →
      (consolidateIPCSockets p.side.other S.proc before (some names)).liveServerSocketList.count n = 1 ∧
        sunPath p.side n ∉ (consolidateIPCSockets p.side.other S.proc before (some names)).unlinked := by
  have h := inv_reach hstart.inv hrun
  have hbound := h.bound n p hp hnamed
  refine ⟨hbound, fun names before hnodup hdir => ?_⟩
  obtain ⟨hlo, hhi⟩ := h.range hp
  have hrunning := (h.running n p hp).1
  have hmem : n ∈ processIDs p.side.other names := by
    refine mem_processIDs.mpr ⟨(S.proc.positive n hrunning).ne', ownName p.side n, ?_, parsedID_own hlo hhi⟩
    exact List.mem_toFinset.mp (hdir ▸ hbound)
  rw [consolidate_eq]
  constructor
  · have hsome : (S.procs n).isSome = true := by
      rw [hp]
      rfl
    have hnodup' := nodup_processIDs (r := fun k => (S.procs k).isSome) h hnodup hdir
      fun (k : Int) (_ : k ∈ processIDs p.side.other names) hk => Option.isSome_iff_exists.mp hk
    have hone := List.count_eq_one_of_mem hnodup' (List.mem_filter.mpr ⟨hmem, hsome⟩)
    dsimp only
    rw [List.count_filter]
    · rwa [List.count_filter] at hone
      exact hsome
    · exact decide_eq_true hrunning
  · intro hpath
    obtain ⟨d, hd, heq⟩ := List.mem_map.mp hpath
    rw [deadSocket_eq] at heq
    obtain ⟨-, rfl⟩ := ownName_inj.mp (path_inj.mp heq)
    exact of_decide_eq_true (List.mem_filter.mp hd).2 hrunning

def quiet : Host := ⟨Proc.ofList [1] (by decide), fun _ => none, ∅, {1}⟩

theorem start_quiet : Start quiet where
  procs := rfl
  running k hk := by
    rw [List.mem_singleton.mp (List.mem_toFinset.mp hk)]
    exact Set.mem_singleton 1
  names name hname := absurd hname (Finset.notMem_empty name)

theorem can_join (S : Host) (side : Side) (hnew : n ∉ S.used) (hpos : 0 < n) (hle : n ≤ 99999) :
    ∃ S', ReflTransGen Step S S' ∧ S'.procs n = some ⟨side, .enabled, idlePass⟩ ∧
      S'.dir ⊆ insert (ownName side n) S.dir ∧ S'.used = insert n S.used ∧
        ∀ m, m ≠ n → S'.procs m = S.procs m := by
  have hall : ∀ k ∈ n :: S.proc.running.toList, 0 < k := by
    intro k hk
    rcases List.mem_cons.mp hk with rfl | hk
    · exact hpos
    · exact S.proc.positive k (Finset.mem_toList.mp hk)
  let proc := Proc.ofList (n :: S.proc.running.toList) hall
  have hproc : proc.running = insert n S.proc.running := by
    change (n :: S.proc.running.toList).toFinset = _
    rw [List.toFinset_cons, Finset.toList_toFinset]
  let S₁ : Host := { S.put n (some ⟨side, .idle, idlePass⟩) S.dir with
    proc := proc, used := insert n S.used }
  have hp₁ : S₁.procs n = some ⟨side, .idle, idlePass⟩ := put_self S n _ S.dir
  obtain ⟨S', hmoves, hp, hdir⟩ := can_enable hp₁
  obtain ⟨-, hused, hothers⟩ := hmoves.others
  exact ⟨S', .head (.start S n side proc hnew hle hproc) hmoves.run, hp, hdir, hused,
    fun m hm => (hothers m hm).trans (put_ne S hm _ S.dir)⟩

/-- A module with the number 42 has enabled the communication. -/
theorem names_kept_one : ∃ S, ReflTransGen Step quiet S ∧ ownName .wrapper 42 ∈ S.dir ∧
    ∀ names before, names.Nodup → names.toFinset = S.dir →
      (consolidateIPCSockets .server S.proc before (some names)).liveServerSocketList.count 42 = 1 ∧
        sunPath .wrapper 42 ∉ (consolidateIPCSockets .server S.proc before (some names)).unlinked := by
  have hnew : (42 : Int) ∉ quiet.used := by
    change (42 : Int) ∉ ({1} : Set Int)
    rw [Set.mem_singleton_iff]
    decide
  obtain ⟨S, hrun, hp, -⟩ := can_join quiet .wrapper hnew (by decide) (by decide)
  obtain ⟨hmem, hscan⟩ := names_kept start_quiet hrun hp trivial
  exact ⟨S, hrun, hmem, hscan⟩

end PyConnect.Rendezvous

import PyConnect.Delivery
import PyConnect.ObjComm
import PyConnect.Runs

namespace PyConnect.Senders

open Common ObjComm Framing Runs
open Delivery (msgEndecryptBufferSize)

/-- The threads that send: that of the Python interpreter, and the one of
ioprocess_thread. -/
inductive Thread
  | python
  | ioprocess
  deriving DecidableEq

structure Program where
  side : Side
  bigEndian : Bool
  encrypt : List UInt8 → List UInt8

/-- A clientDataSend between its two steps: it knows its message and the length
of the ciphertext; the ciphertext itself is in encryptbuffer. -/
structure Pending where
  data : List UInt8
  outputLength : Nat

/-- A write. `comm` is where the channel was found. -/
structure Sent where
  comm : ObjectComm
  data : List UInt8
  mysock : Int
  bytes : List UInt8

/-- `encrypted` remembers the message that was encrypted last, and `overrun` that
some ciphertext was too long for a buffer; the code has neither. -/
structure System where
  comm : ObjectComm
  encryptbuffer : List UInt8
  encrypted : List UInt8
  pending : Thread → Option Pending
  sent : List Sent
  overrun : Bool

/-- The steps, each under a lock of its own. Whatever else is done under g_mutex
changes the channels and nothing of a send. -/
inductive Event
  | encryptMessage (t : Thread) (data : List UInt8)
  | dispatch (t : Thread)
  | objectComm (comm : ObjectComm)

/-- encryptbuffer after it has been cleared and a message encrypted into it. -/
def Program.filled (P : Program) (data : List UInt8) : List UInt8 :=
  P.encrypt data ++ List.replicate (msgEndecryptBufferSize - (P.encrypt data).length) 0

def step (P : Program) (S : System) : Event → Option System
  | .encryptMessage t data =>
      if data = [] ∨ (S.pending t).isSome then none
      else some { S with
        encryptbuffer := P.filled data
        encrypted := data
        pending := Function.update S.pending t (some ⟨data, (P.encrypt data).length⟩)
        overrun := S.overrun || decide (msgEndecryptBufferSize < (P.encrypt data).length) }
  | .dispatch t => (S.pending t).map fun p =>
      let (comm, mysock) := findOrAddCommChanByMsgID P.side S.comm p.data
      let S' := { S with comm := comm, pending := Function.update S.pending t none }
      if mysock = invalidSocket then S'
      else { S' with
        sent := S.sent ++ [⟨S.comm, p.data, mysock,
          frame P.bigEndian (S.encryptbuffer.take p.outputLength)⟩]
        overrun := S.overrun || decide (msgBufferSize < p.outputLength + 4) }
  | .objectComm comm => some { S with comm := comm }

def start (comm : ObjectComm) (encryptbuffer : List UInt8) : System where
  comm := comm
  encryptbuffer := encryptbuffer
  encrypted := []
  pending _ := none
  sent := []
  overrun := false

/-- What is written for a send is the frame of its own ciphertext, and it is
written to the channel of its message. -/
def Own (P : Program) (x : Sent) : Prop :=
  x.mysock = (findOrAddCommChanByMsgID P.side x.comm x.data).2 ∧
    x.bytes = frame P.bigEndian (P.encrypt x.data)

def Separate (P : Program) (S : System) : Prop := S.overrun = false ∧ ∀ x ∈ S.sent, Own P x

/-- A step that mixes nothing. A ciphertext fits its buffer; and when it is
written, the message that was encrypted last has a ciphertext that begins with
it, as its own has. -/
def Undisturbed (P : Program) (S : System) (e : Event) (_ : System) : Prop :=
  match e with
  | .encryptMessage _ data => (P.encrypt data).length ≤ msgEndecryptBufferSize
  | .dispatch t => ∀ p ∈ S.pending t,
      (findOrAddCommChanByMsgID P.side S.comm p.data).2 ≠ invalidSocket →
        (P.encrypt p.data).length + 4 ≤ msgBufferSize ∧ P.encrypt p.data <+: P.filled S.encrypted
  | .objectComm _ => True

def Ready (P : Program) (S : System) : Prop :=
  ∀ t, ∀ p ∈ S.pending t,
    p.outputLength = (P.encrypt p.data).length ∧ S.encryptbuffer = P.filled S.encrypted

variable {P : Program} {S S' : System} {t : Thread} {p : Pending} {data : List UInt8} {e : Event}

theorem ready_start (comm : ObjectComm) (encryptbuffer : List UInt8) :
    Ready P (start comm encryptbuffer) := fun _ _ hp => nomatch hp

theorem frame_inj {bigEndian : Bool} {p q : List UInt8} (h : frame bigEndian p = frame bigEndian q) :
    p = q := by
  have hlen := congrArg List.length h
  rw [frame_length, frame_length] at hlen
  have hpq : p.length = q.length := by omega
  rw [frame, frame, hpq] at h
  simpa using h

theorem ready_of_pending (hr : Ready P S) (hbuffer : S'.encryptbuffer = S.encryptbuffer)
    (hencrypted : S'.encrypted = S.encrypted) (hpending : ∀ t, ∀ p ∈ S'.pending t, p ∈ S.pending t) :
    Ready P S' := by
  intro t p hp
  rw [hbuffer, hencrypted]
  exact hr t p (hpending t p hp)

theorem mem_update_none (pending : Thread → Option Pending) (t t' : Thread)
    (hp : p ∈ Function.update pending t none t') : p ∈ pending t' := by
  by_cases ht : t' = t
  · subst ht
    simp at hp
  · simpa [ht] using hp

theorem step_dispatch (hp : S.pending t = some p)
    (hsock : (findOrAddCommChanByMsgID P.side S.comm p.data).2 ≠ invalidSocket) :
    step P S (.dispatch t) = some { S with
      comm := (findOrAddCommChanByMsgID P.side S.comm p.data).1
      pending := Function.update S.pending t none
      sent := S.sent ++ [⟨S.comm, p.data, (findOrAddCommChanByMsgID P.side S.comm p.data).2,
        frame P.bigEndian (S.encryptbuffer.take p.outputLength)⟩]
      overrun := S.overrun || decide (msgBufferSize < p.outputLength + 4) } := by
  rw [step, hp, Option.map_some]
  exact congrArg some (if_neg hsock)

theorem step_dispatch_none (hp : S.pending t = some p)
    (hsock : (findOrAddCommChanByMsgID P.side S.comm p.data).2 = invalidSocket) :
    step P S (.dispatch t) = some { S with
      comm := (findOrAddCommChanByMsgID P.side S.comm p.data).1
      pending := Function.update S.pending t none } := by
  rw [step, hp, Option.map_some]
  exact congrArg some (if_pos hsock)

theorem step_encryptMessage (h : step P S (.encryptMessage t data) = some S') :
    S' = { S with
      encryptbuffer := P.filled data
      encrypted := data
      pending := Function.update S.pending t (some ⟨data, (P.encrypt data).length⟩)
      overrun := S.overrun || decide (msgEndecryptBufferSize < (P.encrypt data).length) } := by
  rw [step] at h
  split at h
  · cases h
  · exact (Option.some.inj h).symm

theorem own_iff (hr : Ready P S) (hp : S.pending t = some p) :
    Own P ⟨S.comm, p.data, (findOrAddCommChanByMsgID P.side S.comm p.data).2,
        frame P.bigEndian (S.encryptbuffer.take p.outputLength)⟩ ↔
      P.encrypt p.data <+: P.filled S.encrypted := by
  obtain ⟨hlen, hbuffer⟩ := hr t p hp
  rw [List.prefix_iff_eq_take, ← hlen, ← hbuffer]
  constructor
  · intro h
    exact (frame_inj h.2).symm
  · intro h
    exact ⟨rfl, congrArg (frame P.bigEndian) h.symm⟩

theorem separate_step (hr : Ready P S) (h : step P S e = some S') :
    Ready P S' ∧ (Separate P S' ↔ Separate P S ∧ Undisturbed P S e S') := by
  cases e with
  | encryptMessage t data =>
      obtain rfl := step_encryptMessage h
      refine ⟨fun t' p hp => ?_, ?_⟩
      · by_cases ht : t' = t
        · subst ht
          obtain rfl : _ = p := by simpa using hp
          exact ⟨rfl, rfl⟩
        · exact ⟨(hr t' p (by simpa [ht] using hp)).1, rfl⟩
      · simp only [Separate, Undisturbed, Bool.or_eq_false_iff, decide_eq_false_iff_not, not_lt]
        exact and_right_comm
  | dispatch t =>
      cases hp : S.pending t with
      | none =>
          rw [step, hp] at h
          cases h
      | some p =>
          by_cases hsock : (findOrAddCommChanByMsgID P.side S.comm p.data).2 = invalidSocket
          · obtain rfl := Option.some.inj ((step_dispatch_none hp hsock).symm.trans h)
            refine ⟨ready_of_pending hr rfl rfl (fun t' p => mem_update_none S.pending t t'), ?_⟩
            simp [Separate, Undisturbed, hp, hsock]
          · obtain rfl := Option.some.inj ((step_dispatch hp hsock).symm.trans h)
            refine ⟨ready_of_pending hr rfl rfl (fun t' p => mem_update_none S.pending t t'), ?_⟩
            have hlen := (hr t p hp).1
            have hown := own_iff hr hp
            rw [hlen] at hown
            simp only [Separate, Undisturbed, Bool.or_eq_false_iff, decide_eq_false_iff_not, not_lt,
              List.forall_mem_append, List.forall_mem_singleton, hown, hlen, hp, Option.mem_def,
              Option.some.injEq, forall_eq', ne_eq, hsock, not_false_eq_true, forall_const]
            tauto
  | objectComm comm =>
      obtain rfl := Option.some.inj h
      exact ⟨hr, (and_iff_left trivial).symm⟩

/-- In any run of the two threads' steps, every message is written as its own
frame to its own channel exactly when no step disturbs a send. -/
theorem unmixed_iff (P : Program) (comm : ObjectComm) (encryptbuffer : List UInt8)
    (events : List Event) (S : System) (h : run (step P) events (start comm encryptbuffer) = some S) :
    Separate P S ↔ Always (step P) (Undisturbed P) events (start comm encryptbuffer) :=
  (good_iff (fun _ _ _ => separate_step) (ready_start comm encryptbuffer) h).trans
    (and_iff_right ⟨rfl, fun _ hx => absurd hx List.not_mem_nil⟩)

def answering : Program := ⟨.server, false, Delivery.padded⟩

def connected : ObjectComm := ⟨(∅ : Std.ExtTreeMap Int Int).insert 1 7, 8⟩

def call : List UInt8 := [header .callAttrMetd 4, 1, 1, 0, 0, 0, 0, msgEnd]

def assignment : List UInt8 := [header .moduleAssignId 4, 2, 1, 116, msgEnd]

def apart : List Event :=
  [.encryptMessage .python call, .dispatch .python,
    .encryptMessage .ioprocess assignment, .dispatch .ioprocess]

def overtaken : List Event :=
  [.encryptMessage .python call, .encryptMessage .ioprocess assignment,
    .dispatch .python, .dispatch .ioprocess]

/-- One send after the other. -/
theorem unmixed_iff_apart : ∃ S, run (step answering) apart (start connected []) = some S ∧
    (Separate answering S ↔
      Always (step answering) (Undisturbed answering) apart (start connected [])) :=
  ⟨_, rfl, unmixed_iff answering connected [] apart _ rfl⟩

/-- The second encryption comes before the first write: module 1 is sent the id of
the other one. -/
theorem not_separate_overtaken :
    ∃ S, run (step answering) overtaken (start connected []) = some S ∧
      S.sent.map (fun x => (x.mysock, x.bytes)) =
        [(7, frame false (Delivery.padded assignment ++ List.replicate 8 0)),
          (8, frame false (Delivery.padded assignment))] ∧
      ¬ Separate answering S := by
  have hcall : (answering.filled assignment).take 16 =
      Delivery.padded assignment ++ List.replicate 8 0 := by decide +kernel
  have hassigned : (answering.filled assignment).take 8 = Delivery.padded assignment :=
    List.take_left' rfl
  refine ⟨_, rfl, ?_, fun h => ?_⟩
  · change [(7, frame false ((answering.filled assignment).take 16)),
      (8, frame false ((answering.filled assignment).take 8))] = _
    rw [hcall, hassigned]
  · have hown := (h.2 _ (List.mem_cons_self ..)).2
    change frame false ((answering.filled assignment).take 16) =
      frame false (Delivery.padded call) at hown
    rw [hcall] at hown
    exact absurd (frame_inj hown) (by decide)

end PyConnect.Senders

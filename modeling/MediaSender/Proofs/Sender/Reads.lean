import MediaSender.Proofs.Sender.Feeds
import MediaSender.Proofs.Stream.Feedback
/-!
Reads of feedback through a sender. A read waits until the sender sends, then looks up the stream of
an encoding under the lock of the sender, and then draws from it. While the sender is idle it can do
nothing but wait, and once a stop has succeeded it waits for nothing but the lock, if somebody else
has it, and the transport, if that takes its time to close what the read closes itself.
-/

namespace MediaSender

open Endpoint

def Task.lifecycle? {α : Type} : Task α → Option LifecycleKey
  | .ask (.sending l) _ => some l
  | _ => none

def Task.lookup? {α : Type} : Task α → Option (SenderKey × Sender.Feed)
  | .ask (.reader k feed) _ => some (k, feed)
  | _ => none

theorem Task.Draws.lifecycle {α : Type} {s : StreamId} {size : Nat} {P : Outcome Bytes → α → Prop}
    {task : Task α} (h : task.Draws s size P) : task.lifecycle? = none := by
  cases h <;> rfl

def Polled.result : Polled Reply → Session.StepResult
  | .finished r _ => .answered r
  | .waiting .. => .pending

namespace Sender

variable {k : SenderKey} {feed : Feed} {size : Nat}

/-- The encodings whose primary stream a feed may come from; the first one is taken. -/
def Feed.selects : Feed → Encoding → Bool
  | .base, _ => true
  | .simulcast rid, e => e.carries rid
  | _, _ => false

theorem reader_of_find (a : Sender) (primary : feed.isCompanion = false) :
    (∃ e, a.encodings.find? feed.selects = some e ∧ a.reader feed = .ok e.primary.reader) ∨
      ∃ f, a.reader feed = .error f := by
  cases feed with
  | base =>
    simp only [reader, base]
    cases a.encodings with
    | nil => exact .inr ⟨_, rfl⟩
    | cons e es => exact .inl ⟨e, rfl, rfl⟩
  | simulcast rid =>
    have hs : Feed.selects (.simulcast rid) = (·.carries rid) := rfl
    simp only [reader, hs]
    cases a.encodings.find? (·.carries rid) with
    | none => exact .inr ⟨_, rfl⟩
    | some e => exact .inl ⟨e, rfl, rfl⟩
  | rtx => cases primary
  | fec => cases primary

theorem reader_selected (a : Sender) (primary : feed.isCompanion = false) :
    (∃ i e, a.encodings.findIdx? feed.selects = some i ∧ a.encodings[i]? = some e ∧
      a.reader feed = .ok e.primary.reader) ∨ ∃ f, a.reader feed = .error f := by
  refine (reader_of_find a primary).imp_left ?_
  rintro ⟨e, hfind, hreader⟩
  rw [List.find?_eq_bind_findIdx?_getElem?] at hfind
  obtain ⟨i, hi, he⟩ := Option.bind_eq_some_iff.mp hfind
  exact ⟨i, e, hi, he, hreader⟩

def readTask (k : SenderKey) (feed : Feed) (size : Nat) : Task Reply := (read k feed size).map .data

def awaiting (k : SenderKey) (task : Task (Outcome (Bytes × Attributes))) : Task Reply :=
  ((awaitSending k).andThen fun _ => task).map .data

def lookupTask (k : SenderKey) (feed : Feed) (size : Nat) : Task Reply :=
  ((lookupReader k feed).andThen fun reader => reader.read size []).map .data

theorem readTask_eq (primary : feed.isCompanion = false) :
    readTask k feed size =
      awaiting k ((lookupReader k feed).andThen fun reader => reader.read size []) := by
  rw [readTask, read, if_neg (by rw [primary]; exact Bool.false_ne_true), awaiting]

theorem lifecycle_readTask (primary : feed.isCompanion = false) :
    (readTask k feed size).lifecycle? = some (.ofSender k) := by
  rw [readTask_eq primary]
  rfl

def Replied (r : Outcome Bytes) (reply : Reply) : Prop := ∃ a, reply = .data a ∧ Returned r a

theorem draws_read {x : Reader} {s : StreamId} (h : x.Draws s) (size : Nat) :
    ((x.read size []).map Reply.data).Draws s size Replied :=
  (h.read size []).bind fun _ a hr => .done ⟨a, rfl, hr⟩

section

variable (roster : Roster) (b : Pace) (t : Ticket) (p : Progress) (w : Endpoint)

theorem poll_awaiting (task : Task (Outcome (Bytes × Attributes))) :
    (awaiting k task).poll roster b t p w =
      match (roster.sender k).lifecycle with
      | .idle => .waiting (awaiting k task) .fresh w
      | .stopped _ => .finished (.data (.error .closedPipe)) w
      | .sending => (task.map Reply.data).poll roster b t .fresh w := by
  simp only [awaiting, awaitSending, Task.request, Task.map, Task.andThen, Task.bind, Task.poll,
    Request.attempt, Endpoint.await, Roster.lifecycle]
  cases (roster.sender k).lifecycle <;> rfl

theorem poll_lookupTask :
    (lookupTask k feed size).poll roster b t p w =
      if b.locked k then .waiting (lookupTask k feed size) .fresh w
      else match (roster.sender k).reader feed with
        | .error f => .finished (.data (.error f)) w
        | .ok x => ((x.read size []).map Reply.data).poll roster b t .fresh w := by
  simp only [lookupTask, lookupReader, Task.request, Task.map, Task.andThen, Task.bind, Task.poll,
    Request.attempt]
  cases b.locked k with
  | true => rfl
  | false => cases (roster.sender k).reader feed <;> rfl

inductive LookupPolled (k : SenderKey) (feed : Feed) (size : Nat) (b : Pace) (a : Sender)
    (w : Endpoint) : Polled Reply → Prop
  | locked (locked : b.locked k) :
      LookupPolled k feed size b a w (.waiting (lookupTask k feed size) .fresh w)
  | missing (f : Failure) : LookupPolled k feed size b a w (.finished (.data (.error f)) w)
  | found {i : Nat} {e : Encoding} {x : Polled Reply} (free : b.locked k = false)
      (found : a.encodings.findIdx? feed.selects = some i) (encoding : a.encodings[i]? = some e)
      (drawn : Task.DrawPolled b e.primary.stream size Replied .fresh w x) :
      LookupPolled k feed size b a w x

inductive ReadPolled (k : SenderKey) (feed : Feed) (size : Nat) (b : Pace) (a : Sender)
    (w : Endpoint) : Polled Reply → Prop
  | idle (lifecycle : a.lifecycle = .idle) :
      ReadPolled k feed size b a w (.waiting (readTask k feed size) .fresh w)
  | stopped (lifecycle : a.lifecycle.hasStopped) :
      ReadPolled k feed size b a w (.finished (.data (.error .closedPipe)) w)
  | sending {x : Polled Reply} (lifecycle : a.lifecycle = .sending)
      (polled : LookupPolled k feed size b a w x) : ReadPolled k feed size b a w x

variable (primary : feed.isCompanion = false)
  (draws : ∀ e ∈ (roster.sender k).encodings, e.primary.reader.Draws e.primary.stream)

include primary draws

theorem lookupPolled :
    LookupPolled k feed size b (roster.sender k) w
      ((lookupTask k feed size).poll roster b t p w) := by
  rw [poll_lookupTask]
  split
  · exact .locked ‹_›
  · rename_i free
    rcases reader_selected (roster.sender k) primary with ⟨i, e, hi, he, hreader⟩ | ⟨f, hreader⟩
    · rw [hreader]
      have hdraws := draws_read (draws e (List.mem_of_getElem? he)) size
      exact .found (eq_false_of_ne_true free) hi he (hdraws.poll roster b t .fresh w)
    · rw [hreader]
      exact .missing f

theorem readPolled :
    ReadPolled k feed size b (roster.sender k) w
      ((readTask k feed size).poll roster b t p w) := by
  have hlookup : LookupPolled k feed size b (roster.sender k) w
      ((lookupTask k feed size).poll roster b t .fresh w) :=
    lookupPolled roster b t .fresh w primary draws
  rw [readTask_eq primary, poll_awaiting, ← readTask_eq primary]
  cases hl : (roster.sender k).lifecycle with
  | idle => exact .idle hl
  | stopped sent => exact .stopped (by rw [hl]; rfl)
  | sending => exact .sending hl hlookup

end

end Sender

namespace Session

open Sender

variable {σ : Session} {m : Move} {k : SenderKey} {t : Ticket} {I I' : Task Reply → Prop}

def call? (σ : Session) (t : Ticket) : Option (Call Reply) := σ.calls.find? (·.ticket == t)

theorem mem_of_call {c : Call Reply} (h : σ.call? t = some c) : c ∈ σ.calls ∧ c.ticket = t := by
  rw [call?] at h
  have ht := List.find?_some h
  exact ⟨List.mem_of_find?_eq_some h, beq_iff_eq.mp ht⟩

structure Leaves (I : Task Reply → Prop) (t : Ticket) (σ : Session) : Prop where
  old : t < σ.steps
  task : ∀ c ∈ σ.calls, c.ticket = t → I c.task

def pollOf (c : Call Reply) (σ : Session) : Polled Reply :=
  c.task.poll σ.roster σ.pace c.ticket c.progress σ.endpoint

theorem Leaves.act (h : Leaves I t σ) (m : Move) (keeps : ∀ task, I task → I' task)
    (polls : m = .poll t → ∀ d, σ.call? t = some d → I d.task → ∀ task p w,
      σ.pollOf d = .waiting task p w → I' task) : Leaves I' t (σ.act m).1 := by
  refine ⟨Nat.lt_of_lt_of_le h.old (steps_act σ m), fun c hc ht => ?_⟩
  cases comes m hc with
  | kept mem => exact keeps _ (h.task c mem ht)
  | new ticket => exact absurd (ht.symm.trans ticket) (Nat.ne_of_lt h.old)
  | resumed d mem ticket w poll move found =>
    have hd : d.ticket = t := ticket.symm.trans ht
    exact polls (hd ▸ move) d (hd ▸ found) (h.task d mem hd) c.task c.progress w poll

theorem act_poll {c : Call Reply} (h : σ.call? t = some c) :
    (σ.act (.poll t)).2 = (σ.pollOf c).result ∧
      (σ.act (.poll t)).1.endpoint = (σ.pollOf c).endpoint := by
  have ht := (mem_of_call h).2
  rw [call?] at h
  simp only [Session.act, pollCall, h, pollOf, ht]
  cases c.task.poll σ.roster σ.pace t c.progress σ.endpoint <;> exact ⟨rfl, rfl⟩

def firstPoll (task : Task Reply) (σ : Session) : Polled Reply :=
  task.poll σ.roster σ.pace σ.steps .fresh σ.endpoint

theorem act_start {c : Command} {task : Task Reply} (h : σ.start c = .waiting task) :
    (σ.act (.issue c)).2 = (σ.firstPoll task).result ∧
      (σ.act (.issue c)).1.endpoint = (σ.firstPoll task).endpoint := by
  simp only [Session.act, issue, h, turn, firstPoll]
  cases task.poll σ.roster σ.pace σ.steps .fresh σ.endpoint <;> exact ⟨rfl, rfl⟩

theorem WellNumbered.leaves (hσ : σ.WellNumbered) {c : Command} {task : Task Reply}
    (h : σ.start c = .waiting task)
    (polls : ∀ task' p w, σ.firstPoll task = .waiting task' p w → I task') :
    Leaves I σ.steps (σ.act (.issue c)).1 := by
  have hsteps : (σ.act (.issue c)).1.steps = σ.steps + 1 := steps_issue σ c
  have hold : ∀ d ∈ σ.calls, d.ticket = σ.steps → I d.task := fun d hd ht =>
    absurd ht (Nat.ne_of_lt (hσ.tickets d hd))
  refine ⟨by rw [hsteps]; exact Nat.lt_succ_self _, ?_⟩
  simp only [firstPoll] at polls
  simp only [Session.act, issue, h, turn]
  cases hp : task.poll σ.roster σ.pace σ.steps .fresh σ.endpoint with
  | finished r w => exact hold
  | waiting task' p w =>
    exact List.forall_mem_append.mpr
      ⟨hold, List.forall_mem_singleton.mpr fun _ => polls task' p w hp⟩

namespace Turn

def Reads (k : SenderKey) (feed : Feed) (size : Nat) (x : Turn) : Prop :=
  ∃ name, x.before.directory.senders.lookup name = some k ∧
    x.move = .issue (.sender name (.read feed size))

def Polls (c : Call Reply) (y x : Turn) : Prop :=
  y.move = .poll x.before.steps ∧ y.before.call? x.before.steps = some c

/-- The turns in which a call may come to an end: the one that makes it, and those that poll it. -/
def Serves (y x : Turn) : Prop := y = x ∨ ∃ c, y.Polls c x

/-- The call waits for the sender, as it does to begin with. -/
def FindsWaiting (k : SenderKey) (y x : Turn) : Prop :=
  y = x ∨ ∃ c, y.Polls c x ∧ c.task.lifecycle? = some (.ofSender k)

/-- The call is to look up the encoding that it reads: the sender sends now, or did so when the call
came to the lock. -/
def FindsLooking (k : SenderKey) (feed : Feed) (y x : Turn) : Prop :=
  y.FindsWaiting k x ∧ (y.before.sender k).lifecycle = .sending ∨
    ∃ c, y.Polls c x ∧ c.task.lookup? = some (k, feed)

structure LooksUp (k : SenderKey) (feed : Feed) (i : Nat) (y x : Turn) : Prop where
  looking : y.FindsLooking k feed x
  free : y.before.pace.locked k = false
  found : (y.before.sender k).encodings.findIdx? feed.selects = some i

/-- The call closes what was opened for it too late: it waits for that close, or comes to it. -/
def ShutsLate (s : StreamId) (y x : Turn) : Prop :=
  (∃ c, y.Polls c x ∧ c.progress.isShutting) ∨
    (y.before.endpoint.stream s).shut = false ∧ (y.after.endpoint.stream s).shut

/-- Nobody keeps the call waiting. If it has come to the lock of the sender, the lock is free, and
if it closes something itself, the transport is done with that within this poll. -/
structure Prompt (k : SenderKey) (y x : Turn) : Prop where
  free : ∀ c feed, y.Polls c x → c.task.lookup? = some (k, feed) → y.before.pace.locked k = false
  closes : ∀ b ∈ (y.before.sender k).held, y.ShutsLate b.stream x →
    y.before.pace.lingers b.stream = false

end Turn

theorem Turn.Serves.made_or_polls {y x : Turn} {xs : List Turn} (h : y.Serves x)
    (hx : x ∈ xs ++ [y]) : y = x ∨ x ∈ xs ∧ ∃ c, y.Polls c x := by
  rcases h with hy | hpolls
  · exact .inl hy
  · rcases List.mem_append.mp hx with hx | hx
    · exact .inr ⟨hx, hpolls⟩
    · exact .inl (List.mem_singleton.mp hx).symm

/-- What reads rely on: readers lead to the streams of their encodings, through layers that forward
reads. -/
structure Readable (σ : Session) : Prop where
  numbered : σ.WellNumbered
  wellFormed : σ.WellFormed
  layers : ∀ l ∈ σ.endpoint.chain, l.ForwardsReads

theorem Fresh.readable (h : σ.Fresh) (layers : ∀ l ∈ σ.endpoint.chain, l.ForwardsReads) :
    σ.Readable := ⟨h.numbered, h.wellFormed, layers⟩

theorem Readable.after (h : σ.Readable) (ms : List Move) : (σ.after ms).Readable where
  numbered := h.numbered.after ms
  wellFormed := h.wellFormed.after h.numbered.sound ms
  layers := by
    rw [(setup_after σ ms).chain]
    exact h.layers

theorem Readable.draws (h : σ.Readable) {b : BoundStream}
    (hb : b ∈ partsOf (σ.sender k).encodings) : b.reader.Draws b.stream := by
  have hr : b.reader = _ := (h.wellFormed k).readers b hb
  rw [hr]
  exact Chain.reader_draws h.layers b.stream

section

variable {feed : Feed} {size i : Nat} {e : Encoding} {xs : List Turn} {x l : Turn}
  {task : Task Reply}

inductive ReadPhase (k : SenderKey) (feed : Feed) (size : Nat) (xs : List Turn) (x : Turn)
    (σ : Session) : Task Reply → Prop
  | waiting : ReadPhase k feed size xs x σ (readTask k feed size)
  | looking (sent : (σ.sender k).lifecycle.hasSent) :
      ReadPhase k feed size xs x σ (lookupTask k feed size)
  | drawing {l : Turn} {i : Nat} {e : Encoding} {task : Task Reply} (turn : l ∈ xs)
      (found : l.LooksUp k feed i x) (sent : (σ.sender k).lifecycle.hasSent)
      (encoding : (σ.sender k).encodings[i]? = some e)
      (draws : task.Draws e.primary.stream size Replied) : ReadPhase k feed size xs x σ task

theorem WellNumbered.drawing (h : σ.WellNumbered) (turn : l ∈ xs) (found : l.LooksUp k feed i x)
    (sent : (σ.sender k).lifecycle.hasSent) (encoding : (σ.sender k).encodings[i]? = some e)
    (draws : task.Draws e.primary.stream size Replied) (m : Move) :
    ReadPhase k feed size xs x (σ.act m).1 task := by
  have hbare := h.bare_act (not_idle_of_hasSent sent) m
  obtain ⟨e', he', heq⟩ := getElem?_of_bare hbare.symm encoding
  have hprimary : e.primary = e'.primary := congrArg (·.primary) heq
  exact .drawing turn found ((h.orderly m k).stays_sent sent) he' (hprimary ▸ draws)

theorem ReadPhase.act (hp : ReadPhase k feed size xs x σ task) (h : σ.WellNumbered) (m : Move) :
    ReadPhase k feed size (xs ++ [⟨σ, m⟩]) x (σ.act m).1 task := by
  cases hp with
  | waiting => exact .waiting
  | looking sent => exact .looking ((h.orderly m k).stays_sent sent)
  | drawing turn found sent encoding draws =>
    exact h.drawing (List.mem_append_left _ turn) found sent encoding draws m

theorem start_read {x : Turn} (hx : x.Reads k feed size) :
    ∃ c, x.move = .issue c ∧ x.before.start c = .waiting (readTask k feed size) := by
  obtain ⟨name, hk, hm⟩ := hx
  refine ⟨_, hm, ?_⟩
  simp only [Session.start, senderCommand, withNamed, hk, toSender]
  rfl

theorem Readable.drawn (h : σ.Readable) :
    ∀ e ∈ (σ.sender k).encodings, e.primary.reader.Draws e.primary.stream := fun e he =>
  h.draws (List.mem_flatMap.mpr ⟨e, he, List.mem_cons_self⟩)

theorem Readable.looked (h : σ.Readable) {xs : List Turn} {x : Turn}
    (finds : Turn.FindsLooking k feed ⟨σ, m⟩ x) (sent : (σ.sender k).lifecycle.hasSent)
    {p : Progress} {w : Endpoint}
    (hp : LookupPolled k feed size σ.pace (σ.sender k) σ.endpoint (.waiting task p w)) :
    ReadPhase k feed size (xs ++ [⟨σ, m⟩]) x (σ.act m).1 task := by
  cases hp with
  | locked => exact .looking ((h.numbered.orderly m k).stays_sent sent)
  | found free found encoding drawn =>
    cases drawn with
    | waiting _ _ draws =>
      exact h.numbered.drawing (List.mem_append_right _ (List.mem_singleton_self _))
        ⟨finds, free, found⟩ sent encoding draws m

section

variable (primary : feed.isCompanion = false)

include primary

theorem Readable.readPolled (h : σ.Readable) (t : Ticket) (p : Progress) :
    ReadPolled k feed size σ.pace (σ.sender k) σ.endpoint
      ((readTask k feed size).poll σ.roster σ.pace t p σ.endpoint) :=
  Sender.readPolled σ.roster σ.pace t p σ.endpoint primary h.drawn

theorem Readable.lookupPolled (h : σ.Readable) (t : Ticket) (p : Progress) :
    LookupPolled k feed size σ.pace (σ.sender k) σ.endpoint
      ((lookupTask k feed size).poll σ.roster σ.pace t p σ.endpoint) :=
  Sender.lookupPolled σ.roster σ.pace t p σ.endpoint primary h.drawn

theorem Readable.waited (h : σ.Readable) {xs : List Turn} {x : Turn}
    (finds : Turn.FindsWaiting k ⟨σ, m⟩ x) {p p' : Progress} {w : Endpoint}
    (hp : (readTask k feed size).poll σ.roster σ.pace t p σ.endpoint = .waiting task p' w) :
    ReadPhase k feed size (xs ++ [⟨σ, m⟩]) x (σ.act m).1 task := by
  have hr : ReadPolled k feed size σ.pace _ _ _ := h.readPolled primary t p
  rw [hp] at hr
  cases hr with
  | idle => exact .waiting
  | sending lifecycle polled =>
    exact h.looked (.inl ⟨finds, lifecycle⟩) (by rw [lifecycle]; rfl) polled

theorem ReadPhase.polled (hp : ReadPhase k feed size xs x σ task) (h : σ.Readable)
    {d : Call Reply} (hd : d.task = task) (polls : Turn.Polls d ⟨σ, m⟩ x) {task' : Task Reply}
    {p : Progress} {w : Endpoint} (hw : σ.pollOf d = .waiting task' p w) :
    ReadPhase k feed size (xs ++ [⟨σ, m⟩]) x (σ.act m).1 task' := by
  rw [pollOf, hd] at hw
  cases hp with
  | waiting =>
    exact h.waited primary (.inr ⟨d, polls, hd ▸ lifecycle_readTask primary⟩) hw
  | looking sent =>
    have hr : LookupPolled k feed size σ.pace _ _ _ := h.lookupPolled primary d.ticket d.progress
    rw [hw] at hr
    exact h.looked (.inr ⟨d, polls, hd ▸ rfl⟩) sent hr
  | drawing turn found sent encoding draws =>
    have hdrew := draws.poll σ.roster σ.pace d.ticket d.progress σ.endpoint
    rw [hw] at hdrew
    cases hdrew with
    | waiting _ _ draws =>
      exact h.numbered.drawing (List.mem_append_left _ turn) found sent encoding draws m

end

section

variable {P : Polled Reply} {b : Pace} {s : StreamId} {p : Progress} {w : Endpoint} {data : Bytes}
  {attributes : Attributes}

theorem took_of_polled (drawn : Task.DrawPolled b s size Replied p w P)
    (ok : P.result = .answered (.data (.ok (data, attributes)))) :
    Took s size data w P.endpoint := by
  cases drawn with
  | waiting => cases ok
  | finished r holds took =>
    obtain ⟨a, rfl, hr⟩ := holds
    cases ok
    exact took data hr.symm

theorem answered_of_polled (drawn : Task.DrawPolled b s size Replied p w P)
    (prompt : ShutsLate s p w P.endpoint → b.lingers s = false) (closed : (w.stream s).closed) :
    ∃ r, P.result = .answered (.data r) := by
  cases drawn with
  | waiting p' w' draws alive =>
    exact absurd ((alive prompt).symm.trans closed) Bool.false_ne_true
  | finished r holds took =>
    obtain ⟨a, rfl, -⟩ := holds
    exact ⟨a, rfl⟩

end

section

variable {P : Polled Reply} {ms : List Move} {y : Turn} (h : σ.WellNumbered)
  (idle : (σ.sender k).lifecycle = .idle) (hy : y.before = σ.after ms)
  (result : y.result = P.result) (endpoint : y.after.endpoint = P.endpoint)
  (sent : (y.before.sender k).lifecycle.hasSent)
  (passed : (y.before.sender k).lifecycle.hasStopped → ¬ y.FindsWaiting k x)

include h idle hy result endpoint sent passed

end

end

end Session

end MediaSender

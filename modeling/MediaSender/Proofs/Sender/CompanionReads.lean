import MediaSender.Proofs.Sender.Reads
/-!
Reads of a companion. Such a read takes the stream of the companion first, under the lock of the
sender, and waits for the sender after that. A start that binds the base encoding once more gives it
a new companion, and the read stays with the old one, which no stop closes: so the read is as good
as any other exactly as long as no start after it renews the companion.
-/

namespace MediaSender

open Endpoint

def Encoding.companion (feed : Sender.Feed) (e : Encoding) : Option BoundStream :=
  match feed with
  | .rtx => e.rtx.bound
  | .fec => e.fec.bound
  | _ => none

namespace Sender

variable {a : Sender} {w : Endpoint} {feed : Feed} {e : Encoding} {c : Coding} {l : Launch}

def companion (feed : Feed) (a : Sender) : Option BoundStream := a.base.bind (·.companion feed)

def companionStream (feed : Feed) (a : Sender) : Option StreamId :=
  (a.companion feed).map (·.stream)

theorem reader_companion (a : Sender) (h : feed.isCompanion) :
    a.reader feed = match a.companion feed with
      | some b => .ok b.reader
      | none => .error .noProgress := by
  cases feed with
  | rtx =>
    simp only [reader, companionReader, companion]
    cases a.base <;> rfl
  | fec =>
    simp only [reader, companionReader, companion]
    cases a.base <;> rfl
  | base => cases h
  | simulcast rid => cases h

theorem companion_of_bare {b : Sender}
    (h : b.encodings.map (·.bare) = a.encodings.map (·.bare)) :
    b.companion feed = a.companion feed := by
  have hb : ∀ es : List Encoding, (es.map (·.bare)).head?.bind (·.companion feed) =
      es.head?.bind (·.companion feed) := fun es => by
    cases es with
    | nil => rfl
    | cons e es => cases feed <;> rfl
  rw [companion, base, companion, base, ← hb, h, hb]

theorem mem_of_companion {b : BoundStream} (h : a.companion feed = some b) :
    ∃ e ∈ a.encodings, b ∈ e.parts ∧ (e.Tidy → e.bound) := by
  obtain ⟨e, he, hb⟩ := Option.bind_eq_some_iff.mp h
  have hmem : b ∈ e.rtx.bound.toList ++ e.fec.bound.toList := by
    cases feed with
    | rtx => exact List.mem_append_left _ (Option.mem_toList.mpr hb)
    | fec => exact List.mem_append_right _ (Option.mem_toList.mpr hb)
    | base => cases hb
    | simulcast rid => cases hb
  refine ⟨e, List.mem_of_mem_head? he, List.mem_cons_of_mem _ hmem, fun tidy => ?_⟩
  cases hbound : e.bound with
  | true => rfl
  | false =>
    obtain ⟨hrtx, hfec⟩ := tidy hbound
    rw [hrtx, hfec] at hmem
    cases hmem

def Retains (w : Endpoint) (old new : Option BoundStream) : Prop :=
  new = old ∨ ∃ b, new = some b ∧ w.nextStream ≤ b.stream

theorem retains_companionOf (plan : Option CompanionPlan) (old : Companion) {w w' : Endpoint}
    (h : w.nextStream ≤ w'.nextStream) :
    Retains w old.bound (companionOf plan old w').bound := by
  cases plan with
  | none => exact .inl rfl
  | some p => exact .inr ⟨_, rfl, h⟩

theorem retains_startEncoding (feed : Feed) (l : Launch) (e : Encoding) (c : Coding)
    (w : Endpoint) :
    Retains w (e.companion feed) ((startEncoding l e c w).encoding.companion feed) := by
  have hs := encodingStarted l e c w
  generalize startEncoding l e c w = r at hs
  cases hs with
  | missing => exact .inl rfl
  | failed => exact .inl rfl
  | bound t codec =>
    let w₁ := bindPrimary w.nextStream w.nextGate (l.describe c.ssrc codec)
      ((openPrimary e c w).bindTrack t (contextOf l.id t c w))
    have hn : w.nextStream ≤ w₁.nextStream := nextStream_bindPrimary .. ▸ Nat.le_succ _
    cases feed with
    | rtx => exact retains_companionOf _ e.rtx hn
    | fec => exact retains_companionOf _ e.fec (nextStream_bindCompanion _ hn)
    | base => exact .inl rfl
    | simulcast rid => exact .inl rfl

theorem retains_startAll (feed : Feed) (l : Launch) (es : List Encoding) (cs : List Coding)
    (w : Endpoint) :
    Retains w (es.head?.bind (·.companion feed))
      ((startAll l es cs w).encodings.head?.bind (·.companion feed)) := by
  cases es with
  | nil => exact .inl rfl
  | cons e es =>
    cases cs with
    | nil => exact .inl rfl
    | cons c cs =>
      have hfirst := retains_startEncoding feed l e c w
      cases ho : (startEncoding l e c w).outcome with
      | error f => rw [startAll_error ho]; exact hfirst
      | ok payloadType => rw [startAll_ok ho]; exact hfirst

theorem companion_append (t : Track) (a : Sender) (w : Endpoint) :
    (append t a w).1.companion feed = a.companion feed := by
  change (a.encodings ++ [newEncoding t w]).head?.bind _ = a.encodings.head?.bind _
  cases a.encodings with
  | cons e es => rfl
  | nil =>
    obtain ⟨-, hrtx, hfec⟩ := untouched_newEncoding t w
    cases feed with
    | rtx => exact hrtx
    | fec => exact hfec
    | base => rfl
    | simulcast rid => rfl

theorem retains_act (x : Action) (a : Sender) (w : Endpoint) :
    Retains w (a.companion feed) ((a.act x w).sender.companion feed) := by
  cases x with
  | extend track =>
    have h := extended track a w
    change Retains w _ ((a.extend track w).sender.companion feed)
    generalize a.extend track w = r at h
    cases h with
    | refused => exact .inl rfl
    | added t => exact .inl (companion_append t a w)
  | swapTrack track => exact .inl (companion_of_bare (bare_swapTrack track a w))
  | start p =>
    have h := launched p a w
    change Retains w _ ((a.start p w).sender.companion feed)
    generalize a.start p w = r at h
    cases h with
    | refused => exact .inl rfl
    | failed f r check all => exact all ▸ retains_startAll _ _ _ _ w
    | sent payloadType r check all => exact all ▸ retains_startAll _ _ _ _ w
  | stop => exact .inl (companion_of_bare (bare_stop a w))

end Sender

namespace Session

open Sender

variable {σ : Session} {m : Move} {k : SenderKey} {feed : Feed} {size : Nat} {s : StreamId}
  {t : Ticket} {xs : List Turn} {x : Turn} {task : Task Reply}

/-- The base encoding has another companion than before. -/
def Turn.Renews (k : SenderKey) (feed : Feed) (z : Turn) : Prop :=
  (z.after.sender k).companionStream feed ≠ (z.before.sender k).companionStream feed

instance (k : SenderKey) (feed : Feed) : DecidablePred (Turn.Renews k feed) := fun _ =>
  inferInstanceAs (Decidable (_ ≠ _))

theorem retains_move (feed : Feed) (born : k < σ.roster.senders.size) (m : Move) :
    Retains σ.endpoint ((σ.sender k).companion feed) (((σ.act m).1.sender k).companion feed) := by
  cases (course m σ).becomes k with
  | acted x action sender =>
    rw [sender]
    exact retains_act x (σ.sender k) σ.endpoint
  | stayed action sender =>
    obtain ⟨n, t, hs⟩ := sender
    rw [hs]
    exact .inl rfl
  | made t action number => exact absurd number (Nat.ne_of_lt born)

theorem roster_poll (σ : Session) (t : Ticket) : (σ.act (.poll t)).1.roster = σ.roster := by
  simp only [Session.act, pollCall]
  split
  · rfl
  · split <;> rfl

theorem roster_of_waiting {c : Command} (h : σ.start c = .waiting task) :
    (σ.act (.issue c)).1.roster = σ.roster := by
  simp only [Session.act, issue, h, turn]
  split <;> rfl

theorem roster_inject (σ : Session) (n : Nat) (packet : Packet) :
    (σ.act (.inject n packet)).1.roster = σ.roster := by
  simp only [Session.act, inject, turn]
  split
  · rfl
  · split <;> rfl

theorem Turn.not_renews_of_roster {z : Turn} (h : z.after.roster = z.before.roster) :
    ¬ z.Renews k feed := by
  rw [Renews, not_not, sender, h]
  rfl

theorem Turn.Renews.steps {z : Turn} (h : z.Renews k feed) : z.before.steps < z.after.steps := by
  obtain ⟨τ, m⟩ := z
  cases m with
  | issue c => exact Nat.lt_of_lt_of_eq (Nat.lt_succ_self _) (steps_issue τ c).symm
  | poll t => exact absurd h (not_renews_of_roster (roster_poll τ t))
  | inject n packet => exact absurd h (not_renews_of_roster (roster_inject τ n packet))
  | turnTo b => exact absurd h (not_renews_of_roster rfl)

theorem renewals_passed (ms : List Move) (σ : Session) :
    ∀ z ∈ turns ms σ, z.Renews k feed → z.before.steps < (σ.after ms).steps := by
  induction ms using List.reverseRecOn with
  | nil => exact List.forall_mem_nil _
  | append_singleton ms m ih =>
    rw [turns_snoc, after_snoc]
    exact List.forall_mem_append.mpr
      ⟨fun z hz hr => Nat.lt_of_lt_of_le (ih z hz hr) (steps_act (σ.after ms) m),
        List.forall_mem_singleton.mpr fun hr => hr.steps⟩

structure Tracked (k : SenderKey) (feed : Feed) (s : StreamId) (n : Nat) (xs : List Turn)
    (σ : Session) : Prop where
  born : k < σ.roster.senders.size
  known : σ.endpoint.Known s
  old : n ≤ σ.steps
  live : (σ.sender k).companionStream feed = some s ↔
    ∀ z ∈ xs, n ≤ z.before.steps → ¬ z.Renews k feed

theorem Tracked.act {n : Nat} (h : Tracked k feed s n xs σ) (hσ : σ.Sound) (m : Move) :
    Tracked k feed s n (xs ++ [⟨σ, m⟩]) (σ.act m).1 where
  born := Nat.lt_of_lt_of_le h.born (course m σ).size_le
  known := (extends_act hσ m).known h.known
  old := Nat.le_trans h.old (steps_act σ m)
  live := by
    have hlast : (n ≤ σ.steps → ¬ Turn.Renews k feed ⟨σ, m⟩) ↔
        ((σ.act m).1.sender k).companionStream feed = (σ.sender k).companionStream feed :=
      (imp_iff_right h.old).trans not_not
    rw [List.forall_mem_append, List.forall_mem_singleton, hlast, ← h.live]
    refine ⟨fun hs => ?_, fun ⟨hs, hsame⟩ => hsame.trans hs⟩
    rcases retains_move feed h.born m with hk | ⟨b, hb, hnew⟩
    · have hsame : ((σ.act m).1.sender k).companionStream feed =
          (σ.sender k).companionStream feed := congrArg (Option.map BoundStream.stream) hk
      exact ⟨hsame.symm.trans hs, hsame⟩
    · -- A new companion has a stream that was not there before.
      rw [companionStream, hb] at hs
      cases hs
      exact absurd h.known (Nat.not_lt.mpr hnew)

theorem stream_known (h : σ.Sound) (found : (σ.sender k).companionStream feed = some s) :
    σ.endpoint.Known s := by
  obtain ⟨b, hb, rfl⟩ := Option.map_eq_some_iff.mp found
  obtain ⟨e, he, hpart, -⟩ := mem_of_companion hb
  exact known_streams (h.senders k) _ (List.mem_flatMap.mpr ⟨e, he, List.mem_map_of_mem hpart⟩)

theorem tracked_found (hσ : σ.Sound)
    (passed : ∀ z ∈ xs, z.Renews k feed → z.before.steps < σ.steps)
    (born : k < σ.roster.senders.size) (found : (σ.sender k).companionStream feed = some s)
    (same : (σ.act m).1.roster = σ.roster) :
    Tracked k feed s σ.steps (xs ++ [⟨σ, m⟩]) (σ.act m).1 where
  born := same ▸ born
  known := (extends_act hσ m).known (stream_known hσ found)
  old := steps_act σ m
  live := by
    rw [sender, same]
    refine iff_of_true found (List.forall_mem_append.mpr ⟨fun z hz hle hr => ?_, ?_⟩)
    · exact absurd (passed z hz hr) (Nat.not_lt.mpr hle)
    · exact List.forall_mem_singleton.mpr fun _ => Turn.not_renews_of_roster same

/-- The call is to look up the companion that it reads, as it does to begin with. -/
def Turn.FindsUnlooked (k : SenderKey) (feed : Feed) (y x : Turn) : Prop :=
  y = x ∨ ∃ c, y.Polls c x ∧ c.task.lookup? = some (k, feed)

/-- The call looks up the companion that it reads, and finds the stream `s`. -/
structure Turn.FindsCompanion (k : SenderKey) (feed : Feed) (s : StreamId) (y x : Turn) :
    Prop where
  looking : y.FindsUnlooked k feed x
  free : y.before.pace.locked k = false
  found : (y.before.sender k).companionStream feed = some s

/-- How far a read has come that found the stream `s`, and still waits. -/
inductive CompanionReading (k : SenderKey) (size : Nat) (s : StreamId) (σ : Session) :
    Task Reply → Prop
  | waiting {r : Reader} (draws : r.Draws s) :
      CompanionReading k size s σ (awaiting k (r.read size []))
  | drawing {task : Task Reply} (sent : (σ.sender k).lifecycle.hasSent)
      (draws : task.Draws s size Replied) : CompanionReading k size s σ task

inductive CompanionPolled (k : SenderKey) (size : Nat) (s : StreamId) (p : Progress)
    (σ : Session) : Polled Reply → Prop
  | idle {r : Reader} (lifecycle : (σ.sender k).lifecycle = .idle) (draws : r.Draws s) :
      CompanionPolled k size s p σ (.waiting (awaiting k (r.read size [])) .fresh σ.endpoint)
  | stopped (lifecycle : (σ.sender k).lifecycle.hasStopped) :
      CompanionPolled k size s p σ (.finished (.data (.error .closedPipe)) σ.endpoint)
  | drawn {p' : Progress} {P : Polled Reply} (sent : (σ.sender k).lifecycle.hasSent)
      (shutting : p'.isShutting → p.isShutting)
      (drawn : Task.DrawPolled σ.pace s size Replied p' σ.endpoint P) :
      CompanionPolled k size s p σ P

theorem CompanionReading.poll (h : CompanionReading k size s σ task) (t : Ticket) (p : Progress) :
    CompanionPolled k size s p σ (task.poll σ.roster σ.pace t p σ.endpoint) := by
  cases h with
  | drawing sent draws => exact .drawn sent id (draws.poll _ _ _ _ _)
  | waiting draws =>
    rw [poll_awaiting]
    cases hl : (σ.roster.sender k).lifecycle with
    | idle => exact .idle hl draws
    | stopped sent => exact .stopped (by rw [sender, hl]; rfl)
    | sending =>
      exact .drawn (by rw [sender, hl]; rfl) (absurd · Progress.not_shutting_fresh)
        ((draws_read draws size).poll _ _ _ _ _)

theorem CompanionReading.act (h : CompanionReading k size s σ task) (hσ : σ.WellNumbered)
    (m : Move) : CompanionReading k size s (σ.act m).1 task := by
  cases h with
  | waiting draws => exact .waiting draws
  | drawing sent draws => exact .drawing ((hσ.orderly m k).stays_sent sent) draws

theorem CompanionPolled.reading {p p' : Progress} {w : Endpoint}
    (h : CompanionPolled k size s p σ (.waiting task p' w)) (hσ : σ.WellNumbered) (m : Move) :
    CompanionReading k size s (σ.act m).1 task := by
  cases h with
  | idle lifecycle draws => exact .waiting draws
  | drawn sent shutting drawn =>
    cases drawn with
    | waiting _ _ draws => exact .drawing ((hσ.orderly m k).stays_sent sent) draws

inductive CompanionLookup (k : SenderKey) (feed : Feed) (size : Nat) (σ : Session) :
    Polled Reply → Prop
  | locked (locked : σ.pace.locked k) :
      CompanionLookup k feed size σ (.waiting (readTask k feed size) .fresh σ.endpoint)
  | missing (free : σ.pace.locked k = false)
      (missing : (σ.sender k).companionStream feed = none) :
      CompanionLookup k feed size σ (.finished (.data (.error .noProgress)) σ.endpoint)
  | found {s : StreamId} {P : Polled Reply} (free : σ.pace.locked k = false)
      (found : (σ.sender k).companionStream feed = some s)
      (polled : CompanionPolled k size s .fresh σ P) : CompanionLookup k feed size σ P

inductive CompanionPhase (k : SenderKey) (feed : Feed) (size : Nat) (xs : List Turn) (x : Turn)
    (σ : Session) : Task Reply → Prop
  | looking (born : k < σ.roster.senders.size) :
      CompanionPhase k feed size xs x σ (readTask k feed size)
  | reading {l : Turn} {s : StreamId} {task : Task Reply} (turn : l ∈ xs)
      (found : l.FindsCompanion k feed s x) (tracked : Tracked k feed s l.before.steps xs σ)
      (reading : CompanionReading k size s σ task) : CompanionPhase k feed size xs x σ task

theorem CompanionPhase.act (h : CompanionPhase k feed size xs x σ task) (hσ : σ.WellNumbered)
    (m : Move) : CompanionPhase k feed size (xs ++ [⟨σ, m⟩]) x (σ.act m).1 task := by
  cases h with
  | looking born => exact .looking (Nat.lt_of_lt_of_le born (course m σ).size_le)
  | reading turn found tracked reading =>
    exact .reading (List.mem_append_left _ turn) found (tracked.act hσ.sound m)
      (reading.act hσ m)

theorem born_of_reads (h : σ.Sound) (reads : Turn.Reads k feed size ⟨σ, m⟩) :
    k < σ.roster.senders.size := by
  obtain ⟨name, hk, -⟩ := reads
  exact h.keys _ (mem_of_lookup hk)

inductive CompanionTurn (k : SenderKey) (feed : Feed) (size : Nat) (xs : List Turn) (y x : Turn) :
    Prop
  | looking (P : Polled Reply) (result : y.result = P.result)
      (endpoint : y.after.endpoint = P.endpoint) (looking : y.FindsUnlooked k feed x)
      (polled : CompanionLookup k feed size y.before P) : CompanionTurn k feed size xs y x
  | reading (P : Polled Reply) (result : y.result = P.result)
      (endpoint : y.after.endpoint = P.endpoint) {l : Turn} {s : StreamId} (turn : l ∈ xs)
      (found : l.FindsCompanion k feed s x)
      (tracked : Tracked k feed s l.before.steps xs y.before) {c : Call Reply}
      (polls : y.Polls c x) (polled : CompanionPolled k size s c.progress y.before P) :
      CompanionTurn k feed size xs y x

section

variable (companion : feed.isCompanion)

include companion

theorem lookup_readTask : (readTask k feed size).lookup? = some (k, feed) := by
  rw [readTask, Sender.read, if_pos companion]
  rfl

theorem poll_companionTask (σ : Session) (t : Ticket) (p : Progress) :
    (readTask k feed size).poll σ.roster σ.pace t p σ.endpoint =
      if σ.pace.locked k then .waiting (readTask k feed size) .fresh σ.endpoint
      else match (σ.sender k).reader feed with
        | .ok r => (awaiting k (r.read size [])).poll σ.roster σ.pace t .fresh σ.endpoint
        | .error f => .finished (.data (.error f)) σ.endpoint := by
  simp only [readTask, Sender.read, companion, if_true, lookupReader, Task.request, Task.andThen,
    Task.map, Task.bind, Task.poll, Request.attempt, sender]
  cases σ.pace.locked k with
  | true => rfl
  | false => cases (σ.roster.sender k).reader feed <;> rfl

theorem Readable.companionLookup (h : σ.Readable) (t : Ticket) (p : Progress) :
    CompanionLookup k feed size σ
      ((readTask k feed size).poll σ.roster σ.pace t p σ.endpoint) := by
  rw [poll_companionTask companion, reader_companion _ companion]
  cases hl : σ.pace.locked k with
  | true => exact .locked hl
  | false =>
    cases hb : (σ.sender k).companion feed with
    | none => exact .missing hl (congrArg (Option.map BoundStream.stream) hb)
    | some b =>
      obtain ⟨e, he, hpart, -⟩ := mem_of_companion hb
      have hdraws := h.draws (List.mem_flatMap.mpr ⟨e, he, hpart⟩)
      exact .found hl (congrArg (Option.map BoundStream.stream) hb)
        ((CompanionReading.waiting hdraws).poll t .fresh)

omit companion in
theorem CompanionLookup.phase {p : Progress} {w : Endpoint}
    (h : CompanionLookup k feed size σ (.waiting task p w)) (hσ : σ.Readable)
    (looking : Turn.FindsUnlooked k feed ⟨σ, m⟩ x) (born : k < σ.roster.senders.size)
    (passed : ∀ z ∈ xs, z.Renews k feed → z.before.steps < σ.steps)
    (same : (σ.act m).1.roster = σ.roster) :
    CompanionPhase k feed size (xs ++ [⟨σ, m⟩]) x (σ.act m).1 task := by
  cases h with
  | locked => exact .looking (same ▸ born)
  | found free found polled =>
    exact .reading (List.mem_append_right _ (List.mem_singleton_self _)) ⟨looking, free, found⟩
      (tracked_found hσ.numbered.sound passed born found same) (polled.reading hσ.numbered m)

theorem CompanionPhase.polled (hp : CompanionPhase k feed size xs x σ task) (h : σ.Readable)
    (passed : ∀ z ∈ xs, z.Renews k feed → z.before.steps < σ.steps) {d : Call Reply}
    (hd : d.task = task) (polls : Turn.Polls d ⟨σ, m⟩ x) {task' : Task Reply} {p : Progress}
    {w : Endpoint} (hw : σ.pollOf d = .waiting task' p w) :
    CompanionPhase k feed size (xs ++ [⟨σ, m⟩]) x (σ.act m).1 task' := by
  have same : (σ.act m).1.roster = σ.roster := by
    obtain rfl : m = .poll x.before.steps := polls.1
    exact roster_poll σ _
  rw [pollOf, hd] at hw
  cases hp with
  | looking born =>
    have hlookup : CompanionLookup k feed size σ _ :=
      h.companionLookup companion d.ticket d.progress
    rw [hw] at hlookup
    exact hlookup.phase h (.inr ⟨d, polls, hd ▸ lookup_readTask companion⟩) born passed same
  | reading turn found tracked reading =>
    have hpolled := reading.poll d.ticket d.progress
    rw [hw] at hpolled
    exact .reading (List.mem_append_left _ turn) found (tracked.act h.numbered.sound m)
      (hpolled.reading h.numbered m)

theorem leaves_companion (h : σ.Readable) (ms : List Move) (hx : x ∈ turns ms σ)
    (reads : x.Reads k feed size) :
    Leaves (CompanionPhase k feed size (turns ms σ) x (σ.after ms)) x.before.steps
      (σ.after ms) := by
  refine since_turn
    (P := fun xs τ => Leaves (CompanionPhase k feed size xs x τ) x.before.steps τ) ms hx ?_ ?_
  · rintro before m rfl
    obtain ⟨c, hm, hc⟩ := start_read reads
    obtain rfl : m = .issue c := hm
    have hτ := h.after before
    refine hτ.numbered.leaves hc fun task p w hw => ?_
    have hlookup : CompanionLookup k feed size (σ.after before) _ :=
      hτ.companionLookup companion (σ.after before).steps .fresh
    rw [show (readTask k feed size).poll _ _ _ _ _ = _ from hw] at hlookup
    exact hlookup.phase hτ (.inl rfl) (born_of_reads hτ.numbered.sound reads)
      (renewals_passed before σ) (roster_of_waiting hc)
  · intro before m hleaves
    have hτ := h.after before
    refine hleaves.act m (fun task hp => hp.act hτ.numbered m) fun hm d hd hp task p w hw => ?_
    exact hp.polled companion hτ (renewals_passed before σ) rfl ⟨hm, hd⟩ hw

theorem companionTurn (h : σ.Readable) (ms : List Move) {y : Turn} (hy : y.before = σ.after ms)
    (hx : x ∈ turns ms σ ++ [y]) (reads : x.Reads k feed size) (serves : y.Serves x) :
    CompanionTurn k feed size (turns ms σ) y x := by
  obtain ⟨τ, m⟩ := y
  obtain rfl : τ = σ.after ms := hy
  have hτ := h.after ms
  rcases serves.made_or_polls hx with rfl | ⟨hbefore, call, hpolls⟩
  · obtain ⟨c, hm, hc⟩ := start_read reads
    obtain rfl : m = .issue c := hm
    obtain ⟨hresult, hendpoint⟩ := act_start hc
    exact .looking _ hresult hendpoint (.inl rfl) (hτ.companionLookup companion _ _)
  · obtain ⟨hm, hcall⟩ := hpolls
    obtain rfl : m = .poll x.before.steps := hm
    obtain ⟨hmem, hticket⟩ := mem_of_call hcall
    obtain ⟨hresult, hendpoint⟩ := act_poll hcall
    have hphase := (leaves_companion companion h ms hbefore reads).task call hmem hticket
    rw [pollOf] at hresult hendpoint
    generalize htask : call.task = task at hphase hresult hendpoint
    cases hphase with
    | looking =>
      exact .looking _ hresult hendpoint
        (.inr ⟨call, ⟨rfl, hcall⟩, htask ▸ lookup_readTask companion⟩)
        (hτ.companionLookup companion _ _)
    | reading turn found tracked reading =>
      exact .reading _ hresult hendpoint turn found tracked ⟨rfl, hcall⟩ (reading.poll _ _)

end

/-- How a turn serves a read that found the stream `s` of a companion in the turn `l`. The turns
before it are `xs`. -/
structure Turn.ServesCompanion (k : SenderKey) (feed : Feed) (size : Nat) (s : StreamId)
    (xs : List Turn) (y l x : Turn) : Prop where
  idle : (y.before.sender k).lifecycle = .idle → y.result = .pending
  source : ∀ data attributes, y.result = .answered (.data (.ok (data, attributes))) →
    Took s size data y.before.endpoint y.after.endpoint
  live : (y.before.sender k).companionStream feed = some s ↔
    ∀ z ∈ xs, l.before.steps ≤ z.before.steps → ¬ z.Renews k feed
  ended : (∀ z ∈ xs, l.before.steps ≤ z.before.steps → ¬ z.Renews k feed) →
    ∀ z ∈ xs, z.ends k → z.succeeds → y.Prompt k x → ∃ r, y.result = .answered (.data r)

theorem servesCompanion {ms : List Move} {y l x : Turn} {P : Polled Reply} {p : Progress}
    (h : σ.Readable)
    (hy : y.before = σ.after ms) (result : y.result = P.result)
    (endpoint : y.after.endpoint = P.endpoint)
    (live : (y.before.sender k).companionStream feed = some s ↔
      ∀ z ∈ turns ms σ, l.before.steps ≤ z.before.steps → ¬ z.Renews k feed)
    (shutting : p.isShutting → ∃ c, y.Polls c x ∧ c.progress.isShutting)
    (polled : CompanionPolled k size s p y.before P) :
    y.ServesCompanion k feed size s (turns ms σ) l x := by
  refine ⟨fun hi => ?_, fun data attributes ok => ?_, live, fun kept z hz hends hok prompt => ?_⟩
  · cases polled with
    | idle => exact result
    | stopped lifecycle =>
      rw [hi] at lifecycle
      cases lifecycle
    | drawn sent => exact absurd hi (not_idle_of_hasSent sent)
  · rw [endpoint]
    cases polled with
    | idle => exact nomatch result.symm.trans ok
    | stopped => exact nomatch result.symm.trans ok
    | drawn _ _ drawn => exact took_of_polled drawn (result.symm.trans ok)
  · obtain ⟨hstopped, hclosed⟩ := closed_after h.numbered ms ⟨z, hz, hends, hok⟩
    rw [← hy] at hstopped hclosed
    rw [result]
    cases polled with
    | idle lifecycle =>
      rw [lifecycle] at hstopped
      cases hstopped
    | stopped => exact ⟨_, rfl⟩
    | drawn _ own drawn =>
      obtain ⟨b, hb, rfl⟩ := Option.map_eq_some_iff.mp (live.mpr kept)
      obtain ⟨e, he, hpart, bound⟩ := mem_of_companion hb
      have tidy := ((h.after ms).wellFormed k).tidy e (hy ▸ he)
      have held := mem_held he (bound tidy) hpart
      refine answered_of_polled drawn (fun late => ?_) (hclosed b held)
      rw [← endpoint] at late
      exact prompt.closes b held (late.imp_left (shutting ∘ own))

/-- A read of a companion waits for the lock, fails if the companion is not there, and otherwise
stays with the stream that it found. This is the one of the base encoding exactly as long as no
start renews it. -/
theorem companion_read_live_iff {σ : Session} (fresh : σ.Fresh)
    (layers : ∀ l ∈ σ.endpoint.chain, l.ForwardsReads) (k : SenderKey) {feed : Feed}
    (companion : feed.isCompanion) (size : Nat) (ms : List Move) (m : Move) :
    let y : Turn := ⟨σ.after ms, m⟩
    ∀ x ∈ turns ms σ ++ [y], x.Reads k feed size → y.Serves x →
      (y.FindsUnlooked k feed x ∧
        (y.before.pace.locked k ∧ y.result = .pending ∨
          y.before.pace.locked k = false ∧ (y.before.sender k).companionStream feed = none ∧
            y.result = .answered (.data (.error .noProgress)))) ∨
      ∃ l ∈ turns ms σ ++ [y], ∃ s, l.FindsCompanion k feed s x ∧
        y.ServesCompanion k feed size s (turns ms σ) l x := by
  intro y x hx reads serves
  have h := fresh.readable layers
  cases companionTurn companion h ms (y := y) rfl hx reads serves with
  | reading P result endpoint turn found tracked polls polled =>
    exact .inr ⟨_, List.mem_append_left _ turn, _, found,
      servesCompanion h rfl result endpoint tracked.live (fun shutting => ⟨_, polls, shutting⟩)
        polled⟩
  | looking P result endpoint looking polled =>
    cases polled with
    | locked locked => exact .inl ⟨looking, .inl ⟨locked, result⟩⟩
    | missing free missing => exact .inl ⟨looking, .inr ⟨free, missing, result⟩⟩
    | found free found polled =>
      refine .inr ⟨y, List.mem_append_right _ (List.mem_singleton_self y), _,
        ⟨looking, free, found⟩,
        servesCompanion h rfl result endpoint ?_ (absurd · Progress.not_shutting_fresh) polled⟩
      refine iff_of_true found fun z hz hle hr => ?_
      exact absurd (renewals_passed ms σ z hz hr) (Nat.not_lt.mpr hle)

def retrySession : Session where
  endpoint :=
    { capabilities :=
        { video := [⟨{ mimeType := Mime.vp8 }, 96⟩,
            ⟨{ mimeType := Mime.rtx, parameters := "apt=96" }, 97⟩] } }
  directory := lateSession.directory

def startWith (rtx : Ssrc) : Move :=
  .issue (.sender "s" (.start (some [{ ssrc := 1000, rtx }, { ssrc := 1002 }]) none))

/-- A start that fails after the base encoding is bound, a read, and a start that is tried again. -/
def retryMoves (rtx : Ssrc) : List Move :=
  [.issue (.sender "s" (.create (some "q") true)), .issue (.sender "s" (.extend (some "h"))),
    startWith 1001, .issue (.sender "s" (.read .rtx 2)), startWith rtx, .poll 3,
    .issue (.sender "s" .stop), .poll 3]

/-- The second start asks for no retransmission, and the base encoding keeps the companion it has.
-/
theorem kept_companion_read_ends :
    let asked : Turn :=
      ⟨retrySession.after ((retryMoves 0).take 3), .issue (.sender "s" (.read .rtx 2))⟩
    let served : Turn := ⟨retrySession.after ((retryMoves 0).take 7), .poll 3⟩
    let xs := turns ((retryMoves 0).take 7) retrySession
    (∃ l ∈ xs ++ [served], ∃ s, l.FindsCompanion 0 .rtx s asked ∧
      served.ServesCompanion 0 .rtx 2 s xs l asked) ∧
      asked.FindsCompanion 0 .rtx 3 asked ∧
      (∀ z ∈ xs, asked.before.steps ≤ z.before.steps → ¬ z.Renews 0 .rtx) ∧
      (∃ z ∈ xs, z.ends 0 ∧ z.succeeds) ∧ served.Prompt 0 asked ∧
      served.result = .answered (.data (.error .closedPipe)) := by
  intro asked served xs
  have fresh : retrySession.Fresh := ⟨rfl, rfl, rfl, rfl, rfl, rfl, rfl, rfl⟩
  have found : (asked.before.sender 0).companionStream .rtx = some 3 := by decide +kernel
  have kept : (served.before.sender 0).companionStream .rtx = some 3 := by decide +kernel
  have serves := (companion_read_live_iff fresh (List.forall_mem_nil _) 0
    (show Feed.isCompanion .rtx from rfl) 2 ((retryMoves 0).take 7) (.poll 3) asked
    (List.mem_append_left _ (List.mem_of_getElem? (i := 3) rfl)) ⟨"s", rfl, rfl⟩
    (.inr ⟨_, rfl, rfl⟩)).resolve_left fun ⟨_, looking⟩ =>
      looking.elim (fun ⟨locked, _⟩ => nomatch locked)
        fun ⟨_, missing, _⟩ => nomatch missing.symm.trans kept
  exact ⟨serves, ⟨.inl rfl, rfl, found⟩, by decide +kernel,
    ⟨_, List.mem_of_getElem? (i := 6) rfl, rfl, rfl⟩,
    ⟨fun _ _ _ _ => rfl, fun _ _ _ => rfl⟩, rfl⟩

/-- The second start gives the base encoding a new companion: the read waits for the old one, and no
stop ends it. -/
theorem renewed_companion_read_hangs :
    let τ := retrySession.after ((retryMoves 1001).take 7)
    let asked : Turn := ⟨retrySession.after ((retryMoves 1001).take 3),
      .issue (.sender "s" (.read .rtx 2))⟩
    let sent : Turn := ⟨retrySession.after ((retryMoves 1001).take 4), startWith 1001⟩
    let served : Turn := ⟨τ, .poll 3⟩
    retrySession.Fresh ∧ (∀ e ∈ τ.endpoint.trace, e.unbindFailure? = none) ∧
      (∀ ssrc, τ.endpoint.transport.failure ssrc .close = none) ∧
      asked.Reads 0 .rtx 2 ∧ asked.result = .pending ∧ sent.starts 0 ∧
      (∃ c, sent.before.call? 3 = some c ∧ c.task.lifecycle? = some (.ofSender 0)) ∧
      (asked.before.sender 0).companionStream .rtx = some 3 ∧
      (sent.after.sender 0).companionStream .rtx = some 6 ∧
      (∃ z ∈ turns ((retryMoves 1001).take 7) retrySession, z.ends 0 ∧ z.succeeds) ∧
      served.Serves asked ∧ served.Prompt 0 asked ∧ served.result = .pending := by
  refine ⟨⟨rfl, rfl, rfl, rfl, rfl, rfl, rfl, rfl⟩, by decide +kernel, fun _ => rfl,
    ⟨"s", rfl, rfl⟩, rfl, rfl, ⟨_, rfl, rfl⟩, by decide +kernel, by decide +kernel, ?_,
    .inr ⟨_, rfl, rfl⟩, ⟨fun _ _ _ _ => rfl, fun _ _ _ => rfl⟩, rfl⟩
  exact ⟨_, List.mem_of_getElem? (i := 6) rfl, rfl, rfl⟩

end Session

end MediaSender

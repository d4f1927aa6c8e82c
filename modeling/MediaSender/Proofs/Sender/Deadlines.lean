import MediaSender.Proofs.Run.Assignments
import MediaSender.Proofs.Sender.Feeds
import MediaSender.Proofs.Sender.Holdings
import MediaSender.Proofs.Sender.Layers
/-!
Read deadlines of encodings. A deadline is kept by the primary stream of an encoding, and a start
gives the encoding another primary stream, which takes the deadline over. So an encoding has the
deadline that was set for it last, however its streams and its track have changed since.
-/

namespace MediaSender

open Endpoint

structure Encoding.Dated (w : Endpoint) (deadline : Option Instant) (e : Encoding) : Prop where
  known : w.Known e.primary.stream
  owned : w.Owned e.primary.stream
  deadline : (w.stream e.primary.stream).deadline = deadline

def DatedBy (d : Nat → Option Instant) (es : List Encoding) (w : Endpoint) : Prop :=
  ∀ (i : Nat) e, es[i]? = some e → e.Dated w (d i)

variable {a : Sender} {w w' : Endpoint} {e e' : Encoding} {es es' : List Encoding} {c : Coding}
  {deadline : Option Instant} {d : Nat → Option Instant} {i j : Nat}

theorem Encoding.Dated.next (h : e.Dated w deadline) (same : e'.primary = e.primary)
    (extends_ : Extends w w') (keeps : KeepsDeadlines w w') : e'.Dated w' deadline where
  known := same ▸ extends_.known h.known
  owned := same ▸ extends_.owned h.owned
  deadline := same ▸ (keeps.deadline _ h.known).trans h.deadline

theorem datedBy_cons :
    DatedBy d (e :: es) w ↔ e.Dated w (d 0) ∧ DatedBy (fun i => d (i + 1)) es w := by
  constructor
  · exact fun h => ⟨h 0 e rfl, fun i => h (i + 1)⟩
  · rintro ⟨first, rest⟩ i e' he
    cases i with
    | zero =>
      cases he
      exact first
    | succ i => exact rest i e' he

theorem DatedBy.next (h : DatedBy d es w) (extends_ : Extends w w')
    (keeps : KeepsDeadlines w w') : DatedBy d es w' := fun i e he =>
  (h i e he).next rfl extends_ keeps

theorem DatedBy.of_bare (h : DatedBy d es w) (hb : es'.map (·.bare) = es.map (·.bare))
    (extends_ : Extends w w') (keeps : KeepsDeadlines w w') : DatedBy d es' w' := by
  intro i e' he'
  obtain ⟨e, he, bare⟩ := Sender.getElem?_of_bare hb he'
  exact (h i e he).next (congrArg (·.primary) bare) extends_ keeps

namespace Sender

theorem dated_newEncoding (id : String) (t : Track) (w : Endpoint) :
    (newEncoding t w).Dated (withEncoding id t w) none := by
  have hn : w.drawSsrc.nextStream = w.nextStream := congrArg Table.size (stream_drawSsrc w)
  have reserves : ∀ wanted w, KeepsDeadlines w (reserve wanted w) := fun wanted w => by
    simp only [reserve]
    split
    · exact steady_keepsDeadlines.drawSsrc w
    · exact .refl w
  have prepared : (newEncoding t w).Dated (prepared w) none := by
    refine ⟨known_prepared w, owned_bindReader _ _, ?_⟩
    change ((w.drawSsrc.addStream w.nextSsrc none).stream w.nextStream).deadline = none
    rw [← hn, stream_addStream_self]
  exact prepared.next rfl
    (((makes_reserve _ _).trans (makes_reserve _ _)).trans (makes_log _ _ _)).extends
    (((reserves _ _).trans (reserves _ _)).trans (steady_keepsDeadlines.log _ _ _))

theorem dated_startEncoding (l : Launch) (c : Coding) (known : e.Known w)
    (h : e.Dated w deadline) :
    (startEncoding l e c w).encoding.Dated (startEncoding l e c w).endpoint deadline := by
  have hextends := (startEncoding_makes l c known).1.extends
  have hkeeps := steady_keepsDeadlines.startEncoding l e c w
  have hs := encodingStarted l e c w
  generalize startEncoding l e c w = r at hextends hkeeps hs
  cases hs with
  | missing => exact h
  | failed => exact h.next rfl hextends hkeeps
  | bound t codec =>
    let context := contextOf l.id t c w
    let w₁ := (openPrimary e c w).bindTrack t context
    let w₂ := (bindStreams l t context w.nextStream w.nextGate codec c e w₁).endpoint
    have howned : w₁.Owned w.nextStream := List.mem_append_left _ (owned_openPrimary e c w)
    have hknown : w₁.Known w.nextStream := known_openPrimary e c w
    have hdeadline : (w₁.stream w.nextStream).deadline = deadline := by
      have opened := stream_addStream_self c.ssrc (w.stream e.primary.stream).deadline w
      exact (congrArg LazyStream.deadline opened).trans h.deadline
    have hmakes : Makes w₁ w₂ := makes_bindStreams l t w.nextGate codec c e howned
    have hbinds : w₁.KeepsDeadlines w₂ :=
      steady_keepsDeadlines.bindStreams l t context w.nextStream w.nextGate codec c e w₁
    exact ⟨hmakes.extends.known hknown, hmakes.extends.owned howned,
      (hbinds.deadline _ hknown).trans hdeadline⟩

theorem datedBy_startAll (l : Launch) (cs : List Coding) (known : ∀ e ∈ es, e.Known w)
    (h : DatedBy d es w) :
    DatedBy d (startAll l es cs w).encodings (startAll l es cs w).endpoint := by
  induction es generalizing cs w d with
  | nil => exact h
  | cons e es ih =>
    cases cs with
    | nil => exact h
    | cons c cs =>
      obtain ⟨first, rest⟩ := datedBy_cons.mp h
      obtain ⟨hknown, hknowns⟩ := List.forall_mem_cons.mp known
      have hmakes := (startEncoding_makes l c hknown).1
      have hkeeps := steady_keepsDeadlines.startEncoding l e c w
      have hfirst := dated_startEncoding l c hknown first
      have hrest := rest.next hmakes.extends hkeeps
      cases ho : (startEncoding l e c w).outcome with
      | error f =>
        rw [startAll_error ho]
        exact datedBy_cons.mpr ⟨hfirst, hrest⟩
      | ok payloadType =>
        have hknowns' : ∀ e' ∈ es, e'.Known (startEncoding l e c w).endpoint := fun e' he' =>
          (hknowns e' he').extends hmakes.extends
        have hextends := (startAll_makes l es cs hknowns').1.extends
        have hkept := steady_keepsDeadlines.startAll l es cs (startEncoding l e c w).endpoint
        rw [startAll_ok ho]
        exact datedBy_cons.mpr ⟨hfirst.next rfl hextends hkept, ih cs hknowns' hrest⟩

theorem datedBy_act (x : Action) (known : a.Known w) (extends_ : Extends w (a.act x w).endpoint)
    (unset : ∀ i, a.encodings.length ≤ i → d i = none) (h : DatedBy d a.encodings w) :
    DatedBy d (a.act x w).sender.encodings (a.act x w).endpoint := by
  have hkeeps := steady_keepsDeadlines.act x a w
  cases x with
  | extend track =>
    have hr : Extended track a w (a.act (.extend track) w) := extended track a w
    generalize a.act (.extend track) w = r at hr extends_ hkeeps
    cases hr with
    | refused => exact h
    | added t =>
      intro i e he
      rcases Nat.lt_trichotomy i a.encodings.length with hi | rfl | hi
      · exact h.next extends_ hkeeps i e ((List.getElem?_append_left hi).symm.trans he)
      · cases List.getElem?_concat_length.symm.trans he
        rw [unset _ (Nat.le_refl _)]
        exact dated_newEncoding a.id t w
      · refine absurd he ?_
        rw [show (a.append t w).1.encodings = a.encodings ++ [newEncoding t w] from rfl,
          List.getElem?_eq_none (by rw [List.length_append]; exact hi)]
        exact nofun
  | swapTrack track => exact h.of_bare (bare_swapTrack track a w) extends_ hkeeps
  | start p =>
    have hr : Launched p a w (a.act (.start p) w) := launched p a w
    generalize a.act (.start p) w = r at hr
    cases hr with
    | refused => exact h
    | failed f r check all => exact all ▸ datedBy_startAll _ _ known h
    | sent payloadType r check all => exact all ▸ datedBy_startAll _ _ known h
  | stop => exact h.of_bare (bare_stop a w) extends_ hkeeps

theorem track_of_carries {rid : String} (h : e.carries rid) :
    ∃ t, e.track = some t ∧ t.ridText = rid := by
  rw [Encoding.carries, Encoding.rid] at h
  cases ht : e.track with
  | none =>
    rw [ht] at h
    cases h
  | some t =>
    rw [ht] at h
    exact ⟨t, rfl, beq_iff_eq.mp h⟩

theorem eq_of_carries (h : Envelope a.kind a.tracks) {rid : String}
    (hi : a.encodings[i]? = some e) (hj : a.encodings[j]? = some e') (he : e.carries rid)
    (he' : e'.carries rid) : i = j := by
  obtain ⟨hli, rfl⟩ := List.getElem?_eq_some_iff.mp hi
  obtain ⟨hlj, rfl⟩ := List.getElem?_eq_some_iff.mp hj
  by_cases hlen : 2 ≤ a.tracks.length
  · have distinct := (h.simulcast hlen).distinct
    rw [List.reduceOption, Sender.tracks, List.filterMap_map, List.nodup_iff_pairwise_ne,
      List.pairwise_map, List.pairwise_filterMap, List.pairwise_iff_getElem] at distinct
    obtain ⟨t, ht, rfl⟩ := track_of_carries he
    obtain ⟨t', ht', hrid⟩ := track_of_carries he'
    rcases Nat.lt_trichotomy i j with hlt | heq | hlt
    · exact absurd hrid.symm (distinct i j hli hlj hlt t ht t' ht')
    · exact heq
    · exact absurd hrid (distinct j i hlj hli hlt t' ht' t ht)
  · rw [Sender.tracks, List.length_map] at hlen
    omega

end Sender

namespace Session

open Sender

variable {σ : Session} {m : Move} {k k' : SenderKey} {i i' : Nat} {e e' : Encoding}

def Apart (σ : Session) : Prop :=
  ∀ j k, j ≠ k → (streamsOf (σ.sender j).encodings).Disjoint (streamsOf (σ.sender k).encodings)

theorem one_stays (m : Move) (σ : Session) {j : SenderKey} (h : j ≠ k) :
    (σ.sender j).SameUpToNegotiation ((σ.act m).1.sender j) ∨
      (σ.sender k).SameUpToNegotiation ((σ.act m).1.sender k) := by
  have refl : ∀ {j}, (σ.act m).1.sender j = σ.sender j →
      (σ.sender j).SameUpToNegotiation ((σ.act m).1.sender j) := fun h => by
    rw [h]
    exact .refl _
  cases (course m σ).becomes j with
  | acted x action => exact .inr (refl (sender_act_ne action h.symm))
  | stayed action sender => exact .inl sender
  | made t action number =>
    cases (course m σ).becomes k with
    | acted x action => exact .inl (refl (sender_act_ne action h))
    | stayed action sender => exact .inr sender
    | made t' action' number' => exact absurd (number.trans number'.symm) h

theorem streams_of_sameUpToNegotiation {a b : Sender} (h : a.SameUpToNegotiation b) :
    streamsOf b.encodings = streamsOf a.encodings := by
  obtain ⟨n, t, rfl⟩ := h
  rfl

theorem Apart.act (h : σ.Apart) (hσ : σ.Sound) (m : Move) : (σ.act m).1.Apart := by
  -- What a sender comes to hold in a move is one of its old streams, or new to all.
  have kept : ∀ {j k s}, j ≠ k → (σ.sender k).SameUpToNegotiation ((σ.act m).1.sender k) →
      s ∈ streamsOf ((σ.act m).1.sender j).encodings →
      s ∉ streamsOf ((σ.act m).1.sender k).encodings := by
    intro j k s hne stays hj hk
    rw [streams_of_sameUpToNegotiation stays] at hk
    rcases streams_move hσ m j s hj with hj | hnew
    · exact h j k hne hj hk
    · exact absurd (known_streams (hσ.senders k) s hk) (Nat.not_lt.mpr hnew)
  intro j k hne s hj hk
  rcases one_stays m σ hne with stays | stays
  · exact kept hne.symm stays hk hj
  · exact kept hne stays hj hk

theorem Fresh.apart (h : σ.Fresh) : σ.Apart := fun j k _ => by
  rw [h.sender_eq j]
  exact fun _ hs => nomatch hs

theorem Apart.after (h : σ.Apart) (hσ : σ.Sound) (ms : List Move) : (σ.after ms).Apart := by
  induction ms generalizing σ with
  | nil => exact h
  | cons m ms ih => exact ih (h.act hσ m) (hσ.act m)

/-- What is relied on: each sender has its own streams and each encoding another one, and the tracks
of a sender fit together. -/
structure Arranged (σ : Session) : Prop where
  sound : σ.Sound
  wellFormed : σ.WellFormed
  apart : σ.Apart
  enveloped : σ.Enveloped

theorem Fresh.arranged (h : σ.Fresh) (ms : List Move) : (σ.after ms).Arranged where
  sound := h.sound.after ms
  wellFormed := h.wellFormed.after h.sound ms
  apart := h.apart.after h.sound ms
  enveloped := h.enveloped.after h.sound ms

theorem Arranged.stream_eq_iff (h : σ.Arranged) (he : (σ.sender k).encodings[i]? = some e)
    (he' : (σ.sender k').encodings[i']? = some e') :
    e'.primary.stream = e.primary.stream ↔ k' = k ∧ i' = i := by
  constructor
  · intro same
    by_cases hk : k' = k
    · subst hk
      refine ⟨rfl, by_contra fun hi => ?_⟩
      refine disjoint_streams (h.wellFormed k').distinct he he' hi List.mem_cons_self ?_
      rw [← same]
      exact List.mem_cons_self
    · have mem := mem_streams he'
      rw [same] at mem
      exact absurd (mem_streams he) (h.apart k' k hk mem)
  · rintro ⟨rfl, rfl⟩
    cases he.symm.trans he'
    rfl

/-- The read deadline that a turn sets for encoding number `i` of a sender: for the base, or by the
RID that the track of the encoding has then. -/
def Turn.dates? (k : SenderKey) (i : Nat) (x : Turn) : Option (Option Instant) :=
  match x.move with
  | .issue (.sender name (.setBaseDeadline ms)) =>
    if x.before.directory.senders.lookup name = some k ∧ i = 0 then some (x.before.moment ms)
    else none
  | .issue (.sender name (.setDeadline ms rid)) =>
    if x.before.directory.senders.lookup name = some k ∧
        ((x.before.sender k).encodings[i]?).any (·.carries rid) then some (x.before.moment ms)
    else none
  | _ => none

def latestDate (k : SenderKey) (xs : List Turn) (i : Nat) : Option Instant :=
  (xs.filterMap (·.dates? k i)).getLastD none

theorem latestDate_snoc (k : SenderKey) (xs : List Turn) (x : Turn) (i : Nat) :
    latestDate k (xs ++ [x]) i = (x.dates? k i).getD (latestDate k xs i) := by
  rw [latestDate, latestDate, List.filterMap_append]
  cases h : x.dates? k i <;> simp [h]

theorem Arranged.encoding_of_name (h : σ.Arranged) {name : String}
    (hk : σ.directory.senders.lookup name = some k) :
    ∃ e es, (σ.sender k).encodings = e :: es :=
  List.exists_cons_of_ne_nil
    (encodings_ne_nil (h.enveloped k (h.sound.keys _ (mem_of_lookup hk))))

section

variable (h : σ.Arranged) (he : (σ.sender k).encodings[i]? = some e)

include h

theorem Arranged.datedTo_named (owned : σ.endpoint.Owned e.primary.stream) (name : String)
    (ms : Option Int) :
    σ.datedTo (.issue (.stream name (.setDeadline ms))) e.primary.stream = none := by
  change (Option.map _ (σ.directory.streams.lookup name)).bind _ = none
  cases hs : σ.directory.streams.lookup name with
  | none => rfl
  | some s =>
    -- A stream with a name belongs to no sender.
    have free : s ≠ e.primary.stream := by
      rintro rfl
      exact (h.sound.endpoint.free _ ⟨name, mem_of_lookup hs⟩).2 owned
    exact if_neg free

include he

theorem Arranged.dated_iff (he' : (σ.sender k').encodings[i']? = some e')
    (deadline : Option Instant) :
    (if e'.primary.stream = e.primary.stream then some deadline else none) =
      if k' = k ∧ i' = i then some deadline else none :=
  if_congr (h.stream_eq_iff he he') rfl rfl

theorem Arranged.found_iff {rid : String} (hk : k < σ.roster.senders.size)
    (hf : (σ.sender k).encodings.find? (·.carries rid) = some e')
    (he' : (σ.sender k).encodings[i']? = some e') : i' = i ↔ e.carries rid := by
  have carried : e'.carries rid := List.find?_some hf
  constructor
  · rintro rfl
    cases he.symm.trans he'
    exact carried
  · exact fun carries => eq_of_carries (h.enveloped k hk) he' he carried carries

theorem Arranged.datedTo_base (name : String) (ms : Option Int) :
    let m := Move.issue (.sender name (.setBaseDeadline ms))
    σ.datedTo m e.primary.stream = Turn.dates? k i ⟨σ, m⟩ := by
  simp only [datedTo, dating?, Turn.dates?]
  cases hk : σ.directory.senders.lookup name with
  | none => simp
  | some k' =>
    obtain ⟨e', es, hes⟩ := h.encoding_of_name hk
    have he' : (σ.sender k').encodings[0]? = some e' := by rw [hes]; rfl
    have hbase : (σ.sender k').base = some e' := by rw [base, hes]; rfl
    simp only [hbase, Option.bind_some, Option.map_some, Option.some.injEq]
    exact (h.dated_iff he he' _).trans (if_congr (and_congr_right fun _ => eq_comm) rfl rfl)

theorem Arranged.datedTo_rid (name rid : String) (ms : Option Int) :
    let m := Move.issue (.sender name (.setDeadline ms rid))
    σ.datedTo m e.primary.stream = Turn.dates? k i ⟨σ, m⟩ := by
  simp only [datedTo, dating?, Turn.dates?]
  cases hk : σ.directory.senders.lookup name with
  | none => simp
  | some k' =>
    have born : k' < σ.roster.senders.size := h.sound.keys _ (mem_of_lookup hk)
    simp only [Option.bind_some, Option.some.injEq]
    cases hf : (σ.sender k').encodings.find? (·.carries rid) with
    | none =>
      refine (if_neg ?_).symm
      rintro ⟨rfl, carries⟩
      rw [he] at carries
      exact List.find?_eq_none.mp hf e (List.mem_of_getElem? he) carries
    | some e' =>
      obtain ⟨i', he'⟩ := List.mem_iff_getElem?.mp (List.mem_of_find?_eq_some hf)
      refine (h.dated_iff he he' _).trans (if_congr (and_congr_right ?_) rfl rfl)
      rintro rfl
      rw [he]
      exact h.found_iff he born hf he'

theorem Arranged.datedTo_eq (owned : σ.endpoint.Owned e.primary.stream) (m : Move) :
    σ.datedTo m e.primary.stream = Turn.dates? k i ⟨σ, m⟩ := by
  cases m with
  | issue c =>
    cases c with
    | stream name c =>
      cases c with
      | setDeadline ms => exact h.datedTo_named owned name ms
      | _ => rfl
    | sender name c =>
      cases c with
      | setBaseDeadline ms => exact h.datedTo_base he name ms
      | setDeadline ms rid => exact h.datedTo_rid he name rid ms
      | _ => rfl
    | _ => rfl
  | _ => rfl

end

theorem Arranged.of_dates (h : σ.Arranged) {deadline : Option Instant}
    (hd : Turn.dates? k i ⟨σ, m⟩ = some deadline) :
    k < σ.roster.senders.size ∧ i < (σ.sender k).encodings.length := by
  unfold Turn.dates? at hd
  dsimp only at hd
  split at hd
  · split at hd
    · rename_i hset
      obtain ⟨e, es, hes⟩ := h.encoding_of_name hset.1
      refine ⟨h.sound.keys _ (mem_of_lookup hset.1), ?_⟩
      rw [hset.2, hes]
      exact Nat.zero_lt_succ _
    · cases hd
  · split at hd
    · rename_i hset
      refine ⟨h.sound.keys _ (mem_of_lookup hset.1), ?_⟩
      by_contra hi
      rw [List.getElem?_eq_none (Nat.not_lt.mp hi)] at hset
      exact Bool.false_ne_true hset.2
    · cases hd
  · cases hd

theorem dates_of_action {k' : SenderKey} {x : Action} (h : σ.action? m = some (k', x))
    (k : SenderKey)
    (i : Nat) : Turn.dates? k i ⟨σ, m⟩ = none := by
  unfold Turn.dates?
  dsimp only
  split
  · obtain ⟨k'', -, hx⟩ := Option.bind_eq_some_iff.mp h
    cases hx
  · obtain ⟨k'', -, hx⟩ := Option.bind_eq_some_iff.mp h
    cases hx
  · rfl

/-- Each encoding of a sender has the deadline that was set for it last, and none was set for an
encoding that is still to come. -/
structure Dated (k : SenderKey) (xs : List Turn) (σ : Session) : Prop where
  held : DatedBy (latestDate k xs) (σ.sender k).encodings σ.endpoint
  unset : ∀ i, (k < σ.roster.senders.size → (σ.sender k).encodings.length ≤ i) →
    latestDate k xs i = none

theorem Arranged.length_le (h : σ.Arranged) (m : Move) (born : k < σ.roster.senders.size) :
    (σ.sender k).encodings.length ≤ ((σ.act m).1.sender k).encodings.length := by
  rcases growsAtEnd_act h.enveloped m born with same | ⟨e, more⟩
  · exact Nat.le_of_eq same.symm
  · rw [more, List.length_append]
    exact Nat.le_add_right _ _

section

variable {xs : List Turn} (h : Dated k xs σ) (hσ : σ.Arranged)

include h hσ

theorem Dated.latestDate_eq_none (m : Move)
    (absent : k < σ.roster.senders.size → (σ.sender k).encodings.length ≤ i) :
    latestDate k (xs ++ [⟨σ, m⟩]) i = none := by
  have undated : Turn.dates? k i ⟨σ, m⟩ = none := by
    refine Option.eq_none_iff_forall_ne_some.mpr fun deadline hd => ?_
    obtain ⟨born, hi⟩ := hσ.of_dates hd
    exact absurd hi (Nat.not_lt.mpr (absent born))
  rw [latestDate_snoc, undated, Option.getD_none, h.unset i absent]

theorem Dated.held_of_sameUpToNegotiation
    (stays : (σ.sender k).SameUpToNegotiation ((σ.act m).1.sender k)) :
    DatedBy (latestDate k (xs ++ [⟨σ, m⟩])) ((σ.act m).1.sender k).encodings
      (σ.act m).1.endpoint := by
  obtain ⟨n, t, hs⟩ := stays
  have hextends := extends_act hσ.sound m
  rw [hs]
  intro i e he
  obtain ⟨known, owned, deadline⟩ := h.held i e he
  refine ⟨hextends.known known, hextends.owned owned, ?_⟩
  rw [(assigned_act m σ).deadlines _ known, hσ.datedTo_eq he owned, deadline, latestDate_snoc]

theorem Dated.held_of_action {x : Action} (action : σ.action? m = some (k, x)) :
    DatedBy (latestDate k (xs ++ [⟨σ, m⟩])) ((σ.act m).1.sender k).encodings
      (σ.act m).1.endpoint := by
  have hextends := extends_act hσ.sound m
  have born := action_lt hσ.sound action
  have same : latestDate k (xs ++ [⟨σ, m⟩]) = latestDate k xs := funext fun i => by
    rw [latestDate_snoc, dates_of_action action, Option.getD_none]
  rw [endpoint_act action] at hextends
  rw [same, sender_act action, endpoint_act action]
  exact datedBy_act x (hσ.sound.senders k) hextends (fun i hi => h.unset i fun _ => hi) h.held

theorem Dated.act (m : Move) : Dated k (xs ++ [⟨σ, m⟩]) (σ.act m).1 := by
  constructor
  · have made := h.latestDate_eq_none hσ (i := 0) m
    have stays := h.held_of_sameUpToNegotiation hσ (m := m)
    have acts := fun {x} => h.held_of_action hσ (m := m) (x := x)
    have hc := course m σ
    generalize (σ.act m).1 = σ' at hc stays acts ⊢
    cases hc with
    | errand action endpoint senders => exact stays (senders k)
    | poll action task t p endpoint roster =>
      refine stays ?_
      rw [sender, sender, roster]
      exact .refl _
    | create t creates action given endpoint roster =>
      have hs : σ'.sender k = _ := (congrArg (·.sender k) roster).trans (sender_addSender k _ _)
      by_cases hk : k = σ.roster.senders.size
      · rw [if_pos hk] at hs
        have hd := dated_newEncoding σ.endpoint.nextId t σ.endpoint.drawId
        rw [← made fun born => absurd born (by rw [hk]; exact Nat.lt_irrefl _)] at hd
        rw [hs, endpoint]
        exact datedBy_cons.mpr ⟨hd, fun i e he => by cases he⟩
      · refine stays ?_
        rw [hs, if_neg hk]
        exact .refl _
    | @act k' x action endpoint roster =>
      have hs : σ'.sender k = _ := (congrArg (·.sender k) roster).trans (sender_setSender k' k _ _)
      by_cases hk : k = k'
      · subst hk
        exact acts action
      · refine stays ?_
        rw [hs, if_neg hk]
        exact .refl _
  · intro i hi
    refine h.latestDate_eq_none hσ m fun born => ?_
    exact Nat.le_trans (hσ.length_le m born)
      (hi (Nat.lt_of_lt_of_le born (course m σ).size_le))

end

theorem dated_after (fresh : σ.Fresh) (ms : List Move) (k : SenderKey) :
    Dated k (turns ms σ) (σ.after ms) := by
  induction ms using List.reverseRecOn with
  | nil =>
    refine ⟨fun i e he => ?_, fun i _ => rfl⟩
    rw [after, fresh.sender_eq k] at he
    cases he
  | append_singleton ms m ih =>
    rw [turns_snoc, after_snoc]
    exact ih.act (fresh.arranged ms) m

theorem result_of_dating {s : StreamId} {deadline : Option Instant}
    (h : σ.dating? m = some (s, deadline)) : (σ.act m).2 = .answered (.outcome (.ok ())) := by
  unfold dating? at h
  split at h
  · obtain ⟨s', hs, -⟩ := Option.map_eq_some_iff.mp h
    simp only [Session.act, issue, Session.start, streamCommand, withNamed, hs, toStream, turn]
  · obtain ⟨k, hk, -⟩ := Option.bind_eq_some_iff.mp h
    simp only [Session.act, issue, Session.start, senderCommand, withNamed, hk, toSender, turn]
  · obtain ⟨k, hk, h⟩ := Option.bind_eq_some_iff.mp h
    obtain ⟨e, he, -⟩ := Option.map_eq_some_iff.mp h
    simp only [Session.act, issue, Session.start, senderCommand, withNamed, hk, toSender,
      Sender.setDeadline, he, turn]
  · cases h

theorem deadline_of_result {s : StreamId} (known : σ.endpoint.Known s)
    (h : (σ.act m).2 ≠ .answered (.outcome (.ok ()))) :
    ((σ.act m).1.endpoint.stream s).deadline = (σ.endpoint.stream s).deadline := by
  have none : σ.dating? m = none :=
    Option.eq_none_iff_forall_ne_some.mpr fun _ hd => h (result_of_dating hd)
  rw [(assigned_act m σ).deadlines s known, datedTo, none]
  rfl

inductive Turn.SetsBy (rid : String) (a : Sender) (y : Turn) : Prop
  | found (e : Encoding) (mem : e ∈ a.encodings) (carries : e.carries rid)
      (result : y.result = .answered (.outcome (.ok ())))
  | unknown (absent : ∀ e ∈ a.encodings, ¬ e.carries rid)
      (result : y.result = .answered (.outcome (.error (.unknownRid rid))))
      (same : y.after = { y.before with steps := y.before.steps + 1 })

theorem setsBy {name rid : String} (hk : σ.directory.senders.lookup name = some k)
    (ms : Option Int) :
    Turn.SetsBy rid (σ.sender k) ⟨σ, .issue (.sender name (.setDeadline ms rid))⟩ := by
  cases hf : (σ.sender k).encodings.find? (·.carries rid) with
  | some e =>
    refine .found e (List.mem_of_find?_eq_some hf) (List.find?_some hf) ?_
    simp only [Turn.result, Session.act, issue, Session.start, senderCommand, withNamed, hk,
      toSender, Sender.setDeadline, hf, turn]
  | none =>
    have acted : σ.act (.issue (.sender name (.setDeadline ms rid))) =
        ({ σ with steps := σ.steps + 1 }, .answered (.outcome (.error (.unknownRid rid)))) := by
      simp only [Session.act, issue, Session.start, senderCommand, withNamed, hk, toSender,
        Sender.setDeadline, hf, turn]
    exact .unknown (List.find?_eq_none.mp hf) (congrArg Prod.snd acted) (congrArg Prod.fst acted)

/-- The primary stream of an encoding has the read deadline that was set for the encoding last: for
the base, or by the RID that the track of the encoding had. If none was set, it has none. A deadline
that is set by a RID that no track carries fails, and nothing changes; no turn that fails changes
the deadline of a stream. -/
theorem latest_deadline_is_kept (fresh : σ.Fresh) (ms : List Move) :
    let τ := σ.after ms
    (∀ k i e, (τ.sender k).encodings[i]? = some e →
      (τ.endpoint.stream e.primary.stream).deadline = latestDate k (turns ms σ) i) ∧
    (∀ name k date rid, τ.directory.senders.lookup name = some k →
      Turn.SetsBy rid (τ.sender k) ⟨τ, .issue (.sender name (.setDeadline date rid))⟩) ∧
    ∀ m s, τ.endpoint.Known s → Turn.result ⟨τ, m⟩ ≠ .answered (.outcome (.ok ())) →
      ((τ.act m).1.endpoint.stream s).deadline = (τ.endpoint.stream s).deadline :=
  ⟨fun k i e he => ((dated_after fresh ms k).held i e he).deadline,
    fun _ _ date _ hk => setsBy hk date, fun _ _ => deadline_of_result⟩

def datedLayers : List Move :=
  twoLayers ++
    [.issue (.sender "s" (.setBaseDeadline (some 5))),
      .issue (.sender "s" (.setDeadline (some 3) "h")),
      .issue (.world (.advance 2)), .issue (.sender "s" (.setDeadline (some 7) "q")), launchMove]

/-- The base has another stream by then, with the deadline that was set last. -/
theorem failed_start_keeps_deadlines :
    let τ := goneSession.after datedLayers
    goneSession.Fresh ∧ ∃ e e', (τ.sender 0).encodings = [e, e'] ∧
      e.primary.stream = 2 ∧ (τ.endpoint.stream 2).deadline = some 9 ∧
      e'.primary.stream = 1 ∧ (τ.endpoint.stream 1).deadline = some 3 ∧
      (Turn.result ⟨τ, .issue (.sender "s" (.setDeadline none "x"))⟩ =
        .answered (.outcome (.error (.unknownRid "x")))) := by
  intro τ
  have fresh : goneSession.Fresh := fresh_of_tracks rfl _
  obtain ⟨kept, sets, -⟩ := latest_deadline_is_kept fresh datedLayers
  have absent : ∀ e ∈ (τ.sender 0).encodings, ¬ e.carries "x" := by decide
  refine ⟨fresh, _, _, rfl, rfl, kept 0 0 _ rfl, rfl, kept 0 1 _ rfl, ?_⟩
  cases sets "s" 0 none "x" rfl with
  | found e mem carries => exact absurd carries (absent e mem)
  | unknown _ result => exact result

end Session

end MediaSender

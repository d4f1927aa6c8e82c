import MediaSender.Proofs.Sender.Lifespan
import MediaSender.Proofs.Sender.Wiring
import MediaSender.Proofs.Stream.OpenOnce
import Mathlib.Data.List.Nodup
/-!
Each layer keeps to its stream for as long as the sender sends. Whatever else goes on in the
session, the encodings stay wired as the start has wired them, and a packet that is written to the
track of one of them comes out on the stream of this encoding and on no other.
-/

namespace MediaSender

namespace Session

open Endpoint Sender

variable {σ : Session} {m : Move} {k : SenderKey} {cs : List Coding}

theorem Effect.extends {σ' : Session} (h : σ.Sound) (he : Effect m σ σ') :
    Extends σ.endpoint σ'.endpoint := by
  rcases he.endpoint h with hb | ha | ⟨ssrc, hs⟩
  · exact hb.extends
  · refine ⟨Nat.le_of_eq (by rw [ha.streams]), ha.trace ▸ List.prefix_rfl, fun s _ => ?_⟩
    rw [stream, stream, ha.streams]
    exact .refl _
  · exact hs ▸ extends_addStream ssrc none _

theorem sameTies_of_events (h : σ.Sound) {key : TrackKey}
    (hes : ∀ e ∈ eventsSince σ (σ.act m).1, e.ties key = false) :
    SameTies key σ.endpoint (σ.act m).1.endpoint := by
  have he := effect h m
  obtain ⟨es, ht⟩ := (he.extends h).trace
  constructor
  · rcases he.endpoint h with hb | ha | ⟨ssrc, hs⟩
    · exact hb.bindings_of_events hes
    · rw [bindings, ha.tracks, ← bindings]
    · rw [hs]
      rfl
  · refine negotiated_of_events ht.symm ?_
    rwa [eventsSince, ← ht, List.drop_left] at hes

theorem streams_move (h : σ.Sound) (m : Move) (j : SenderKey) :
    ∀ s ∈ streamsOf ((σ.act m).1.sender j).encodings,
      s ∈ streamsOf (σ.sender j).encodings ∨ σ.endpoint.nextStream ≤ s := by
  cases (course m σ).becomes j with
  | acted x action sender =>
    rw [sender]
    exact streams_act x (h.senders j)
  | stayed action sender =>
    obtain ⟨n, t, hs⟩ := sender
    rw [hs]
    exact fun s => .inl
  | made t action number sender =>
    intro s hs
    rw [sender] at hs
    change s ∈ streamsOf [newEncoding t σ.endpoint.drawId] at hs
    rw [streamsOf, List.flatMap_singleton, streams_newEncoding] at hs
    exact .inr (Nat.le_of_eq (List.mem_singleton.mp hs).symm)

theorem sender_act_ne {x : Action} (hx : σ.action? m = some (k, x)) {j : SenderKey} (hj : j ≠ k) :
    (σ.act m).1.sender j = σ.sender j := by
  rw [act_of_action hx]
  exact (sender_setSender k j _ σ.roster).trans (if_neg hj)

theorem untouched_move (h : ∀ e ∈ (σ.sender k).encodings, e.Untouched)
    (hm : Turn.asks k (Action.launches (σ.sender k)) ⟨σ, m⟩ = false) :
    ∀ e ∈ ((σ.act m).1.sender k).encodings, e.Untouched := by
  cases (course m σ).becomes k with
  | acted x action sender =>
    rw [sender]
    exact untouched_act h ((Turn.asks_of_action action _).symm.trans hm) _
  | stayed action sender =>
    obtain ⟨n, t, hs⟩ := sender
    rw [hs]
    exact h
  | made t action number sender =>
    rw [sender]
    exact List.forall_mem_singleton.mpr (untouched_newEncoding t _)

/-- No start of the sender has got past its checks. -/
def Turn.NoLaunch (k : SenderKey) (x : Turn) : Prop :=
  x.asks k (Action.launches (x.before.sender k)) = false

theorem untouched_after (h : ∀ e ∈ (σ.sender k).encodings, e.Untouched) {ms : List Move}
    (hms : ∀ x ∈ turns ms σ, x.NoLaunch k) :
    ∀ e ∈ ((σ.after ms).sender k).encodings, e.Untouched := by
  induction ms generalizing σ with
  | nil => exact h
  | cons m ms ih =>
    obtain ⟨hm, hms⟩ := List.forall_mem_cons.mp hms
    exact ih (untouched_move h hm) hms

/-- What is kept while a sender sends: its encodings are wired, and no other sender has anything to
do with their streams. -/
structure Sends (k : SenderKey) (cs : List Coding) (σ : Session) : Prop where
  fair : Fair σ.endpoint
  born : k < σ.roster.senders.size
  lifecycle : (σ.sender k).lifecycle = .sending
  wired : Wired (σ.sender k).id (σ.sender k).encodings cs σ.endpoint
  distinct : (streamsOf (σ.sender k).encodings).Nodup
  apart : ∀ j, j ≠ k → ∀ s ∈ streamsOf (σ.sender j).encodings,
    s ∉ streamsOf (σ.sender k).encodings

/-- What is supposed of a turn after the start: the transport is left alone, the sender is not
stopped and takes every track that it is given, and while it has a track, nobody else binds that
track or unbinds it. A track that it is given has a fixed format, and it is bound nowhere or is the
one that the sender has already. -/
structure Turn.Peaceful (k : SenderKey) (x : Turn) : Prop where
  untroubled : x.move.troubles = false
  unstopped : x.asks k Action.isStop = false
  swaps : ∀ track, x.before.action? x.move = some (k, .swapTrack track) →
    x.result = .answered (.outcome (.ok ())) ∧ ∀ t, track = some t →
      t.isFixed ∧ ((x.before.endpoint.track t).bindings = [] ∨ some t ∈ (x.before.sender k).tracks)
  alone : (∀ y, x.before.action? x.move ≠ some (k, y)) →
    ∀ t, some t ∈ (x.before.sender k).tracks →
      ∀ e ∈ eventsSince x.before x.after, e.ties t.key = false

theorem Sends.not_closes (h : Sends k cs σ) (hσ : σ.Sound)
    (unstopped : Turn.asks k Action.isStop ⟨σ, m⟩ = false) {i : Nat} {e : Encoding}
    (he : (σ.sender k).encodings[i]? = some e) : ¬ σ.Closes m e.primary.stream := by
  obtain ⟨c, -, hwire⟩ := h.wired i e he
  rintro (⟨name, -, hfree⟩ | ⟨j, x, action, hx⟩ | htrap)
  · exact (hσ.endpoint.free _ ⟨name, mem_of_lookup hfree⟩).2 hwire.owned
  · cases x with
    | stop =>
      obtain ⟨b, hb, hstream⟩ := hx
      by_cases hj : j = k
      · subst hj
        exact absurd ((Turn.asks_of_action action _).symm.trans unstopped) (by decide)
      · have hmem := mem_streams_of_held hb
        rw [hstream] at hmem
        exact h.apart j hj _ hmem (mem_streams he)
    | _ => exact hx
  · exact nomatch h.fair.trap.symm.trans htrap

theorem Sends.next (h : Sends k cs σ) (hσ : σ.Sound) (untroubled : m.troubles = false)
    (hid : ((σ.act m).1.sender k).id = (σ.sender k).id)
    (lifecycle : ((σ.act m).1.sender k).lifecycle = (σ.sender k).lifecycle)
    (streams : streamsOf ((σ.act m).1.sender k).encodings = streamsOf (σ.sender k).encodings)
    (wired : Wired (σ.sender k).id ((σ.act m).1.sender k).encodings cs (σ.act m).1.endpoint) :
    Sends k cs (σ.act m).1 where
  fair := ((course m σ).smooth untroubled).fair h.fair
  born := Nat.lt_of_lt_of_le h.born (course m σ).size_le
  lifecycle := lifecycle.trans h.lifecycle
  wired := hid ▸ wired
  distinct := streams ▸ h.distinct
  apart j hj s hsj hsk := by
    rw [streams] at hsk
    -- A stream that another sender has come to in this move is new to all.
    rcases streams_move hσ m j s hsj with hsj | hnew
    · exact h.apart j hj s hsj hsk
    · exact absurd (known_streams (hσ.senders k) s hsk) (Nat.not_lt.mpr hnew)

theorem Sends.swap (h : Sends k cs σ) (hσ : σ.Sound) (he : σ.Enveloped) {track : Option Track}
    (action : σ.action? m = some (k, .swapTrack track)) (peaceful : Turn.Peaceful k ⟨σ, m⟩) :
    Sends k cs (σ.act m).1 := by
  obtain ⟨hanswer, hgiven⟩ := peaceful.swaps track action
  have hok : ((σ.sender k).swapTrack track σ.endpoint).outcome = .ok () :=
    outcome_of_answer action hanswer
  have hsender : (σ.act m).1.sender k = ((σ.sender k).swapTrack track σ.endpoint).sender :=
    sender_act action
  have hendpoint : (σ.act m).1.endpoint = ((σ.sender k).swapTrack track σ.endpoint).endpoint :=
    endpoint_act action
  have hrunning : (σ.sender k).lifecycle.hasStopped = false := by rw [h.lifecycle]; rfl
  refine h.next hσ peaceful.untroubled ?_ ?_ ?_ ?_
  · rw [hsender, sender_swapTrack]
  · rw [hsender, sender_swapTrack]
  · rw [hsender]
    exact streams_of_bare (bare_swapTrack track _ _)
  · rw [hsender, hendpoint]
    exact wired_swapTrack h.wired h.fair (hσ.senders k) (encodings_ne_nil (he k h.born)) hrunning
      hgiven hok

theorem Sends.wired_of_other (h : Sends k cs σ) (hσ : σ.Sound)
    (action : ∀ y, σ.action? m ≠ some (k, y)) (peaceful : Turn.Peaceful k ⟨σ, m⟩) :
    Wired (σ.sender k).id (σ.sender k).encodings cs (σ.act m).1.endpoint := by
  have heffect := effect hσ m
  intro i e hi
  obtain ⟨c, hc, hwire⟩ := h.wired i e hi
  have halive : ((σ.act m).1.endpoint.stream e.primary.stream).closed = false := by
    refine eq_false_of_ne_true fun hclosed => ?_
    rcases heffect.closed_of hσ hclosed with hbefore | hcloses
    · exact absurd (hwire.alive.symm.trans hbefore) Bool.false_ne_true
    · exact h.not_closes hσ peaceful.unstopped hi hcloses
  have hties : ∀ t, e.track = some t → SameTies t.key σ.endpoint (σ.act m).1.endpoint := by
    intro t ht
    have hmem : some t ∈ (σ.sender k).tracks :=
      List.mem_map.mpr ⟨e, List.mem_of_getElem? hi, ht⟩
    exact sameTies_of_events hσ (peaceful.alone action t hmem)
  exact ⟨c, hc, hwire.next h.fair ((course m σ).smooth peaceful.untroubled) (heffect.extends hσ)
    halive hties⟩

theorem Sends.act (h : Sends k cs σ) (hσ : σ.Sound) (he : σ.Enveloped)
    (peaceful : Turn.Peaceful k ⟨σ, m⟩) : Sends k cs (σ.act m).1 := by
  cases (course m σ).becomes k with
  | acted x action sender endpoint =>
    by_cases hswap : ∃ track, x = .swapTrack track
    · obtain ⟨track, rfl⟩ := hswap
      exact h.swap hσ he action peaceful
    · have hstop : x ≠ .stop := by
        rintro rfl
        exact absurd ((Turn.asks_of_action action _).symm.trans peaceful.unstopped) (by decide)
      obtain ⟨hs, hw⟩ := act_of_sending h.lifecycle hstop (not_exists.mp hswap) σ.endpoint
      rw [hs] at sender
      rw [hw] at endpoint
      refine h.next hσ peaceful.untroubled ?_ ?_ ?_ ?_
      · rw [sender]
      · rw [sender]
      · rw [sender]
      · rw [sender, endpoint]
        exact h.wired
  | stayed action sender =>
    obtain ⟨negotiated, transceiver, hs⟩ := sender
    refine h.next hσ peaceful.untroubled ?_ ?_ ?_ ?_
    · rw [hs]
    · rw [hs]
    · rw [hs]
    · rw [hs]
      exact h.wired_of_other hσ action peaceful
  | made t action number => exact absurd (number ▸ h.born) (Nat.lt_irrefl _)

theorem Sends.after (h : Sends k cs σ) (hσ : σ.Sound) (he : σ.Enveloped) {ms : List Move}
    (peaceful : ∀ x ∈ turns ms σ, x.Peaceful k) : Sends k cs (σ.after ms) := by
  induction ms generalizing σ with
  | nil => exact h
  | cons m ms ih =>
    obtain ⟨hm, hms⟩ := List.forall_mem_cons.mp peaceful
    exact ih (h.act hσ he hm) (hσ.act m) (he.act hσ m) hms

theorem disjoint_streams {es : List Encoding} (h : (streamsOf es).Nodup) {i j : Nat}
    {e e' : Encoding} (hi : es[i]? = some e) (hj : es[j]? = some e') (hne : j ≠ i) :
    e.streams.Disjoint e'.streams := by
  have hp := List.pairwise_iff_getElem.mp (List.nodup_flatMap.mp h).2
  obtain ⟨hli, rfl⟩ := List.getElem?_eq_some_iff.mp hi
  obtain ⟨hlj, rfl⟩ := List.getElem?_eq_some_iff.mp hj
  rcases Nat.lt_or_gt_of_ne hne with hlt | hlt
  · exact fun s hs hs' => hp j i hlj hli hlt hs' hs
  · exact hp i j hli hlj hlt

def writeMove (name : String) (packet : Packet) (attributes : Attributes) (index : Nat) : Move :=
  .issue (.track name (.write packet attributes index))

end Session

end MediaSender

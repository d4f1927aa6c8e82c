import MediaSender.Proofs.Sender.StartOrder
import MediaSender.Proofs.Sender.Tuning
import MediaSender.Proofs.Sender.PayloadTypes
/-!
What a start negotiates. The tracks of a sender choose among all codecs of its kind, while the
parameters that the sender reports name the codecs of its transceiver, as long as that is alive. So
the codecs that are negotiated are among those that are reported only if the transceiver has them.
-/

namespace MediaSender

open Endpoint

theorem Track.mem_of_choice {t : Track} {codecs : List Codec} {codec : Codec}
    (h : t.choice codecs = some codec) : codec ∈ codecs := by
  unfold choice at h
  split at h
  · exact CodecMatch.mem_of_first h
  · cases h

namespace Sender

variable {l : Launch} {w : Endpoint} {a : Sender} {p : SendParameters} {r : Result} {x : Startup}

/-- An encoding whose track has settled on a codec between two moments: the bind was answered with
the codec, out of all codecs of the track's kind, and the encoding keeps no other. -/
structure Agreed (w w' : Endpoint) (e : Encoding) (t : Track) (codec : Codec) : Prop where
  track : e.track = some t
  kept : e.context.parameters.codecs = [codec]
  answered : .trackBound t.key { e.context.view with codecs := w.capabilities.codecs t.kind }
    (.ok codec) ∈ eventsSince w w'

theorem Answered.of_mem {calls : List (BindCall × Outcome Codec)} {tracks : Table TrackState}
    (h : Answered l w calls tracks) {c : BindCall × Outcome Codec} (hc : c ∈ calls) :
    ∃ state, c.1.track.bindResult (c.1.context l w) state = c.2 := by
  induction calls generalizing tracks with
  | nil => cases hc
  | cons b calls ih =>
    rcases List.mem_cons.mp hc with rfl | hc
    · exact ⟨_, h.1⟩
    · exact ih h.2 hc

theorem mem_calls {c : Connection} (hc : c ∈ x.connections) :
    (c.toBindCall, .ok c.codec) ∈ x.calls :=
  List.mem_append_left _ (List.mem_map.mpr ⟨c, hc, rfl⟩)

theorem bound_mem_events (l : Launch) (w : Endpoint) {c : Connection} (hc : c ∈ x.connections) :
    .trackBound c.track.key (c.toBindCall.context l w).view (.ok c.codec) ∈ x.events l w := by
  refine List.mem_append_left _ (List.mem_flatMap.mpr ⟨c, hc, ?_⟩)
  simp [Connection.events, BindCall.events]

variable (h : Starts p a w r x) (ok : r.outcome = .ok ())

include h ok

theorem Starts.refusal_none : x.refusal = none := by
  cases hx : x.refusal with
  | none => rfl
  | some b => cases ok.symm.trans (h.refused b.1 b.2 hx).1

theorem Starts.encodings_eq :
    a.encodings = x.connections.map (·.encoding) ∧
      r.sender.encodings = x.connections.map
        (·.connected ⟨a.id, w.capabilities.codecs a.kind, p.media.headerExtensions⟩ w) := by
  have hnone := h.refusal_none ok
  obtain ⟨rest, hes, hes', hrest⟩ := h.connects.encodings
  rw [hrest hnone, List.append_nil] at hes hes'
  refine ⟨hes.trans ?_, hes'.trans ?_⟩
  · rw [Startup.calls, hnone, Option.toList_none, List.map_nil, List.append_nil, List.map_map]
    rfl
  · rw [Startup.encodings, hnone, Option.toList_none, List.map_nil, List.append_nil]

theorem Starts.agreed (fixed : ∀ t, some t ∈ a.tracks → t.isFixed)
    (kind : ∀ t, some t ∈ a.tracks → t.kind = a.kind) {e : Encoding} (he : e ∈ r.sender.encodings) :
    ∃ t codec, some t ∈ a.tracks ∧ Agreed w r.endpoint e t codec ∧
      t.choice (w.capabilities.codecs a.kind) = some codec := by
  let l : Launch := ⟨a.id, w.capabilities.codecs a.kind, p.media.headerExtensions⟩
  obtain ⟨hes, hes'⟩ := h.encodings_eq ok
  rw [hes'] at he
  obtain ⟨c, hc, rfl⟩ := List.mem_map.mp he
  have hcall := mem_calls hc
  have htrack : c.encoding.track = some c.track := h.connects.holds _ hcall
  have htrace : r.endpoint.trace = w.trace ++ x.events l w := by
    rw [h.connects.endpoint]
    rfl
  have hmem : some c.track ∈ a.tracks := by
    rw [tracks, hes, List.map_map, ← htrack]
    exact List.mem_map.mpr ⟨c, hc, rfl⟩
  obtain ⟨state, hs⟩ := h.connects.answered.of_mem hcall
  refine ⟨c.track, c.codec, hmem, ⟨htrack, rfl, ?_⟩, ?_⟩
  · rw [eventsSince_eq htrace]
    exact bound_mem_events l w hc
  · rw [← kind c.track hmem]
    exact Track.choice_of_bindResult (fixed c.track hmem) hs

end Sender

namespace Session

open Sender

variable {σ : Session} {k : SenderKey}

theorem starts_of_answer (fresh : σ.Fresh) (ms : List Move) {m : Move} {p : SendParameters}
    (action : (σ.after ms).action? m = some (k, .start p))
    (answer : ((σ.after ms).act m).2 = .answered (.outcome (.ok ()))) :
    let τ := σ.after ms
    let r := (τ.sender k).start p τ.endpoint
    r.outcome = .ok () ∧ ∃ x, Starts p (τ.sender k) τ.endpoint r x := by
  have sound := fresh.sound.after ms
  have envelope := fresh.enveloped.after fresh.sound ms k (action_lt sound action)
  have ok := outcome_of_answer action answer
  obtain ⟨idle, based, enough⟩ := of_startFailure (start_of_ok ok).1
  exact ⟨ok, Sender.starts p envelope (sound.senders k) idle based enough⟩

/-- The codecs of the transceiver that a sender is attached to, if it is alive. -/
def attached? (k : SenderKey) (τ : Session) : Option (List Codec) :=
  (τ.sender k).transceiver.bind τ.endpoint.transceivers.entry

theorem codecs_of_attached (k : SenderKey) (τ : Session) :
    ((τ.sender k).parameters τ.endpoint).media.codecs =
      (τ.attached? k).getD (τ.endpoint.capabilities.codecs (τ.sender k).kind) := by
  change (τ.sender k).codecs τ.endpoint = _
  rw [Sender.codecs, attached?]
  cases (τ.sender k).transceiver.bind τ.endpoint.transceivers.entry <;> rfl

/-- A start with the parameters that the sender reports just before binds each track to the codec
that it chooses among all codecs of its kind. The codecs that are reported have it exactly if no
transceiver is attached, or the codecs of that have it. -/
theorem negotiated_codecs_reported_iff (fresh : σ.Fresh) (ms : List Move) {m : Move}
    (action : (σ.after ms).action? m =
      some (k, .start (((σ.after ms).sender k).parameters (σ.after ms).endpoint)))
    (fixed : ∀ t, some t ∈ ((σ.after ms).sender k).tracks → t.isFixed)
    (ok : ((σ.after ms).act m).2 = .answered (.outcome (.ok ()))) :
    let τ := σ.after ms
    let τ' := (τ.act m).1
    let table := τ.endpoint.capabilities.codecs (τ.sender k).kind
    (∀ e ∈ (τ'.sender k).encodings, ∃ t codec, some t ∈ (τ.sender k).tracks ∧
      Agreed τ.endpoint τ'.endpoint e t codec ∧ t.choice table = some codec) ∧
    ((∀ e ∈ (τ'.sender k).encodings, ∀ t codec, Agreed τ.endpoint τ'.endpoint e t codec →
        codec ∈ ((τ.sender k).parameters τ.endpoint).media.codecs) ↔
      ∀ codecs, τ.attached? k = some codecs → ∀ t, some t ∈ (τ.sender k).tracks →
        ∀ codec, t.choice table = some codec → codec ∈ codecs) := by
  intro τ τ' table
  let a := τ.sender k
  let p := a.parameters τ.endpoint
  have hs := fresh.sound.after ms
  have henvelope := fresh.enveloped.after fresh.sound ms k (action_lt hs action)
  obtain ⟨hok, x, hx⟩ := starts_of_answer fresh ms action ok
  have hsender : τ'.sender k = (a.start p τ.endpoint).sender := sender_act action
  have hendpoint : τ'.endpoint = (a.start p τ.endpoint).endpoint := endpoint_act action
  rw [hsender, hendpoint]
  have hagreed : ∀ e ∈ (a.start p τ.endpoint).sender.encodings, _ := fun e he =>
    hx.agreed hok fixed henvelope.kind he
  refine ⟨hagreed, fun h codecs attached t ht codec choice => ?_, fun h e he t codec agreed => ?_⟩
  · rw [codecs_of_attached, attached] at h
    have ht' : some t ∈ (a.start p τ.endpoint).sender.tracks := by rwa [(tracks_start p a _).1]
    obtain ⟨e, he, track⟩ := List.mem_map.mp ht'
    obtain ⟨t', codec', -, agreed, choice'⟩ := hagreed e he
    cases track.symm.trans agreed.track
    cases choice.symm.trans choice'
    exact h e he t codec agreed
  · obtain ⟨t', codec', ht', agreed', choice⟩ := hagreed e he
    cases agreed.track.symm.trans agreed'.track
    cases agreed.kept.symm.trans agreed'.kept
    rw [codecs_of_attached]
    cases attached : τ.attached? k with
    | none => exact Track.mem_of_choice choice
    | some codecs => exact h codecs attached t ht' codec choice

def attachMoves (payloadType : PayloadType) : List Move :=
  [.issue (.world (.createTransceiver "T" [⟨{ mimeType := Mime.vp8 }, payloadType⟩])),
    .issue (.sender "s" (.create (some "a") true)), .issue (.sender "s" (.setTransceiver "T"))]

theorem shared_codec_reported :
    let τ := typeSession.after (attachMoves 96)
    let τ' := (τ.act launchMove).1
    τ.attached? 0 = some [⟨{ mimeType := Mime.vp8 }, 96⟩] ∧
      (τ.act launchMove).2 = .answered (.outcome (.ok ())) ∧
      ∀ e ∈ (τ'.sender 0).encodings, ∀ t codec, Agreed τ.endpoint τ'.endpoint e t codec →
        codec ∈ ((τ.sender 0).parameters τ.endpoint).media.codecs := by
  intro τ τ'
  have fresh : typeSession.Fresh := ⟨rfl, rfl, rfl, rfl, rfl, rfl, rfl, rfl⟩
  have hfixed : ∀ t, some t ∈ (τ.sender 0).tracks → t = typeTrack 0 Mime.vp8 := fun t ht =>
    Option.some.inj (List.mem_singleton.mp ht)
  have ok : (τ.act launchMove).2 = .answered (.outcome (.ok ())) := rfl
  refine ⟨rfl, ok, (negotiated_codecs_reported_iff fresh (attachMoves 96) (k := 0) rfl
    (fun t ht => hfixed t ht ▸ rfl) ok).2.mpr fun codecs attached t ht codec choice => ?_⟩
  cases hfixed t ht
  cases (show some _ = some codecs from attached)
  cases (show some _ = some codec from choice)
  exact List.mem_singleton_self _

/-- The transceiver has the format of the track with another payload type only, and packets go out
with the one that it does not have. -/
theorem foreign_codec_negotiated :
    let τ := typeSession.after (attachMoves 100)
    let τ' := (τ.act launchMove).1
    let written : Turn := ⟨τ', writeMove "a" {} [] 0⟩
    typeSession.Fresh ∧ (∀ t, some t ∈ (τ.sender 0).tracks → t.isFixed) ∧
      τ.action? launchMove = some (0, .start ((τ.sender 0).parameters τ.endpoint)) ∧
      (τ.act launchMove).2 = .answered (.outcome (.ok ())) ∧
      ∃ e codec, (τ'.sender 0).encodings = [e] ∧
        Agreed τ.endpoint τ'.endpoint e (typeTrack 0 Mime.vp8) codec ∧
        codec ∉ ((τ.sender 0).parameters τ.endpoint).media.codecs ∧
        written.after.endpoint.sends =
          [(e.primary.stream, e.ssrc, Packet.readdress e.ssrc codec.payloadType {})] := by
  refine ⟨⟨rfl, rfl, rfl, rfl, rfl, rfl, rfl, rfl⟩, ?_, rfl, rfl, ?_⟩
  · intro t ht
    cases Option.some.inj (List.mem_singleton.mp ht)
    rfl
  · refine ⟨_, ⟨{ mimeType := Mime.vp8 }, 96⟩, rfl, ⟨rfl, rfl, ?_⟩, ?_, ?_⟩
    · exact List.mem_of_getElem? (i := 1) rfl
    · decide
    · decide +kernel

end Session

end MediaSender

import MediaSender.Proofs.Sender.Feeds
import MediaSender.Proofs.Sender.Labels
/-!
What the tracks keep for one sender. While nobody else uses its label, a sender with one encoding
has one binding at most, on the track of that encoding: the one that this track would choose again
with the context that the encoding has by now.
-/

namespace MediaSender

open Endpoint

namespace Encoding

def kept (key : TrackKey) (e : Encoding) : List Binding :=
  match e.bound, e.track with
  | true, some t => t.granted key e.context
  | _, _ => []

def Chosen (e : Encoding) : Prop :=
  e.bound → ∀ t, e.track = some t → t.isFixed →
    ∃ codec, t.choice e.context.parameters.codecs = some codec

variable {e : Encoding} {t : Track} {key : TrackKey}

theorem kept_of_not_bound (h : e.bound = false) (key : TrackKey) : e.kept key = [] := by
  rw [kept, h]

theorem kept_of_track (e : Encoding) (hb : e.bound) (ht : e.track = some t) (key : TrackKey) :
    e.kept key = t.granted key e.context := by
  rw [kept, hb, ht]

theorem kept_of_no_track (ht : e.track = none) (key : TrackKey) : e.kept key = [] := by
  rw [kept, ht]
  cases e.bound <;> rfl

theorem kept_eq_nil (h : ∀ t, e.bound = true → e.track = some t → False) : e.kept key = [] := by
  rw [kept]
  split
  · exact (h _ ‹_› ‹_›).elim
  · rfl

/-- All that is bound under a label is what the track of the encoding keeps. -/
structure Accounted (x : Label) (l : Lifecycle) (e : Encoding) (w : Endpoint) : Prop where
  sent : e.bound → l.hasSent
  chosen : e.Chosen
  kept : ∀ key, w.boundAs x key = (e.kept key).filter (·.label == x)

variable {x : Label} {l : Lifecycle} {w w' : Endpoint}

theorem Accounted.next (h : e.Accounted x l w) (hw : SameUnder x w w') : e.Accounted x l w' :=
  ⟨h.sent, h.chosen, fun key => (hw key).trans (h.kept key)⟩

theorem accounted_of_not_bound (hb : e.bound = false) (h : ∀ key, w.boundAs x key = []) :
    e.Accounted x l w where
  sent bound := absurd (hb.symm.trans bound) Bool.false_ne_true
  chosen bound := absurd (hb.symm.trans bound) Bool.false_ne_true
  kept key := by rw [h, kept_of_not_bound hb, List.filter_nil]

theorem Accounted.detach (h : e.Accounted x l w) (key : TrackKey) :
    (e.detach w).boundAs x key = [] := by
  have hkept := h.kept key
  simp only [Encoding.detach]
  split
  · rename_i t hb ht
    rw [e.kept_of_track hb ht] at hkept
    exact boundAs_unbindTrack hkept
  · rename_i hn
    rw [hkept, kept_eq_nil hn, List.filter_nil]

theorem accounted_of_added (sent : e.bound → l.hasSent) (chosen : e.Chosen)
    (free : ∀ key, w.boundAs x key = [])
    (added : ∀ key, w'.bindings key = w.bindings key ++ e.kept key) : e.Accounted x l w' where
  sent := sent
  chosen := chosen
  kept key := by
    rw [boundAs, added, List.filter_append, ← boundAs, free, List.nil_append]

theorem bindings_of_detachFailure {f : Failure} (h : e.detachFailure w = some f) (key : TrackKey) :
    (e.detach w).bindings key = w.bindings key := by
  simp only [detachFailure] at h
  simp only [Encoding.detach]
  split at h
  · rename_i t hb ht
    split at h
    · cases h
    · rename_i hf
      by_cases hk : t.key = key
      · exact hk ▸ bindings_of_failed_unbind hf
      · exact bindings_unbindTrack_ne hk e.context w
  · cases h

end Encoding

namespace Sender

variable {a : Sender} {e e' : Encoding} {t : Track} {x : Label} {w : Endpoint} {key : TrackKey}

theorem bindings_restore (hb : e.bound) (name : String) (key : TrackKey) (w : Endpoint) :
    (restore name e w).bindings key = w.bindings key ++ e.kept key := by
  simp only [restore]
  split
  · rename_i ht
    rw [Encoding.kept_of_no_track ht, List.append_nil]
  · rename_i t ht
    rw [e.kept_of_track hb ht, ← bindings_bindTrack]
    split
    · rfl
    · exact ((untied_log _ _ _).sameTies key).bindings

theorem chosen_attach (h : e.Chosen) (a : Sender) (t : Track) (w : Endpoint) :
    (attach a t e w).encoding.Chosen := by
  dsimp only [attach]
  split
  · exact h
  · rename_i codec hr
    rintro - t' ht' fixed
    cases ht'
    have hchoice := Track.choice_of_bindResult fixed hr
    rw [Encoding.withTrack]
    rcases Context.settle_cases a.payloadType codec (e.contextFor t w) with hs | hs
    · rw [hs]
      exact ⟨codec, Track.choice_singleton hchoice⟩
    · rw [hs]
      exact ⟨codec, hchoice⟩

theorem kept_withTrack (hb : e.bound) {codec : Codec}
    (h : w.bindResult t (e.contextFor t w) = .ok codec) (payloadType : PayloadType)
    (key : TrackKey) :
    (e.withTrack t ((e.contextFor t w).settle payloadType codec)).kept key =
      t.granted key (e.contextFor t w) := by
  rw [Encoding.kept_of_track (e.withTrack t _) hb rfl, Encoding.withTrack]
  rcases Context.settle_cases payloadType codec (e.contextFor t w) with hs | hs
  · rw [hs, Track.granted_narrow h]
  · rw [hs]

theorem bindings_attach (hb : e.bound) (a : Sender) (t : Track) (key : TrackKey) (w : Endpoint) :
    (attach a t e w).endpoint.bindings key =
      w.bindings key ++ (attach a t e w).encoding.kept key := by
  dsimp only [attach]
  split
  · rename_i f hf
    rw [bindings_restore hb, bindings_bindTrack, Track.granted_of_refused hf, List.append_nil]
  · rename_i codec hr
    rw [((untied_log _ _ _).sameTies key).bindings, bindings_bindTrack, kept_withTrack hb hr]

theorem accounted_exchange (he : a.encodings = [e]) (h : e.Accounted x a.lifecycle w)
    (track : Option Track) (he' : (a.exchange track w).sender.encodings = [e']) :
    e'.Accounted x a.lifecycle (a.exchange track w).endpoint := by
  have stuck : ∀ f, e.detachFailure w = some f → e.Accounted x a.lifecycle (e.detach w) :=
    fun f hf => h.next fun key => by
      rw [boundAs, Encoding.bindings_of_detachFailure hf, ← boundAs]
  cases track with
  | none =>
    rw [exchange_none] at he' ⊢
    simp only [he, detachAll] at he' ⊢
    cases hf : e.detachFailure w with
    | some f =>
      rw [hf] at he'
      cases he'
      exact stuck f hf
    | none =>
      rw [hf] at he'
      cases he'
      refine Encoding.accounted_of_added (w := e.detach w) ?_ ?_ h.detach fun key => ?_
      · exact fun hb => h.sent (by simpa [Encoding.retrack] using hb)
      · intro _ t ht
        rw [track_retrack_none] at ht
        cases ht
      · rw [Encoding.kept_of_no_track (track_retrack_none e)]
        exact (List.append_nil _).symm
  | some t =>
    have hr := replaced t he w
    generalize a.exchange (some t) w = r at he' hr
    cases hr with
    | refused =>
      cases he.symm.trans he'
      exact h
    | stuck f failure =>
      cases he.symm.trans he'
      exact stuck f failure
    | put fits free =>
      cases he'
      refine Encoding.accounted_of_not_bound free fun key => ?_
      rw [h.kept, Encoding.kept_of_not_bound free, List.filter_nil]
    | attached fits bound detached =>
      cases he'
      refine Encoding.accounted_of_added ?_ (chosen_attach h.chosen a t _) h.detach
        fun key => bindings_attach bound a t key _
      exact fun _ => h.sent bound

theorem bindings_startEncoding (hb : e.bound = false) (l : Launch) (c : Coding) (key : TrackKey)
    (w : Endpoint) : (startEncoding l e c w).endpoint.bindings key =
      w.bindings key ++ (startEncoding l e c w).encoding.kept key := by
  have hs := encodingStarted l e c w
  generalize startEncoding l e c w = r at hs
  have hbind : ∀ t, ((openPrimary e c w).bindTrack t (contextOf l.id t c w)).bindings key =
      w.bindings key ++ t.granted key (contextOf l.id t c w) := fun t => by
    rw [bindings_bindTrack, ((untied_openPrimary e c w).sameTies key).bindings]
  cases hs with
  | missing => rw [Encoding.kept_of_not_bound hb, List.append_nil]
  | failed t f track bind =>
    rw [hbind, Track.granted_of_refused bind, Encoding.kept_of_not_bound]
    exact hb
  | bound t codec track bind =>
    let e' := (bindStreams l t (contextOf l.id t c w) w.nextStream w.nextGate codec c e
      ((openPrimary e c w).bindTrack t (contextOf l.id t c w))).encoding
    have hkept : e'.kept key = t.granted key (contextOf l.id t c w) :=
      (e'.kept_of_track rfl track key).trans (Track.granted_narrow bind)
    rw [((untied_bindStreams _ _ _ _ _ _ _ _ _).sameTies key).bindings, hbind, hkept]

theorem chosen_startEncoding (hb : e.bound = false) (l : Launch) (c : Coding) (w : Endpoint) :
    (startEncoding l e c w).encoding.Chosen := by
  have hs := encodingStarted l e c w
  generalize startEncoding l e c w = r at hs
  cases hs with
  | missing => exact fun bound => absurd (hb.symm.trans bound) Bool.false_ne_true
  | failed => exact fun bound => absurd (hb.symm.trans bound) Bool.false_ne_true
  | bound t codec track bind =>
    rintro - t' ht' fixed
    cases track.symm.trans ht'
    exact ⟨codec, Track.choice_singleton (Track.choice_of_bindResult fixed bind)⟩

theorem bound_startEncoding (hb : e.bound = false) {l : Launch} {c : Coding}
    (h : (startEncoding l e c w).encoding.bound) :
    ∃ payloadType, (startEncoding l e c w).outcome = .ok payloadType := by
  have hs := encodingStarted l e c w
  generalize startEncoding l e c w = r at h hs
  cases hs with
  | missing => exact absurd (hb.symm.trans h) Bool.false_ne_true
  | failed => exact absurd (hb.symm.trans h) Bool.false_ne_true
  | bound t codec => exact ⟨codec.payloadType, rfl⟩

theorem accounted_start (he : a.encodings = [e]) (h : e.Accounted x a.lifecycle w)
    (p : SendParameters) (he' : (a.start p w).sender.encodings = [e']) :
    e'.Accounted x (a.start p w).sender.lifecycle (a.start p w).endpoint := by
  have hr := launched p a w
  generalize a.start p w = r at he' hr
  have all : a.startFailure p = none → ∀ {r : AllStarted} {l : Lifecycle},
      startAll (a.launch p w) a.encodings p.codings w = r → r.encodings = [e'] →
      (∀ p, r.outcome = .ok p → l.hasSent) → e'.Accounted x l r.endpoint := by
    rintro check r l rfl hes hsent
    obtain ⟨idle, -, enough⟩ := of_startFailure check
    have hb : e.bound = false := by
      refine eq_false_of_ne_true fun bound => ?_
      have hsent := h.sent bound
      rw [idle] at hsent
      cases hsent
    have free : ∀ key, w.boundAs x key = [] := fun key => by
      rw [h.kept, Encoding.kept_of_not_bound hb, List.filter_nil]
    rw [he] at hes hsent enough ⊢
    cases hcs : p.codings with
    | nil =>
      rw [hcs] at enough
      cases enough
    | cons c cs =>
      rw [hcs] at hes hsent
      cases ho : (startEncoding (a.launch p w) e c w).outcome with
      | error f =>
        rw [startAll_error ho] at hes hsent ⊢
        cases hes
        refine Encoding.accounted_of_added (fun bound => ?_) (chosen_startEncoding hb _ c w) free
          fun key => bindings_startEncoding hb _ c key w
        obtain ⟨payloadType, hok⟩ := bound_startEncoding hb bound
        cases ho.symm.trans hok
      | ok payloadType =>
        rw [startAll_ok ho] at hes hsent ⊢
        cases hes
        exact Encoding.accounted_of_added (fun _ => hsent _ rfl) (chosen_startEncoding hb _ c w)
          free fun key => bindings_startEncoding hb _ c key w
  cases hr with
  | refused =>
    cases he.symm.trans he'
    exact h
  | failed f r check hall outcome =>
    exact all check hall he' fun p hp => nomatch outcome.symm.trans hp
  | sent payloadType r check hall outcome => exact all check hall he' fun _ _ => rfl

theorem accounted_act (he : a.encodings = [e]) (h : e.Accounted x a.lifecycle w) (y : Action)
    (running : (a.act y w).sender.lifecycle.hasStopped = false)
    (he' : (a.act y w).sender.encodings = [e']) :
    e'.Accounted x (a.act y w).sender.lifecycle (a.act y w).endpoint := by
  cases y with
  | extend track =>
    have hr : Extended track a w (a.act (.extend track) w) := extended track a w
    generalize a.act (.extend track) w = r at he' hr
    cases hr with
    | refused =>
      cases he.symm.trans he'
      exact h
    | added t =>
      have hes : a.encodings ++ [newEncoding t w] = [e'] := he'
      rw [he] at hes
      cases hes
  | swapTrack track =>
    change (a.swapTrack track w).sender.encodings = [e'] at he'
    change e'.Accounted x (a.swapTrack track w).sender.lifecycle (a.swapTrack track w).endpoint
    rw [sender_swapTrack]
    rw [swapTrack] at he' ⊢
    split
    · rename_i hstopped
      rw [if_pos hstopped] at he'
      cases he.symm.trans he'
      exact h
    · rename_i hrunning
      rw [if_neg hrunning] at he'
      exact accounted_exchange he h track he'
  | start p => exact accounted_start he h p he'
  | stop =>
    have hstopped : (a.act .stop w).sender.lifecycle.hasStopped := stop_hasStopped a w
    exact absurd (running.symm.trans hstopped) Bool.false_ne_true

end Sender

namespace Session

open Sender

variable {σ : Session} {m : Move} {k : SenderKey} {x : Label}

theorem id_move (m : Move) {j : SenderKey} (born : j < σ.roster.senders.size) :
    ((σ.act m).1.sender j).id = (σ.sender j).id := by
  cases (course m σ).becomes j with
  | acted y action sender =>
    rw [sender]
    exact id_act y _ _
  | stayed action sender =>
    obtain ⟨n, t, hs⟩ := sender
    rw [hs]
  | made t action number => exact absurd (number ▸ born) (Nat.lt_irrefl _)

theorem labelled_after (fresh : σ.Fresh) (ms : List Move) (j : SenderKey) :
    ∀ e ∈ ((σ.after ms).sender j).encodings, Labelled ((σ.after ms).sender j).id e := by
  induction ms using List.reverseRecOn with
  | nil =>
    rw [after, fresh.sender_eq j]
    exact List.forall_mem_nil _
  | append_singleton ms m ih =>
    rw [after_snoc]
    cases (course m (σ.after ms)).becomes j with
    | acted y action sender =>
      rw [sender, id_act]
      exact (spares_act ih y _).2
    | stayed action sender =>
      obtain ⟨n, t, hs⟩ := sender
      rw [hs]
      exact ih
    | made t action number sender =>
      rw [sender]
      exact List.forall_mem_singleton.mpr (labelled_of_not_bound _ rfl)

/-- Nobody but sender number `k` binds a track under the label or unbinds it: the other senders have
other identifiers, and it is not done by hand. -/
structure Reserves (x : Label) (k : SenderKey) (ms : List Move) (σ : Session) : Prop where
  senders : ∀ j < (σ.after ms).roster.senders.size, j ≠ k → ((σ.after ms).sender j).id ≠ x.1
  byHand : ∀ y ∈ turns ms σ, y.move.ties → ∀ e ∈ eventsSince y.before y.after, e.label? ≠ some x

theorem Reserves.init {ms : List Move} (h : Reserves x k (ms ++ [m]) σ) : Reserves x k ms σ where
  senders j born hj := by
    have hlt := Nat.lt_of_lt_of_le born (course m (σ.after ms)).size_le
    have hid := h.senders j
    rw [after_snoc, id_move m born] at hid
    exact hid hlt hj
  byHand y hy := h.byHand y (turns_snoc ms m σ ▸ List.mem_append_left _ hy)

theorem Errand.sameUnder {w : Endpoint} (h : Errand m σ w)
    (byHand : m.ties → ∀ e ∈ Endpoint.eventsSince σ.endpoint w, e.label? ≠ some x) :
    SameUnder x σ.endpoint w := by
  rcases h.untied_or_tied with hw | ⟨ties, t, c, rfl | rfl⟩
  · exact hw.sameUnder
  · have htrace : (σ.endpoint.bindTrack t c).trace = σ.endpoint.trace ++ [_] := rfl
    have hne := byHand ties
    rw [eventsSince_eq htrace] at hne
    exact sameUnder_bindTrack (fun hc => hne _ (List.mem_singleton_self _) (congrArg some hc)) t _
  · have htrace : (σ.endpoint.unbindTrack t c).trace = σ.endpoint.trace ++ [_] := rfl
    have hne := byHand ties
    rw [eventsSince_eq htrace] at hne
    exact sameUnder_unbindTrack (fun hc => hne _ (List.mem_singleton_self _) (congrArg some hc)) t _

theorem sameUnder_of_other
    (labels : ∀ j, ∀ e ∈ (σ.sender j).encodings, Labelled (σ.sender j).id e)
    (hσ : σ.Sound) (action : ∀ y, σ.action? m ≠ some (k, y))
    (senders : ∀ j < σ.roster.senders.size, j ≠ k → (σ.sender j).id ≠ x.1)
    (byHand : m.ties → ∀ e ∈ eventsSince σ (σ.act m).1, e.label? ≠ some x) :
    SameUnder x σ.endpoint (σ.act m).1.endpoint := by
  have hc := course m σ
  generalize (σ.act m).1 = σ' at byHand hc
  cases hc with
  | errand _ endpoint => exact endpoint.sameUnder byHand
  | poll _ task t p endpoint =>
    rw [endpoint]
    exact (Task.untied_poll _ _ _ _ _ _).sameUnder
  | create t creates _ given endpoint =>
    have hdraw : Untied σ.endpoint σ.endpoint.drawId := untied_of_trace ⟨rfl, rfl, rfl, rfl⟩ rfl rfl
    rw [endpoint]
    exact (hdraw.trans (untied_withEncoding _ t _)).sameUnder
  | @act j y hy endpoint =>
    have hj : j ≠ k := fun hj => action y (hj ▸ hy)
    rw [endpoint]
    exact (spares_act (labels j) y _).1 x (senders j (action_lt hσ hy) hj).symm

structure AccountedFor (x : Label) (k : SenderKey) (σ : Session) : Prop where
  unborn : σ.roster.senders.size ≤ k → ∀ key, σ.endpoint.boundAs x key = []
  born : (σ.sender k).lifecycle.hasStopped = false → ∀ e, (σ.sender k).encodings = [e] →
    e.Accounted x (σ.sender k).lifecycle σ.endpoint

theorem singleton_before (h : σ.Enveloped) (m : Move) (born : k < σ.roster.senders.size)
    {e' : Encoding} (he : ((σ.act m).1.sender k).encodings = [e']) :
    ∃ e, (σ.sender k).encodings = [e] := by
  have hne := encodings_ne_nil (h k born)
  rcases growsAtEnd_act h m born with hlen | ⟨e, hes⟩
  · exact List.length_eq_one_iff.mp (by rw [← hlen, he]; rfl)
  · rw [he] at hes
    obtain ⟨hnil, -⟩ := List.append_inj' (show [] ++ [e'] = _ ++ [e] from hes) rfl
    exact absurd hnil.symm hne

theorem AccountedFor.act (sound : σ.Sound) (enveloped : σ.Enveloped) (m : Move)
    (others : (∀ y, σ.action? m ≠ some (k, y)) → SameUnder x σ.endpoint (σ.act m).1.endpoint)
    (h : AccountedFor x k σ) : AccountedFor x k (σ.act m).1 := by
  have hsize := (course m σ).size_le
  cases (course m σ).becomes k with
  | acted y action sender endpoint =>
    have born := action_lt sound action
    have born' := Nat.lt_of_lt_of_le born hsize
    refine ⟨fun hle => absurd born' (Nat.not_lt.mpr hle), fun hr e' he' => ?_⟩
    obtain ⟨e, he⟩ := singleton_before enveloped m born he'
    rw [sender] at hr he' ⊢
    rw [endpoint]
    refine accounted_act he (h.born (eq_false_of_ne_true fun hs => ?_) e he) y hr he'
    rw [(act_of_hasStopped hs y).2] at hr
    exact absurd (hr.symm.trans hs) Bool.false_ne_true
  | stayed action sender =>
    have hsame := others action
    refine ⟨fun hle key => ?_, ?_⟩
    · rw [hsame key]
      exact h.unborn (Nat.le_trans hsize hle) key
    · obtain ⟨n, t, hs⟩ := sender
      rw [hs]
      exact fun hr e he => (h.born hr e he).next hsame
  | made t action number sender =>
    have hfree : ∀ key, (σ.act m).1.endpoint.boundAs x key = [] := fun key => by
      rw [others action key]
      exact h.unborn (Nat.le_of_eq number.symm) key
    refine ⟨fun _ => hfree, fun _ e he => ?_⟩
    rw [sender] at he ⊢
    obtain rfl := List.singleton_inj.mp (show [newEncoding t _] = [e] from he)
    exact Encoding.accounted_of_not_bound rfl hfree

theorem accounted_after (fresh : σ.Fresh) (ms : List Move) (h : Reserves x k ms σ) :
    AccountedFor x k (σ.after ms) := by
  induction ms using List.reverseRecOn with
  | nil =>
    refine ⟨fun _ key => ?_, fun _ e he => ?_⟩
    · rw [after, boundAs, bindings, fresh.tracks]
      rfl
    · rw [after, fresh.sender_eq k] at he
      cases he
  | append_singleton ms m ih =>
    have hsound := fresh.sound.after ms
    rw [after_snoc]
    refine (ih h.init).act hsound (fresh.enveloped.after fresh.sound ms) m fun action => ?_
    exact sameUnder_of_other (labelled_after fresh ms) hsound action h.init.senders
      (h.byHand ⟨σ.after ms, m⟩ (turns_snoc ms m σ ▸
        List.mem_append_right _ (List.mem_singleton_self _)))

end Session

end MediaSender

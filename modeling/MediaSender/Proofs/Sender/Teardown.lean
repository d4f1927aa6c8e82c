import MediaSender.Proofs.Run.Actions
/-!
What a stop takes down. If every track can be unbound, all streams that the sender holds are
released and closed, and the failed closes are reported in one failure. A track that cannot be
unbound ends the stop before anything is released.
-/

namespace MediaSender

theorem filterMap_cons_toList {α β : Type} (f : α → Option β) (x : α) (xs : List α) :
    (x :: xs).filterMap f = (f x).toList ++ xs.filterMap f := by
  rw [List.filterMap_cons]
  cases f x <;> rfl

namespace Event

def unbound? : Event → Option (TrackKey × String × Ssrc)
  | trackUnbound t id ssrc _ => some (t, id, ssrc)
  | _ => none

def unbindFailure? : Event → Option Failure
  | trackUnbound _ _ _ (.error f) => some f
  | _ => none

theorem unbindFailure_of_unbound {e : Event} (h : e.unbound? = none) : e.unbindFailure? = none := by
  cases e with
  | trackUnbound t id ssrc result => cases h
  | _ => rfl

theorem unbindFailures_of_unbound {es : List Event} (h : es.filterMap unbound? = []) :
    es.filterMap unbindFailure? = [] :=
  List.filterMap_eq_nil_iff.mpr fun e he =>
    unbindFailure_of_unbound (List.filterMap_eq_nil_iff.mp h e he)

structure IsAside (e : Event) : Prop where
  unbound : e.unbound? = none
  quiet : e.isQuiet

theorem released_of_quiet {es : List Event} (h : ∀ e ∈ es, e.isQuiet) :
    es.filterMap released? = [] :=
  List.filterMap_eq_nil_iff.mpr fun e he => released_of_isQuiet (h e he)

theorem handed_of_quiet {es : List Event} (h : ∀ e ∈ es, e.isQuiet) :
    es.filterMap handed? = [] :=
  List.filterMap_eq_nil_iff.mpr fun e he => handed_of_isQuiet (h e he)

end Event

namespace Endpoint

def eventsSince (w w' : Endpoint) : List Event := w'.trace.drop w.trace.length

theorem eventsSince_eq {w w' : Endpoint} {es : List Event} (h : w'.trace = w.trace ++ es) :
    eventsSince w w' = es := by
  rw [eventsSince, h, List.drop_left]

theorem closeFailure_congr {s : StreamId} {w w' : Endpoint} (hs : w'.stream s = w.stream s)
    (ht : w'.transport = w.transport) : w'.closeFailure s = w.closeFailure s := by
  rw [closeFailure, closeFailure, shutFailure, shutFailure, ssrcOf, ssrcOf, hs, ht]

theorem closed_closing (a : LazyStream) : (closing a).closed := by
  simp only [closing]
  split
  · assumption
  · split <;> rfl

end Endpoint

open Endpoint

theorem infix_intercalate {text sep : String} {texts : List String} (h : text ∈ texts) :
    text.toList <:+: (sep.intercalate texts).toList := by
  induction texts with
  | nil => cases h
  | cons first rest ih =>
    by_cases hr : rest = []
    · subst hr
      have heq : sep.intercalate [first] = text := by
        rw [List.mem_singleton.mp h, String.intercalate_singleton]
      exact heq ▸ List.infix_rfl
    · rw [String.intercalate_cons_of_ne_nil hr, String.toList_append, String.toList_append]
      rcases List.mem_cons.mp h with rfl | h
      · rw [List.append_assoc]
        exact (List.prefix_append _ _).isInfix
      · exact (ih h).trans (List.suffix_append _ _).isInfix

namespace Failure

theorem flatten_ok_iff (fs : List Failure) : flatten fs = .ok () ↔ fs = [] := by
  cases fs with
  | nil => simp [flatten]
  | cons f fs => simp [flatten]

theorem infix_flatten {fs : List Failure} {e f : Failure} (h : flatten fs = .error e)
    (hf : f ∈ fs) : f.message.toList <:+: e.message.toList := by
  cases fs with
  | nil => cases hf
  | cons f' fs =>
    cases h
    exact infix_intercalate (List.mem_map_of_mem hf)

end Failure

def Encoding.attached? (e : Encoding) : Option (TrackKey × String × Ssrc) :=
  match e.bound, e.track with
  | true, some t => some (t.key, e.context.id, e.context.ssrc)
  | _, _ => none

namespace Sender

def attached (a : Sender) : List (TrackKey × String × Ssrc) := a.encodings.filterMap (·.attached?)

theorem detach_events (e : Encoding) (w : Endpoint) :
    ∃ es, (e.detach w).trace = w.trace ++ es ∧ (∀ e ∈ es, e.isQuiet) ∧
      es.filterMap Event.unbound? = e.attached?.toList ∧
      es.filterMap Event.unbindFailure? = (e.detachFailure w).toList := by
  simp only [Encoding.detach, Encoding.attached?, Encoding.detachFailure]
  cases hb : e.bound with
  | false => exact ⟨[], (List.append_nil _).symm, List.forall_mem_nil _, rfl, rfl⟩
  | true =>
    cases ht : e.track with
    | none => exact ⟨[], (List.append_nil _).symm, List.forall_mem_nil _, rfl, rfl⟩
    | some t =>
      refine ⟨[_], rfl, List.forall_mem_singleton.mpr rfl, rfl, ?_⟩
      cases hr : w.unbindResult t e.context with
      | ok u => simp [Event.unbindFailure?, hr]
      | error f => simp [Event.unbindFailure?, hr]

theorem detach_rest (e : Encoding) (w : Endpoint) :
    (e.detach w).streams = w.streams ∧ (e.detach w).transport = w.transport := by
  simp only [Encoding.detach]
  split <;> exact ⟨rfl, rfl⟩

theorem detachAll_events (track : Option Track) (es : List Encoding) (w : Endpoint) :
    ∃ evs, (detachAll track es w).endpoint.trace = w.trace ++ evs ∧
      (∀ e ∈ evs, e.isQuiet) ∧
      evs.filterMap Event.unbindFailure? = (detachAll track es w).failure.toList ∧
      ((detachAll track es w).failure = none →
        evs.filterMap Event.unbound? = es.filterMap (·.attached?)) := by
  induction es generalizing w with
  | nil => exact ⟨[], (List.append_nil _).symm, List.forall_mem_nil _, rfl, fun _ => rfl⟩
  | cons e es ih =>
    obtain ⟨evs, ht, hq, hu, hf⟩ := detach_events e w
    dsimp only [detachAll]
    split
    · rename_i f hfail
      rw [hfail] at hf
      exact ⟨evs, ht, hq, hf, fun h => nomatch h⟩
    · rename_i hfail
      rw [hfail] at hf
      obtain ⟨evs', ht', hq', hf', hu'⟩ := ih (e.detach w)
      refine ⟨evs ++ evs', by rw [ht', ht, List.append_assoc],
        List.forall_mem_append.mpr ⟨hq, hq'⟩, ?_, fun hn => ?_⟩
      · rw [List.filterMap_append, hf, hf']
        rfl
      · rw [List.filterMap_append, hu, hu' hn, filterMap_cons_toList]

theorem detachAll_rest (track : Option Track) (es : List Encoding) (w : Endpoint) :
    (detachAll track es w).endpoint.streams = w.streams ∧
      (detachAll track es w).endpoint.transport = w.transport := by
  induction es generalizing w with
  | nil => exact ⟨rfl, rfl⟩
  | cons e es ih =>
    obtain ⟨hs, ht⟩ := detach_rest e w
    dsimp only [detachAll]
    split
    · exact ⟨hs, ht⟩
    · exact ⟨(ih (e.detach w)).1.trans hs, (ih (e.detach w)).2.trans ht⟩

theorem release_events (id : String) (b : BoundStream) (w : Endpoint) :
    ∃ es, (release id b w).endpoint.trace = w.trace ++ .released b.description :: es ∧
      ∀ e ∈ es, e.IsAside := by
  have hr : (w.releaseStream b.description).trace = w.trace ++ .released b.description ::
      (w.chain.reports (.released b.description.id b.description.ssrc)).map .report :=
    List.append_assoc _ _ _
  have hreports : ∀ e ∈ (w.chain.reports (.released b.description.id b.description.ssrc)).map
      Event.report, e.IsAside := by
    intro e he
    obtain ⟨r, -, rfl⟩ := List.mem_map.mp he
    exact ⟨rfl, rfl⟩
  obtain ⟨es, hes, haside⟩ : ∃ es, ((w.releaseStream b.description).closeStream b.stream).trace =
      w.trace ++ .released b.description :: es ∧ ∀ e ∈ es, e.IsAside := by
    refine ⟨_, by rw [trace_closeStream, hr, List.append_assoc]; rfl, fun e he => ?_⟩
    rcases List.mem_append.mp he with he | he
    · exact hreports e he
    · split at he
      · cases he
      · cases List.mem_singleton.mp he
        exact ⟨rfl, rfl⟩
  dsimp only [release]
  split
  · exact ⟨es, hes, haside⟩
  · refine ⟨es ++ [_], by rw [log, trace_emit, hes, List.append_assoc]; rfl, fun e he => ?_⟩
    rcases List.mem_append.mp he with he | he
    · exact haside e he
    · cases List.mem_singleton.mp he
      exact ⟨rfl, rfl⟩

theorem stream_release (id : String) (b : BoundStream) (s : StreamId) (w : Endpoint) :
    (release id b w).endpoint.stream s =
      if s = b.stream then closing (w.stream s) else w.stream s := by
  have hc : ((w.releaseStream b.description).closeStream b.stream).stream s = _ :=
    stream_closeStream b.stream s _
  dsimp only [release]
  split
  · exact hc
  · exact hc

theorem transport_release (id : String) (b : BoundStream) (w : Endpoint) :
    (release id b w).endpoint.transport = w.transport := by
  have hc := (sameRest_closeStream b.stream (w.releaseStream b.description)).transport
  dsimp only [release]
  split
  · exact hc
  · exact hc

theorem failures_release (id : String) (b : BoundStream) (w : Endpoint) :
    (release id b w).failures = (w.closeFailure b.stream).toList := by
  have hc : (w.releaseStream b.description).closeFailure b.stream = w.closeFailure b.stream := rfl
  dsimp only [release]
  split
  · rename_i hn
    rw [← hc, hn]
    rfl
  · rename_i f hf
    rw [← hc, hf]
    rfl

theorem closeFailure_release (id : String) (b : BoundStream) (s : StreamId) (w : Endpoint) :
    (release id b w).endpoint.closeFailure s =
      if s = b.stream then none else w.closeFailure s := by
  have hs := stream_release id b s w
  split
  · rename_i h
    rw [if_pos h] at hs
    rw [closeFailure, hs, closed_closing, Bool.true_or, if_pos rfl]
  · rename_i h
    rw [if_neg h] at hs
    exact closeFailure_congr hs (transport_release id b w)

theorem releaseAll_events (id : String) (bs : List BoundStream) (w : Endpoint) :
    ∃ es, (releaseAll id bs w).endpoint.trace = w.trace ++ es ∧
      es.filterMap Event.released? = bs.map (·.description) ∧
      es.filterMap Event.unbound? = [] ∧ es.filterMap Event.handed? = [] := by
  induction bs generalizing w with
  | nil => exact ⟨[], (List.append_nil _).symm, rfl, rfl, rfl⟩
  | cons b bs ih =>
    obtain ⟨es, ht, haside⟩ := release_events id b w
    obtain ⟨es', ht', hr', hu', hh'⟩ := ih (release id b w).endpoint
    have hq : ∀ e ∈ es, e.isQuiet := fun e he => (haside e he).quiet
    have hu : es.filterMap Event.unbound? = [] :=
      List.filterMap_eq_nil_iff.mpr fun e he => (haside e he).unbound
    refine ⟨(.released b.description :: es) ++ es', ?_, ?_, ?_, ?_⟩
    · change (releaseAll id bs (release id b w).endpoint).endpoint.trace = _
      rw [ht', ht, List.append_assoc]
    · rw [List.filterMap_append, hr']
      change (b.description :: es.filterMap Event.released?) ++ _ = _
      rw [Event.released_of_quiet hq]
      rfl
    · rw [List.filterMap_append, hu', List.append_nil]
      exact hu
    · rw [List.filterMap_append, hh', List.append_nil]
      change es.filterMap Event.handed? = []
      exact Event.handed_of_quiet hq

theorem grows_releaseAll (id : String) (bs : List BoundStream) (w : Endpoint) (s : StreamId) :
    Grows (w.stream s) ((releaseAll id bs w).endpoint.stream s) := by
  induction bs generalizing w with
  | nil => exact .refl _
  | cons b bs ih =>
    have hf : Grows (w.stream s) ((release id b w).endpoint.stream s) := by
      rw [stream_release]
      exact grows_ite _ (grows_closing _)
    exact hf.trans (ih _)

theorem closed_releaseAll (id : String) {bs : List BoundStream} {b : BoundStream} (hb : b ∈ bs)
    (w : Endpoint) : ((releaseAll id bs w).endpoint.stream b.stream).closed := by
  induction bs generalizing w with
  | nil => cases hb
  | cons b' bs ih =>
    rcases List.mem_cons.mp hb with rfl | hb
    · refine (grows_releaseAll id bs (release id b w).endpoint b.stream).closed ?_
      rw [stream_release, if_pos rfl]
      exact closed_closing _
    · exact ih hb _

theorem mem_failures_releaseAll (id : String) {bs : List BoundStream} {w : Endpoint}
    {f : Failure} :
    f ∈ (releaseAll id bs w).failures ↔ ∃ b ∈ bs, w.closeFailure b.stream = some f := by
  induction bs generalizing w with
  | nil => simp [releaseAll]
  | cons b bs ih =>
    change f ∈ (release id b w).failures ++
      (releaseAll id bs (release id b w).endpoint).failures ↔ _
    rw [List.mem_append, failures_release, Option.mem_toList, ih]
    constructor
    · rintro (hf | ⟨b', hb', hf⟩)
      · exact ⟨b, List.mem_cons_self, hf⟩
      · rw [closeFailure_release] at hf
        split at hf
        · cases hf
        · exact ⟨b', List.mem_cons_of_mem _ hb', hf⟩
    · rintro ⟨b', hb', hf⟩
      rcases List.mem_cons.mp hb' with rfl | hb'
      · exact .inl hf
      · by_cases hs : b'.stream = b.stream
        · exact .inl (hs ▸ hf)
        · exact .inr ⟨b', hb', by rw [closeFailure_release, if_neg hs, hf]⟩

/-- A failure of a stop: a track that cannot be unbound, or a stream that fails to close. -/
def Fails (a : Sender) (w : Endpoint) (r : Result) (f : Failure) : Prop :=
  f ∈ (eventsSince w r.endpoint).filterMap Event.unbindFailure? ∨
    ∃ b ∈ a.held, w.closeFailure b.stream = some f

/-- Everything that the sender has bound is taken down, whatever fails, and all failures are
reported together. -/
structure TornDown (a : Sender) (w : Endpoint) (r : Result) : Prop where
  unbound : (eventsSince w r.endpoint).filterMap Event.unbound? = a.attached
  released : (eventsSince w r.endpoint).filterMap Event.released? = a.held.map (·.description)
  closed : ∀ b ∈ a.held, (r.endpoint.stream b.stream).closed
  ok : r.outcome = .ok () ↔ ∀ f, ¬ Fails a w r f
  texts : ∀ e, r.outcome = .error e → ∀ f, Fails a w r f → f.message.toList <:+: e.message.toList

theorem held_ne_nil {a : Sender} (h : ∃ e ∈ a.encodings, e.bound) : a.held ≠ [] := by
  obtain ⟨e, he, hb⟩ := h
  have hp : e.primary ∈ a.held :=
    List.mem_flatMap.mpr ⟨e, he, by rw [Encoding.boundStreams, if_pos hb]; exact List.mem_cons_self⟩
  exact List.ne_nil_of_mem hp

theorem teardown_eq (a : Sender) (w : Endpoint) :
    let d := detachAll none a.encodings w
    let r := releaseAll a.id a.held d.endpoint
    a.teardown w = ⟨{ a with encodings := d.encodings },
      if d.failure = none then r.endpoint else d.endpoint,
      match d.failure with
      | some f => .error f
      | none => Failure.flatten r.failures⟩ := by
  intro d r
  have hh : d.encodings.flatMap (·.boundStreams) = a.held := boundStreams_detachAll none _ w
  have hd : detachAll none a.encodings w = d := rfl
  dsimp only [teardown]
  rw [exchange_none, hd]
  cases hf : d.failure with
  | some f => rw [if_neg (Option.some_ne_none f)]
  | none =>
    rw [if_pos rfl]
    dsimp only
    rw [hh]

theorem stop_eq {a : Sender} (w : Endpoint) (hs : a.lifecycle.canStop)
    (hb : ∃ e ∈ a.encodings, e.bound) :
    a.stop w = teardown { a with lifecycle := a.lifecycle.stop }
      (w.log .trace ("sender " ++ a.id ++ " stopped")) := by
  have hany : a.encodings.any (·.bound) := List.any_eq_true.mpr hb
  dsimp only [stop]
  rw [if_pos hs, if_pos hany]

theorem stop_of_not_bound {a : Sender} (w : Endpoint) (hs : a.lifecycle.canStop)
    (hb : ¬ ∃ e ∈ a.encodings, e.bound) :
    a.stop w = ⟨{ a with lifecycle := a.lifecycle.stop },
      w.log .trace ("sender " ++ a.id ++ " stopped"), .ok ()⟩ := by
  have hany : ¬ a.encodings.any (·.bound) := fun h => hb (List.any_eq_true.mp h)
  dsimp only [stop]
  rw [if_pos hs, if_neg hany]

section

variable {a : Sender} {w : Endpoint} (hs : a.lifecycle.canStop) (hb : ∃ e ∈ a.encodings, e.bound)

include hs hb

theorem stop_events {d : Detached}
    (hd : detachAll none a.encodings (w.log .trace ("sender " ++ a.id ++ " stopped")) = d) :
    ∃ es, (a.stop w).endpoint.trace = w.trace ++ es ∧
      es.filterMap Event.unbindFailure? = d.failure.toList ∧
      es.filterMap Event.released? =
        (if d.failure = none then a.held.map (·.description) else []) ∧
      es.filterMap Event.handed? = [] ∧
      (d.failure = none → es.filterMap Event.unbound? = a.attached) := by
  obtain ⟨es, ht, hq, hf, hu⟩ := detachAll_events none a.encodings
    (w.log .trace ("sender " ++ a.id ++ " stopped"))
  rw [hd] at ht hf hu
  obtain ⟨es', ht', hr', hu', hh'⟩ := releaseAll_events a.id a.held d.endpoint
  have hr := Event.released_of_quiet hq
  have hh := Event.handed_of_quiet hq
  rw [log, trace_emit] at ht
  rw [stop_eq w hs hb, teardown_eq]
  dsimp only
  rw [hd]
  by_cases hn : d.failure = none
  · have hf' := Event.unbindFailures_of_unbound hu'
    refine ⟨.log .trace ("sender " ++ a.id ++ " stopped") :: (es ++ es'), ?_, ?_, ?_, ?_,
      fun _ => ?_⟩
    · rw [if_pos hn]
      change (releaseAll a.id a.held d.endpoint).endpoint.trace = _
      rw [ht', ht, List.append_assoc, List.append_assoc]
      rfl
    · change (es ++ es').filterMap Event.unbindFailure? = _
      rw [List.filterMap_append, hf, hf', List.append_nil]
    · change (es ++ es').filterMap Event.released? = _
      rw [List.filterMap_append, hr, hr', if_pos hn]
      rfl
    · change (es ++ es').filterMap Event.handed? = _
      rw [List.filterMap_append, hh, hh', List.append_nil]
    · change (es ++ es').filterMap Event.unbound? = _
      rw [List.filterMap_append, hu hn, hu', List.append_nil]
      rfl
  · refine ⟨.log .trace ("sender " ++ a.id ++ " stopped") :: es, ?_, hf, ?_, hh,
      fun h => absurd h hn⟩
    · rw [if_neg hn, ht, List.append_assoc]
      rfl
    · rw [if_neg hn]
      exact hr

theorem stop_of_detached {d : Detached}
    (hd : detachAll none a.encodings (w.log .trace ("sender " ++ a.id ++ " stopped")) = d)
    (hn : d.failure = none) :
    (a.stop w).endpoint = (releaseAll a.id a.held d.endpoint).endpoint ∧
      (a.stop w).outcome = Failure.flatten (releaseAll a.id a.held d.endpoint).failures := by
  rw [stop_eq w hs hb, teardown_eq]
  dsimp only
  rw [hd]
  refine ⟨if_pos hn, ?_⟩
  rw [hn]
  rfl

end

/-- A stop takes everything down exactly if every track can be unbound. -/
theorem stop_tears_down_iff {a : Sender} (w : Endpoint) (hs : a.lifecycle.canStop)
    (hb : ∃ e ∈ a.encodings, e.bound) :
    TornDown a w (a.stop w) ↔
      (eventsSince w (a.stop w).endpoint).filterMap Event.unbindFailure? = [] := by
  let w₀ := w.log .trace ("sender " ++ a.id ++ " stopped")
  let d := detachAll none a.encodings w₀
  obtain ⟨es, ht, hf, hr, -, hu⟩ := stop_events hs hb (d := d) rfl
  have hes := eventsSince_eq ht
  constructor
  · intro h
    have hreleased := h.released
    rw [hes, hr] at hreleased
    rw [hes, hf]
    split at hreleased
    · rename_i hn
      rw [hn]
      rfl
    · exact absurd (List.map_eq_nil_iff.mp hreleased.symm) (held_ne_nil hb)
  · intro h
    rw [hes, hf] at h
    have hn : d.failure = none := Option.toList_eq_nil_iff.mp h
    obtain ⟨hstreams, htransport⟩ := detachAll_rest none a.encodings w₀
    have hclose : ∀ s, d.endpoint.closeFailure s = w.closeFailure s := by
      intro s
      refine closeFailure_congr ?_ htransport
      rw [Endpoint.stream, hstreams]
      rfl
    have hfail : ∀ f, Fails a w (a.stop w) f ↔
        f ∈ (releaseAll a.id a.held d.endpoint).failures := by
      intro f
      rw [Fails, hes, hf, hn, mem_failures_releaseAll]
      simp only [hclose, Option.toList_none, List.not_mem_nil, false_or]
    have hstop := stop_of_detached hs hb (d := d) rfl hn
    exact {
      unbound := by rw [hes, hu hn]
      released := by rw [hes, hr, if_pos hn]
      closed := fun b hb => by
        rw [hstop.1]
        exact closed_releaseAll a.id hb d.endpoint
      ok := by
        rw [hstop.2, Failure.flatten_ok_iff, List.eq_nil_iff_forall_not_mem]
        simp only [hfail]
      texts := fun e he f hf => by
        rw [hstop.2] at he
        exact Failure.infix_flatten he ((hfail f).mp hf) }

def vp8Track (key : TrackKey) (rid : String) (unbind : Outcome Unit) : Track :=
  { key, rid, id := "v", streamId := "m"
    source := .custom .video (fun _ _ => .ok ⟨{ mimeType := Mime.vp8 }, 96⟩) fun _ => unbind }

def sendingPair (unbind : Outcome Unit) : Result :=
  let first := append (vp8Track 0 "q" unbind) { kind := .video } {}
  let second := extend (vp8Track 1 "h" (.ok ())) first.1 first.2
  second.sender.start (second.sender.parameters second.endpoint) second.endpoint

theorem stop_tears_down_sendingPair :
    let r := sendingPair (.ok ())
    r.outcome = .ok () ∧ r.sender.held.length = 2 ∧
      TornDown r.sender r.endpoint (r.sender.stop r.endpoint) := by
  refine ⟨by decide, by decide, ?_⟩
  exact (stop_tears_down_iff _ (by decide) (by decide)).mpr (by decide)

/-- The first track cannot be unbound: the second is not asked, and nothing is released. -/
theorem stop_keeps_what_it_cannot_unbind :
    let r := sendingPair (.error .unbindFailed)
    r.outcome = .ok () ∧ ¬ TornDown r.sender r.endpoint (r.sender.stop r.endpoint) := by
  refine ⟨by decide, fun h => ?_⟩
  exact absurd h.unbound (by decide)

end Sender

end MediaSender

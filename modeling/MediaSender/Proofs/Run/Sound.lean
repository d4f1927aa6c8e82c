import MediaSender.Proofs.Run.Change
/-!
What every change of an endpoint keeps: streams stay, flags stay up, the trace only grows, and
whatever leads to a stream leads to one that exists.
-/

namespace MediaSender

def Event.isQuiet : Event → Bool
  | readerBound _ | writerBound .. | released _ => false
  | _ => true

theorem Event.isQuiet_of_isNote {e : Event} (h : e.isNote) : e.isQuiet := by
  cases e <;> simp_all [isNote, isQuiet]

theorem Event.handed_of_isQuiet {e : Event} (h : e.isQuiet) : e.handed? = none := by
  cases e with
  | writerBound s d => cases h
  | _ => rfl

theorem Event.released_of_isQuiet {e : Event} (h : e.isQuiet) : e.released? = none := by
  cases e with
  | released d => cases h
  | _ => rfl

def Event.sentOn? : Event → Option StreamId
  | sent s .. => some s
  | _ => none

theorem Event.sentOn_of_isNote {e : Event} (h : e.isNote) : e.sentOn? = none := by
  cases e with
  | sent s c packet => cases h
  | _ => rfl

namespace Endpoint

structure SameRest (w w' : Endpoint) : Prop where
  gates : w'.gates = w.gates
  tracks : w'.tracks = w.tracks
  transport : w'.transport = w.transport

theorem SameRest.refl (w : Endpoint) : SameRest w w := ⟨rfl, rfl, rfl⟩

theorem SameRest.trans {w₁ w₂ w₃ : Endpoint} (h : SameRest w₁ w₂) (h' : SameRest w₂ w₃) :
    SameRest w₁ w₃ :=
  ⟨h'.gates.trans h.gates, h'.tracks.trans h.tracks, h'.transport.trans h.transport⟩

theorem sameRest_emitAll (es : List Event) (w : Endpoint) : SameRest w (w.emitAll es) :=
  ⟨rfl, rfl, rfl⟩

theorem sameRest_emit (e : Event) (w : Endpoint) : SameRest w (w.emit e) := ⟨rfl, rfl, rfl⟩

theorem sameRest_updateStream (s : StreamId) (f : LazyStream → LazyStream) (w : Endpoint) :
    SameRest w (w.updateStream s f) := ⟨rfl, rfl, rfl⟩

theorem sameRest_shut (s : StreamId) (w : Endpoint) : SameRest w (w.shut s) := by
  simp only [shut]
  split
  · exact .refl w
  · exact ⟨rfl, rfl, rfl⟩

theorem sameRest_markOpen (s : StreamId) (w : Endpoint) : SameRest w (w.markOpen s) :=
  ⟨rfl, rfl, rfl⟩

theorem sameRest_finishOpen (s : StreamId) (w : Endpoint) : SameRest w (w.finishOpen s) := by
  simp only [finishOpen]
  split
  · exact (sameRest_markOpen s w).trans (sameRest_shut s _)
  · exact sameRest_markOpen s w

theorem sameRest_closeStream (s : StreamId) (w : Endpoint) : SameRest w (w.closeStream s) := by
  simp only [closeStream]
  split
  · exact .refl w
  · split
    · exact (sameRest_updateStream s _ w).trans (sameRest_shut s _)
    · exact sameRest_updateStream s _ w

theorem size_shut (s : StreamId) (w : Endpoint) :
    (w.shut s).streams.size = w.streams.size := by
  simp only [shut]
  split <;> rfl

theorem size_finishOpen (s : StreamId) (w : Endpoint) :
    (w.finishOpen s).streams.size = w.streams.size := by
  simp only [finishOpen]
  split
  · exact size_shut s _
  · rfl

theorem size_closeStream (s : StreamId) (w : Endpoint) :
    (w.closeStream s).streams.size = w.streams.size := by
  simp only [closeStream]
  split
  · rfl
  · split
    · exact size_shut s _
    · rfl

theorem trace_closeStream (s : StreamId) (w : Endpoint) :
    (w.closeStream s).trace = w.trace ++
      if (w.stream s).closed || !(w.stream s).opened || (w.stream s).shut then []
      else [.closed s (w.ssrcOf s)] := by
  simp only [closeStream]
  split
  · rename_i h
    simp [h]
  · rename_i h
    split
    · rename_i ho
      rw [trace_shut, stream_updateStream_self]
      simp only [LazyStream.close, h, ho, ssrcOf, stream_updateStream_self]
      rfl
    · rename_i ho
      simp [ho, updateStream]

theorem Change.events {free closes : StreamId → Prop} {w w' : Endpoint}
    (h : Change free closes w w') :
    ∃ es, w'.trace = w.trace ++ es ∧ ∀ e ∈ es, e.isQuiet ∧
      ∀ s, e.sentOn? = some s → w.Writable free s ∧ (w.stream s).closed = false := by
  cases h with
  | surroundings _ _ _ trace => exact ⟨[], by rw [trace, List.append_nil], by simp⟩
  | notes notes =>
    refine ⟨_, rfl, fun e he => ⟨Event.isQuiet_of_isNote (notes e he), fun s hs => ?_⟩⟩
    rw [Event.sentOn_of_isNote (notes e he)] at hs
    cases hs
  | bindTrack => exact ⟨[_], rfl, by simp [Event.isQuiet, Event.sentOn?]⟩
  | unbindTrack => exact ⟨[_], rfl, by simp [Event.isQuiet, Event.sentOn?]⟩
  | addGate => exact ⟨[], (List.append_nil _).symm, by simp⟩
  | resolve g =>
    refine ⟨[], ?_, by simp⟩
    simp only [Endpoint.resolve]
    split <;> exact (List.append_nil _).symm
  | tend => exact ⟨[], (List.append_nil _).symm, by simp⟩
  | @finishOpen s =>
    simp only [Endpoint.finishOpen]
    split
    · refine ⟨_ :: _, by rw [trace_shut, markOpen, trace_emit, List.append_assoc]; rfl, ?_⟩
      split <;> simp [Event.isQuiet, Event.sentOn?]
    · exact ⟨[_], rfl, by simp [Event.isQuiet, Event.sentOn?]⟩
  | @shut s =>
    refine ⟨_, trace_shut s w, ?_⟩
    split <;> simp [Event.isQuiet, Event.sentOn?]
  | transmit packet opened closed writable =>
    refine ⟨[_], rfl, List.forall_mem_singleton.mpr ⟨rfl, fun s hs => ?_⟩⟩
    cases hs
    exact ⟨writable, closed⟩
  | take => exact ⟨[_], rfl, by simp [Event.isQuiet, Event.sentOn?]⟩
  | @close s =>
    refine ⟨_, trace_closeStream s w, ?_⟩
    split <;> simp [Event.isQuiet, Event.sentOn?]

theorem Change.trace {free closes : StreamId → Prop} {w w' : Endpoint}
    (h : Change free closes w w') : ∃ es, w'.trace = w.trace ++ es ∧ ∀ e ∈ es, e.isQuiet :=
  h.events.imp fun _ h => ⟨h.1, fun e he => (h.2 e he).1⟩

structure Grows (a b : LazyStream) : Prop where
  ssrc : b.ssrc = a.ssrc
  opened : a.opened → b.opened
  closed : a.closed → b.closed
  shut : a.shut → b.shut

theorem Grows.refl (a : LazyStream) : Grows a a := ⟨rfl, id, id, id⟩

theorem Grows.trans {a b c : LazyStream} (h : Grows a b) (h' : Grows b c) : Grows a c :=
  ⟨h'.ssrc.trans h.ssrc, h'.opened ∘ h.opened, h'.closed ∘ h.closed, h'.shut ∘ h.shut⟩

theorem grows_markOpened (a : LazyStream) : Grows a a.markOpened :=
  ⟨rfl, fun _ => rfl, id, id⟩

theorem grows_markShut (a : LazyStream) : Grows a a.markShut := ⟨rfl, id, id, fun _ => rfl⟩

theorem grows_close (a : LazyStream) : Grows a a.close := ⟨rfl, id, fun _ => rfl, id⟩

theorem grows_closing (a : LazyStream) : Grows a (closing a) := by
  simp only [closing]
  split
  · exact .refl a
  · split
    · exact (grows_close a).trans (grows_markShut _)
    · exact grows_close a

theorem opened_closing (a : LazyStream) : (closing a).opened = a.opened := by
  simp only [closing]
  split
  · rfl
  · split <;> rfl

theorem grows_ite {a b : LazyStream} (c : Prop) [Decidable c] (h : Grows a b) :
    Grows a (if c then b else a) := by
  split
  · exact h
  · exact .refl a

theorem stream_finishOpen (s s' : StreamId) (w : Endpoint) :
    (w.finishOpen s).stream s' =
      if s' = s then
        if (w.stream s').closed then (w.stream s').markOpened.markShut
        else (w.stream s').markOpened
      else w.stream s' := by
  by_cases hs : s' = s
  · subst hs
    rw [if_pos rfl, finishOpen]
    split
    · rw [stream_shut, if_pos rfl, stream_markOpen, if_pos rfl]
    · rw [stream_markOpen, if_pos rfl]
  · rw [if_neg hs, finishOpen]
    split
    · rw [stream_shut, if_neg hs, stream_markOpen, if_neg hs]
    · rw [stream_markOpen, if_neg hs]

theorem streams_resolve (g : GateId) (x : Writer) (w : Endpoint) :
    (w.resolve g x).streams = w.streams := by
  simp only [resolve]
  split <;> rfl

theorem stream_addStream_ne {s : StreamId} (ssrc : Ssrc) (deadline : Option Instant)
    (w : Endpoint) (h : s ≠ w.nextStream) : (w.addStream ssrc deadline).stream s = w.stream s :=
  Table.entry_push_ne _ _ h

theorem stream_addStream_self (ssrc : Ssrc) (deadline : Option Instant) (w : Endpoint) :
    (w.addStream ssrc deadline).stream w.nextStream = { ssrc, deadline } :=
  Table.entry_push_size _ _

theorem known_addStream (ssrc : Ssrc) (deadline : Option Instant) (w : Endpoint) :
    (w.addStream ssrc deadline).Known w.nextStream := Nat.lt_succ_self w.streams.size

/-- What a change makes of a single stream. -/
inductive StreamChange (Known May : Prop) (a : LazyStream) : LazyStream → Prop
  | tended {b : LazyStream} (opened : b.opened = a.opened) (closed : b.closed = a.closed)
      (shut : b.shut = a.shut) (ssrc : b.ssrc = a.ssrc) : StreamChange Known May a b
  | finished (known : Known) (opened : a.opened = false) :
      StreamChange Known May a (if a.closed then a.markOpened.markShut else a.markOpened)
  | shut (opened : a.opened) (closed : a.closed) : StreamChange Known May a a.markShut
  | closed (known : Known) (may : May) : StreamChange Known May a (closing a)

theorem Change.stream {free closes : StreamId → Prop} {w w' : Endpoint}
    (h : Change free closes w w') (s : StreamId) :
    StreamChange (w.Known s) (closes s) (w.stream s) (w'.stream s) := by
  have same : w'.stream s = w.stream s →
      StreamChange (w.Known s) (closes s) (w.stream s) (w'.stream s) := fun hs => by
    rw [hs]
    exact .tended rfl rfl rfl rfl
  have single : ∀ {s₀ b}, w'.stream s = (if s = s₀ then b else w.stream s) →
      (s = s₀ → StreamChange (w.Known s) (closes s) (w.stream s) b) →
        StreamChange (w.Known s) (closes s) (w.stream s) (w'.stream s) := by
    intro s₀ b hs hb
    by_cases here : s = s₀
    · rw [hs, if_pos here]
      exact hb here
    · exact same (hs.trans (if_neg here))
  cases h with
  | surroundings streams => exact same (by rw [Endpoint.stream, Endpoint.stream, streams])
  | notes => exact same rfl
  | bindTrack => exact same rfl
  | unbindTrack => exact same rfl
  | addGate => exact same rfl
  | resolve => exact same (by rw [Endpoint.stream, Endpoint.stream, streams_resolve])
  | tend s₀ opened closed shut ssrc =>
    exact single (stream_updateStream _ _ _ _) fun _ =>
      .tended (opened _) (closed _) (shut _) (ssrc _)
  | finishOpen known opened =>
    exact single (stream_finishOpen _ _ _) fun here => .finished (here ▸ known) (here ▸ opened)
  | shut opened closed =>
    exact single (stream_shut _ _ _) fun here => .shut (here ▸ opened) (here ▸ closed)
  | transmit => exact same rfl
  | take => exact same rfl
  | close known may =>
    exact single (stream_closeStream _ _ _) fun here => .closed (here ▸ known) (here ▸ may)

theorem StreamChange.grows {Known May : Prop} {a b : LazyStream}
    (h : StreamChange Known May a b) : Grows a b := by
  cases h with
  | tended opened closed shut ssrc =>
    exact ⟨ssrc, opened ▸ id, closed ▸ id, shut ▸ id⟩
  | finished =>
    split
    · exact (grows_markOpened _).trans (grows_markShut _)
    · exact grows_markOpened _
  | shut => exact grows_markShut _
  | closed => exact grows_closing _

theorem Change.grows {free closes : StreamId → Prop} {w w' : Endpoint}
    (h : Change free closes w w') (s : StreamId) : Grows (w.stream s) (w'.stream s) :=
  (h.stream s).grows

theorem Change.size {free closes : StreamId → Prop} {w w' : Endpoint}
    (h : Change free closes w w') : w'.streams.size = w.streams.size := by
  cases h with
  | surroundings streams => rw [streams]
  | notes => rfl
  | bindTrack => rfl
  | unbindTrack => rfl
  | addGate => rfl
  | resolve => rw [streams_resolve]
  | tend => rfl
  | finishOpen => exact size_finishOpen _ w
  | shut => exact size_shut _ w
  | transmit => rfl
  | take => rfl
  | close => exact size_closeStream _ w

/-- What holds from one endpoint to any later one. -/
structure Extends (w w' : Endpoint) : Prop where
  size : w.streams.size ≤ w'.streams.size
  trace : w.trace <+: w'.trace
  grows : ∀ s, w.Known s → Grows (w.stream s) (w'.stream s)

theorem Extends.refl (w : Endpoint) : Extends w w :=
  ⟨Nat.le_refl _, List.prefix_rfl, fun _ _ => .refl _⟩

theorem Extends.trans {w₁ w₂ w₃ : Endpoint} (h : Extends w₁ w₂) (h' : Extends w₂ w₃) :
    Extends w₁ w₃ :=
  ⟨Nat.le_trans h.size h'.size, h.trace.trans h'.trace,
    fun s hs => (h.grows s hs).trans (h'.grows s (Nat.lt_of_lt_of_le hs h.size))⟩

theorem Extends.known {w w' : Endpoint} (h : Extends w w') {s : StreamId} (hs : w.Known s) :
    w'.Known s := Nat.lt_of_lt_of_le hs h.size

theorem Extends.owned {w w' : Endpoint} (h : Extends w w') {s : StreamId} (hs : w.Owned s) :
    w'.Owned s := h.trace.subset hs

theorem Extends.handed {w w' : Endpoint} (h : Extends w w') {s : StreamId} (hs : w.Handed s) :
    w'.Handed s := hs.imp fun _ hd => h.trace.subset hd

theorem Extends.writable {w w' : Endpoint} (h : Extends w w') {free : StreamId → Prop}
    {s : StreamId} (hs : w.Writable free s) : w'.Writable free s := hs.imp id h.handed

theorem Change.extends {free closes : StreamId → Prop} {w w' : Endpoint}
    (h : Change free closes w w') : Extends w w' := by
  obtain ⟨es, ht, -⟩ := h.trace
  exact ⟨Nat.le_of_eq h.size.symm, ht ▸ List.prefix_append _ _, fun s _ => h.grows s⟩

theorem Handover.extends {w w' : Endpoint} (h : Handover w w') : Extends w w' := by
  cases h with
  | own ssrc deadline =>
    refine ⟨Nat.le_succ _, List.prefix_append _ _, fun s hs => ?_⟩
    rw [stream_emit, stream_addStream_ne ssrc deadline w (Nat.ne_of_lt hs)]
    exact .refl _
  | hand d owned => exact ⟨Nat.le_refl _, List.prefix_append _ _, fun _ _ => .refl _⟩
  | release d => exact ⟨Nat.le_refl _, List.prefix_append _ _, fun _ _ => .refl _⟩

theorem Evolves.grows {free closes : StreamId → Prop} {w w' : Endpoint}
    (h : Evolves free closes w w') (s : StreamId) : Grows (w.stream s) (w'.stream s) := by
  induction h with
  | refl => exact .refl _
  | tail _ h ih => exact ih.trans (h.grows s)

theorem Evolves.extends {free closes : StreamId → Prop} {w w' : Endpoint}
    (h : Evolves free closes w w') : Extends w w' := by
  induction h with
  | refl => exact .refl w
  | tail _ h ih => exact ih.trans h.extends

theorem Builds.extends {free closes : StreamId → Prop} {w w' : Endpoint}
    (h : Builds free closes w w') : Extends w w' := by
  induction h with
  | refl => exact .refl w
  | tail _ h ih => exact ih.trans (h.elim Change.extends Handover.extends)

/-- Whatever leads to a stream leads to one that exists, and gates lead only to streams that may be
written to. -/
structure Sound (free : StreamId → Prop) (w : Endpoint) : Prop where
  gates : ∀ g x s, w.gate g = some x → x.target? = some s → w.Writable free s
  contexts : ∀ k, ∀ c ∈ (w.tracks.entry k).contexts, ∀ r s,
    c.reader = some r → r.target? = some s → w.Known s
  trap : ∀ s, w.transport.trap = some s → w.Known s
  free : ∀ s, free s → w.Known s ∧ ¬ w.Owned s
  owned : ∀ s, w.Owned s → w.Known s
  handed : ∀ s, w.Handed s → w.Owned s

theorem Sound.known {free : StreamId → Prop} {w : Endpoint} (h : Sound free w) {s : StreamId}
    (hs : w.Writable free s) : w.Known s :=
  hs.elim (fun hf => (h.free s hf).1) fun hh => h.owned s (h.handed s hh)

theorem Sound.of_extends {free : StreamId → Prop} {w w' : Endpoint} (h : Sound free w)
    (he : Extends w w') (ho : ∀ s, w'.Owned s → w.Owned s) (hh : ∀ s, w'.Handed s → w.Handed s)
    (hg : ∀ g x, w'.gate g = some x → w.gate g = some x ∨
      ∀ s, x.target? = some s → w.Writable free s)
    (hc : ∀ k, ∀ c ∈ (w'.tracks.entry k).contexts, c ∈ (w.tracks.entry k).contexts ∨
      ∀ r s, c.reader = some r → r.target? = some s → w.Known s)
    (ht : ∀ s, w'.transport.trap = some s → w.transport.trap = some s) : Sound free w' where
  gates g x s hx hs :=
    he.writable ((hg g x hx).elim (fun hx => h.gates g x s hx hs) fun hx => hx s hs)
  contexts k c hk r s hr hs :=
    he.known ((hc k c hk).elim (fun hk => h.contexts k c hk r s hr hs) fun hk => hk r s hr hs)
  trap s hs := he.known (h.trap s (ht s hs))
  free s hs := ⟨he.known (h.free s hs).1, fun hw => (h.free s hs).2 (ho s hw)⟩
  owned s hs := he.known (h.owned s (ho s hs))
  handed s hs := he.owned (h.handed s (hh s hs))

theorem Sound.of_sameRest {free : StreamId → Prop} {w w' : Endpoint} (h : Sound free w)
    (he : Extends w w') (hr : SameRest w w') (ho : ∀ s, w'.Owned s → w.Owned s)
    (hh : ∀ s, w'.Handed s → w.Handed s) : Sound free w' := by
  refine h.of_extends he ho hh ?_ ?_ ?_
  · intro g x hx
    exact .inl (by rwa [gate, hr.gates] at hx)
  · intro k c hc
    exact .inl (by rwa [hr.tracks] at hc)
  · intro s hs
    rwa [hr.transport] at hs

theorem Change.owned_of {free closes : StreamId → Prop} {w w' : Endpoint}
    (h : Change free closes w w') {s : StreamId} (hs : w'.Owned s) : w.Owned s := by
  obtain ⟨es, ht, hq⟩ := h.trace
  rw [Owned, ht, List.mem_append] at hs
  exact hs.resolve_right fun he => absurd (hq _ he) Bool.false_ne_true

theorem Change.handed_of {free closes : StreamId → Prop} {w w' : Endpoint}
    (h : Change free closes w w') {s : StreamId} (hs : w'.Handed s) : w.Handed s := by
  obtain ⟨es, ht, hq⟩ := h.trace
  refine hs.imp fun d hd => ?_
  rw [ht, List.mem_append] at hd
  exact hd.resolve_right fun he => absurd (hq _ he) Bool.false_ne_true

theorem contexts_bindTrack (t : Track) (c : Context) (w : Endpoint) (k : TrackKey) :
    ∀ c' ∈ ((w.bindTrack t c).tracks.entry k).contexts,
      c' = c ∨ c' ∈ (w.tracks.entry k).contexts := by
  intro c' hc
  by_cases hk : k = t.key
  · subst hk
    change c' ∈ ((w.tracks.modify t.key (t.afterBind c)).entry t.key).contexts at hc
    rw [Table.modify, Table.entry_set_self, Track.afterBind] at hc
    split at hc
    · exact .inr hc
    · exact .inr hc
    · rw [List.mem_append, List.mem_singleton] at hc
      exact hc.symm
  · change c' ∈ ((w.tracks.modify t.key (t.afterBind c)).entry k).contexts at hc
    rw [Table.modify, Table.entry_set_ne _ _ hk] at hc
    exact .inr hc

theorem contexts_unbindTrack (t : Track) (c : Context) (w : Endpoint) (k : TrackKey) :
    ((w.unbindTrack t c).tracks.entry k).contexts = (w.tracks.entry k).contexts := by
  by_cases hk : k = t.key
  · subst hk
    change ((w.tracks.modify t.key (t.afterUnbind c)).entry t.key).contexts = _
    rw [Table.modify, Table.entry_set_self, Track.afterUnbind]
    split <;> rfl
  · change ((w.tracks.modify t.key (t.afterUnbind c)).entry k).contexts = _
    rw [Table.modify, Table.entry_set_ne _ _ hk]

theorem gate_addGate (w : Endpoint) (g : GateId) (x : Writer) (h : w.addGate.gate g = some x) :
    w.gate g = some x := by
  by_cases hg : g = w.gates.size
  · subst hg
    rw [gate, addGate, Table.entry_push_size] at h
    cases h
  · rwa [gate, addGate, Table.entry_push_ne _ _ hg] at h

theorem gate_resolve (g g' : GateId) (x x' : Writer) (w : Endpoint)
    (h : (w.resolve g x).gate g' = some x') : x' = x ∨ w.gate g' = some x' := by
  unfold resolve at h
  split at h
  · exact .inr h
  · by_cases hg : g' = g
    · subst hg
      rw [gate, Table.entry_set_self] at h
      exact .inl (Option.some.inj h).symm
    · rw [gate, Table.entry_set_ne _ _ hg] at h
      exact .inr h

theorem tracks_resolve (g : GateId) (x : Writer) (w : Endpoint) :
    (w.resolve g x).tracks = w.tracks := by
  simp only [resolve]
  split <;> rfl

theorem transport_resolve (g : GateId) (x : Writer) (w : Endpoint) :
    (w.resolve g x).transport = w.transport := by
  simp only [resolve]
  split <;> rfl

theorem Sound.change {free closes : StreamId → Prop} {w w' : Endpoint} (h : Sound free w)
    (hc : Change free closes w w') : Sound free w' := by
  have he := hc.extends
  have ho := fun s => hc.owned_of (s := s)
  have hh := fun s => hc.handed_of (s := s)
  cases hc with
  | surroundings streams gates tracks trace queue trap =>
    refine h.of_extends he ho hh ?_ ?_ trap
    · intro g x hx
      exact .inl (by rwa [gate, gates] at hx)
    · intro k c hc
      exact .inl (by rwa [tracks] at hc)
  | notes => exact h.of_sameRest he (sameRest_emitAll _ w) ho hh
  | @bindTrack t c reader =>
    refine h.of_extends he ho hh (fun _ _ => .inl) ?_ fun _ => id
    intro k c' hc
    rcases contexts_bindTrack t c w k c' hc with rfl | hc
    · exact .inr reader
    · exact .inl hc
  | unbindTrack t c =>
    refine h.of_extends he ho hh (fun _ _ => .inl) ?_ fun _ => id
    intro k c' hc
    exact .inl (by rwa [contexts_unbindTrack] at hc)
  | addGate =>
    exact h.of_extends he ho hh (fun g x hx => .inl (gate_addGate w g x hx))
      (fun _ _ => .inl) fun _ => id
  | @resolve g x target =>
    refine h.of_extends he ho hh ?_ ?_ ?_
    · intro g' x' hx
      rcases gate_resolve g g' x x' w hx with rfl | hx
      · exact .inr target
      · exact .inl hx
    · intro k c hc
      exact .inl (by rwa [tracks_resolve] at hc)
    · intro s hs
      rwa [transport_resolve] at hs
  | tend => exact h.of_sameRest he (sameRest_updateStream _ _ w) ho hh
  | finishOpen => exact h.of_sameRest he (sameRest_finishOpen _ w) ho hh
  | shut => exact h.of_sameRest he (sameRest_shut _ w) ho hh
  | transmit => exact h.of_sameRest he (sameRest_emit _ w) ho hh
  | take => exact h.of_extends he ho hh (fun _ _ => .inl) (fun _ _ => .inl) fun _ => id
  | close => exact h.of_sameRest he (sameRest_closeStream _ w) ho hh

theorem Sound.handover {free : StreamId → Prop} {w w' : Endpoint} (h : Sound free w)
    (hc : Handover w w') : Sound free w' := by
  have he := hc.extends
  cases hc with
  | own ssrc deadline =>
    have hn : ∀ s, w.Known s → s ≠ w.nextStream := fun s hs => Nat.ne_of_lt hs
    have ho : ∀ s, ((w.addStream ssrc deadline).emit (.readerBound w.nextStream)).Owned s →
        s = w.nextStream ∨ w.Owned s := by
      intro s hs
      rw [Owned, trace_emit, List.mem_append, List.mem_singleton] at hs
      exact hs.symm.imp_left fun hs => Event.readerBound.inj hs
    exact {
      gates := fun g x s hg hx => he.writable (h.gates g x s hg hx)
      contexts := fun k c hc r s hr hs => he.known (h.contexts k c hc r s hr hs)
      trap := fun s hs => he.known (h.trap s hs)
      free := fun s hs => ⟨he.known (h.free s hs).1, fun hw =>
        (ho s hw).elim (hn s (h.free s hs).1) (h.free s hs).2⟩
      owned := fun s hs => (ho s hs).elim (fun hs => hs ▸ known_addStream ssrc deadline w)
        fun hs => he.known (h.owned s hs)
      handed := fun s hs => he.owned (h.handed s (hs.of_emit (by simp))) }
  | @hand s₀ d owned =>
    have ho : ∀ s, (w.emit (.writerBound s₀ d)).Owned s → w.Owned s := fun s hs =>
      hs.of_emit (by simp)
    exact {
      gates := fun g x s hg hx => he.writable (h.gates g x s hg hx)
      contexts := h.contexts
      trap := h.trap
      free := fun s hs => ⟨(h.free s hs).1, fun hw => (h.free s hs).2 (ho s hw)⟩
      owned := fun s hs => h.owned s (ho s hs)
      handed := fun s hs => by
        obtain ⟨d', hd⟩ := hs
        rw [trace_emit, List.mem_append, List.mem_singleton] at hd
        rcases hd with hd | hd
        · exact he.owned (h.handed s ⟨d', hd⟩)
        · cases hd
          exact he.owned owned }
  | release d =>
    exact h.of_sameRest he (sameRest_emit _ w) (fun s hs => hs.of_emit (by simp))
      fun s hs => hs.of_emit (by simp)

theorem Sound.evolves {free closes : StreamId → Prop} {w w' : Endpoint} (h : Sound free w)
    (hc : Evolves free closes w w') : Sound free w' := by
  induction hc with
  | refl => exact h
  | tail _ hc ih => exact ih.change hc

theorem Sound.builds {free closes : StreamId → Prop} {w w' : Endpoint} (h : Sound free w)
    (hc : Builds free closes w w') : Sound free w' := by
  induction hc with
  | refl => exact h
  | tail _ hc ih => exact hc.elim ih.change ih.handover

section

variable {free closes : StreamId → Prop} {w w' : Endpoint}

theorem Evolves.refl (w : Endpoint) : Evolves free closes w w := Relation.ReflTransGen.refl

theorem Evolves.trans {w₁ w₂ w₃ : Endpoint} (h : Evolves free closes w₁ w₂)
    (h' : Evolves free closes w₂ w₃) : Evolves free closes w₁ w₃ :=
  Relation.ReflTransGen.trans h h'

theorem Change.evolves (h : Change free closes w w') : Evolves free closes w w' :=
  Relation.ReflTransGen.single h

theorem evolves_emit {e : Event} (w : Endpoint) (he : e.isNote) :
    Evolves free closes w (w.emit e) := by
  have h : ∀ e' ∈ [e], e'.isNote := by simpa using he
  exact (Change.notes w h).evolves

theorem evolves_log (level : LogLevel) (text : String) (w : Endpoint) :
    Evolves free closes w (w.log level text) := evolves_emit w rfl

theorem Change.mono {free' closes' : StreamId → Prop} (h : Change free closes w w')
    (hf : ∀ s, free s → free' s) (hc : ∀ s, closes s → closes' s) : Change free' closes' w w' := by
  have hw : ∀ s, w.Writable free s → w.Writable free' s := fun s => Or.imp_left (hf s)
  cases h with
  | surroundings h₁ h₂ h₃ h₄ h₅ h₆ => exact .surroundings h₁ h₂ h₃ h₄ h₅ h₆
  | notes h => exact .notes w h
  | bindTrack t h => exact .bindTrack w t h
  | unbindTrack t c => exact .unbindTrack w t c
  | addGate => exact .addGate w
  | resolve g h => exact .resolve w g fun s hs => hw s (h s hs)
  | tend s h₁ h₂ h₃ h₄ => exact .tend w s h₁ h₂ h₃ h₄
  | finishOpen h₁ h₂ => exact .finishOpen w h₁ h₂
  | shut h₁ h₂ => exact .shut w h₁ h₂
  | transmit packet h₁ h₂ h₃ => exact .transmit w packet h₁ h₂ (hw _ h₃)
  | take size h₁ h₂ => exact .take w size h₁ h₂
  | close h₁ h₂ => exact .close w h₁ (hc _ h₂)

theorem Evolves.mono {free' closes' : StreamId → Prop} (h : Evolves free closes w w')
    (hf : ∀ s, free s → free' s) (hc : ∀ s, closes s → closes' s) : Evolves free' closes' w w' :=
  Relation.ReflTransGen.mono (fun _ _ h => h.mono hf hc) _ _ h

theorem Builds.mono {free' closes' : StreamId → Prop} (h : Builds free closes w w')
    (hf : ∀ s, free s → free' s) (hc : ∀ s, closes s → closes' s) : Builds free' closes' w w' :=
  Relation.ReflTransGen.mono (fun _ _ h => h.imp_left fun h => h.mono hf hc) _ _ h

end

end Endpoint

end MediaSender

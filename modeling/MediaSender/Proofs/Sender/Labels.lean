import MediaSender.Proofs.Sender.Pairing
import MediaSender.Proofs.Sender.Tuning
/-!
The labels of bindings. A track knows a binding by the identifier and the SSRC that it was bound
with. A bind adds what the track chooses from its context, an unbind takes away the oldest binding
with the label, and a sender binds and unbinds tracks under its own identifier only.
-/

namespace MediaSender

abbrev Label := String × Ssrc

def Context.label (c : Context) : Label := (c.id, c.ssrc)

def Binding.label (b : Binding) : Label := (b.id, b.ssrc)

def Event.label? : Event → Option Label
  | trackBound _ c _ => some (c.id, c.ssrc)
  | trackUnbound _ id ssrc _ => some (id, ssrc)
  | _ => none

def Context.binding (payloadType : PayloadType) (c : Context) : Binding :=
  ⟨c.id, c.ssrc, payloadType, c.gate⟩

theorem Binding.isFor_eq (c : Context) : Binding.isFor c = (·.label == c.label) := rfl

section

variable {α : Type} {p q : α → Bool} {l : List α}

theorem filter_eraseP_self (p : α → Bool) (l : List α) :
    (l.eraseP p).filter p = (l.filter p).tail := by
  induction l with
  | nil => rfl
  | cons a l ih => by_cases h : p a <;> simp [h, ih]

theorem filter_eraseP_of_not (h : ∀ a, p a → ¬ q a) (l : List α) :
    (l.eraseP p).filter q = l.filter q := by
  induction l with
  | nil => rfl
  | cons a l ih => by_cases hp : p a <;> simp [hp, List.filter_cons, ih, h]

theorem perm_eraseP_append (h : (l.filter p).length ≤ 1) : l.Perm (l.eraseP p ++ l.filter p) := by
  induction l with
  | nil => exact .refl _
  | cons a l ih =>
    by_cases hp : p a
    · rw [List.filter_cons_of_pos hp] at h ⊢
      have hrest := List.eq_nil_of_length_eq_zero (Nat.le_zero.mp (Nat.le_of_succ_le_succ h))
      rw [List.eraseP_cons_of_pos hp, hrest]
      exact (List.perm_append_singleton a l).symm
    · rw [List.filter_cons_of_neg hp] at h ⊢
      rw [List.eraseP_cons_of_neg hp]
      exact (ih h).cons a

end

namespace Track

variable {t : Track} {c : Context} {codec : Codec} {key : TrackKey} {w : Endpoint} {b : Binding}

def only (key : TrackKey) (b : Binding) (t : Track) : List Binding :=
  if t.key = key then [b] else []

/-- What a bind in a context adds to the bindings with a key. -/
def granted (key : TrackKey) (c : Context) (t : Track) : List Binding :=
  match t.choice c.parameters.codecs with
  | some codec => t.only key (c.binding codec.payloadType)
  | none => []

theorem granted_of_choice (h : t.choice c.parameters.codecs = some codec) (key : TrackKey) :
    t.granted key c = t.only key (c.binding codec.payloadType) := by
  rw [granted, h]

theorem granted_of_none (h : t.choice c.parameters.codecs = none) (key : TrackKey) :
    t.granted key c = [] := by
  rw [granted, h]

theorem label_of_granted (h : b ∈ t.granted key c) : b.label = c.label := by
  simp only [granted, only] at h
  split at h
  · split at h
    · cases List.mem_singleton.mp h
      rfl
    · cases h
  · cases h

theorem length_granted_le (key : TrackKey) (c : Context) (t : Track) :
    (t.granted key c).length ≤ 1 := by
  simp only [granted, only]
  split
  · split
    · exact Nat.le_refl 1
    · exact Nat.zero_le 1
  · exact Nat.zero_le 1

theorem choice_of_custom (h : ¬ t.isFixed) (codecs : List Codec) : t.choice codecs = none := by
  cases hs : t.source with
  | fixed format => exact absurd (by rw [isFixed, hs]) h
  | custom => simp only [choice, hs]

theorem granted_eq_nil (h : ¬ (t.key = key ∧ t.isFixed)) : t.granted key c = [] := by
  by_cases fixed : t.isFixed
  · simp only [granted, only, if_neg fun hk => h ⟨hk, fixed⟩]
    split <;> rfl
  · exact granted_of_none (choice_of_custom fixed _) key

theorem granted_of_refused {f : Failure} (h : w.bindResult t c = .error f) :
    t.granted key c = [] := by
  refine granted_of_none ?_ key
  cases hs : t.source with
  | fixed format =>
    simp only [Endpoint.bindResult, bindResult, hs] at h
    simp only [choice, hs]
    split at h
    · cases h
    · assumption
  | custom => simp only [choice, hs]

theorem granted_narrow (h : w.bindResult t c = .ok codec) :
    t.granted key (c.narrow codec) = t.granted key c := by
  have hchoice : t.choice [codec] = t.choice c.parameters.codecs := by
    by_cases fixed : t.isFixed
    · have hc := choice_of_bindResult fixed h
      exact (choice_singleton hc).trans hc.symm
    · rw [choice_of_custom fixed, choice_of_custom fixed]
  rw [granted, granted, ← hchoice]
  rfl

end Track

theorem Context.settle_cases (payloadType : PayloadType) (codec : Codec) (c : Context) :
    c.settle payloadType codec = c.narrow codec ∨ c.settle payloadType codec = c := by
  simp only [settle]
  split
  · exact .inl rfl
  · exact .inr rfl

namespace Endpoint

variable {w w' w₁ w₂ w₃ : Endpoint} {t : Track} {c : Context} {x : Label} {key : TrackKey}

theorem bindings_bindTrack (t : Track) (c : Context) (key : TrackKey) (w : Endpoint) :
    (w.bindTrack t c).bindings key = w.bindings key ++ t.granted key c := by
  by_cases hk : t.key = key
  · subst hk
    cases hr : w.bindResult t c with
    | error f => rw [bindings_of_failed_bind hr, Track.granted_of_refused hr, List.append_nil]
    | ok codec =>
      by_cases fixed : t.isFixed
      · rw [(bindTrack_fixed fixed hr).1,
          Track.granted_of_choice (Track.choice_of_bindResult fixed hr), Track.only, if_pos rfl]
        rfl
      · rw [bindings_bindTrack_of_custom fixed, Track.granted_eq_nil fun h => fixed h.2,
          List.append_nil]
  · rw [bindings_bindTrack_ne hk, Track.granted_eq_nil fun h => hk h.1, List.append_nil]

theorem bindings_unbindTrack (t : Track) (c : Context) (key : TrackKey) (w : Endpoint) :
    (w.unbindTrack t c).bindings key =
      if t.key = key ∧ t.isFixed then (w.bindings key).eraseP (Binding.isFor c)
      else w.bindings key := by
  by_cases hk : t.key = key
  · subst hk
    by_cases fixed : t.isFixed
    · rw [unbindTrack_fixed fixed, if_pos ⟨rfl, fixed⟩]
    · rw [bindings_unbindTrack_of_custom fixed, if_neg fun h => fixed h.2]
  · rw [bindings_unbindTrack_ne hk, if_neg fun h => hk h.1]

/-- The bindings with a key under a label. -/
def boundAs (x : Label) (key : TrackKey) (w : Endpoint) : List Binding :=
  (w.bindings key).filter (·.label == x)

theorem boundAs_bindTrack (x : Label) (t : Track) (c : Context) (key : TrackKey) (w : Endpoint) :
    (w.bindTrack t c).boundAs x key =
      w.boundAs x key ++ (t.granted key c).filter (·.label == x) := by
  rw [boundAs, bindings_bindTrack, List.filter_append, ← boundAs]

theorem granted_of_label_ne (h : c.label ≠ x) (t : Track) (key : TrackKey) :
    (t.granted key c).filter (·.label == x) = [] :=
  List.filter_eq_nil_iff.mpr fun b hb => by
    rw [Track.label_of_granted hb, beq_iff_eq]
    exact h

theorem granted_of_label (t : Track) (c : Context) (key : TrackKey) :
    (t.granted key c).filter (·.label == c.label) = t.granted key c :=
  List.filter_eq_self.mpr fun _ hb => beq_iff_eq.mpr (Track.label_of_granted hb)

def SameUnder (x : Label) (w w' : Endpoint) : Prop := ∀ key, w'.boundAs x key = w.boundAs x key

theorem Untied.sameUnder (h : Untied w w') : SameUnder x w w' := fun key => by
  rw [boundAs, (h.sameTies key).bindings, ← boundAs]

theorem sameUnder_bindTrack (h : c.label ≠ x) (t : Track) (w : Endpoint) :
    SameUnder x w (w.bindTrack t c) := fun key => by
  rw [boundAs_bindTrack, granted_of_label_ne h, List.append_nil]

theorem sameUnder_unbindTrack (h : c.label ≠ x) (t : Track) (w : Endpoint) :
    SameUnder x w (w.unbindTrack t c) := fun key => by
  rw [boundAs, bindings_unbindTrack]
  split
  · refine filter_eraseP_of_not (fun b hb => ?_) _
    rw [Binding.isFor_eq, beq_iff_eq] at hb
    rw [hb, beq_iff_eq]
    exact h
  · rfl

theorem boundAs_unbindTrack (h : w.boundAs x key = (t.granted key c).filter (·.label == x)) :
    (w.unbindTrack t c).boundAs x key = [] := by
  by_cases hx : c.label = x
  · subst hx
    rw [granted_of_label] at h
    rw [boundAs, bindings_unbindTrack]
    split
    · rw [Binding.isFor_eq, filter_eraseP_self, ← boundAs, h, ← List.length_eq_zero_iff,
        List.length_tail, Nat.sub_eq_zero_of_le (t.length_granted_le key c)]
    · rename_i hn
      rw [← boundAs, h, Track.granted_eq_nil hn]
  · rw [sameUnder_unbindTrack hx t w key, h, granted_of_label_ne hx]

def Spares (id : String) (w w' : Endpoint) : Prop := ∀ x : Label, x.1 ≠ id → SameUnder x w w'

variable {id : String}

theorem Spares.refl (id : String) (w : Endpoint) : Spares id w w := fun _ _ _ => rfl

theorem Spares.trans (h : Spares id w₁ w₂) (h' : Spares id w₂ w₃) : Spares id w₁ w₃ :=
  fun x hx key => (h' x hx key).trans (h x hx key)

theorem Untied.spares (h : Untied w w') : Spares id w w' := fun _ _ => h.sameUnder

theorem label_ne (h : c.id = id) {x : Label} (hx : x.1 ≠ id) : c.label ≠ x := fun hc =>
  hx (hc ▸ h)

theorem spares_bindTrack (h : c.id = id) (t : Track) (w : Endpoint) :
    Spares id w (w.bindTrack t c) := fun _ hx => sameUnder_bindTrack (label_ne h hx) t w

theorem spares_unbindTrack (h : c.id = id) (t : Track) (w : Endpoint) :
    Spares id w (w.unbindTrack t c) := fun _ hx => sameUnder_unbindTrack (label_ne h hx) t w

end Endpoint

open Endpoint

namespace Sender

variable {a : Sender} {e : Encoding} {es : List Encoding} {id : String} {t : Track} {w : Endpoint}

theorem id_act (x : Action) (a : Sender) (w : Endpoint) : (a.act x w).sender.id = a.id := by
  cases x with
  | extend track =>
    have hr := extended track a w
    change (a.extend track w).sender.id = a.id
    generalize a.extend track w = r at hr
    cases hr <;> rfl
  | swapTrack track =>
    change (a.swapTrack track w).sender.id = a.id
    rw [sender_swapTrack]
  | start p =>
    have hr := launched p a w
    change (a.start p w).sender.id = a.id
    generalize a.start p w = r at hr
    cases hr <;> rfl
  | stop =>
    change (a.stop w).sender.id = a.id
    rw [sender_stop]

theorem labelled_retrack (h : Labelled id e) (track : Option Track) :
    Labelled id (e.retrack track) := by
  simp only [Encoding.retrack]
  split <;> exact h

theorem spares_detach (h : Labelled id e) (w : Endpoint) : Spares id w (e.detach w) := by
  simp only [Encoding.detach]
  split
  · rename_i hb _
    exact spares_unbindTrack (h hb).1 _ w
  · exact .refl id w

theorem spares_detachAll (h : ∀ e ∈ es, Labelled id e) (track : Option Track) (w : Endpoint) :
    Spares id w (detachAll track es w).endpoint ∧
      ∀ e ∈ (detachAll track es w).encodings, Labelled id e := by
  induction es generalizing w with
  | nil => exact ⟨.refl id w, h⟩
  | cons e es ih =>
    obtain ⟨he, hes⟩ := List.forall_mem_cons.mp h
    have hd := spares_detach he w
    dsimp only [detachAll]
    split
    · exact ⟨hd, h⟩
    · obtain ⟨hrest, hrests⟩ := ih hes (e.detach w)
      exact ⟨hd.trans hrest, List.forall_mem_cons.mpr ⟨labelled_retrack he track, hrests⟩⟩

theorem spares_restore (h : Labelled id e) (hb : e.bound) (name : String) (w : Endpoint) :
    Spares id w (restore name e w) := by
  simp only [restore]
  split
  · exact .refl id w
  · have hbind := spares_bindTrack (h hb).1 ‹_› w
    split
    · exact hbind
    · exact hbind.trans (untied_log _ _ _).spares

theorem spares_attach (h : Labelled id e) (hb : e.bound) (a : Sender) (t : Track) (w : Endpoint) :
    Spares id w (attach a t e w).endpoint := by
  have hbind : Spares id w (w.bindTrack t (e.contextFor t w)) :=
    spares_bindTrack (c := e.contextFor t w) (h hb).1 t w
  dsimp only [attach]
  split
  · exact hbind.trans (spares_restore h hb _ _)
  · exact hbind.trans (untied_log _ _ _).spares

theorem spares_exchange (h : ∀ e ∈ a.encodings, Labelled id e) (track : Option Track)
    (w : Endpoint) :
    Spares id w (a.exchange track w).endpoint ∧
      ∀ e ∈ (a.exchange track w).sender.encodings, Labelled id e := by
  have hd := spares_detachAll h track w
  dsimp only [exchange]
  split
  · exact ⟨.refl id w, h⟩
  · split
    · exact hd
    · generalize detachAll track a.encodings w = d at hd
      obtain ⟨es, w', f⟩ := d
      simp only [attachBase]
      split
      · obtain ⟨he, hes⟩ := List.forall_mem_cons.mp hd.2
        split
        · exact ⟨hd.1.trans (spares_attach he ‹_› a _ _),
            List.forall_mem_cons.mpr ⟨labelled_attach a _ he _, hes⟩⟩
        · exact hd
      · exact hd

theorem spares_startEncoding {l : Launch} (h : Labelled l.id e) (c : Coding) (w : Endpoint) :
    Spares l.id w (startEncoding l e c w).endpoint ∧
      Labelled l.id (startEncoding l e c w).encoding := by
  have hs := encodingStarted l e c w
  generalize startEncoding l e c w = r at hs
  have hbind : ∀ t, Spares l.id w ((openPrimary e c w).bindTrack t (contextOf l.id t c w)) :=
    fun t => (untied_openPrimary e c w).spares.trans
      (spares_bindTrack (c := contextOf l.id t c w) rfl t _)
  cases hs with
  | missing => exact ⟨.refl l.id w, h⟩
  | failed t => exact ⟨hbind t, fun _ => ⟨rfl, rfl⟩⟩
  | bound t =>
    exact ⟨(hbind t).trans (untied_bindStreams _ _ _ _ _ _ _ _ _).spares, fun _ => ⟨rfl, rfl⟩⟩

theorem spares_startAll {l : Launch} (h : ∀ e ∈ es, Labelled l.id e) (cs : List Coding)
    (w : Endpoint) :
    Spares l.id w (startAll l es cs w).endpoint ∧
      ∀ e ∈ (startAll l es cs w).encodings, Labelled l.id e := by
  induction es generalizing cs w with
  | nil => exact ⟨.refl l.id w, h⟩
  | cons e es ih =>
    cases cs with
    | nil => exact ⟨.refl l.id w, h⟩
    | cons c cs =>
      obtain ⟨he, hes⟩ := List.forall_mem_cons.mp h
      obtain ⟨hfirst, hlabel⟩ := spares_startEncoding he c w
      cases ho : (startEncoding l e c w).outcome with
      | error f =>
        rw [startAll_error ho]
        exact ⟨hfirst, List.forall_mem_cons.mpr ⟨hlabel, hes⟩⟩
      | ok payloadType =>
        obtain ⟨hrest, hlabels⟩ := ih hes cs (startEncoding l e c w).endpoint
        rw [startAll_ok ho]
        exact ⟨hfirst.trans hrest, List.forall_mem_cons.mpr ⟨hlabel, hlabels⟩⟩

theorem spares_stop (h : ∀ e ∈ a.encodings, Labelled id e) (w : Endpoint) :
    Spares id w (a.stop w).endpoint ∧ ∀ e ∈ (a.stop w).sender.encodings, Labelled id e := by
  have hlog : Spares id w (w.log .trace ("sender " ++ a.id ++ " stopped")) :=
    (untied_log _ _ w).spares
  by_cases hs : a.lifecycle.canStop
  · by_cases hb : ∃ e ∈ a.encodings, e.bound
    · obtain ⟨hd, hlabels⟩ :=
        spares_detachAll h none (w.log .trace ("sender " ++ a.id ++ " stopped"))
      rw [stop_eq w hs hb, teardown_eq]
      refine ⟨?_, hlabels⟩
      dsimp only
      split
      · exact (hlog.trans hd).trans (untied_releaseAll _ _ _).spares
      · exact hlog.trans hd
    · rw [stop_of_not_bound w hs hb]
      exact ⟨hlog, h⟩
  · rw [stop, if_neg hs]
    exact ⟨.refl id w, h⟩

theorem spares_act (h : ∀ e ∈ a.encodings, Labelled a.id e) (x : Action) (w : Endpoint) :
    Spares a.id w (a.act x w).endpoint ∧
      ∀ e ∈ (a.act x w).sender.encodings, Labelled a.id e := by
  cases x with
  | extend track =>
    have hr : Extended track a w (a.act (.extend track) w) := extended track a w
    generalize a.act (.extend track) w = r at hr
    cases hr with
    | refused => exact ⟨.refl a.id w, h⟩
    | added t =>
      exact ⟨(untied_withEncoding a.id t w).spares,
        List.forall_mem_append.mpr ⟨h, List.forall_mem_singleton.mpr nofun⟩⟩
  | swapTrack track =>
    change Spares a.id w (a.swapTrack track w).endpoint ∧
      ∀ e ∈ (a.swapTrack track w).sender.encodings, Labelled a.id e
    rw [swapTrack]
    split
    · exact ⟨.refl a.id w, h⟩
    · exact spares_exchange h track w
  | start p =>
    have hr : Launched p a w (a.act (.start p) w) := launched p a w
    generalize a.act (.start p) w = r at hr
    have hall := spares_startAll (l := a.launch p w) h p.codings w
    cases hr with
    | refused => exact ⟨.refl a.id w, h⟩
    | failed f r check all => exact all ▸ hall
    | sent payloadType r check all => exact all ▸ hall
  | stop => exact spares_stop h w

end Sender

end MediaSender

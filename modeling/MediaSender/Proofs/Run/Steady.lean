import MediaSender.Proofs.Sender.Outcomes
/-!
What the actions of a sender are made of. A relation that holds along each elementary operation of
an endpoint, and can be followed up, holds along every action, whatever the action comes to.
-/

namespace MediaSender.Sender

open Endpoint

structure Steady (R : Endpoint → Endpoint → Prop) : Prop where
  refl : ∀ w, R w w
  trans : ∀ {w₁ w₂ w₃}, R w₁ w₂ → R w₂ w₃ → R w₁ w₃
  emitAll : ∀ es w, R w (w.emitAll es)
  drawSsrc : ∀ w, R w w.drawSsrc
  addStream : ∀ ssrc deadline w, R w (w.addStream ssrc deadline)
  addGate : ∀ w, R w w.addGate
  resolve : ∀ g x w, R w (w.resolve g x)
  bindTrack : ∀ t c w, R w (w.bindTrack t c)
  unbindTrack : ∀ t c w, R w (w.unbindTrack t c)
  closeStream : ∀ s w, R w (w.closeStream s)

namespace Steady

variable {R : Endpoint → Endpoint → Prop} (h : Steady R)

include h

theorem emit (e : Event) (w : Endpoint) : R w (w.emit e) := h.emitAll [e] w

theorem log (level : LogLevel) (text : String) (w : Endpoint) : R w (w.log level text) := h.emit _ w

theorem bindReader (s : StreamId) (w : Endpoint) : R w (w.bindReader s) :=
  h.trans (h.emit _ w) (h.emitAll _ _)

theorem bindWriter (s : StreamId) (d : StreamDescription) (w : Endpoint) : R w (w.bindWriter s d) :=
  h.trans (h.emit _ w) (h.emitAll _ _)

theorem withEncoding (id : String) (t : Track) (w : Endpoint) : R w (withEncoding id t w) := by
  have hreserve : ∀ wanted w, R w (reserve wanted w) := fun wanted w => by
    simp only [reserve]
    split
    · exact h.drawSsrc w
    · exact h.refl w
  have hprepared : R w (prepared w) :=
    h.trans (h.trans (h.drawSsrc w) (h.addStream _ _ _)) (h.bindReader _ _)
  exact h.trans (h.trans (h.trans hprepared (hreserve _ _)) (hreserve _ _)) (h.log _ _ _)

theorem openPrimary (e : Encoding) (c : Coding) (w : Endpoint) : R w (openPrimary e c w) :=
  h.trans (h.trans (h.addStream _ _ w) (h.addGate _)) (h.bindReader _ _)

theorem bindCompanion (plan : Option CompanionPlan) (w : Endpoint) :
    R w (bindCompanion plan w) := by
  cases plan with
  | none => exact h.refl w
  | some p =>
    exact h.trans (h.trans (h.addStream p.ssrc none w) (h.bindReader _ _)) (h.bindWriter _ _ _)

theorem bindStreams (l : Launch) (t : Track) (context : Context) (s : StreamId) (g : GateId)
    (codec : Codec) (c : Coding) (e : Encoding) (w : Endpoint) :
    R w (bindStreams l t context s g codec c e w).endpoint :=
  h.trans (h.trans (h.trans (h.trans (h.bindWriter _ _ w) (h.resolve _ _ _)) (h.bindCompanion _ _))
    (h.bindCompanion _ _)) (h.log _ _ _)

theorem startEncoding (l : Launch) (e : Encoding) (c : Coding) (w : Endpoint) :
    R w (startEncoding l e c w).endpoint := by
  have hs := encodingStarted l e c w
  generalize Sender.startEncoding l e c w = r at hs
  cases hs with
  | missing => exact h.refl w
  | failed t => exact h.trans (h.openPrimary e c w) (h.bindTrack t _ _)
  | bound t =>
    exact h.trans (h.trans (h.openPrimary e c w) (h.bindTrack t _ _))
      (h.bindStreams _ _ _ _ _ _ _ _ _)

theorem startAll (l : Launch) (es : List Encoding) (cs : List Coding) (w : Endpoint) :
    R w (startAll l es cs w).endpoint := by
  induction es generalizing cs w with
  | nil => exact h.refl w
  | cons e es ih =>
    cases cs with
    | nil => exact h.refl w
    | cons c cs =>
      have hfirst := h.startEncoding l e c w
      cases ho : (Sender.startEncoding l e c w).outcome with
      | error f =>
        rw [startAll_error ho]
        exact hfirst
      | ok payloadType =>
        rw [startAll_ok ho]
        exact h.trans hfirst (ih cs _)

theorem detach (e : Encoding) (w : Endpoint) : R w (e.detach w) := by
  simp only [Encoding.detach]
  split
  · exact h.unbindTrack _ _ w
  · exact h.refl w

theorem detachAll (track : Option Track) (es : List Encoding) (w : Endpoint) :
    R w (detachAll track es w).endpoint := by
  induction es generalizing w with
  | nil => exact h.refl w
  | cons e es ih =>
    dsimp only [Sender.detachAll]
    split
    · exact h.detach e w
    · exact h.trans (h.detach e w) (ih _)

theorem restore (id : String) (e : Encoding) (w : Endpoint) : R w (restore id e w) := by
  simp only [Sender.restore]
  split
  · exact h.refl w
  · split
    · exact h.bindTrack _ _ w
    · exact h.trans (h.bindTrack _ _ w) (h.log _ _ _)

theorem attach (a : Sender) (t : Track) (e : Encoding) (w : Endpoint) :
    R w (attach a t e w).endpoint := by
  have hbind := h.bindTrack t (e.contextFor t w) w
  dsimp only [Sender.attach]
  split
  · exact h.trans hbind (h.restore _ _ _)
  · exact h.trans hbind (h.log _ _ _)

theorem exchange (track : Option Track) (a : Sender) (w : Endpoint) :
    R w (a.exchange track w).endpoint := by
  have hd := h.detachAll track a.encodings w
  dsimp only [Sender.exchange]
  split
  · exact h.refl w
  · split
    · exact hd
    · simp only [attachBase]
      split
      · split
        · exact h.trans hd (h.attach a _ _ _)
        · exact hd
      · exact hd

theorem release (id : String) (b : BoundStream) (w : Endpoint) : R w (release id b w).endpoint := by
  have hrelease : R w (w.releaseStream b.description) := h.trans (h.emit _ w) (h.emitAll _ _)
  have hclose := h.trans hrelease (h.closeStream b.stream _)
  dsimp only [Sender.release]
  split
  · exact hclose
  · exact h.trans hclose (h.log _ _ _)

theorem releaseAll (id : String) (bs : List BoundStream) (w : Endpoint) :
    R w (releaseAll id bs w).endpoint := by
  induction bs generalizing w with
  | nil => exact h.refl w
  | cons b bs ih => exact h.trans (h.release id b w) (ih _)

theorem stop (a : Sender) (w : Endpoint) : R w (a.stop w).endpoint := by
  have hlog := h.log .trace ("sender " ++ a.id ++ " stopped") w
  by_cases hs : a.lifecycle.canStop
  · by_cases hb : ∃ e ∈ a.encodings, e.bound
    · rw [stop_eq w hs hb, teardown_eq]
      have hd := h.trans hlog (h.detachAll none a.encodings _)
      dsimp only
      split
      · exact h.trans hd (h.releaseAll _ _ _)
      · exact hd
    · rw [stop_of_not_bound w hs hb]
      exact hlog
  · rw [Sender.stop, if_neg hs]
    exact h.refl w

theorem act (x : Action) (a : Sender) (w : Endpoint) : R w (a.act x w).endpoint := by
  cases x with
  | extend track =>
    have hr := extended track a w
    change R w (a.extend track w).endpoint
    generalize a.extend track w = r at hr
    cases hr with
    | refused => exact h.refl w
    | added t => exact h.withEncoding a.id t w
  | swapTrack track =>
    change R w (a.swapTrack track w).endpoint
    simp only [swapTrack]
    split
    · exact h.refl w
    · exact h.exchange track a w
  | start p =>
    have hr := launched p a w
    change R w (a.start p w).endpoint
    generalize a.start p w = r at hr
    cases hr with
    | refused => exact h.refl w
    | failed f r check all => exact all ▸ h.startAll _ _ _ w
    | sent payloadType r check all => exact all ▸ h.startAll _ _ _ w
  | stop => exact h.stop a w

end Steady

end MediaSender.Sender

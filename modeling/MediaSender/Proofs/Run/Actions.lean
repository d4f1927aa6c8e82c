import MediaSender.Proofs.Run.Sound
import MediaSender.Sender.Encodings
import MediaSender.Sender.Start
import MediaSender.Sender.Stop
/-!
What a sender does to its endpoint. An action of a sender makes streams, hands them over and takes
them back, besides what a poll may do; and a sender knows only streams that exist.
-/

namespace MediaSender

namespace Endpoint

variable {w w' : Endpoint}

/-- What a sender makes whatever may be closed and whoever may write. -/
def Makes : Endpoint → Endpoint → Prop := Builds (fun _ => False) (fun _ => False)

theorem Makes.refl (w : Endpoint) : Makes w w := Relation.ReflTransGen.refl

theorem Makes.trans {w₁ w₂ w₃ : Endpoint} (h : Makes w₁ w₂) (h' : Makes w₂ w₃) : Makes w₁ w₃ :=
  Relation.ReflTransGen.trans h h'

theorem Makes.extends (h : Makes w w') : Extends w w' := Builds.extends h

theorem Makes.builds {free closes : StreamId → Prop} (h : Makes w w') : Builds free closes w w' :=
  Builds.mono h (fun _ => False.elim) fun _ => False.elim

theorem Change.makes (h : Change (fun _ => False) (fun _ => False) w w') : Makes w w' :=
  Relation.ReflTransGen.single (.inl h)

theorem Handover.makes (h : Handover w w') : Makes w w' := Relation.ReflTransGen.single (.inr h)

/-- What happens when tracks are bound and unbound: no stream is made, and none is closed. -/
def Rebinds : Endpoint → Endpoint → Prop := Evolves (fun _ => False) (fun _ => False)

theorem Rebinds.refl (w : Endpoint) : Rebinds w w := Evolves.refl w

theorem Rebinds.trans {w₁ w₂ w₃ : Endpoint} (h : Rebinds w₁ w₂) (h' : Rebinds w₂ w₃) :
    Rebinds w₁ w₃ := Evolves.trans h h'

theorem Rebinds.extends (h : Rebinds w w') : Extends w w' := Evolves.extends h

theorem Rebinds.makes (h : Rebinds w w') : Makes w w' :=
  Relation.ReflTransGen.mono (fun _ _ => .inl) _ _ h

theorem rebinds_log (level : LogLevel) (text : String) (w : Endpoint) :
    Rebinds w (w.log level text) := evolves_log level text w

theorem makes_reportAll (rs : List Report) (w : Endpoint) :
    Makes w (w.reportAll rs) := by
  have h : ∀ e ∈ rs.map Event.report, e.isNote := by
    intro e he
    obtain ⟨r, -, rfl⟩ := List.mem_map.mp he
    rfl
  exact (Change.notes w h).makes

theorem makes_log (level : LogLevel) (text : String) (w : Endpoint) :
    Makes w (w.log level text) := (rebinds_log level text w).makes

theorem makes_own (ssrc : Ssrc) (deadline : Option Instant) (w : Endpoint) :
    Makes w ((w.addStream ssrc deadline).bindReader w.nextStream) :=
  (Handover.own w ssrc deadline).makes.trans (makes_reportAll _ _)

theorem makes_bindWriter {s : StreamId} (d : StreamDescription) (h : w.Owned s) :
    Makes w (w.bindWriter s d) :=
  (Handover.hand w d h).makes.trans (makes_reportAll _ _)

theorem makes_releaseStream (d : StreamDescription) (w : Endpoint) :
    Makes w (w.releaseStream d) :=
  (Handover.release w d).makes.trans (makes_reportAll _ _)

theorem owned_bindReader (s : StreamId) (w : Endpoint) : (w.bindReader s).Owned s :=
  List.mem_append_left _ (List.mem_append_right _ (List.mem_singleton_self _))

theorem handed_bindWriter (s : StreamId) (d : StreamDescription) (w : Endpoint) :
    (w.bindWriter s d).Handed s :=
  ⟨d, List.mem_append_left _ (List.mem_append_right _ (List.mem_singleton_self _))⟩

theorem target_readerOf (w : Endpoint) (s : StreamId) : (w.readerOf s).target? = some s :=
  Chain.reader_target w.chain (.stream s)

theorem target_writerOf (w : Endpoint) (s : StreamId) (d : StreamDescription) :
    (w.writerOf s d).target? = some s := Chain.writer_target w.chain d (.stream s)

theorem known_readerOf {s s' : StreamId} (hs : w'.Known s)
    (h : (w.readerOf s).target? = some s') : w'.Known s' := by
  rw [target_readerOf] at h
  exact Option.some.inj h ▸ hs

end Endpoint

open Endpoint

structure BoundStream.Known (w : Endpoint) (b : BoundStream) : Prop where
  stream : w.Known b.stream
  reader : ∀ s, b.reader.target? = some s → w.Known s

theorem BoundStream.Known.extends {w w' : Endpoint} {b : BoundStream} (h : b.Known w)
    (he : Extends w w') : b.Known w' :=
  ⟨he.known h.stream, fun s hs => he.known (h.reader s hs)⟩

theorem BoundStream.known_readerOf {w w' : Endpoint} {s : StreamId} (d : StreamDescription)
    (hs : w'.Known s) : BoundStream.Known w' ⟨s, w.readerOf s, d⟩ :=
  ⟨hs, fun _ h => Endpoint.known_readerOf hs h⟩

def Companion.Known (w : Endpoint) (c : Companion) : Prop := ∀ b, c.bound = some b → b.Known w

structure Encoding.Known (w : Endpoint) (e : Encoding) : Prop where
  primary : e.primary.Known w
  rtx : e.rtx.Known w
  fec : e.fec.Known w
  context : ∀ r s, e.context.reader = some r → r.target? = some s → w.Known s

theorem Companion.Known.extends {w w' : Endpoint} {c : Companion} (h : c.Known w)
    (he : Extends w w') : c.Known w' := fun b hb => (h b hb).extends he

theorem Encoding.Known.extends {w w' : Endpoint} {e : Encoding} (h : e.Known w)
    (he : Extends w w') : e.Known w' where
  primary := h.primary.extends he
  rtx b hb := (h.rtx b hb).extends he
  fec b hb := (h.fec b hb).extends he
  context r s hr hs := he.known (h.context r s hr hs)

theorem Encoding.Known.boundStreams {w : Endpoint} {e : Encoding} (h : e.Known w)
    {b : BoundStream} (hb : b ∈ e.boundStreams) : b.Known w := by
  unfold Encoding.boundStreams at hb
  split at hb
  · simp only [List.mem_cons, List.mem_append, Option.mem_toList] at hb
    rcases hb with rfl | hb | hb
    · exact h.primary
    · exact h.rtx b hb
    · exact h.fec b hb
  · cases hb

namespace Sender

def Known (w : Endpoint) (a : Sender) : Prop := ∀ e ∈ a.encodings, e.Known w

def held (a : Sender) : List BoundStream := a.encodings.flatMap (·.boundStreams)

theorem Known.extends {w w' : Endpoint} {a : Sender} (h : a.Known w) (he : Extends w w') :
    a.Known w' := fun e ha => (h e ha).extends he

theorem Known.reader {w : Endpoint} {a : Sender} (h : a.Known w) {feed : Feed} {x : Reader}
    {s : StreamId} (hx : a.reader feed = .ok x) (hs : x.target? = some s) : w.Known s := by
  have hbase : ∀ e, a.base = some e → e.Known w := fun e he => h e (List.mem_of_mem_head? he)
  have hcompanion : ∀ c : Option Companion, (∀ d, c = some d → d.Known w) →
      companionReader c = .ok x → w.Known s := by
    intro c hc hr
    unfold companionReader at hr
    split at hr
    · rename_i b hb
      obtain ⟨d, hd, hb⟩ := Option.bind_eq_some_iff.mp hb
      cases hr
      exact (hc d hd b hb).reader s hs
    · cases hr
  cases feed with
  | base =>
    simp only [Sender.reader] at hx
    split at hx
    · rename_i e he
      cases hx
      exact (hbase e he).primary.reader s hs
    · cases hx
  | simulcast rid =>
    simp only [Sender.reader] at hx
    split at hx
    · rename_i e he
      cases hx
      exact (h e (List.mem_of_find?_eq_some he)).primary.reader s hs
    · cases hx
  | rtx =>
    refine hcompanion _ (fun d hd => ?_) hx
    obtain ⟨e, he, rfl⟩ := Option.map_eq_some_iff.mp hd
    exact (hbase e he).rtx
  | fec =>
    refine hcompanion _ (fun d hd => ?_) hx
    obtain ⟨e, he, rfl⟩ := Option.map_eq_some_iff.mp hd
    exact (hbase e he).fec

theorem stream_drawSsrc (w : Endpoint) : w.drawSsrc.streams = w.streams := by
  simp only [drawSsrc]
  split <;> rfl

theorem makes_drawSsrc (w : Endpoint) : Makes w w.drawSsrc := by
  simp only [drawSsrc]
  split <;> exact Change.makes (.surroundings rfl rfl rfl rfl rfl fun _ h => h)

theorem makes_reserve (wanted : Bool) (w : Endpoint) :
    Makes w (reserve wanted w) := by
  simp only [reserve]
  split
  · exact makes_drawSsrc w
  · exact .refl w

theorem makes_prepared (w : Endpoint) : Makes w (prepared w) := by
  have hn : w.drawSsrc.nextStream = w.nextStream := congrArg Table.size (stream_drawSsrc w)
  simp only [prepared]
  rw [← hn]
  exact (makes_drawSsrc w).trans (makes_own _ _ _)

theorem known_prepared (w : Endpoint) : (prepared w).Known w.nextStream := by
  have hn : w.drawSsrc.nextStream = w.nextStream := congrArg Table.size (stream_drawSsrc w)
  rw [← hn]
  exact known_addStream w.nextSsrc none w.drawSsrc

theorem known_reserved (wanted : Bool) (w w' : Endpoint) :
    (reserved wanted w).Known w' := by
  intro b hb
  unfold reserved at hb
  split at hb <;> cases hb

theorem makes_withEncoding (id : String) (t : Track) (w : Endpoint) :
    Makes w (withEncoding id t w) :=
  (((makes_prepared w).trans (makes_reserve _ _)).trans (makes_reserve _ _)).trans
    (makes_log _ _ _)

theorem known_newEncoding (id : String) (t : Track) (w : Endpoint) :
    (newEncoding t w).Known (withEncoding id t w) where
  primary := by
    have he : Extends (prepared w) (withEncoding id t w) :=
      (((makes_reserve _ _).trans (makes_reserve _ _)).trans (makes_log _ _ _)).extends
    exact BoundStream.known_readerOf {} (he.known (known_prepared w))
  rtx := known_reserved _ _ _
  fec := known_reserved _ _ _
  context _ _ h := nomatch h

theorem makes_append (t : Track) (a : Sender) (w : Endpoint) :
    Makes w (append t a w).2 := makes_withEncoding a.id t w

theorem known_append (t : Track) {a : Sender} {w : Endpoint} (h : a.Known w) :
    (append t a w).1.Known (append t a w).2 := by
  have he : Extends w (append t a w).2 := (makes_append t a w).extends
  intro e ha
  rcases List.mem_append.mp ha with ha | ha
  · exact (h e ha).extends he
  · cases List.mem_singleton.mp ha
    exact known_newEncoding a.id t w

theorem makes_drawId (w : Endpoint) : Makes w w.drawId :=
  Change.makes (.surroundings rfl rfl rfl rfl rfl fun _ h => h)

theorem create_of_ok {track : Option Track} {connected : Bool} {a : Sender} {w w' : Endpoint}
    (h : create track connected w = .ok (a, w')) :
    ∃ t, track = some t ∧ append t { id := w.nextId, kind := t.kind } w.drawId = (a, w') := by
  unfold create at h
  split at h
  · cases h
  · cases h
  · exact ⟨_, rfl, Except.ok.inj h⟩

theorem makes_openPrimary (e : Encoding) (c : Coding) (w : Endpoint) :
    Makes w (openPrimary e c w) := by
  have ho := Handover.own w c.ssrc (w.stream e.primary.stream).deadline
  exact (ho.makes.trans (Change.addGate _).makes).trans (makes_reportAll _ _)

theorem owned_openPrimary (e : Encoding) (c : Coding) (w : Endpoint) :
    (openPrimary e c w).Owned w.nextStream := owned_bindReader _ _

theorem known_openPrimary (e : Encoding) (c : Coding) (w : Endpoint) :
    (openPrimary e c w).Known w.nextStream := known_addStream _ _ w

theorem makes_bindPrimary {s : StreamId} (g : GateId) (d : StreamDescription) {w : Endpoint}
    (h : w.Owned s) : Makes w (bindPrimary s g d w) := by
  have hb : Makes w (w.bindWriter s d) := makes_bindWriter d h
  refine hb.trans (Change.resolve _ g fun s' hs => ?_).makes
  rw [target_writerOf] at hs
  exact .inr (Option.some.inj hs ▸ handed_bindWriter s d w)

theorem makes_bindCompanion (plan : Option CompanionPlan) (w : Endpoint) :
    Makes w (bindCompanion plan w) := by
  cases plan with
  | none => exact .refl w
  | some p => exact (makes_own p.ssrc none w).trans (makes_bindWriter _ (owned_bindReader _ _))

theorem known_companionOf (plan : Option CompanionPlan) {old : Companion} {w : Endpoint}
    (h : old.Known w) : (companionOf plan old w).Known (bindCompanion plan w) := by
  cases plan with
  | none => exact h
  | some p =>
    intro b hb
    cases hb
    exact BoundStream.known_readerOf _ (known_addStream p.ssrc none w)

theorem known_contextOf {id : String} {t : Track} {c : Coding} {w w' : Endpoint}
    (hs : w'.Known w.nextStream) :
    ∀ r s, (contextOf id t c w).reader = some r → r.target? = some s → w'.Known s := by
  intro r s hr ht
  cases hr
  exact known_readerOf hs ht

section

variable (l : Launch) (t : Track) {context : Context} {s : StreamId} (g : GateId) (codec : Codec)
  (c : Coding)

theorem makes_bindStreams (e : Encoding) {w : Endpoint} (h : w.Owned s) :
    Makes w (bindStreams l t context s g codec c e w).endpoint :=
  (((makes_bindPrimary g _ h).trans (makes_bindCompanion _ _)).trans
    (makes_bindCompanion _ _)).trans (makes_log _ _ _)

theorem known_bindStreams {e : Encoding} {w : Endpoint} (h : e.Known w) (ho : w.Owned s)
    (hs : w.Known s) (hc : ∀ r s, context.reader = some r → r.target? = some s → w.Known s) :
    (bindStreams l t context s g codec c e w).encoding.Known
      (bindStreams l t context s g codec c e w).endpoint := by
  have hp : ∀ d, Extends w (bindPrimary s g d w) := fun d =>
    (makes_bindPrimary g d ho).extends
  have hb : ∀ plan w, Extends w (bindCompanion plan w) := fun plan w =>
    (makes_bindCompanion plan w).extends
  have hl : ∀ level text (w : Endpoint), Extends w (w.log level text) := fun level text w =>
    (makes_log level text w).extends
  have he : Extends w (bindStreams l t context s g codec c e w).endpoint :=
    (((hp _).trans (hb _ _)).trans (hb _ _)).trans (hl _ _ _)
  exact {
    primary := BoundStream.known_readerOf _ (he.known hs)
    rtx := ((known_companionOf _ (h.rtx.extends (hp _))).extends (hb _ _)).extends (hl _ _ _)
    fec := (known_companionOf _ ((h.fec.extends (hp _)).extends (hb _ _))).extends (hl _ _ _)
    context := fun r s hr ht => he.known (hc r s hr ht) }

end

theorem startEncoding_makes (l : Launch) (c : Coding) {e : Encoding} {w : Endpoint}
    (h : e.Known w) :
    Makes w (startEncoding l e c w).endpoint ∧
      (startEncoding l e c w).encoding.Known (startEncoding l e c w).endpoint := by
  unfold startEncoding
  split
  · exact ⟨.refl w, h⟩
  · rename_i t _
    have hk : (openPrimary e c w).Known w.nextStream := known_openPrimary e c w
    have hb : Makes w ((openPrimary e c w).bindTrack t (contextOf l.id t c w)) :=
      (makes_openPrimary e c w).trans (Change.bindTrack _ t (known_contextOf hk)).makes
    dsimp only
    split
    · exact ⟨hb, {
        primary := h.primary.extends hb.extends
        rtx := h.rtx.extends hb.extends
        fec := h.fec.extends hb.extends
        context := known_contextOf hk }⟩
    · rename_i codec _
      have ho : ((openPrimary e c w).bindTrack t (contextOf l.id t c w)).Owned w.nextStream :=
        List.mem_append_left _ (owned_openPrimary e c w)
      exact ⟨hb.trans (makes_bindStreams l t _ codec c e ho),
        known_bindStreams l t _ codec c (h.extends hb.extends) ho hk (known_contextOf hk)⟩

theorem startAll_makes (l : Launch) (es : List Encoding) (cs : List Coding) {w : Endpoint}
    (h : ∀ e ∈ es, e.Known w) :
    Makes w (startAll l es cs w).endpoint ∧
      ∀ e ∈ (startAll l es cs w).encodings, e.Known (startAll l es cs w).endpoint := by
  induction es generalizing cs w with
  | nil => exact ⟨.refl w, h⟩
  | cons e es ih =>
    cases cs with
    | nil => exact ⟨.refl w, h⟩
    | cons c cs =>
      obtain ⟨hf, hk⟩ := startEncoding_makes l c (h e List.mem_cons_self)
      have hes : ∀ e' ∈ es, e'.Known (startEncoding l e c w).endpoint := fun e' he' =>
        (h e' (List.mem_cons_of_mem _ he')).extends hf.extends
      obtain ⟨hr, hrk⟩ := ih cs hes
      dsimp only [startAll]
      split
      · exact ⟨hf, List.forall_mem_cons.mpr ⟨hk, hes⟩⟩
      · exact ⟨hf.trans hr, List.forall_mem_cons.mpr ⟨hk.extends hr.extends, hrk⟩⟩

theorem start_makes (p : SendParameters) {a : Sender} {w : Endpoint} (h : a.Known w) :
    Makes w (a.start p w).endpoint ∧ (a.start p w).sender.Known (a.start p w).endpoint := by
  have hs := startAll_makes (a.launch p w) a.encodings p.codings h
  dsimp only [start]
  split
  · exact ⟨.refl w, h⟩
  · split
    · exact hs
    · exact hs

theorem rebinds_detach (e : Encoding) (w : Endpoint) : Rebinds w (e.detach w) := by
  simp only [Encoding.detach]
  split
  · exact Change.evolves (.unbindTrack w _ _)
  · exact .refl w

theorem known_retrack {w : Endpoint} {e : Encoding} (h : e.Known w) (track : Option Track) :
    (e.retrack track).Known w := by
  simp only [Encoding.retrack]
  split
  · exact ⟨h.primary, h.rtx, h.fec, h.context⟩
  · exact h

theorem detachAll_rebinds (track : Option Track) (es : List Encoding) {w : Endpoint}
    (h : ∀ e ∈ es, e.Known w) :
    Rebinds w (detachAll track es w).endpoint ∧
      ∀ e ∈ (detachAll track es w).encodings, e.Known (detachAll track es w).endpoint := by
  induction es generalizing w with
  | nil => exact ⟨.refl w, h⟩
  | cons e es ih =>
    have hk : ∀ e' ∈ e :: es, e'.Known (e.detach w) := fun e' he' =>
      (h e' he').extends (rebinds_detach e w).extends
    obtain ⟨hr, hrk⟩ := ih fun e' he' => hk e' (List.mem_cons_of_mem _ he')
    dsimp only [detachAll]
    split
    · exact ⟨rebinds_detach e w, hk⟩
    · have hke := known_retrack (hk e List.mem_cons_self) track
      exact ⟨(rebinds_detach e w).trans hr,
        List.forall_mem_cons.mpr ⟨hke.extends hr.extends, hrk⟩⟩

theorem rebinds_bindTrack (t : Track) {c : Context} {w : Endpoint}
    (h : ∀ r s, c.reader = some r → r.target? = some s → w.Known s) :
    Rebinds w (w.bindTrack t c) := Change.evolves (.bindTrack w t h)

theorem rebinds_restore (id : String) {e : Encoding} {w : Endpoint} (h : e.Known w) :
    Rebinds w (restore id e w) := by
  simp only [restore]
  split
  · exact .refl w
  · split
    · exact rebinds_bindTrack _ h.context
    · exact (rebinds_bindTrack _ h.context).trans (rebinds_log _ _ _)

theorem attach_rebinds (a : Sender) (t : Track) {e : Encoding} {w : Endpoint} (h : e.Known w) :
    Rebinds w (attach a t e w).endpoint ∧
      (attach a t e w).encoding.Known (attach a t e w).endpoint := by
  have hc : Rebinds w (w.bindTrack t (e.contextFor t w)) := rebinds_bindTrack t h.context
  have hk := h.extends hc.extends
  dsimp only [attach]
  split
  · have hr := rebinds_restore a.id hk
    exact ⟨hc.trans hr, hk.extends hr.extends⟩
  · rename_i codec _
    have hl := rebinds_log .trace ("sender " ++ a.id ++ " replaced track with " ++ t.id)
      (w.bindTrack t (e.contextFor t w))
    have hkl := hk.extends hl.extends
    refine ⟨hc.trans hl, ⟨hkl.primary, hkl.rtx, hkl.fec, fun r s hr hs => ?_⟩⟩
    refine hkl.context r s ?_ hs
    rw [← hr, Encoding.withTrack, Context.settle]
    split <;> rfl

theorem attachBase_rebinds (a : Sender) (track : Option Track) {d : Detached}
    (h : ∀ e ∈ d.encodings, e.Known d.endpoint) :
    Rebinds d.endpoint (a.attachBase track d).endpoint ∧
      (a.attachBase track d).sender.Known (a.attachBase track d).endpoint := by
  simp only [attachBase]
  split
  · rename_i t e es hd
    rw [hd] at h
    obtain ⟨he, hes⟩ := List.forall_mem_cons.mp h
    split
    · obtain ⟨hb, hk⟩ := attach_rebinds a t he
      exact ⟨hb, List.forall_mem_cons.mpr
        ⟨hk, fun e' he' => (hes e' he').extends hb.extends⟩⟩
    · refine ⟨.refl _, fun e' he' => ?_⟩
      rw [hd] at he'
      exact h e' he'
  · exact ⟨.refl _, h⟩

theorem exchange_rebinds (track : Option Track) {a : Sender} {w : Endpoint} (h : a.Known w) :
    Rebinds w (a.exchange track w).endpoint ∧
      (a.exchange track w).sender.Known (a.exchange track w).endpoint := by
  have hd := detachAll_rebinds track a.encodings h
  have hb := attachBase_rebinds a track hd.2
  dsimp only [exchange]
  split
  · exact ⟨.refl w, h⟩
  · split
    · exact hd
    · exact ⟨hd.1.trans hb.1, hb.2⟩

theorem swapTrack_rebinds (track : Option Track) {a : Sender} {w : Endpoint} (h : a.Known w) :
    Rebinds w (a.swapTrack track w).endpoint ∧
      (a.swapTrack track w).sender.Known (a.swapTrack track w).endpoint := by
  simp only [swapTrack]
  split
  · exact ⟨.refl w, h⟩
  · exact exchange_rebinds track h

theorem extend_makes (track : Option Track) {a : Sender} {w : Endpoint} (h : a.Known w) :
    Makes w (a.extend track w).endpoint ∧
      (a.extend track w).sender.Known (a.extend track w).endpoint := by
  simp only [extend]
  split
  · exact ⟨.refl w, h⟩
  · split
    · exact ⟨.refl w, h⟩
    · exact ⟨makes_append _ a w, known_append _ h⟩

theorem exchange_none (a : Sender) (w : Endpoint) :
    let d := detachAll none a.encodings w
    a.exchange none w = ⟨{ a with encodings := d.encodings }, d.endpoint,
      match d.failure with
      | some f => .error f
      | none => .ok ()⟩ := by
  dsimp only [exchange, swapFailure]
  cases (detachAll none a.encodings w).failure with
  | some f => rfl
  | none => rfl

theorem boundStreams_retrack (track : Option Track) (e : Encoding) :
    (e.retrack track).boundStreams = e.boundStreams := by
  simp only [Encoding.retrack]
  split <;> rfl

theorem boundStreams_detachAll (track : Option Track) (es : List Encoding) (w : Endpoint) :
    (detachAll track es w).encodings.flatMap (·.boundStreams) = es.flatMap (·.boundStreams) := by
  induction es generalizing w with
  | nil => rfl
  | cons e es ih =>
    dsimp only [detachAll]
    split
    · rfl
    · rw [List.flatMap_cons, List.flatMap_cons, boundStreams_retrack, ih]

variable {free closes : StreamId → Prop}

theorem builds_release (id : String) {b : BoundStream} {w : Endpoint} (hb : w.Known b.stream)
    (hc : closes b.stream) : Builds free closes w (release id b w).endpoint := by
  have hr : Builds free closes w ((w.releaseStream b.description).closeStream b.stream) :=
    Relation.ReflTransGen.tail (makes_releaseStream b.description w).builds (.inl (.close _ hb hc))
  dsimp only [release]
  split
  · exact hr
  · exact Relation.ReflTransGen.trans hr (makes_log _ _ _).builds

theorem builds_releaseAll (id : String) {bs : List BoundStream} {w : Endpoint}
    (hb : ∀ b ∈ bs, w.Known b.stream) (hc : ∀ b ∈ bs, closes b.stream) :
    Builds free closes w (releaseAll id bs w).endpoint := by
  induction bs generalizing w with
  | nil => exact Relation.ReflTransGen.refl
  | cons b bs ih =>
    have hf : Builds free closes w (release id b w).endpoint :=
      builds_release id (hb b List.mem_cons_self) (hc b List.mem_cons_self)
    exact Relation.ReflTransGen.trans hf
      (ih (fun b' hb' => hf.extends.known (hb b' (List.mem_cons_of_mem _ hb')))
        fun b' hb' => hc b' (List.mem_cons_of_mem _ hb'))

theorem builds_teardown {a : Sender} {w : Endpoint} (h : a.Known w)
    (hc : ∀ b ∈ a.held, closes b.stream) :
    Builds free closes w (a.teardown w).endpoint ∧
      (a.teardown w).sender.Known (a.teardown w).endpoint := by
  obtain ⟨hx, hk⟩ := exchange_rebinds none h
  have hm := hx.makes
  dsimp only [teardown]
  split
  · exact ⟨hm.builds, hk⟩
  · have hh : (a.exchange none w).sender.held = a.held := by
      rw [exchange_none]
      exact boundStreams_detachAll none a.encodings w
    have hs : ∀ b ∈ (a.exchange none w).sender.held,
        (a.exchange none w).endpoint.Known b.stream := by
      intro b hb
      obtain ⟨e, he, hb⟩ := List.mem_flatMap.mp hb
      exact ((hk e he).boundStreams hb).stream
    have hr : Builds free closes (a.exchange none w).endpoint _ :=
      builds_releaseAll a.id hs (hh ▸ hc)
    exact ⟨Relation.ReflTransGen.trans hm.builds hr, hk.extends hr.extends⟩

theorem builds_stop {a : Sender} {w : Endpoint} (h : a.Known w)
    (hc : ∀ b ∈ a.held, closes b.stream) :
    Builds free closes w (a.stop w).endpoint ∧ (a.stop w).sender.Known (a.stop w).endpoint := by
  have hl := makes_log .trace ("sender " ++ a.id ++ " stopped") w
  have hk := h.extends hl.extends
  dsimp only [stop]
  split
  · split
    · have ht : Builds free closes _ _ ∧ _ :=
        builds_teardown (a := { a with lifecycle := a.lifecycle.stop }) hk hc
      exact ⟨Relation.ReflTransGen.trans hl.builds ht.1, ht.2⟩
    · exact ⟨hl.builds, hk⟩
  · exact ⟨Relation.ReflTransGen.refl, h⟩

inductive Action
  | extend (track : Option Track)
  | swapTrack (track : Option Track)
  | start (p : SendParameters)
  | stop

def act : Action → Sender → Endpoint → Result
  | .extend track => extend track
  | .swapTrack track => swapTrack track
  | .start p => start p
  | .stop => stop

def Action.Closes (a : Sender) (s : StreamId) : Action → Prop
  | stop => ∃ b ∈ a.held, b.stream = s
  | _ => False

theorem builds_act (x : Action) {a : Sender} {w : Endpoint} (h : a.Known w) :
    Builds free (fun s => x.Closes a s) w (a.act x w).endpoint ∧
      (a.act x w).sender.Known (a.act x w).endpoint := by
  cases x with
  | extend track => exact (extend_makes track h).imp_left Makes.builds
  | swapTrack track => exact (swapTrack_rebinds track h).imp_left fun hx => hx.makes.builds
  | start p => exact (start_makes p h).imp_left Makes.builds
  | stop => exact builds_stop h fun b hb => ⟨b, hb, rfl⟩

end Sender

end MediaSender

import MediaSender.Proofs.Sender.Wiring
import Mathlib.Data.List.Nodup
/-!
What the encodings of a sender hold, whatever has been tried: no two of them hold the same stream,
an encoding that was never bound has no companions, and each stream is read through the layers that
were there when the sender was made. A start that is tried again takes new streams, and keeps the
streams of a companion that it does not plan.
-/

namespace MediaSender

theorem Endpoint.setup_drawId (w : Endpoint) : SameSetup w w.drawId := ⟨rfl, rfl, rfl, rfl⟩

open Endpoint

structure Renewed (lo hi : Nat) (old new : List Nat) : Prop where
  le : lo ≤ hi
  nodup : new.Nodup
  within : ∀ s ∈ new, s ∈ old ∨ (lo ≤ s ∧ s < hi)

section

variable {lo mid hi : Nat} {old old' new new' : List Nat}

theorem renewed_same (n : Nat) (h : old.Nodup) : Renewed n n old old :=
  ⟨Nat.le_refl n, h, fun _ => .inl⟩

theorem renewed_singleton (n : Nat) (old : List Nat) : Renewed n (n + 1) old [n] where
  le := Nat.le_succ n
  nodup := List.nodup_singleton n
  within := List.forall_mem_singleton.mpr (.inr ⟨Nat.le_refl n, Nat.lt_succ_self n⟩)

theorem Renewed.below (h : Renewed lo hi old new) (below : ∀ s ∈ old, s < lo) :
    ∀ s ∈ new, s < hi := by
  intro s hs
  rcases h.within s hs with hs | ⟨-, hlt⟩
  · exact Nat.lt_of_lt_of_le (below s hs) h.le
  · exact hlt

theorem Renewed.append (h : Renewed lo mid old new) (h' : Renewed mid hi old' new')
    (below : ∀ s ∈ old, s < lo) (below' : ∀ s ∈ old', s < lo) (apart : old.Disjoint old') :
    Renewed lo hi (old ++ old') (new ++ new') where
  le := Nat.le_trans h.le h'.le
  nodup := by
    refine List.nodup_append'.mpr ⟨h.nodup, h'.nodup, fun s hs hs' => ?_⟩
    -- A stream on both sides is old, and then it was on both sides before.
    have hlt := h.below below s hs
    rcases h'.within s hs' with hold' | ⟨hge, -⟩
    · rcases h.within s hs with hold | ⟨hge, -⟩
      · exact apart hold hold'
      · exact absurd (below' s hold') (Nat.not_lt.mpr hge)
    · exact absurd hlt (Nat.not_lt.mpr hge)
  within s hs := by
    have hle := h.le
    have hle' := h'.le
    rw [List.mem_append]
    rcases List.mem_append.mp hs with hs | hs
    · rcases h.within s hs with hs | hs
      · exact .inl (.inl hs)
      · exact .inr (by omega)
    · rcases h'.within s hs with hs | hs
      · exact .inl (.inr hs)
      · exact .inr (by omega)

end

namespace Encoding

def parts (e : Encoding) : List BoundStream :=
  e.primary :: (e.rtx.bound.toList ++ e.fec.bound.toList)

theorem parts_of_bound {e : Encoding} (h : e.bound) : e.boundStreams = e.parts := if_pos h

end Encoding

namespace Sender

variable {a : Sender} {w w' : Endpoint} {e : Encoding} {es es' : List Encoding} {c : Coding}
  {cs : List Coding} {l : Launch}

def partsOf (es : List Encoding) : List BoundStream := es.flatMap (·.parts)

theorem partsOf_cons (e : Encoding) (es : List Encoding) :
    partsOf (e :: es) = e.parts ++ partsOf es := List.flatMap_cons

theorem partsOf_of_bare (h : es'.map (·.bare) = es.map (·.bare)) : partsOf es' = partsOf es := by
  have hb : ∀ es : List Encoding, partsOf (es.map (·.bare)) = partsOf es := fun es => by
    rw [partsOf, List.flatMap_map]
    rfl
  rw [← hb es', h, hb]

theorem parts_newEncoding (t : Track) (w : Endpoint) :
    (newEncoding t w).parts = [⟨w.nextStream, w.readerOf w.nextStream, {}⟩] := by
  obtain ⟨-, hrtx, hfec⟩ := untouched_newEncoding t w
  rw [Encoding.parts, hrtx, hfec]
  rfl

theorem renewed_companion (plan : Option CompanionPlan) (old : Companion) (w : Endpoint) :
    Renewed w.nextStream (bindCompanion plan w).nextStream (old.bound.toList.map (·.stream))
      ((companionOf plan old w).bound.toList.map (·.stream)) := by
  cases plan with
  | none =>
    refine renewed_same _ ?_
    change (old.bound.toList.map (·.stream)).Nodup
    cases old.bound with
    | none => exact .nil
    | some b => exact List.nodup_singleton _
  | some p => exact renewed_singleton _ _

theorem streams_split (e : Encoding) :
    e.streams = [e.primary.stream] ++
      (e.rtx.bound.toList.map (·.stream) ++ e.fec.bound.toList.map (·.stream)) := by
  rw [Encoding.streams, List.map_append]
  rfl

theorem renewed_startEncoding (l : Launch) (c : Coding) (below : ∀ s ∈ e.streams, s < w.nextStream)
    (distinct : e.streams.Nodup) :
    Renewed w.nextStream (startEncoding l e c w).endpoint.nextStream e.streams
      (startEncoding l e c w).encoding.streams := by
  have hs := encodingStarted l e c w
  generalize startEncoding l e c w = r at hs
  cases hs with
  | missing => exact renewed_same _ distinct
  | failed t f =>
    exact ⟨Nat.le_succ _, distinct, fun s => .inl⟩
  | bound t codec =>
    let w₁ := bindPrimary w.nextStream w.nextGate (l.describe c.ssrc codec)
      ((openPrimary e c w).bindTrack t (contextOf l.id t c w))
    have hn : w₁.nextStream = w.nextStream + 1 := congrArg Table.size (streams_resolve _ _ _)
    have hfirst : Renewed w.nextStream w₁.nextStream [e.primary.stream] [w.nextStream] :=
      hn ▸ renewed_singleton _ _
    let rtx := planCompanion l "_rtx" c.rtx (rtxCodec l codec) ⟨c.ssrc, codec.payloadType⟩
    let fec := planCompanion l "_fec" c.fec l.fecCodecs.head? ⟨c.ssrc, codec.payloadType⟩
    have hrtx := renewed_companion rtx e.rtx w₁
    have hfec := renewed_companion fec e.fec (bindCompanion rtx w₁)
    rw [streams_split] at below distinct ⊢
    obtain ⟨belowFirst, belowRest⟩ := List.forall_mem_append.mp below
    obtain ⟨belowRtx, belowFec⟩ := List.forall_mem_append.mp belowRest
    obtain ⟨-, distinctRest, apart⟩ := List.nodup_append'.mp distinct
    obtain ⟨-, -, apartRest⟩ := List.nodup_append'.mp distinctRest
    have hle : w.nextStream ≤ w₁.nextStream := hfirst.le
    have hrest := hrtx.append hfec (fun s hs => Nat.lt_of_lt_of_le (belowRtx s hs) hle)
      (fun s hs => Nat.lt_of_lt_of_le (belowFec s hs) hle) apartRest
    have hall := hfirst.append hrest belowFirst belowRest apart
    rw [streams_split]
    exact hall

theorem renewed_startAll (l : Launch) (cs : List Coding) (known : ∀ e ∈ es, e.Known w)
    (below : ∀ s ∈ streamsOf es, s < w.nextStream) (distinct : (streamsOf es).Nodup) :
    Renewed w.nextStream (startAll l es cs w).endpoint.nextStream (streamsOf es)
      (streamsOf (startAll l es cs w).encodings) := by
  induction es generalizing cs w with
  | nil => exact renewed_same _ .nil
  | cons e es ih =>
    cases cs with
    | nil => exact renewed_same _ distinct
    | cons c cs =>
      rw [streams_cons] at below distinct ⊢
      obtain ⟨belowFirst, belowRest⟩ := List.forall_mem_append.mp below
      obtain ⟨distinctFirst, distinctRest, apart⟩ := List.nodup_append'.mp distinct
      obtain ⟨hknown, hknowns⟩ := List.forall_mem_cons.mp known
      have hextends := (startEncoding_makes l c hknown).1.extends
      have hfirst := renewed_startEncoding l c belowFirst distinctFirst
      have rest : ∀ {hi : Nat} {new : List StreamId},
          Renewed (startEncoding l e c w).endpoint.nextStream hi (streamsOf es) new →
            Renewed w.nextStream hi (e.streams ++ streamsOf es)
              ((startEncoding l e c w).encoding.streams ++ new) := fun h =>
        hfirst.append h belowFirst belowRest apart
      cases ho : (startEncoding l e c w).outcome with
      | error f =>
        rw [startAll_error ho, streams_cons]
        exact rest (renewed_same _ distinctRest)
      | ok payloadType =>
        rw [startAll_ok ho, streams_cons]
        exact rest (ih cs (fun e' he' => (hknowns e' he').extends hextends)
          (fun s hs => Nat.lt_of_lt_of_le (belowRest s hs) hfirst.le) distinctRest)

theorem steady_setup : Steady SameSetup where
  refl := .refl
  trans := .trans
  emitAll _ _ := ⟨rfl, rfl, rfl, rfl⟩
  drawSsrc w := (untied_drawSsrc w).toSameSetup
  addStream _ _ _ := ⟨rfl, rfl, rfl, rfl⟩
  addGate _ := ⟨rfl, rfl, rfl, rfl⟩
  resolve g x w := (untied_resolve g x w).toSameSetup
  bindTrack _ _ _ := ⟨rfl, rfl, rfl, rfl⟩
  unbindTrack _ _ _ := ⟨rfl, rfl, rfl, rfl⟩
  closeStream s w := (untied_closeStream s w).toSameSetup

def ReadThrough (layers : Chain) (b : BoundStream) : Prop :=
  b.reader = layers.reader (.stream b.stream)

theorem readThrough_companion (plan : Option CompanionPlan) {old : Companion} {layers : Chain}
    (h : ∀ b ∈ old.bound.toList, ReadThrough layers b) (hw : w.chain = layers) :
    ∀ b ∈ (companionOf plan old w).bound.toList, ReadThrough layers b := by
  cases plan with
  | none => exact h
  | some p => exact List.forall_mem_singleton.mpr (by rw [ReadThrough, ← hw]; rfl)

theorem readThrough_startEncoding (l : Launch) (c : Coding)
    (h : ∀ b ∈ e.parts, ReadThrough w.chain b) :
    ∀ b ∈ (startEncoding l e c w).encoding.parts, ReadThrough w.chain b := by
  have hs := encodingStarted l e c w
  generalize startEncoding l e c w = r at hs
  cases hs with
  | missing => exact h
  | failed => exact h
  | bound t codec =>
    let w₁ := bindPrimary w.nextStream w.nextGate (l.describe c.ssrc codec)
      ((openPrimary e c w).bindTrack t (contextOf l.id t c w))
    have hw₁ : w₁.chain = w.chain := by
      exact (((untied_bindWriter _ _ _).trans (untied_resolve _ _ _)).chain).trans
        (untied_openPrimary e c w).chain
    have hw₂ : ∀ plan, (bindCompanion plan w₁).chain = w.chain := fun plan =>
      (untied_bindCompanion plan w₁).chain.trans hw₁
    obtain ⟨-, hrest⟩ := List.forall_mem_cons.mp h
    obtain ⟨hrtx, hfec⟩ := List.forall_mem_append.mp hrest
    refine List.forall_mem_cons.mpr ⟨?_, List.forall_mem_append.mpr ⟨?_, ?_⟩⟩
    · exact congrArg (Chain.reader · _) (untied_openPrimary e c w).chain
    · exact readThrough_companion _ hrtx hw₁
    · exact readThrough_companion _ hfec (hw₂ _)

theorem readThrough_startAll (l : Launch) (cs : List Coding)
    (h : ∀ b ∈ partsOf es, ReadThrough w.chain b) :
    ∀ b ∈ partsOf (startAll l es cs w).encodings, ReadThrough w.chain b := by
  induction es generalizing cs w with
  | nil => exact h
  | cons e es ih =>
    cases cs with
    | nil => exact h
    | cons c cs =>
      rw [partsOf_cons, List.forall_mem_append] at h
      have hfirst := readThrough_startEncoding l c h.1
      have hchain := chain_startEncoding l e c w
      cases ho : (startEncoding l e c w).outcome with
      | error f =>
        rw [startAll_error ho, partsOf_cons]
        exact List.forall_mem_append.mpr ⟨hfirst, h.2⟩
      | ok payloadType =>
        rw [startAll_ok ho, partsOf_cons]
        have hrest := ih (w := (startEncoding l e c w).endpoint) cs (by rw [hchain]; exact h.2)
        rw [hchain] at hrest
        exact List.forall_mem_append.mpr ⟨hfirst, hrest⟩

structure WellFormed (a : Sender) (w : Endpoint) : Prop where
  distinct : (streamsOf a.encodings).Nodup
  tidy : ∀ e ∈ a.encodings, e.Tidy
  readers : ∀ b ∈ partsOf a.encodings, ReadThrough w.chain b

theorem WellFormed.of_bare {b : Sender} (h : a.WellFormed w)
    (hb : b.encodings.map (·.bare) = a.encodings.map (·.bare)) (hw : SameSetup w w') :
    b.WellFormed w' where
  distinct := streams_of_bare hb ▸ h.distinct
  tidy := (forall_of_bare hb (p := Encoding.Tidy) fun _ => Iff.rfl).mpr h.tidy
  readers := by
    rw [partsOf_of_bare hb, hw.chain]
    exact h.readers

theorem WellFormed.append (h : a.WellFormed w) (known : a.Known w) (t : Track) :
    (Sender.append t a w).1.WellFormed (Sender.append t a w).2 where
  distinct := by
    change (streamsOf (a.encodings ++ [newEncoding t w])).Nodup
    rw [streamsOf, List.flatMap_append, List.flatMap_singleton, streams_newEncoding]
    refine List.nodup_append'.mpr ⟨h.distinct, List.nodup_singleton _, fun s hs hs' => ?_⟩
    cases List.mem_singleton.mp hs'
    exact absurd (known_streams known _ hs) (Nat.lt_irrefl _)
  tidy := List.forall_mem_append.mpr
    ⟨h.tidy, List.forall_mem_singleton.mpr (tidy_newEncoding t w)⟩
  readers := by
    change ∀ b ∈ partsOf (a.encodings ++ [newEncoding t w]),
      ReadThrough (withEncoding a.id t w).chain b
    rw [(steady_setup.withEncoding a.id t w).chain]
    rw [partsOf, List.flatMap_append, List.flatMap_singleton, parts_newEncoding]
    exact List.forall_mem_append.mpr ⟨h.readers, List.forall_mem_singleton.mpr rfl⟩

theorem wellFormed_first (t : Track) (a : Sender) (ha : a.encodings = []) (w : Endpoint) :
    (Sender.append t a w).1.WellFormed (Sender.append t a w).2 := by
  refine WellFormed.append ?_ ?_ t
  · exact ⟨by rw [ha]; exact .nil, by rw [ha]; exact List.forall_mem_nil _,
      by rw [ha]; exact List.forall_mem_nil _⟩
  · rw [Known, ha]
    exact List.forall_mem_nil _

theorem WellFormed.act (h : a.WellFormed w) (known : a.Known w) (x : Action) :
    (a.act x w).sender.WellFormed (a.act x w).endpoint := by
  have hw := steady_setup.act x a w
  cases x with
  | extend track =>
    have hr := extended track a w
    change (a.extend track w).sender.WellFormed (a.extend track w).endpoint
    generalize a.extend track w = r at hr
    cases hr with
    | refused => exact h
    | added t => exact h.append known t
  | swapTrack track => exact h.of_bare (bare_swapTrack track a w) hw
  | start p =>
    have all : ∀ {r : AllStarted}, startAll (a.launch p w) a.encodings p.codings w = r →
        ∀ b : Sender, b.encodings = r.encodings → b.WellFormed r.endpoint := by
      rintro r rfl b hb
      refine ⟨hb ▸ ?_, hb ▸ ?_, hb ▸ ?_⟩
      · exact (renewed_startAll _ _ known (known_streams known) h.distinct).nodup
      · rcases startAll_ledger (a.launch p w) a.encodings p.codings w h.tidy with
          ⟨-, hbare⟩ | ⟨fresh, lost, -, hr⟩
        · exact (forall_of_bare hbare (p := Encoding.Tidy) fun _ => Iff.rfl).mpr h.tidy
        · exact hr.tidy
      · rw [(steady_setup.startAll _ _ _ w).chain]
        exact readThrough_startAll _ _ h.readers
    have hr := launched p a w
    change (a.start p w).sender.WellFormed (a.start p w).endpoint
    generalize a.start p w = r at hr
    cases hr with
    | refused => exact h
    | failed f r check hall => exact all hall _ rfl
    | sent payloadType r check hall => exact all hall _ rfl
  | stop => exact h.of_bare (bare_stop a w) hw

end Sender

namespace Session

open Sender

variable {σ : Session} {m : Move}

theorem setup_act (σ : Session) (m : Move) : SameSetup σ.endpoint (σ.act m).1.endpoint := by
  have hc := course m σ
  generalize (σ.act m).1 = σ' at hc
  cases hc with
  | errand action endpoint =>
    generalize σ'.endpoint = w at endpoint
    cases endpoint with
    | bind => exact ⟨rfl, rfl, rfl, rfl⟩
    | unbind => exact ⟨rfl, rfl, rfl, rfl⟩
    | nothing => exact .refl _
    | report rs => exact (untied_reportAll rs _).toSameSetup
    | deadline s deadline => exact (untied_updateStream s _ _).toSameSetup
    | close named => exact (untied_closeStream _ _).toSameSetup
    | addStream ssrc => exact ⟨rfl, rfl, rfl, rfl⟩
    | addGate => exact ⟨rfl, rfl, rfl, rfl⟩
    | resolve g x => exact (untied_resolve g x _).toSameSetup
    | beside rest => exact rest.toSameSetup
    | drop c =>
      simp only [Call.drop]
      split <;> exact ⟨rfl, rfl, rfl, rfl⟩
  | poll action task t p endpoint =>
    rw [endpoint]
    exact (Task.untied_poll _ _ _ _ _ _).toSameSetup
  | create t creates action given endpoint =>
    rw [endpoint]
    exact (setup_drawId σ.endpoint).trans (steady_setup.withEncoding _ t _)
  | act action endpoint =>
    rw [endpoint]
    exact steady_setup.act _ _ _

def WellFormed (σ : Session) : Prop := ∀ k, (σ.sender k).WellFormed σ.endpoint

theorem WellFormed.act (h : σ.WellFormed) (hσ : σ.Sound) (m : Move) : (σ.act m).1.WellFormed := by
  intro k
  cases (course m σ).becomes k with
  | acted x action sender endpoint =>
    rw [sender, endpoint]
    exact (h k).act (hσ.senders k) x
  | stayed action sender =>
    obtain ⟨n, t, hs⟩ := sender
    rw [hs]
    exact (h k).of_bare rfl (setup_act σ m)
  | made t action number sender =>
    have hsetup := (setup_drawId σ.endpoint).trans
      (steady_setup.withEncoding σ.endpoint.nextId t σ.endpoint.drawId)
    rw [sender]
    exact (wellFormed_first t _ rfl _).of_bare rfl (hsetup.symm.trans (setup_act σ m))

theorem Fresh.wellFormed (h : σ.Fresh) : σ.WellFormed := by
  intro k
  rw [h.sender_eq k]
  exact ⟨.nil, List.forall_mem_nil _, List.forall_mem_nil _⟩

theorem WellFormed.after (h : σ.WellFormed) (hσ : σ.Sound) (ms : List Move) :
    (σ.after ms).WellFormed := by
  induction ms generalizing σ with
  | nil => exact h
  | cons m ms ih => exact ih (h.act hσ m) (hσ.act m)

theorem setup_after (σ : Session) (ms : List Move) :
    SameSetup σ.endpoint (σ.after ms).endpoint := by
  induction ms generalizing σ with
  | nil => exact .refl _
  | cons m ms ih => exact (setup_act σ m).trans (ih _)

end Session

end MediaSender

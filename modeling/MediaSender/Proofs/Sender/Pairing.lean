import MediaSender.Proofs.Run.Frame
import MediaSender.Proofs.Sender.Envelope
import MediaSender.Proofs.Sender.OneSender
/-!
Binds and unbinds come in pairs. What a sender has bound and not unbound since can be read off its
calls, and every encoding that is bound has its track there. The exception is a track that had to
make room for a replacement and could not be bound again when the replacement failed: the encoding
keeps it all the same, and the next unbind of it has no bind of its own.
-/

namespace MediaSender

abbrev Tie := TrackKey × String × Ssrc

inductive Tying
  | bind (x : Tie) (ok : Bool)
  | unbind (x : Tie) (ok : Bool)
  deriving DecidableEq

namespace Tying

def bind? : Tying → Option (Tie × Bool)
  | bind x ok => some (x, ok)
  | unbind .. => none

def apply (xs : List Tie) : Tying → List Tie
  | bind x true => x :: xs
  | unbind x true => xs.erase x
  | _ => xs

end Tying

def Event.tying? : Event → Option Tying
  | .trackBound key c r => some (.bind (key, c.id, c.ssrc) r.isOk)
  | .trackUnbound key id ssrc r => some (.unbind (key, id, ssrc) r.isOk)
  | _ => none

def Endpoint.tyings (w : Endpoint) : List Tying := w.trace.filterMap Event.tying?

def ties (hs : List Tying) : List Tie := hs.foldl Tying.apply []

/-- The last two binds that were tried failed: that of another track, and then that of this one,
with the same identifier and SSRC. -/
def Unrestored (x : Tie) (hs : List Tying) : Prop :=
  ∃ key, [((key, x.2), false), (x, false)] <:+ hs.filterMap Tying.bind?

def TiedOrUnrestored (x : Tie) (hs : List Tying) : Prop := x ∈ ties hs ∨ Unrestored x hs

/-- Each unbind finds its track bound, or not restored. -/
def Paired (hs : List Tying) : Prop :=
  ∀ pre x ok, pre ++ [.unbind x ok] <+: hs → TiedOrUnrestored x pre

/-- As many ties as asked for are there, but for tracks that were not restored. -/
def Holds (xs : List Tie) (hs : List Tying) : Prop :=
  ∀ x, xs.count x ≤ (ties hs).count x ∨ Unrestored x hs

section

variable {hs : List Tying} {x y : Tie} {xs : List Tie} {ok : Bool}

theorem ties_snoc (hs : List Tying) (y : Tying) : ties (hs ++ [y]) = y.apply (ties hs) :=
  List.foldl_concat _ _ _ _

theorem paired_nil : Paired [] := fun pre x ok h => by
  have hlen := h.length_le
  simp at hlen

theorem Paired.snoc (h : Paired hs) {y : Tying}
    (hy : ∀ x ok, y = .unbind x ok → TiedOrUnrestored x hs) : Paired (hs ++ [y]) := by
  intro pre x ok hp
  rcases List.prefix_concat_iff.mp hp with hp | hp
  · obtain ⟨rfl, hl⟩ := List.append_inj' hp rfl
    exact hy x ok (List.singleton_inj.mp hl).symm
  · exact h pre x ok hp

theorem Paired.bind (h : Paired hs) (x : Tie) (ok : Bool) : Paired (hs ++ [.bind x ok]) :=
  h.snoc nofun

theorem Paired.unbind (h : Paired hs) (hx : TiedOrUnrestored x hs) (ok : Bool) :
    Paired (hs ++ [.unbind x ok]) :=
  h.snoc fun y ok' hy => by
    cases hy
    exact hx

theorem unrestored_unbind : Unrestored y (hs ++ [.unbind x ok]) ↔ Unrestored y hs := by
  have hb : (hs ++ [Tying.unbind x ok]).filterMap Tying.bind? = hs.filterMap Tying.bind? := by
    rw [List.filterMap_append]
    exact List.append_nil _
  rw [Unrestored, hb, ← Unrestored]

theorem unrestored_failed (key : TrackKey) (x : Tie) (hs : List Tying) :
    Unrestored x (hs ++ [.bind (key, x.2) false] ++ [.bind x false]) := by
  refine ⟨key, ⟨hs.filterMap Tying.bind?, ?_⟩⟩
  simp [Tying.bind?]

theorem holds_nil (hs : List Tying) : Holds [] hs := fun x => .inl (by simp)

theorem Holds.tied (h : Holds xs hs) (hx : x ∈ xs) : TiedOrUnrestored x hs := by
  refine (h x).imp_left fun hc => List.count_pos_iff.mp ?_
  have hpos := List.count_pos_iff.mpr hx
  omega

theorem Holds.unbindFails (h : Holds xs hs) : Holds xs (hs ++ [.unbind x false]) := fun y => by
  rw [ties_snoc, unrestored_unbind]
  exact h y

theorem Holds.unbind (h : Holds (x :: xs) hs) : Holds xs (hs ++ [.unbind x true]) := by
  intro y
  rw [ties_snoc, unrestored_unbind]
  refine (h y).imp_left fun hc => ?_
  rw [List.count_cons] at hc
  rw [Tying.apply, List.count_erase]
  omega

theorem holds_bind (x : Tie) (hs : List Tying) : Holds [x] (hs ++ [.bind x true]) := by
  intro y
  refine .inl ?_
  rw [ties_snoc, Tying.apply, List.count_cons, List.count_cons, List.count_nil]
  omega

theorem holds_unrestored (key : TrackKey) (x : Tie) (hs : List Tying) :
    Holds [x] (hs ++ [.bind (key, x.2) false] ++ [.bind x false]) := by
  intro y
  by_cases hy : y = x
  · exact .inr (hy ▸ unrestored_failed key x hs)
  · exact .inl (by simp [Ne.symm hy])

end

namespace Endpoint

variable {w w' : Endpoint}

theorem Untied.tyings (h : Untied w w') : w'.tyings = w.tyings := by
  obtain ⟨es, ht, hes⟩ := h.events
  have hn : es.filterMap Event.tying? = [] := List.filterMap_eq_nil_iff.mpr fun e he => by
    have hx := hes e he
    cases e with
    | trackBound => cases hx
    | trackUnbound => cases hx
    | _ => rfl
  rw [Endpoint.tyings, ht, List.filterMap_append, hn, List.append_nil, ← Endpoint.tyings]

theorem tyings_bindTrack (t : Track) (c : Context) (w : Endpoint) :
    (w.bindTrack t c).tyings =
      w.tyings ++ [.bind (t.key, c.id, c.ssrc) (w.bindResult t c).isOk] := List.filterMap_append

theorem tyings_unbindTrack (t : Track) (c : Context) (w : Endpoint) :
    (w.unbindTrack t c).tyings =
      w.tyings ++ [.unbind (t.key, c.id, c.ssrc) (w.unbindResult t c).isOk] :=
  List.filterMap_append

end Endpoint

open Endpoint

theorem Encoding.attached_of_not_bound {e : Encoding} (h : e.bound = false) :
    e.attached? = none := by
  rw [attached?, h]

theorem Encoding.attached_of_bound {e : Encoding} (h : e.bound) :
    e.attached? = e.track.map fun t => (t.key, e.context.id, e.context.ssrc) := by
  rw [attached?, h]
  cases e.track <;> rfl

theorem Encoding.attached_retrack_none (e : Encoding) : (e.retrack none).attached? = none := by
  simp only [attached?, Sender.track_retrack_none]
  cases (e.retrack none).bound <;> rfl

namespace Sender

variable {a : Sender} {w : Endpoint} {e : Encoding} {es : List Encoding}

def attachedTo (es : List Encoding) : List Tie := es.filterMap (·.attached?)

theorem attachedTo_of_not_bound (h : ∀ e ∈ es, e.bound = false) : attachedTo es = [] :=
  List.filterMap_eq_nil_iff.mpr fun e he => e.attached_of_not_bound (h e he)

theorem attachedTo_cons (e : Encoding) (es : List Encoding) :
    attachedTo (e :: es) = e.attached?.toList ++ attachedTo es := filterMap_cons_toList _ e es

def Labelled (id : String) (e : Encoding) : Prop :=
  e.bound → e.context.id = id ∧ e.context.ssrc = e.ssrc

theorem labelled_of_not_bound (id : String) (hb : e.bound = false) : Labelled id e :=
  fun h => absurd (hb.symm.trans h) Bool.false_ne_true

theorem Labelled.retrack_none {id : String} (h : Labelled id e) : Labelled id (e.retrack none) := by
  simp only [Encoding.retrack]
  split <;> exact h

/-- What is kept between the calls of a sender: each unbind so far is paired, and what the encodings
are attached to is tied. -/
structure KeepsPairs (id : String) (es : List Encoding) (w : Endpoint) : Prop where
  paired : Paired w.tyings
  holds : Holds (attachedTo es) w.tyings
  labels : ∀ e ∈ es, Labelled id e

variable {id : String}

theorem KeepsPairs.of_untied {w' : Endpoint} (h : KeepsPairs id es w) (hw : Untied w w') :
    KeepsPairs id es w' := by
  constructor
  · rw [hw.tyings]
    exact h.paired
  · rw [hw.tyings]
    exact h.holds
  · exact h.labels

theorem tyings_detach (e : Encoding) (w : Endpoint) :
    (e.detach w).tyings =
      w.tyings ++ e.attached?.toList.map fun x => .unbind x (e.detachFailure w).isNone := by
  simp only [Encoding.detach, Encoding.attached?, Encoding.detachFailure]
  cases hb : e.bound with
  | false => exact (List.append_nil _).symm
  | true =>
    cases ht : e.track with
    | none => exact (List.append_nil _).symm
    | some t =>
      dsimp only
      rw [tyings_unbindTrack]
      cases w.unbindResult t e.context <;> rfl

theorem KeepsPairs.detach (h : KeepsPairs id (e :: es) w) :
    KeepsPairs id (if (e.detachFailure w).isNone then es else e :: es) (e.detach w) := by
  obtain ⟨paired, holds, labels⟩ := h
  have ht := tyings_detach e w
  have hlabels : ∀ e' ∈ (if (e.detachFailure w).isNone then es else e :: es), Labelled id e' := by
    split
    · exact (List.forall_mem_cons.mp labels).2
    · exact labels
  rw [attachedTo_cons] at holds
  cases hx : e.attached? with
  | none =>
    rw [hx, Option.toList_none, List.nil_append] at holds
    rw [hx, Option.toList_none, List.map_nil, List.append_nil] at ht
    refine ⟨ht ▸ paired, ?_, hlabels⟩
    rw [ht]
    split
    · exact holds
    · rw [attachedTo_cons, hx]
      exact holds
  | some x =>
    rw [hx, Option.toList_some, List.singleton_append] at holds
    rw [hx, Option.toList_some, List.map_singleton] at ht
    refine ⟨ht ▸ paired.unbind (holds.tied List.mem_cons_self) _, ?_, hlabels⟩
    rw [ht]
    cases hf : (e.detachFailure w).isNone with
    | true => exact holds.unbind
    | false =>
      rw [if_neg Bool.false_ne_true, attachedTo_cons, hx]
      exact holds.unbindFails

theorem KeepsPairs.detachAll (h : KeepsPairs id es w) :
    KeepsPairs id (detachAll none es w).encodings (detachAll none es w).endpoint := by
  induction es generalizing w with
  | nil => exact h
  | cons e es ih =>
    have hd := h.detach
    have he := h.labels e List.mem_cons_self
    dsimp only [Sender.detachAll]
    split
    · rename_i f hf
      rwa [hf, Option.isNone_some, if_neg Bool.false_ne_true] at hd
    · rename_i hf
      rw [hf, Option.isNone_none, if_pos rfl] at hd
      obtain ⟨paired, holds, labels⟩ := ih hd
      refine ⟨paired, ?_, List.forall_mem_cons.mpr ⟨he.retrack_none, labels⟩⟩
      rw [attachedTo_cons, Encoding.attached_retrack_none]
      exact holds

theorem tyings_restore (id : String) {t : Track} (ht : e.track = some t) (w : Endpoint) :
    (restore id e w).tyings =
      w.tyings ++
        [.bind (t.key, e.context.id, e.context.ssrc) (w.bindResult t e.context).isOk] := by
  simp only [restore, ht]
  split
  · exact tyings_bindTrack t e.context w
  · rw [(untied_log _ _ _).tyings]
    exact tyings_bindTrack t e.context w

theorem holds_restored {hs : List Tying} {key : TrackKey} {x : Tie} {ok : Bool} :
    Holds [x] (hs ++ [.bind (key, x.2) false] ++ [.bind x ok]) := by
  cases ok with
  | true => exact holds_bind x _
  | false => exact holds_unrestored key x hs

theorem attached_contextFor (hb : e.bound) (t : Track) (w : Endpoint) (payloadType : PayloadType)
    (codec : Codec) :
    (e.withTrack t ((e.contextFor t w).settle payloadType codec)).attached? =
      some (t.key, e.context.id, e.context.ssrc) := by
  obtain ⟨parameters, hs⟩ := settle_eq payloadType codec (e.contextFor t w)
  rw [hs]
  exact Encoding.attached_of_bound (e := e.withTrack t _) hb

theorem labelled_attach (a : Sender) (t : Track) (h : Labelled id e) (w : Endpoint) :
    Labelled id (attach a t e w).encoding := by
  dsimp only [attach]
  split
  · exact h
  · rename_i codec _
    obtain ⟨parameters, hs⟩ := settle_eq a.payloadType codec (e.contextFor t w)
    rw [hs]
    exact h

theorem keepsPairs_attach (a : Sender) (t : Track) (hb : e.bound) (h : Labelled id e)
    (paired : Paired w.tyings) :
    KeepsPairs id [(attach a t e w).encoding] (attach a t e w).endpoint := by
  have hbind := tyings_bindTrack t (e.contextFor t w) w
  have hl := List.forall_mem_singleton.mpr (labelled_attach a t h w)
  dsimp only [attach] at hl ⊢
  split
  · rename_i f hf
    rw [hf] at hbind hl
    have hp : Paired (w.bindTrack t (e.contextFor t w)).tyings := hbind ▸ paired.bind _ _
    cases ht : e.track with
    | none =>
      -- There was no track, and so nothing is bound again.
      simp only [restore, ht]
      refine ⟨hp, ?_, hl⟩
      rw [attachedTo_cons, e.attached_of_bound hb, ht]
      exact holds_nil _
    | some t' =>
      have hr := tyings_restore a.id ht (w.bindTrack t (e.contextFor t w))
      refine ⟨hr ▸ hp.bind _ _, ?_, hl⟩
      rw [hr, hbind, attachedTo_cons, e.attached_of_bound hb, ht]
      exact holds_restored
  · rename_i codec hc
    rw [hc] at hbind hl
    have ht := (untied_log .trace ("sender " ++ a.id ++ " replaced track with " ++ t.id)
      (w.bindTrack t (e.contextFor t w))).tyings.trans hbind
    refine ⟨ht ▸ paired.bind _ _, ?_, hl⟩
    rw [ht, attachedTo_cons, attached_contextFor hb]
    exact holds_bind _ _

theorem KeepsPairs.exchange (h : KeepsPairs id a.encodings w) (hn : a.encodings ≠ [])
    (track : Option Track) :
    KeepsPairs id (a.exchange track w).sender.encodings (a.exchange track w).endpoint := by
  cases track with
  | none =>
    rw [exchange_none]
    exact h.detachAll
  | some t =>
    cases hcheck : a.swapFailure (some t) with
    | some f =>
      rw [Sender.exchange, hcheck]
      exact h
    | none =>
      obtain ⟨e, he⟩ := singleton_of_swapFailure hn hcheck
      have hr := replaced t he w
      rw [he] at h
      have hd := h.detach
      have hl := h.labels e List.mem_cons_self
      generalize a.exchange (some t) w = r at hr
      cases hr with
      | refused => exact he ▸ h
      | stuck f failure =>
        rw [failure, Option.isNone_some, if_neg Bool.false_ne_true] at hd
        exact he ▸ hd
      | put fits free =>
        have hx : Encoding.attached? { e with track := some t } = none :=
          Encoding.attached_of_not_bound free
        refine ⟨h.paired, ?_, List.forall_mem_singleton.mpr hl⟩
        rw [attachedTo_cons, hx]
        exact holds_nil _
      | attached fits bound detached => exact keepsPairs_attach a t bound hl hd.paired

structure AddsTies (xs : List Tie) (w w' : Endpoint) : Prop where
  paired : Paired w.tyings → Paired w'.tyings
  count : ∀ x, xs.count x + (ties w.tyings).count x ≤ (ties w'.tyings).count x

theorem AddsTies.refl (w : Endpoint) : AddsTies [] w w := ⟨fun h => h, fun x => by simp⟩

theorem AddsTies.trans {xs ys : List Tie} {w₁ w₂ w₃ : Endpoint} (h : AddsTies xs w₁ w₂)
    (h' : AddsTies ys w₂ w₃) : AddsTies (xs ++ ys) w₁ w₃ where
  paired hp := h'.paired (h.paired hp)
  count x := by
    have h₁ := h.count x
    have h₂ := h'.count x
    rw [List.count_append]
    omega

theorem addsTies_startEncoding (l : Launch) (c : Coding) (hb : e.bound = false) (w : Endpoint) :
    AddsTies (startEncoding l e c w).encoding.attached?.toList w (startEncoding l e c w).endpoint ∧
      Labelled l.id (startEncoding l e c w).encoding := by
  have hs := encodingStarted l e c w
  generalize startEncoding l e c w = r at hs
  have hbind : ∀ t, ((openPrimary e c w).bindTrack t (contextOf l.id t c w)).tyings =
      w.tyings ++ [.bind (t.key, l.id, c.ssrc)
        ((openPrimary e c w).bindResult t (contextOf l.id t c w)).isOk] := fun t => by
    rw [tyings_bindTrack, (untied_openPrimary e c w).tyings]
    rfl
  cases hs with
  | missing track =>
    rw [e.attached_of_not_bound hb]
    exact ⟨.refl w, labelled_of_not_bound _ hb⟩
  | failed t f track bind =>
    have ht := hbind t
    rw [bind] at ht
    let e' : Encoding := { e with ssrc := c.ssrc, context := contextOf l.id t c w }
    have hx : e'.attached? = none := Encoding.attached_of_not_bound hb
    refine ⟨⟨fun hp => ?_, fun x => ?_⟩, fun _ => ⟨rfl, rfl⟩⟩
    · exact ht ▸ hp.bind _ _
    · rw [hx, ht, ties_snoc]
      exact Nat.le_of_eq (Nat.zero_add _)
  | bound t codec track bind =>
    have ht := hbind t
    rw [bind] at ht
    have hw := untied_bindStreams l t (contextOf l.id t c w) w.nextStream w.nextGate codec c e
      ((openPrimary e c w).bindTrack t (contextOf l.id t c w))
    refine ⟨⟨fun hp => ?_, fun x => ?_⟩, fun _ => ⟨rfl, rfl⟩⟩
    · rw [hw.tyings, ht]
      exact hp.bind _ _
    · rw [hw.tyings, ht, ties_snoc, Encoding.attached_of_bound rfl]
      simp only [bindStreams, track, Option.map_some, Option.toList_some]
      rw [List.count_singleton]
      exact Nat.le_of_eq ((Nat.add_comm _ _).trans List.count_cons.symm)

theorem addsTies_startAll (l : Launch) (cs : List Coding) (hb : ∀ e ∈ es, e.bound = false)
    (w : Endpoint) :
    AddsTies (attachedTo (startAll l es cs w).encodings) w (startAll l es cs w).endpoint ∧
      ∀ e ∈ (startAll l es cs w).encodings, Labelled l.id e := by
  have none : ∀ {es : List Encoding}, (∀ e ∈ es, e.bound = false) →
      attachedTo es = [] ∧ ∀ e ∈ es, Labelled l.id e := fun h =>
    ⟨attachedTo_of_not_bound h, fun e he => labelled_of_not_bound _ (h e he)⟩
  induction es generalizing cs w with
  | nil => exact ⟨.refl w, List.forall_mem_nil _⟩
  | cons e es ih =>
    cases cs with
    | nil =>
      obtain ⟨hx, hl⟩ := none hb
      refine ⟨?_, hl⟩
      change AddsTies (attachedTo (e :: es)) w w
      rw [hx]
      exact .refl w
    | cons c cs =>
      obtain ⟨he, hes⟩ := List.forall_mem_cons.mp hb
      obtain ⟨hadds, hlabel⟩ := addsTies_startEncoding l c he w
      cases ho : (startEncoding l e c w).outcome with
      | error f =>
        obtain ⟨hx, hl⟩ := none hes
        rw [startAll_error ho, attachedTo_cons, hx, List.append_nil]
        exact ⟨hadds, List.forall_mem_cons.mpr ⟨hlabel, hl⟩⟩
      | ok payloadType =>
        obtain ⟨hadds', hlabels⟩ := ih cs hes (startEncoding l e c w).endpoint
        rw [startAll_ok ho, attachedTo_cons]
        exact ⟨hadds.trans hadds', List.forall_mem_cons.mpr ⟨hlabel, hlabels⟩⟩

structure Tethered (n : Nat) (a : Sender) (w : Endpoint) : Prop where
  pairs : KeepsPairs a.id a.encodings w
  idle : n = 0 → ∀ e ∈ a.encodings, e.bound = false

variable {n : Nat}

theorem Tethered.of_untied {w' : Endpoint} (h : Tethered n a w) (hw : Untied w w') :
    Tethered n a w' := ⟨h.pairs.of_untied hw, h.idle⟩

theorem Tethered.of_sameUpToNegotiation {b : Sender} (h : Tethered n a w)
    (hb : a.SameUpToNegotiation b) :
    Tethered n b w := by
  obtain ⟨negotiated, transceiver, rfl⟩ := hb
  exact ⟨h.pairs, h.idle⟩

theorem Tethered.append (h : Tethered n a w) (t : Track) :
    Tethered n (append t a w).1 (append t a w).2 := by
  have hnew : (newEncoding t w).attached? = none := Encoding.attached_of_not_bound rfl
  have hx : attachedTo (a.encodings ++ [newEncoding t w]) = attachedTo a.encodings := by
    rw [attachedTo, List.filterMap_append, List.filterMap_cons_none hnew]
    exact List.append_nil _
  have hw := untied_withEncoding a.id t w
  have hp := h.pairs.of_untied hw
  constructor
  · refine ⟨hp.paired, ?_, List.forall_mem_append.mpr ⟨h.pairs.labels, ?_⟩⟩
    · change Holds (attachedTo (a.encodings ++ [newEncoding t w])) _
      rw [hx]
      exact hp.holds
    · exact List.forall_mem_singleton.mpr nofun
  · exact fun hn => List.forall_mem_append.mpr ⟨h.idle hn, List.forall_mem_singleton.mpr rfl⟩

theorem Tethered.swapTrack (h : Tethered n a w) (hn : a.encodings ≠ []) (track : Option Track) :
    Tethered n (a.swapTrack track w).sender (a.swapTrack track w).endpoint := by
  have hid : (a.swapTrack track w).sender.id = a.id := by rw [sender_swapTrack]
  constructor
  · rw [hid, Sender.swapTrack]
    split
    · exact h.pairs
    · exact h.pairs.exchange hn track
  · exact fun h0 => (forall_of_bare (bare_swapTrack track a w) fun _ => Iff.rfl).mpr (h.idle h0)

theorem Tethered.start (h : Tethered n a w) (p : SendParameters)
    (once : (a.startFailure p).isNone → n = 0) :
    Tethered (n + if (a.startFailure p).isNone then 1 else 0) (a.start p w).sender
      (a.start p w).endpoint := by
  -- Nothing is bound before the first start that gets past its checks.
  have all : a.startFailure p = none → ∀ {r : AllStarted},
      startAll (a.launch p w) a.encodings p.codings w = r →
        KeepsPairs a.id r.encodings r.endpoint := by
    rintro check r rfl
    have hb := h.idle (once (by rw [check]; rfl))
    obtain ⟨hadds, hlabels⟩ := addsTies_startAll (a.launch p w) p.codings hb w
    refine ⟨hadds.paired h.pairs.paired, fun x => .inl ?_, hlabels⟩
    have hcount := hadds.count x
    omega
  have hr := launched p a w
  generalize a.start p w = r at hr
  cases hr with
  | refused f check => rw [check]; exact h
  | failed f r check hall =>
    have hpairs := all check hall
    rw [check]
    exact ⟨hpairs, nofun⟩
  | sent payloadType r check hall =>
    have hpairs := all check hall
    rw [check]
    exact ⟨hpairs, nofun⟩

theorem Tethered.stop (h : Tethered n a w) :
    Tethered n (a.stop w).sender (a.stop w).endpoint := by
  have hlog : Untied w (w.log .trace ("sender " ++ a.id ++ " stopped")) := untied_log _ _ _
  have h' := h.pairs.of_untied hlog
  refine ⟨?_, fun h0 => (forall_of_bare (bare_stop a w) fun _ => Iff.rfl).mpr (h.idle h0)⟩
  by_cases hs : a.lifecycle.canStop
  · by_cases hb : ∃ e ∈ a.encodings, e.bound
    · rw [stop_eq w hs hb, teardown_eq]
      have hd := h'.detachAll
      dsimp only
      split
      · exact hd.of_untied (untied_releaseAll _ _ _)
      · exact hd
    · rw [stop_of_not_bound w hs hb]
      exact h'
  · rw [Sender.stop, if_neg hs]
    exact h.pairs

theorem Tethered.act (h : Tethered n a w) (hn : a.encodings ≠ []) (x : Action)
    (once : x.launches a → n = 0) :
    Tethered (n + if x.launches a then 1 else 0) (a.act x w).sender (a.act x w).endpoint := by
  cases x with
  | extend track =>
    have hr := extended track a w
    change Tethered n (a.extend track w).sender (a.extend track w).endpoint
    generalize a.extend track w = r at hr
    cases hr with
    | refused => exact h
    | added t => exact h.append t
  | swapTrack track => exact h.swapTrack hn track
  | start p => exact h.start p once
  | stop => exact h.stop

end Sender

namespace Session

open Sender

variable {name : String} {σ : Session} {m : Move} {n : Nat}

theorem launchesNow_of_none (action : σ.action? m = none) : σ.launchesNow m = false := by
  rw [launchesNow, action]

theorem tethered_act (h : OneSender name σ) (he : σ.Enveloped)
    (ht : Tethered n σ.only σ.endpoint) (creates : m.creates = false) (ties : m.ties = false)
    (once : σ.launchesNow m → n = 0) :
    Tethered (n + if σ.launchesNow m then 1 else 0) (σ.act m).1.only (σ.act m).1.endpoint := by
  have hc := course m σ
  generalize (σ.act m).1 = σ' at hc
  cases hc with
  | errand action endpoint senders =>
    rw [launchesNow_of_none action]
    exact (ht.of_untied (endpoint.untied ties)).of_sameUpToNegotiation (senders 0)
  | poll action task t p endpoint roster =>
    have hs : σ'.only = σ.only := by rw [only, only, sender, sender, roster]
    rw [launchesNow_of_none action, hs, endpoint]
    exact ht.of_untied (Task.untied_poll _ _ _ _ _ _)
  | create t hm => exact absurd (creates.symm.trans hm) Bool.false_ne_true
  | @act k x action endpoint roster =>
    cases h.key action
    have hs : σ'.only = (σ.only.act x σ.endpoint).sender := by
      rw [only, sender, roster, sender_setSender, if_pos rfl]
      rfl
    have hn : σ.only.encodings ≠ [] := encodings_ne_nil (he 0 (h.size ▸ Nat.one_pos))
    rw [launchesNow, action] at once ⊢
    rw [hs, endpoint]
    exact ht.act hn x once

theorem tethered_after (h : OneSender name σ) (he : σ.Enveloped)
    (ht : Tethered n σ.only σ.endpoint) {ms : List Move}
    (moves : ∀ m ∈ ms, m.creates = false ∧ m.ties = false) (once : n + launches ms σ ≤ 1) :
    ∃ n', Tethered n' (σ.after ms).only (σ.after ms).endpoint := by
  induction ms generalizing σ n with
  | nil => exact ⟨n, ht⟩
  | cons m ms ih =>
    obtain ⟨⟨creates, ties⟩, hms⟩ := List.forall_mem_cons.mp moves
    rw [launches] at once
    have hfirst : σ.launchesNow m → n = 0 := fun hl => by
      rw [if_pos hl] at once
      omega
    exact ih (h.act creates) (he.act h.sound m) (tethered_act h he ht creates ties hfirst) hms
      (by omega)

/-- The calls of a session on its tracks, and the tracks that its sender holds. -/
structure TracksPaired (σ : Session) : Prop where
  unbinds : Paired σ.endpoint.tyings
  bound : ∀ e ∈ σ.only.encodings, e.bound → ∀ t, e.track = some t →
    TiedOrUnrestored (t.key, σ.only.id, e.ssrc) σ.endpoint.tyings

theorem tracksPaired (h : Tethered n σ.only σ.endpoint) : TracksPaired σ := by
  refine ⟨h.pairs.paired, fun e he hb t ht => h.pairs.holds.tied ?_⟩
  obtain ⟨hid, hssrc⟩ := h.pairs.labels e he hb
  refine List.mem_filterMap.mpr ⟨e, he, ?_⟩
  rw [e.attached_of_bound hb, ht, Option.map_some, hid, hssrc]

theorem Fresh.tethered (fresh : σ.Fresh) (name : String) {track : String} {t : Track}
    (known : σ.directory.tracks.lookup track = some t) :
    Tethered 0 (σ.withSender name track).only (σ.withSender name track).endpoint := by
  obtain ⟨hw, hr, -⟩ := withSender_eq name known
  have hk : 0 = σ.roster.senders.size := by
    rw [fresh.senders]
    rfl
  have hs : (σ.withSender name track).only = _ :=
    (congrArg (·.sender 0) hr).trans ((sender_addSender 0 _ _).trans (if_pos hk))
  have htrace : σ.endpoint.drawId.tyings = [] := congrArg (List.filterMap Event.tying?) fresh.trace
  have hempty : Tethered 0 { id := σ.endpoint.nextId, kind := t.kind } σ.endpoint.drawId :=
    ⟨⟨htrace ▸ paired_nil, holds_nil _, List.forall_mem_nil _⟩, fun _ => List.forall_mem_nil _⟩
  rw [hs, hw]
  exact hempty.append t

/-- In a run of one sender in which at most one start gets past its checks, each unbind finds its
track bound, unless the track could not be restored before. -/
theorem tracks_stay_paired (fresh : σ.Fresh) (name : String) {track : String} {t : Track}
    (known : σ.directory.tracks.lookup track = some t) {ms : List Move}
    (moves : ∀ m ∈ ms, m.creates = false ∧ m.ties = false)
    (once : launches ms (σ.withSender name track) ≤ 1) :
    TracksPaired ((σ.withSender name track).after ms) := by
  have he : (σ.withSender name track).Enveloped := fresh.enveloped.act fresh.sound _
  obtain ⟨n, h⟩ := tethered_after (fresh.oneSender name known) he (fresh.tethered name known) moves
    (by rwa [Nat.zero_add])
  exact tracksPaired h

def stopMove : Move := .issue (.sender "s" .stop)

theorem goneSession_stays_paired :
    let σ := goneSession.withSender "s" "q"
    let ms := [launchMove, swapMove (some "h"), stopMove]
    goneSession.Fresh ∧ launches ms σ = 1 ∧ (σ.after ms).endpoint.tyings.length = 5 ∧
      TracksPaired (σ.after ms) := by
  have h : goneSession.Fresh := fresh_of_tracks rfl _
  exact ⟨h, by decide, by decide,
    tracks_stay_paired h "s" rfl (by decide) (by decide)⟩

def onceTrack : Track :=
  { key := 0, rid := "q", id := "v", streamId := "m"
    source := .custom .video
      (fun n _ => if n = 0 then .ok ⟨{ mimeType := Mime.vp8 }, 96⟩ else .error .unsupportedCodec)
      fun _ => .ok () }

def onceSession : Session := { directory := { tracks := [("q", onceTrack), ("h", goneTrack)] } }

/-- The track cannot be bound again: the encoding keeps it, and the stop unbinds it once more. -/
theorem unrestored_track_unbound_again :
    let σ := onceSession.withSender "s" "q"
    let τ := σ.after [launchMove, swapMove (some "h")]
    let τ' := τ.after [stopMove]
    onceSession.Fresh ∧ launches [launchMove, swapMove (some "h"), stopMove] σ = 1 ∧
      τ'.endpoint.trace.filterMap Event.unbindFailure? = [] ∧
      (∃ x, τ.only.attached = [x] ∧ ties τ.endpoint.tyings = [] ∧
        τ'.endpoint.tyings = τ.endpoint.tyings ++ [.unbind x true]) := by
  refine ⟨fresh_of_tracks rfl _, by decide, by decide, _, rfl, by decide, by decide⟩

end Session

end MediaSender

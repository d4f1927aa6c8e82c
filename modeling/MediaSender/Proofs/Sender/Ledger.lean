import MediaSender.Proofs.Sender.Teardown
/-!
The ledger of a sender: what was handed to the layers is held by some encoding, or lost. A start
that binds the streams of an encoding again takes the place of the streams that were bound before,
and those are lost.
-/

namespace MediaSender

abbrev Entry := StreamId × StreamDescription

namespace Endpoint

variable {w w' w₁ w₂ w₃ : Endpoint}

structure Hands (fresh : List Entry) (w w' : Endpoint) : Prop where
  handed : w'.handed = w.handed ++ fresh
  released : w'.released = w.released

theorem Hands.refl (w : Endpoint) : Hands [] w w := ⟨(List.append_nil _).symm, rfl⟩

theorem Hands.trans {fresh fresh' : List Entry} (h : Hands fresh w₁ w₂) (h' : Hands fresh' w₂ w₃) :
    Hands (fresh ++ fresh') w₁ w₃ :=
  ⟨by rw [h'.handed, h.handed, List.append_assoc], h'.released.trans h.released⟩

theorem hands_of_trace {es : List Event} {fresh : List Entry} (ht : w'.trace = w.trace ++ es)
    (hh : es.filterMap Event.handed? = fresh) (hr : es.filterMap Event.released? = []) :
    Hands fresh w w' where
  handed := by rw [Endpoint.handed, ht, List.filterMap_append, hh, ← Endpoint.handed]
  released := by
    rw [Endpoint.released, ht, List.filterMap_append, hr, List.append_nil, ← Endpoint.released]

theorem hands_of_quiet {es : List Event} (ht : w'.trace = w.trace ++ es)
    (hq : ∀ e ∈ es, e.isQuiet) : Hands [] w w' :=
  hands_of_trace ht (Event.handed_of_quiet hq) (Event.released_of_quiet hq)

theorem hands_of_trace_eq (ht : w'.trace = w.trace) : Hands [] w w' :=
  hands_of_quiet (ht.trans (List.append_nil _).symm) (List.forall_mem_nil _)

theorem Evolves.hands {free closes : StreamId → Prop} (h : Evolves free closes w w') :
    Hands [] w w' := by
  induction h with
  | refl => exact .refl w
  | tail _ h ih =>
    obtain ⟨es, ht, hq⟩ := h.trace
    exact ih.trans (hands_of_quiet ht hq)

theorem isQuiet_of_report {rs : List Report} : ∀ e ∈ rs.map Event.report, e.isQuiet := by
  intro e he
  obtain ⟨r, -, rfl⟩ := List.mem_map.mp he
  rfl

theorem hands_reportAll (rs : List Report) (w : Endpoint) : Hands [] w (w.reportAll rs) :=
  hands_of_quiet rfl isQuiet_of_report

theorem hands_log (level : LogLevel) (text : String) (w : Endpoint) :
    Hands [] w (w.log level text) :=
  hands_of_quiet rfl (List.forall_mem_singleton.mpr rfl)

theorem hands_own (ssrc : Ssrc) (deadline : Option Instant) (w : Endpoint) :
    Hands [] w ((w.addStream ssrc deadline).bindReader w.nextStream) := by
  have ht : ((w.addStream ssrc deadline).emit (.readerBound w.nextStream)).trace =
      w.trace ++ [.readerBound w.nextStream] := rfl
  have h := hands_of_trace ht rfl rfl
  exact h.trans (hands_reportAll _ _)

theorem hands_bindWriter (s : StreamId) (d : StreamDescription) (w : Endpoint) :
    Hands [(s, d)] w (w.bindWriter s d) := by
  have h := hands_of_trace (trace_emit (.writerBound s d) w) rfl rfl
  exact h.trans (hands_reportAll _ _)

theorem trace_resolve (g : GateId) (x : Writer) (w : Endpoint) :
    (w.resolve g x).trace = w.trace := by
  simp only [resolve]
  split <;> rfl

end Endpoint

open Endpoint

def BoundStream.entry (b : BoundStream) : Entry := (b.stream, b.description)

namespace Encoding

def entries (e : Encoding) : List Entry := e.boundStreams.map (·.entry)

def Tidy (e : Encoding) : Prop := e.bound = false → e.rtx.bound = none ∧ e.fec.bound = none

def bare (e : Encoding) : Encoding := { e with track := none, context := {}, ssrc := 0 }

end Encoding

def Companion.entries (c : Companion) : List Entry := c.bound.toList.map (·.entry)

theorem Encoding.entries_of_bound {e : Encoding} (h : e.bound) :
    e.entries = e.primary.entry :: (e.rtx.entries ++ e.fec.entries) := by
  rw [entries, boundStreams, if_pos h, List.map_cons, List.map_append]
  rfl

theorem Encoding.entries_of_not_bound {e : Encoding} (h : e.bound = false) : e.entries = [] := by
  rw [entries, boundStreams, h]
  rfl

namespace Sender

def entries (es : List Encoding) : List Entry := es.flatMap (·.entries)

theorem entries_eq_held (a : Sender) : entries a.encodings = a.held.map (·.entry) := by
  rw [held, List.map_flatMap]
  rfl

def planEntries (plan : Option CompanionPlan) (w : Endpoint) : List Entry :=
  plan.toList.map fun p => (w.nextStream, p.description)

def planLosses (plan : Option CompanionPlan) (old : Companion) : List Entry :=
  if plan.isSome then old.entries else []

theorem entries_eq_nil {c : Companion} (h : c.bound = none) : c.entries = [] := by
  rw [Companion.entries, h]
  rfl

theorem planLosses_eq_nil (plan : Option CompanionPlan) {old : Companion} (h : old.bound = none) :
    planLosses plan old = [] := by
  simp only [planLosses]
  split
  · exact entries_eq_nil h
  · rfl

theorem hands_bindCompanion (plan : Option CompanionPlan) (w : Endpoint) :
    Hands (planEntries plan w) w (bindCompanion plan w) := by
  cases plan with
  | none => exact .refl w
  | some p => exact (hands_own p.ssrc none w).trans (hands_bindWriter _ _ _)

theorem balance_companion (plan : Option CompanionPlan) (old : Companion) (w : Endpoint)
    (x : Entry) :
    old.entries.count x + (planEntries plan w).count x =
      (companionOf plan old w).entries.count x + (planLosses plan old).count x := by
  cases plan with
  | none => rfl
  | some p => exact Nat.add_comm _ _

theorem hands_openPrimary (e : Encoding) (c : Coding) (w : Endpoint) :
    Hands [] w (openPrimary e c w) := by
  have h := hands_own c.ssrc (w.stream e.primary.stream).deadline w
  exact ⟨h.handed, h.released⟩

theorem hands_bindPrimary (s : StreamId) (g : GateId) (d : StreamDescription) (w : Endpoint) :
    Hands [(s, d)] w (bindPrimary s g d w) :=
  (hands_bindWriter s d w).trans (hands_of_trace_eq (trace_resolve g _ _))

/-- Streams are bound: `fresh` is what is handed over, and `lost` what is held no longer. -/
structure Rebound (es es' : List Encoding) (fresh lost : List Entry) : Prop where
  nonempty : fresh ≠ []
  balance : (entries es ++ fresh).Perm (entries es' ++ lost)
  tidy : ∀ e ∈ es', e.Tidy
  base : es'.head?.any (·.bound)
  first : (∀ e ∈ es, e.bound = false) → lost = []
  again : es.head?.any (·.bound) → lost ≠ []

theorem rebound_bindStreams (l : Launch) (t : Track) (context : Context) (s : StreamId)
    (g : GateId) (codec : Codec) (c : Coding) {e : Encoding} (w : Endpoint) (tidy : e.Tidy) :
    ∃ fresh lost, Hands fresh w (bindStreams l t context s g codec c e w).endpoint ∧
      Rebound [e] [(bindStreams l t context s g codec c e w).encoding] fresh lost := by
  let d := l.describe c.ssrc codec
  let rtx := planCompanion l "_rtx" c.rtx (rtxCodec l codec) ⟨c.ssrc, codec.payloadType⟩
  let fec := planCompanion l "_fec" c.fec l.fecCodecs.head? ⟨c.ssrc, codec.payloadType⟩
  let w₁ := bindPrimary s g d w
  let w₂ := bindCompanion rtx w₁
  have hands : Hands ([(s, d)] ++ planEntries rtx w₁ ++ planEntries fec w₂ ++ []) w _ :=
    (((hands_bindPrimary s g d w).trans (hands_bindCompanion rtx w₁)).trans
      (hands_bindCompanion fec w₂)).trans (hands_log .trace (boundText l.id t c codec) _)
  have hr := balance_companion rtx e.rtx w₁
  have hf := balance_companion fec e.fec w₂
  have hnew : entries [(bindStreams l t context s g codec c e w).encoding] =
      (s, d) :: ((companionOf rtx e.rtx w₁).entries ++ (companionOf fec e.fec w₂).entries) := by
    rw [entries, List.flatMap_singleton]
    exact Encoding.entries_of_bound rfl
  refine ⟨_, if e.bound then e.primary.entry :: (planLosses rtx e.rtx ++ planLosses fec e.fec)
    else [], hands, ?_⟩
  constructor
  · simp
  · rw [hnew, entries, List.flatMap_singleton, List.perm_iff_count]
    intro x
    have hrx := hr x
    have hfx := hf x
    cases hb : e.bound with
    | false =>
      obtain ⟨hrn, hfn⟩ := tidy hb
      rw [Encoding.entries_of_not_bound hb, if_neg Bool.false_ne_true]
      rw [entries_eq_nil hrn, planLosses_eq_nil _ hrn] at hrx
      rw [entries_eq_nil hfn, planLosses_eq_nil _ hfn] at hfx
      simp only [List.count_append, List.count_cons, List.count_nil] at hrx hfx ⊢
      omega
    | true =>
      rw [Encoding.entries_of_bound hb]
      simp only [List.count_append, List.count_cons, List.count_nil, if_true]
      omega
  · exact List.forall_mem_singleton.mpr fun h => nomatch h
  · rfl
  · intro h
    rw [h e List.mem_cons_self]
    rfl
  · intro h
    have hb : e.bound = true := h
    rw [if_pos hb]
    exact List.cons_ne_nil _ _

theorem startEncoding_ledger (l : Launch) (c : Coding) {e : Encoding} (w : Endpoint)
    (tidy : e.Tidy) :
    let r := startEncoding l e c w
    (∃ f, r.outcome = .error f ∧ Hands [] w r.endpoint ∧ r.encoding.bare = e.bare) ∨
      ∃ p fresh lost, r.outcome = .ok p ∧ Hands fresh w r.endpoint ∧
        Rebound [e] [r.encoding] fresh lost := by
  dsimp only
  unfold startEncoding
  split
  · exact .inl ⟨_, rfl, .refl w, rfl⟩
  · rename_i t _
    have hb : Hands [] w ((openPrimary e c w).bindTrack t (contextOf l.id t c w)) :=
      (hands_openPrimary e c w).trans
        (hands_of_quiet (trace_emit _ _) (List.forall_mem_singleton.mpr rfl))
    dsimp only
    split
    · exact .inl ⟨_, rfl, hb, rfl⟩
    · rename_i codec _
      obtain ⟨fresh, lost, hands, hr⟩ := rebound_bindStreams l t (contextOf l.id t c w)
        w.nextStream w.nextGate codec c ((openPrimary e c w).bindTrack t (contextOf l.id t c w))
        tidy
      exact .inr ⟨_, fresh, lost, rfl, hb.trans hands, hr⟩

theorem entries_cons (e : Encoding) (es : List Encoding) :
    entries (e :: es) = entries [e] ++ entries es := by
  rw [entries, entries, entries, List.flatMap_cons, List.flatMap_singleton]

theorem entries_of_bare {es es' : List Encoding} (h : es'.map (·.bare) = es.map (·.bare)) :
    entries es' = entries es := by
  have hb : ∀ es : List Encoding, entries (es.map (·.bare)) = entries es := fun es => by
    rw [entries, List.flatMap_map]
    rfl
  rw [← hb es', h, hb]

theorem forall_of_bare {es es' : List Encoding} (h : es'.map (·.bare) = es.map (·.bare))
    {p : Encoding → Prop} (hp : ∀ e, p e.bare ↔ p e) : (∀ e ∈ es', p e) ↔ ∀ e ∈ es, p e := by
  have hb : ∀ es : List Encoding, (∀ e ∈ es.map (·.bare), p e) ↔ ∀ e ∈ es, p e := fun es => by
    rw [List.forall_mem_map]
    exact forall_congr' fun e => imp_congr_right fun _ => hp e
  rw [← hb es', h, hb]

theorem Rebound.cons {e e' : Encoding} {es es' : List Encoding} {fresh lost : List Entry}
    (h : Rebound [e] [e'] fresh lost) (tidy : ∀ e ∈ es', e.Tidy) {fresh' lost' : List Entry}
    (balance : (entries es ++ fresh').Perm (entries es' ++ lost'))
    (first : (∀ e ∈ es, e.bound = false) → lost' = []) :
    Rebound (e :: es) (e' :: es') (fresh ++ fresh') (lost ++ lost') where
  nonempty hn := h.nonempty (List.append_eq_nil_iff.mp hn).1
  balance := by
    rw [entries_cons e es, entries_cons e' es', List.perm_iff_count]
    intro x
    have h₁ := h.balance.count_eq x
    have h₂ := balance.count_eq x
    simp only [List.count_append] at h₁ h₂ ⊢
    omega
  tidy := List.forall_mem_cons.mpr ⟨h.tidy e' List.mem_cons_self, tidy⟩
  base := h.base
  first hn := by
    obtain ⟨he, hes⟩ := List.forall_mem_cons.mp hn
    rw [h.first (List.forall_mem_singleton.mpr he), first hes]
    rfl
  again hb hn := h.again hb (List.append_eq_nil_iff.mp hn).1

theorem startAll_ledger (l : Launch) (es : List Encoding) (cs : List Coding) (w : Endpoint)
    (tidy : ∀ e ∈ es, e.Tidy) :
    let r := startAll l es cs w
    (Hands [] w r.endpoint ∧ r.encodings.map (·.bare) = es.map (·.bare)) ∨
      ∃ fresh lost, Hands fresh w r.endpoint ∧ Rebound es r.encodings fresh lost := by
  induction es generalizing cs w with
  | nil => exact .inl ⟨.refl w, rfl⟩
  | cons e es ih =>
    obtain ⟨hte, htes⟩ := List.forall_mem_cons.mp tidy
    cases cs with
    | nil => exact .inl ⟨.refl w, rfl⟩
    | cons c cs =>
      dsimp only [startAll]
      rcases startEncoding_ledger l c w hte with ⟨f, heq, hands, hbare⟩ | hf
      · rw [heq]
        exact .inl ⟨hands, by rw [List.map_cons, List.map_cons, hbare]⟩
      · obtain ⟨payloadType, fresh, lost, heq, hands, hr⟩ := hf
        rw [heq]
        rcases ih cs (startEncoding l e c w).endpoint htes with ⟨hands', hbare⟩ | hrest
        · have htidy := (forall_of_bare hbare (p := Encoding.Tidy) fun _ => Iff.rfl).mpr htes
          have hbal : (entries es ++ []).Perm
              (entries (startAll l es cs (startEncoding l e c w).endpoint).encodings ++ []) := by
            rw [entries_of_bare hbare]
          exact .inr ⟨_, _, hands.trans hands', hr.cons htidy hbal fun _ => rfl⟩
        · obtain ⟨fresh', lost', hands', hr'⟩ := hrest
          exact .inr ⟨_, _, hands.trans hands', hr.cons hr'.tidy hr'.balance hr'.first⟩

/-- After `n` starts that have bound something: what was handed over is held or lost, and nothing
is lost as long as nothing was bound twice. -/
structure Ledger (n : Nat) (lost : List Entry) (es : List Encoding) (w : Endpoint) : Prop where
  handed : w.handed.Perm (entries es ++ lost)
  released : w.released = []
  tidy : ∀ e ∈ es, e.Tidy
  base : (∀ e₀, es.head? = some e₀ → e₀.bound = false) → ∀ e ∈ es, e.bound = false
  sent : es.head?.any (·.bound) ↔ 0 < n
  lost : lost = [] ↔ n ≤ 1

theorem head_of_bare {es es' : List Encoding} (h : es'.map (·.bare) = es.map (·.bare)) :
    es'.head?.map (·.bare) = es.head?.map (·.bare) := by
  rw [← List.head?_map, ← List.head?_map, h]

variable {n : Nat} {lost : List Entry} {es es' : List Encoding} {w w' : Endpoint}

theorem any_not_bound : es.head?.any (·.bound) = false ↔
    ∀ e₀, es.head? = some e₀ → e₀.bound = false := by
  cases es with
  | nil => simp
  | cons e es => simp

theorem Ledger.not_bound (h : Ledger 0 lost es w) : ∀ e ∈ es, e.bound = false := by
  refine h.base (any_not_bound.mp ?_)
  have hn := h.sent
  simpa using hn

theorem Ledger.same (h : Ledger n lost es w) (hands : Hands [] w w')
    (hb : es'.map (·.bare) = es.map (·.bare)) : Ledger n lost es' w' := by
  have hhead := head_of_bare hb
  have hany : es'.head?.any (·.bound) = es.head?.any (·.bound) := by
    have hm : ∀ o : Option Encoding, (o.map (·.bare)).any (·.bound) = o.any (·.bound) := by
      intro o
      cases o <;> rfl
    rw [← hm, hhead, hm]
  have hall : (∀ e ∈ es', e.bound = false) ↔ ∀ e ∈ es, e.bound = false :=
    forall_of_bare hb (p := fun e => e.bound = false) fun _ => Iff.rfl
  constructor
  · rw [hands.handed, List.append_nil, entries_of_bare hb]
    exact h.handed
  · rw [hands.released, h.released]
  · exact (forall_of_bare hb (p := Encoding.Tidy) fun _ => Iff.rfl).mpr h.tidy
  · rw [← any_not_bound, hany, hall, any_not_bound]
    exact h.base
  · rw [hany]
    exact h.sent
  · exact h.lost

theorem Ledger.snoc (h : Ledger n lost es w) (hands : Hands [] w w') {e : Encoding}
    (hb : e.bound = false) (tidy : e.Tidy) : Ledger n lost (es ++ [e]) w' := by
  have hany : (es ++ [e]).head?.any (·.bound) = es.head?.any (·.bound) := by
    cases es with
    | nil => exact hb
    | cons e₀ es => rfl
  constructor
  · rw [hands.handed, List.append_nil, entries, List.flatMap_append, List.flatMap_singleton,
      Encoding.entries_of_not_bound hb, List.append_nil]
    exact h.handed
  · rw [hands.released, h.released]
  · exact List.forall_mem_append.mpr ⟨h.tidy, List.forall_mem_singleton.mpr tidy⟩
  · rw [← any_not_bound, hany, any_not_bound]
    exact fun hn => List.forall_mem_append.mpr ⟨h.base hn, List.forall_mem_singleton.mpr hb⟩
  · rw [hany]
    exact h.sent
  · exact h.lost

theorem Ledger.rebound (h : Ledger n lost es w) {fresh lost' : List Entry}
    (hands : Hands fresh w w') (hr : Rebound es es' fresh lost') :
    Ledger (n + 1) (lost' ++ lost) es' w' := by
  constructor
  · rw [hands.handed, List.perm_iff_count]
    intro x
    have h₁ := h.handed.count_eq x
    have h₂ := hr.balance.count_eq x
    simp only [List.count_append] at h₁ h₂ ⊢
    omega
  · rw [hands.released, h.released]
  · exact hr.tidy
  · intro hn
    rw [← any_not_bound, hr.base] at hn
    cases hn
  · exact ⟨fun _ => Nat.succ_pos n, fun _ => hr.base⟩
  · rw [List.append_eq_nil_iff]
    constructor
    · rintro ⟨hl, -⟩
      cases n with
      | zero => exact Nat.le_refl 1
      | succ n => exact absurd hl (hr.again (h.sent.mpr (Nat.succ_pos n)))
    · intro hn
      cases Nat.le_zero.mp (Nat.le_of_succ_le_succ hn)
      exact ⟨hr.first h.not_bound, h.lost.mpr (Nat.zero_le 1)⟩

theorem bare_retrack (track : Option Track) (e : Encoding) : (e.retrack track).bare = e.bare := by
  simp only [Encoding.retrack]
  split <;> rfl

theorem bare_detachAll (track : Option Track) (es : List Encoding) (w : Endpoint) :
    (detachAll track es w).encodings.map (·.bare) = es.map (·.bare) := by
  induction es generalizing w with
  | nil => rfl
  | cons e es ih =>
    dsimp only [detachAll]
    split
    · rfl
    · rw [List.map_cons, List.map_cons, bare_retrack, ih]

theorem bare_attach (a : Sender) (t : Track) (e : Encoding) (w : Endpoint) :
    (attach a t e w).encoding.bare = e.bare := by
  dsimp only [attach]
  split <;> rfl

theorem bare_attachBase (a : Sender) (track : Option Track) (d : Detached) :
    (a.attachBase track d).sender.encodings.map (·.bare) = d.encodings.map (·.bare) := by
  simp only [attachBase]
  split
  · rename_i t e es hd
    split
    · rw [hd, List.map_cons, List.map_cons, bare_attach]
    · rfl
  · rfl

theorem bare_swapTrack (track : Option Track) (a : Sender) (w : Endpoint) :
    (a.swapTrack track w).sender.encodings.map (·.bare) = a.encodings.map (·.bare) := by
  simp only [swapTrack]
  split
  · rfl
  · dsimp only [exchange]
    split
    · rfl
    · split
      · exact bare_detachAll track a.encodings w
      · rw [bare_attachBase]
        exact bare_detachAll track a.encodings w

theorem bare_stop (a : Sender) (w : Endpoint) :
    (a.stop w).sender.encodings.map (·.bare) = a.encodings.map (·.bare) := by
  by_cases hs : a.lifecycle.canStop
  · by_cases hb : ∃ e ∈ a.encodings, e.bound
    · rw [stop_eq w hs hb, teardown_eq]
      exact bare_detachAll none _ _
    · rw [stop_of_not_bound w hs hb]
  · rw [stop, if_neg hs]

theorem hands_withEncoding (id : String) (t : Track) (w : Endpoint) :
    Hands [] w (withEncoding id t w) := by
  have hd : ∀ w : Endpoint, w.drawSsrc.trace = w.trace := fun w => by
    simp only [drawSsrc]
    split <;> rfl
  have hr : ∀ wanted (w : Endpoint), Hands [] w (reserve wanted w) := fun wanted w => by
    simp only [reserve]
    split
    · exact hands_of_trace_eq (hd w)
    · exact .refl w
  have hp : Hands [] w (prepared w) := by
    have hn : w.drawSsrc.nextStream = w.nextStream := congrArg Table.size (stream_drawSsrc w)
    simp only [prepared]
    rw [← hn]
    exact (hands_of_trace_eq (hd w)).trans (hands_own _ _ _)
  exact ((hp.trans (hr _ _)).trans (hr _ _)).trans (hands_log _ _ _)

theorem bound_reserved (wanted : Bool) (w : Endpoint) : (reserved wanted w).bound = none := by
  simp only [reserved]
  split <;> rfl

theorem tidy_newEncoding (t : Track) (w : Endpoint) : (newEncoding t w).Tidy :=
  fun _ => ⟨bound_reserved _ _, bound_reserved _ _⟩

theorem Ledger.append (t : Track) {a : Sender} (h : Ledger n lost a.encodings w) :
    Ledger n lost (append t a w).1.encodings (append t a w).2 :=
  h.snoc (hands_withEncoding a.id t w) rfl (tidy_newEncoding t w)

def grew (w w' : Endpoint) : Nat := if w.handed.length < w'.handed.length then 1 else 0

theorem grew_of_handed (h : w'.handed = w.handed) : grew w w' = 0 := by
  rw [grew, h, if_neg (Nat.lt_irrefl _)]

theorem grew_of_hands (h : Hands [] w w') : grew w w' = 0 :=
  grew_of_handed (h.handed.trans (List.append_nil _))

theorem grew_of_fresh {fresh : List Entry} (h : Hands fresh w w') (hn : fresh ≠ []) :
    grew w w' = 1 := by
  have hlen : 0 < fresh.length := List.length_pos_iff.mpr hn
  rw [grew, if_pos]
  rw [h.handed, List.length_append]
  exact Nat.lt_add_of_pos_right hlen

variable {a : Sender}

theorem hands_extend (track : Option Track) (a : Sender) (w : Endpoint) :
    Hands [] w (a.extend track w).endpoint := by
  simp only [extend]
  split
  · exact .refl w
  · split
    · exact .refl w
    · exact hands_withEncoding a.id _ w

theorem Ledger.extend (h : Ledger n lost a.encodings w) (track : Option Track) :
    Ledger n lost (a.extend track w).sender.encodings (a.extend track w).endpoint := by
  simp only [Sender.extend]
  split
  · exact h
  · split
    · exact h
    · exact h.append _

theorem Ledger.start (h : Ledger n lost a.encodings w) (p : SendParameters) :
    ∃ lost', Ledger (n + grew w (a.start p w).endpoint) lost' (a.start p w).sender.encodings
      (a.start p w).endpoint := by
  have all : ∃ lost', Ledger
      (n + grew w (startAll (a.launch p w) a.encodings p.codings w).endpoint) lost'
      (startAll (a.launch p w) a.encodings p.codings w).encodings
      (startAll (a.launch p w) a.encodings p.codings w).endpoint := by
    rcases startAll_ledger (a.launch p w) a.encodings p.codings w h.tidy with ⟨hands, hb⟩ | hr
    · rw [grew_of_hands hands]
      exact ⟨lost, h.same hands hb⟩
    · obtain ⟨fresh, lost', hands, hr⟩ := hr
      rw [grew_of_fresh hands hr.nonempty]
      exact ⟨lost' ++ lost, h.rebound hands hr⟩
  dsimp only [Sender.start]
  split
  · rw [grew_of_handed rfl]
    exact ⟨lost, h⟩
  · split
    · exact all
    · exact all

theorem Ledger.act (h : Ledger n lost a.encodings w) (ha : a.Known w) {x : Action}
    (hx : x ≠ .stop) :
    ∃ lost', Ledger (n + grew w (a.act x w).endpoint) lost' (a.act x w).sender.encodings
      (a.act x w).endpoint := by
  cases x with
  | extend track =>
    have hands : Hands [] w (a.extend track w).endpoint := hands_extend track a w
    change ∃ lost', Ledger (n + grew w (a.extend track w).endpoint) lost' _ _
    rw [grew_of_hands hands]
    exact ⟨lost, h.extend track⟩
  | swapTrack track =>
    have hands : Hands [] w (a.swapTrack track w).endpoint := (swapTrack_rebinds track ha).1.hands
    change ∃ lost', Ledger (n + grew w (a.swapTrack track w).endpoint) lost' _ _
    rw [grew_of_hands hands]
    exact ⟨lost, h.same hands (bare_swapTrack track a w)⟩
  | start p => exact h.start p
  | stop => exact absurd rfl hx

def Action.launches (a : Sender) : Action → Bool
  | start p => (a.startFailure p).isNone
  | _ => false

theorem handed_stop (a : Sender) (w : Endpoint) : (a.stop w).endpoint.handed = w.handed := by
  by_cases hs : a.lifecycle.canStop
  · by_cases hb : ∃ e ∈ a.encodings, e.bound
    · obtain ⟨es, ht, -, -, hh, -⟩ := stop_events (w := w) hs hb rfl
      rw [handed, ht, List.filterMap_append, hh, List.append_nil, ← handed]
    · rw [stop_of_not_bound w hs hb]
      exact ((hands_log _ _ w).handed).trans (List.append_nil _)
  · dsimp only [stop]
    rw [if_neg hs]

theorem grew_act_le (ha : a.Known w) (x : Action) :
    grew w (a.act x w).endpoint ≤ if x.launches a then 1 else 0 := by
  cases x with
  | extend track => exact Nat.le_of_eq (grew_of_hands (hands_extend track a w))
  | swapTrack track => exact Nat.le_of_eq (grew_of_hands (swapTrack_rebinds track ha).1.hands)
  | start p =>
    change grew w (a.start p w).endpoint ≤ if (a.startFailure p).isNone then 1 else 0
    cases hf : a.startFailure p with
    | some f =>
      rw [Sender.start, hf]
      exact Nat.le_of_eq (grew_of_handed rfl)
    | none =>
      simp only [grew]
      split <;> decide
  | stop => exact Nat.le_of_eq (grew_of_handed (handed_stop a w))

theorem stop_hasStopped (a : Sender) (w : Endpoint) :
    (a.stop w).sender.lifecycle.hasStopped := by
  have hl : a.lifecycle.stop.hasStopped := by
    simp only [Lifecycle.stop]
    split
    · assumption
    · rfl
  by_cases hs : a.lifecycle.canStop
  · by_cases hb : ∃ e ∈ a.encodings, e.bound
    · rw [stop_eq w hs hb, teardown_eq]
      exact hl
    · rw [stop_of_not_bound w hs hb]
      exact hl
  · dsimp only [stop]
    rw [if_neg hs]
    simpa [Lifecycle.canStop] using hs

theorem act_of_hasStopped (h : a.lifecycle.hasStopped) (x : Action) :
    (a.act x w).endpoint = w ∧ (a.act x w).sender = a := by
  cases x with
  | extend track =>
    change (a.extend track w).endpoint = w ∧ (a.extend track w).sender = a
    simp only [extend]
    split
    · exact ⟨rfl, rfl⟩
    · rename_i t
      have hf : ∃ f, a.extendFailure t = some f := by
        by_cases ht : t.ridText = ""
        · exact ⟨.noRid, if_pos ht⟩
        · exact ⟨.stopped, (if_neg ht).trans (if_pos h)⟩
      obtain ⟨f, hf⟩ := hf
      rw [hf]
      exact ⟨rfl, rfl⟩
  | swapTrack track =>
    change (a.swapTrack track w).endpoint = w ∧ (a.swapTrack track w).sender = a
    rw [swapTrack, if_pos h]
    exact ⟨rfl, rfl⟩
  | start p =>
    have hf : a.startFailure p = some .stopped := if_pos h
    change (a.start p w).endpoint = w ∧ (a.start p w).sender = a
    rw [Sender.start, hf]
    exact ⟨rfl, rfl⟩
  | stop =>
    have hs : ¬ a.lifecycle.canStop := by simp [Lifecycle.canStop, h]
    change (a.stop w).endpoint = w ∧ (a.stop w).sender = a
    rw [stop, if_neg hs]
    exact ⟨rfl, rfl⟩

end Sender

end MediaSender

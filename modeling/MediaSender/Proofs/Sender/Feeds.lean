import MediaSender.Proofs.Sender.Holdings
import MediaSender.Proofs.Sender.Layers
import Mathlib.Data.List.Induction
/-!
What feedback is read from. The start that succeeds gives each encoding a stream with the SSRC that
was asked for. From then on the encodings keep their streams, through whatever else happens, and
once a stop has succeeded all of these are closed.
-/

namespace MediaSender

open Endpoint

structure Encoding.Fed (e : Encoding) (c : Coding) (w : Endpoint) : Prop where
  bound : e.bound
  owned : w.Owned e.primary.stream
  known : w.Known e.primary.stream
  ssrc : w.ssrcOf e.primary.stream = c.ssrc

namespace Sender

variable {a : Sender} {w w' : Endpoint} {e e' : Encoding} {es es' : List Encoding} {c : Coding}
  {cs : List Coding} {l : Launch} {i : Nat}

def Fed (es : List Encoding) (cs : List Coding) (w : Endpoint) : Prop :=
  ∀ (i : Nat) e, es[i]? = some e → ∃ c, cs[i]? = some c ∧ e.Fed c w

theorem fed_startEncoding {payloadType : PayloadType}
    (ok : (startEncoding l e c w).outcome = .ok payloadType) :
    (startEncoding l e c w).encoding.Fed c (startEncoding l e c w).endpoint := by
  obtain ⟨t, codec, -, -, -, started⟩ := startEncoding_of_ok ok
  let w₁ := (openPrimary e c w).bindTrack t (contextOf l.id t c w)
  have hknown : w₁.Known w.nextStream := known_openPrimary e c w
  have hstream : w₁.stream w.nextStream =
      { ssrc := c.ssrc, deadline := (w.stream e.primary.stream).deadline } :=
    stream_addStream_self _ _ w
  have howned : w₁.Owned w.nextStream := List.mem_append_left _ (owned_openPrimary e c w)
  have hmakes : Makes w₁ (bindStreams l t (contextOf l.id t c w) w.nextStream w.nextGate codec c e
      w₁).endpoint := makes_bindStreams l t w.nextGate codec c e howned
  rw [started]
  exact ⟨rfl, hmakes.extends.owned howned, hmakes.extends.known hknown,
    (hmakes.extends.grows _ hknown).ssrc.trans (congrArg LazyStream.ssrc hstream)⟩

theorem Encoding.Fed.next (h : e.Fed c w) (he : e'.bare = e.bare) (hw : Extends w w') :
    e'.Fed c w' := by
  have hbound : e'.bound = e.bound := congrArg (·.bound) he
  have hprimary : e'.primary = e.primary := congrArg (·.primary) he
  constructor
  · rw [hbound]
    exact h.bound
  · rw [hprimary]
    exact hw.owned h.owned
  · rw [hprimary]
    exact hw.known h.known
  · rw [hprimary]
    exact (hw.grows _ h.known).ssrc.trans h.ssrc

theorem getElem?_of_bare (h : es'.map (·.bare) = es.map (·.bare)) (he : es'[i]? = some e') :
    ∃ e, es[i]? = some e ∧ e'.bare = e.bare := by
  have hi : (es'.map (·.bare))[i]? = some e'.bare := by rw [List.getElem?_map, he]; rfl
  rw [h, List.getElem?_map] at hi
  obtain ⟨e, he, hb⟩ := Option.map_eq_some_iff.mp hi
  exact ⟨e, he, hb.symm⟩

theorem getElem?_codings (a : Sender) (w : Endpoint) (he : a.encodings[i]? = some e) :
    (a.parameters w).codings[i]? = some (a.coding e) := by
  rw [parameters, List.getElem?_map, he]
  rfl

theorem Fed.next (h : Fed es cs w) (hb : es'.map (·.bare) = es.map (·.bare)) (hw : Extends w w') :
    Fed es' cs w' := by
  intro i e' he'
  obtain ⟨e, he, hbare⟩ := getElem?_of_bare hb he'
  obtain ⟨c, hc, hfed⟩ := h i e he
  exact ⟨c, hc, Encoding.Fed.next hfed hbare hw⟩

theorem fed_cons (h : e.Fed c w) (hs : Fed es cs w) : Fed (e :: es) (c :: cs) w := by
  intro i e' he
  cases i with
  | zero =>
    cases he
    exact ⟨c, rfl, h⟩
  | succ i => exact hs i e' he

theorem fed_startAll (known : ∀ e ∈ es, e.Known w) (hlen : es.length ≤ cs.length)
    {r : Option PayloadType} (ok : (startAll l es cs w).outcome = .ok r) :
    Fed (startAll l es cs w).encodings cs (startAll l es cs w).endpoint := by
  induction es generalizing cs w r with
  | nil =>
    intro i e he
    cases he
  | cons e es ih =>
    cases cs with
    | nil => cases hlen
    | cons c cs =>
      obtain ⟨payloadType, rest, hfirst, hrest, -⟩ := startAll_cons_of_ok ok
      obtain ⟨hknown, hknowns⟩ := List.forall_mem_cons.mp known
      have hextends := (startEncoding_makes l c hknown).1.extends
      have hrests : ∀ e' ∈ es, e'.Known (startEncoding l e c w).endpoint := fun e' he' =>
        (hknowns e' he').extends hextends
      have hmakes := (startAll_makes l es cs hrests).1
      rw [startAll_ok hfirst]
      exact fed_cons (Encoding.Fed.next (fed_startEncoding hfirst) rfl hmakes.extends)
        (ih hrests (Nat.le_of_succ_le_succ hlen) hrest)

theorem fed_start {p : SendParameters} (known : a.Known w) (ok : (a.start p w).outcome = .ok ()) :
    Fed (a.start p w).sender.encodings p.codings (a.start p w).endpoint := by
  obtain ⟨check, payloadType, outcome, started⟩ := start_of_ok ok
  rw [started]
  exact fed_startAll known (of_startFailure check).2.2 outcome

theorem held_of_bare {b : Sender} (h : b.encodings.map (·.bare) = a.encodings.map (·.bare)) :
    b.held = a.held := by
  have hb : ∀ es : List Encoding,
      (es.map (·.bare)).flatMap (·.boundStreams) = es.flatMap (·.boundStreams) := fun es => by
    rw [List.flatMap_map]
    rfl
  rw [held, held, ← hb b.encodings, h, hb]

theorem mem_held {b : BoundStream} (he : e ∈ a.encodings) (bound : e.bound) (hb : b ∈ e.parts) :
    b ∈ a.held :=
  List.mem_flatMap.mpr ⟨e, he, (Encoding.parts_of_bound bound).symm ▸ hb⟩

theorem bare_act (h : a.lifecycle ≠ .idle) (x : Action) (w : Endpoint) :
    (a.act x w).sender.encodings.map (·.bare) = a.encodings.map (·.bare) := by
  cases hl : a.lifecycle with
  | idle => exact absurd hl h
  | stopped sent => rw [(act_of_hasStopped (w := w) (by rw [hl]; rfl) x).2]
  | sending =>
    cases x with
    | stop => exact bare_stop a w
    | swapTrack track => exact bare_swapTrack track a w
    | extend track =>
      have hstays := act_of_sending (x := .extend track) hl (by simp) (by simp) w
      rw [hstays.1]
    | start p =>
      have hstays := act_of_sending (x := .start p) hl (by simp) (by simp) w
      rw [hstays.1]

end Sender

namespace Session

open Sender

variable {σ : Session} {m : Move} {k : SenderKey}

theorem turns_append (ms ms' : List Move) (σ : Session) :
    turns (ms ++ ms') σ = turns ms σ ++ turns ms' (σ.after ms) := by
  induction ms generalizing σ with
  | nil => rfl
  | cons m ms ih => exact congrArg (_ :: ·) (ih _)

theorem turns_snoc (ms : List Move) (m : Move) (σ : Session) :
    turns (ms ++ [m]) σ = turns ms σ ++ [⟨σ.after ms, m⟩] := turns_append ms [m] σ

theorem after_snoc (ms : List Move) (m : Move) (σ : Session) :
    σ.after (ms ++ [m]) = ((σ.after ms).act m).1 := after_append ms [m] σ

theorem since_turn {P : List Turn → Session → Prop} {x : Turn} (ms : List Move)
    (hx : x ∈ turns ms σ)
    (first : ∀ before m, x = ⟨σ.after before, m⟩ →
      P (turns before σ ++ [⟨σ.after before, m⟩]) ((σ.after before).act m).1)
    (next : ∀ before m, P (turns before σ) (σ.after before) →
      P (turns before σ ++ [⟨σ.after before, m⟩]) ((σ.after before).act m).1) :
    P (turns ms σ) (σ.after ms) := by
  induction ms using List.reverseRecOn with
  | nil => cases hx
  | append_singleton ms m ih =>
    rw [turns_snoc] at hx ⊢
    rw [after_snoc]
    rcases List.mem_append.mp hx with hx | hx
    · exact next ms m (ih hx)
    · exact first ms m (List.mem_singleton.mp hx)

theorem WellNumbered.after (h : σ.WellNumbered) (ms : List Move) : (σ.after ms).WellNumbered := by
  induction ms generalizing σ with
  | nil => exact h
  | cons m ms ih => exact ih (h.act m)

theorem extends_act (h : σ.Sound) (m : Move) : Extends σ.endpoint (σ.act m).1.endpoint :=
  (effect h m).extends h

theorem WellNumbered.bare_act (h : σ.WellNumbered) (hk : (σ.sender k).lifecycle ≠ .idle)
    (m : Move) :
    ((σ.act m).1.sender k).encodings.map (·.bare) = (σ.sender k).encodings.map (·.bare) := by
  cases (course m σ).becomes k with
  | acted x action sender =>
    rw [sender]
    exact Sender.bare_act hk x σ.endpoint
  | stayed action sender =>
    obtain ⟨n, t, hs⟩ := sender
    rw [hs]
  | made t action number => exact absurd (h.unborn k (Nat.le_of_eq number.symm)) hk

/-- The sender starts with these parameters, and succeeds. -/
def Turn.Sends (k : SenderKey) (p : SendParameters) (x : Turn) : Prop :=
  x.before.action? x.move = some (k, .start p) ∧ x.succeeds

theorem not_idle_of_hasSent (h : (σ.sender k).lifecycle.hasSent) :
    (σ.sender k).lifecycle ≠ .idle := by
  intro hi
  rw [hi] at h
  cases h

theorem Turn.Orderly.stays_sent {x : Turn} (h : x.Orderly k)
    (hs : (x.before.sender k).lifecycle.hasSent) : (x.after.sender k).lifecycle.hasSent := by
  rcases h.advances with hl | hl
  · rwa [hl]
  · generalize (x.before.sender k).lifecycle = l at *
    generalize (x.after.sender k).lifecycle = l' at *
    cases hl with
    | sends => rfl
    | endsSending => rfl
    | endsIdle => cases hs

theorem Turn.Orderly.starts_of_sent {x : Turn} (h : x.Orderly k)
    (before : (x.before.sender k).lifecycle.hasSent = false)
    (after : (x.after.sender k).lifecycle.hasSent) : x.starts k := by
  rw [h.starts]
  have hl := h.advances
  generalize (x.before.sender k).lifecycle = l at *
  generalize (x.after.sender k).lifecycle = l' at *
  rcases hl with rfl | hl
  · exact absurd (before.symm.trans after) Bool.false_ne_true
  · cases hl with
    | sends => exact ⟨rfl, rfl⟩
    | endsSending => cases before
    | endsIdle => cases after

theorem Turn.action_of_asks {x : Turn} {p : Action → Bool} (h : x.asks k p) :
    ∃ y, x.before.action? x.move = some (k, y) ∧ p y := by
  unfold asks at h
  split at h
  · rename_i k' y hy
    obtain ⟨hk, hp⟩ := Bool.and_eq_true_iff.mp h
    exact ⟨y, beq_iff_eq.mp hk ▸ hy, hp⟩
  · cases h

theorem ok_of_succeeds {x : Action} (action : σ.action? m = some (k, x))
    (h : Turn.succeeds ⟨σ, m⟩) : ((σ.sender k).act x σ.endpoint).outcome = .ok () := by
  refine (Turn.succeeds_iff ?_).mp h
  exact congrArg Prod.snd (act_of_action action)

theorem fed_turn (h : σ.Sound) (starts : Turn.starts k ⟨σ, m⟩) :
    ∃ p, Turn.Sends k p ⟨σ, m⟩ ∧
      Fed ((σ.act m).1.sender k).encodings p.codings (σ.act m).1.endpoint := by
  obtain ⟨hasks, hsucceeds⟩ := Bool.and_eq_true_iff.mp starts
  obtain ⟨y, hy, hstart⟩ := Turn.action_of_asks hasks
  cases y with
  | start p =>
    refine ⟨p, ⟨hy, hsucceeds⟩, ?_⟩
    rw [sender_act hy, endpoint_act hy]
    exact fed_start (h.senders k) (ok_of_succeeds hy hsucceeds)
  | _ => cases hstart

theorem sent_after {P : Turn → Session → Prop} (h : σ.WellNumbered)
    (idle : (σ.sender k).lifecycle = .idle) (ms : List Move)
    (sent : ((σ.after ms).sender k).lifecycle.hasSent)
    (first : ∀ before m, Turn.starts k ⟨σ.after before, m⟩ →
      P ⟨σ.after before, m⟩ ((σ.after before).act m).1)
    (next : ∀ x before m, ((σ.after before).sender k).lifecycle.hasSent → P x (σ.after before) →
      P x ((σ.after before).act m).1) :
    ∃ x ∈ turns ms σ, P x (σ.after ms) := by
  induction ms using List.reverseRecOn with
  | nil =>
    rw [after, idle] at sent
    cases sent
  | append_singleton ms m ih =>
    let y : Turn := ⟨σ.after ms, m⟩
    have hτ := h.after ms
    have hy : y.Orderly k := hτ.orderly m k
    rw [turns_snoc]
    rw [after_snoc] at sent ⊢
    by_cases hbefore : ((σ.after ms).sender k).lifecycle.hasSent
    · obtain ⟨x, hx, hP⟩ := ih hbefore
      exact ⟨x, List.mem_append_left _ hx, next x ms m hbefore hP⟩
    · -- What was not sent before this move is sent by it.
      have hstarts : y.starts k := hy.starts_of_sent (eq_false_of_ne_true hbefore) sent
      exact ⟨y, List.mem_append_right _ (List.mem_singleton_self y), first ms m hstarts⟩

theorem fed_after (h : σ.WellNumbered) (idle : (σ.sender k).lifecycle = .idle) (ms : List Move)
    (sent : ((σ.after ms).sender k).lifecycle.hasSent) :
    ∃ x ∈ turns ms σ, ∃ p, x.Sends k p ∧
      Fed ((σ.after ms).sender k).encodings p.codings (σ.after ms).endpoint := by
  refine sent_after (P := fun x τ => ∃ p, x.Sends k p ∧ Fed (τ.sender k).encodings p.codings
    τ.endpoint) h idle ms sent (fun before m => fed_turn (h.after before).sound) ?_
  rintro x before m hbefore ⟨p, hsends, hfed⟩
  have hτ := h.after before
  refine ⟨p, hsends, hfed.next ?_ (extends_act hτ.sound m)⟩
  exact hτ.bare_act (not_idle_of_hasSent hbefore) m

theorem closed_turn (h : Turn.Orderly k ⟨σ, m⟩) (ends : Turn.ends k ⟨σ, m⟩)
    (ok : Turn.succeeds ⟨σ, m⟩) :
    ∀ b ∈ ((σ.act m).1.sender k).held, ((σ.act m).1.endpoint.stream b.stream).closed := by
  obtain ⟨hasks, hrunning⟩ := h.ends.mp ends
  obtain ⟨y, hy, hstop⟩ := Turn.action_of_asks hasks
  cases y with
  | stop =>
    have hcan : (σ.sender k).lifecycle.canStop := by rw [Lifecycle.canStop, hrunning]; rfl
    have hok := ok_of_succeeds hy ok
    have hheld : ((σ.sender k).stop σ.endpoint).sender.held = (σ.sender k).held :=
      held_of_bare (bare_stop _ _)
    rw [sender_act hy, endpoint_act hy]
    change ∀ b ∈ ((σ.sender k).stop σ.endpoint).sender.held, _
    rw [hheld]
    exact (stop_takes_back hcan fun hb => unbinds_of_ok hcan hb hok).2
  | _ => cases hstop

theorem known_held (h : σ.Sound) {b : BoundStream} (hb : b ∈ (σ.sender k).held) :
    σ.endpoint.Known b.stream :=
  known_streams (h.senders k) _ (mem_streams_of_held hb)

theorem closed_after (h : σ.WellNumbered) (ms : List Move)
    (ended : ∃ x ∈ turns ms σ, x.ends k ∧ x.succeeds) :
    ((σ.after ms).sender k).lifecycle.hasStopped ∧
      ∀ b ∈ ((σ.after ms).sender k).held, ((σ.after ms).endpoint.stream b.stream).closed := by
  induction ms using List.reverseRecOn with
  | nil =>
    obtain ⟨x, hx, -⟩ := ended
    cases hx
  | append_singleton ms m ih =>
    let y : Turn := ⟨σ.after ms, m⟩
    have hτ := h.after ms
    have hy : y.Orderly k := hτ.orderly m k
    rw [turns_snoc] at ended
    rw [after_snoc]
    obtain ⟨x, hx, hends, hok⟩ := ended
    rcases List.mem_append.mp hx with hx | hx
    · obtain ⟨hstopped, hclosed⟩ := ih ⟨x, hx, hends, hok⟩
      have hidle : ((σ.after ms).sender k).lifecycle ≠ .idle := fun hi => by
        rw [hi] at hstopped
        cases hstopped
      refine ⟨hy.stays_stopped hstopped, fun b hb => ?_⟩
      rw [held_of_bare (hτ.bare_act hidle m)] at hb
      exact ((extends_act hτ.sound m).grows _ (known_held hτ.sound hb)).closed (hclosed b hb)
    · cases List.mem_singleton.mp hx
      obtain ⟨hrunning, hstopped⟩ := Bool.and_eq_true_iff.mp hends
      exact ⟨hstopped, closed_turn hy hends hok⟩

end Session

end MediaSender

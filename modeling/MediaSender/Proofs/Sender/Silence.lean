import MediaSender.Proofs.Sender.Balance
/-!
What happens after a stop. Once all that the layers got is closed, packets are sent only on streams
that no sender has made, whatever is still waiting and whatever tracks and layers still write.
-/

namespace MediaSender

namespace Endpoint

variable {free free' closes : StreamId → Prop} {w w' w₁ w₂ w₃ : Endpoint}

def Silent (w : Endpoint) : Prop := ∀ s, w.Handed s → (w.stream s).closed

structure StaysSilent (free : StreamId → Prop) (w w' : Endpoint) : Prop where
  silent : w'.Silent
  sends : ∃ es, w'.trace = w.trace ++ es ∧ ∀ e ∈ es, ∀ s, e.sentOn? = some s → free s

theorem StaysSilent.of_trace (h : w.Silent) (ht : w'.trace = w.trace)
    (hc : ∀ s, w.Handed s → (w.stream s).closed → (w'.stream s).closed) :
    StaysSilent free w w' where
  silent s hs := by
    rw [Handed, ht] at hs
    exact hc s hs (h s hs)
  sends := ⟨[], by rw [ht, List.append_nil], List.forall_mem_nil _⟩

theorem StaysSilent.refl (h : w.Silent) : StaysSilent free w w := .of_trace h rfl fun _ _ => id

theorem StaysSilent.trans (h : StaysSilent free w₁ w₂) (h' : StaysSilent free w₂ w₃) :
    StaysSilent free w₁ w₃ := by
  obtain ⟨es, ht, hs⟩ := h.sends
  obtain ⟨es', ht', hs'⟩ := h'.sends
  exact ⟨h'.silent, es ++ es', by rw [ht', ht, List.append_assoc],
    List.forall_mem_append.mpr ⟨hs, hs'⟩⟩

theorem StaysSilent.mono (h : StaysSilent free w w') (hf : ∀ s, free s → free' s) :
    StaysSilent free' w w' := by
  obtain ⟨es, ht, hs⟩ := h.sends
  exact ⟨h.silent, es, ht, fun e he s h => hf s (hs e he s h)⟩

theorem Change.staysSilent (h : Change free closes w w') (hw : w.Silent) :
    StaysSilent free w w' := by
  obtain ⟨es, ht, he⟩ := h.events
  refine ⟨fun s hs => (h.grows s).closed (hw s (h.handed_of hs)), es, ht, fun e hm s hs => ?_⟩
  obtain ⟨hws, hc⟩ := (he e hm).2 s hs
  cases hws with
  | inl hf => exact hf
  | inr hh =>
    rw [hw s hh] at hc
    cases hc

theorem Evolves.staysSilent (h : Evolves free closes w w') (hw : w.Silent) :
    StaysSilent free w w' := by
  induction h with
  | refl => exact .refl hw
  | tail _ h ih => exact ih.trans (h.staysSilent ih.silent)

theorem handed_iff {s : StreamId} : w.Handed s ↔ ∃ p ∈ w.handed, p.1 = s := by
  constructor
  · rintro ⟨d, hd⟩
    exact ⟨(s, d), List.mem_filterMap.mpr ⟨_, hd, rfl⟩, rfl⟩
  · rintro ⟨p, hp, rfl⟩
    obtain ⟨e, he, hd⟩ := List.mem_filterMap.mp hp
    cases e with
    | writerBound s' d' =>
      cases hd
      exact ⟨d', he⟩
    | _ => cases hd

theorem Balanced.silent (h : w.Balanced) : w.Silent := by
  intro s hs
  obtain ⟨p, hp, rfl⟩ := handed_iff.mp hs
  exact h.closed p hp

end Endpoint

namespace Session

open Endpoint Sender

variable {name : String} {σ σ' : Session} {m : Move}

theorem Effect.hasStopped (h : OneSender name σ) (hm : m.creates = false) (he : Effect m σ σ')
    (hs : σ.only.lifecycle.hasStopped) : σ'.only.lifecycle.hasStopped := by
  rcases he.only_cases h hm with ⟨x, -, ho, -⟩ | ⟨-, -, hl, -⟩
  · rw [ho, (act_of_hasStopped hs x).2]
    exact hs
  · rw [hl]
    exact hs

theorem Effect.staysSilent (h : OneSender name σ) (hm : m.creates = false) (he : Effect m σ σ')
    (hs : σ.only.lifecycle.hasStopped) (hw : σ.endpoint.Silent) :
    StaysSilent σ.Free σ.endpoint σ'.endpoint := by
  cases he with
  | quiet action endpoint calls plain same => exact endpoint.staysSilent hw
  | world action endpoint calls directory roster =>
    refine .of_trace hw endpoint.trace fun s _ hc => ?_
    rw [Endpoint.stream, endpoint.streams]
    exact hc
  | addStream _ ssrc action endpoint calls directory roster =>
    refine .of_trace hw (by rw [endpoint]; rfl) fun s hh hc => ?_
    have hk : σ.endpoint.Known s := h.sound.endpoint.known (.inr hh)
    rw [endpoint, stream_addStream_ne ssrc none _ (Nat.ne_of_lt hk)]
    exact hc
  | create _ a t creates => exact absurd (hm.symm.trans creates) Bool.false_ne_true
  | @act k x action endpoint calls directory roster =>
    cases h.key action
    have hx : (σ.only.act x σ.endpoint).endpoint = σ.endpoint := (act_of_hasStopped hs x).1
    change σ'.endpoint = (σ.only.act x σ.endpoint).endpoint at endpoint
    rw [endpoint, hx]
    exact .refl hw

theorem OneSender.staysSilent (h : OneSender name σ) (hs : σ.only.lifecycle.hasStopped)
    (hw : σ.endpoint.Silent) {ms : List Move} (hms : ∀ m ∈ ms, m.creates = false) :
    StaysSilent (σ.after ms).Free σ.endpoint (σ.after ms).endpoint := by
  induction ms generalizing σ with
  | nil => exact .refl hw
  | cons m ms ih =>
    obtain ⟨hm, hms⟩ := List.forall_mem_cons.mp hms
    have he := effect h.sound m
    have hfirst := he.staysSilent h hm hs hw
    have hrest := ih (h.act hm) (he.hasStopped h hm hs) hfirst.silent hms
    refine (hfirst.mono fun s hf => ?_).trans hrest
    exact free_after (h.act hm).sound ms (he.free hf)

/-- After the first stop, if it is answered with no failure, no packet is sent any more on a stream
that was made for the sender, provided that at most one start got past its checks. -/
theorem no_packet_after_stop {σ : Session} (fresh : σ.Fresh) {name track : String} {t : Track}
    (known : σ.directory.tracks.lookup track = some t) {ms ms' : List Move}
    (moves : ∀ m ∈ ms, m.creates = false) (moves' : ∀ m ∈ ms', m.creates = false)
    (once : launches ms (σ.withSender name track) ≤ 1) {τ τ' τ'' : Session}
    (run : (σ.withSender name track).after ms = τ) (first : τ.only.lifecycle.canStop)
    (stop : τ.act (.issue (.sender name .stop)) = (τ', .answered (.outcome (.ok ()))))
    (rest : τ'.after ms' = τ'') {s : StreamId} (owned : τ''.endpoint.Owned s) :
    ∀ ssrc packet, .sent s ssrc packet ∉ eventsSince τ' τ'' := by
  have h := fresh.oneSender name known
  obtain ⟨ho, lost, hl⟩ := fresh.ledger name known moves run first
  have hrounds := Nat.le_trans (rounds_le_launches h moves) once
  rw [act_stop ho] at stop
  obtain ⟨hτ', hanswer⟩ := Prod.mk.inj stop
  have hok : (τ.only.stop τ.endpoint).outcome = .ok () := by
    injection hanswer with hreply
    injection hreply
  have hb := (hl.stop_balanced_iff first fun hb => unbinds_of_ok first hb hok).mpr hrounds
  have ho' : OneSender name τ' := by
    have hact := ho.act (m := .issue (.sender name .stop)) rfl
    rwa [act_stop ho, hτ'] at hact
  subst hτ' rest
  have hstopped : (τ.only.stop τ.endpoint).sender.lifecycle.hasStopped := stop_hasStopped _ _
  obtain ⟨-, es, ht, hs⟩ := ho'.staysSilent hstopped hb.silent moves'
  -- What is sent after the stop is sent on a stream with a name, and no sender makes those.
  intro ssrc packet hsent
  rw [eventsSince, ht, List.drop_left] at hsent
  exact ((ho'.after moves').sound.endpoint.free s (hs _ hsent s rfl)).2 owned

def writeOn (track : String) : Move := .issue (.track track (.write {} [] 0))

def pairSession : Session :=
  { directory := { tracks := [("q", vp8Track 0 "q" (.ok ())), ("h", vp8Track 1 "h" (.ok ()))] } }

def writesBefore : List Move :=
  [.issue (.sender "s" (.extend (some "h"))), .issue (.sender "s" (.start none none)), writeOn "q",
    .issue (.world (.ready false)), writeOn "h"]

def writesAfter : List Move :=
  [.issue (.world (.ready true)), .poll 5, .inject 0 {}, .inject 1 {}, writeOn "q", writeOn "h"]

theorem writes_fail_after_stop :
    let τ := (pairSession.withSender "s" "q").after writesBefore
    let τ' := τ.stopped "s"
    let τ'' := τ'.after writesAfter
    τ.endpoint.trace.filterMap Event.sentOn? = [2] ∧ τ.calls.length = 1 ∧ τ''.calls.length = 0 ∧
      ∀ s ∈ [2, 3], τ''.endpoint.Handed s ∧
        ∀ ssrc packet, .sent s ssrc packet ∉ eventsSince τ' τ'' := by
  intro τ τ' τ''
  have h : pairSession.Fresh := fresh_of_tracks rfl _
  have owned : ∀ s ∈ [2, 3], τ''.endpoint.Owned s := by decide
  have handed : ∀ s ∈ [2, 3], ∃ p ∈ τ''.endpoint.handed, p.1 = s := by decide
  refine ⟨by decide, by decide, by decide, fun s hs => ⟨handed_iff.mpr (handed s hs), ?_⟩⟩
  exact no_packet_after_stop h rfl (by decide) (by decide) (by decide) rfl (by decide) rfl rfl
    (owned s hs)

end Session

end MediaSender

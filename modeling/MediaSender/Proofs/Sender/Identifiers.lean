import MediaSender.Proofs.Sender.Negotiation
/-!
Starts with the parameters that the sender reports itself. Wherever such a start ends, it leaves the
identifiers as they were: an encoding is asked to keep the SSRCs that it has, and a companion that
is not bound keeps the one that was reserved. Only the payload type is new, once all tracks are
bound.
-/

namespace MediaSender

open Endpoint

def SendParameters.retyped (payloadType : PayloadType) (p : SendParameters) : SendParameters :=
  { p with codings := p.codings.map fun c => { c with payloadType } }

namespace Sender

variable {l : Launch} {w w' : Endpoint} {a b : Sender} {r : Result} {x : Startup}

theorem coding_connected {x : Connection} (h : x.coding = a.coding x.encoding) (b : Sender) :
    b.coding (x.connected l w) = { a.coding x.encoding with payloadType := b.payloadType } := by
  have hrtx : (x.connected l w).rtx.ssrc = x.encoding.rtx.ssrc := by
    simp only [Connection.connected, h]
    cases x.rtx <;> rfl
  have hfec : (x.connected l w).fec.ssrc = x.encoding.fec.ssrc := by
    simp only [Connection.connected, h]
    cases x.fec <;> rfl
  have hssrc : (x.connected l w).ssrc = x.encoding.ssrc := congrArg Coding.ssrc h
  rw [coding, hrtx, hfec, hssrc]
  rfl

theorem coding_refused {x : BindCall} (h : x.coding = a.coding x.encoding) (b : Sender) :
    b.coding (x.refused l w) = { a.coding x.encoding with payloadType := b.payloadType } := by
  have hssrc : (x.refused l w).ssrc = x.encoding.ssrc := congrArg Coding.ssrc h
  rw [coding, hssrc]
  rfl

theorem startFailure_own (a : Sender) (w : Endpoint) :
    a.startFailure (a.parameters w) ≠ some .tooFewEncodings := by
  have hlen : ¬(a.parameters w).codings.length < a.encodings.length := by simp [parameters]
  simp only [startFailure, if_neg hlen]
  split
  · simp
  · split
    · simp
    · split <;> simp

section

variable {p : SendParameters} (h : Starts p a w r x)

include h

theorem Starts.sender_eq : ∃ payloadType lifecycle,
    r.sender = { a with encodings := r.sender.encodings, payloadType, lifecycle } := by
  cases hx : x.refusal with
  | none =>
    obtain ⟨-, first, -, hs⟩ := h.sent hx
    exact ⟨_, _, hs⟩
  | some c => exact ⟨_, _, (h.refused c.1 c.2 hx).2⟩

theorem Starts.payloadType_of_error (failed : r.outcome ≠ .ok ()) :
    r.sender.payloadType = a.payloadType := by
  cases hx : x.refusal with
  | none => exact absurd (h.sent hx).1 failed
  | some c => rw [(h.refused c.1 c.2 hx).2]

theorem Starts.refused_by_track {f : Failure} (failed : r.outcome = .error f) :
    ∃ t c, some t ∈ a.tracks ∧ .trackBound t.key c (.error f) ∈ eventsSince w r.endpoint := by
  let l : Launch := ⟨a.id, w.capabilities.codecs a.kind, p.media.headerExtensions⟩
  cases hx : x.refusal with
  | none => cases failed.symm.trans (h.sent hx).1
  | some c =>
    cases failed.symm.trans (h.refused c.1 c.2 hx).1
    have hcall : (c.1, .error c.2) ∈ x.calls := by simp [Startup.calls, hx]
    obtain ⟨rest, hes, -, -⟩ := h.connects.encodings
    refine ⟨c.1.track, (c.1.context l w).view, ?_, ?_⟩
    · rw [tracks, hes, ← h.connects.holds _ hcall]
      exact List.mem_map_of_mem (List.mem_append_left _ (List.mem_map.mpr ⟨_, hcall, rfl⟩))
    · have htrace : r.endpoint.trace = w.trace ++ x.events l w := by
        rw [h.connects.endpoint]
        rfl
      rw [eventsSince_eq htrace]
      refine List.mem_append_right _ ?_
      rw [hx, Option.toList_some, List.flatMap_singleton]
      exact List.mem_append_right _ (List.mem_singleton_self _)

end

section

variable (h : Starts (a.parameters w) a w r x)

include h

theorem Starts.own_codings : ∀ c ∈ x.calls, c.1.coding = a.coding c.1.encoding := by
  obtain ⟨rest, hes, -, -⟩ := h.connects.encodings
  have hown : x.calls.map (fun c => a.coding c.1.encoding) <+: (a.parameters w).codings := by
    refine ⟨rest.map a.coding, ?_⟩
    change _ = a.encodings.map a.coding
    rw [hes, List.map_append, List.map_map]
    rfl
  have hlead := List.prefix_of_prefix_length_le h.connects.codings hown (by simp)
  exact List.map_inj_left.mp (hlead.eq_of_length (by simp))

theorem Starts.encodings_own (b : Sender) :
    r.sender.encodings.map b.coding =
      a.encodings.map fun e => { a.coding e with payloadType := b.payloadType } := by
  obtain ⟨rest, hes, hes', -⟩ := h.connects.encodings
  have hown := h.own_codings
  rw [hes, hes', Startup.encodings, Startup.calls]
  simp only [List.map_append, List.map_map]
  congr 1
  congr 1
  · exact List.map_congr_left fun c hc => coding_connected (hown _ (mem_calls hc)) b
  · exact List.map_congr_left fun c hc =>
      coding_refused (hown _ (List.mem_append_right _ (List.mem_map.mpr ⟨c, hc, rfl⟩))) b

theorem Starts.parameters_eq :
    r.sender.parameters r.endpoint = (a.parameters w).retyped r.sender.payloadType := by
  have hmedia : (r.sender.parameters r.endpoint).media = (a.parameters w).media := by
    obtain ⟨payloadType, lifecycle, hs⟩ := h.sender_eq
    rw [hs, h.connects.endpoint]
    rfl
  have hcodings : (r.sender.parameters r.endpoint).codings =
      (a.parameters w).codings.map fun c => { c with payloadType := r.sender.payloadType } := by
    rw [parameters, parameters, h.encodings_own, List.map_map]
    rfl
  rw [SendParameters.retyped, ← hmedia, ← hcodings]

end

/-- What becomes of the parameters of a sender that is started with them. -/
structure KeepsIdentifiers (a : Sender) (w : Endpoint) (r : Result) : Prop where
  retyped : ∃ payloadType, r.sender.parameters r.endpoint = (a.parameters w).retyped payloadType
  failed : r.outcome ≠ .ok () → r.sender.parameters r.endpoint = a.parameters w
  tooFew : r.outcome = .error .tooFewEncodings → ∃ t c, some t ∈ a.tracks ∧
    .trackBound t.key c (.error .tooFewEncodings) ∈ eventsSince w r.endpoint

theorem retyped_self (a : Sender) (w : Endpoint) :
    (a.parameters w).retyped a.payloadType = a.parameters w := by
  simp only [SendParameters.retyped, parameters, List.map_map]
  rfl

theorem start_own (h : Envelope a.kind a.tracks) (known : a.Known w) :
    KeepsIdentifiers a w (a.start (a.parameters w) w) := by
  cases check : a.startFailure (a.parameters w) with
  | some f =>
    have hr : a.start (a.parameters w) w = ⟨a, w, .error f⟩ := by rw [start, check]
    rw [hr]
    refine ⟨⟨_, (retyped_self a w).symm⟩, fun _ => rfl, fun hf => ?_⟩
    cases hf
    exact absurd check (startFailure_own a w)
  | none =>
    obtain ⟨idle, based, enough⟩ := of_startFailure check
    obtain ⟨x, hx⟩ := starts (a.parameters w) h known idle based enough
    refine ⟨⟨_, hx.parameters_eq⟩, fun failed => ?_, hx.refused_by_track⟩
    rw [hx.parameters_eq, hx.payloadType_of_error failed, retyped_self]

end Sender

namespace Session

open Sender

variable {σ : Session} {k : SenderKey}

/-- A start with the parameters that the sender reports just before gives the encodings another
payload type, and only if it succeeds; everything else that is reported stays. It finds too few
encodings only if a track of the sender says so itself. -/
theorem own_parameters_keep_identifiers (fresh : σ.Fresh) (ms : List Move) {m : Move}
    (action : (σ.after ms).action? m =
      some (k, .start (((σ.after ms).sender k).parameters (σ.after ms).endpoint))) :
    let τ := σ.after ms
    let τ' := (τ.act m).1
    ∃ r, (τ.act m).2 = .answered (.outcome r) ∧
      KeepsIdentifiers (τ.sender k) τ.endpoint ⟨τ'.sender k, τ'.endpoint, r⟩ := by
  intro τ τ'
  have hs := fresh.sound.after ms
  have henvelope := fresh.enveloped.after fresh.sound ms k (action_lt hs action)
  refine ⟨_, congrArg Prod.snd (act_of_action action), ?_⟩
  rw [show τ'.sender k = _ from sender_act action, show τ'.endpoint = _ from endpoint_act action]
  exact start_own henvelope (hs.senders k)

theorem own_parameters_retyped :
    let τ := typeSession.after (attachMoves 96)
    let τ' := (τ.act launchMove).1
    (τ.act launchMove).2 = .answered (.outcome (.ok ())) ∧
      KeepsIdentifiers (τ.sender 0) τ.endpoint ⟨τ'.sender 0, τ'.endpoint, .ok ()⟩ ∧
      (τ'.sender 0).parameters τ'.endpoint ≠ (τ.sender 0).parameters τ.endpoint := by
  intro τ τ'
  have fresh : typeSession.Fresh := ⟨rfl, rfl, rfl, rfl, rfl, rfl, rfl, rfl⟩
  obtain ⟨r, answered, keeps⟩ :=
    own_parameters_keep_identifiers fresh (attachMoves 96) (m := launchMove) (k := 0) rfl
  cases (show StepResult.answered (.outcome (.ok ())) = _ from answered)
  exact ⟨rfl, keeps, by decide +kernel⟩

def scarceTrack : Track :=
  { key := 0, rid := none, id := "v", streamId := "m"
    source := .custom .video (fun _ _ => .error .tooFewEncodings) fun _ => .ok () }

def scarceSession : Session := { directory := { tracks := [("q", scarceTrack)] } }

/-- The failure of a track is passed on, also where it is one that the parameters are checked for.
-/
theorem own_parameters_too_few :
    let τ := scarceSession.after [.issue (.sender "s" (.create (some "q") true))]
    scarceSession.Fresh ∧
      τ.action? launchMove = some (0, .start ((τ.sender 0).parameters τ.endpoint)) ∧
      (τ.act launchMove).2 = .answered (.outcome (.error .tooFewEncodings)) :=
  ⟨fresh_of_tracks rfl _, rfl, rfl⟩

end Session

end MediaSender

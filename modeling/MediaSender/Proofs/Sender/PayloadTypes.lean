import MediaSender.Proofs.Sender.Feeds
import MediaSender.Proofs.Sender.Tuning
/-!
The payload type that a sender reports. It is the one that the base track was bound with when the
sender started. The tracks of the other encodings, and tracks that come in later, put the payload
types of their own codecs on what they send.
-/

namespace MediaSender

namespace Endpoint

variable {g : GateId} {w w' : Endpoint} {s : StreamId}

structure Astray (g : GateId) (w : Endpoint) : Prop where
  known : g < w.gates.size
  target : ∀ x s, w.gate g = some x → x.target? = some s → ¬ w.Owned s

/-- What is written to the track goes on to the stream with this payload type. -/
def Puts (t : Track) (s : StreamId) (payloadType : PayloadType) (w : Endpoint) : Prop :=
  ∃ b ∈ (w.track t).bindings, b.payloadType = payloadType ∧
    ∃ g x, b.gate = some g ∧ w.gate g = some x ∧ x.target? = some s

theorem Handover.owned_of (h : Handover w w') (known : w.Known s) (hs : w'.Owned s) :
    w.Owned s := by
  cases h with
  | own ssrc deadline =>
    refine hs.of_emit fun same => ?_
    cases same
    exact absurd known (Nat.lt_irrefl _)
  | hand d owned => exact hs.of_emit (by simp)
  | release d => exact hs.of_emit (by simp)

theorem Builds.owned_of {free closes : StreamId → Prop} (h : Builds free closes w w')
    (known : w.Known s) (hs : w'.Owned s) : w.Owned s := by
  induction h with
  | refl => exact hs
  | tail hw h ih =>
    refine ih (h.elim (fun h => h.owned_of hs) fun h => h.owned_of ?_ hs)
    exact (Builds.extends hw).known known

end Endpoint

namespace Session

open Endpoint Sender

variable {σ σ' : Session} {m : Move} {k : SenderKey} {s : StreamId} {g : GateId} {t : Track}

def Given (σ : Session) (t : Track) : Prop := ∃ name, (name, t) ∈ σ.directory.tracks

theorem Course.tracks (h : Course m σ σ') : σ'.directory.tracks = σ.directory.tracks := by
  cases h with
  | errand action endpoint senders size tracks => exact tracks
  | poll action task t p endpoint roster directory => rw [directory]
  | create t creates action given endpoint roster handles => exact congrArg Prod.fst handles
  | act action endpoint roster directory => rw [directory]

theorem given_act (σ : Session) (m : Move) : (σ.act m).1.Given = σ.Given := by
  funext t
  rw [Given, (course m σ).tracks, ← Given]

theorem Course.hasGate (h : Course m σ σ') (hg : σ'.directory.HasGate g) :
    σ.directory.HasGate g ∨ g = σ.endpoint.nextGate ∧ σ'.endpoint = σ.endpoint.addGate := by
  cases h with
  | errand action endpoint senders size tracks gates => exact gates g hg
  | poll action task t p endpoint roster directory => exact .inl (directory ▸ hg)
  | create t creates action given endpoint roster handles =>
    exact .inl (Directory.hasGate_of_handles handles hg)
  | act action endpoint roster directory => exact .inl (directory ▸ hg)

theorem given_of_action {x : Action} (action : σ.action? m = some (k, x)) (ht : x.track? = some t) :
    σ.Given t := by
  have named : ∀ name, σ.trackNamed name = some t → σ.Given t := fun name h => by
    obtain ⟨n, -, hn⟩ := Option.bind_eq_some_iff.mp h
    exact ⟨n, mem_of_lookup hn⟩
  cases m with
  | issue c =>
    cases c with
    | sender name c =>
      obtain ⟨k', -, hx⟩ := Option.bind_eq_some_iff.mp action
      obtain ⟨x', hc, hx⟩ := Option.map_eq_some_iff.mp hx
      cases hx
      cases c with
      | extend track => cases hc; exact named track ht
      | swapTrack track => cases hc; exact named track ht
      | start => cases hc; cases ht
      | stop => cases hc; cases ht
      | _ => cases hc
    | _ => cases action
  | _ => cases action

theorem owned_act (h : σ.Sound) (known : σ.endpoint.Known s) (hs : (σ.act m).1.endpoint.Owned s) :
    σ.endpoint.Owned s := by
  rcases (effect h m).endpoint h with hb | ha | ⟨ssrc, hw⟩
  · exact hb.owned_of known hs
  · rwa [Owned, ha.trace] at hs
  · rw [hw] at hs
    exact hs

structure Retunes (σ : Session) (w : Endpoint) : Prop where
  size : σ.endpoint.gates.size ≤ w.gates.size
  gates : ∀ g, g < σ.endpoint.gates.size → ∀ x, w.gate g = some x →
    σ.endpoint.gate g = some x ∨ ∀ s, x.target? = some s → σ.Free s
  bindings : ∀ t, σ.Given t → ∀ b ∈ w.bindings t.key, b ∈ σ.endpoint.bindings t.key ∨
    σ.endpoint.payloadTypeOf t = some b.payloadType ∨
      ∀ g, b.gate = some g → σ.directory.HasGate g

theorem Retunes.of_tunes {w : Endpoint} (h : Tunes σ.Given σ.endpoint w) : Retunes σ w where
  size := h.size
  gates g hg _ hx := .inl (h.gates g hg ▸ hx)
  bindings t ht b hb := (h.bindings t ht b hb).imp_right .inl

theorem Retunes.of_untied {w : Endpoint} (h : Untied σ.endpoint w)
    (gates : w.gates = σ.endpoint.gates) : Retunes σ w := .of_tunes (h.tunes gates)

theorem Errand.retunes {w : Endpoint} (h : Errand m σ w) : Retunes σ w := by
  cases h with
  | nothing => exact .of_tunes (.refl _)
  | report rs => exact .of_untied (untied_reportAll rs _) rfl
  | deadline s deadline => exact .of_untied (untied_updateStream s _ _) rfl
  | close named => exact .of_untied (untied_closeStream _ _) (sameRest_closeStream _ _).gates
  | addStream ssrc => exact .of_untied (untied_addStream ssrc none _) rfl
  | addGate =>
    refine .of_tunes ((Tunes.refl _).untied (untied_of_trace ⟨rfl, rfl, rfl, rfl⟩ rfl rfl)
      (Nat.le_succ _) ?_)
    exact fun g hg => Table.entry_push_ne _ _ (Nat.ne_of_lt hg)
  | resolve g x free =>
    refine ⟨Nat.le_of_eq (size_gates_resolve g x _).symm, fun g' _ x' hx => ?_, fun t _ b hb => ?_⟩
    · rcases gate_resolve g g' x x' _ hx with rfl | hx
      · exact .inr free
      · exact .inl hx
    · rw [bindings, tracks_resolve, ← bindings] at hb
      exact .inl hb
  | beside rest =>
    exact .of_untied (untied_of_trace rest.toSameSetup rest.tracks rest.trace) rest.gates
  | drop c =>
    simp only [Call.drop]
    split
    · exact .of_untied (untied_updateStream _ _ _) rfl
    · exact .of_tunes (.refl _)
  | bind t c ties named =>
    refine ⟨Nat.le_refl _, fun _ _ _ => .inl, fun t' _ b hb => ?_⟩
    rcases mem_bindings_bindTrack hb with hb | ⟨-, -, codec, -, rfl⟩
    · exact .inl hb
    · obtain ⟨p, hp, rfl⟩ := named
      exact .inr (.inr fun g hg => .inr ⟨p, hp, hg⟩)
  | unbind t c => exact .of_tunes (tunes_unbindTrack t c _)

/-- What is kept by every move. A binding of a track that has not its payload type was made by hand,
and leads to no stream of a sender. -/
structure Tuned (σ : Session) : Prop where
  senders : ∀ k, Sender.Tuned σ.Given σ.endpoint (σ.sender k).encodings
  gates : ∀ g, σ.directory.HasGate g → Astray g σ.endpoint
  bindings : ∀ t, σ.Given t → ∀ b ∈ σ.endpoint.bindings t.key,
    σ.endpoint.payloadTypeOf t = some b.payloadType ∨ ∀ g, b.gate = some g → Astray g σ.endpoint

theorem Fresh.tuned (h : σ.Fresh) : σ.Tuned where
  senders k := by
    rw [sender, Roster.sender, h.senders]
    exact List.forall_mem_nil _
  gates g hg := by
    rw [h.names] at hg
    rcases hg with ⟨p, hp, -⟩ | ⟨p, hp, -⟩ <;> cases hp
  bindings t _ b hb := by
    rw [Endpoint.bindings, h.tracks] at hb
    cases hb

section

variable (formats : Formats σ.Given)

include formats

theorem Tuned.retunes (h : σ.Tuned) (m : Move) : Retunes σ (σ.act m).1.endpoint := by
  have hc := course m σ
  generalize (σ.act m).1 = σ' at hc
  cases hc with
  | errand action endpoint => exact endpoint.retunes
  | poll action task t p endpoint =>
    rw [endpoint]
    exact .of_untied (Task.untied_poll _ _ _ _ _ _) (Task.gates_poll _ _ _ _ _ _)
  | create t creates action given endpoint =>
    have hdraw : Untied σ.endpoint σ.endpoint.drawId := untied_of_trace ⟨rfl, rfl, rfl, rfl⟩ rfl rfl
    rw [endpoint]
    exact .of_tunes ((hdraw.tunes rfl).trans (tunes_append _ t _))
  | act action endpoint =>
    rw [endpoint]
    exact .of_tunes (tunes_act formats _ (h.senders _) fun t => given_of_action action).1

theorem Tuned.senders_act (h : σ.Tuned) (m : Move) (k : SenderKey) :
    Sender.Tuned σ.Given σ.endpoint ((σ.act m).1.sender k).encodings := by
  cases (course m σ).becomes k with
  | acted x action sender =>
    rw [sender]
    have htunes := tunes_act formats x (h.senders k) fun t => given_of_action action
    exact htunes.2
  | stayed action sender =>
    obtain ⟨n, t, hs⟩ := sender
    rw [hs]
    exact h.senders k
  | made t action number sender given =>
    rw [sender]
    refine List.forall_mem_singleton.mpr (tuned_newEncoding ?_ _)
    exact given.imp fun name => mem_of_lookup

theorem Tuned.act (h : σ.Tuned) (hσ : σ.Sound) (m : Move) : (σ.act m).1.Tuned := by
  have hr := h.retunes formats m
  have hcapabilities := (setup_act σ m).capabilities
  have hgiven := given_act σ m
  have stays : ∀ g, Astray g σ.endpoint → Astray g (σ.act m).1.endpoint := by
    intro g hg
    refine ⟨Nat.lt_of_lt_of_le hg.known hr.size, fun x s hx hs owned => ?_⟩
    rcases hr.gates g hg.known x hx with hbefore | hfree
    · have hknown := hσ.endpoint.known (hσ.endpoint.gates g x s hbefore hs)
      exact hg.target x s hbefore hs (owned_act hσ hknown owned)
    · obtain ⟨hknown, hnot⟩ := hσ.endpoint.free s (hfree s hs)
      exact hnot (owned_act hσ hknown owned)
  refine ⟨fun k => ?_, fun g hg => ?_, fun t ht b hb => ?_⟩
  · rw [Sender.Tuned, hgiven, hcapabilities]
    exact h.senders_act formats m k
  · rcases (course m σ).hasGate hg with hg | ⟨rfl, hw⟩
    · exact stays g (h.gates g hg)
    · -- The gate is new, and leads nowhere yet.
      rw [hw]
      refine ⟨Nat.lt_succ_self _, fun x s hx => ?_⟩
      rw [gate, addGate, nextGate, Table.entry_push_size] at hx
      cases hx
  · rw [payloadTypeOf_of_capabilities hcapabilities]
    rcases hr.bindings t (hgiven ▸ ht) b hb with hb | hb | hb
    · exact (h.bindings t (hgiven ▸ ht) b hb).imp_right fun h g hg => stays g (h g hg)
    · exact .inl hb
    · exact .inr fun g hg => stays g (h.gates g (hb g hg))

end

theorem given_after (σ : Session) (ms : List Move) : (σ.after ms).Given = σ.Given := by
  induction ms generalizing σ with
  | nil => rfl
  | cons m ms ih => exact (ih _).trans (given_act σ m)

theorem Tuned.after (h : σ.Tuned) (hσ : σ.Sound) (formats : Formats σ.Given) (ms : List Move) :
    (σ.after ms).Tuned := by
  induction ms generalizing σ with
  | nil => exact h
  | cons m ms ih => exact ih (h.act formats hσ m) (hσ.act m) (given_act σ m ▸ formats)

theorem typed_turn (h : σ.Tuned) (formats : Formats σ.Given) (starts : Turn.starts k ⟨σ, m⟩) :
    ∃ p t, Turn.Sends k p ⟨σ, m⟩ ∧ (σ.sender k).baseTrack = some t ∧
      (σ.act m).1.endpoint.payloadTypeOf t = some ((σ.act m).1.sender k).payloadType := by
  obtain ⟨hasks, hsucceeds⟩ := Bool.and_eq_true_iff.mp starts
  obtain ⟨y, hy, hstart⟩ := Turn.action_of_asks hasks
  cases y with
  | start p =>
    have hok : ((σ.sender k).start p σ.endpoint).outcome = .ok () := ok_of_succeeds hy hsucceeds
    obtain ⟨t, base⟩ : ∃ t, (σ.sender k).baseTrack = some t := by
      cases hcheck : (σ.sender k).startFailure p with
      | none => exact Option.isSome_iff_exists.mp (of_startFailure hcheck).2.1
      | some f =>
        rw [Sender.start, hcheck] at hok
        cases hok
    obtain ⟨e, he, track⟩ := Option.bind_eq_some_iff.mp base
    have hgiven := (h.senders k e (List.mem_of_mem_head? he)).given t track
    refine ⟨p, t, ⟨hy, hsucceeds⟩, base, ?_⟩
    rw [payloadTypeOf_of_capabilities (setup_act σ m).capabilities, sender_act hy]
    exact payloadType_start base (formats.fixed t hgiven) hok
  | _ => cases hstart

theorem WellNumbered.payloadType_act (h : σ.WellNumbered) (sent : (σ.sender k).lifecycle.hasSent)
    (m : Move) :
    ((σ.act m).1.sender k).payloadType = (σ.sender k).payloadType := by
  cases (course m σ).becomes k with
  | acted x action sender =>
    rw [sender]
    exact Sender.payloadType_act sent x σ.endpoint
  | stayed action sender =>
    obtain ⟨n, t, hs⟩ := sender
    rw [hs]
  | made t action number =>
    exact absurd (h.unborn k (Nat.le_of_eq number.symm)) (not_idle_of_hasSent sent)

theorem typed_after (h : σ.WellNumbered) (idle : (σ.sender k).lifecycle = .idle) (tuned : σ.Tuned)
    (formats : Formats σ.Given) (ms : List Move)
    (sent : ((σ.after ms).sender k).lifecycle.hasSent) :
    ∃ x ∈ turns ms σ, ∃ p t, x.Sends k p ∧ (x.before.sender k).baseTrack = some t ∧
      (σ.after ms).endpoint.payloadTypeOf t = some ((σ.after ms).sender k).payloadType := by
  refine sent_after (P := fun x τ => ∃ p t, x.Sends k p ∧ (x.before.sender k).baseTrack = some t ∧
    τ.endpoint.payloadTypeOf t = some (τ.sender k).payloadType) h idle ms sent ?_ ?_
  · exact fun before m =>
      typed_turn (tuned.after h.sound formats before) (given_after σ before ▸ formats)
  · rintro x before m hbefore ⟨p, t, hsends, base, htype⟩
    refine ⟨p, t, hsends, base, ?_⟩
    rw [payloadTypeOf_of_capabilities (setup_act (σ.after before) m).capabilities, htype,
      (h.after before).payloadType_act hbefore]

theorem Tuned.puts (h : σ.Tuned) (ht : σ.Given t) (owned : σ.endpoint.Owned s)
    {payloadType : PayloadType} (puts : σ.endpoint.Puts t s payloadType) :
    σ.endpoint.payloadTypeOf t = some payloadType := by
  obtain ⟨b, hb, rfl, g, x, hg, hx, hs⟩ := puts
  refine (h.bindings t ht b hb).resolve_right fun hastray => ?_
  exact (hastray g hg).target x s hx hs owned

/-- The payload type that a sending sender reports for an encoding is the one its track puts on what
it writes to the stream of this encoding exactly if the track has the payload type that the base
track had when the sender started. -/
theorem reported_type_is_sent_iff (fresh : σ.Fresh) (formats : Formats σ.Given) (k : SenderKey)
    (ms : List Move) (sending : ((σ.after ms).sender k).lifecycle = .sending) :
    let τ := σ.after ms
    ∃ x ∈ turns ms σ, ∃ p t₀, x.Sends k p ∧ (x.before.sender k).baseTrack = some t₀ ∧
      ∀ (i : Nat) e t, (τ.sender k).encodings[i]? = some e → e.track = some t →
        ∃ c, ((τ.sender k).parameters τ.endpoint).codings[i]? = some c ∧
          ∀ payloadType, τ.endpoint.Puts t e.primary.stream payloadType →
            (c.payloadType = payloadType ↔
              τ.endpoint.payloadTypeOf t = τ.endpoint.payloadTypeOf t₀) := by
  intro τ
  have h := fresh.numbered
  have idle : (σ.sender k).lifecycle = .idle := by
    rw [sender, Roster.sender, fresh.senders]
    rfl
  have sent : (τ.sender k).lifecycle.hasSent := by
    rw [sending]
    rfl
  have tuned : τ.Tuned := fresh.tuned.after h.sound formats ms
  obtain ⟨x, hx, p, t₀, hsends, base, htype⟩ := typed_after h idle fresh.tuned formats ms sent
  obtain ⟨_, _, _, _, hfed⟩ := fed_after h idle ms sent
  refine ⟨x, hx, p, t₀, hsends, base, fun i e t he track => ?_⟩
  refine ⟨(τ.sender k).coding e, getElem?_codings _ _ he, fun payloadType puts => ?_⟩
  obtain ⟨c, -, fed⟩ := hfed i e he
  have hgiven := (tuned.senders k e (List.mem_of_getElem? he)).given t track
  rw [tuned.puts hgiven fed.owned puts, htype, Option.some.injEq]
  exact eq_comm

def typeTrack (key : TrackKey) (mimeType : String) : Track :=
  { key, rid := none, id := "v", streamId := "m", source := .fixed { mimeType } }

def typeSession : Session :=
  { endpoint :=
      { capabilities :=
        { video := [⟨{ mimeType := Mime.vp8 }, 96⟩, ⟨{ mimeType := Mime.vp9 }, 98⟩] } }
    directory :=
      { tracks := [("a", typeTrack 0 Mime.vp8), ("b", typeTrack 1 Mime.vp9),
          ("c", typeTrack 2 Mime.vp8)] } }

def swapRun (name : String) : List Move :=
  [.issue (.sender "s" (.create (some "a") true)), launchMove, swapMove (some name)]

theorem formats_typeSession : Formats typeSession.Given := by
  have hgiven : ∀ t, typeSession.Given t →
      t = typeTrack 0 Mime.vp8 ∨ t = typeTrack 1 Mime.vp9 ∨ t = typeTrack 2 Mime.vp8 := by
    rintro t ⟨name, ht⟩
    simp only [typeSession, List.mem_cons, Prod.mk.injEq, List.not_mem_nil, or_false] at ht
    exact ht.imp And.right (Or.imp And.right And.right)
  constructor
  · intro t ht
    rcases hgiven t ht with rfl | rfl | rfl <;> rfl
  · intro t t' ht ht' hk
    rcases hgiven t ht with rfl | rfl | rfl <;> rcases hgiven t' ht' with rfl | rfl | rfl <;>
      first | rfl | cases hk

theorem kept_type_is_reported :
    let τ := typeSession.after (swapRun "c")
    (τ.sender 0).lifecycle = .sending ∧
      ∃ e c, (τ.sender 0).encodings[0]? = some e ∧ e.track = some (typeTrack 2 Mime.vp8) ∧
        ((τ.sender 0).parameters τ.endpoint).codings[0]? = some c ∧
        τ.endpoint.Puts (typeTrack 2 Mime.vp8) e.primary.stream 96 ∧ c.payloadType = 96 := by
  intro τ
  have fresh : typeSession.Fresh := ⟨rfl, rfl, rfl, rfl, rfl, rfl, rfl, rfl⟩
  have sending : (τ.sender 0).lifecycle = .sending := rfl
  have he : (τ.sender 0).encodings[0]? = some _ := rfl
  obtain ⟨x, hx, p, t₀, hsends, base, h⟩ :=
    reported_type_is_sent_iff fresh formats_typeSession 0 (swapRun "c") sending
  obtain ⟨c, hc, hiff⟩ := h 0 _ _ he rfl
  have puts : τ.endpoint.Puts (typeTrack 2 Mime.vp8) 1 96 :=
    ⟨_, List.mem_singleton_self _, rfl, _, _, rfl, rfl, rfl⟩
  refine ⟨sending, _, c, he, rfl, hc, puts, (hiff 96 puts).mpr ?_⟩
  -- Of the three turns, only the second one starts the sender.
  rcases List.mem_cons.mp hx with rfl | hx
  · cases (show none = _ from hsends.1)
  rcases List.mem_cons.mp hx with rfl | hx
  · cases (show some (typeTrack 0 Mime.vp8) = _ from base)
    rfl
  · cases List.mem_singleton.mp hx
    cases (show some (0, Action.swapTrack (some (typeTrack 2 Mime.vp8))) = _ from hsends.1)

/-- A track of another codec takes over, and the payload type that is reported stays as it was. -/
theorem new_type_is_not_reported :
    let τ := typeSession.after (swapRun "b")
    let written : Turn := ⟨τ, writeMove "b" {} [] 0⟩
    typeSession.Fresh ∧ Formats typeSession.Given ∧ (τ.sender 0).lifecycle = .sending ∧
      (∀ x ∈ turns (swapRun "b") typeSession, x.asks 0 (· matches .swapTrack _) → x.succeeds) ∧
      ∃ e c, (τ.sender 0).encodings[0]? = some e ∧ e.track = some (typeTrack 1 Mime.vp9) ∧
        ((τ.sender 0).parameters τ.endpoint).codings[0]? = some c ∧
        τ.endpoint.Puts (typeTrack 1 Mime.vp9) e.primary.stream 98 ∧
        written.after.endpoint.sends = [(e.primary.stream, e.ssrc, Packet.readdress e.ssrc 98 {})] ∧
        c.payloadType = 96 := by
  refine ⟨⟨rfl, rfl, rfl, rfl, rfl, rfl, rfl, rfl⟩, formats_typeSession, rfl, ?_, ?_⟩
  · exact List.forall_mem_cons.mpr ⟨nofun, List.forall_mem_cons.mpr
      ⟨nofun, List.forall_mem_singleton.mpr fun _ => rfl⟩⟩
  · refine ⟨_, _, rfl, rfl, rfl, ⟨_, List.mem_singleton_self _, rfl, _, _, rfl, rfl, rfl⟩, ?_, rfl⟩
    decide +kernel

end Session

end MediaSender

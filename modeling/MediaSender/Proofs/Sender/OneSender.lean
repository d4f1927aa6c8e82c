import MediaSender.Proofs.Run.Effects
import MediaSender.Proofs.Sender.Ledger
/-!
Sessions with one sender. The ledger of the sender is kept along a run up to the first stop: each
move that hands something to the layers adds one to the number of starts that have bound something.
-/

namespace MediaSender.Session

open Endpoint Sender

structure OneSender (name : String) (σ : Session) : Prop where
  sound : σ.Sound
  size : σ.roster.senders.size = 1
  names : σ.directory.senders = [(name, 0)]

def only (σ : Session) : Sender := σ.sender 0

def rounds : List Move → Session → Nat
  | [], _ => 0
  | m :: ms, σ => grew σ.endpoint (σ.act m).1.endpoint + rounds ms (σ.act m).1

def launchesNow (σ : Session) (m : Move) : Bool :=
  match σ.action? m with
  | some (k, x) => x.launches (σ.sender k)
  | none => false

/-- How many of the moves are starts that get past their checks. -/
def launches : List Move → Session → Nat
  | [], _ => 0
  | m :: ms, σ => (if σ.launchesNow m then 1 else 0) + launches ms (σ.act m).1

variable {name : String} {σ σ' : Session} {m : Move} {n : Nat} {w : Endpoint}

theorem OneSender.key (h : OneSender name σ) {k : SenderKey} {x : Action}
    (hx : σ.action? m = some (k, x)) : k = 0 := by
  cases m with
  | issue c =>
    cases c with
    | sender name' c =>
      obtain ⟨k', hk', hx⟩ := Option.bind_eq_some_iff.mp hx
      obtain ⟨x', -, hx⟩ := Option.map_eq_some_iff.mp hx
      cases hx
      rw [h.names] at hk'
      cases List.mem_singleton.mp (mem_of_lookup hk')
      rfl
    | _ => cases hx
  | _ => cases hx

theorem Effect.oneSender (h : OneSender name σ) (hm : m.creates = false)
    (he : Effect m σ σ') : OneSender name σ' := by
  refine ⟨he.sound h.sound, ?_, ?_⟩
  · cases he with
    | quiet action endpoint calls plain same => exact same.size.trans h.size
    | world action endpoint calls directory roster => rw [roster, h.size]
    | addStream _ _ action endpoint calls directory roster => rw [roster, h.size]
    | create _ a t creates => exact absurd (hm.symm.trans creates) Bool.false_ne_true
    | act action endpoint calls directory roster => rw [roster]; exact h.size
  · cases he with
    | quiet action endpoint calls plain same => exact same.keys.trans h.names
    | world action endpoint calls directory roster => rw [directory, h.names]
    | addStream _ _ action endpoint calls directory roster => rw [directory]; exact h.names
    | create _ a t creates => exact absurd (hm.symm.trans creates) Bool.false_ne_true
    | act action endpoint calls directory roster => rw [directory, h.names]

theorem Effect.only_cases (h : OneSender name σ) (hm : m.creates = false)
    (he : Effect m σ σ') :
    (∃ x, σ.action? m = some (0, x) ∧ σ'.only = (σ.only.act x σ.endpoint).sender ∧
        σ'.endpoint = (σ.only.act x σ.endpoint).endpoint) ∨
      (σ.action? m = none ∧ σ'.only.encodings = σ.only.encodings ∧
        σ'.only.lifecycle = σ.only.lifecycle ∧ Hands [] σ.endpoint σ'.endpoint) := by
  cases he with
  | quiet action endpoint calls plain same =>
    exact .inr ⟨action, same.encodings 0, same.lifecycle 0, endpoint.hands⟩
  | world action endpoint calls directory roster =>
    refine .inr ⟨action, ?_, ?_, hands_of_trace_eq endpoint.trace⟩
    · rw [only, sender, roster]
      rfl
    · rw [only, sender, roster]
      rfl
  | addStream _ ssrc action endpoint calls directory roster =>
    refine .inr ⟨action, ?_, ?_, ?_⟩
    · rw [only, sender, roster]
      rfl
    · rw [only, sender, roster]
      rfl
    · rw [endpoint]
      exact hands_of_trace_eq rfl
  | create _ a t creates => exact absurd (hm.symm.trans creates) Bool.false_ne_true
  | @act k x action endpoint calls directory roster =>
    cases h.key action
    refine .inl ⟨x, action, ?_, endpoint⟩
    rw [only, sender, roster, sender_setSender, if_pos rfl]
    rfl

def Kept (n : Nat) (σ : Session) : Prop :=
  σ.only.lifecycle.hasStopped ∨ ∃ lost, Ledger n lost σ.only.encodings σ.endpoint

theorem Effect.kept (h : OneSender name σ) (hm : m.creates = false) (he : Effect m σ σ')
    (hk : Kept n σ) : Kept (n + grew σ.endpoint σ'.endpoint) σ' := by
  rcases he.only_cases h hm with ⟨x, action, ho, hw⟩ | ⟨action, hes, hl, hands⟩
  · rcases hk with hs | ⟨lost, hl⟩
    · refine .inl ?_
      rw [ho, (act_of_hasStopped hs x).2]
      exact hs
    · by_cases hx : x = .stop
      · subst hx
        exact .inl (ho ▸ stop_hasStopped _ _)
      · rw [Kept, ho, hw]
        exact .inr (hl.act (h.sound.senders 0) hx)
  · rw [Kept, hl, hes, grew_of_hands hands]
    exact hk.imp_right fun ⟨lost, hk⟩ => ⟨lost, hk.same hands rfl⟩

theorem Effect.grew_le (h : OneSender name σ) (hm : m.creates = false) (he : Effect m σ σ') :
    grew σ.endpoint σ'.endpoint ≤ if σ.launchesNow m then 1 else 0 := by
  rcases he.only_cases h hm with ⟨x, action, -, hw⟩ | ⟨-, -, -, hands⟩
  · rw [hw, launchesNow, action]
    exact grew_act_le (h.sound.senders 0) x
  · rw [grew_of_hands hands]
    exact Nat.zero_le _

theorem OneSender.act (h : OneSender name σ) (hm : m.creates = false) :
    OneSender name (σ.act m).1 := (effect h.sound m).oneSender h hm

theorem OneSender.after (h : OneSender name σ) {ms : List Move}
    (hms : ∀ m ∈ ms, m.creates = false) : OneSender name (σ.after ms) := by
  induction ms generalizing σ with
  | nil => exact h
  | cons m ms ih =>
    obtain ⟨hm, hms⟩ := List.forall_mem_cons.mp hms
    exact ih (h.act hm) hms

theorem Kept.after (hk : Kept n σ) (h : OneSender name σ) {ms : List Move}
    (hms : ∀ m ∈ ms, m.creates = false) : Kept (n + rounds ms σ) (σ.after ms) := by
  induction ms generalizing σ n with
  | nil => exact hk
  | cons m ms ih =>
    obtain ⟨hm, hms⟩ := List.forall_mem_cons.mp hms
    rw [rounds, ← Nat.add_assoc]
    exact ih ((effect h.sound m).kept h hm hk) (h.act hm) hms

theorem rounds_le_launches (h : OneSender name σ) {ms : List Move}
    (hms : ∀ m ∈ ms, m.creates = false) : rounds ms σ ≤ launches ms σ := by
  induction ms generalizing σ with
  | nil => exact Nat.le_refl 0
  | cons m ms ih =>
    obtain ⟨hm, hms⟩ := List.forall_mem_cons.mp hms
    exact Nat.add_le_add ((effect h.sound m).grew_le h hm) (ih (h.act hm) hms)

def withSender (name track : String) (σ : Session) : Session :=
  (σ.act (.issue (.sender name (.create (some track) true)))).1

theorem ledger_nil (hh : w.handed = []) (hr : w.released = []) : Ledger 0 [] [] w where
  handed := by
    rw [hh]
    exact .refl []
  released := hr
  tidy := List.forall_mem_nil _
  base _ := List.forall_mem_nil _
  sent := by decide
  lost := by decide

section

variable (name) {track : String} {t : Track}

theorem withSender_eq (known : σ.directory.tracks.lookup track = some t) :
    let r := append t { id := σ.endpoint.nextId, kind := t.kind } σ.endpoint.drawId
    (σ.withSender name track).endpoint = r.2 ∧
      (σ.withSender name track).roster = σ.roster.addSender r.1 ∧
      (σ.withSender name track).directory.senders =
        (name, σ.roster.senders.size) :: σ.directory.senders := by
  have hn : σ.trackNamed (some track) = some t := known
  simp only [withSender, Session.act, issue, start, senderCommand, createSender, hn, create, turn]
  exact ⟨trivial, trivial, trivial⟩

variable (fresh : σ.Fresh) (known : σ.directory.tracks.lookup track = some t)

include fresh known

theorem Fresh.oneSender : OneSender name (σ.withSender name track) := by
  obtain ⟨-, hr, hd⟩ := withSender_eq name known
  refine ⟨fresh.sound.act _, ?_, ?_⟩
  · rw [hr, Roster.addSender, fresh.senders]
    rfl
  · rw [hd, fresh.names, fresh.senders]
    rfl

theorem Fresh.kept : Kept 0 (σ.withSender name track) := by
  obtain ⟨he, hr, -⟩ := withSender_eq name known
  have hh : σ.endpoint.drawId.handed = [] := congrArg (List.filterMap Event.handed?) fresh.trace
  have hl : σ.endpoint.drawId.released = [] := congrArg (List.filterMap Event.released?) fresh.trace
  have hk : 0 = σ.roster.senders.size := by
    rw [fresh.senders]
    rfl
  refine .inr ⟨[], ?_⟩
  rw [only, sender, hr, sender_addSender, if_pos hk, he]
  exact (ledger_nil hh hl).append t

theorem Fresh.ledger {ms : List Move} (moves : ∀ m ∈ ms, m.creates = false) {τ : Session}
    (run : (σ.withSender name track).after ms = τ) (first : τ.only.lifecycle.canStop) :
    OneSender name τ ∧
      ∃ lost, Ledger (rounds ms (σ.withSender name track)) lost τ.only.encodings τ.endpoint := by
  have h := fresh.oneSender name known
  have hk := (fresh.kept name known).after h moves
  have ho := h.after moves
  rw [run, Nat.zero_add] at hk
  rw [run] at ho
  refine ⟨ho, hk.resolve_left fun hs => ?_⟩
  rw [Lifecycle.canStop, hs] at first
  cases first

end

def stopped (name : String) (σ : Session) : Session :=
  (σ.act (.issue (.sender name .stop))).1

theorem act_stop (h : OneSender name σ) :
    σ.act (.issue (.sender name .stop)) =
      ({ σ.setSender 0 (σ.only.stop σ.endpoint).sender with
          endpoint := (σ.only.stop σ.endpoint).endpoint, steps := σ.steps + 1 },
        .answered (.outcome (σ.only.stop σ.endpoint).outcome)) := by
  have hk : σ.directory.senders.lookup name = some 0 := by
    rw [h.names]
    simp
  simp only [Session.act, issue, start, senderCommand, withNamed, hk, toSender, apply, turn]
  rfl

end MediaSender.Session

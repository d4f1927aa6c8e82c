import MediaSender.Proofs.Codec.Matching
import MediaSender.Proofs.Sender.Labels
import MediaSender.Proofs.Sender.Negotiation
/-!
The calls that a track of a fixed format has seen. What it keeps are the bindings of the binds that
have succeeded, in their order, less one for each unbind that has succeeded: the oldest that is left
of those with its label. Which calls fail is seen from the codecs that they offer, and from the
bindings that are left.
-/

namespace MediaSender

inductive TrackCall
  | bind (c : Context)
  | unbind (c : Context)

def withdraw (bs : List Binding) (x : Label) : List Binding := bs.eraseP (·.label == x)

def withdrawAll (labels : List Label) (bs : List Binding) : List Binding := labels.foldl withdraw bs

/-- For each label in turn, there is a binding left to withdraw. -/
def Covers (bs : List Binding) : List Label → Prop
  | [] => True
  | x :: labels => (∃ b ∈ bs, b.label = x) ∧ Covers (withdraw bs x) labels

section

variable {bs : List Binding} {labels : List Label} {x : Label} {b : Binding}

theorem withdraw_append (h : ∃ b ∈ bs, b.label = x) (bs' : List Binding) :
    withdraw (bs ++ bs') x = withdraw bs x ++ bs' := by
  obtain ⟨b, hb, hx⟩ := h
  exact List.eraseP_append_left (p := (·.label == x)) (beq_iff_eq.mpr hx) bs' hb

theorem withdrawAll_append (h : Covers bs labels) (bs' : List Binding) :
    withdrawAll labels (bs ++ bs') = withdrawAll labels bs ++ bs' := by
  induction labels generalizing bs with
  | nil => rfl
  | cons x labels ih =>
    change withdrawAll labels (withdraw (bs ++ bs') x) = _
    rw [withdraw_append h.1, ih h.2]
    rfl

theorem Covers.append (h : Covers bs labels) (bs' : List Binding) : Covers (bs ++ bs') labels := by
  induction labels generalizing bs with
  | nil => trivial
  | cons x labels ih =>
    obtain ⟨b, hb, hx⟩ := h.1
    refine ⟨⟨b, List.mem_append_left _ hb, hx⟩, ?_⟩
    rw [withdraw_append h.1]
    exact ih h.2

theorem Covers.snoc (h : Covers bs labels) (hx : ∃ b ∈ withdrawAll labels bs, b.label = x) :
    Covers bs (labels ++ [x]) := by
  induction labels generalizing bs with
  | nil => exact ⟨hx, trivial⟩
  | cons y labels ih => exact ⟨h.1, ih h.2 hx⟩

theorem withdrawAll_snoc (labels : List Label) (x : Label) (bs : List Binding) :
    withdrawAll (labels ++ [x]) bs = withdraw (withdrawAll labels bs) x := by
  rw [withdrawAll, List.foldl_append]
  rfl

end

namespace Track

variable {t : Track} {format : CodecFormat} {c : Context} {s : TrackState} {f : Failure}
  {codec : Codec}

def call (t : Track) (s : TrackState) : TrackCall → TrackState
  | .bind c => t.afterBind c s
  | .unbind c => t.afterUnbind c s

def after (t : Track) (calls : List TrackCall) : TrackState := calls.foldl t.call {}

def historyFrom (t : Track) : TrackState → List TrackCall → List (TrackState × TrackCall)
  | _, [] => []
  | s, x :: calls => (s, x) :: t.historyFrom (t.call s x) calls

def bound? (t : Track) : TrackState × TrackCall → Option Binding
  | (s, .bind c) => (t.bindResult c s).toOption.map fun codec => c.binding codec.payloadType
  | (_, .unbind _) => none

def unbound? (t : Track) : TrackState × TrackCall → Option Label
  | (_, .bind _) => none
  | (s, .unbind c) => (t.unbindResult c s).toOption.map fun _ => c.label

def binds (t : Track) (calls : List TrackCall) : List Binding :=
  (t.historyFrom {} calls).filterMap t.bound?

def unbinds (t : Track) (calls : List TrackCall) : List Label :=
  (t.historyFrom {} calls).filterMap t.unbound?

theorem after_snoc (t : Track) (calls : List TrackCall) (x : TrackCall) :
    t.after (calls ++ [x]) = t.call (t.after calls) x := by
  rw [after, List.foldl_append]
  rfl

theorem historyFrom_snoc (t : Track) (s : TrackState) (calls : List TrackCall) (x : TrackCall) :
    t.historyFrom s (calls ++ [x]) = t.historyFrom s calls ++ [(calls.foldl t.call s, x)] := by
  induction calls generalizing s with
  | nil => rfl
  | cons y calls ih => exact congrArg ((s, y) :: ·) (ih _)

theorem filterMap_history_snoc {α : Type} (f : TrackState × TrackCall → Option α) (t : Track)
    (calls : List TrackCall) (x : TrackCall) :
    (t.historyFrom {} (calls ++ [x])).filterMap f =
      (t.historyFrom {} calls).filterMap f ++ (f (t.after calls, x)).toList := by
  rw [historyFrom_snoc, List.filterMap_append]
  refine congrArg _ ?_
  change [(t.after calls, x)].filterMap f = _
  cases h : f (t.after calls, x) <;> simp [h]

section

variable (fixed : t.source = .fixed format)

include fixed

theorem bindResult_eq_error_iff :
    t.bindResult c s = .error f ↔
      f = .unsupportedCodec ∧ ∀ codec ∈ c.parameters.codecs, ¬ codec.hasType format.mimeType := by
  rw [← Codec.matching_eq_none_iff, ← CodecMatch.codec?_eq_none_iff]
  simp only [bindResult, fixed]
  cases (Codec.matching format c.parameters.codecs).codec? with
  | none => simp [eq_comm]
  | some codec => simp

theorem unbindResult_eq_error_iff :
    t.unbindResult c s = .error f ↔
      f = .unbindFailed ∧ ∀ b ∈ s.bindings, b.label ≠ c.label := by
  simp only [unbindResult, fixed]
  by_cases h : s.bindings.any (Binding.isFor c)
  · rw [if_pos h]
    obtain ⟨b, hb, hl⟩ := List.any_eq_true.mp h
    exact iff_of_false (by simp) fun none => none.2 b hb (beq_iff_eq.mp hl)
  · rw [if_neg h]
    have none : ∀ b ∈ s.bindings, b.label ≠ c.label := by simpa [Binding.isFor_eq] using h
    rw [Except.error.injEq, eq_comm]
    exact (and_iff_left none).symm

theorem bindings_call_bind (c : Context) (s : TrackState) :
    (t.call s (.bind c)).bindings = s.bindings ++ (t.bound? (s, .bind c)).toList := by
  simp only [call, afterBind, bound?, fixed]
  cases t.bindResult c s with
  | ok codec => rfl
  | error f => exact (List.append_nil _).symm

theorem bindings_call_unbind (c : Context) (s : TrackState) :
    (t.call s (.unbind c)).bindings = withdraw s.bindings c.label := by
  simp only [call, afterUnbind, fixed]
  rfl

theorem call_of_failed_bind (h : t.bindResult c s = .error f) : t.call s (.bind c) = s := by
  simp only [call, afterBind, h, fixed]

theorem call_of_failed_unbind (h : t.unbindResult c s = .error f) :
    t.call s (.unbind c) = s := by
  have none := ((unbindResult_eq_error_iff fixed).mp h).2
  have same : s.bindings.eraseP (Binding.isFor c) = s.bindings :=
    List.eraseP_of_forall_not fun b hb => by simpa [Binding.isFor_eq] using none b hb
  simp only [call, afterUnbind, fixed, same]

/-- The bindings are those of the binds without those that were unbound, and each unbind that has
succeeded had one to take. -/
theorem covered_after (calls : List TrackCall) :
    Covers (t.binds calls) (t.unbinds calls) ∧
      (t.after calls).bindings = withdrawAll (t.unbinds calls) (t.binds calls) := by
  induction calls using List.reverseRecOn with
  | nil => exact ⟨trivial, rfl⟩
  | append_singleton calls x ih =>
    obtain ⟨covers, bindings⟩ := ih
    have hbinds := filterMap_history_snoc t.bound? t calls x
    have hunbinds := filterMap_history_snoc t.unbound? t calls x
    rw [← binds, ← binds] at hbinds
    rw [← unbinds, ← unbinds] at hunbinds
    rw [hbinds, hunbinds, after_snoc]
    cases x with
    | bind c =>
      have none : t.unbound? (t.after calls, .bind c) = none := rfl
      rw [none, bindings_call_bind fixed, bindings, Option.toList_none, List.append_nil,
        withdrawAll_append covers]
      exact ⟨covers.append _, rfl⟩
    | unbind c =>
      have none : t.bound? (t.after calls, .unbind c) = none := rfl
      rw [none, Option.toList_none, List.append_nil]
      cases hr : t.unbindResult c (t.after calls) with
      | error f =>
        have failed : t.unbound? (t.after calls, .unbind c) = Option.none := by
          simp only [unbound?, hr]
          rfl
        rw [failed, call_of_failed_unbind fixed hr, Option.toList_none, List.append_nil]
        exact ⟨covers, bindings⟩
      | ok r =>
        have label : t.unbound? (t.after calls, .unbind c) = some c.label := by
          simp only [unbound?, hr]
          rfl
        -- It has succeeded, so some binding had the label.
        have held : ∃ b ∈ withdrawAll (t.unbinds calls) (t.binds calls), b.label = c.label := by
          rw [← bindings]
          by_contra absent
          have error : t.unbindResult c (t.after calls) = .error .unbindFailed :=
            (unbindResult_eq_error_iff fixed).mpr ⟨rfl, fun b hb hl => absent ⟨b, hb, hl⟩⟩
          rw [hr] at error
          cases error
        rw [label, bindings_call_unbind fixed, bindings, Option.toList_some, withdrawAll_snoc]
        exact ⟨covers.snoc held, rfl⟩

end

end Track

end MediaSender

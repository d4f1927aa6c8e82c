import MediaSender.Proofs.Run.Poll
/-!
What an open is made of. A relation that holds along each step of an open, and can be followed up,
holds along every attempt to obtain a stream, whatever the attempt comes to.
-/

namespace MediaSender

def Event.isUpkeep : Event → Bool
  | opening .. | opened .. | closed .. | log .. => true
  | _ => false

namespace Endpoint

theorem grows_claim (t : Ticket) (st : LazyStream) : Grows st (st.claim t) := by
  simp only [LazyStream.claim]
  split <;> exact ⟨rfl, id, id, id⟩

theorem grows_release (t : Ticket) (st : LazyStream) : Grows st (st.release t) :=
  ⟨rfl, id, id, id⟩

theorem deadline_claim (t : Ticket) (st : LazyStream) : (st.claim t).deadline = st.deadline := by
  simp only [LazyStream.claim]
  split <;> rfl

/-- A relation between an endpoint before and after that holds along whatever tends one stream. -/
structure Tends (s : StreamId) (R : Endpoint → Endpoint → Prop) : Prop where
  refl : ∀ w, R w w
  trans : ∀ {w₁ w₂ w₃}, R w₁ w₂ → R w₂ w₃ → R w₁ w₃
  emit : ∀ {e : Event}, e.isUpkeep → ∀ w, R w (w.emit e)
  updateStream : ∀ {f : LazyStream → LazyStream}, (∀ st, Grows st (f st)) →
    (∀ st, (f st).deadline = st.deadline) → ∀ w, R w (w.updateStream s f)

structure Upkeep (s : StreamId) (R : Endpoint → Endpoint → Prop) : Prop extends Tends s R where
  springTrap : ∀ w, R w w.springTrap

variable {s : StreamId} {R : Endpoint → Endpoint → Prop}

namespace Tends

variable (h : Tends s R)

include h

theorem claim (t : Ticket) (w : Endpoint) : R w (w.claim t s) :=
  h.updateStream (grows_claim t) (deadline_claim t) w

theorem releaseClaim (t : Ticket) (w : Endpoint) : R w (w.releaseClaim t s) :=
  h.updateStream (grows_release t) (fun _ => rfl) w

theorem shut (w : Endpoint) : R w (w.shut s) := by
  simp only [Endpoint.shut]
  split
  · exact h.refl w
  · exact h.trans (h.updateStream grows_markShut (fun _ => rfl) w) (h.emit rfl _)

theorem awaitShut (b : Pace) (w : Endpoint) : R w (w.awaitShut b s).endpoint := by
  simp only [Endpoint.awaitShut]
  split
  · exact h.refl w
  · split
    · exact h.emit rfl w
    · exact h.refl w

theorem shutLate (b : Pace) (w : Endpoint) : R w (w.shutLate b s).endpoint := by
  simp only [Endpoint.shutLate]
  split
  · exact h.refl w
  · exact h.trans (h.shut w) (h.awaitShut b _)

theorem closeStream (w : Endpoint) : R w (w.closeStream s) := by
  simp only [Endpoint.closeStream]
  split
  · exact h.refl w
  · split
    · exact h.trans (h.updateStream grows_close (fun _ => rfl) w) (h.shut _)
    · exact h.updateStream grows_close (fun _ => rfl) w

end Tends

theorem upkeep_of_tends (h : ∀ s, Tends s R)
    (untrap : ∀ w, R w { w with transport := { w.transport with trap := none } })
    (s : StreamId) : Upkeep s R where
  toTends := h s
  springTrap w := by
    simp only [Endpoint.springTrap]
    split
    · exact (h s).trans (untrap w) ((h _).closeStream _)
    · exact (h s).refl w

namespace Upkeep

variable (h : Upkeep s R)

include h

theorem openNow (t : Ticket) (w : Endpoint) : R w (w.openNow t s).endpoint := by
  have hs : R w (w.emit (.opening s (w.ssrcOf s))).springTrap :=
    h.trans (h.emit rfl w) (h.springTrap _)
  dsimp only [Endpoint.openNow]
  split
  · exact h.trans hs (h.releaseClaim t _)
  · exact h.trans hs (h.trans (h.updateStream grows_markOpened (fun _ => rfl) _) (h.emit rfl _))

theorem openAs (t : Ticket) (started : Bool) (w : Endpoint) :
    R w (w.openAs t s started).endpoint := by
  have hopen : ∀ w', R w w' → R w
      (if w'.transport.ready then w'.openNow t s else .blocked (.opening none) w').endpoint := by
    intro w' hw'
    split
    · exact h.trans hw' (h.openNow t w')
    · exact hw'
  cases started with
  | true => exact hopen w (h.refl w)
  | false => exact hopen _ (h.emit rfl w)

theorem open? (t : Ticket) (p : Progress) (w : Endpoint) :
    R w (w.open? t s p).endpoint := by
  have hc := h.claim t w
  dsimp only [Endpoint.open?]
  split
  · exact h.refl w
  · split
    · exact h.trans hc (h.openAs t _ _)
    · exact hc

theorem openOrClosed (b : Pace) (t : Ticket) (p : Progress) (w : Endpoint) :
    R w (w.openOrClosed b t s p).endpoint := by
  have ho := h.open? t p w
  dsimp only [Endpoint.openOrClosed]
  split
  · exact h.releaseClaim t w
  · split
    · rename_i heq
      rwa [heq] at ho
    · rename_i heq
      rw [heq] at ho
      split
      · exact h.trans ho (h.releaseClaim t _)
      · exact ho

theorem enter (b : Pace) (t : Ticket) (p : Progress) (w : Endpoint) :
    R w (w.enter b t s p).endpoint := by
  simp only [Endpoint.enter]
  split
  · exact h.refl w
  · have ho := h.openOrClosed b t p w
    generalize w.openOrClosed b t s p = a at ho
    cases a with
    | blocked p' w' => exact ho
    | ready r w' =>
      cases r with
      | error e => exact ho
      | ok x =>
        dsimp only [Attempt.bind]
        split
        · exact h.trans ho (h.shutLate b w')
        · exact ho

theorem obtain (b : Pace) (t : Ticket) (p : Progress) (w : Endpoint) :
    R w (w.obtain b t s p).endpoint := by
  cases p with
  | shutting deadline => exact h.awaitShut b w
  | _ => exact h.enter b t _ w

end Upkeep

end Endpoint

end MediaSender

import MediaSender.Proofs.Sender.Reads
import MediaSender.Proofs.Stream.OpenOnce
/-!
Closed streams. A call that starts on a closed stream is refused before it does anything. A call
that waits for the stream to be opened is refused when it is polled next, even if the open comes
through in that poll, and if the stream is closed from inside the open; it never writes its packet
and never takes a datagram. What comes through that late is closed by the call that it comes to, and
that call alone waits if the transport takes its time.
-/

namespace MediaSender

open Endpoint

namespace Endpoint

variable {w w' w₁ w₂ w₃ : Endpoint} {s : StreamId} {t : Ticket} {p : Progress} {b : Pace}
  {e : Failure}

/-- No packet is written to a stream, and no datagram is taken. -/
structure Hushed (w w' : Endpoint) : Prop where
  queue : w'.transport.queue = w.transport.queue
  events : ∃ es, w'.trace = w.trace ++ es ∧ ∀ e ∈ es, e.traffic? = none

theorem Hushed.refl (w : Endpoint) : Hushed w w :=
  ⟨rfl, [], (List.append_nil _).symm, List.forall_mem_nil _⟩

theorem Hushed.trans (h : Hushed w₁ w₂) (h' : Hushed w₂ w₃) : Hushed w₁ w₃ := by
  obtain ⟨es, ht, hes⟩ := h.events
  obtain ⟨es', ht', hes'⟩ := h'.events
  exact ⟨h'.queue.trans h.queue, es ++ es', by rw [ht', ht, List.append_assoc],
    List.forall_mem_append.mpr ⟨hes, hes'⟩⟩

structure FailsToOpen (s : StreamId) (e : Failure) (w w' : Endpoint) : Prop where
  failure : w.openFailure s = some e
  opening : .opening s (w.ssrcOf s) ∈ eventsSince w w'

inductive Passage {α : Type} (b : Pace) (s : StreamId) (p : Progress) (w : Endpoint) :
    Attempt (Outcome α) → Prop
  | waits {p' : Progress} {w' : Endpoint} (hushed : Hushed w w')
      (before : (w.stream s).closed = false) (after : (w'.stream s).closed = false) :
      Passage b s p w (.blocked p' w')
  | shutting {p' : Progress} {w' : Endpoint} (hushed : Hushed w w') (late : ShutsLate s p w w')
      (lingers : b.lingers s) : Passage b s p w (.blocked p' w')
  | refused {e : Failure} {w' : Endpoint} (why : e = .closedPipe ∨ FailsToOpen s e w w')
      (hushed : Hushed w w') : Passage b s p w (.ready (.error e) w')
  | timeout {w' : Endpoint} (hushed : Hushed w w') (late : ShutsLate s p w w')
      (lingers : b.lingers s) : Passage b s p w (.ready (.error .timeout) w')
  | ended {r : Outcome α} {w' : Endpoint} (before : (w.stream s).closed = false)
      (after : (w'.stream s).closed = false) : Passage b s p w (.ready r w')

theorem not_closed (before : (w.stream s).closed = false) (after : (w'.stream s).closed = false) :
    ¬ ((w.stream s).closed ∨ (w'.stream s).closed) := by
  rw [before, after]
  decide

theorem Passage.refuses {α : Type} {a : Attempt (Outcome α)} (h : Passage b s p w a)
    (prompt : ShutsLate s p w a.endpoint → b.lingers s = false)
    (closed : (w.stream s).closed ∨ (a.endpoint.stream s).closed) :
    ∃ e w', a = .ready (.error e) w' ∧ (e = .closedPipe ∨ FailsToOpen s e w w') ∧ Hushed w w' := by
  cases h with
  | refused why hushed => exact ⟨_, _, rfl, why, hushed⟩
  | timeout _ late lingers => exact absurd prompt (not_prompt late lingers)
  | shutting _ late lingers => exact absurd prompt (not_prompt late lingers)
  | waits _ before after => exact absurd closed (not_closed before after)
  | ended before after => exact absurd closed (not_closed before after)

end Endpoint

namespace Task

variable {α : Type} {s : StreamId} {e : Failure} {w w' : Endpoint} {p : Progress}
  (roster : Roster) (b : Pace) (t : Ticket)

end Task

def StreamCommand.refusal : StreamCommand → Option (Failure → Reply)
  | write .. => some fun e => .count (.error e)
  | read _ => some fun e => .bytes (.error e)
  | readWith .. => some fun e => .data (.error e)
  | _ => none

inductive Task.Single (s : StreamId) (refusal : Failure → Reply) : Task Reply → Prop
  | read (size : Nat) {reply : Outcome Bytes → Reply} (fails : ∀ e, reply (.error e) = refusal e) :
      Single s refusal (.ask (.read s size) fun r => .done (reply r))
  | write (packet : Packet) {reply : Outcome Nat → Reply}
      (fails : ∀ e, reply (.error e) = refusal e) :
      Single s refusal (.ask (.write s packet) fun r => .done (reply r))

inductive PolledPassage (b : Pace) (s : StreamId) (refusal : Failure → Reply) (p : Progress)
    (w : Endpoint) : Polled Reply → Prop
  | waits {task : Task Reply} {p' : Progress} {w' : Endpoint} (hushed : Hushed w w')
      (before : (w.stream s).closed = false) (after : (w'.stream s).closed = false) :
      PolledPassage b s refusal p w (.waiting task p' w')
  | shutting {task : Task Reply} {p' : Progress} {w' : Endpoint} (hushed : Hushed w w')
      (late : ShutsLate s p w w') (lingers : b.lingers s) :
      PolledPassage b s refusal p w (.waiting task p' w')
  | refused {e : Failure} {w' : Endpoint} (why : e = .closedPipe ∨ FailsToOpen s e w w')
      (hushed : Hushed w w') : PolledPassage b s refusal p w (.finished (refusal e) w')
  | timeout {w' : Endpoint} (hushed : Hushed w w') (late : ShutsLate s p w w')
      (lingers : b.lingers s) : PolledPassage b s refusal p w (.finished (refusal .timeout) w')
  | ended {r : Reply} {w' : Endpoint} (before : (w.stream s).closed = false)
      (after : (w'.stream s).closed = false) : PolledPassage b s refusal p w (.finished r w')

def Attempt.polled {α : Type} (reply : α → Reply) (task : Task Reply) : Attempt α → Polled Reply
  | ready a w => .finished (reply a) w
  | blocked p w => .waiting task p w

theorem Endpoint.Passage.polled {α : Type} {b : Pace} {s : StreamId} {refusal : Failure → Reply}
    {p : Progress} {w : Endpoint} {a : Attempt (Outcome α)} {reply : Outcome α → Reply}
    (fails : ∀ e, reply (.error e) = refusal e) (h : Passage b s p w a) (task : Task Reply) :
    PolledPassage b s refusal p w (a.polled reply task) := by
  cases h with
  | waits hushed before after => exact .waits hushed before after
  | shutting hushed late lingers => exact .shutting hushed late lingers
  | refused why hushed =>
    rw [Attempt.polled, fails]
    exact .refused why hushed
  | timeout hushed late lingers =>
    rw [Attempt.polled, fails]
    exact .timeout hushed late lingers
  | ended before after => exact .ended before after

namespace Task.Single

variable {s : StreamId} {refusal : Failure → Reply} {task : Task Reply} {p : Progress}
  {w : Endpoint} (h : task.Single s refusal) (roster : Roster) (b : Pace) (t : Ticket)

include h

theorem asks : task.stream? = some s := by
  cases h <;> rfl

variable {task' : Task Reply} {p' : Progress} {w' : Endpoint}

theorem stays (waits : task.poll roster b t p w = .waiting task' p' w') : task' = task := by
  cases h <;>
  · rw [Task.poll] at waits
    split at waits <;> cases waits
    rfl

end Task.Single

namespace Session

variable {σ : Session} {s : StreamId} {refusal : Failure → Reply} {task : Task Reply} {x y : Turn}

theorem start_stream {c : StreamCommand} {name : String} (h : ∀ ssrc, c ≠ .create ssrc)
    (named : σ.directory.streams.lookup name = some s) :
    σ.start (.stream name c) = σ.toStream s c := by
  cases c with
  | create ssrc => exact absurd rfl (h ssrc)
  | _ => simp only [Session.start, streamCommand, withNamed, named]

namespace Turn

end Turn

theorem leaves_task {I : Task Reply → Prop} (h : σ.WellNumbered) (ms : List Move)
    (hx : x ∈ turns ms σ)
    (starts : ∃ c task, x.move = .issue c ∧ x.before.start c = .waiting task ∧ I task)
    (stays : ∀ {task roster b t p w task' p' w'}, I task →
      task.poll roster b t p w = .waiting task' p' w' → I task') :
    Leaves I x.before.steps (σ.after ms) := by
  refine since_turn (P := fun _ => Leaves I x.before.steps) ms hx ?_ ?_
  · rintro before m rfl
    obtain ⟨c, task, hm, hstart, hI⟩ := starts
    obtain rfl : m = .issue c := hm
    exact (h.after before).leaves hstart fun task' p w => stays hI
  · intro before m hleaves
    exact hleaves.act m (fun _ => id) fun _ d _ hI task' p w => stays hI

end Session

end MediaSender

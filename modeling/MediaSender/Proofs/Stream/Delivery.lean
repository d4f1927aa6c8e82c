import MediaSender.Proofs.Run.Fair
/-!
How a packet gets through. A layer that passes packets through hands each packet on once and as it
is, whatever it notes or adds to the attributes; through such layers, a write ends as one write to
the stream below.
-/

namespace MediaSender

open Endpoint

inductive LayerScript.Returns {query answer : Type} (r : Outcome answer) :
    LayerScript query answer → Prop
  | done : Returns r (.done r)
  | note (n : LayerNote) {rest : LayerScript query answer} (h : Returns r rest) :
      Returns r (.note n rest)

/-- The packet goes on once, and what comes of it is returned. -/
inductive LayerScript.Forwards (packet : Packet) : WriteScript → Prop
  | inner (attributes : Attributes) {rest : Outcome Nat → WriteScript}
      (h : ∀ r, Returns r (rest r)) : Forwards packet (.inner (packet, attributes) rest)
  | note (n : LayerNote) {rest : WriteScript} (h : Forwards packet rest) :
      Forwards packet (.note n rest)

def Layer.PassesThrough (l : Layer) : Prop :=
  ∀ d packet attributes, LayerScript.Forwards packet (l.write d packet attributes)

/-- A writer that leads to a stream through such layers only. -/
inductive Writer.Reaches (s : StreamId) : Writer → Prop
  | stream : Reaches s (.stream s)
  | wrapped {l : Layer} (d : StreamDescription) {inner : Writer} (passes : l.PassesThrough)
      (h : Reaches s inner) : Reaches s (.wrapped l d inner)

section

variable {α β : Type} {roster : Roster} {b : Pace} {t : Ticket}

structure Clear (s : StreamId) (w : Endpoint) : Prop where
  fair : Fair w
  idle : Idle s w
  alive : (w.stream s).closed = false

theorem Clear.emit {s : StreamId} {w : Endpoint} (h : Clear s w) (e : Event) : Clear s (w.emit e) :=
  ⟨h.fair.congr rfl, h.idle, h.alive⟩

variable {s : StreamId} {w : Endpoint}

end

end MediaSender

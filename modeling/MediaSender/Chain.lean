import MediaSender.Event
/-!
Chains of layers around the streams of a sender. A layer sees every packet that is read or written
through it, and reaches the stream only through the reader or writer that it was bound with.
-/

namespace MediaSender

inductive LayerScript (query answer : Type)
  | done (result : Outcome answer)
  | note (n : LayerNote) (rest : LayerScript query answer)
  | inner (q : query) (rest : Outcome answer → LayerScript query answer)

abbrev ReadScript := LayerScript Attributes (Bytes × Attributes)

abbrev WriteScript := LayerScript (Packet × Attributes) Nat

structure Layer where
  name : String
  read : Nat → Attributes → ReadScript := fun _ attributes => .inner attributes .done
  write : StreamDescription → Packet → Attributes → WriteScript :=
    fun _ packet attributes => .inner (packet, attributes) .done
  /-- What closing the layer fails with, instead of closing the layers inside it. -/
  closeFailure : Option Failure := none

namespace Layer

def tagging (name : String) (readTags writeTags : List (Nat × Nat))
    (writeFailure closeFailure : Option Failure) : Layer where
  name
  closeFailure
  read _ attributes :=
    .note (.read attributes) <| .inner attributes fun
      | .ok (data, attributes) => .done (.ok (data, attributes.setAll readTags))
      | .error e => .done (.error e)
  write _ packet attributes :=
    .note (.write attributes) <| match writeFailure with
      | some e => .done (.error e)
      | none => .inner (packet, attributes.setAll writeTags) .done

end Layer

inductive Reader
  | stream (s : StreamId)
  | wrapped (layer : Layer) (inner : Reader)
  | sink (name : String) (failure : Option Failure)

inductive Writer
  | stream (s : StreamId)
  | wrapped (layer : Layer) (description : StreamDescription) (inner : Writer)
  | sink (name : String) (failure : Option Failure)

/-- The layers from the outermost to the innermost. -/
abbrev Chain := List Layer

namespace Chain

def wrap (c : Chain) (l : Layer) : Chain := l :: c

def ofLayers (innermostFirst : List Layer) : Chain := innermostFirst.foldl wrap []

def reader (c : Chain) (r : Reader) : Reader := c.foldr .wrapped r

def writer (c : Chain) (d : StreamDescription) (w : Writer) : Writer :=
  c.foldr (fun l inner => .wrapped l d inner) w

def reports (c : Chain) (note : LayerNote) : List Report := c.map fun l => .layer l.name note

/-- The layers that a close reaches: the first that fails is the last. -/
def closed : Chain → List Layer
  | [] => []
  | l :: c => if l.closeFailure.isSome then [l] else l :: closed c

def closeReports (c : Chain) : List Report := c.closed.map fun l => .layer l.name .closed

def closeOutcome (c : Chain) : Outcome Unit :=
  match c.findSome? (·.closeFailure) with
  | some e => .error e
  | none => .ok ()

end Chain

end MediaSender

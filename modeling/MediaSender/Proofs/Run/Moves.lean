import MediaSender.Session.Run
/-!
Runs of a session in any order. A run is a list of moves, and a move is the smallest thing that
happens: a command is issued, one of the waiting calls is polled, or a layer writes to a stream by
itself. A step of a session is one such run, with the polls in the order of the calls.
-/

namespace MediaSender

def Event.handed? : Event → Option (StreamId × StreamDescription)
  | .writerBound s d => some (s, d)
  | _ => none

def Event.released? : Event → Option StreamDescription
  | .released d => some d
  | _ => none

namespace Endpoint

def handed (w : Endpoint) : List (StreamId × StreamDescription) := w.trace.filterMap Event.handed?

def released (w : Endpoint) : List StreamDescription := w.trace.filterMap Event.released?

end Endpoint

inductive Move
  | issue (c : Command)
  | poll (t : Ticket)
  /-- A layer writes to the stream that was handed to it in the place `n`, at a time of its own. -/
  | inject (n : Nat) (packet : Packet)
  /-- From now on, polls find something else around them. -/
  | turnTo (b : Pace)

def Move.creates : Move → Bool
  | issue (.sender _ (.create ..)) => true
  | _ => false

namespace Session

def issue (c : Command) (s : Session) : Session × StepResult :=
  let r := s.turn (s.start c)
  ({ r.1 with steps := r.1.steps + 1 }, r.2)

def pollCall (t : Ticket) (s : Session) : Session × StepResult :=
  match s.calls.find? (·.ticket == t) with
  | none => (s, .refused)
  | some c =>
    match c.task.poll s.roster s.pace t c.progress s.endpoint with
    | .finished reply endpoint =>
      ({ s with endpoint, calls := s.calls.filter (·.ticket != t) }, .answered reply)
    | .waiting task progress endpoint =>
      ({ s with
          endpoint
          calls := s.calls.map fun d => if d.ticket == t then ⟨t, task, progress⟩ else d },
        .pending)

def inject (n : Nat) (packet : Packet) (s : Session) : Session × StepResult :=
  match s.endpoint.handed[n]? with
  | none => (s, .refused)
  | some (i, _) =>
    let r := s.turn (.waiting (((Writer.stream i).write (packet, [])).map .count))
    ({ r.1 with steps := r.1.steps + 1 }, r.2)

def act (m : Move) (s : Session) : Session × StepResult :=
  match m with
  | .issue c => s.issue c
  | .poll t => s.pollCall t
  | .inject n packet => s.inject n packet
  | .turnTo pace => ({ s with pace }, .answered .nothing)

def after : List Move → Session → Session
  | [], s => s
  | m :: ms, s => after ms (s.act m).1

theorem after_append (ms ms' : List Move) (s : Session) :
    s.after (ms ++ ms') = (s.after ms).after ms' := by
  induction ms generalizing s with
  | nil => rfl
  | cons m ms ih => exact ih _

/-- Nothing has happened yet: there are tracks and a transport, and no sender. -/
structure Fresh (s : Session) : Prop where
  trace : s.endpoint.trace = []
  streams : s.endpoint.streams = .empty
  gates : s.endpoint.gates = .empty
  tracks : s.endpoint.tracks = .empty
  trap : s.endpoint.transport.trap = none
  senders : s.roster.senders = .empty
  calls : s.calls = []
  names : s.directory = { tracks := s.directory.tracks }

theorem fresh_of_tracks {transport : Transport} (h : transport.trap = none) (tracks : Names Track) :
    Fresh { endpoint := { transport }, directory := { tracks } } :=
  ⟨rfl, rfl, rfl, rfl, h, rfl, rfl, rfl⟩

theorem Fresh.sender_eq {s : Session} (h : s.Fresh) (k : SenderKey) : s.sender k = {} := by
  rw [sender, Roster.sender, h.senders]
  rfl

end Session

end MediaSender

import MediaSender.Session.Senders
import MediaSender.Session.Streams
import MediaSender.Session.Tracks
/-!
Running a session. Each step has one command. A command that no part of the endpoint has to be asked
for acts at once; any other has its turn after a pass in which all waiting calls are polled, in the
order of their steps. From then on the waiting calls are polled over and over, until four passes in
a row finish none of them.
-/

namespace MediaSender

inductive WorldCommand
  | push (ssrc : Ssrc) (datagram : Bytes)
  | ready (isReady : Bool)
  | fail (ssrc : Ssrc) (op : Operation) (failure : Option Failure)
  | advance (ms : Nat)
  | trap (stream : String)
  | cancel (step : Nat)
  | createTransceiver (name : String) (codecs : List Codec)
  | dropTransceiver (name : String)
  | nothing

inductive Command
  | world (c : WorldCommand)
  | sender (name : String) (c : SenderCommand)
  | track (name : String) (c : TrackCommand)
  | context (name : String) (c : ContextCommand)
  | gate (name : String) (c : GateCommand)
  | stream (name : String) (c : StreamCommand)
  | lifecycle (name : String) (c : LifecycleCommand)
  | chain (c : ChainCommand)
  | unknown

/-- Commands to senders, tracks and the chain have to be carried out by the endpoint, and so has
the close of a stream. -/
def Command.actsAtOnce : Command → Bool
  | sender .. | track .. | chain _ | stream _ .close => false
  | _ => true

namespace Session

def mapTransport (f : Transport → Transport) (s : Session) : Session :=
  s.mapEndpoint fun w => { w with transport := f w.transport }

def cancel (step : Nat) (s : Session) : Started :=
  match s.calls.find? (·.ticket == step) with
  | none => .finished (.flag false) s
  | some c =>
    .finished (.flag true)
      { s with
        endpoint := c.drop s.endpoint
        calls := s.calls.filter (·.ticket != step) }

def forgetTransceiver (name : String) (s : Session) : Session :=
  match s.directory.transceivers.lookup name with
  | none => s
  | some n =>
    { s.mapEndpoint fun w => { w with transceivers := w.transceivers.set n none } with
      directory :=
        { s.directory with
          transceivers := s.directory.transceivers.filter (·.1 != name) } }

def createTransceiver (name : String) (codecs : List Codec) (s : Session) : Session :=
  let s := s.forgetTransceiver name
  { s with
    endpoint := { s.endpoint with transceivers := s.endpoint.transceivers.push (some codecs) }
    directory :=
      { s.directory with
        transceivers := (name, s.endpoint.transceivers.size) :: s.directory.transceivers } }

def worldCommand (s : Session) : WorldCommand → Started
  | .push ssrc datagram => .finished .nothing (s.mapTransport (·.push ssrc datagram))
  | .ready isReady => .finished .nothing (s.mapTransport fun t => { t with ready := isReady })
  | .fail ssrc op failure => .finished .nothing (s.mapTransport (·.setFailure ssrc op failure))
  | .advance ms => .finished .nothing (s.mapEndpoint fun w => { w with clock := w.clock + ms })
  | .trap stream =>
    withNamed s.directory.streams stream fun i =>
      .finished .nothing (s.mapTransport fun t => { t with trap := some i })
  | .cancel step => s.cancel step
  | .createTransceiver name codecs => .finished .nothing (s.createTransceiver name codecs)
  | .dropTransceiver name => .finished .nothing (s.forgetTransceiver name)
  | .nothing => .finished .nothing s

def start (s : Session) : Command → Started
  | .world c => s.worldCommand c
  | .sender name c => s.senderCommand name c
  | .track name c => s.trackCommand name c
  | .context name c => s.contextCommand name c
  | .gate name c => s.gateCommand name c
  | .stream name c => s.streamCommand name c
  | .lifecycle name c => s.lifecycleCommand name c
  | .chain c => s.chainCommand c
  | .unknown => .refused

structure Pass where
  waiting : List (Call Reply)
  finished : List (Ticket × Reply)
  endpoint : Endpoint

def pollAll (roster : Roster) (b : Pace) : List (Call Reply) → Endpoint → Pass
  | [], w => ⟨[], [], w⟩
  | c :: cs, w =>
    match c.task.poll roster b c.ticket c.progress w with
    | .finished reply w' =>
      let rest := pollAll roster b cs w'
      { rest with finished := (c.ticket, reply) :: rest.finished }
    | .waiting task progress w' =>
      let rest := pollAll roster b cs w'
      { rest with waiting := ⟨c.ticket, task, progress⟩ :: rest.waiting }

def pass (s : Session) : Session × List (Ticket × Reply) :=
  let p := pollAll s.roster s.pace s.calls s.endpoint
  ({ s with calls := p.waiting, endpoint := p.endpoint }, p.finished)

def idlePasses : Nat := 4

/-- Passes until `idle` more of them in a row finish nothing. Each pass that finishes something
leaves fewer calls, so `fuel` passes are enough. -/
def settle : (fuel idle : Nat) → Session → Session × List (Ticket × Reply)
  | 0, _, s => (s, [])
  | _, 0, s => (s, [])
  | fuel + 1, idle + 1, s =>
    let (s', finished) := s.pass
    let rest := settle fuel (if finished.isEmpty then idle else idlePasses) s'
    (rest.1, finished ++ rest.2)

def enoughPasses (s : Session) : Nat := idlePasses * (s.calls.length + 1)

inductive StepResult
  | refused
  | pending
  | answered (r : Reply)

def StepResult.isPending : StepResult → Bool
  | pending => true
  | _ => false

structure Step where
  result : StepResult
  events : List Event
  /-- Calls of earlier steps that finished during this one. -/
  finished : List (Ticket × Reply)

def turn (s : Session) : Started → Session × StepResult
  | .refused => (s, .refused)
  | .finished r s' => (s', .answered r)
  | .waiting task =>
    match task.poll s.roster s.pace s.steps .fresh s.endpoint with
    | .finished r endpoint => ({ s with endpoint }, .answered r)
    | .waiting task progress endpoint =>
      ({ s with endpoint, calls := s.calls ++ [⟨s.steps, task, progress⟩] }, .pending)

/-- What happens before the first pass of a step, and the step's own command after that pass. -/
def arrive (s : Session) (c : Command) : Session × (Session → Started) :=
  if c.actsAtOnce then
    match s.start c with
    | .finished r s' => (s', .finished r)
    | own => (s, fun _ => own)
  else (s, fun s' => s'.start c)

def eventsSince (before after : Session) : List Event :=
  after.endpoint.trace.drop before.endpoint.trace.length

def resultOf (ticket : Ticket) (finished : List (Ticket × Reply)) (r : StepResult) : StepResult :=
  match finished.lookup ticket with
  | some reply => .answered reply
  | none => r

def step (c : Command) (s : Session) : Session × Step :=
  let (s₀, own) := s.arrive c
  let (s₁, early) := s₀.pass
  let (s₂, r) := s₁.turn (own s₁)
  let idle := if early.isEmpty && r.isPending then idlePasses - 1 else idlePasses
  let (s₃, late) := s₂.settle s₂.enoughPasses idle
  let finished := early ++ late
  ({ s₃ with steps := s.steps + 1 },
    ⟨resultOf s.steps finished r, eventsSince s s₃, finished.filter (·.1 != s.steps)⟩)

def run : List Command → Session → Session × List Step
  | [], s => (s, [])
  | c :: cs, s =>
    let (s₁, first) := s.step c
    let (s₂, rest) := run cs s₁
    (s₂, first :: rest)

def pending (s : Session) : List Nat := s.calls.map (·.ticket)

end Session

end MediaSender

import MediaSender.Session.Basic
/-!
Commands to streams, gates, lifecycles and the chain of layers.
-/

namespace MediaSender

inductive StreamCommand
  | create (ssrc : Ssrc)
  | ssrc
  | write (packet : Packet) (attributes : Attributes)
  | read (size : Nat)
  | readWith (size : Nat) (attributes : Attributes)
  | close
  | setDeadline (ms : Option Int)
  | deadline

inductive GateCommand
  | create
  | resolveStream (stream : String)
  | resolveSink (name : String) (failure : Option Failure)
  | isResolved
  | write (packet : Packet) (attributes : Attributes)

inductive LifecycleCommand
  | create
  | start
  | stop
  | state
  | awaitSending

inductive ChainCommand
  | bindReader (name : String) (failure : Option Failure)
  | bindWriter (name : String) (d : StreamDescription) (failure : Option Failure)
  | read (name : String) (size : Nat) (attributes : Attributes)
  | write (name : String) (packet : Packet) (attributes : Attributes)
  | release (d : StreamDescription)
  | close

namespace Session

def createStream (name : String) (ssrc : Ssrc) (s : Session) : Started :=
  .finished .nothing
    { s with
      endpoint := s.endpoint.addStream ssrc none
      directory :=
        { s.directory with streams := (name, s.endpoint.nextStream) :: s.directory.streams } }

def toStream (i : StreamId) (s : Session) : StreamCommand → Started
  | .create _ => .refused
  | .ssrc => .finished (.number (s.endpoint.ssrcOf i).toNat) s
  | .write packet attributes => .waiting (((Writer.stream i).write (packet, attributes)).map .count)
  | .read size =>
    .waiting (((Reader.stream i).read size []).map fun r => .bytes (r.map (·.1)))
  | .readWith size attributes => .waiting (((Reader.stream i).read size attributes).map .data)
  | .close =>
    let outcome := match s.endpoint.closeFailure i with
      | some e => .error e
      | none => .ok ()
    .finished (.outcome outcome) (s.mapEndpoint (·.closeStream i))
  | .setDeadline ms =>
    .finished (.outcome (.ok ())) (s.mapEndpoint (·.setDeadline i (s.moment ms)))
  | .deadline =>
    .finished (.remaining ((s.endpoint.stream i).deadline.map (· - s.endpoint.clock))) s

def streamCommand (name : String) (c : StreamCommand) (s : Session) : Started :=
  match c with
  | .create ssrc => s.createStream name ssrc
  | c => withNamed s.directory.streams name fun i => s.toStream i c

def createGate (name : String) (s : Session) : Started :=
  .finished .nothing
    { s with
      endpoint := s.endpoint.addGate
      directory := { s.directory with gates := (name, s.endpoint.nextGate) :: s.directory.gates } }

def resolveGate (g : GateId) (writer : Writer) (s : Session) : Started :=
  .finished (.outcome (s.endpoint.resolveOutcome g)) (s.mapEndpoint (·.resolve g writer))

def toGate (g : GateId) (s : Session) : GateCommand → Started
  | .create => .refused
  | .resolveStream stream =>
    withNamed s.directory.streams stream fun i => s.resolveGate g (.stream i)
  | .resolveSink name failure => s.resolveGate g (.sink name failure)
  | .isResolved => .finished (.flag (s.endpoint.gate g).isSome) s
  | .write packet attributes => .waiting ((writeGate g packet attributes).map .count)

def gateCommand (name : String) (c : GateCommand) (s : Session) : Started :=
  match c with
  | .create => s.createGate name
  | c => withNamed s.directory.gates name fun g => s.toGate g c

def createLifecycle (name : String) (s : Session) : Started :=
  .finished .nothing
    { s with
      roster := { s.roster with lifecycles := s.roster.lifecycles.push .idle }
      directory :=
        { s.directory with
          lifecycles := (name, s.roster.lifecycles.size) :: s.directory.lifecycles } }

def setLifecycle (n : Nat) (l : Lifecycle) (s : Session) : Session :=
  { s with roster := { s.roster with lifecycles := s.roster.lifecycles.set n l } }

def toLifecycle (n : Nat) (s : Session) (c : LifecycleCommand) : Started :=
  let l := s.roster.lifecycle (.free n)
  match c with
  | .create => .refused
  | .start => .finished (.flag l.canStart) (s.setLifecycle n l.start)
  | .stop => .finished (.flag l.canStop) (s.setLifecycle n l.stop)
  | .state => .finished (.lifecycle l) s
  | .awaitSending => .waiting ((Task.request (.sending (.free n))).map .outcome)

def lifecycleCommand (name : String) (c : LifecycleCommand) (s : Session) : Started :=
  match c with
  | .create => s.createLifecycle name
  | c => withNamed s.directory.lifecycles name fun n => s.toLifecycle n c

def bindSinkReader (name : String) (failure : Option Failure) (s : Session) : Started :=
  .finished .nothing
    { s with
      endpoint := s.endpoint.reportAll (s.endpoint.chain.reports .readerBound)
      directory :=
        { s.directory with
          readers := (name, s.endpoint.chain.reader (.sink name failure)) :: s.directory.readers } }

def bindSinkWriter (name : String) (d : StreamDescription) (failure : Option Failure)
    (s : Session) : Started :=
  .finished .nothing
    { s with
      endpoint := s.endpoint.reportAll (s.endpoint.chain.reports (.writerBound d))
      directory :=
        { s.directory with
          writers :=
            (name, s.endpoint.chain.writer d (.sink name failure)) :: s.directory.writers } }

def chainCommand (s : Session) : ChainCommand → Started
  | .bindReader name failure => s.bindSinkReader name failure
  | .bindWriter name d failure => s.bindSinkWriter name d failure
  | .read name size attributes =>
    withNamed s.directory.readers name fun r => .waiting ((r.read size attributes).map .data)
  | .write name packet attributes =>
    withNamed s.directory.writers name fun w =>
      .waiting ((w.write (packet, attributes)).map .count)
  | .release d =>
    .finished .nothing
      (s.mapEndpoint (·.reportAll (s.endpoint.chain.reports (.released d.id d.ssrc))))
  | .close =>
    .finished (.outcome s.endpoint.chain.closeOutcome)
      (s.mapEndpoint (·.reportAll s.endpoint.chain.closeReports))

end Session

end MediaSender

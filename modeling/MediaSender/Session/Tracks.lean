import MediaSender.Session.Basic
/-!
Commands to tracks and to the contexts they are bound with.
-/

namespace MediaSender

inductive TrackCommand
  | info
  | bind (context : String)
  | unbind (context : String)
  | bindingCount
  | write (packet : Packet) (attributes : Attributes) (index : Nat)
  | read (size : Nat) (attributes : Attributes) (index : Nat)

inductive ContextCommand
  | create (id : String) (ssrc : Ssrc) (codecs : List Codec) (extensions : List HeaderExtension)
      (gate : Option String)
  | info

namespace Session

def createContext (name : String) (c : Context) (s : Session) : Started :=
  .finished .nothing
    { s with directory := { s.directory with contexts := (name, c) :: s.directory.contexts } }

def contextCommand (name : String) (c : ContextCommand) (s : Session) : Started :=
  match c with
  | .create id ssrc codecs headerExtensions gate =>
    s.createContext name
      { id, ssrc
        parameters := { headerExtensions, codecs }
        gate := gate.bind fun g => s.directory.gates.lookup g }
  | .info => withNamed s.directory.contexts name fun c => .finished (.context c.view) s

def withContext (t : Track) (index : Nat) (s : Session) (f : Context → Started) : Started :=
  if t.isFixed then .refused
  else match (s.endpoint.track t).contexts[index]? with
    | some c => f c
    | none => .refused

def writeTrack (t : Track) (packet : Packet) (attributes : Attributes) (index : Nat)
    (s : Session) : Started :=
  if t.isFixed then .waiting ((t.write packet attributes).map .count)
  else s.withContext t index fun c =>
    match c.gate with
    | some g => .waiting ((writeGate g packet attributes).map .count)
    | none => .finished .nothing s

def readTrack (t : Track) (size : Nat) (attributes : Attributes) (index : Nat) (s : Session) :
    Started :=
  s.withContext t index fun c =>
    match c.reader with
    | some r => .waiting ((r.read size attributes).map .data)
    | none => .finished .nothing s

def toTrack (t : Track) (s : Session) : TrackCommand → Started
  | .info => .finished (.track t) s
  | .bind context =>
    withNamed s.directory.contexts context fun c =>
      .finished (.codec (s.endpoint.bindResult t c)) (s.mapEndpoint (·.bindTrack t c))
  | .unbind context =>
    withNamed s.directory.contexts context fun c =>
      .finished (.outcome (s.endpoint.unbindResult t c)) (s.mapEndpoint (·.unbindTrack t c))
  | .bindingCount =>
    if t.isFixed then .finished (.number (s.endpoint.track t).bindings.length) s else .refused
  | .write packet attributes index => s.writeTrack t packet attributes index
  | .read size attributes index => s.readTrack t size attributes index

def trackCommand (name : String) (c : TrackCommand) (s : Session) : Started :=
  withNamed s.directory.tracks name fun t => s.toTrack t c

end Session

end MediaSender

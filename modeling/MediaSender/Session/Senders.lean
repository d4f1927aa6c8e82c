import MediaSender.Session.Basic
/-!
Commands to senders. What a command awaits of tracks, of layers and of the transport is taken to
answer within its turn. That the lock of its sender is held for longer, and that a close takes its
time, is for the polls in between to find (`Pace`).
-/

namespace MediaSender

inductive SenderCommand
  | create (track : Option String) (connected : Bool)
  | extend (track : Option String)
  | swapTrack (track : Option String)
  | start (codings : Option (List Coding)) (extensions : Option (List HeaderExtension))
  | stop
  | awaitSending
  | parameters
  | state
  | summary
  | setNegotiated
  | setTransceiver (name : String)
  | read (feed : Sender.Feed) (size : Nat)
  | readPackets (feed : Sender.Feed)
  | setBaseDeadline (ms : Option Int)
  | setDeadline (ms : Option Int) (rid : String)

namespace Session

def createSender (name : String) (track : Option String) (connected : Bool) (s : Session) :
    Started :=
  match Sender.create (s.trackNamed track) connected s.endpoint with
  | .error e => .finished (.created (.error e)) s
  | .ok (a, endpoint) =>
    .finished (.created (.ok a))
      { s with
        endpoint
        roster := s.roster.addSender a
        directory :=
          { s.directory with senders := (name, s.roster.senders.size) :: s.directory.senders } }

def startParameters (codings : Option (List Coding)) (extensions : Option (List HeaderExtension))
    (a : Sender) (w : Endpoint) : SendParameters :=
  let p := a.parameters w
  { media := { p.media with headerExtensions := extensions.getD p.media.headerExtensions }
    codings := codings.getD p.codings }

def toSender (k : SenderKey) (s : Session) : SenderCommand → Started
  | .create .. => .refused
  | .extend track => s.apply k (Sender.extend (s.trackNamed track))
  | .swapTrack track => s.apply k (Sender.swapTrack (s.trackNamed track))
  | .start codings extensions =>
    s.apply k fun a w => a.start (startParameters codings extensions a w) w
  | .stop => s.apply k Sender.stop
  | .awaitSending => .waiting ((Sender.awaitSending k).map .outcome)
  | .parameters => .finished (.parameters ((s.sender k).parameters s.endpoint)) s
  | .state => .finished (.state (s.sender k)) s
  | .summary => .finished (.text (s.sender k).summary) s
  | .setNegotiated => .finished .nothing (s.setSender k { s.sender k with negotiated := true })
  | .setTransceiver name =>
    .finished .nothing
      (s.setSender k { s.sender k with transceiver := s.directory.transceivers.lookup name })
  | .read feed size => .waiting ((Sender.read k feed size).map .data)
  | .readPackets feed =>
    .waiting ((Sender.readPackets k feed s.endpoint.settings.receiveSize).map .packets)
  | .setBaseDeadline ms =>
    .finished (.outcome (.ok ())) (s.mapEndpoint ((s.sender k).setBaseDeadline (s.moment ms)))
  | .setDeadline ms rid =>
    match (s.sender k).setDeadline (s.moment ms) rid s.endpoint with
    | .ok endpoint => .finished (.outcome (.ok ())) { s with endpoint }
    | .error e => .finished (.outcome (.error e)) s

def senderCommand (name : String) (c : SenderCommand) (s : Session) : Started :=
  match c with
  | .create track connected => s.createSender name track connected
  | c => withNamed s.directory.senders name fun k => s.toSender k c

end Session

end MediaSender

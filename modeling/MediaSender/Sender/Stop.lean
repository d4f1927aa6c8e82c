import MediaSender.Sender.Swap
/-!
Stopping a sender. The first stop unbinds the tracks; a track that cannot be unbound ends it there.
Otherwise every stream that was bound is released and closed, and all failed closes are reported
together.
-/

namespace MediaSender.Sender

structure Released where
  endpoint : Endpoint
  failures : List Failure

def closeText (id : String) (ssrc : Ssrc) (f : Failure) : String :=
  "sender " ++ id ++ " failed to close stream " ++ toString ssrc.toNat ++ ": " ++ f.message

def release (id : String) (b : BoundStream) (w : Endpoint) : Released :=
  let w₁ := w.releaseStream b.description
  match w₁.closeFailure b.stream with
  | none => ⟨w₁.closeStream b.stream, []⟩
  | some f =>
    ⟨(w₁.closeStream b.stream).log .debug (closeText id (w.ssrcOf b.stream) f), [f]⟩

def releaseAll (id : String) : List BoundStream → Endpoint → Released
  | [], w => ⟨w, []⟩
  | b :: bs, w =>
    let first := release id b w
    let rest := releaseAll id bs first.endpoint
    ⟨rest.endpoint, first.failures ++ rest.failures⟩

def teardown (s : Sender) (w : Endpoint) : Result :=
  let r := s.exchange none w
  match r.outcome with
  | .error _ => r
  | .ok () =>
    let d := releaseAll s.id (r.sender.encodings.flatMap (·.boundStreams)) r.endpoint
    ⟨r.sender, d.endpoint, Failure.flatten d.failures⟩

def stop (s : Sender) (w : Endpoint) : Result :=
  if s.lifecycle.canStop then
    let s' := { s with lifecycle := s.lifecycle.stop }
    let w' := w.log .trace ("sender " ++ s.id ++ " stopped")
    if s'.encodings.any (·.bound) then s'.teardown w' else ⟨s', w', .ok ()⟩
  else ⟨s, w, .ok ()⟩

end MediaSender.Sender

import MediaSender.Proofs.Run.Steady
import MediaSender.Proofs.Stream.ClosedStream
/-!
No datagram is lost, and none is read twice. A read that ends with data takes the datagram that has
waited longest for the SSRC of its stream, in the very poll that ends it; a read that waits on, or
fails, or is cancelled takes none.
-/

namespace MediaSender

open Endpoint

/-- A read of a stream that is over: the SSRC of the stream, the size of the buffer, and what came
of the read. -/
structure ReadEnd where
  ssrc : Ssrc
  size : Nat
  result : Outcome Bytes

def ReadEnd.got? (c : Ssrc) (e : ReadEnd) : Option (Nat × Bytes) :=
  if e.ssrc = c then e.result.toOption.map (e.size, ·) else none

def Request.readEnds (w : Endpoint) : (r : Request) → r.Answer → List ReadEnd
  | .read s size, result => [⟨w.ssrcOf s, size, result⟩]
  | _, _ => []

def Task.readEnds {α : Type} (roster : Roster) (b : Pace) (t : Ticket) :
    Task α → Progress → Endpoint → List ReadEnd
  | .done _, _, _ => []
  | .ask r next, p, w =>
    match r.attempt roster b t p w with
    | .ready a w' => r.readEnds w a ++ (next a).readEnds roster b t .fresh w'
    | .blocked .. => []

/-- Of what waits for an SSRC and what is pushed for it, the reads get the first datagrams, in their
order and as far as they fit the buffers, and the others wait. -/
def Dealt (c : Ssrc) (pushed : List Bytes) (ends : List ReadEnd) (w w' : Endpoint) : Prop :=
  ∃ taken, w.transport.queue c ++ pushed = taken ++ w'.transport.queue c ∧
    List.Forall₂ (fun datagram got => got.2 = datagram.take got.1) taken
      (ends.filterMap (·.got? c))

section

variable {c : Ssrc} {pushed pushed' : List Bytes} {ends ends' : List ReadEnd}
  {w w' w₁ w₂ : Endpoint} {s : StreamId} {size : Nat}

theorem dealt_of_queue (queue : w'.transport.queue c = w.transport.queue c ++ pushed) :
    Dealt c pushed [] w w' := ⟨[], queue.symm, .nil⟩

theorem Dealt.trans (h : Dealt c pushed ends w w₁) (h' : Dealt c pushed' ends' w₁ w₂) :
    Dealt c (pushed ++ pushed') (ends ++ ends') w w₂ := by
  obtain ⟨taken, queue, got⟩ := h
  obtain ⟨taken', queue', got'⟩ := h'
  refine ⟨taken ++ taken', ?_, ?_⟩
  · rw [← List.append_assoc, queue, List.append_assoc, queue', List.append_assoc]
  · rw [List.filterMap_append]
    exact List.rel_append got got'

theorem Dealt.queue (h : Dealt c pushed ends w w') (none : ∀ e ∈ ends, e.got? c = none) :
    w'.transport.queue c = w.transport.queue c ++ pushed := by
  obtain ⟨taken, queue, got⟩ := h
  rw [List.filterMap_eq_nil_iff.mpr none, List.forall₂_nil_right_iff] at got
  rw [queue, got, List.nil_append]

inductive Fetched (s : StreamId) (size : Nat) (w : Endpoint) : Attempt (Outcome Bytes) → Prop
  | got {datagram : Bytes} {rest : List Bytes} {w' : Endpoint}
      (before : w.transport.queue (w.ssrcOf s) = datagram :: rest)
      (after : w'.transport.queue = (w.transport.pop (w.ssrcOf s)).queue) :
      Fetched s size w (.ready (.ok (datagram.take size)) w')
  | failed (e : Failure) {w' : Endpoint} (same : w'.transport.queue = w.transport.queue) :
      Fetched s size w (.ready (.error e) w')
  | waits (p : Progress) {w' : Endpoint} (same : w'.transport.queue = w.transport.queue) :
      Fetched s size w (.blocked p w')

theorem fetched_receive? (b : Pace) (h : SameData w w₁) :
    Fetched s size w (w₁.receive? b s size) := by
  dsimp only [receive?]
  split
  · exact .failed _ h.queue
  · split
    · exact .failed _ h.queue
    · rename_i datagram rest _ queue
      rw [h.queue, h.ssrc] at queue
      refine .got queue ?_
      change (w₁.transport.pop (w₁.ssrcOf s)).queue = _
      simp only [Transport.pop, Transport.setQueue, h.queue, h.ssrc]
    · split
      · exact .failed _ h.queue
      · exact .waits _ h.queue

theorem fetched_read (b : Pace) (t : Ticket) (s : StreamId) (size : Nat) (p : Progress)
    (w : Endpoint) : Fetched s size w (w.read b t s size p) := by
  have ho : Fetched s size w ((w.obtain b t s p).bind fun _ w' => w'.receive? b s size) := by
    have hdata := (patient_obtain b t s p w).data
    generalize w.obtain b t s p = a at hdata
    cases a with
    | ready r w' =>
      cases r with
      | ok x => exact fetched_receive? b hdata
      | error e => exact .failed e hdata.queue
    | blocked p' w' => exact .waits p' hdata.queue
  have hr : Fetched s size w (w.readWithoutDeadline b t s size p) := by
    rcases readWithoutDeadline_cases b t s size p w with ⟨-, h⟩ | h
    · exact h ▸ fetched_receive? b (.refl w)
    · exact h ▸ ho
  dsimp only [Endpoint.read]
  generalize w.readWithoutDeadline b t s size p = a at hr
  cases hr with
  | got before after => exact .got before after
  | failed e same => exact .failed e same
  | waits p' same =>
    dsimp only
    split
    · exact .failed _ same
    · exact .waits _ same

theorem queue_write (b : Pace) (t : Ticket) (s : StreamId) (packet : Packet) (p : Progress)
    (w : Endpoint) : (w.write b t s packet p).endpoint.transport.queue = w.transport.queue := by
  have hdata := (patient_obtain b t s p w).data
  rw [Endpoint.write]
  generalize w.obtain b t s p = a at hdata
  cases a with
  | ready r w' =>
    cases r with
    | ok x =>
      obtain ⟨r, hr⟩ := endpoint_send s packet w'
      rw [Attempt.bind, hr]
      exact hdata.queue
    | error e => exact hdata.queue
  | blocked p' w' => exact hdata.queue

theorem queue_await {α : Type} (x : Option α) (w : Endpoint) :
    (w.await x).endpoint.transport.queue = w.transport.queue := by
  cases x <;> rfl

def Attempt.Deals {α : Type} (c : Ssrc) (ends : α → List ReadEnd) (w : Endpoint) : Attempt α → Prop
  | .ready a w' => Dealt c [] (ends a) w w'
  | .blocked _ w' => w'.transport.queue = w.transport.queue

theorem Attempt.deals_of_queue {α : Type} {a : Attempt α} (c : Ssrc) {ends : α → List ReadEnd}
    (none : ∀ x, ends x = []) (queue : a.endpoint.transport.queue = w.transport.queue) :
    a.Deals c ends w := by
  cases a with
  | ready x w' =>
    rw [Attempt.Deals, none x]
    exact dealt_of_queue ((congrFun queue c).trans (List.append_nil _).symm)
  | blocked p w' => exact queue

theorem Fetched.deals {a : Attempt (Outcome Bytes)} (h : Fetched s size w a) (c : Ssrc) :
    a.Deals c (fun r => [⟨w.ssrcOf s, size, r⟩]) w := by
  cases h with
  | @got datagram rest _ before after =>
    by_cases hc : w.ssrcOf s = c
    · subst hc
      refine ⟨[datagram], ?_, ?_⟩
      · simp [after, Transport.pop, Transport.setQueue, before]
      · simp [ReadEnd.got?, Except.toOption]
    · refine ⟨[], ?_, ?_⟩
      · simp [after, Transport.pop, Transport.setQueue, Ne.symm hc]
      · simp [ReadEnd.got?, hc]
  | failed e same =>
    refine ⟨[], by rw [same, List.append_nil, List.nil_append], ?_⟩
    simp [ReadEnd.got?, Except.toOption]
  | waits p same => exact same

theorem Request.deals_attempt (c : Ssrc) (roster : Roster) (b : Pace) (t : Ticket) (r : Request)
    (p : Progress) (w : Endpoint) : (r.attempt roster b t p w).Deals c (r.readEnds w) w := by
  cases r with
  | sending l => exact Attempt.deals_of_queue c (fun _ => rfl) (queue_await _ w)
  | gate g => exact Attempt.deals_of_queue c (fun _ => rfl) (queue_await _ w)
  | reader k feed =>
    exact Attempt.deals_of_queue c (fun _ => rfl) (by rw [Request.endpoint_reader])
  | bindings track => exact Attempt.deals_of_queue c (fun _ => rfl) rfl
  | report report => exact Attempt.deals_of_queue c (fun _ => rfl) rfl
  | write s packet => exact Attempt.deals_of_queue c (fun _ => rfl) (queue_write b t s packet p w)
  | read s size =>
    have hf := fetched_read b t s size p w
    change (w.read b t s size p).Deals c _ w
    generalize w.read b t s size p = a at hf
    exact hf.deals c

theorem Task.dealt_poll {α : Type} (c : Ssrc) (roster : Roster) (b : Pace) (t : Ticket)
    (task : Task α) (p : Progress) (w : Endpoint) :
    Dealt c [] (task.readEnds roster b t p w) w (task.poll roster b t p w).endpoint := by
  induction task generalizing p w with
  | done a => exact dealt_of_queue (List.append_nil _).symm
  | ask r next ih =>
    have hr := r.deals_attempt c roster b t p w
    rw [Task.poll, Task.readEnds]
    generalize r.attempt roster b t p w = x at hr
    cases x with
    | ready a w' => exact Dealt.trans hr (ih a .fresh w')
    | blocked p' w' => exact dealt_of_queue ((congrFun hr c).trans (List.append_nil _).symm)

end

def Task.readOnce (s : StreamId) (size : Nat) (reply : Outcome Bytes → Reply) : Task Reply :=
  .ask (.read s size) fun r => .done (reply r)

def StreamCommand.reading? : StreamCommand → Option (Nat × (Outcome Bytes → Reply))
  | read size => some (size, .bytes)
  | readWith size attributes => some (size, fun r => .data (r.map fun data => (data, attributes)))
  | _ => none

def Move.pushes (c : Ssrc) : Move → List Bytes
  | .issue (.world (.push ssrc datagram)) => if ssrc = c then [datagram] else []
  | _ => []

namespace Session

variable {σ : Session} {c : Ssrc} {m : Move}

def Brings (σ : Session) (c : Ssrc) (pushed : List Bytes) : Started → Prop
  | .finished _ σ' => σ'.endpoint.transport.queue c = σ.endpoint.transport.queue c ++ pushed
  | _ => pushed = []

theorem brings_nothing {r : Reply} {σ' : Session}
    (same : σ'.endpoint.transport.queue = σ.endpoint.transport.queue) :
    Brings σ c [] (.finished r σ') := (congrFun same c).trans (List.append_nil _).symm

theorem brings_named {α : Type} {names : Names α} {name : String} {f : α → Started}
    (h : ∀ a, Brings σ c [] (f a)) : Brings σ c [] (withNamed names name f) := by
  simp only [withNamed]
  split
  · exact h _
  · exact rfl

theorem brings_worldCommand (σ : Session) (c : Ssrc) (x : WorldCommand) :
    Brings σ c (Move.pushes c (.issue (.world x))) (σ.worldCommand x) := by
  cases x with
  | push ssrc datagram =>
    change (σ.endpoint.transport.push ssrc datagram).queue c = _ ++ if ssrc = c then _ else _
    simp only [Transport.push, Transport.setQueue]
    by_cases hc : ssrc = c
    · rw [if_pos hc.symm, if_pos hc, hc]
    · rw [if_neg (Ne.symm hc), if_neg hc, List.append_nil]
  | trap stream => exact brings_named fun _ => brings_nothing rfl
  | cancel step =>
    change Brings σ c [] (σ.cancel step)
    simp only [cancel]
    split
    · exact brings_nothing rfl
    · refine brings_nothing ?_
      simp only [Call.drop]
      split <;> rfl
  | createTransceiver name codecs =>
    refine brings_nothing ?_
    simp only [createTransceiver, forgetTransceiver]
    split <;> rfl
  | dropTransceiver name =>
    refine brings_nothing ?_
    simp only [forgetTransceiver]
    split <;> rfl
  | _ => exact brings_nothing rfl

theorem steady_queue :
    Sender.Steady fun w w' => w'.transport.queue = w.transport.queue where
  refl _ := rfl
  trans h h' := h'.trans h
  emitAll _ _ := rfl
  drawSsrc w := by
    simp only [drawSsrc]
    split <;> rfl
  addStream _ _ _ := rfl
  addGate _ := rfl
  resolve g x w := congrArg (·.queue) (transport_resolve g x w)
  bindTrack _ _ _ := rfl
  unbindTrack _ _ _ := rfl
  closeStream s w := ((tends_sameData s).closeStream w).queue

section

variable (σ : Session) (c : Ssrc)

theorem brings_createSender (name : String) (track : Option String) (connected : Bool) :
    Brings σ c [] (σ.createSender name track connected) := by
  simp only [createSender]
  split
  · exact brings_nothing rfl
  · rename_i a w heq
    obtain ⟨t, -, hadd⟩ := Sender.create_of_ok heq
    obtain ⟨rfl, rfl⟩ := Prod.mk.inj hadd
    exact brings_nothing (steady_queue.withEncoding _ t σ.endpoint.drawId)

theorem brings_toSender (k : SenderKey) (x : SenderCommand) :
    Brings σ c [] (σ.toSender k x) := by
  have acted : ∀ y : Sender.Action,
      ((σ.sender k).act y σ.endpoint).endpoint.transport.queue = σ.endpoint.transport.queue :=
    fun y => steady_queue.act y _ _
  cases x with
  | extend track => exact brings_nothing (acted (.extend (σ.trackNamed track)))
  | swapTrack track => exact brings_nothing (acted (.swapTrack (σ.trackNamed track)))
  | start codings extensions =>
    exact brings_nothing
      (acted (.start (startParameters codings extensions (σ.sender k) σ.endpoint)))
  | stop => exact brings_nothing (acted .stop)
  | create track connected => exact rfl
  | awaitSending => exact rfl
  | read feed size => exact rfl
  | readPackets feed => exact rfl
  | setBaseDeadline ms =>
    refine brings_nothing ?_
    simp only [mapEndpoint, Sender.setBaseDeadline]
    split <;> rfl
  | setDeadline ms rid =>
    dsimp only [toSender, Sender.setDeadline]
    split
    · rename_i w hw
      split at hw <;> cases hw
      exact brings_nothing rfl
    · exact brings_nothing rfl
  | _ => exact brings_nothing rfl

theorem brings_withContext (t : Track) (index : Nat) {f : Context → Started}
    (h : ∀ x, Brings σ c [] (f x)) : Brings σ c [] (σ.withContext t index f) := by
  simp only [withContext]
  split
  · exact rfl
  · split
    · exact h _
    · exact rfl

theorem brings_trackCommand (name : String) (x : TrackCommand) :
    Brings σ c [] (σ.trackCommand name x) := by
  refine brings_named fun t => ?_
  cases x with
  | info => exact brings_nothing rfl
  | bind context => exact brings_named fun _ => brings_nothing rfl
  | unbind context => exact brings_named fun _ => brings_nothing rfl
  | bindingCount =>
    dsimp only [toTrack]
    split
    · exact brings_nothing rfl
    · exact rfl
  | write packet attributes index =>
    dsimp only [toTrack, writeTrack]
    split
    · exact rfl
    · refine brings_withContext σ c t index fun y => ?_
      split
      · exact rfl
      · exact brings_nothing rfl
  | read size attributes index =>
    refine brings_withContext σ c t index fun y => ?_
    split
    · exact rfl
    · exact brings_nothing rfl

theorem brings_streamCommand (name : String) (x : StreamCommand) :
    Brings σ c [] (σ.streamCommand name x) := by
  cases x with
  | create ssrc => exact brings_nothing rfl
  | close => exact brings_named fun i => brings_nothing ((tends_sameData i).closeStream _).queue
  | write packet attributes => exact brings_named fun _ => rfl
  | read size => exact brings_named fun _ => rfl
  | readWith size attributes => exact brings_named fun _ => rfl
  | _ => exact brings_named fun _ => brings_nothing rfl

theorem brings_gateCommand (name : String) (x : GateCommand) :
    Brings σ c [] (σ.gateCommand name x) := by
  have resolved : ∀ g y, Brings σ c [] (σ.resolveGate g y) := fun g y =>
    brings_nothing (steady_queue.resolve g y σ.endpoint)
  cases x with
  | create => exact brings_nothing rfl
  | resolveStream stream => exact brings_named fun g => brings_named fun _ => resolved g _
  | resolveSink sink failure => exact brings_named fun g => resolved g _
  | isResolved => exact brings_named fun _ => brings_nothing rfl
  | write packet attributes => exact brings_named fun _ => rfl

theorem brings_start (x : Command) : Brings σ c (Move.pushes c (.issue x)) (σ.start x) := by
  cases x with
  | world y => exact brings_worldCommand σ c y
  | sender name y =>
    cases y with
    | create track connected => exact brings_createSender σ c name track connected
    | _ => exact brings_named fun k => brings_toSender σ c k _
  | track name y => exact brings_trackCommand σ c name y
  | context name y =>
    cases y with
    | create => exact brings_nothing rfl
    | info => exact brings_named fun _ => brings_nothing rfl
  | gate name y => exact brings_gateCommand σ c name y
  | stream name y => exact brings_streamCommand σ c name y
  | lifecycle name y =>
    cases y with
    | create => exact brings_nothing rfl
    | awaitSending => exact brings_named fun _ => rfl
    | _ => exact brings_named fun _ => brings_nothing rfl
  | chain y =>
    cases y with
    | read name size attributes => exact brings_named fun _ => rfl
    | write name packet attributes => exact brings_named fun _ => rfl
    | _ => exact brings_nothing rfl
  | unknown => exact rfl

end

def polled? (m : Move) (σ : Session) : Option (Call Reply) :=
  match m with
  | .issue x =>
    match σ.start x with
    | .waiting task => some ⟨σ.steps, task, .fresh⟩
    | _ => none
  | .poll t => σ.call? t
  | .inject n packet =>
    σ.endpoint.handed[n]?.map fun (s, _) =>
      ⟨σ.steps, ((Writer.stream s).write (packet, [])).map .count, .fresh⟩
  | .turnTo _ => none

theorem act_polled {d : Call Reply} (h : σ.polled? m = some d) :
    (σ.act m).2 = (σ.pollOf d).result ∧ (σ.act m).1.endpoint = (σ.pollOf d).endpoint := by
  cases m with
  | issue x =>
    simp only [polled?] at h
    split at h
    · rename_i hstart
      cases h
      exact act_start hstart
    · cases h
  | poll t => exact act_poll h
  | inject n packet =>
    obtain ⟨⟨s, description⟩, hhanded, rfl⟩ := Option.map_eq_some_iff.mp h
    simp only [Session.act, inject, hhanded, turn, pollOf]
    cases Task.poll σ.roster σ.pace σ.steps _ .fresh σ.endpoint <;> exact ⟨rfl, rfl⟩
  | turnTo b => cases h

theorem pushes_of_polled (c : Ssrc) (h : (σ.polled? m).isSome) : m.pushes c = [] := by
  cases m with
  | issue x =>
    have hbrings := brings_start σ c x
    simp only [polled?] at h
    generalize σ.start x = y at h hbrings
    cases y with
    | waiting task => exact hbrings
    | _ => cases h
  | _ => rfl

theorem queue_of_not_polled (c : Ssrc) (h : σ.polled? m = none) :
    (σ.act m).1.endpoint.transport.queue c = σ.endpoint.transport.queue c ++ m.pushes c := by
  have same : m.pushes c = [] → (σ.act m).1.endpoint.transport.queue = σ.endpoint.transport.queue →
      (σ.act m).1.endpoint.transport.queue c = σ.endpoint.transport.queue c ++ m.pushes c :=
    fun pushes queue => by rw [pushes, queue, List.append_nil]
  cases m with
  | issue x =>
    have hbrings := brings_start σ c x
    simp only [polled?] at h
    simp only [Session.act, issue] at same ⊢
    generalize σ.start x = y at h hbrings same
    cases y with
    | refused => exact same hbrings rfl
    | finished r σ' => exact hbrings
    | waiting task => cases h
  | poll t =>
    refine same rfl ?_
    change σ.calls.find? _ = none at h
    simp only [Session.act, pollCall, h]
  | inject n packet =>
    refine same rfl ?_
    simp only [Session.act, inject, Option.map_eq_none_iff.mp h]
  | turnTo b => exact same rfl rfl

def Turn.readEnds (x : Turn) : List ReadEnd :=
  match x.before.polled? x.move with
  | some d => d.task.readEnds x.before.roster x.before.pace d.ticket d.progress x.before.endpoint
  | none => []

theorem dealt_act (c : Ssrc) (m : Move) (σ : Session) :
    Dealt c (m.pushes c) (Turn.readEnds ⟨σ, m⟩) σ.endpoint (σ.act m).1.endpoint := by
  simp only [Turn.readEnds]
  cases h : σ.polled? m with
  | some d =>
    rw [(act_polled h).2, pushes_of_polled c (Option.isSome_of_eq_some h)]
    exact d.task.dealt_poll c σ.roster σ.pace d.ticket d.progress σ.endpoint
  | none => exact dealt_of_queue (queue_of_not_polled c h)

theorem dealt_after (c : Ssrc) (ms : List Move) (σ : Session) :
    Dealt c (ms.flatMap (·.pushes c)) ((turns ms σ).flatMap Turn.readEnds) σ.endpoint
      (σ.after ms).endpoint := by
  induction ms generalizing σ with
  | nil => exact dealt_of_queue (List.append_nil _).symm
  | cons m ms ih => exact (dealt_act c m σ).trans (ih (σ.act m).1)

section

variable {s : StreamId} {size : Nat} {reply : Outcome Bytes → Reply} {x y : Turn}

theorem start_read_stream {x : StreamCommand} {name : String} (h : x.reading? = some (size, reply))
    (named : σ.directory.streams.lookup name = some s) :
    σ.start (.stream name x) = .waiting (.readOnce s size reply) := by
  cases x with
  | read n =>
    cases h
    rw [start_stream (by rintro _ ⟨⟩) named]
    refine congrArg (fun next => Started.waiting (.ask (.read s size) next)) (funext fun r => ?_)
    cases r <;> rfl
  | readWith n attributes =>
    cases h
    exact start_stream (by rintro _ ⟨⟩) named
  | _ => cases h

namespace Turn

def ReadsStream (s : StreamId) (size : Nat) (reply : Outcome Bytes → Reply) (x : Turn) : Prop :=
  ∃ name c, x.before.directory.streams.lookup name = some s ∧ x.move = .issue (.stream name c) ∧
    StreamCommand.reading? c = some (size, reply)

/-- A turn that serves a read: it leaves the read waiting, or ends it and nothing else. -/
inductive Reports (c : Ssrc) (size : Nat) (reply : Outcome Bytes → Reply) (y : Turn) : Prop
  | waits (result : y.result = .pending) (ends : y.readEnds = [])
  | ends (r : Outcome Bytes) (result : y.result = .answered (reply r))
      (ends : y.readEnds = [⟨c, size, r⟩])

end Turn

theorem reports_of_polled {d : Call Reply} (task : d.task = .readOnce s size reply)
    (h : y.before.polled? y.move = some d) :
    y.Reports (y.before.endpoint.ssrcOf s) size reply := by
  have hresult : y.result = _ := (act_polled h).1
  have hends : y.readEnds =
      d.task.readEnds y.before.roster y.before.pace d.ticket d.progress y.before.endpoint := by
    rw [Turn.readEnds, h]
  rw [pollOf, task] at hresult
  rw [task] at hends
  simp only [Task.readOnce, Task.poll, Task.readEnds, Request.attempt] at hresult hends
  cases ha : y.before.endpoint.read y.before.pace d.ticket s size d.progress with
  | ready r w =>
    rw [ha] at hresult hends
    exact .ends r hresult hends
  | blocked p w =>
    rw [ha] at hresult hends
    exact .waits hresult hends

theorem leaves_readOnce (h : σ.WellNumbered) (ms : List Move) (hx : x ∈ turns ms σ)
    (reads : x.ReadsStream s size reply) :
    Leaves (· = .readOnce s size reply) x.before.steps (σ.after ms) := by
  obtain ⟨name, c, named, hm, hc⟩ := reads
  refine leaves_task h ms hx ⟨_, _, hm, start_read_stream hc named, rfl⟩ ?_
  rintro _ roster b t p w task' p' w' rfl hp
  simp only [Task.readOnce, Task.poll] at hp
  split at hp <;> cases hp
  rfl

theorem ssrc_since (h : σ.Sound) (ms : List Move) (hx : x ∈ turns ms σ)
    (known : x.before.endpoint.Known s) :
    (σ.after ms).endpoint.ssrcOf s = x.before.endpoint.ssrcOf s := by
  have hkept : (σ.after ms).endpoint.Known s ∧
      (σ.after ms).endpoint.ssrcOf s = x.before.endpoint.ssrcOf s := by
    refine since_turn (P := fun _ τ => τ.endpoint.Known s ∧
      τ.endpoint.ssrcOf s = x.before.endpoint.ssrcOf s) ms hx ?_ ?_
    · rintro before m rfl
      have he := extends_act (h.after before) m
      exact ⟨he.known known, (he.grows s known).ssrc⟩
    · intro before m ⟨hk, hs⟩
      have he := extends_act (h.after before) m
      exact ⟨he.known hk, (he.grows s hk).ssrc.trans hs⟩
  exact hkept.2

theorem reports (h : σ.WellNumbered) (ms : List Move) (hy : y.before = σ.after ms)
    (hx : x ∈ turns ms σ ++ [y]) (reads : x.ReadsStream s size reply) (serves : y.Serves x) :
    y.Reports (x.before.endpoint.ssrcOf s) size reply := by
  obtain ⟨τ, m⟩ := y
  obtain rfl : τ = σ.after ms := hy
  rcases serves.made_or_polls hx with rfl | ⟨hmade, d, hpolls⟩
  · obtain ⟨name, c, named, hm, hc⟩ := reads
    obtain rfl : m = .issue (.stream name c) := hm
    have hpolled : (σ.after ms).polled? (.issue (.stream name c)) =
        some ⟨(σ.after ms).steps, .readOnce s size reply, .fresh⟩ := by
      simp only [polled?, start_read_stream hc named]
    exact reports_of_polled rfl hpolled
  · obtain ⟨hm, hd⟩ := hpolls
    obtain rfl : m = .poll x.before.steps := hm
    obtain ⟨hmem, hticket⟩ := mem_of_call hd
    have htask := (leaves_readOnce h ms hmade reads).task d hmem hticket
    obtain ⟨name, c, named, -⟩ := reads
    have hsound : x.before.Sound := (wellNumbered_turns h ms x hmade).sound
    have hknown : x.before.endpoint.Known s := hsound.free_known ⟨name, mem_of_lookup named⟩
    rw [← ssrc_since h.sound ms hmade hknown]
    exact reports_of_polled (y := ⟨σ.after ms, .poll x.before.steps⟩) htask hd

end

theorem not_polled_cancel (step : Nat) (σ : Session) :
    σ.polled? (.issue (.world (.cancel step))) = none := by
  simp only [polled?, Session.start, worldCommand, cancel]
  split
  · rename_i heq
    split at heq <;> cases heq
  · rfl

/-- What the reads of an SSRC get, in the order in which they end, is what was pushed for it first,
each datagram cut to the buffer of the one read that gets it; all else still waits. Reads that fail,
run out of time, wait on or are cancelled take nothing. The reads of a stream that calls make are
such reads, and report to their calls what came of them. -/
theorem datagrams_are_read_once (fresh : σ.Fresh) (ms : List Move) (c : Ssrc) :
    let τ := σ.after ms
    Dealt c (ms.flatMap (·.pushes c)) ((turns ms σ).flatMap Turn.readEnds) σ.endpoint τ.endpoint ∧
    (∀ x ∈ turns ms σ, (∀ e ∈ x.readEnds, e.got? c = none) →
      x.after.endpoint.transport.queue c = x.before.endpoint.transport.queue c ++ x.move.pushes c) ∧
    (∀ x ∈ turns ms σ, ∀ step, x.move = .issue (.world (.cancel step)) →
      x.readEnds = [] ∧
        x.after.endpoint.transport.queue c = x.before.endpoint.transport.queue c) ∧
    ∀ m x s size reply, x ∈ turns ms σ ++ [⟨τ, m⟩] → x.ReadsStream s size reply →
      Turn.Serves ⟨τ, m⟩ x →
        Turn.Reports (x.before.endpoint.ssrcOf s) size reply ⟨τ, m⟩ := by
  intro τ
  refine ⟨dealt_after c ms σ, fun x _ => (dealt_act c x.move x.before).queue, ?_, ?_⟩
  · rintro ⟨ρ, m⟩ - step rfl
    have hpolled := not_polled_cancel step ρ
    have hends : Turn.readEnds ⟨ρ, .issue (.world (.cancel step))⟩ = [] := by
      simp only [Turn.readEnds, hpolled]
    refine ⟨hends, (queue_of_not_polled c hpolled).trans ?_⟩
    exact List.append_nil _
  · intro m x s size reply hx reads serves
    exact reports fresh.numbered ms rfl hx reads serves

/-- Two streams have one SSRC. Of two reads that wait, one gets the datagram that comes first, and
the other runs out of time; a third one fails before a fourth one gets the second datagram. -/
def sharedFeedback : List Move :=
  [.issue (.stream "s" (.create 7)), .issue (.stream "t" (.create 7)),
    .issue (.stream "t" (.setDeadline (some 5))), .issue (.stream "s" (.read 2)),
    .issue (.stream "t" (.read 4)), .issue (.world (.push 7 [1, 2, 3])), .poll 3,
    .issue (.world (.advance 10)), .poll 4, .issue (.world (.push 7 [4])),
    .issue (.world (.fail 7 .read (some (.other "lost")))), .issue (.stream "s" (.read 8)),
    .issue (.world (.fail 7 .read none)), .issue (.world (.push 7 [5])),
    .issue (.stream "t" (.readWith 8 []))]

def emptySession : Session := {}

def lateRead : Turn := ⟨emptySession.after (sharedFeedback.take 8), .poll 4⟩

theorem shared_feedback_read_once :
    emptySession.Fresh ∧
      Dealt 7 (sharedFeedback.flatMap (·.pushes 7))
        ((turns sharedFeedback emptySession).flatMap Turn.readEnds) emptySession.endpoint
        (emptySession.after sharedFeedback).endpoint ∧
      ((turns sharedFeedback emptySession).flatMap Turn.readEnds).filterMap (·.got? 7) =
        [(2, [1, 2]), (8, [4])] ∧
      (emptySession.after sharedFeedback).endpoint.transport.queue 7 = [[5]] ∧
      lateRead.Reports 7 4 .bytes ∧ lateRead.result = .answered (.bytes (.error .timeout)) := by
  have fresh : emptySession.Fresh := ⟨rfl, rfl, rfl, rfl, rfl, rfl, rfl, rfl⟩
  obtain ⟨dealt, -⟩ := datagrams_are_read_once fresh sharedFeedback 7
  obtain ⟨-, -, -, reported⟩ := datagrams_are_read_once fresh (sharedFeedback.take 8) 7
  refine ⟨fresh, dealt, by decide +kernel, rfl, ?_, rfl⟩
  exact reported (.poll 4)
    ⟨emptySession.after (sharedFeedback.take 4), .issue (.stream "t" (.read 4))⟩ 1 4 .bytes
    (List.mem_of_getElem? (i := 4) rfl) ⟨"t", _, rfl, rfl, rfl⟩ (.inr ⟨_, rfl, rfl⟩)

end Session

end MediaSender

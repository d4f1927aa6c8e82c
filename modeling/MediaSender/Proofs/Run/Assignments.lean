import MediaSender.Proofs.Sender.Tuning
/-!
Gates and read deadlines. A gate that is there, and the read deadline of a stream that is known, are
set by the commands that are for it and by nothing else: calls leave them alone, and so do senders,
which only add gates and streams of their own.
-/

namespace MediaSender

namespace Endpoint

variable {w w' w₁ w₂ w₃ : Endpoint} {s : StreamId}

structure KeepsDeadlines (w w' : Endpoint) : Prop where
  size : w.streams.size ≤ w'.streams.size
  deadline : ∀ s, w.Known s → (w'.stream s).deadline = (w.stream s).deadline

theorem keepsDeadlines_of_streams (h : w'.streams = w.streams) : KeepsDeadlines w w' :=
  ⟨Nat.le_of_eq (by rw [h]), fun s _ => by rw [stream, stream, h]⟩

theorem KeepsDeadlines.refl (w : Endpoint) : KeepsDeadlines w w := keepsDeadlines_of_streams rfl

theorem KeepsDeadlines.trans (h : KeepsDeadlines w₁ w₂) (h' : KeepsDeadlines w₂ w₃) :
    KeepsDeadlines w₁ w₃ where
  size := Nat.le_trans h.size h'.size
  deadline s hs := (h'.deadline s (Nat.lt_of_lt_of_le hs h.size)).trans (h.deadline s hs)

theorem keepsDeadlines_updateStream (s : StreamId) {f : LazyStream → LazyStream}
    (hf : ∀ st, (f st).deadline = st.deadline) (w : Endpoint) :
    KeepsDeadlines w (w.updateStream s f) := by
  refine ⟨Nat.le_refl _, fun s' _ => ?_⟩
  rw [stream_updateStream]
  split
  · exact hf _
  · rfl

theorem deadline_closing (st : LazyStream) : (closing st).deadline = st.deadline := by
  simp only [closing]
  split
  · rfl
  · split <;> rfl

theorem keepsDeadlines_addStream (ssrc : Ssrc) (deadline : Option Instant) (w : Endpoint) :
    KeepsDeadlines w (w.addStream ssrc deadline) :=
  ⟨Nat.le_succ _, fun s hs => by rw [stream_addStream_ne ssrc deadline w (Nat.ne_of_lt hs)]⟩

theorem keepsDeadlines_closeStream (s : StreamId) (w : Endpoint) :
    KeepsDeadlines w (w.closeStream s) := by
  refine ⟨Nat.le_of_eq (size_closeStream s w).symm, fun s' _ => ?_⟩
  rw [stream_closeStream]
  split
  · exact deadline_closing _
  · rfl

structure KeepsGates (w w' : Endpoint) : Prop where
  size : w.gates.size ≤ w'.gates.size
  gate : ∀ g, g < w.gates.size → w'.gate g = w.gate g

theorem keepsGates_of_gates (h : w'.gates = w.gates) : KeepsGates w w' :=
  ⟨Nat.le_of_eq (by rw [h]), fun g _ => by rw [gate, gate, h]⟩

theorem KeepsGates.refl (w : Endpoint) : KeepsGates w w := keepsGates_of_gates rfl

theorem KeepsGates.trans (h : KeepsGates w₁ w₂) (h' : KeepsGates w₂ w₃) : KeepsGates w₁ w₃ where
  size := Nat.le_trans h.size h'.size
  gate g hg := (h'.gate g (Nat.lt_of_lt_of_le hg h.size)).trans (h.gate g hg)

theorem upkeep_keepsDeadlines (s : StreamId) : Upkeep s KeepsDeadlines :=
  upkeep_of_tends
    (fun s =>
      { refl := .refl
        trans := .trans
        emit := fun _ _ => keepsDeadlines_of_streams rfl
        updateStream := fun _ hf => keepsDeadlines_updateStream s hf })
    (fun _ => keepsDeadlines_of_streams rfl) s

theorem keepsDeadlines_bind {α β : Type} {a : Attempt (Outcome α)}
    {f : α → Endpoint → Attempt (Outcome β)} (h : KeepsDeadlines w a.endpoint)
    (hf : ∀ x w', KeepsDeadlines w' (f x w').endpoint) :
    KeepsDeadlines w (a.bind f).endpoint := by
  cases a with
  | ready r w' =>
    cases r with
    | ok x => exact h.trans (hf x w')
    | error e => exact h
  | blocked p w' => exact h

theorem keepsDeadlines_receive? (b : Pace) (s : StreamId) (size : Nat) (w : Endpoint) :
    KeepsDeadlines w (w.receive? b s size).endpoint := by
  dsimp only [receive?]
  split
  · exact .refl w
  · split
    · exact .refl w
    · exact keepsDeadlines_of_streams rfl
    · split <;> exact .refl w

theorem keepsDeadlines_read (b : Pace) (t : Ticket) (s : StreamId) (size : Nat) (p : Progress)
    (w : Endpoint) : KeepsDeadlines w (w.read b t s size p).endpoint := by
  have hobtain : KeepsDeadlines w
      ((w.obtain b t s p).bind fun _ w' => w'.receive? b s size).endpoint :=
    keepsDeadlines_bind ((upkeep_keepsDeadlines s).obtain b t p w) fun _ w' =>
      keepsDeadlines_receive? b s size w'
  have hread : KeepsDeadlines w (w.readWithoutDeadline b t s size p).endpoint := by
    rcases readWithoutDeadline_cases b t s size p w with ⟨-, h⟩ | h
    · exact h ▸ keepsDeadlines_receive? b s size w
    · exact h ▸ hobtain
  dsimp only [read]
  split
  · rename_i heq
    rwa [heq] at hread
  · rename_i heq
    rw [heq] at hread
    split
    · exact hread.trans ((upkeep_keepsDeadlines s).releaseClaim t _)
    · exact hread

theorem keepsDeadlines_write (b : Pace) (t : Ticket) (s : StreamId) (packet : Packet) (p : Progress)
    (w : Endpoint) : KeepsDeadlines w (w.write b t s packet p).endpoint := by
  refine keepsDeadlines_bind ((upkeep_keepsDeadlines s).obtain b t p w) fun _ w' => ?_
  obtain ⟨r, hr⟩ := endpoint_send s packet w'
  rw [hr]
  exact keepsDeadlines_of_streams rfl

end Endpoint

open Endpoint

theorem Task.keepsDeadlines_poll {α : Type} (roster : Roster) (b : Pace) (t : Ticket)
    (task : Task α) (p : Progress) (w : Endpoint) :
    KeepsDeadlines w (task.poll roster b t p w).endpoint :=
  task.related_poll .refl .trans
    (Request.related_attempt .refl (keepsDeadlines_read b t) (keepsDeadlines_write b t)
      fun _ _ => keepsDeadlines_of_streams rfl) p w

namespace Sender

variable {a : Sender} {w : Endpoint}

theorem steady_keepsDeadlines : Steady KeepsDeadlines where
  refl := .refl
  trans := .trans
  emitAll _ _ := keepsDeadlines_of_streams rfl
  drawSsrc w := by
    simp only [drawSsrc]
    split <;> exact keepsDeadlines_of_streams rfl
  addStream := keepsDeadlines_addStream
  addGate _ := keepsDeadlines_of_streams rfl
  resolve g x w := keepsDeadlines_of_streams (streams_resolve g x w)
  bindTrack _ _ _ := keepsDeadlines_of_streams rfl
  unbindTrack _ _ _ := keepsDeadlines_of_streams rfl
  closeStream := keepsDeadlines_closeStream

theorem gates_detach (e : Encoding) (w : Endpoint) : (e.detach w).gates = w.gates := by
  simp only [Encoding.detach]
  split <;> rfl

theorem gates_detachAll (track : Option Track) (es : List Encoding) (w : Endpoint) :
    (detachAll track es w).endpoint.gates = w.gates := by
  induction es generalizing w with
  | nil => rfl
  | cons e es ih =>
    dsimp only [detachAll]
    split
    · exact gates_detach e w
    · exact (ih _).trans (gates_detach e w)

theorem gates_attach (a : Sender) (t : Track) (e : Encoding) (w : Endpoint) :
    (attach a t e w).endpoint.gates = w.gates := by
  dsimp only [attach]
  split
  · simp only [restore]
    split
    · rfl
    · split <;> rfl
  · rfl

theorem gates_exchange (track : Option Track) (a : Sender) (w : Endpoint) :
    (a.exchange track w).endpoint.gates = w.gates := by
  have hd := gates_detachAll track a.encodings w
  dsimp only [exchange]
  split
  · rfl
  · split
    · exact hd
    · simp only [attachBase]
      split
      · split
        · exact (gates_attach a _ _ _).trans hd
        · exact hd
      · exact hd

theorem gates_releaseAll (id : String) (bs : List BoundStream) (w : Endpoint) :
    (releaseAll id bs w).endpoint.gates = w.gates := by
  induction bs generalizing w with
  | nil => rfl
  | cons b bs ih => exact (ih _).trans (gates_release id b w)

theorem gates_stop (a : Sender) (w : Endpoint) : (a.stop w).endpoint.gates = w.gates := by
  by_cases hs : a.lifecycle.canStop
  · by_cases hb : ∃ e ∈ a.encodings, e.bound
    · have hd := gates_detachAll none a.encodings
        (w.log .trace ("sender " ++ a.id ++ " stopped"))
      rw [stop_eq w hs hb, teardown_eq]
      dsimp only
      split
      · exact (gates_releaseAll _ _ _).trans hd
      · exact hd
    · rw [stop_of_not_bound w hs hb]
      rfl
  · rw [stop, if_neg hs]

theorem keepsGates_startEncoding (l : Launch) (e : Encoding) (c : Coding) (w : Endpoint) :
    KeepsGates w (startEncoding l e c w).endpoint := by
  have hs := encodingStarted l e c w
  generalize startEncoding l e c w = r at hs
  have hopened : ∀ t, KeepsGates w ((openPrimary e c w).bindTrack t (contextOf l.id t c w)) :=
    fun t => ⟨Nat.le_succ _, fun _ hg => Table.entry_push_ne _ _ (Nat.ne_of_lt hg)⟩
  cases hs with
  | missing => exact .refl w
  | failed t => exact hopened t
  | bound t codec =>
    obtain ⟨hsize, hgates⟩ := gates_bindStreams l t (contextOf l.id t c w) w.nextStream w.nextGate
      codec c e ((openPrimary e c w).bindTrack t (contextOf l.id t c w))
    exact ⟨Nat.le_trans (hopened t).size (Nat.le_of_eq hsize.symm), fun g hg =>
      (hgates g (Nat.ne_of_lt hg)).trans ((hopened t).gate g hg)⟩

theorem keepsGates_startAll (l : Launch) (es : List Encoding) (cs : List Coding) (w : Endpoint) :
    KeepsGates w (startAll l es cs w).endpoint := by
  induction es generalizing cs w with
  | nil => exact .refl w
  | cons e es ih =>
    cases cs with
    | nil => exact .refl w
    | cons c cs =>
      have hfirst := keepsGates_startEncoding l e c w
      cases ho : (startEncoding l e c w).outcome with
      | error f =>
        rw [startAll_error ho]
        exact hfirst
      | ok payloadType =>
        rw [startAll_ok ho]
        exact hfirst.trans (ih cs _)

theorem keepsGates_act (x : Action) (a : Sender) (w : Endpoint) :
    KeepsGates w (a.act x w).endpoint := by
  cases x with
  | extend track =>
    have hr := extended track a w
    change KeepsGates w (a.extend track w).endpoint
    generalize a.extend track w = r at hr
    cases hr with
    | refused => exact .refl w
    | added t => exact keepsGates_of_gates (gates_withEncoding a.id t w)
  | swapTrack track =>
    change KeepsGates w (a.swapTrack track w).endpoint
    simp only [swapTrack]
    split
    · exact .refl w
    · exact keepsGates_of_gates (gates_exchange track a w)
  | start p =>
    have hr := launched p a w
    change KeepsGates w (a.start p w).endpoint
    generalize a.start p w = r at hr
    cases hr with
    | refused => exact .refl w
    | failed f r check all => exact all ▸ keepsGates_startAll _ _ _ w
    | sent payloadType r check all => exact all ▸ keepsGates_startAll _ _ _ w
  | stop => exact keepsGates_of_gates (gates_stop a w)

end Sender

namespace Session

variable {σ σ' : Session} {m : Move} {r : Reply}

def resolving? (m : Move) (σ : Session) : Option (GateId × Writer) :=
  match m with
  | .issue (.gate name (.resolveStream stream)) =>
    (σ.directory.gates.lookup name).bind fun g =>
      (σ.directory.streams.lookup stream).map fun s => (g, .stream s)
  | .issue (.gate name (.resolveSink sink failure)) =>
    (σ.directory.gates.lookup name).map fun g => (g, .sink sink failure)
  | _ => none

def dating? (m : Move) (σ : Session) : Option (StreamId × Option Instant) :=
  match m with
  | .issue (.stream name (.setDeadline ms)) =>
    (σ.directory.streams.lookup name).map fun s => (s, σ.moment ms)
  | .issue (.sender name (.setBaseDeadline ms)) =>
    (σ.directory.senders.lookup name).bind fun k =>
      (σ.sender k).base.map fun e => (e.primary.stream, σ.moment ms)
  | .issue (.sender name (.setDeadline ms rid)) =>
    (σ.directory.senders.lookup name).bind fun k =>
      ((σ.sender k).encodings.find? (·.carries rid)).map fun e => (e.primary.stream, σ.moment ms)
  | _ => none

def resolvedTo (m : Move) (σ : Session) (g : GateId) : Option Writer :=
  (σ.resolving? m).bind fun (g', x) => if g' = g then some x else none

def datedTo (m : Move) (σ : Session) (s : StreamId) : Option (Option Instant) :=
  (σ.dating? m).bind fun (s', deadline) => if s' = s then some deadline else none

structure Assigned (m : Move) (σ : Session) (w : Endpoint) : Prop where
  gatesSize : σ.endpoint.gates.size ≤ w.gates.size
  gates : ∀ g, g < σ.endpoint.gates.size → w.gate g = (σ.endpoint.gate g).or (σ.resolvedTo m g)
  streamsSize : σ.endpoint.streams.size ≤ w.streams.size
  deadlines : ∀ s, σ.endpoint.Known s →
    (w.stream s).deadline = (σ.datedTo m s).getD (σ.endpoint.stream s).deadline

theorem assigned_of_keeps {w : Endpoint} (resolving : σ.resolving? m = none)
    (dating : σ.dating? m = none) (gates : KeepsGates σ.endpoint w)
    (deadlines : KeepsDeadlines σ.endpoint w) : Assigned m σ w where
  gatesSize := gates.size
  gates g hg := by simp [resolvedTo, resolving, gates.gate g hg]
  streamsSize := deadlines.size
  deadlines s hs := by simp [datedTo, dating, deadlines.deadline s hs]

def Assigns (m : Move) (σ : Session) : Started → Prop
  | .finished _ σ' => Assigned m σ σ'.endpoint
  | _ => σ.resolving? m = none ∧ σ.dating? m = none

theorem assigns_named {α : Type} {names : Names α} {name : String} {f : α → Started}
    (unnamed : names.lookup name = none → σ.resolving? m = none ∧ σ.dating? m = none)
    (named : ∀ a, names.lookup name = some a → Assigns m σ (f a)) :
    Assigns m σ (withNamed names name f) := by
  simp only [withNamed]
  split
  · exact named _ ‹_›
  · exact unnamed ‹_›

section

variable (resolving : σ.resolving? m = none) (dating : σ.dating? m = none)

include resolving dating

theorem assigns_same (gates : σ'.endpoint.gates = σ.endpoint.gates)
    (streams : σ'.endpoint.streams = σ.endpoint.streams) : Assigns m σ (.finished r σ') :=
  assigned_of_keeps resolving dating (keepsGates_of_gates gates) (keepsDeadlines_of_streams streams)

theorem assigns_quiet {α : Type} {names : Names α} {name : String} {f : α → Started}
    (named : ∀ a, names.lookup name = some a → Assigns m σ (f a)) :
    Assigns m σ (withNamed names name f) := assigns_named (fun _ => ⟨resolving, dating⟩) named

theorem assigns_withContext (t : Track) (index : Nat) {f : Context → Started}
    (h : ∀ c, Assigns m σ (f c)) : Assigns m σ (σ.withContext t index f) := by
  simp only [withContext]
  split
  · exact ⟨resolving, dating⟩
  · split
    · exact h _
    · exact ⟨resolving, dating⟩

end

theorem assigns_worldCommand (σ : Session) (c : WorldCommand) :
    Assigns (.issue (.world c)) σ (σ.worldCommand c) := by
  cases c with
  | trap stream => exact assigns_quiet rfl rfl fun _ _ => assigns_same rfl rfl rfl rfl
  | cancel step =>
    change Assigns _ σ (σ.cancel step)
    simp only [cancel]
    split
    · exact assigns_same rfl rfl rfl rfl
    · refine assigned_of_keeps rfl rfl ?_ ?_
      · refine keepsGates_of_gates ?_
        simp only [Call.drop]
        split <;> rfl
      · simp only [Call.drop]
        split
        · exact (upkeep_keepsDeadlines _).releaseClaim _ _
        · exact .refl _
  | createTransceiver name codecs =>
    change Assigns _ σ (.finished _ (σ.createTransceiver name codecs))
    dsimp only [createTransceiver, forgetTransceiver]
    split <;> exact assigns_same rfl rfl rfl rfl
  | dropTransceiver name =>
    change Assigns _ σ (.finished _ (σ.forgetTransceiver name))
    dsimp only [forgetTransceiver]
    split <;> exact assigns_same rfl rfl rfl rfl
  | _ => exact assigns_same rfl rfl rfl rfl

theorem assigns_trackCommand (σ : Session) (name : String) (c : TrackCommand) :
    Assigns (.issue (.track name c)) σ (σ.trackCommand name c) := by
  refine assigns_quiet rfl rfl fun t _ => ?_
  cases c with
  | info => exact assigns_same rfl rfl rfl rfl
  | bind context => exact assigns_quiet rfl rfl fun _ _ => assigns_same rfl rfl rfl rfl
  | unbind context => exact assigns_quiet rfl rfl fun _ _ => assigns_same rfl rfl rfl rfl
  | bindingCount =>
    dsimp only [toTrack]
    split
    · exact assigns_same rfl rfl rfl rfl
    · exact ⟨rfl, rfl⟩
  | write packet attributes index =>
    dsimp only [toTrack, writeTrack]
    split
    · exact ⟨rfl, rfl⟩
    · refine assigns_withContext rfl rfl t index fun c => ?_
      split
      · exact ⟨rfl, rfl⟩
      · exact assigns_same rfl rfl rfl rfl
  | read size attributes index =>
    refine assigns_withContext rfl rfl t index fun c => ?_
    split
    · exact ⟨rfl, rfl⟩
    · exact assigns_same rfl rfl rfl rfl

theorem gate_resolve_self (g : GateId) (x : Writer) (w : Endpoint) :
    (w.resolve g x).gate g = (w.gate g).or (some x) := by
  simp only [resolve]
  cases h : w.gate g with
  | some y => simp [h]
  | none => simp [gate]

theorem assigns_resolveGate {g : GateId} {x : Writer}
    (resolving : σ.resolving? m = some (g, x)) (dating : σ.dating? m = none) :
    Assigns m σ (σ.resolveGate g x) where
  gatesSize := Nat.le_of_eq (size_gates_resolve g x _).symm
  gates g' _ := by
    simp only [resolvedTo, resolving, Option.bind_some]
    split
    · rename_i heq
      subst heq
      exact gate_resolve_self g x _
    · rename_i hne
      rw [Option.or_none]
      exact gate_resolve_ne (Ne.symm hne) x _
  streamsSize := Nat.le_of_eq (congrArg Table.size (streams_resolve g x _).symm)
  deadlines s hs := by
    simp only [datedTo, dating, Option.bind_none, Option.getD_none]
    exact (keepsDeadlines_of_streams (streams_resolve g x _)).deadline s hs

theorem assigns_gateCommand (σ : Session) (name : String) (c : GateCommand) :
    Assigns (.issue (.gate name c)) σ (σ.gateCommand name c) := by
  cases c with
  | create =>
    exact assigned_of_keeps rfl rfl
      ⟨Nat.le_succ _, fun _ hg => Table.entry_push_ne _ _ (Nat.ne_of_lt hg)⟩
      (keepsDeadlines_of_streams rfl)
  | resolveStream stream =>
    refine assigns_named (fun hg => ⟨?_, rfl⟩) fun g hg =>
      assigns_named (fun hs => ⟨?_, rfl⟩) fun s hs => assigns_resolveGate ?_ rfl
    · simp only [resolving?, hg, Option.bind_none]
    · simp only [resolving?, hg, hs, Option.bind_some, Option.map_none]
    · simp only [resolving?, hg, hs, Option.bind_some, Option.map_some]
  | resolveSink sink failure =>
    refine assigns_named (fun hg => ⟨?_, rfl⟩) fun g hg => assigns_resolveGate ?_ rfl
    · simp only [resolving?, hg, Option.map_none]
    · simp only [resolving?, hg, Option.map_some]
  | isResolved => exact assigns_quiet rfl rfl fun _ _ => assigns_same rfl rfl rfl rfl
  | write packet attributes => exact assigns_quiet rfl rfl fun _ _ => ⟨rfl, rfl⟩

theorem assigned_setDeadline {s : StreamId} {deadline : Option Instant}
    (resolving : σ.resolving? m = none) (dating : σ.dating? m = some (s, deadline)) :
    Assigned m σ (σ.endpoint.setDeadline s deadline) where
  gatesSize := Nat.le_refl _
  gates g _ := by
    simp only [resolvedTo, resolving, Option.bind_none, Option.or_none]
    rfl
  streamsSize := Nat.le_refl _
  deadlines s' _ := by
    simp only [datedTo, dating, Option.bind_some, setDeadline, stream_updateStream]
    by_cases hs : s' = s
    · simp [hs]
    · simp [hs, Ne.symm hs]

theorem assigns_streamCommand (σ : Session) (name : String) (c : StreamCommand) :
    Assigns (.issue (.stream name c)) σ (σ.streamCommand name c) := by
  cases c with
  | create ssrc =>
    exact assigned_of_keeps rfl rfl (keepsGates_of_gates rfl) (keepsDeadlines_addStream ssrc none _)
  | close =>
    exact assigns_quiet rfl rfl fun s _ => assigned_of_keeps rfl rfl
      (keepsGates_of_gates (sameRest_closeStream s _).gates) (keepsDeadlines_closeStream s _)
  | setDeadline ms =>
    refine assigns_named (fun hs => ⟨rfl, ?_⟩) fun s hs => assigned_setDeadline rfl ?_
    · simp only [dating?, hs, Option.map_none]
    · simp only [dating?, hs, Option.map_some]
  | ssrc => exact assigns_quiet rfl rfl fun _ _ => assigns_same rfl rfl rfl rfl
  | deadline => exact assigns_quiet rfl rfl fun _ _ => assigns_same rfl rfl rfl rfl
  | _ => exact assigns_quiet rfl rfl fun _ _ => ⟨rfl, rfl⟩

theorem assigns_createSender (σ : Session) (name : String) (track : Option String)
    (connected : Bool) :
    Assigns (.issue (.sender name (.create track connected))) σ
      (σ.createSender name track connected) := by
  simp only [createSender]
  split
  · exact assigns_same rfl rfl rfl rfl
  · rename_i a w heq
    obtain ⟨t, -, hadd⟩ := Sender.create_of_ok heq
    obtain ⟨rfl, rfl⟩ := Prod.mk.inj hadd
    have drawn : KeepsDeadlines σ.endpoint σ.endpoint.drawId := keepsDeadlines_of_streams rfl
    exact assigned_of_keeps rfl rfl
      (keepsGates_of_gates (Sender.gates_withEncoding _ t σ.endpoint.drawId))
      (drawn.trans (Sender.steady_keepsDeadlines.withEncoding _ t _))

theorem assigns_toSender {name : String} {k : SenderKey}
    (hk : σ.directory.senders.lookup name = some k) (c : SenderCommand) :
    Assigns (.issue (.sender name c)) σ (σ.toSender k c) := by
  have acted : ∀ x : Sender.Action, KeepsGates σ.endpoint ((σ.sender k).act x σ.endpoint).endpoint ∧
      KeepsDeadlines σ.endpoint ((σ.sender k).act x σ.endpoint).endpoint := fun x =>
    ⟨Sender.keepsGates_act x _ _, Sender.steady_keepsDeadlines.act x _ _⟩
  cases c with
  | create track connected => exact ⟨rfl, rfl⟩
  | extend track =>
    obtain ⟨gates, deadlines⟩ := acted (.extend (σ.trackNamed track))
    exact assigned_of_keeps rfl rfl gates deadlines
  | swapTrack track =>
    obtain ⟨gates, deadlines⟩ := acted (.swapTrack (σ.trackNamed track))
    exact assigned_of_keeps rfl rfl gates deadlines
  | start codings extensions =>
    obtain ⟨gates, deadlines⟩ :=
      acted (.start (startParameters codings extensions (σ.sender k) σ.endpoint))
    exact assigned_of_keeps rfl rfl gates deadlines
  | stop =>
    obtain ⟨gates, deadlines⟩ := acted .stop
    exact assigned_of_keeps rfl rfl gates deadlines
  | awaitSending => exact ⟨rfl, rfl⟩
  | read feed size => exact ⟨rfl, rfl⟩
  | readPackets feed => exact ⟨rfl, rfl⟩
  | setBaseDeadline ms =>
    change Assigned _ σ ((σ.sender k).setBaseDeadline _ σ.endpoint)
    simp only [Sender.setBaseDeadline]
    cases hb : (σ.sender k).base with
    | some e =>
      refine assigned_setDeadline rfl ?_
      simp only [dating?, hk, hb, Option.bind_some, Option.map_some]
    | none =>
      refine assigned_of_keeps rfl ?_ (.refl _) (.refl _)
      simp only [dating?, hk, hb, Option.bind_some, Option.map_none]
  | setDeadline ms rid =>
    dsimp only [toSender, Sender.setDeadline]
    cases hf : (σ.sender k).encodings.find? (·.carries rid) with
    | some e =>
      refine assigned_setDeadline rfl ?_
      simp only [dating?, hk, hf, Option.bind_some, Option.map_some]
    | none =>
      refine assigned_of_keeps rfl ?_ (.refl _) (.refl _)
      simp only [dating?, hk, hf, Option.bind_some, Option.map_none]
  | _ => exact assigns_same rfl rfl rfl rfl

theorem assigns_start (σ : Session) (c : Command) : Assigns (.issue c) σ (σ.start c) := by
  cases c with
  | world c => exact assigns_worldCommand σ c
  | sender name c =>
    have hn : Assigns (.issue (.sender name c)) σ
        (withNamed σ.directory.senders name fun k => σ.toSender k c) := by
      refine assigns_named (fun hk => ?_) fun k hk => assigns_toSender hk c
      cases c <;> first
        | exact ⟨rfl, rfl⟩
        | simp only [resolving?, dating?, hk, Option.bind_none, true_and]
    cases c with
    | create track connected => exact assigns_createSender σ name track connected
    | _ => exact hn
  | track name c => exact assigns_trackCommand σ name c
  | context name c =>
    cases c with
    | create => exact assigns_same rfl rfl rfl rfl
    | info => exact assigns_quiet rfl rfl fun _ _ => assigns_same rfl rfl rfl rfl
  | gate name c => exact assigns_gateCommand σ name c
  | stream name c => exact assigns_streamCommand σ name c
  | lifecycle name c =>
    cases c with
    | create => exact assigns_same rfl rfl rfl rfl
    | awaitSending => exact assigns_quiet rfl rfl fun _ _ => ⟨rfl, rfl⟩
    | _ => exact assigns_quiet rfl rfl fun _ _ => assigns_same rfl rfl rfl rfl
  | chain c =>
    cases c with
    | read name size attributes => exact assigns_quiet rfl rfl fun _ _ => ⟨rfl, rfl⟩
    | write name packet attributes => exact assigns_quiet rfl rfl fun _ _ => ⟨rfl, rfl⟩
    | _ => exact assigns_same rfl rfl rfl rfl
  | unknown => exact ⟨rfl, rfl⟩

theorem assigned_poll (resolving : σ.resolving? m = none) (dating : σ.dating? m = none)
    (task : Task Reply) (b : Pace) (t : Ticket) (p : Progress) :
    Assigned m σ (task.poll σ.roster b t p σ.endpoint).endpoint :=
  assigned_of_keeps resolving dating (keepsGates_of_gates (task.gates_poll _ _ _ _ _))
    (task.keepsDeadlines_poll _ _ _ _ _)

theorem assigned_turn (resolving : σ.resolving? m = none) (dating : σ.dating? m = none)
    (task : Task Reply) : Assigned m σ (σ.turn (.waiting task)).1.endpoint := by
  have hp := assigned_poll resolving dating task σ.pace σ.steps .fresh
  simp only [turn]
  generalize task.poll σ.roster σ.pace σ.steps .fresh σ.endpoint = x at hp
  cases x <;> exact hp

theorem assigned_act (m : Move) (σ : Session) : Assigned m σ (σ.act m).1.endpoint := by
  cases m with
  | issue c =>
    have h := assigns_start σ c
    simp only [act, issue]
    generalize σ.start c = x at h
    cases x with
    | refused => exact assigned_of_keeps h.1 h.2 (.refl _) (.refl _)
    | finished r σ' => exact h
    | waiting task => exact assigned_turn h.1 h.2 task
  | poll t =>
    simp only [act, pollCall]
    split
    · exact assigned_of_keeps rfl rfl (.refl _) (.refl _)
    · rename_i c _
      have hp := assigned_poll (σ := σ) (m := .poll t) rfl rfl c.task σ.pace t c.progress
      generalize c.task.poll σ.roster σ.pace t c.progress σ.endpoint = x at hp
      cases x <;> exact hp
  | inject n packet =>
    simp only [act, inject]
    split
    · exact assigned_of_keeps rfl rfl (.refl _) (.refl _)
    · exact assigned_turn rfl rfl _
  | turnTo b => exact assigned_of_keeps rfl rfl (.refl _) (.refl _)

end Session

end MediaSender

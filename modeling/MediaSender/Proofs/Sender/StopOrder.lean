import MediaSender.Proofs.Sender.Holdings
import MediaSender.Proofs.Sender.Lifespan
/-!
The order of a stop. The first stop of a sender unbinds its tracks one after the other, and then
releases and closes its streams one after the other, whichever of them fail to close; what fails is
told in the same order. Any further stop does nothing.
-/

namespace MediaSender

open Endpoint

def Encoding.unbinding? (e : Encoding) : Option Event :=
  match e.bound, e.track with
  | true, some t => some (.trackUnbound t.key e.context.id e.context.ssrc (.ok ()))
  | _, _ => none

namespace Sender

variable {a : Sender} {w w' : Endpoint} {id : String}

def closing? (s : StreamId) (w : Endpoint) : List Event :=
  if (w.stream s).closed || !(w.stream s).opened || (w.stream s).shut then []
  else [.closed s (w.ssrcOf s)]

def failureNote (id : String) (b : BoundStream) (w : Endpoint) : List Event :=
  (w.closeFailure b.stream).toList.map fun f => .log .debug (closeText id (w.ssrcOf b.stream) f)

/-- A stream is released with the description that was recorded for it, which every layer is told
of, and closed. -/
def releaseEvents (id : String) (w : Endpoint) (b : BoundStream) : List Event :=
  .released b.description ::
    (w.chain.reports (.released b.description.id b.description.ssrc)).map .report ++
      closing? b.stream w ++ failureNote id b w

def unbindings (a : Sender) : List Event := a.encodings.filterMap (·.unbinding?)

theorem trace_detach {e : Encoding} (h : e.detachFailure w = none) :
    (e.detach w).trace = w.trace ++ e.unbinding?.toList := by
  simp only [Encoding.detachFailure, Encoding.detach, Encoding.unbinding?] at h ⊢
  cases hb : e.bound with
  | false => exact (List.append_nil _).symm
  | true =>
    cases ht : e.track with
    | none => exact (List.append_nil _).symm
    | some t =>
      rw [hb, ht] at h
      dsimp only at h ⊢
      split at h
      · rename_i hr
        rw [unbindTrack, trace_emit, hr]
        rfl
      · cases h

theorem trace_detachAll {es : List Encoding} (h : (detachAll none es w).failure = none) :
    (detachAll none es w).endpoint.trace = w.trace ++ es.filterMap (·.unbinding?) := by
  induction es generalizing w with
  | nil => exact (List.append_nil _).symm
  | cons e es ih =>
    dsimp only [detachAll] at h ⊢
    split at h
    · cases h
    · rename_i hfirst
      rw [ih h, trace_detach hfirst, List.append_assoc, filterMap_cons_toList]

theorem trace_release (id : String) (b : BoundStream) (w : Endpoint) :
    (release id b w).endpoint.trace = w.trace ++ releaseEvents id w b := by
  let w₁ := w.releaseStream b.description
  have hw₁ : w₁.trace = w.trace ++ (.released b.description ::
      (w.chain.reports (.released b.description.id b.description.ssrc)).map .report) :=
    List.append_assoc _ _ _
  have hclose : (w₁.closeStream b.stream).trace = w₁.trace ++ closing? b.stream w :=
    trace_closeStream b.stream w₁
  have hfailure : w₁.closeFailure b.stream = w.closeFailure b.stream := rfl
  dsimp only [release]
  split
  · rename_i hn
    rw [hclose, hw₁, releaseEvents, failureNote, ← hfailure, hn]
    simp
  · rename_i f hf
    rw [log, trace_emit, hclose, hw₁, releaseEvents, failureNote, ← hfailure, hf]
    simp

theorem releaseEvents_congr {b : BoundStream} (stream : w'.stream b.stream = w.stream b.stream)
    (transport : w'.transport = w.transport) (chain : w'.chain = w.chain) :
    releaseEvents id w' b = releaseEvents id w b := by
  have hf := closeFailure_congr stream transport
  simp only [releaseEvents, failureNote, closing?, hf, ssrcOf, stream, chain]

theorem stream_releaseAll (id : String) (bs : List BoundStream) (w : Endpoint) (s : StreamId) :
    (releaseAll id bs w).endpoint.stream s =
      if s ∈ bs.map (·.stream) then closing (w.stream s) else w.stream s := by
  have twice : ∀ st, closing (closing st) = closing st := fun st => if_pos (closed_closing st)
  induction bs generalizing w with
  | nil => rfl
  | cons b bs ih =>
    change (releaseAll id bs (release id b w).endpoint).endpoint.stream s = _
    rw [ih, stream_release]
    by_cases hs : s = b.stream <;> by_cases hm : s ∈ bs.map (·.stream) <;> simp_all

theorem apart_of_nodup {b : BoundStream} {bs : List BoundStream}
    (h : ((b :: bs).map (·.stream)).Nodup) :
    (∀ b' ∈ bs, b'.stream ≠ b.stream) ∧ (bs.map (·.stream)).Nodup := by
  rw [List.map_cons, List.nodup_cons] at h
  exact ⟨fun b' hb' heq => h.1 (heq ▸ List.mem_map_of_mem hb'), h.2⟩

section

variable {bs : List BoundStream} (distinct : (bs.map (·.stream)).Nodup)

include distinct

theorem trace_releaseAll (w : Endpoint) :
    (releaseAll id bs w).endpoint.trace = w.trace ++ bs.flatMap (releaseEvents id w) := by
  induction bs generalizing w with
  | nil => exact (List.append_nil _).symm
  | cons b bs ih =>
    obtain ⟨hb, hbs⟩ := apart_of_nodup distinct
    have hrest : bs.flatMap (releaseEvents id (release id b w).endpoint) =
        bs.flatMap (releaseEvents id w) := by
      refine List.flatMap_congr fun b' hb' => ?_
      refine releaseEvents_congr ?_ (transport_release id b w) ?_
      · rw [stream_release, if_neg (hb b' hb')]
      · exact (untied_releaseAll id [b] w).chain
    change (releaseAll id bs (release id b w).endpoint).endpoint.trace = _
    rw [ih hbs, trace_release, hrest, List.append_assoc, List.flatMap_cons]

theorem failures_releaseAll (w : Endpoint) :
    (releaseAll id bs w).failures = bs.filterMap fun b => w.closeFailure b.stream := by
  induction bs generalizing w with
  | nil => rfl
  | cons b bs ih =>
    obtain ⟨hb, hbs⟩ := apart_of_nodup distinct
    have hrest : (bs.filterMap fun b' => (release id b w).endpoint.closeFailure b'.stream) =
        bs.filterMap fun b' => w.closeFailure b'.stream := by
      refine List.filterMap_congr fun b' hb' => ?_
      rw [closeFailure_release, if_neg (hb b' hb')]
    change (release id b w).failures ++ (releaseAll id bs (release id b w).endpoint).failures = _
    rw [ih hbs, failures_release, hrest, filterMap_cons_toList]

end

/-- The first stop of a sender that has something bound. -/
structure TakenDown (a : Sender) (w : Endpoint) (r : Result) : Prop where
  sender : r.sender = { a with
    lifecycle := a.lifecycle.stop
    encodings := a.encodings.map fun e => { e with track := none } }
  events : eventsSince w r.endpoint = .log .trace ("sender " ++ a.id ++ " stopped") ::
    (a.unbindings ++ a.held.flatMap (releaseEvents a.id w))
  streams : ∀ s, r.endpoint.stream s =
    if s ∈ a.held.map (·.stream) then closing (w.stream s) else w.stream s
  outcome : r.outcome = Failure.flatten (a.held.filterMap fun b => w.closeFailure b.stream)

theorem streams_of_parts (e : Encoding) :
    (e.boundStreams.map (·.stream)).Sublist e.streams := by
  rw [Encoding.boundStreams]
  split
  · exact .refl _
  · exact List.nil_sublist _

theorem distinct_held (h : (streamsOf a.encodings).Nodup) : (a.held.map (·.stream)).Nodup := by
  have hsub : (a.held.map (·.stream)).Sublist (streamsOf a.encodings) := by
    rw [held, List.map_flatMap, streamsOf]
    induction a.encodings with
    | nil => exact .refl _
    | cons e es ih => exact (streams_of_parts e).append ih
  exact h.sublist hsub

theorem takenDown (distinct : (streamsOf a.encodings).Nodup) (running : a.lifecycle.canStop)
    (bound : ∃ e ∈ a.encodings, e.bound) (unbinds : a.Unbinds w) : TakenDown a w (a.stop w) := by
  let w₀ := w.log .trace ("sender " ++ a.id ++ " stopped")
  let d := detachAll none a.encodings w₀
  have hd : d.failure = none := unbinds
  have hheld := distinct_held distinct
  obtain ⟨hstreams, htransport⟩ := detachAll_rest none a.encodings w₀
  have hchain := (steady_setup.detachAll none a.encodings w₀).chain
  have hstream : ∀ s, d.endpoint.stream s = w.stream s := fun s => congrArg (·.entry s) hstreams
  have hsender : (a.stop w).sender = { a with
      lifecycle := a.lifecycle.stop
      encodings := a.encodings.map fun e => { e with track := none } } := by
    rw [stop_eq w running bound, teardown_eq]
    exact congrArg (fun es => { a with lifecycle := a.lifecycle.stop, encodings := es })
      (encodings_detachAll hd)
  obtain ⟨hendpoint, houtcome⟩ := stop_of_detached (w := w) (d := d) running bound rfl hd
  refine ⟨hsender, eventsSince_eq ?_, fun s => ?_, ?_⟩
  · have hevents : a.held.flatMap (releaseEvents a.id d.endpoint) =
        a.held.flatMap (releaseEvents a.id w) :=
      List.flatMap_congr fun b _ => releaseEvents_congr (hstream b.stream) htransport hchain
    rw [hendpoint, trace_releaseAll hheld, hevents, trace_detachAll hd, List.append_assoc]
    change (w.trace ++ [_]) ++ _ = _
    rw [List.append_assoc]
    rfl
  · rw [hendpoint, stream_releaseAll, hstream]
  · rw [houtcome, failures_releaseAll hheld]
    refine congrArg _ (List.filterMap_congr fun b _ => ?_)
    exact closeFailure_congr (hstream b.stream) htransport

theorem unbinds_of_since (running : a.lifecycle.canStop) (bound : ∃ e ∈ a.encodings, e.bound)
    (h : ∀ e ∈ eventsSince w (a.stop w).endpoint, e.unbindFailure? = none) : a.Unbinds w := by
  obtain ⟨es, ht, hf, -⟩ := stop_events (w := w) running bound rfl
  rw [eventsSince_eq ht] at h
  rw [List.filterMap_eq_nil_iff.mpr h] at hf
  exact Option.toList_eq_nil_iff.mp hf.symm

end Sender

namespace Session

open Sender

variable {σ : Session} {k : SenderKey}

/-- What a stop comes to. Tracks that cannot be unbound are left out. -/
structure Turn.Stops (k : SenderKey) (x : Turn) : Prop where
  again : (x.before.sender k).lifecycle.hasStopped →
    x.result = .answered (.outcome (.ok ())) ∧
      x.after = { x.before with steps := x.before.steps + 1 }
  unbound : (x.before.sender k).lifecycle.hasStopped = false →
    (∀ e ∈ (x.before.sender k).encodings, e.bound = false) →
      x.result = .answered (.outcome (.ok ())) ∧
        eventsSince x.before x.after =
          [.log .trace ("sender " ++ (x.before.sender k).id ++ " stopped")] ∧
        x.after.sender k =
          { x.before.sender k with lifecycle := (x.before.sender k).lifecycle.stop }
  first : (x.before.sender k).lifecycle.hasStopped = false →
    (∃ e ∈ (x.before.sender k).encodings, e.bound) →
      (∀ e ∈ eventsSince x.before x.after, e.unbindFailure? = none) →
        ∃ r, TakenDown (x.before.sender k) x.before.endpoint r ∧ x.after.sender k = r.sender ∧
          x.after.endpoint = r.endpoint ∧ x.result = .answered (.outcome r.outcome)

theorem stops_of_action (wellFormed : σ.WellFormed) {m : Move}
    (action : σ.action? m = some (k, .stop)) :
    Turn.Stops k ⟨σ, m⟩ := by
  have hact := act_of_action action
  have hsender : (σ.act m).1.sender k = ((σ.sender k).stop σ.endpoint).sender := sender_act action
  have hendpoint : (σ.act m).1.endpoint = ((σ.sender k).stop σ.endpoint).endpoint :=
    endpoint_act action
  have hresult : (σ.act m).2 = .answered (.outcome ((σ.sender k).stop σ.endpoint).outcome) :=
    congrArg Prod.snd hact
  constructor
  · intro stopped
    have hstop : ¬ (σ.sender k).lifecycle.canStop := by
      rw [Lifecycle.canStop, stopped]
      exact Bool.false_ne_true
    have hsame : (σ.sender k).act .stop σ.endpoint = ⟨σ.sender k, σ.endpoint, .ok ()⟩ :=
      if_neg hstop
    rw [hsame, setSender_self] at hact
    exact ⟨congrArg Prod.snd hact, congrArg Prod.fst hact⟩
  · intro running unbound
    have hstop : (σ.sender k).lifecycle.canStop := by rw [Lifecycle.canStop, running]; rfl
    have hnone : ¬ ∃ e ∈ (σ.sender k).encodings, e.bound := by
      rintro ⟨e, he, hb⟩
      exact absurd ((unbound e he).symm.trans hb) Bool.false_ne_true
    rw [stop_of_not_bound σ.endpoint hstop hnone] at hsender hendpoint hresult
    refine ⟨hresult, ?_, hsender⟩
    change Endpoint.eventsSince σ.endpoint (σ.act m).1.endpoint = _
    rw [hendpoint]
    exact eventsSince_eq rfl
  · intro running bound unbinds
    have hstop : (σ.sender k).lifecycle.canStop := by rw [Lifecycle.canStop, running]; rfl
    change ∀ e ∈ Endpoint.eventsSince σ.endpoint (σ.act m).1.endpoint, _ at unbinds
    rw [hendpoint] at unbinds
    refine ⟨(σ.sender k).stop σ.endpoint, ?_, hsender, hendpoint, hresult⟩
    exact takenDown (wellFormed k).distinct hstop bound (unbinds_of_since hstop bound unbinds)

theorem wellFormed_turns (h : σ.WellFormed) (hσ : σ.Sound) (ms : List Move) :
    ∀ x ∈ turns ms σ, x.before.WellFormed := by
  induction ms generalizing σ with
  | nil => exact List.forall_mem_nil _
  | cons m ms ih => exact List.forall_mem_cons.mpr ⟨h, ih (h.act hσ m) (hσ.act m)⟩

/-- A stop takes down everything in order, however the closes fare, and only the first one does. -/
theorem stop_takes_down_in_order (fresh : σ.Fresh) (k : SenderKey) (ms : List Move) :
    ∀ x ∈ turns ms σ, x.before.action? x.move = some (k, .stop) → x.Stops k :=
  fun x hx action => stops_of_action (wellFormed_turns fresh.wellFormed fresh.sound ms x hx) action

def stubbornSession : Session where
  endpoint :=
    { chain := [Layer.tagging "L" [] [] none none]
      transport := { failure := fun _ op => if op = .close then some (.other "busy") else none } }
  directory := { tracks := [("q", vp8Track 0 "q" (.ok ())), ("h", vp8Track 1 "h" (.ok ()))] }

def stubbornMoves : List Move :=
  [.issue (.sender "s" (.create (some "q") true)), .issue (.sender "s" (.extend (some "h"))),
    .issue (.sender "s" (.start none none)), .inject 0 {}, .inject 1 {},
    .issue (.sender "s" .stop), .issue (.sender "s" .stop)]

theorem stubborn_streams_taken_down :
    ∃ x ∈ turns stubbornMoves stubbornSession, ∃ y ∈ turns stubbornMoves stubbornSession,
      x.Stops 0 ∧ y.Stops 0 ∧
      (x.before.sender 0).lifecycle = .sending ∧ (∃ e ∈ (x.before.sender 0).encodings, e.bound) ∧
      (∀ e ∈ eventsSince x.before x.after, e.unbindFailure? = none) ∧
      x.result = .answered (.outcome (.error (.other "busy\nbusy"))) ∧
      y.before = x.after ∧ y.result = .answered (.outcome (.ok ())) := by
  have fresh : stubbornSession.Fresh := ⟨rfl, rfl, rfl, rfl, rfl, rfl, rfl, rfl⟩
  have stops := stop_takes_down_in_order fresh 0 stubbornMoves
  obtain ⟨x, hx, rfl⟩ : ∃ x ∈ turns stubbornMoves stubbornSession,
      x = ⟨stubbornSession.after (stubbornMoves.take 5), .issue (.sender "s" .stop)⟩ :=
    ⟨_, List.mem_of_getElem? (i := 5) rfl, rfl⟩
  obtain ⟨y, hy, rfl⟩ : ∃ y ∈ turns stubbornMoves stubbornSession,
      y = ⟨stubbornSession.after (stubbornMoves.take 6), .issue (.sender "s" .stop)⟩ :=
    ⟨_, List.mem_of_getElem? (i := 6) rfl, rfl⟩
  exact ⟨_, hx, _, hy, stops _ hx rfl, stops _ hy rfl, rfl, by decide, by decide, rfl, rfl, rfl⟩

end Session

end MediaSender

import MediaSender.Proofs.Sender.Holdings
import MediaSender.Proofs.Sender.Lifespan
/-!
The order of a start. The encodings are connected one after the other: each gets a new stream and a
new gate, its track is bound, and then its stream and its companions are handed to the layers. A
track that refuses its bind ends the start, and the encodings behind it are left as they are.
-/

namespace MediaSender

open Endpoint

namespace Table

variable {α : Type}

def pushAll (as : List α) (t : Table α) : Table α := as.foldl push t

theorem pushAll_append (as as' : List α) (t : Table α) :
    t.pushAll (as ++ as') = (t.pushAll as).pushAll as' := List.foldl_append

theorem size_pushAll (as : List α) (t : Table α) : (t.pushAll as).size = t.size + as.length := by
  induction as generalizing t with
  | nil => rfl
  | cons a as ih =>
    change ((t.push a).pushAll as).size = _
    rw [ih, size_push, List.length_cons]
    omega

theorem entry_pushAll_lt {i : Nat} (as : List α) (t : Table α) (h : i < t.size) :
    (t.pushAll as).entry i = t.entry i := by
  induction as generalizing t with
  | nil => rfl
  | cons a as ih =>
    have hi : i < (t.push a).size := Nat.lt_succ_of_lt h
    change ((t.push a).pushAll as).entry i = _
    rw [ih _ hi, entry_push_ne t a (Nat.ne_of_lt h)]

theorem set_push (t : Table α) (a b : α) : (t.push a).set t.size b = t.push b := by
  simp only [push, set, mk.injEq, true_and]
  funext i
  split <;> rfl

end Table

/-- What a description says of a stream that carries a codec. -/
structure StreamDescription.Describes (id : String) (ssrc : Ssrc) (codec : Codec)
    (extensions : List HeaderExtension) (protects : Option Primary) (d : StreamDescription) :
    Prop where
  id : d.id = id
  ssrc : d.ssrc = ssrc
  codec : ⟨⟨d.mimeType, d.clockRate, d.channels, d.parameters, d.feedback⟩, d.payloadType⟩ = codec
  extensions : d.extensions = extensions.map fun e => ⟨e.uri, e.id⟩
  protects : d.protects = protects

namespace Sender

structure BindCall where
  encoding : Encoding
  coding : Coding
  track : Track
  stream : StreamId
  gate : GateId
  deadline : Option Instant

structure Connection extends BindCall where
  codec : Codec
  description : StreamDescription
  rtx : Option BoundStream
  fec : Option BoundStream

/-- The encodings that are connected, and the bind that ends the start, if one is refused. -/
structure Startup where
  connections : List Connection
  refusal : Option (BindCall × Failure)

def readerEvents (w : Endpoint) (s : StreamId) : List Event :=
  .readerBound s :: (w.chain.reports .readerBound).map .report

def writerEvents (w : Endpoint) (s : StreamId) (d : StreamDescription) : List Event :=
  .writerBound s d :: (w.chain.reports (.writerBound d)).map .report

def companionEvents (w : Endpoint) (b : BoundStream) : List Event :=
  readerEvents w b.stream ++ writerEvents w b.stream b.description

namespace BindCall

def context (l : Launch) (w : Endpoint) (b : BindCall) : Context :=
  { id := l.id
    ssrc := b.coding.ssrc
    parameters :=
      { headerExtensions := w.capabilities.extensionsFor b.track.kind .sendOnly
        codecs := w.capabilities.codecs b.track.kind }
    gate := some b.gate
    reader := some (w.readerOf b.stream) }

def opens (b : BindCall) : StreamId × LazyStream :=
  (b.stream, { ssrc := b.coding.ssrc, deadline := b.deadline })

def events (l : Launch) (w : Endpoint) (answer : Outcome Codec) (b : BindCall) : List Event :=
  readerEvents w b.stream ++ [.trackBound b.track.key (b.context l w).view answer]

def settle (l : Launch) (w : Endpoint) (b : BindCall) (tracks : Table TrackState) :
    Table TrackState :=
  tracks.modify b.track.key (b.track.afterBind (b.context l w))

def refused (l : Launch) (w : Endpoint) (b : BindCall) : Encoding :=
  { b.encoding with ssrc := b.coding.ssrc, context := b.context l w }

end BindCall

namespace Connection

def companions (x : Connection) : List BoundStream := x.rtx.toList ++ x.fec.toList

def opens (x : Connection) : List (StreamId × LazyStream) :=
  x.toBindCall.opens :: x.companions.map fun b => (b.stream, { ssrc := b.description.ssrc })

def events (l : Launch) (w : Endpoint) (x : Connection) : List Event :=
  x.toBindCall.events l w (.ok x.codec) ++ writerEvents w x.stream x.description ++
    x.companions.flatMap (companionEvents w) ++
      [.log .trace (boundText l.id x.track x.coding x.codec)]

def writer (w : Endpoint) (x : Connection) : Writer := w.writerOf x.stream x.description

/-- The encoding once it is connected; a companion that is not planned stays as it was. -/
def connected (l : Launch) (w : Endpoint) (x : Connection) : Encoding :=
  { x.encoding with
    bound := true
    ssrc := x.coding.ssrc
    context := (x.toBindCall.context l w).narrow x.codec
    primary := ⟨x.stream, w.readerOf x.stream, x.description⟩
    rtx := x.rtx.elim x.encoding.rtx fun b => ⟨x.coding.rtx, some b⟩
    fec := x.fec.elim x.encoding.fec fun b => ⟨x.coding.fec, some b⟩ }

end Connection

/-- A companion is there if an SSRC was asked for and a codec was found, and it tells which stream
it protects. -/
structure Accompanies (l : Launch) (w : Endpoint) (suffix : String) (ssrc : Ssrc)
    (codec : Option Codec) (primary : Primary) (b : Option BoundStream) : Prop where
  planned : b.isSome ↔ ssrc ≠ 0 ∧ codec.isSome
  described : ∀ x ∈ b, ∃ c ∈ codec,
    x.description.Describes (l.id ++ suffix) ssrc c l.extensions (some primary)
  plain : ∀ x ∈ b, x.description.attributes = []
  reader : ∀ x ∈ b, x.reader = w.readerOf x.stream

structure Connection.Meets (l : Launch) (w : Endpoint) (x : Connection) : Prop where
  described : x.description.Describes l.id x.coding.ssrc x.codec l.extensions none
  redundancy : ∀ v, x.description.attributes.get? StreamDescription.redundancyKey = some v ↔
    x.codec.hasType Mime.opus ∧
      ∃ red, l.codecs.head? = some red ∧ red.hasType Mime.red ∧ v = red.payloadType.toNat
  flexFec : ∀ v, x.description.attributes.get? StreamDescription.flexFecKey = some v ↔
    v = 1 ∧ ∃ c ∈ l.codecs, c.hasType Mime.flexFec
  plain : ∀ key, key ≠ StreamDescription.redundancyKey → key ≠ StreamDescription.flexFecKey →
    x.description.attributes.get? key = none
  rtx : Accompanies l w "_rtx" x.coding.rtx
    (l.codecs.find? fun c => c.protected? == some x.codec.payloadType)
    ⟨x.coding.ssrc, x.codec.payloadType⟩ x.rtx
  fec : Accompanies l w "_fec" x.coding.fec (l.codecs.find? (·.hasType Mime.flexFec))
    ⟨x.coding.ssrc, x.codec.payloadType⟩ x.fec

namespace Startup

def calls (x : Startup) : List (BindCall × Outcome Codec) :=
  (x.connections.map fun c => (c.toBindCall, .ok c.codec)) ++
    x.refusal.toList.map fun r => (r.1, .error r.2)

def opens (x : Startup) : List (StreamId × LazyStream) :=
  x.connections.flatMap (·.opens) ++ x.refusal.toList.map (·.1.opens)

def events (l : Launch) (w : Endpoint) (x : Startup) : List Event :=
  x.connections.flatMap (·.events l w) ++ x.refusal.toList.flatMap fun r =>
    r.1.events l w (.error r.2)

/-- The writers of the new gates; the gate of a refused bind leads nowhere. -/
def gates (w : Endpoint) (x : Startup) : List (Option Writer) :=
  (x.connections.map fun c => some (c.writer w)) ++ x.refusal.toList.map fun _ => none

def encodings (l : Launch) (w : Endpoint) (x : Startup) : List Encoding :=
  x.connections.map (·.connected l w) ++ x.refusal.toList.map (·.1.refused l w)

def tracks (l : Launch) (w : Endpoint) (x : Startup) : Table TrackState :=
  x.calls.foldl (fun tracks c => c.1.settle l w tracks) w.tracks

end Startup

def Answered (l : Launch) (w : Endpoint) : List (BindCall × Outcome Codec) → Table TrackState → Prop
  | [], _ => True
  | c :: cs, tracks =>
    c.1.track.bindResult (c.1.context l w) (tracks.entry c.1.track.key) = c.2 ∧
      Answered l w cs (c.1.settle l w tracks)

def grown (events : List Event) (streams : List LazyStream) (gates : List (Option Writer))
    (tracks : Table TrackState) (w : Endpoint) : Endpoint :=
  { w with
    trace := w.trace ++ events
    streams := w.streams.pushAll streams
    gates := w.gates.pushAll gates
    tracks }

/-- A start of encodings, and what comes of the encodings and of the endpoint. Nothing else of the
endpoint changes. -/
structure Startup.Connects (l : Launch) (es : List Encoding) (cs : List Coding) (w : Endpoint)
    (es' : List Encoding) (w' : Endpoint) (x : Startup) : Prop where
  encodings : ∃ rest, es = x.calls.map (·.1.encoding) ++ rest ∧ es' = x.encodings l w ++ rest ∧
    (x.refusal = none → rest = [])
  codings : x.calls.map (·.1.coding) <+: cs
  holds : ∀ c ∈ x.calls, c.1.encoding.track = some c.1.track
  answered : Answered l w x.calls w.tracks
  meets : ∀ c ∈ x.connections, c.Meets l w
  deadlines : ∀ c ∈ x.calls, c.1.deadline = (w.stream c.1.encoding.primary.stream).deadline
  streams : x.opens.map (·.1) = List.range' w.nextStream x.opens.length
  gates : x.calls.map (·.1.gate) = List.range' w.nextGate x.calls.length
  endpoint : w' = grown (x.events l w) (x.opens.map (·.2)) (x.gates w) (x.tracks l w) w

variable {l : Launch} {e : Encoding} {es es' : List Encoding} {c : Coding} {cs : List Coding}
  {w w' : Endpoint} {t : Track} {codec : Codec} {f : Failure} {x : Startup}

theorem grown_nil (w : Endpoint) : grown [] [] [] w.tracks w = w := by
  rw [grown, List.append_nil]
  rfl

theorem grown_grown (es es' : List Event) (ss ss' : List LazyStream) (gs gs' : List (Option Writer))
    (ts ts' : Table TrackState) (w : Endpoint) :
    grown es' ss' gs' ts' (grown es ss gs ts w) =
      grown (es ++ es') (ss ++ ss') (gs ++ gs') ts' w := by
  simp only [grown, List.append_assoc, Table.pushAll_append]

theorem log_grown (level : LogLevel) (text : String) (events : List Event)
    (streams : List LazyStream) (gates : List (Option Writer)) (tracks : Table TrackState)
    (w : Endpoint) :
    (grown events streams gates tracks w).log level text =
      grown (events ++ [.log level text]) streams gates tracks w := by
  rw [grown, grown, ← List.append_assoc]
  rfl

theorem bindPrimary_grown (s : StreamId) (d : StreamDescription) (events : List Event)
    (streams : List LazyStream) (tracks : Table TrackState) (w : Endpoint) :
    bindPrimary s w.nextGate d (grown events streams [none] tracks w) =
      grown (events ++ writerEvents w s d) streams [some (w.writerOf s d)] tracks w := by
  let w₁ := (grown events streams [none] tracks w).bindWriter s d
  have hgate : w₁.gate w.nextGate = none := Table.entry_push_size w.gates none
  have hshut : ¬ (w₁.gate w.nextGate).isSome := by rw [hgate]; exact Bool.false_ne_true
  have hgates : w₁.gates.set w.nextGate (some (w.writerOf s d)) =
      w.gates.pushAll [some (w.writerOf s d)] := Table.set_push w.gates none _
  have htrace : w₁.trace = w.trace ++ (events ++ writerEvents w s d) := by
    change ((w.trace ++ events) ++ [_]) ++ _ = _
    rw [List.append_assoc, List.append_assoc]
    rfl
  change (if (w₁.gate w.nextGate).isSome then w₁ else
    { w₁ with gates := w₁.gates.set w.nextGate (some (w.writerOf s d)) }) = _
  rw [if_neg hshut, hgates, grown, ← htrace]
  rfl

theorem bindTrack_openPrimary (t : Track) (e : Encoding) (c : Coding) (context : Context)
    (w : Endpoint) :
    (openPrimary e c w).bindTrack t context =
      grown (readerEvents w w.nextStream ++
          [.trackBound t.key context.view (t.bindResult context (w.tracks.entry t.key))])
        [{ ssrc := c.ssrc, deadline := (w.stream e.primary.stream).deadline }] [none]
        (w.tracks.modify t.key (t.afterBind context)) w := by
  have htrace : ((openPrimary e c w).bindTrack t context).trace = w.trace ++
      (readerEvents w w.nextStream ++
        [.trackBound t.key context.view (t.bindResult context (w.tracks.entry t.key))]) := by
    change ((w.trace ++ [_]) ++ _) ++ [_] = _
    rw [List.append_assoc, List.append_assoc]
    rfl
  rw [grown, ← htrace]
  rfl

def companionIn (plan : Option CompanionPlan) (w : Endpoint) : Option BoundStream :=
  plan.map fun p => ⟨w.nextStream, w.readerOf w.nextStream, p.description⟩

theorem accompanies (l : Launch) (suffix : String) (ssrc : Ssrc) (codec : Option Codec)
    (primary : Primary) (w : Endpoint) :
    Accompanies l w suffix ssrc codec primary
      (companionIn (planCompanion l suffix ssrc codec primary) w) := by
  by_cases hs : ssrc = 0
  · rw [planCompanion, if_pos hs]
    exact ⟨by simp [companionIn, hs], nofun, nofun, nofun⟩
  · rw [planCompanion, if_neg hs]
    cases codec with
    | none => exact ⟨by simp [companionIn], nofun, nofun, nofun⟩
    | some c =>
      refine ⟨by simp [companionIn, hs], ?_, ?_, ?_⟩
      · intro x hx
        cases hx
        exact ⟨c, rfl, ⟨rfl, rfl, rfl, rfl, rfl⟩⟩
      · intro x hx
        cases hx
        rfl
      · intro x hx
        cases hx
        rfl

theorem planned (l : Launch) (suffix : String) (ssrc : Ssrc) (codec : Option Codec)
    (primary : Primary) :
    planCompanion l suffix ssrc codec primary = none ∨
      ∃ c, planCompanion l suffix ssrc codec primary =
        some ⟨ssrc, l.describeCompanion suffix ssrc c primary⟩ := by
  rw [planCompanion]
  split
  · exact .inl rfl
  · cases codec with
    | none => exact .inl rfl
    | some c => exact .inr ⟨c, rfl⟩

theorem bindCompanion_eq (l : Launch) (suffix : String) (ssrc : Ssrc) (codec : Option Codec)
    (primary : Primary) (w : Endpoint) :
    let plan := planCompanion l suffix ssrc codec primary
    bindCompanion plan w =
      grown ((companionIn plan w).toList.flatMap (companionEvents w))
        ((companionIn plan w).toList.map fun b => { ssrc := b.description.ssrc }) []
        w.tracks w := by
  intro plan
  rcases planned l suffix ssrc codec primary with hp | ⟨c, hp⟩
  · rw [show plan = none from hp]
    exact (grown_nil w).symm
  · rw [show plan = some _ from hp]
    let b : BoundStream :=
      ⟨w.nextStream, w.readerOf w.nextStream, l.describeCompanion suffix ssrc c primary⟩
    have htrace : (bindCompanion (some ⟨ssrc, b.description⟩) w).trace =
        w.trace ++ [b].flatMap (companionEvents w) := by
      change (((w.trace ++ [_]) ++ _) ++ [_]) ++ _ = _
      simp only [List.append_assoc, List.flatMap_singleton]
      rfl
    change _ = grown ([b].flatMap (companionEvents w)) _ _ _ _
    rw [grown, ← htrace]
    rfl

theorem bindCompanion_grown (l : Launch) (suffix : String) (ssrc : Ssrc) (codec : Option Codec)
    (primary : Primary) (events : List Event) (streams : List LazyStream)
    (gates : List (Option Writer)) (tracks : Table TrackState) (w : Endpoint) :
    let plan := planCompanion l suffix ssrc codec primary
    let w' := grown events streams gates tracks w
    bindCompanion plan w' =
      grown (events ++ (companionIn plan w').toList.flatMap (companionEvents w))
        (streams ++ (companionIn plan w').toList.map fun b => { ssrc := b.description.ssrc })
        gates tracks w := by
  intro plan w'
  rw [bindCompanion_eq, grown_grown, List.append_nil]
  rfl

theorem companionOf_plan (l : Launch) (suffix : String) (ssrc : Ssrc) (codec : Option Codec)
    (primary : Primary) (old : Companion) (w : Endpoint) :
    let plan := planCompanion l suffix ssrc codec primary
    companionOf plan old w = (companionIn plan w).elim old fun b => ⟨ssrc, some b⟩ := by
  intro plan
  rcases planned l suffix ssrc codec primary with hp | ⟨c, hp⟩
  · rw [show plan = none from hp]
    rfl
  · rw [show plan = some _ from hp]
    rfl

def rtxPlan (l : Launch) (c : Coding) (codec : Codec) : Option CompanionPlan :=
  planCompanion l "_rtx" c.rtx (rtxCodec l codec) ⟨c.ssrc, codec.payloadType⟩

def fecPlan (l : Launch) (c : Coding) (codec : Codec) : Option CompanionPlan :=
  planCompanion l "_fec" c.fec l.fecCodecs.head? ⟨c.ssrc, codec.payloadType⟩

def primaryBound (l : Launch) (e : Encoding) (c : Coding) (t : Track) (codec : Codec)
    (w : Endpoint) : Endpoint :=
  bindPrimary w.nextStream w.nextGate (l.describe c.ssrc codec)
    ((openPrimary e c w).bindTrack t (contextOf l.id t c w))

def connection (l : Launch) (e : Encoding) (c : Coding) (t : Track) (codec : Codec) (w : Endpoint) :
    Connection where
  encoding := e
  coding := c
  track := t
  stream := w.nextStream
  gate := w.nextGate
  deadline := (w.stream e.primary.stream).deadline
  codec := codec
  description := l.describe c.ssrc codec
  rtx := companionIn (rtxPlan l c codec) (primaryBound l e c t codec w)
  fec := companionIn (fecPlan l c codec)
    (bindCompanion (rtxPlan l c codec) (primaryBound l e c t codec w))

theorem rtxCodec_eq (l : Launch) (codec : Codec) :
    rtxCodec l codec = l.codecs.find? fun c => c.protected? == some codec.payloadType := by
  simp only [rtxCodec, Codec.retransmission, CodecMatch.first]
  cases l.codecs.find? fun c => c.protected? == some codec.payloadType with
  | some c => rfl
  | none => cases l.codecs.find? (Codec.protectsType codec l.codecs) <;> rfl

theorem fecCodec_eq (l : Launch) :
    l.fecCodecs.head? = l.codecs.find? (·.hasType Mime.flexFec) :=
  List.head?_filter

theorem attributes_describe (l : Launch) (ssrc : Ssrc) (codec : Codec) :
    (l.describe ssrc codec).attributes = l.tags codec := by
  change Attributes.ofList (l.tags codec) = l.tags codec
  simp only [Launch.tags]
  split <;> cases l.redundancy <;> split <;> rfl

theorem redundancy_eq (l : Launch) (v : Nat) :
    l.redundancy.map (·.toNat) = some v ↔
      ∃ red, l.codecs.head? = some red ∧ red.hasType Mime.red ∧ v = red.payloadType.toNat := by
  simp only [Launch.redundancy, Option.map_eq_some_iff, Option.filter_eq_some_iff]
  constructor
  · rintro ⟨p, ⟨red, ⟨hhead, htype⟩, rfl⟩, rfl⟩
    exact ⟨red, hhead, htype, rfl⟩
  · rintro ⟨red, hhead, htype, rfl⟩
    exact ⟨_, ⟨red, ⟨hhead, htype⟩, rfl⟩, rfl⟩

theorem flexFec_eq (l : Launch) :
    l.fecCodecs.isEmpty = false ↔ ∃ c ∈ l.codecs, c.hasType Mime.flexFec := by
  rw [Launch.fecCodecs, Codec.ofType, ← Bool.not_eq_true, List.isEmpty_iff, List.filter_eq_nil_iff]
  push Not
  rfl

theorem get?_redundancy (l : Launch) (ssrc : Ssrc) (codec : Codec) :
    (l.describe ssrc codec).attributes.get? StreamDescription.redundancyKey =
      if codec.hasType Mime.opus then l.redundancy.map (·.toNat) else none := by
  rw [attributes_describe, Attributes.get?, Launch.tags]
  cases codec.hasType Mime.opus <;> cases l.redundancy <;> cases l.fecCodecs.isEmpty <;> rfl

theorem get?_flexFec (l : Launch) (ssrc : Ssrc) (codec : Codec) :
    (l.describe ssrc codec).attributes.get? StreamDescription.flexFecKey =
      if l.fecCodecs.isEmpty then none else some 1 := by
  rw [attributes_describe, Attributes.get?, Launch.tags]
  cases codec.hasType Mime.opus <;> cases l.redundancy <;> cases l.fecCodecs.isEmpty <;> rfl

theorem get?_other {key : Nat} (hred : key ≠ StreamDescription.redundancyKey)
    (hfec : key ≠ StreamDescription.flexFecKey) (l : Launch) (ssrc : Ssrc) (codec : Codec) :
    (l.describe ssrc codec).attributes.get? key = none := by
  rw [attributes_describe, Attributes.get?, List.lookup_eq_none_iff]
  intro p hp
  rcases List.mem_append.mp hp with hp | hp
  · split at hp
    · obtain ⟨v, -, rfl⟩ := List.mem_map.mp hp
      exact bne_iff_ne.mpr hred
    · cases hp
  · split at hp
    · cases hp
    · cases List.mem_singleton.mp hp
      exact bne_iff_ne.mpr hfec

theorem Accompanies.of_chain {suffix : String} {ssrc : Ssrc} {codec : Option Codec}
    {primary : Primary} {b : Option BoundStream} (h : Accompanies l w' suffix ssrc codec primary b)
    (chain : w'.chain = w.chain) : Accompanies l w suffix ssrc codec primary b :=
  { h with reader := fun x hx => (h.reader x hx).trans (congrArg (Chain.reader · _) chain) }

theorem chain_primaryBound (l : Launch) (e : Encoding) (c : Coding) (t : Track) (codec : Codec)
    (w : Endpoint) : (primaryBound l e c t codec w).chain = w.chain :=
  ((untied_bindWriter _ _ _).trans (untied_resolve _ _ _)).chain.trans
    (untied_openPrimary e c w).chain

theorem connection_meets (l : Launch) (e : Encoding) (c : Coding) (t : Track) (codec : Codec)
    (w : Endpoint) : (connection l e c t codec w).Meets l w := by
  have hchain := chain_primaryBound l e c t codec w
  constructor
  case described => exact ⟨rfl, rfl, rfl, rfl, rfl⟩
  case redundancy =>
    intro v
    change (l.describe c.ssrc codec).attributes.get? _ = _ ↔ codec.hasType _ ∧ _
    rw [← redundancy_eq, get?_redundancy]
    cases codec.hasType Mime.opus <;> simp
  case flexFec =>
    intro v
    change (l.describe c.ssrc codec).attributes.get? _ = _ ↔ _
    rw [← flexFec_eq, get?_flexFec]
    cases l.fecCodecs.isEmpty <;> simp [eq_comm]
  case plain => exact fun key hred hfec => get?_other hred hfec l c.ssrc codec
  case rtx =>
    change Accompanies l w "_rtx" c.rtx
      (l.codecs.find? fun r => r.protected? == some codec.payloadType)
      ⟨c.ssrc, codec.payloadType⟩ _
    rw [← rtxCodec_eq]
    exact (accompanies l "_rtx" c.rtx (rtxCodec l codec) _ _).of_chain hchain
  case fec =>
    rw [← fecCodec_eq]
    refine (accompanies l "_fec" c.fec l.fecCodecs.head? _ _).of_chain ?_
    exact (untied_bindCompanion _ _).chain.trans hchain

section

variable (track : e.track = some t)
  (answer : t.bindResult (contextOf l.id t c w) (w.tracks.entry t.key) = .ok codec)

include answer in
theorem endpoint_connection :
    let x := connection l e c t codec w
    bindCompanion (fecPlan l c codec)
        (bindCompanion (rtxPlan l c codec) (primaryBound l e c t codec w)) =
      grown (x.toBindCall.events l w (.ok codec) ++ writerEvents w x.stream x.description ++
          x.companions.flatMap (companionEvents w))
        (x.opens.map (·.2)) [some (x.writer w)] (x.settle l w w.tracks) w := by
  intro x
  let w₁ := primaryBound l e c t codec w
  let events := x.toBindCall.events l w (.ok codec) ++ writerEvents w x.stream x.description
  have h₁ : w₁ = grown events [x.toBindCall.opens.2] [some (x.writer w)]
    (x.settle l w w.tracks) w := by
    dsimp only [w₁, primaryBound]
    rw [bindTrack_openPrimary, bindPrimary_grown, answer]
    rfl
  have h₂ : bindCompanion (rtxPlan l c codec) w₁ =
      grown (events ++ x.rtx.toList.flatMap (companionEvents w))
        ([x.toBindCall.opens.2] ++ x.rtx.toList.map fun b => { ssrc := b.description.ssrc })
        [some (x.writer w)] (x.settle l w w.tracks) w := by
    have hx : x.rtx = companionIn (rtxPlan l c codec) w₁ := rfl
    rw [hx, h₁, rtxPlan, bindCompanion_grown]
  have hx : x.fec = companionIn (fecPlan l c codec) (bindCompanion (rtxPlan l c codec) w₁) := rfl
  have hopens : x.opens.map (·.2) = [x.toBindCall.opens.2] ++
      (x.rtx.toList.map fun b => { ssrc := b.description.ssrc }) ++
        x.fec.toList.map fun b => { ssrc := b.description.ssrc } := by
    rw [Connection.opens, Connection.companions, List.map_cons, List.map_map, List.map_append]
    rfl
  rw [hopens, Connection.companions, List.flatMap_append, hx, h₂, fecPlan, bindCompanion_grown,
    List.append_assoc events]

theorem encoding_connection (l : Launch) (e : Encoding) (c : Coding) (t : Track) (codec : Codec)
    (w : Endpoint) :
    (bindStreams l t (contextOf l.id t c w) w.nextStream w.nextGate codec c e
      ((openPrimary e c w).bindTrack t (contextOf l.id t c w))).encoding =
      (connection l e c t codec w).connected l w := by
  let w₁ := primaryBound l e c t codec w
  have hrtx : companionOf (rtxPlan l c codec) e.rtx w₁ =
      (connection l e c t codec w).rtx.elim e.rtx fun b => ⟨c.rtx, some b⟩ :=
    companionOf_plan l _ _ _ _ _ _
  have hfec : companionOf (fecPlan l c codec) e.fec (bindCompanion (rtxPlan l c codec) w₁) =
      (connection l e c t codec w).fec.elim e.fec fun b => ⟨c.fec, some b⟩ :=
    companionOf_plan l _ _ _ _ _ _
  change _ = { e with
    bound := true
    ssrc := c.ssrc
    context := (contextOf l.id t c w).narrow codec
    primary := _
    rtx := (connection l e c t codec w).rtx.elim e.rtx fun b => ⟨c.rtx, some b⟩
    fec := (connection l e c t codec w).fec.elim e.fec fun b => ⟨c.fec, some b⟩ }
  rw [← hrtx, ← hfec]
  rfl

include track answer in
theorem startEncoding_connects :
    let x := connection l e c t codec w
    startEncoding l e c w =
      ⟨x.connected l w,
        grown (x.events l w) (x.opens.map (·.2)) [some (x.writer w)] (x.settle l w w.tracks) w,
        .ok codec.payloadType⟩ := by
  intro x
  let started := bindStreams l t (contextOf l.id t c w) w.nextStream w.nextGate codec c e
    ((openPrimary e c w).bindTrack t (contextOf l.id t c w))
  have hbind : (openPrimary e c w).bindResult t (contextOf l.id t c w) = .ok codec := answer
  have hstart : startEncoding l e c w = started := by
    simp only [startEncoding, track]
    rw [hbind]
  have hendpoint : started.endpoint = grown (x.events l w) (x.opens.map (·.2))
      [some (x.writer w)] (x.settle l w w.tracks) w := by
    change (bindCompanion (fecPlan l c codec)
      (bindCompanion (rtxPlan l c codec) (primaryBound l e c t codec w))).log .trace _ = _
    rw [endpoint_connection answer, log_grown]
    rfl
  have hencoding : started.encoding = x.connected l w := encoding_connection l e c t codec w
  rw [hstart, ← hendpoint, ← hencoding]
  rfl

end

def refusedCall (e : Encoding) (c : Coding) (t : Track) (w : Endpoint) : BindCall where
  encoding := e
  coding := c
  track := t
  stream := w.nextStream
  gate := w.nextGate
  deadline := (w.stream e.primary.stream).deadline

theorem startEncoding_refused (track : e.track = some t)
    (answer : t.bindResult (contextOf l.id t c w) (w.tracks.entry t.key) = .error f) :
    let x := refusedCall e c t w
    startEncoding l e c w =
      ⟨x.refused l w, grown (x.events l w (.error f)) [x.opens.2] [none] (x.settle l w w.tracks) w,
        .error f⟩ := by
  intro x
  have hbind : (openPrimary e c w).bindResult t (contextOf l.id t c w) = .error f := answer
  have hs := encodingStarted l e c w
  generalize startEncoding l e c w = r at hs
  cases hs with
  | missing none => cases none.symm.trans track
  | failed t' f' track' bind =>
    cases track.symm.trans track'
    cases hbind.symm.trans bind
    rw [bindTrack_openPrimary, answer]
    rfl
  | bound t' codec track' bind =>
    cases track.symm.trans track'
    cases hbind.symm.trans bind

theorem streams_connection (l : Launch) (e : Encoding) (c : Coding) (t : Track) (codec : Codec)
    (w : Endpoint) :
    let x := connection l e c t codec w
    x.opens.map (·.1) = List.range' w.nextStream x.opens.length := by
  intro x
  let w₁ := primaryBound l e c t codec w
  have hfirst : w₁.nextStream = w.nextStream + 1 := congrArg Table.size (streams_resolve _ _ _)
  have hnone : bindCompanion none w₁ = w₁ := rfl
  have hsome : ∀ p, (bindCompanion (some p) w₁).nextStream = w.nextStream + 2 := fun _ =>
    congrArg (· + 1) hfirst
  have hids : x.opens.map (·.1) = w.nextStream :: x.companions.map (·.stream) := by
    rw [Connection.opens, List.map_cons, List.map_map]
    rfl
  have hlength : x.opens.length = x.companions.length + 1 := by
    rw [Connection.opens, List.length_cons, List.length_map]
  rw [hids, hlength, List.range'_succ]
  change _ :: ((companionIn (rtxPlan l c codec) w₁).toList ++
    (companionIn (fecPlan l c codec) (bindCompanion (rtxPlan l c codec) w₁)).toList).map _ =
    _ :: List.range' _ ((companionIn (rtxPlan l c codec) w₁).toList ++
      (companionIn (fecPlan l c codec) (bindCompanion (rtxPlan l c codec) w₁)).toList).length
  cases rtxPlan l c codec <;> cases fecPlan l c codec <;>
    simp [companionIn, hfirst, hnone, hsome, List.range'_succ]

theorem Connection.Meets.of_chain {x : Connection} (h : x.Meets l w') (chain : w'.chain = w.chain) :
    x.Meets l w :=
  { h with rtx := h.rtx.of_chain chain, fec := h.fec.of_chain chain }

theorem context_of_setup (b : BindCall) (setup : SameSetup w w') :
    b.context l w' = b.context l w := by
  simp only [BindCall.context, readerOf, setup.chain, setup.capabilities]

theorem Answered.of_setup {calls : List (BindCall × Outcome Codec)} {tracks : Table TrackState}
    (h : Answered l w' calls tracks) (setup : SameSetup w w') : Answered l w calls tracks := by
  induction calls generalizing tracks with
  | nil => trivial
  | cons b calls ih =>
    rw [Answered, BindCall.settle, context_of_setup b.1 setup] at h
    exact ⟨h.1, ih h.2⟩

section

variable (track : e.track = some t)

include track in
theorem connects_refused
    (answer : t.bindResult (contextOf l.id t c w) (w.tracks.entry t.key) = .error f)
    (es : List Encoding) (cs : List Coding) :
    Startup.Connects l (e :: es) (c :: cs) w ((startEncoding l e c w).encoding :: es)
      (startEncoding l e c w).endpoint ⟨[], some (refusedCall e c t w, f)⟩ := by
  rw [startEncoding_refused track answer]
  constructor
  case encodings => exact ⟨es, rfl, rfl, nofun⟩
  case codings => exact List.cons_prefix_cons.mpr ⟨rfl, List.nil_prefix⟩
  case holds => exact List.forall_mem_singleton.mpr track
  case answered => exact ⟨answer, trivial⟩
  case meets => exact List.forall_mem_nil _
  case deadlines => exact List.forall_mem_singleton.mpr rfl
  case streams => rfl
  case gates => rfl
  case endpoint => exact congrArg (grown · _ _ _ _) (List.append_nil _).symm

include track in
theorem Startup.Connects.cons {x : Startup}
    (answer : t.bindResult (contextOf l.id t c w) (w.tracks.entry t.key) = .ok codec)
    (known : ∀ e ∈ es, e.Known w)
    (h : x.Connects l es cs (startEncoding l e c w).endpoint es' w') :
    Startup.Connects l (e :: es) (c :: cs) w ((startEncoding l e c w).encoding :: es') w'
      ⟨connection l e c t codec w :: x.connections, x.refusal⟩ := by
  rw [startEncoding_connects track answer] at h ⊢
  let first := connection l e c t codec w
  let w₁ := grown (first.events l w) (first.opens.map (·.2)) [some (first.writer w)]
    (first.settle l w w.tracks) w
  have hsetup : SameSetup w w₁ := ⟨rfl, rfl, rfl, rfl⟩
  have hstreams : w₁.nextStream = w.nextStream + first.opens.length := by
    rw [← List.length_map (f := Prod.snd)]
    exact Table.size_pushAll _ _
  obtain ⟨rest, hes, hes', hrest⟩ := h.encodings
  constructor
  case encodings =>
    exact ⟨rest, congrArg (e :: ·) hes, congrArg (first.connected l w :: ·) hes', hrest⟩
  case codings => exact List.cons_prefix_cons.mpr ⟨rfl, h.codings⟩
  case holds => exact List.forall_mem_cons.mpr ⟨track, h.holds⟩
  case answered => exact ⟨answer, h.answered.of_setup hsetup⟩
  case meets =>
    exact List.forall_mem_cons.mpr
      ⟨connection_meets l e c t codec w, fun y hy => (h.meets y hy).of_chain rfl⟩
  case deadlines =>
    refine List.forall_mem_cons.mpr ⟨rfl, fun y hy => (h.deadlines y hy).trans ?_⟩
    -- The new streams are none of those that the other encodings had.
    have hmem : y.1.encoding ∈ es :=
      hes ▸ List.mem_append_left _ (List.mem_map_of_mem (f := fun c => c.1.encoding) hy)
    exact congrArg LazyStream.deadline
      (Table.entry_pushAll_lt _ w.streams (known _ hmem).primary.stream)
  case streams =>
    have hopens : Startup.opens ⟨first :: x.connections, x.refusal⟩ = first.opens ++ x.opens :=
      List.append_assoc _ _ _
    rw [hopens, List.map_append, streams_connection, h.streams]
    change _ ++ List.range' w₁.nextStream _ = _
    rw [hstreams, List.length_append, List.range'_append_1]
  case gates =>
    change w.nextGate :: List.map _ x.calls = List.range' w.nextGate (x.calls.length + 1)
    rw [h.gates, List.range'_succ]
    rfl
  case endpoint =>
    have hevents : Startup.events l w ⟨first :: x.connections, x.refusal⟩ =
        first.events l w ++ x.events l w := List.append_assoc _ _ _
    have hopens : Startup.opens ⟨first :: x.connections, x.refusal⟩ = first.opens ++ x.opens :=
      List.append_assoc _ _ _
    rw [h.endpoint, hevents, hopens, List.map_append]
    exact grown_grown _ _ _ _ _ _ _ _ w

end

theorem startAll_connects (l : Launch) (hlen : es.length ≤ cs.length) (known : ∀ e ∈ es, e.Known w)
    (tracks : ∀ e ∈ es, ∃ t, e.track = some t) :
    ∃ x : Startup,
      x.Connects l es cs w (startAll l es cs w).encodings (startAll l es cs w).endpoint ∧
        (startAll l es cs w).outcome = match x.refusal with
          | some r => .error r.2
          | none => .ok (x.connections.head?.map (·.codec.payloadType)) := by
  induction es generalizing cs w with
  | nil =>
    refine ⟨⟨[], none⟩, ?_, rfl⟩
    constructor
    case encodings => exact ⟨[], rfl, rfl, fun _ => rfl⟩
    case codings => exact List.nil_prefix
    case answered => trivial
    case endpoint => exact (grown_nil w).symm
    case streams => rfl
    case gates => rfl
    all_goals exact List.forall_mem_nil _
  | cons e es ih =>
    cases cs with
    | nil => cases hlen
    | cons c cs =>
      obtain ⟨t, track⟩ := tracks e List.mem_cons_self
      cases answer : t.bindResult (contextOf l.id t c w) (w.tracks.entry t.key) with
      | error f =>
        have hfirst : (startEncoding l e c w).outcome = .error f := by
          rw [startEncoding_refused track answer]
        rw [startAll_error hfirst]
        exact ⟨_, connects_refused track answer es cs, rfl⟩
      | ok codec =>
        have hfirst : (startEncoding l e c w).outcome = .ok codec.payloadType := by
          rw [startEncoding_connects track answer]
        have hextends := (startEncoding_makes l c (known e List.mem_cons_self)).1.extends
        have hknown : ∀ e' ∈ es, e'.Known w := fun e' he' => known e' (List.mem_cons_of_mem _ he')
        obtain ⟨x, hx, ho⟩ := ih (Nat.le_of_succ_le_succ hlen)
          (fun e' he' => (hknown e' he').extends hextends)
          fun e' he' => tracks e' (List.mem_cons_of_mem _ he')
        rw [startAll_ok hfirst]
        refine ⟨_, hx.cons track answer hknown, ?_⟩
        rw [ho]
        cases x.refusal <;> rfl

/-- What a start of a sender comes to. -/
structure Starts (p : SendParameters) (a : Sender) (w : Endpoint) (r : Result) (x : Startup) :
    Prop where
  connects : x.Connects ⟨a.id, w.capabilities.codecs a.kind, p.media.headerExtensions⟩ a.encodings
    p.codings w r.sender.encodings r.endpoint
  sent : x.refusal = none → r.outcome = .ok () ∧ ∃ first, x.connections.head? = some first ∧
    r.sender = { a with
      encodings := r.sender.encodings
      payloadType := first.codec.payloadType
      lifecycle := .sending }
  refused : ∀ b f, x.refusal = some (b, f) →
    r.outcome = .error f ∧ r.sender = { a with encodings := r.sender.encodings }

variable {a : Sender}

theorem startFailure_none (p : SendParameters) (idle : a.lifecycle = .idle)
    (based : a.baseTrack.isSome) (enough : a.encodings.length ≤ p.codings.length) :
    a.startFailure p = none := by
  have hbase : a.baseTrack.isNone = false := by
    rwa [← Option.not_isSome, Bool.not_eq_eq_eq_not, Bool.not_false]
  rw [startFailure, idle, hbase]
  exact if_neg (Nat.not_lt.mpr enough)

theorem tracks_of_base (h : Envelope a.kind a.tracks) (based : a.baseTrack.isSome) :
    ∀ e ∈ a.encodings, ∃ t, e.track = some t := by
  obtain ⟨b, hb⟩ := Option.isSome_iff_exists.mp based
  obtain ⟨first, hfirst, htrack⟩ := Option.bind_eq_some_iff.mp hb
  have hhead : a.tracks.head? = some (some b) := by
    rw [tracks, List.head?_map, ← htrack]
    exact congrArg _ hfirst
  intro e he
  cases ht : e.track with
  | some t => exact ⟨t, rfl⟩
  | none => exact absurd (List.mem_map.mpr ⟨e, he, ht⟩) (h.complete b hhead)

theorem starts (p : SendParameters) (h : Envelope a.kind a.tracks) (known : a.Known w)
    (idle : a.lifecycle = .idle) (based : a.baseTrack.isSome)
    (enough : a.encodings.length ≤ p.codings.length) :
    ∃ x, Starts p a w (a.start p w) x := by
  have check := startFailure_none p idle based enough
  obtain ⟨x, hx, ho⟩ := startAll_connects (a.launch p w) enough known (tracks_of_base h based)
  have hr := launched p a w
  generalize a.start p w = r at hr
  cases hr with
  | refused f hf => cases check.symm.trans hf
  | failed f r _ all outcome =>
    subst all
    refine ⟨x, hx, fun hn => ?_, fun b f' hf => ?_⟩
    · rw [outcome, hn] at ho
      cases ho
    · rw [outcome, hf] at ho
      cases ho
      exact ⟨rfl, rfl⟩
  | sent payloadType r _ all outcome =>
    subst all
    refine ⟨x, hx, fun hn => ⟨rfl, ?_⟩, fun b f hf => ?_⟩
    · rw [outcome, hn] at ho
      obtain ⟨rest, hes, -, hrest⟩ := hx.encodings
      cases hc : x.connections with
      | nil =>
        -- Then there are no encodings, and no base with a track.
        have hnone : a.encodings = [] := by
          rw [hes, hrest hn, Startup.calls, hc, hn]
          rfl
        rw [baseTrack, base, hnone] at based
        cases based
      | cons first rest =>
        rw [hc] at ho
        cases ho
        exact ⟨first, rfl, rfl⟩
    · rw [outcome, hf] at ho
      cases ho

end Sender

namespace Session

open Sender

variable {σ : Session} {k : SenderKey}

/-- What a start of a sender comes to between two moves, and that a move starts it so. -/
structure Launches (k : SenderKey) (p : SendParameters) (τ : Session) : Prop where
  starts : ∃ x, Starts p (τ.sender k) τ.endpoint ((τ.sender k).start p τ.endpoint) x
  moves : ∀ m, τ.action? m = some (k, .start p) →
    (τ.act m).1.sender k = ((τ.sender k).start p τ.endpoint).sender ∧
      (τ.act m).1.endpoint = ((τ.sender k).start p τ.endpoint).endpoint ∧
      (τ.act m).2 = .answered (.outcome ((τ.sender k).start p τ.endpoint).outcome)

/-- A sender that is idle connects its encodings in order, up to the first one whose track refuses
its bind. -/
theorem start_connects_in_order (fresh : σ.Fresh) (ms : List Move)
    (made : k < (σ.after ms).roster.senders.size) (p : SendParameters)
    (idle : ((σ.after ms).sender k).lifecycle = .idle)
    (based : ((σ.after ms).sender k).baseTrack.isSome)
    (enough : ((σ.after ms).sender k).encodings.length ≤ p.codings.length) :
    Launches k p (σ.after ms) where
  starts := Sender.starts p (fresh.enveloped.after fresh.sound ms k made)
    ((fresh.sound.after ms).senders k) idle based enough
  moves _ action :=
    ⟨sender_act action, endpoint_act action, congrArg Prod.snd (act_of_action action)⟩

theorem gone_track_ends_start :
    let τ := goneSession.after twoLayers
    let p := startParameters none none (τ.sender 0) τ.endpoint
    Launches 0 p τ ∧ τ.action? launchMove = some (0, .start p) ∧
      (τ.act launchMove).2 = .answered (.outcome (.error .trackRemoved)) := by
  refine ⟨?_, rfl, rfl⟩
  exact start_connects_in_order (fresh_of_tracks rfl _) twoLayers (by decide) _ rfl rfl (by decide)

end Session

end MediaSender

import MediaSender.Proofs.Run.Actions
import MediaSender.Proofs.Run.Poll
/-!
What a move does to a session. Most moves leave the senders alone and change the endpoint step by
step; the others change the world, give a name to a new stream, make a sender, or act on one.
-/

namespace MediaSender

open Endpoint

structure Call.Fits {α : Type} (free : StreamId → Prop) (w : Endpoint) (c : Call α) : Prop where
  within : c.task.Within w.Known (w.Writable free)
  waits : c.progress.Fits c.task.stream? w

theorem Task.Within.stream {α : Type} {reads writes : StreamId → Prop} {t : Task α}
    (h : t.Within reads writes) {s : StreamId} (hs : t.stream? = some s) : reads s ∨ writes s := by
  cases t with
  | done a => cases hs
  | ask r next =>
    obtain ⟨ha, -⟩ := h
    cases r with
    | read s' size =>
      cases hs
      exact .inl ha
    | write s' packet =>
      cases hs
      exact .inr ha
    | _ => cases hs

theorem Call.Fits.extends {α : Type} {free free' : StreamId → Prop} {w w' : Endpoint} {c : Call α}
    (h : c.Fits free w) (hw : w.Sound free) (he : Extends w w') (hf : ∀ s, free s → free' s) :
    c.Fits free' w' where
  within := h.within.mono (fun _ hs => he.known hs) fun _ hs => (he.writable hs).imp_left (hf _)
  waits deadline i hp hi :=
    (he.grows i ((h.within.stream hi).elim id hw.known)).opened (h.waits deadline i hp hi)

/-- Readers, writers and contexts that have names are made by hand, and lead to no stream. -/
structure Directory.Plain (d : Directory) : Prop where
  readers : ∀ p ∈ d.readers, p.2.target? = none
  writers : ∀ p ∈ d.writers, p.2.target? = none
  contexts : ∀ p ∈ d.contexts, p.2.reader = none

structure Endpoint.Around (w w' : Endpoint) : Prop where
  streams : w'.streams = w.streams
  gates : w'.gates = w.gates
  tracks : w'.tracks = w.tracks
  trace : w'.trace = w.trace
  trap : ∀ s, w'.Trapped s → w.Known s

namespace Session

/-- Streams that have names: every call may read them and write to them. -/
def Free (σ : Session) (s : StreamId) : Prop := ∃ n, (n, s) ∈ σ.directory.streams

structure Sound (σ : Session) : Prop where
  endpoint : σ.endpoint.Sound σ.Free
  calls : ∀ c ∈ σ.calls, c.Fits σ.Free σ.endpoint
  senders : ∀ k, (σ.sender k).Known σ.endpoint
  plain : σ.directory.Plain
  keys : ∀ p ∈ σ.directory.senders, p.2 < σ.roster.senders.size

def asked? (σ : Session) (k : SenderKey) : SenderCommand → Option Sender.Action
  | .extend track => some (.extend (σ.trackNamed track))
  | .swapTrack track => some (.swapTrack (σ.trackNamed track))
  | .start codings extensions =>
    some (.start (startParameters codings extensions (σ.sender k) σ.endpoint))
  | .stop => some .stop
  | _ => none

def action? (σ : Session) : Move → Option (SenderKey × Sender.Action)
  | .issue (.sender name c) =>
    (σ.directory.senders.lookup name).bind fun k => (σ.asked? k c).map (k, ·)
  | _ => none

/-- The streams whose close a move may call: by its command, by a stop, or inside of an open. -/
def Closes (σ : Session) (m : Move) (s : StreamId) : Prop :=
  (∃ name, m = .issue (.stream name .close) ∧ σ.directory.streams.lookup name = some s) ∨
    (∃ k x, σ.action? m = some (k, x) ∧ x.Closes (σ.sender k) s) ∨ σ.endpoint.Trapped s

structure SameSenders (σ σ' : Session) : Prop where
  size : σ'.roster.senders.size = σ.roster.senders.size
  encodings : ∀ k, (σ'.sender k).encodings = (σ.sender k).encodings
  lifecycle : ∀ k, (σ'.sender k).lifecycle = (σ.sender k).lifecycle
  keys : σ'.directory.senders = σ.directory.senders
  streams : σ'.directory.streams = σ.directory.streams

inductive Effect (m : Move) (σ : Session) : Session → Prop
  | quiet {σ' : Session} (action : σ.action? m = none)
      (endpoint : Evolves σ.Free (σ.Closes m) σ.endpoint σ'.endpoint)
      (calls : ∀ c ∈ σ'.calls, c ∈ σ.calls ∨ c.Fits σ.Free σ'.endpoint)
      (plain : σ'.directory.Plain) (same : SameSenders σ σ') : Effect m σ σ'
  | world {σ' : Session} (action : σ.action? m = none)
      (endpoint : Around σ.endpoint σ'.endpoint) (calls : σ'.calls = σ.calls)
      (directory : σ'.directory = σ.directory) (roster : σ'.roster = σ.roster) : Effect m σ σ'
  | addStream {σ' : Session} (name : String) (ssrc : Ssrc) (action : σ.action? m = none)
      (endpoint : σ'.endpoint = σ.endpoint.addStream ssrc none)
      (calls : σ'.calls = σ.calls)
      (directory : σ'.directory =
        { σ.directory with streams := (name, σ.endpoint.nextStream) :: σ.directory.streams })
      (roster : σ'.roster = σ.roster) : Effect m σ σ'
  | create {σ' : Session} (name : String) (a : Sender) (t : Track) (creates : m.creates)
      (encodings : a.encodings = [])
      (endpoint : σ'.endpoint = (a.append t σ.endpoint.drawId).2) (calls : σ'.calls = σ.calls)
      (directory : σ'.directory =
        { σ.directory with senders := (name, σ.roster.senders.size) :: σ.directory.senders })
      (roster : σ'.roster = σ.roster.addSender (a.append t σ.endpoint.drawId).1) : Effect m σ σ'
  | act {σ' : Session} {k : SenderKey} {x : Sender.Action} (action : σ.action? m = some (k, x))
      (endpoint : σ'.endpoint = ((σ.sender k).act x σ.endpoint).endpoint)
      (calls : σ'.calls = σ.calls) (directory : σ'.directory = σ.directory)
      (roster : σ'.roster = σ.roster.setSender k ((σ.sender k).act x σ.endpoint).sender) :
      Effect m σ σ'

inductive Begun (m : Move) (σ : Session) : Started → Prop
  | refused (action : σ.action? m = none) : Begun m σ .refused
  | finished (r : Reply) {σ' : Session} (effect : Effect m σ σ') : Begun m σ (.finished r σ')
  | waiting {t : Task Reply} (action : σ.action? m = none)
      (within : t.Within σ.endpoint.Known (σ.endpoint.Writable σ.Free)) : Begun m σ (.waiting t)

variable {σ : Session} {m : Move}

theorem mem_of_lookup {α : Type} {names : Names α} {name : String} {a : α}
    (h : names.lookup name = some a) : (name, a) ∈ names := by
  obtain ⟨l₁, l₂, rfl, -⟩ := List.lookup_eq_some_iff.mp h
  exact List.mem_append_right _ List.mem_cons_self

theorem sameSenders_of_eq {σ' : Session} (hr : σ'.roster = σ.roster)
    (hk : σ'.directory.senders = σ.directory.senders)
    (hs : σ'.directory.streams = σ.directory.streams) : SameSenders σ σ' where
  size := congrArg (·.senders.size) hr
  encodings k := congrArg (fun r => (r.sender k).encodings) hr
  lifecycle k := congrArg (fun r => (r.sender k).lifecycle) hr
  keys := hk
  streams := hs

section

variable (action : σ.action? m = none)

include action

theorem begun_named {α : Type} {names : Names α} {name : String} {f : α → Started}
    (hf : ∀ a, names.lookup name = some a → Begun m σ (f a)) :
    Begun m σ (withNamed names name f) := by
  simp only [withNamed]
  split
  · rename_i a ha
    exact hf a ha
  · exact .refused action

theorem begun_answer (h : σ.Sound) (r : Reply) : Begun m σ (.finished r σ) :=
  .finished r (.quiet action (.refl _) (fun _ => .inl) h.plain
    (sameSenders_of_eq rfl rfl rfl))

theorem begun_evolve (h : σ.Sound) {w : Endpoint} (r : Reply)
    (hw : Evolves σ.Free (σ.Closes m) σ.endpoint w) :
    Begun m σ (.finished r { σ with endpoint := w }) :=
  .finished r (.quiet action hw (fun _ => .inl) h.plain
    (sameSenders_of_eq rfl rfl rfl))

theorem begun_name {w : Endpoint} {d : Directory} (r : Reply)
    (hw : Evolves σ.Free (σ.Closes m) σ.endpoint w) (hk : d.senders = σ.directory.senders)
    (hs : d.streams = σ.directory.streams) (hd : d.Plain) :
    Begun m σ (.finished r { σ with endpoint := w, directory := d }) :=
  .finished r (.quiet action hw (fun _ => .inl) hd
    (sameSenders_of_eq rfl hk hs))

theorem begun_roster {roster : Roster} {d : Directory} (r : Reply)
    (hsize : roster.senders.size = σ.roster.senders.size)
    (he : ∀ k, (roster.sender k).encodings = (σ.roster.sender k).encodings)
    (hl : ∀ k, (roster.sender k).lifecycle = (σ.roster.sender k).lifecycle)
    (hk : d.senders = σ.directory.senders) (hs : d.streams = σ.directory.streams)
    (hd : d.Plain) : Begun m σ (.finished r { σ with roster := roster, directory := d }) :=
  .finished r (.quiet action (.refl _) (fun _ => .inl) hd ⟨hsize, he, hl, hk, hs⟩)

theorem begun_around {w : Endpoint} (r : Reply) (hw : Around σ.endpoint w) :
    Begun m σ (.finished r { σ with endpoint := w }) :=
  .finished r (.world action hw rfl rfl rfl)

end

theorem evolves_surroundings {free closes : StreamId → Prop} {w w' : Endpoint}
    (streams : w'.streams = w.streams) (gates : w'.gates = w.gates) (tracks : w'.tracks = w.tracks)
    (trace : w'.trace = w.trace) (queue : w'.transport.queue = w.transport.queue)
    (trap : w'.transport.trap = w.transport.trap) : Evolves free closes w w' :=
  Change.evolves (.surroundings streams gates tracks trace queue fun _ hs => trap ▸ hs)

theorem evolves_drop {α : Type} {free closes : StreamId → Prop} (c : Call α) (w : Endpoint) :
    Evolves free closes w (c.drop w) := by
  simp only [Call.drop]
  split
  · exact evolves_releaseClaim c.ticket _ w
  · exact .refl w

theorem plain_transceivers {d : Directory} (h : d.Plain) (transceivers : Names Nat) :
    { d with transceivers := transceivers }.Plain := ⟨h.readers, h.writers, h.contexts⟩

theorem evolves_setDeadline {free closes : StreamId → Prop} (s : StreamId)
    (deadline : Option Instant) (w : Endpoint) : Evolves free closes w (w.setDeadline s deadline) :=
  Change.evolves (.tend w s (fun _ => rfl) (fun _ => rfl) (fun _ => rfl) fun _ => rfl)

theorem begun_worldCommand (h : σ.Sound) (c : WorldCommand) :
    Begun (.issue (.world c)) σ (σ.worldCommand c) := by
  cases c with
  | push ssrc datagram => exact begun_around rfl _ ⟨rfl, rfl, rfl, rfl, h.endpoint.trap⟩
  | ready isReady => exact begun_evolve rfl h _ (evolves_surroundings rfl rfl rfl rfl rfl rfl)
  | fail ssrc op failure =>
    exact begun_evolve rfl h _ (evolves_surroundings rfl rfl rfl rfl rfl rfl)
  | advance ms => exact begun_evolve rfl h _ (evolves_surroundings rfl rfl rfl rfl rfl rfl)
  | trap stream =>
    refine begun_named rfl fun i hi => ?_
    refine begun_around rfl _ ⟨rfl, rfl, rfl, rfl, fun s hs => ?_⟩
    cases hs
    exact (h.endpoint.free i ⟨stream, mem_of_lookup hi⟩).1
  | cancel step =>
    change Begun _ σ (σ.cancel step)
    simp only [cancel]
    split
    · exact begun_answer rfl h _
    · rename_i c _
      exact .finished _ (.quiet rfl (evolves_drop c _)
        (fun _ hc' => .inl (List.mem_filter.mp hc').1) h.plain (sameSenders_of_eq rfl rfl rfl))
  | createTransceiver name codecs =>
    change Begun _ σ (.finished _ (σ.createTransceiver name codecs))
    dsimp only [createTransceiver, forgetTransceiver]
    split
    · exact begun_name rfl _ (evolves_surroundings rfl rfl rfl rfl rfl rfl) rfl rfl
        (plain_transceivers h.plain _)
    · exact begun_name rfl _ (evolves_surroundings rfl rfl rfl rfl rfl rfl) rfl rfl
        (plain_transceivers h.plain _)
  | dropTransceiver name =>
    change Begun _ σ (.finished _ (σ.forgetTransceiver name))
    simp only [forgetTransceiver]
    split
    · exact begun_answer rfl h _
    · exact begun_name rfl _ (evolves_surroundings rfl rfl rfl rfl rfl rfl) rfl rfl
        (plain_transceivers h.plain _)
  | nothing => exact begun_answer rfl h _

theorem Sound.free_known (h : σ.Sound) {s : StreamId} (hs : σ.Free s) : σ.endpoint.Known s :=
  (h.endpoint.free s hs).1

theorem within_readStream {reads writes : StreamId → Prop} {s : StreamId} (h : reads s)
    (size : Nat) (attributes : Attributes) :
    ((Reader.stream s).read size attributes).Within reads writes :=
  Reader.within_read size (fun _ hs => Option.some.inj hs ▸ h) attributes

theorem within_writeStream {reads writes : StreamId → Prop} {s : StreamId} (h : writes s)
    (packet : Packet) (attributes : Attributes) :
    ((Writer.stream s).write (packet, attributes)).Within reads writes :=
  Writer.within_write (fun _ hs => Option.some.inj hs ▸ h) _

theorem begun_streamCommand (h : σ.Sound) (name : String) (c : StreamCommand) :
    Begun (.issue (.stream name c)) σ (σ.streamCommand name c) := by
  have free : ∀ i, σ.directory.streams.lookup name = some i → σ.Free i :=
    fun i hi => ⟨name, mem_of_lookup hi⟩
  cases c with
  | create ssrc => exact .finished _ (.addStream name ssrc rfl rfl rfl rfl rfl)
  | ssrc => exact begun_named rfl fun i _ => begun_answer rfl h _
  | write packet attributes =>
    exact begun_named rfl fun i hi => .waiting rfl
      (Task.within_map _ (within_writeStream (.inl (free i hi)) packet attributes))
  | read size =>
    exact begun_named rfl fun i hi => .waiting rfl
      (Task.within_map _ (within_readStream (h.free_known (free i hi)) size []))
  | readWith size attributes =>
    exact begun_named rfl fun i hi => .waiting rfl
      (Task.within_map _ (within_readStream (h.free_known (free i hi)) size attributes))
  | close =>
    exact begun_named rfl fun i hi => begun_evolve rfl h _
      (Change.evolves (.close _ (h.free_known (free i hi)) (.inl ⟨name, rfl, hi⟩)))
  | setDeadline ms =>
    exact begun_named rfl fun i _ => begun_evolve rfl h _ (evolves_setDeadline i _ _)
  | deadline => exact begun_named rfl fun i _ => begun_answer rfl h _

theorem begun_resolveGate (h : σ.Sound) {name : String} {c : GateCommand} (g : GateId) {x : Writer}
    (hx : ∀ s, x.target? = some s → σ.Free s) :
    Begun (.issue (.gate name c)) σ (σ.resolveGate g x) :=
  begun_evolve rfl h _ (Change.evolves (.resolve _ g fun s hs => .inl (hx s hs)))

theorem begun_gateCommand (h : σ.Sound) (name : String) (c : GateCommand) :
    Begun (.issue (.gate name c)) σ (σ.gateCommand name c) := by
  cases c with
  | create =>
    exact begun_name rfl _ (Change.evolves (.addGate _)) rfl rfl
      ⟨h.plain.readers, h.plain.writers, h.plain.contexts⟩
  | resolveStream stream =>
    refine begun_named rfl fun g _ => begun_named rfl fun i hi => ?_
    exact begun_resolveGate h g fun s hs => Option.some.inj hs ▸ ⟨stream, mem_of_lookup hi⟩
  | resolveSink sink failure =>
    exact begun_named rfl fun g _ => begun_resolveGate h g fun s hs => nomatch hs
  | isResolved => exact begun_named rfl fun g _ => begun_answer rfl h _
  | write packet attributes =>
    exact begun_named rfl fun g _ => .waiting rfl
      (Task.within_map _ (within_writeGate g packet attributes))

theorem begun_lifecycleCommand (h : σ.Sound) (name : String) (c : LifecycleCommand) :
    Begun (.issue (.lifecycle name c)) σ (σ.lifecycleCommand name c) := by
  have set : ∀ (n : Nat) (l : Lifecycle) (r : Reply),
      Begun (.issue (.lifecycle name c)) σ (.finished r (σ.setLifecycle n l)) := fun n l r =>
    begun_roster rfl r rfl (fun _ => rfl) (fun _ => rfl) rfl rfl h.plain
  cases c with
  | create =>
    exact begun_roster rfl _ rfl (fun _ => rfl) (fun _ => rfl) rfl rfl
      ⟨h.plain.readers, h.plain.writers, h.plain.contexts⟩
  | start => exact begun_named rfl fun n _ => set n _ _
  | stop => exact begun_named rfl fun n _ => set n _ _
  | state => exact begun_named rfl fun n _ => begun_answer rfl h _
  | awaitSending =>
    exact begun_named rfl fun n _ => .waiting rfl
      (Task.within_map _ (Task.within_request trivial))

theorem evolves_reportAll {free closes : StreamId → Prop} (rs : List Report) (w : Endpoint) :
    Evolves free closes w (w.reportAll rs) := by
  have h : ∀ e ∈ rs.map Event.report, e.isNote := by
    intro e he
    obtain ⟨r, -, rfl⟩ := List.mem_map.mp he
    rfl
  exact (Change.notes w h).evolves

theorem begun_chainCommand (h : σ.Sound) (c : ChainCommand) :
    Begun (.issue (.chain c)) σ (σ.chainCommand c) := by
  cases c with
  | bindReader name failure =>
    refine begun_name rfl _ (evolves_reportAll _ _) rfl rfl
      ⟨List.forall_mem_cons.mpr ⟨?_, h.plain.readers⟩, h.plain.writers, h.plain.contexts⟩
    exact Chain.reader_target σ.endpoint.chain (.sink name failure)
  | bindWriter name d failure =>
    refine begun_name rfl _ (evolves_reportAll _ _) rfl rfl
      ⟨h.plain.readers, List.forall_mem_cons.mpr ⟨?_, h.plain.writers⟩, h.plain.contexts⟩
    exact Chain.writer_target σ.endpoint.chain d (.sink name failure)
  | read name size attributes =>
    refine begun_named rfl fun r hr => .waiting rfl
      (Task.within_map _ (Reader.within_read size (fun s hs => ?_) attributes))
    rw [h.plain.readers _ (mem_of_lookup hr)] at hs
    cases hs
  | write name packet attributes =>
    refine begun_named rfl fun x hx => .waiting rfl
      (Task.within_map _ (Writer.within_write (fun s hs => ?_) _))
    rw [h.plain.writers _ (mem_of_lookup hx)] at hs
    cases hs
  | release d => exact begun_evolve rfl h _ (evolves_reportAll _ _)
  | close => exact begun_evolve rfl h _ (evolves_reportAll _ _)

theorem begun_contextCommand (h : σ.Sound) (name : String) (c : ContextCommand) :
    Begun (.issue (.context name c)) σ (σ.contextCommand name c) := by
  cases c with
  | create id ssrc codecs extensions gate =>
    exact begun_name rfl _ (.refl _) rfl rfl
      ⟨h.plain.readers, h.plain.writers, List.forall_mem_cons.mpr ⟨rfl, h.plain.contexts⟩⟩
  | info => exact begun_named rfl fun c _ => begun_answer rfl h _

section

variable (action : σ.action? m = none)

include action

theorem begun_withContext (t : Track) (index : Nat) {f : Context → Started}
    (hf : ∀ c ∈ (σ.endpoint.track t).contexts, Begun m σ (f c)) :
    Begun m σ (σ.withContext t index f) := by
  simp only [withContext]
  split
  · exact .refused action
  · split
    · rename_i c hc
      exact hf c (List.mem_of_getElem? hc)
    · exact .refused action

theorem begun_writeTrack (h : σ.Sound) (t : Track) (packet : Packet) (attributes : Attributes)
    (index : Nat) : Begun m σ (σ.writeTrack t packet attributes index) := by
  simp only [writeTrack]
  split
  · exact .waiting action (Task.within_map _ (t.within_write packet attributes))
  · refine begun_withContext action t index fun c _ => ?_
    split
    · exact .waiting action (Task.within_map _ (within_writeGate _ packet attributes))
    · exact begun_answer action h _

theorem begun_readTrack (h : σ.Sound) (t : Track) (size : Nat) (attributes : Attributes)
    (index : Nat) : Begun m σ (σ.readTrack t size attributes index) := by
  refine begun_withContext action t index fun c hc => ?_
  split
  · rename_i r hr
    exact .waiting action (Task.within_map _
      (Reader.within_read size (fun s hs => h.endpoint.contexts _ c hc r s hr hs) attributes))
  · exact begun_answer action h _

end

theorem begun_trackCommand (h : σ.Sound) (name : String) (c : TrackCommand) :
    Begun (.issue (.track name c)) σ (σ.trackCommand name c) := by
  refine begun_named rfl fun t _ => ?_
  cases c with
  | info => exact begun_answer rfl h _
  | bind context =>
    refine begun_named rfl fun c hc => begun_evolve rfl h _
      (Change.evolves (.bindTrack _ t fun r s hr _ => ?_))
    rw [h.plain.contexts _ (mem_of_lookup hc)] at hr
    cases hr
  | unbind context =>
    exact begun_named rfl fun c _ => begun_evolve rfl h _
      (Change.evolves (.unbindTrack _ t c))
  | bindingCount =>
    change Begun _ σ (if t.isFixed then _ else _)
    split
    · exact begun_answer rfl h _
    · exact .refused rfl
  | write packet attributes index => exact begun_writeTrack rfl h t packet attributes index
  | read size attributes index => exact begun_readTrack rfl h t size attributes index

theorem sender_addSender (k : SenderKey) (a : Sender) (r : Roster) :
    (r.addSender a).sender k = if k = r.senders.size then a else r.sender k := by
  by_cases hk : k = r.senders.size
  · subst hk
    rw [if_pos rfl]
    exact Table.entry_push_size _ _
  · rw [if_neg hk]
    exact Table.entry_push_ne _ _ hk

theorem begun_createSender (h : σ.Sound) (name : String) (track : Option String)
    (connected : Bool) :
    Begun (.issue (.sender name (.create track connected))) σ
      (σ.createSender name track connected) := by
  have action : σ.action? (.issue (.sender name (.create track connected))) = none :=
    Option.bind_fun_none _
  simp only [createSender]
  split
  · exact begun_answer action h _
  · rename_i a w heq
    obtain ⟨t, -, ht⟩ := Sender.create_of_ok heq
    obtain ⟨rfl, rfl⟩ := Prod.mk.inj ht
    exact .finished _ (.create name _ t rfl rfl rfl rfl rfl rfl)

theorem sender_setSender (k k' : SenderKey) (a : Sender) (r : Roster) :
    (r.setSender k a).sender k' = if k' = k then a else r.sender k' := by
  by_cases hk : k' = k
  · subst hk
    rw [if_pos rfl]
    exact Table.entry_set_self _ _ _
  · rw [if_neg hk]
    exact Table.entry_set_ne _ _ hk

theorem begun_setSender (action : σ.action? m = none) (h : σ.Sound) {k : SenderKey} {a : Sender}
    (r : Reply) (he : a.encodings = (σ.sender k).encodings)
    (hl : a.lifecycle = (σ.sender k).lifecycle) :
    Begun m σ (.finished r (σ.setSender k a)) := by
  refine begun_roster action r rfl (fun k' => ?_) (fun k' => ?_) rfl rfl h.plain
  · rw [sender_setSender]
    split
    · rename_i hk
      exact hk ▸ he
    · rfl
  · rw [sender_setSender]
    split
    · rename_i hk
      exact hk ▸ hl
    · rfl

theorem action?_sender {name : String} {k : SenderKey}
    (hk : σ.directory.senders.lookup name = some k) (c : SenderCommand) :
    σ.action? (.issue (.sender name c)) = (σ.asked? k c).map (k, ·) := by
  rw [action?, hk, Option.bind_some]

theorem begun_toSender (h : σ.Sound) {name : String} {k : SenderKey}
    (hk : σ.directory.senders.lookup name = some k) (c : SenderCommand) :
    Begun (.issue (.sender name c)) σ (σ.toSender k c) := by
  have ha := action?_sender hk c
  cases c with
  | create track connected => exact .refused ha
  | extend track => exact .finished _ (.act ha rfl rfl rfl rfl)
  | swapTrack track => exact .finished _ (.act ha rfl rfl rfl rfl)
  | start codings extensions => exact .finished _ (.act ha rfl rfl rfl rfl)
  | stop => exact .finished _ (.act ha rfl rfl rfl rfl)
  | awaitSending => exact .waiting ha (Task.within_map _ (Sender.within_awaitSending k))
  | parameters => exact begun_answer ha h _
  | state => exact begun_answer ha h _
  | summary => exact begun_answer ha h _
  | setNegotiated => exact begun_setSender ha h _ rfl rfl
  | setTransceiver transceiver => exact begun_setSender ha h _ rfl rfl
  | read feed size => exact .waiting ha (Task.within_map _ (Sender.within_read k feed size))
  | readPackets feed =>
    exact .waiting ha (Task.within_map _ (Sender.within_readPackets k feed _))
  | setBaseDeadline ms =>
    refine begun_evolve ha h _ ?_
    simp only [Sender.setBaseDeadline]
    split
    · exact evolves_setDeadline _ _ _
    · exact .refl _
  | setDeadline ms rid =>
    dsimp only [toSender, Sender.setDeadline]
    split
    · rename_i w hw
      refine begun_evolve ha h _ ?_
      split at hw
      · cases hw
        exact evolves_setDeadline _ _ _
      · cases hw
    · exact begun_answer ha h _

theorem begun_senderCommand (h : σ.Sound) (name : String) (c : SenderCommand) :
    Begun (.issue (.sender name c)) σ (σ.senderCommand name c) := by
  have hn : Begun (.issue (.sender name c)) σ
      (withNamed σ.directory.senders name fun k => σ.toSender k c) := by
    simp only [withNamed]
    split
    · rename_i k hk
      exact begun_toSender h hk c
    · rename_i hk
      refine .refused ?_
      rw [action?, hk, Option.bind_none]
  cases c with
  | create track connected => exact begun_createSender h name track connected
  | _ => exact hn

theorem begun (h : σ.Sound) (c : Command) : Begun (.issue c) σ (σ.start c) := by
  cases c with
  | world c => exact begun_worldCommand h c
  | sender name c => exact begun_senderCommand h name c
  | track name c => exact begun_trackCommand h name c
  | context name c => exact begun_contextCommand h name c
  | gate name c => exact begun_gateCommand h name c
  | stream name c => exact begun_streamCommand h name c
  | lifecycle name c => exact begun_lifecycleCommand h name c
  | chain c => exact begun_chainCommand h c
  | unknown => exact .refused rfl

theorem Effect.withSteps {σ' : Session} (h : Effect m σ σ') (n : Nat) :
    Effect m σ { σ' with steps := n } := by
  cases h with
  | quiet action endpoint calls plain same =>
    exact .quiet action endpoint calls plain
      ⟨same.size, same.encodings, same.lifecycle, same.keys, same.streams⟩
  | world action endpoint calls directory roster =>
    exact .world action endpoint calls directory roster
  | addStream name ssrc action endpoint calls directory roster =>
    exact .addStream name ssrc action endpoint calls directory roster
  | create name a t creates encodings endpoint calls directory roster =>
    exact .create name a t creates encodings endpoint calls directory roster
  | act action endpoint calls directory roster =>
    exact .act action endpoint calls directory roster

theorem Sound.reader (h : σ.Sound) (k : SenderKey) (feed : Sender.Feed) (x : Reader) (s : StreamId)
    (hx : (σ.roster.sender k).reader feed = .ok x) (hs : x.target? = some s) :
    σ.endpoint.Known s := (h.senders k).reader hx hs

theorem poll_fits (h : σ.Sound) (m : Move) {c : Call Reply} (hc : c.Fits σ.Free σ.endpoint) :
    let x := c.task.poll σ.roster σ.pace c.ticket c.progress σ.endpoint
    Evolves σ.Free (σ.Closes m) σ.endpoint x.endpoint ∧
      ∀ task p w, x = .waiting task p w → Call.Fits σ.Free w ⟨c.ticket, task, p⟩ := by
  have hp := Task.proper_poll σ.pace c.ticket h.endpoint h.reader hc.within hc.waits
  refine ⟨hp.evolves.mono (fun _ => id) fun _ hs => .inr (.inr hs), fun task p w hx => ?_⟩
  exact ⟨(hp.waiting task p w hx).1, (hp.waiting task p w hx).2⟩

theorem effect_turn (h : σ.Sound) (action : σ.action? m = none) {t : Task Reply}
    (ht : t.Within σ.endpoint.Known (σ.endpoint.Writable σ.Free)) :
    Effect m σ (σ.turn (.waiting t)).1 := by
  have hc : Call.Fits σ.Free σ.endpoint ⟨σ.steps, t, .fresh⟩ := ⟨ht, Progress.fits_fresh _ _⟩
  obtain ⟨he, hf⟩ := poll_fits h m hc
  dsimp only [turn]
  split
  · rename_i r w heq
    rw [heq] at he
    exact .quiet action he (fun _ => .inl) h.plain (sameSenders_of_eq rfl rfl rfl)
  · rename_i task p w heq
    rw [heq] at he
    refine .quiet action he (fun c hc => ?_) h.plain (sameSenders_of_eq rfl rfl rfl)
    rcases List.mem_append.mp hc with hc | hc
    · exact .inl hc
    · cases List.mem_singleton.mp hc
      exact .inr (hf task p w heq)

theorem effect_issue (h : σ.Sound) (c : Command) :
    Effect (.issue c) σ (σ.issue c).1 := by
  have hb := begun h c
  simp only [issue]
  generalize σ.start c = x at hb
  cases hb with
  | refused action =>
    exact .quiet action (.refl _) (fun _ => .inl) h.plain (sameSenders_of_eq rfl rfl rfl)
  | finished r effect => exact effect.withSteps _
  | waiting action within => exact (effect_turn h action within).withSteps _

theorem effect_pollCall (h : σ.Sound) (t : Ticket) : Effect (.poll t) σ (σ.pollCall t).1 := by
  simp only [pollCall]
  split
  · exact .quiet rfl (.refl _) (fun _ => .inl) h.plain (sameSenders_of_eq rfl rfl rfl)
  · rename_i c hc
    have ht := List.find?_some hc
    cases beq_iff_eq.mp ht
    obtain ⟨he, hf⟩ := poll_fits h (.poll c.ticket) (h.calls c (List.mem_of_find?_eq_some hc))
    split
    · rename_i r w heq
      rw [heq] at he
      exact .quiet rfl he (fun _ hd => .inl (List.mem_filter.mp hd).1) h.plain
        (sameSenders_of_eq rfl rfl rfl)
    · rename_i task p w heq
      rw [heq] at he
      refine .quiet rfl he (fun d hd => ?_) h.plain (sameSenders_of_eq rfl rfl rfl)
      obtain ⟨d', hd', rfl⟩ := List.mem_map.mp hd
      split
      · exact .inr (hf task p w heq)
      · exact .inl hd'

theorem effect_inject (h : σ.Sound) (n : Nat) (packet : Packet) :
    Effect (.inject n packet) σ (σ.inject n packet).1 := by
  simp only [inject]
  split
  · exact .quiet rfl (.refl _) (fun _ => .inl) h.plain (sameSenders_of_eq rfl rfl rfl)
  · rename_i s d hs
    have hh : σ.endpoint.Handed s := by
      obtain ⟨e, he, hd⟩ := List.mem_filterMap.mp (List.mem_of_getElem? hs)
      cases e with
      | writerBound s' d' =>
        cases hd
        exact ⟨d, he⟩
      | _ => cases hd
    have hw : ((Writer.stream s).write (packet, [])).Within σ.endpoint.Known
        (σ.endpoint.Writable σ.Free) := within_writeStream (.inr hh) packet []
    exact (effect_turn h rfl (Task.within_map _ hw)).withSteps _

theorem effect (h : σ.Sound) (m : Move) : Effect m σ (σ.act m).1 := by
  cases m with
  | issue c => exact effect_issue h c
  | poll t => exact effect_pollCall h t
  | inject n packet => exact effect_inject h n packet
  | turnTo b => exact .quiet rfl (.refl _) (fun _ => .inl) h.plain (sameSenders_of_eq rfl rfl rfl)

theorem streams_free {σ' : Session} (h : σ'.directory.streams = σ.directory.streams) :
    σ'.Free = σ.Free := by
  unfold Free
  rw [h]

theorem Effect.free {σ' : Session} (he : Effect m σ σ') {s : StreamId} (hs : σ.Free s) :
    σ'.Free s := by
  cases he with
  | quiet action endpoint calls plain same => rwa [streams_free same.streams]
  | world action endpoint calls directory roster => rwa [streams_free (congrArg _ directory)]
  | addStream name ssrc action endpoint calls directory roster =>
    obtain ⟨n, hs⟩ := hs
    refine ⟨n, ?_⟩
    rw [directory]
    exact List.mem_cons_of_mem _ hs
  | create name a t creates encodings endpoint calls directory roster =>
    have hd : σ'.directory.streams = σ.directory.streams := by rw [directory]
    rwa [streams_free hd]
  | act action endpoint calls directory roster => rwa [streams_free (congrArg _ directory)]

theorem sound_around (h : σ.Sound) {w : Endpoint} (hw : Around σ.endpoint w) :
    w.Sound σ.Free ∧ Extends σ.endpoint w := by
  have he : Extends σ.endpoint w := by
    refine ⟨Nat.le_of_eq (congrArg Table.size hw.streams.symm), ?_, fun s _ => ?_⟩
    · exact hw.trace ▸ List.prefix_rfl
    · rw [Endpoint.stream, Endpoint.stream, hw.streams]
      exact .refl _
  have ho : ∀ s, w.Owned s → σ.endpoint.Owned s := by
    intro s hs
    rwa [Owned, hw.trace] at hs
  refine ⟨?_, he⟩
  exact {
    gates := fun g x s hg hx => by
      rw [gate, hw.gates] at hg
      exact he.writable (h.endpoint.gates g x s hg hx)
    contexts := fun k c hc r s hr hs => by
      rw [hw.tracks] at hc
      exact he.known (h.endpoint.contexts k c hc r s hr hs)
    trap := fun s hs => he.known (hw.trap s hs)
    free := fun s hs => ⟨he.known (h.free_known hs), fun hw => (h.endpoint.free s hs).2 (ho s hw)⟩
    owned := fun s hs => he.known (h.endpoint.owned s (ho s hs))
    handed := fun s hs => he.owned (h.endpoint.handed s (by rwa [Handed, hw.trace] at hs)) }

theorem extends_addStream (ssrc : Ssrc) (deadline : Option Instant) (w : Endpoint) :
    Extends w (w.addStream ssrc deadline) := by
  refine ⟨Nat.le_succ _, List.prefix_rfl, fun s hs => ?_⟩
  rw [stream_addStream_ne ssrc deadline w (Nat.ne_of_lt hs)]
  exact .refl _

theorem sound_addStream {free free' : StreamId → Prop} {w : Endpoint} (h : w.Sound free)
    (ssrc : Ssrc) (hf : ∀ s, free' s ↔ s = w.nextStream ∨ free s) :
    (w.addStream ssrc none).Sound free' := by
  have he := extends_addStream ssrc none w
  exact {
    gates := fun g x s hg hx =>
      (he.writable (h.gates g x s hg hx)).imp_left fun hs => (hf s).mpr (.inr hs)
    contexts := fun k c hc r s hr hs => he.known (h.contexts k c hc r s hr hs)
    trap := fun s hs => he.known (h.trap s hs)
    free := fun s hs => by
      rcases (hf s).mp hs with rfl | hs
      · exact ⟨known_addStream ssrc none w, fun ho => Nat.lt_irrefl _ (h.owned _ ho)⟩
      · exact ⟨he.known (h.free s hs).1, (h.free s hs).2⟩
    owned := fun s hs => he.known (h.owned s hs)
    handed := h.handed }

theorem Sound.next {σ' : Session} (h : σ.Sound) (he : Extends σ.endpoint σ'.endpoint)
    (hw : σ'.endpoint.Sound σ'.Free) (hf : ∀ s, σ.Free s → σ'.Free s)
    (hc : ∀ c ∈ σ'.calls, c ∈ σ.calls ∨ c.Fits σ'.Free σ'.endpoint)
    (hs : ∀ k, (σ'.sender k).Known σ'.endpoint) (plain : σ'.directory.Plain)
    (keys : ∀ p ∈ σ'.directory.senders, p.2 < σ'.roster.senders.size) : σ'.Sound where
  endpoint := hw
  calls c hc' := (hc c hc').elim (fun hc => (h.calls c hc).extends h.endpoint he hf) id
  senders := hs
  plain := plain
  keys := keys

section

variable {σ' : Session} (h : σ.Sound)

include h

theorem Sound.senders_extend (grown : Extends σ.endpoint σ'.endpoint)
    (roster : σ'.roster = σ.roster) (k : SenderKey) : (σ'.sender k).Known σ'.endpoint := by
  rw [sender, roster]
  exact (h.senders k).extends grown

theorem Sound.quiet {closes : StreamId → Prop}
    (endpoint : Evolves σ.Free closes σ.endpoint σ'.endpoint)
    (calls : ∀ c ∈ σ'.calls, c ∈ σ.calls ∨ c.Fits σ.Free σ'.endpoint)
    (plain : σ'.directory.Plain) (same : SameSenders σ σ') : σ'.Sound := by
  have free : σ'.Free = σ.Free := streams_free same.streams
  refine h.next endpoint.extends ?_ (fun _ => free ▸ id) ?_ (fun k e he => ?_) plain ?_
  · rw [free]
    exact h.endpoint.evolves endpoint
  · rw [free]
    exact calls
  · rw [same.encodings] at he
    exact (h.senders k e he).extends endpoint.extends
  · rw [same.keys, same.size]
    exact h.keys

theorem Sound.around (endpoint : Around σ.endpoint σ'.endpoint) (calls : σ'.calls = σ.calls)
    (directory : σ'.directory = σ.directory) (roster : σ'.roster = σ.roster) : σ'.Sound := by
  have free : σ'.Free = σ.Free := streams_free (congrArg _ directory)
  obtain ⟨sound, grown⟩ := sound_around h endpoint
  refine h.next grown (free ▸ sound) (fun _ => free ▸ id) (fun c hc => .inl (calls ▸ hc))
    (h.senders_extend grown roster) (directory ▸ h.plain) ?_
  rw [directory, roster]
  exact h.keys

theorem Sound.addStream {name : String} {ssrc : Ssrc}
    (endpoint : σ'.endpoint = σ.endpoint.addStream ssrc none) (calls : σ'.calls = σ.calls)
    (directory : σ'.directory =
      { σ.directory with streams := (name, σ.endpoint.nextStream) :: σ.directory.streams })
    (roster : σ'.roster = σ.roster) : σ'.Sound := by
  have free : ∀ s, σ'.Free s ↔ s = σ.endpoint.nextStream ∨ σ.Free s := by
    intro s
    simp only [Free, directory, List.mem_cons, Prod.mk.injEq, exists_or, exists_eq_left]
  have grown : Extends σ.endpoint σ'.endpoint := endpoint ▸ extends_addStream ssrc none σ.endpoint
  have sound : σ'.endpoint.Sound σ'.Free := endpoint ▸ sound_addStream h.endpoint ssrc free
  refine h.next grown sound (fun s hs => (free s).mpr (.inr hs)) (fun c hc => .inl (calls ▸ hc))
    (h.senders_extend grown roster) ?_ ?_
  · rw [directory]
    exact ⟨h.plain.readers, h.plain.writers, h.plain.contexts⟩
  · rw [directory, roster]
    exact h.keys

theorem Sound.create {name : String} {a : Sender} {t : Track} (encodings : a.encodings = [])
    (endpoint : σ'.endpoint = (a.append t σ.endpoint.drawId).2) (calls : σ'.calls = σ.calls)
    (directory : σ'.directory =
      { σ.directory with senders := (name, σ.roster.senders.size) :: σ.directory.senders })
    (roster : σ'.roster = σ.roster.addSender (a.append t σ.endpoint.drawId).1) : σ'.Sound := by
  have free : σ'.Free = σ.Free := streams_free (by rw [directory])
  have made : Makes σ.endpoint σ'.endpoint := by
    rw [endpoint]
    exact (Sender.makes_drawId _).trans (Sender.makes_append t a _)
  have built : Builds σ.Free (fun _ => False) σ.endpoint σ'.endpoint := made.builds
  have known : a.Known σ.endpoint.drawId := by
    intro e he
    rw [encodings] at he
    cases he
  refine h.next made.extends ?_ (fun _ => free ▸ id) (fun c hc => .inl (calls ▸ hc))
    (fun k => ?_) ?_ ?_
  · rw [free]
    exact h.endpoint.builds built
  · rw [sender, roster, sender_addSender]
    split
    · rw [endpoint]
      exact Sender.known_append t known
    · exact (h.senders k).extends made.extends
  · rw [directory]
    exact ⟨h.plain.readers, h.plain.writers, h.plain.contexts⟩
  · rw [directory, roster]
    exact List.forall_mem_cons.mpr
      ⟨Nat.lt_succ_self _, fun p hp => Nat.lt_succ_of_lt (h.keys p hp)⟩

theorem Sound.perform {k : SenderKey} {x : Sender.Action}
    (endpoint : σ'.endpoint = ((σ.sender k).act x σ.endpoint).endpoint)
    (calls : σ'.calls = σ.calls) (directory : σ'.directory = σ.directory)
    (roster : σ'.roster = σ.roster.setSender k ((σ.sender k).act x σ.endpoint).sender) :
    σ'.Sound := by
  have free : σ'.Free = σ.Free := streams_free (congrArg _ directory)
  obtain ⟨built, known⟩ : Builds σ.Free _ _ _ ∧ _ := Sender.builds_act x (h.senders k)
  rw [← endpoint] at built known
  refine h.next built.extends ?_ (fun _ => free ▸ id) (fun c hc => .inl (calls ▸ hc))
    (fun k' => ?_) (directory ▸ h.plain) ?_
  · rw [free]
    exact h.endpoint.builds built
  · rw [sender, roster, sender_setSender]
    split
    · exact known
    · exact (h.senders k').extends built.extends
  · rw [directory, roster]
    exact h.keys

theorem Effect.sound (he : Effect m σ σ') : σ'.Sound := by
  cases he with
  | quiet action endpoint calls plain same => exact h.quiet endpoint calls plain same
  | world action endpoint calls directory roster => exact h.around endpoint calls directory roster
  | addStream name ssrc action endpoint calls directory roster =>
    exact h.addStream endpoint calls directory roster
  | create name a t creates encodings endpoint calls directory roster =>
    exact h.create encodings endpoint calls directory roster
  | act action endpoint calls directory roster => exact h.perform endpoint calls directory roster

end

theorem Fresh.sound (h : σ.Fresh) : σ.Sound where
  endpoint := {
    gates := fun g x s hg => by
      rw [gate, h.gates] at hg
      cases hg
    contexts := fun k c hc => by
      rw [h.tracks] at hc
      cases hc
    trap := fun s hs => by
      rw [h.trap] at hs
      cases hs
    free := fun s hs => by
      obtain ⟨n, hs⟩ := hs
      rw [h.names] at hs
      cases hs
    owned := fun s hs => by
      rw [Owned, h.trace] at hs
      cases hs
    handed := fun s ⟨d, hs⟩ => by
      rw [h.trace] at hs
      cases hs }
  calls c hc := by
    rw [h.calls] at hc
    cases hc
  senders k e he := by
    rw [sender, Roster.sender, h.senders] at he
    cases he
  plain := by
    rw [h.names]
    exact ⟨List.forall_mem_nil _, List.forall_mem_nil _, List.forall_mem_nil _⟩
  keys p hp := by
    rw [h.names] at hp
    cases hp

theorem Effect.endpoint {σ' : Session} (h : σ.Sound) (he : Effect m σ σ') :
    Builds σ.Free (σ.Closes m) σ.endpoint σ'.endpoint ∨ Around σ.endpoint σ'.endpoint ∨
      ∃ ssrc, σ'.endpoint = σ.endpoint.addStream ssrc none := by
  cases he with
  | quiet action endpoint => exact .inl (Relation.ReflTransGen.mono (fun _ _ => .inl) _ _ endpoint)
  | world action endpoint => exact .inr (.inl endpoint)
  | addStream name ssrc action endpoint => exact .inr (.inr ⟨ssrc, endpoint⟩)
  | create name a t creates encodings endpoint =>
    rw [endpoint]
    exact .inl ((Sender.makes_drawId _).trans (Sender.makes_append t a _)).builds
  | @act k x action endpoint =>
    have hb : Builds σ.Free (fun s => x.Closes (σ.sender k) s) _ _ ∧ _ :=
      Sender.builds_act x (h.senders k)
    rw [endpoint]
    exact .inl (hb.1.mono (fun _ => id) fun s hs => .inr (.inl ⟨k, x, action, hs⟩))

theorem Sound.act (h : σ.Sound) (m : Move) : (σ.act m).1.Sound := (effect h m).sound h

theorem Sound.after (h : σ.Sound) (ms : List Move) : (σ.after ms).Sound := by
  induction ms generalizing σ with
  | nil => exact h
  | cons m ms ih => exact ih (h.act m)

theorem free_after (h : σ.Sound) (ms : List Move) {s : StreamId} (hs : σ.Free s) :
    (σ.after ms).Free s := by
  induction ms generalizing σ with
  | nil => exact hs
  | cons m ms ih => exact ih (h.act m) ((effect h m).free hs)

end Session

end MediaSender

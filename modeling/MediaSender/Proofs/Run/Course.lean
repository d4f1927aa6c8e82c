import MediaSender.Proofs.Run.Effects
/-!
The course of a move, exactly. A move that does not act on a sender runs an errand for the world,
polls one task, or makes a sender; tracks are bound and unbound by senders and by hand only.
-/

namespace MediaSender

def Move.ties : Move → Bool
  | issue (.track _ (.bind _)) | issue (.track _ (.unbind _)) => true
  | _ => false

def Move.troubles : Move → Bool
  | issue (.world (.ready _)) | issue (.world (.fail ..)) | issue (.world (.trap _)) => true
  | _ => false

/-- The same sender, but for its mark of a negotiation and the transceiver it is attached to. -/
def Sender.SameUpToNegotiation (a b : Sender) : Prop :=
  ∃ negotiated transceiver, b = { a with negotiated := negotiated, transceiver := transceiver }

theorem Sender.SameUpToNegotiation.refl (a : Sender) : SameUpToNegotiation a a :=
    ⟨a.negotiated, a.transceiver, rfl⟩

namespace Directory

def handles (d : Directory) : Names Track × Names GateId × Names Context :=
  (d.tracks, d.gates, d.contexts)

def HasGate (d : Directory) (g : GateId) : Prop :=
  (∃ p ∈ d.gates, p.2 = g) ∨ ∃ p ∈ d.contexts, p.2.gate = some g

theorem hasGate_of_handles {d d' : Directory} (h : d'.handles = d.handles) {g : GateId}
    (hg : d'.HasGate g) : d.HasGate g := by
  obtain ⟨-, hgates, hcontexts⟩ : _ ∧ d'.gates = d.gates ∧ d'.contexts = d.contexts := by
    simpa [handles] using h
  rwa [HasGate, ← hgates, ← hcontexts]

end Directory

namespace Endpoint

/-- What senders are configured with and draw from, and nothing changes. -/
structure SameSetup (w w' : Endpoint) : Prop where
  chain : w'.chain = w.chain
  capabilities : w'.capabilities = w.capabilities
  settings : w'.settings = w.settings
  numbers : w'.numbers = w.numbers

namespace SameSetup

variable {w w' w₁ w₂ w₃ : Endpoint}

theorem refl (w : Endpoint) : SameSetup w w := ⟨rfl, rfl, rfl, rfl⟩

theorem trans (h : SameSetup w₁ w₂) (h' : SameSetup w₂ w₃) : SameSetup w₁ w₃ :=
  ⟨h'.chain.trans h.chain, h'.capabilities.trans h.capabilities, h'.settings.trans h.settings,
    h'.numbers.trans h.numbers⟩

theorem symm (h : SameSetup w w') : SameSetup w' w :=
  ⟨h.chain.symm, h.capabilities.symm, h.settings.symm, h.numbers.symm⟩

end SameSetup

structure Beside (w w' : Endpoint) : Prop extends SameSetup w w' where
  streams : w'.streams = w.streams
  gates : w'.gates = w.gates
  tracks : w'.tracks = w.tracks
  trace : w'.trace = w.trace

def SameFate (w w' : Endpoint) : Prop :=
  w'.transport.ready = w.transport.ready ∧ w'.transport.failure = w.transport.failure ∧
    w'.transport.trap = w.transport.trap

end Endpoint

namespace Session

open Endpoint

inductive Errand (m : Move) (σ : Session) : Endpoint → Prop
  | nothing : Errand m σ σ.endpoint
  | report (rs : List Report) : Errand m σ (σ.endpoint.reportAll rs)
  | deadline (s : StreamId) (deadline : Option Instant) :
      Errand m σ (σ.endpoint.setDeadline s deadline)
  | close {name : String} {s : StreamId} (named : σ.directory.streams.lookup name = some s) :
      Errand m σ (σ.endpoint.closeStream s)
  | addStream (ssrc : Ssrc) : Errand m σ (σ.endpoint.addStream ssrc none)
  | addGate : Errand m σ σ.endpoint.addGate
  | resolve (g : GateId) (x : Writer) (free : ∀ s, x.target? = some s → σ.Free s) :
      Errand m σ (σ.endpoint.resolve g x)
  | beside {w : Endpoint} (rest : Beside σ.endpoint w)
      (fate : m.troubles = false → SameFate σ.endpoint w) : Errand m σ w
  | drop (c : Call Reply) : Errand m σ (c.drop σ.endpoint)
  | bind (t : Track) (c : Context) (ties : m.ties) (named : ∃ p ∈ σ.directory.contexts, p.2 = c) :
      Errand m σ (σ.endpoint.bindTrack t c)
  | unbind (t : Track) (c : Context) (ties : m.ties) : Errand m σ (σ.endpoint.unbindTrack t c)

inductive Course (m : Move) (σ : Session) : Session → Prop
  | errand {σ' : Session} (action : σ.action? m = none) (endpoint : Errand m σ σ'.endpoint)
      (senders : ∀ k, (σ.sender k).SameUpToNegotiation (σ'.sender k))
      (size : σ'.roster.senders.size = σ.roster.senders.size)
      (tracks : σ'.directory.tracks = σ.directory.tracks)
      (gates : ∀ g, σ'.directory.HasGate g → σ.directory.HasGate g ∨
        g = σ.endpoint.nextGate ∧ σ'.endpoint = σ.endpoint.addGate) : Course m σ σ'
  | poll {σ' : Session} (action : σ.action? m = none) (task : Task Reply) (t : Ticket)
      (p : Progress)
      (endpoint : σ'.endpoint = (task.poll σ.roster σ.pace t p σ.endpoint).endpoint)
      (roster : σ'.roster = σ.roster) (directory : σ'.directory = σ.directory) : Course m σ σ'
  | create {σ' : Session} (t : Track) (creates : m.creates) (action : σ.action? m = none)
      (given : ∃ name, σ.directory.tracks.lookup name = some t)
      (endpoint : σ'.endpoint = (Sender.append t { id := σ.endpoint.nextId, kind := t.kind }
        σ.endpoint.drawId).2)
      (roster : σ'.roster = σ.roster.addSender
        (Sender.append t { id := σ.endpoint.nextId, kind := t.kind } σ.endpoint.drawId).1)
      (handles : σ'.directory.handles = σ.directory.handles) : Course m σ σ'
  | act {σ' : Session} {k : SenderKey} {x : Sender.Action} (action : σ.action? m = some (k, x))
      (endpoint : σ'.endpoint = ((σ.sender k).act x σ.endpoint).endpoint)
      (roster : σ'.roster = σ.roster.setSender k ((σ.sender k).act x σ.endpoint).sender)
      (directory : σ'.directory = σ.directory) : Course m σ σ'

def Takes (m : Move) (σ : Session) : Started → Prop
  | .finished _ σ' => Course m σ σ'
  | _ => σ.action? m = none

variable {σ σ' : Session} {m : Move}

section

variable (action : σ.action? m = none)

include action

theorem takes_named {α : Type} {names : Names α} {name : String} {f : α → Started}
    (hf : ∀ a, names.lookup name = some a → Takes m σ (f a)) :
    Takes m σ (withNamed names name f) := by
  simp only [withNamed]
  split
  · rename_i a ha
    exact hf a ha
  · exact action

theorem takes_errand {r : Reply} (endpoint : Errand m σ σ'.endpoint)
    (roster : σ'.roster.senders = σ.roster.senders)
    (handles : σ'.directory.handles = σ.directory.handles) : Takes m σ (.finished r σ') := by
  refine .errand action endpoint (fun k => ?_) (congrArg Table.size roster)
    (congrArg Prod.fst handles) fun g hg => .inl (Directory.hasGate_of_handles handles hg)
  rw [sender, sender, Roster.sender, Roster.sender, roster]
  exact .refl _

theorem takes_answer {r : Reply} : Takes m σ (.finished r σ) :=
  takes_errand action .nothing rfl rfl

theorem takes_sameUpToNegotiation {r : Reply} {k : SenderKey} {a : Sender}
    (h : (σ.sender k).SameUpToNegotiation a) :
    Takes m σ (.finished r (σ.setSender k a)) := by
  refine .errand action .nothing (fun k' => ?_) rfl rfl fun _ => .inl
  change (σ.sender k').SameUpToNegotiation ((σ.roster.setSender k a).sender k')
  rw [sender_setSender]
  split
  · rename_i hk
    exact hk ▸ h
  · exact .refl _

end

theorem takes_worldCommand (σ : Session) (c : WorldCommand) :
    Takes (.issue (.world c)) σ (σ.worldCommand c) := by
  have fate : ∀ {w : Endpoint}, Beside σ.endpoint w → SameFate σ.endpoint w →
      Errand (.issue (.world c)) σ w := fun rest h => .beside rest fun _ => h
  cases c with
  | push ssrc datagram =>
    exact takes_errand rfl (fate ⟨⟨rfl, rfl, rfl, rfl⟩, rfl, rfl, rfl, rfl⟩ ⟨rfl, rfl, rfl⟩) rfl rfl
  | ready isReady =>
    exact takes_errand rfl (.beside ⟨⟨rfl, rfl, rfl, rfl⟩, rfl, rfl, rfl, rfl⟩ nofun) rfl rfl
  | fail ssrc op failure =>
    exact takes_errand rfl (.beside ⟨⟨rfl, rfl, rfl, rfl⟩, rfl, rfl, rfl, rfl⟩ nofun) rfl rfl
  | advance ms =>
    exact takes_errand rfl (fate ⟨⟨rfl, rfl, rfl, rfl⟩, rfl, rfl, rfl, rfl⟩ ⟨rfl, rfl, rfl⟩) rfl rfl
  | trap stream =>
    exact takes_named rfl fun i _ =>
      takes_errand rfl (.beside ⟨⟨rfl, rfl, rfl, rfl⟩, rfl, rfl, rfl, rfl⟩ nofun) rfl rfl
  | cancel step =>
    change Takes _ σ (σ.cancel step)
    simp only [cancel]
    split
    · exact takes_answer rfl
    · exact takes_errand rfl (.drop _) rfl rfl
  | createTransceiver name codecs =>
    change Takes _ σ (.finished _ (σ.createTransceiver name codecs))
    dsimp only [createTransceiver, forgetTransceiver]
    split
    · exact takes_errand rfl
        (fate ⟨⟨rfl, rfl, rfl, rfl⟩, rfl, rfl, rfl, rfl⟩ ⟨rfl, rfl, rfl⟩) rfl rfl
    · exact takes_errand rfl
        (fate ⟨⟨rfl, rfl, rfl, rfl⟩, rfl, rfl, rfl, rfl⟩ ⟨rfl, rfl, rfl⟩) rfl rfl
  | dropTransceiver name =>
    change Takes _ σ (.finished _ (σ.forgetTransceiver name))
    simp only [forgetTransceiver]
    split
    · exact takes_answer rfl
    · exact takes_errand rfl
        (fate ⟨⟨rfl, rfl, rfl, rfl⟩, rfl, rfl, rfl, rfl⟩ ⟨rfl, rfl, rfl⟩) rfl rfl
  | nothing => exact takes_answer rfl

theorem takes_streamCommand (σ : Session) (name : String) (c : StreamCommand) :
    Takes (.issue (.stream name c)) σ (σ.streamCommand name c) := by
  cases c with
  | create ssrc => exact takes_errand rfl (.addStream ssrc) rfl rfl
  | close => exact takes_named rfl fun i hi => takes_errand rfl (.close hi) rfl rfl
  | setDeadline ms => exact takes_named rfl fun i _ => takes_errand rfl (.deadline i _) rfl rfl
  | ssrc => exact takes_named rfl fun i _ => takes_answer rfl
  | deadline => exact takes_named rfl fun i _ => takes_answer rfl
  | _ => exact takes_named rfl fun i _ => rfl

theorem takes_gateCommand (σ : Session) (name : String) (c : GateCommand) :
    Takes (.issue (.gate name c)) σ (σ.gateCommand name c) := by
  cases c with
  | create =>
    refine .errand rfl .addGate (fun _ => .refl _) rfl rfl fun g hg => ?_
    rcases hg with ⟨p, hp, rfl⟩ | hc
    · rcases List.mem_cons.mp hp with rfl | hp
      · exact .inr ⟨rfl, rfl⟩
      · exact .inl (.inl ⟨p, hp, rfl⟩)
    · exact .inl (.inr hc)
  | resolveStream stream =>
    refine takes_named rfl fun g _ => takes_named rfl fun i hi => ?_
    refine takes_errand rfl (.resolve g _ fun s hs => ?_) rfl rfl
    exact Option.some.inj hs ▸ ⟨stream, mem_of_lookup hi⟩
  | resolveSink sink failure =>
    exact takes_named rfl fun g _ => takes_errand rfl (.resolve g _ nofun) rfl rfl
  | isResolved => exact takes_named rfl fun g _ => takes_answer rfl
  | write packet attributes => exact takes_named rfl fun g _ => rfl

theorem takes_lifecycleCommand (σ : Session) (name : String) (c : LifecycleCommand) :
    Takes (.issue (.lifecycle name c)) σ (σ.lifecycleCommand name c) := by
  cases c with
  | create => exact takes_errand rfl .nothing rfl rfl
  | awaitSending => exact takes_named rfl fun n _ => rfl
  | _ => exact takes_named rfl fun n _ => takes_errand rfl .nothing rfl rfl

theorem takes_chainCommand (σ : Session) (c : ChainCommand) :
    Takes (.issue (.chain c)) σ (σ.chainCommand c) := by
  cases c with
  | read name size attributes => exact takes_named rfl fun r _ => rfl
  | write name packet attributes => exact takes_named rfl fun x _ => rfl
  | _ => exact takes_errand rfl (.report _) rfl rfl

theorem takes_contextCommand (σ : Session) (name : String) (c : ContextCommand) :
    Takes (.issue (.context name c)) σ (σ.contextCommand name c) := by
  cases c with
  | create id ssrc codecs extensions gate =>
    refine .errand rfl .nothing (fun _ => .refl _) rfl rfl fun g hg => .inl ?_
    rcases hg with hg | ⟨p, hp, hc⟩
    · exact .inl hg
    · rcases List.mem_cons.mp hp with rfl | hp
      · obtain ⟨gateName, -, hlookup⟩ := Option.bind_eq_some_iff.mp hc
        exact .inl ⟨_, mem_of_lookup hlookup, rfl⟩
      · exact .inr ⟨p, hp, hc⟩
  | info => exact takes_named rfl fun c _ => takes_answer rfl

theorem takes_withContext (action : σ.action? m = none) (t : Track) (index : Nat)
    {f : Context → Started} (hf : ∀ c, Takes m σ (f c)) : Takes m σ (σ.withContext t index f) := by
  simp only [withContext]
  split
  · exact action
  · split
    · exact hf _
    · exact action

theorem takes_trackCommand (σ : Session) (name : String) (c : TrackCommand) :
    Takes (.issue (.track name c)) σ (σ.trackCommand name c) := by
  refine takes_named rfl fun t _ => ?_
  cases c with
  | info => exact takes_answer rfl
  | bind context =>
    exact takes_named rfl fun c hc =>
      takes_errand rfl (.bind t c rfl ⟨_, mem_of_lookup hc, rfl⟩) rfl rfl
  | unbind context =>
    exact takes_named rfl fun c _ => takes_errand rfl (.unbind t c rfl) rfl rfl
  | bindingCount =>
    change Takes _ σ (if t.isFixed then _ else _)
    split
    · exact takes_answer rfl
    · rfl
  | write packet attributes index =>
    change Takes _ σ (if t.isFixed then _ else _)
    split
    · rfl
    · refine takes_withContext rfl t index fun c => ?_
      split
      · rfl
      · exact takes_answer rfl
  | read size attributes index =>
    refine takes_withContext rfl t index fun c => ?_
    split
    · rfl
    · exact takes_answer rfl

theorem takes_toSender {name : String} {k : SenderKey}
    (hk : σ.directory.senders.lookup name = some k) (c : SenderCommand) :
    Takes (.issue (.sender name c)) σ (σ.toSender k c) := by
  have ha := action?_sender hk c
  cases c with
  | create track connected => exact ha
  | extend track => exact .act ha rfl rfl rfl
  | swapTrack track => exact .act ha rfl rfl rfl
  | start codings extensions => exact .act ha rfl rfl rfl
  | stop => exact .act ha rfl rfl rfl
  | setNegotiated => exact takes_sameUpToNegotiation ha ⟨_, _, rfl⟩
  | setTransceiver transceiver => exact takes_sameUpToNegotiation ha ⟨_, _, rfl⟩
  | awaitSending => exact ha
  | read feed size => exact ha
  | readPackets feed => exact ha
  | setBaseDeadline ms =>
    refine takes_errand ha ?_ rfl rfl
    change Errand _ σ ((σ.sender k).setBaseDeadline _ σ.endpoint)
    simp only [Sender.setBaseDeadline]
    split
    · exact .deadline _ _
    · exact .nothing
  | setDeadline ms rid =>
    dsimp only [toSender, Sender.setDeadline]
    split
    · rename_i w hw
      split at hw
      · cases hw
        exact takes_errand ha (.deadline _ _) rfl rfl
      · cases hw
    · exact takes_answer ha
  | _ => exact takes_answer ha

theorem takes_createSender (σ : Session) (name : String) (track : Option String)
    (connected : Bool) :
    Takes (.issue (.sender name (.create track connected))) σ
      (σ.createSender name track connected) := by
  have action : σ.action? (.issue (.sender name (.create track connected))) = none :=
    Option.bind_fun_none _
  simp only [createSender]
  split
  · exact takes_answer action
  · rename_i a w heq
    obtain ⟨t, ht, hadd⟩ := Sender.create_of_ok heq
    obtain ⟨n, -, hn⟩ := Option.bind_eq_some_iff.mp ht
    obtain ⟨rfl, rfl⟩ := Prod.mk.inj hadd
    exact .create t rfl action ⟨n, hn⟩ rfl rfl rfl

theorem takes (σ : Session) (c : Command) : Takes (.issue c) σ (σ.start c) := by
  cases c with
  | world c => exact takes_worldCommand σ c
  | sender name c =>
    have hn : Takes (.issue (.sender name c)) σ
        (withNamed σ.directory.senders name fun k => σ.toSender k c) := by
      simp only [withNamed]
      split
      · rename_i k hk
        exact takes_toSender hk c
      · rename_i hk
        change σ.action? _ = none
        rw [action?, hk, Option.bind_none]
    cases c with
    | create track connected => exact takes_createSender σ name track connected
    | _ => exact hn
  | track name c => exact takes_trackCommand σ name c
  | context name c => exact takes_contextCommand σ name c
  | gate name c => exact takes_gateCommand σ name c
  | stream name c => exact takes_streamCommand σ name c
  | lifecycle name c => exact takes_lifecycleCommand σ name c
  | chain c => exact takes_chainCommand σ c
  | unknown => rfl

theorem course_turn (action : σ.action? m = none) (t : Task Reply) :
    Course m σ (σ.turn (.waiting t)).1 := by
  simp only [turn]
  split
  · rename_i r w heq
    exact .poll action t σ.steps .fresh (by rw [heq]; rfl) rfl rfl
  · rename_i task p w heq
    exact .poll action t σ.steps .fresh (by rw [heq]; rfl) rfl rfl

theorem Course.withSteps (h : Course m σ σ') (n : Nat) : Course m σ { σ' with steps := n } := by
  cases h with
  | errand action endpoint senders size tracks gates =>
    exact .errand action endpoint senders size tracks gates
  | poll action task t p endpoint roster directory =>
    exact .poll action task t p endpoint roster directory
  | create t creates action given endpoint roster handles =>
    exact .create t creates action given endpoint roster handles
  | act action endpoint roster directory => exact .act action endpoint roster directory

theorem course_same (action : σ.action? m = none) : Course m σ σ :=
  .errand action .nothing (fun _ => .refl _) rfl rfl fun _ => .inl

theorem course (m : Move) (σ : Session) : Course m σ (σ.act m).1 := by
  cases m with
  | issue c =>
    have h := takes σ c
    simp only [act, issue]
    generalize σ.start c = x at h
    cases x with
    | refused => exact (course_same h).withSteps _
    | finished r σ' => exact Course.withSteps h _
    | waiting t => exact (course_turn h t).withSteps _
  | poll t =>
    simp only [act, pollCall]
    split
    · exact course_same rfl
    · rename_i c hc
      split
      · rename_i r w heq
        exact .poll rfl c.task t c.progress (by rw [heq]; rfl) rfl rfl
      · rename_i task p w heq
        exact .poll rfl c.task t c.progress (by rw [heq]; rfl) rfl rfl
  | inject n packet =>
    simp only [act, inject]
    split
    · exact course_same rfl
    · exact (course_turn rfl _).withSteps _
  | turnTo b => exact .errand rfl .nothing (fun _ => .refl _) rfl rfl fun _ => .inl

theorem act_of_action {k : SenderKey} {x : Sender.Action} (h : σ.action? m = some (k, x)) :
    σ.act m =
      ({ σ.setSender k ((σ.sender k).act x σ.endpoint).sender with
          endpoint := ((σ.sender k).act x σ.endpoint).endpoint, steps := σ.steps + 1 },
        .answered (.outcome ((σ.sender k).act x σ.endpoint).outcome)) := by
  cases m with
  | issue c =>
    cases c with
    | sender name c =>
      obtain ⟨k', hk, hx⟩ := Option.bind_eq_some_iff.mp h
      obtain ⟨x', hc, hx⟩ := Option.map_eq_some_iff.mp hx
      cases hx
      cases c <;> cases hc <;>
        simp only [Session.act, issue, Session.start, senderCommand, withNamed, hk, toSender,
          apply, turn] <;> rfl
    | _ => cases h
  | _ => cases h

theorem endpoint_act {k : SenderKey} {x : Sender.Action} (h : σ.action? m = some (k, x)) :
    (σ.act m).1.endpoint = ((σ.sender k).act x σ.endpoint).endpoint := by
  rw [act_of_action h]

theorem outcome_of_answer {k : SenderKey} {x : Sender.Action} {r : Outcome Unit}
    (h : σ.action? m = some (k, x)) (hr : (σ.act m).2 = .answered (.outcome r)) :
    ((σ.sender k).act x σ.endpoint).outcome = r := by
  rw [act_of_action h] at hr
  injection hr with hr
  injection hr

theorem action_lt (h : σ.Sound) {k : SenderKey} {x : Sender.Action}
    (hx : σ.action? m = some (k, x)) : k < σ.roster.senders.size := by
  cases m with
  | issue c =>
    cases c with
    | sender name c =>
      obtain ⟨k', hk, hx⟩ := Option.bind_eq_some_iff.mp hx
      obtain ⟨x', -, hx⟩ := Option.map_eq_some_iff.mp hx
      cases hx
      exact h.keys _ (mem_of_lookup hk)
    | _ => cases hx
  | _ => cases hx

inductive Becomes (m : Move) (σ : Session) (k : SenderKey) (σ' : Session) : Prop
  | acted (x : Sender.Action) (action : σ.action? m = some (k, x))
      (sender : σ'.sender k = ((σ.sender k).act x σ.endpoint).sender)
      (endpoint : σ'.endpoint = ((σ.sender k).act x σ.endpoint).endpoint)
  | stayed (action : ∀ x, σ.action? m ≠ some (k, x))
      (sender : (σ.sender k).SameUpToNegotiation (σ'.sender k))
      (born : k < σ'.roster.senders.size → k < σ.roster.senders.size)
  | made (t : Track) (action : ∀ x, σ.action? m ≠ some (k, x)) (number : k = σ.roster.senders.size)
      (sender : σ'.sender k = (Sender.append t { id := σ.endpoint.nextId, kind := t.kind }
        σ.endpoint.drawId).1)
      (given : ∃ name, σ.directory.tracks.lookup name = some t)

theorem Course.becomes (h : Course m σ σ') (k : SenderKey) : Becomes m σ k σ' := by
  have other : σ.action? m = none → ∀ x, σ.action? m ≠ some (k, x) := fun h x hx =>
    nomatch h.symm.trans hx
  cases h with
  | errand action endpoint senders size => exact .stayed (other action) (senders k) (size ▸ id)
  | poll action task t p endpoint roster =>
    refine .stayed (other action) ?_ (roster ▸ id)
    rw [sender, sender, roster]
    exact .refl _
  | create t creates action given endpoint roster =>
    have hs : σ'.sender k = _ := (congrArg (·.sender k) roster).trans (sender_addSender k _ _)
    by_cases hk : k = σ.roster.senders.size
    · exact .made t (other action) hk (hs.trans (if_pos hk)) given
    · refine .stayed (other action) ?_ fun hlt => ?_
      · rw [hs, if_neg hk]
        exact .refl _
      · rw [roster] at hlt
        exact Nat.lt_of_le_of_ne (Nat.le_of_lt_succ hlt) hk
  | @act k' x action endpoint roster =>
    have hs : σ'.sender k = _ := (congrArg (·.sender k) roster).trans (sender_setSender k' k _ _)
    by_cases hk : k = k'
    · subst hk
      exact .acted x action (hs.trans (if_pos rfl)) endpoint
    · refine .stayed (fun y hy => ?_) ?_ fun hlt => ?_
      · cases action.symm.trans hy
        exact hk rfl
      · rw [hs, if_neg hk]
        exact .refl _
      · rwa [roster] at hlt

theorem Course.size_le (h : Course m σ σ') :
    σ.roster.senders.size ≤ σ'.roster.senders.size := by
  cases h with
  | errand action endpoint senders size => exact Nat.le_of_eq size.symm
  | poll action task t p endpoint roster => exact Nat.le_of_eq (by rw [roster])
  | create t creates action given endpoint roster => exact roster ▸ Nat.le_succ _
  | act action endpoint roster => exact Nat.le_of_eq (by rw [roster]; rfl)

end Session

end MediaSender

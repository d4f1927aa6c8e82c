import MediaSender.Proofs.Run.Change
/-!
The streams that a task may read from and write to. A task starts from some streams, and reaches
further ones only through the readers and the gates that it asks for.
-/

namespace MediaSender

namespace Request

def Allowed (reads writes : StreamId → Prop) : Request → Prop
  | read s _ => reads s
  | write s _ => writes s
  | _ => True

def readable? : (r : Request) → r.Answer → Option StreamId
  | reader .., answer => answer.toOption.bind (·.target?)
  | _, _ => none

def writable? : (r : Request) → r.Answer → Option StreamId
  | gate _, writer => writer.target?
  | _, _ => none

theorem Allowed.mono {reads writes reads' writes' : StreamId → Prop} {r : Request}
    (hr : ∀ s, reads s → reads' s) (hw : ∀ s, writes s → writes' s)
    (h : r.Allowed reads writes) : r.Allowed reads' writes' := by
  cases r with
  | read s size => exact hr s h
  | write s packet => exact hw s h
  | _ => trivial

end Request

namespace Task

variable {α β : Type} {reads writes : StreamId → Prop}

/-- A task that stays within the streams given to it, and those that its requests give to it. -/
def Within (reads writes : StreamId → Prop) : Task α → Prop
  | done _ => True
  | ask r next => r.Allowed reads writes ∧ ∀ a, (next a).Within
      (fun s => reads s ∨ r.readable? a = some s) fun s => writes s ∨ r.writable? a = some s

theorem Within.mono {reads' writes' : StreamId → Prop} {t : Task α}
    (h : t.Within reads writes) (hr : ∀ s, reads s → reads' s)
    (hw : ∀ s, writes s → writes' s) : t.Within reads' writes' := by
  induction t generalizing reads writes reads' writes' with
  | done a => trivial
  | ask r next ih =>
    exact ⟨h.1.mono hr hw, fun a =>
      ih a (h.2 a) (fun s => Or.imp_left (hr s)) fun s => Or.imp_left (hw s)⟩

theorem within_ask {r : Request} {next : r.Answer → Task α} (hr : r.Allowed reads writes)
    (h : ∀ a, (next a).Within reads writes) : (ask r next).Within reads writes :=
  ⟨hr, fun a => (h a).mono (fun _ => .inl) fun _ => .inl⟩

theorem within_bind {t : Task α} {f : α → Task β} (h : t.Within reads writes)
    (hf : ∀ a, (f a).Within reads writes) : (t.bind f).Within reads writes := by
  induction t generalizing reads writes with
  | done a => exact hf a
  | ask r next ih =>
    refine ⟨h.1, fun a => ih a (h.2 a) fun b => ?_⟩
    exact (hf b).mono (fun _ => .inl) fun _ => .inl

theorem within_map {t : Task α} (f : α → β) (h : t.Within reads writes) :
    (t.map f).Within reads writes := within_bind h fun _ => trivial

theorem within_andThen {t : Task (Outcome α)} {f : α → Task (Outcome β)}
    (h : t.Within reads writes) (hf : ∀ a, (f a).Within reads writes) :
    (t.andThen f).Within reads writes := by
  refine within_bind h fun r => ?_
  cases r with
  | ok a => exact hf a
  | error e => trivial

theorem within_request {r : Request} (hr : r.Allowed reads writes) :
    (request r).Within reads writes := within_ask hr fun _ => trivial

end Task

variable {reads writes : StreamId → Prop}

theorem LayerScript.within_task {query answer : Type} (name : String)
    {inner : query → Task (Outcome answer)} (hi : ∀ q, (inner q).Within reads writes)
    (script : LayerScript query answer) : (script.task name inner).Within reads writes := by
  induction script with
  | done result => trivial
  | note n rest ih => exact Task.within_ask trivial fun _ => ih
  | inner q rest ih => exact Task.within_bind (hi q) ih

theorem Reader.within_read (size : Nat) {r : Reader} (h : ∀ s, r.target? = some s → reads s)
    (attributes : Attributes) : (r.read size attributes).Within reads writes := by
  induction r generalizing attributes with
  | stream s => exact Task.within_map _ (Task.within_request (h s rfl))
  | wrapped l inner ih => exact LayerScript.within_task _ (ih h) _
  | sink name failure => exact Task.within_ask trivial fun _ => trivial

theorem Writer.within_write {x : Writer} (h : ∀ s, x.target? = some s → writes s)
    (q : Packet × Attributes) : (x.write q).Within reads writes := by
  induction x generalizing q with
  | stream s => exact Task.within_request (h s rfl)
  | wrapped l d inner ih => exact LayerScript.within_task _ (ih h) _
  | sink name failure => exact Task.within_ask trivial fun _ => trivial

theorem within_writeGate (g : GateId) (packet : Packet) (attributes : Attributes) :
    (writeGate g packet attributes).Within reads writes :=
  ⟨trivial, fun _ => Writer.within_write (fun _ hs => .inr hs) _⟩

theorem within_writeBindings (packet : Packet) (attributes : Attributes) (bs : List Binding)
    (t : Tally) : (writeBindings packet attributes bs t).Within reads writes := by
  induction bs generalizing t with
  | nil => trivial
  | cons b bs ih =>
    rw [writeBindings]
    split
    · exact ih t
    · exact Task.within_bind (within_writeGate _ _ _) fun _ => ih _

theorem Track.within_write (t : Track) (packet : Packet) (attributes : Attributes) :
    (t.write packet attributes).Within reads writes :=
  Task.within_ask trivial fun _ => within_writeBindings _ _ _ _

namespace Sender

theorem within_awaitSending (k : SenderKey) : (awaitSending k).Within reads writes :=
  Task.within_request trivial

theorem within_lookupReader {α : Type} (k : SenderKey) (feed : Feed)
    {f : Reader → Task (Outcome α)}
    (hf : ∀ r, (f r).Within (fun s => reads s ∨ r.target? = some s) writes) :
    ((lookupReader k feed).andThen f).Within reads writes := by
  refine ⟨trivial, fun a => ?_⟩
  cases a with
  | ok r => exact (hf r).mono (fun _ hs => hs) fun _ => .inl
  | error e => trivial

theorem within_read (k : SenderKey) (feed : Feed) (size : Nat) :
    (read k feed size).Within reads writes := by
  have hr : ∀ (reads : StreamId → Prop) (r : Reader),
      (r.read size []).Within (fun s => reads s ∨ r.target? = some s) writes :=
    fun _ _ => Reader.within_read size (fun _ hs => .inr hs) []
  rw [read]
  split
  · exact within_lookupReader k feed fun r =>
      Task.within_andThen (within_awaitSending k) fun _ => hr reads r
  · exact Task.within_andThen (within_awaitSending k) fun _ =>
      within_lookupReader k feed (hr reads)

theorem within_readPackets (k : SenderKey) (feed : Feed) (size : Nat) :
    (readPackets k feed size).Within reads writes := Task.within_map _ (within_read k feed size)

end Sender

end MediaSender

import MediaSender.Proofs.Capabilities.Registrations
/-!
Codec tables. A codec is known by its media type and its payload type, both as they are written; it
is put at the end of the table of its kind unless the table has such a codec. So a table holds what
was registered for its kind without the repetitions, in the order in which it came.
-/

namespace MediaSender

def Codec.entry (c : Codec) : String × UInt8 := (c.format.mimeType, c.payloadType)

def Registration.codecs : Registration → MediaKind → List Codec
  | codec _ .unspecified, _ => []
  | codec c j, k => if j = k then [c] else []
  | defaults, .audio => Capabilities.defaultAudio
  | defaults, .video => Capabilities.defaultVideo
  | defaults, .unspecified => []
  | extension .., _ => []

namespace Capabilities

variable {cs table : List Codec} {c : Codec} {t t' : Capabilities} {r : Registration}
  {k : MediaKind} {x : String × UInt8}

theorem sameEntry_iff {b : Codec} : sameEntry b c = true ↔ b.entry = c.entry := by
  simp [sameEntry, Codec.entry]

theorem any_sameEntry_iff : cs.any (sameEntry c) = true ↔ c.entry ∈ cs.map Codec.entry := by
  rw [List.any_eq_true, List.mem_map]
  exact exists_congr fun b => and_congr_right fun _ => sameEntry_iff.trans eq_comm

theorem insert_of_mem (h : c.entry ∈ table.map Codec.entry) : insert table c = table := by
  rw [insert, if_pos (any_sameEntry_iff.mpr h)]

theorem insert_of_notMem (h : c.entry ∉ table.map Codec.entry) : insert table c = table ++ [c] := by
  rw [insert, if_neg (mt any_sameEntry_iff.mp h)]

/-- The codecs of a list without those that repeat the entry of an earlier one. -/
def firsts (cs : List Codec) : List Codec :=
  (cs.zipIdx.filter fun (c, i) => c.entry ∉ (cs.take i).map Codec.entry).map (·.1)

theorem firsts_snoc (cs : List Codec) (c : Codec) :
    firsts (cs ++ [c]) =
      if c.entry ∈ cs.map Codec.entry then firsts cs else firsts cs ++ [c] := by
  -- the codecs before a position of `cs` are the same with `c` at the end
  have early : ∀ p ∈ cs.zipIdx, decide (p.1.entry ∉ ((cs ++ [c]).take p.2).map Codec.entry) =
      decide (p.1.entry ∉ (cs.take p.2).map Codec.entry) := by
    rintro ⟨b, i⟩ hb
    have hi : i < cs.length :=
      (List.getElem?_eq_some_iff.mp (List.mk_mem_zipIdx_iff_getElem?.mp hb)).1
    rw [List.take_append_of_le_length (Nat.le_of_lt hi)]
  simp only [firsts, List.zipIdx_append, List.filter_append, List.map_append]
  rw [List.filter_congr early]
  by_cases h : c.entry ∈ cs.map Codec.entry <;> simp [h]

theorem mem_entries_firsts : x ∈ (firsts cs).map Codec.entry ↔ x ∈ cs.map Codec.entry := by
  induction cs using List.reverseRecOn with
  | nil => rfl
  | append_singleton cs c ih =>
    rw [firsts_snoc]
    split
    · rename_i repeated
      rw [ih, List.map_append, List.mem_append, List.map_singleton, List.mem_singleton]
      exact ⟨.inl, fun h => h.elim id fun same => same ▸ repeated⟩
    · simp only [List.map_append, List.mem_append, ih]

theorem firsts_sublist (cs : List Codec) : (firsts cs).Sublist cs := by
  have h := (List.filter_sublist (p := fun p : Codec × Nat =>
    decide (p.1.entry ∉ (cs.take p.2).map Codec.entry)) (l := cs.zipIdx)).map (·.1)
  rwa [List.zipIdx_map_fst] at h

theorem nodup_entries_firsts (cs : List Codec) : ((firsts cs).map Codec.entry).Nodup := by
  induction cs using List.reverseRecOn with
  | nil => exact List.nodup_nil
  | append_singleton cs c ih =>
    rw [firsts_snoc]
    split
    · exact ih
    · rename_i new
      rw [List.map_append, List.nodup_append]
      refine ⟨ih, List.nodup_singleton _, ?_⟩
      rintro x hx y hy rfl
      rw [List.mem_singleton.mp hy, mem_entries_firsts] at hx
      exact new hx

theorem foldl_insert_nil (cs : List Codec) : cs.foldl insert [] = firsts cs := by
  induction cs using List.reverseRecOn with
  | nil => rfl
  | append_singleton cs c ih =>
    rw [List.foldl_append, ih, List.foldl_cons, List.foldl_nil, firsts_snoc]
    split
    · exact insert_of_mem (mem_entries_firsts.mpr ‹_›)
    · exact insert_of_notMem (mt mem_entries_firsts.mp ‹_›)

theorem prefix_foldl_insert (cs table : List Codec) : table <+: cs.foldl insert table := by
  induction cs generalizing table with
  | nil => exact List.prefix_refl _
  | cons c cs ih =>
    refine List.IsPrefix.trans ?_ (ih (insert table c))
    rw [insert]
    split
    · exact List.prefix_refl _
    · exact List.prefix_append _ _

theorem foldl_insert_of_mem (h : ∀ c ∈ cs, c.entry ∈ table.map Codec.entry) :
    cs.foldl insert table = table := by
  induction cs with
  | nil => rfl
  | cons c cs ih =>
    rw [List.foldl_cons, insert_of_mem (h c List.mem_cons_self)]
    exact ih fun b hb => h b (List.mem_cons_of_mem _ hb)

theorem codecs_act (r : Registration) (t : Capabilities) (k : MediaKind) :
    (r.act t).codecs k = (r.codecs k).foldl insert (t.codecs k) := by
  cases r with
  | codec c j => cases j <;> cases k <;> rfl
  | defaults =>
    change t.registerDefaults.codecs k = _
    cases k <;> simp only [codecs, registerDefaults, Registration.codecs, List.foldl_nil]
  | extension uri j d =>
    cases may : mayRegister d with
    | false => rw [act_extension_of_direction may]; rfl
    | true =>
      obtain ⟨-, same⟩ | ⟨-, same | same⟩ := act_extension t uri j may <;>
        rw [same] <;> cases k <;> rfl

theorem codecs_after (rs : List Registration) (t : Capabilities) (k : MediaKind) :
    (t.after rs).codecs k = (rs.flatMap (·.codecs k)).foldl insert (t.codecs k) := by
  induction rs using List.reverseRecOn with
  | nil => rfl
  | append_singleton rs r ih =>
    rw [after_snoc, codecs_act, ih, List.flatMap_append, List.foldl_append, List.flatMap_singleton]

theorem codecs_after_empty (rs : List Registration) (k : MediaKind) :
    (after {} rs).codecs k = firsts (rs.flatMap (·.codecs k)) := by
  rw [codecs_after, ← foldl_insert_nil]
  cases k <;> rfl

theorem eq_of_codecs (codecs : ∀ k, t.codecs k = t'.codecs k)
    (extensions : t.extensions = t'.extensions) : t = t' := by
  obtain ⟨audio, video, offers⟩ := t
  have haudio : audio = t'.audio := codecs .audio
  have hvideo : video = t'.video := codecs .video
  rw [haudio, hvideo, show offers = t'.extensions from extensions]

theorem codecs_act_of_mem {rs : List Registration} (mem : r ∈ rs) (k : MediaKind) :
    (r.act (after {} rs)).codecs k = (after {} rs).codecs k := by
  rw [codecs_act, foldl_insert_of_mem]
  intro c hc
  rw [codecs_after_empty, mem_entries_firsts]
  exact List.mem_map_of_mem (List.mem_flatMap.mpr ⟨r, mem, hc⟩)

theorem result_codec_eq_error_iff {f : Failure} :
    (Registration.codec c k).result t = .error f ↔ k = .unspecified ∧ f = .unknownKind := by
  cases k <;> simp [Registration.result, Registration.perform, register, eq_comm]

/-- After any registrations, the table of a kind is what was registered for it without the codecs
that repeat the media type and the payload type of an earlier one. Later calls only add at its end,
a call that is repeated changes nothing, and only a call for no kind fails. -/
theorem codec_tables_keep_firsts (rs : List Registration) :
    let t := after {} rs
    (∀ k, t.codecs k = firsts (rs.flatMap (·.codecs k)) ∧
      (t.codecs k).Sublist (rs.flatMap (·.codecs k)) ∧ ((t.codecs k).map Codec.entry).Nodup ∧
      ∀ more, t.codecs k <+: (t.after more).codecs k) ∧
    ((∀ c k, .codec c k ∈ rs → (Registration.codec c k).act t = t) ∧
      (.defaults ∈ rs → Registration.defaults.act t = t)) ∧
    ∀ c k, (∀ f, (Registration.codec c k).result t = .error f ↔
        k = .unspecified ∧ f = .unknownKind) ∧
      (k = .unspecified → (Registration.codec c k).act t = t) := by
  refine ⟨fun k => ?_, ⟨fun c k mem => ?_, fun mem => ?_⟩, fun c k => ?_⟩
  · have table := codecs_after_empty rs k
    refine ⟨table, table ▸ firsts_sublist _, table ▸ nodup_entries_firsts _, fun more => ?_⟩
    rw [codecs_after more]
    exact prefix_foldl_insert _ _
  · exact eq_of_codecs (codecs_act_of_mem mem) (by cases k <;> rfl)
  · exact eq_of_codecs (codecs_act_of_mem mem) rfl
  · refine ⟨fun f => result_codec_eq_error_iff, ?_⟩
    rintro rfl
    exact act_of_error (r := .codec c .unspecified) rfl

/-- A codec that was registered before the defaults stays in front of them, in place of its own. -/
example :
    (after {} [.codec ⟨{ mimeType := Mime.pcma, clockRate := 16000 }, 8⟩ .audio, .defaults,
      .codec ⟨{ mimeType := Mime.pcma }, 9⟩ .audio, .defaults]).audio.map
        (fun c => (c.format.mimeType, c.format.clockRate, c.payloadType)) =
      [(Mime.pcma, 16000, 8), (Mime.opus, 48000, 111), (Mime.g722, 8000, 9), (Mime.pcmu, 8000, 0),
        (Mime.pcma, 0, 9)] := by
  decide +kernel

end Capabilities

end MediaSender

import Mathlib.Data.List.Forall2
import MediaSender.Proofs.Codec.Searches
import MediaSender.Proofs.Format.Compatibility
/-!
The codec that a format asks for. Compatible parameters belong to one media type, so that a search
comes to nothing only if no codec has the media type that it asks for; and as neither the media type
nor the kind of the parameters depends on the ASCII case in which media types are written, nor does
the search.
-/

namespace MediaSender

/-- The same format, with its media type in any ASCII case. -/
def CodecFormat.Recased (f f' : CodecFormat) : Prop :=
  ∃ mimeType, Ascii.same f.mimeType mimeType ∧ f' = { f with mimeType }

namespace Codec

open CodecMatch

variable {format format' : CodecFormat} {codecs codecs' : List Codec} {c c' : Codec}

def Recased (c c' : Codec) : Prop := ∃ format, c.format.Recased format ∧ c' = { c with format }

def meets (format : CodecFormat) (c : Codec) : Bool := format.parsed.compatible c.format.parsed

theorem hasType_of_meets (h : c.meets format) : c.hasType format.mimeType :=
  FormatParameters.same_of_compatible h

theorem meets_self (c : Codec) : c.meets c.format = true := FormatParameters.compatible_self _

theorem meets_recased (h : format.Recased format') (hc : c.Recased c') :
    c.meets format = c'.meets format' := by
  obtain ⟨mime, same, rfl⟩ := h
  obtain ⟨_, ⟨mime', same', rfl⟩, rfl⟩ := hc
  exact FormatParameters.compatible_congr same same'

theorem hasType_recased (h : format.Recased format') (hc : c.Recased c') :
    c.hasType format.mimeType = c'.hasType format'.mimeType := by
  obtain ⟨mime, same, rfl⟩ := h
  obtain ⟨_, ⟨mime', same', rfl⟩, rfl⟩ := hc
  exact Ascii.same_congr same' same

theorem matching_eq_first (format : CodecFormat) (codecs : List Codec) :
    matching format codecs = .first (meets format) (·.hasType format.mimeType) codecs := rfl

def matchingPlace (format : CodecFormat) (codecs : List Codec) : Option Nat :=
  place (meets format) (·.hasType format.mimeType) codecs

theorem matching_eq_none_iff :
    matching format codecs = .none ↔ ∀ c ∈ codecs, ¬ c.hasType format.mimeType := by
  rw [matching_eq_first, first_eq_none_iff, and_iff_right_iff_imp]
  exact fun none c hc => mt hasType_of_meets (none c hc)

theorem hasType_of_matching (h : (matching format codecs).codec? = some c) :
    c.hasType format.mimeType := (meets_of_first h).elim hasType_of_meets id

theorem matching_exactly_iff :
    (∃ c, matching format codecs = .exactly c) ↔ ∃ c ∈ codecs, c.meets format := by
  constructor
  · rintro ⟨c, found⟩
    have first := first_eq_exactly_iff.mp found
    exact ⟨c, first.mem, first.holds⟩
  · intro meeting
    obtain ⟨c, found⟩ := Option.isSome_iff_exists.mp (List.find?_isSome.mpr meeting)
    exact ⟨c, first_eq_exactly_iff.mpr (find?_eq_some_iff_isFirst.mp found)⟩

theorem matching_recased (h : format.Recased format') (hs : List.Forall₂ Recased codecs codecs') :
    (matching format codecs).rank = (matching format' codecs').rank ∧
      matchingPlace format codecs = matchingPlace format' codecs' := by
  refine first_congr ?_ ?_
  · rw [← List.forall₂_eq_eq_eq, List.forall₂_map_left_iff, List.forall₂_map_right_iff]
    exact hs.imp fun _ _ hc => meets_recased h hc
  · rw [← List.forall₂_eq_eq_eq, List.forall₂_map_left_iff, List.forall₂_map_right_iff]
    exact hs.imp fun _ _ hc => hasType_recased h hc

/-- A format is answered with the first codec that has compatible parameters, else with the first of
its media type, else with none. Further codecs never make the match worse and never replace an exact
one, and the ASCII case of the media types matters neither to its quality nor to its position. -/
theorem matching_finds_best (format : CodecFormat) (codecs : List Codec) :
    let m := matching format codecs
    ((m = .none ↔ ∀ c ∈ codecs, ¬ c.hasType format.mimeType) ∧ (m = .none → m.answer = {})) ∧
    ((∃ c, m = .exactly c) ↔ ∃ c ∈ codecs, format.parsed.compatible c.format.parsed) ∧
    (∀ c, m = .exactly c ↔ IsFirst (format.parsed.compatible ·.format.parsed) codecs c) ∧
    (∀ c, m = .partly c ↔ (∀ b ∈ codecs, ¬ format.parsed.compatible b.format.parsed) ∧
      IsFirst (·.hasType format.mimeType) codecs c) ∧
    (∀ c, m.codec? = some c → c ∈ codecs ∧ c.hasType format.mimeType) ∧
    (∀ c ∈ codecs, ∃ c', matching c.format codecs = .exactly c') ∧
    (∀ more, m.rank ≤ (matching format (codecs ++ more)).rank ∧
      ∀ c, m = .exactly c → matching format (codecs ++ more) = .exactly c) ∧
    m.codec? = (matchingPlace format codecs).bind (codecs[·]?) ∧
    ∀ format' codecs', format.Recased format' → List.Forall₂ Recased codecs codecs' →
      m.rank = (matching format' codecs').rank ∧
        matchingPlace format codecs = matchingPlace format' codecs' := by
  refine ⟨⟨matching_eq_none_iff, fun none => ?_⟩, matching_exactly_iff,
    fun c => first_eq_exactly_iff, fun c => first_eq_partly_iff,
    fun c found => ⟨mem_of_first found, hasType_of_matching found⟩,
    fun c mem => matching_exactly_iff.mpr ⟨c, mem, meets_self c⟩,
    fun more => ⟨rank_first_append more, fun c found => first_append_of_exactly found more⟩,
    codec?_first, fun format' codecs' => matching_recased⟩
  rw [none]
  rfl

/-- A later codec with compatible parameters goes before an earlier one that has the type only. -/
example :
    let h264 (mode : String) (payloadType : UInt8) : Codec :=
      ⟨{ mimeType := Mime.h264, parameters := "packetization-mode=" ++ mode }, payloadType⟩
    matching { mimeType := "video/h264", parameters := "packetization-mode=0" }
      [h264 "1" 102, h264 "0" 127] = .exactly (h264 "0" 127) := by
  decide +kernel

end Codec

end MediaSender

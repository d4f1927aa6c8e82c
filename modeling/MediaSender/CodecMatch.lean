import MediaSender.FormatParameters
import MediaSender.Text.Decimal
/-!
Searches in a list of codecs, in order of preference: the codec that a format asks for, the
retransmission codec that protects a codec, and all codecs of one media type.
-/

namespace MediaSender

inductive CodecMatch
  | none
  | partly (codec : Codec)
  | exactly (codec : Codec)
  deriving DecidableEq, Repr

namespace CodecMatch

def codec? : CodecMatch → Option Codec
  | none => Option.none
  | partly c | exactly c => some c

def isNone : CodecMatch → Bool
  | none => true
  | _ => false

def first (exact partly : Codec → Bool) (codecs : List Codec) : CodecMatch :=
  match codecs.find? exact, codecs.find? partly with
  | some c, _ => .exactly c
  | Option.none, some c => .partly c
  | Option.none, Option.none => .none

end CodecMatch

namespace Codec

/-- A codec meets a format exactly if their parameters are compatible, and partly if only their
media types agree. -/
def matching (format : CodecFormat) (codecs : List Codec) : CodecMatch :=
  .first (fun c => format.parsed.compatible c.format.parsed) (·.hasType format.mimeType) codecs

def protected? (c : Codec) : Option UInt8 :=
  if c.hasType Mime.rtx then (c.format.parsed.lookup "apt").bind fun apt => Text.octet? apt.toList
  else none

/-- Whether `c` protects some codec of the list that has the media type of `needle`. -/
def protectsType (needle : Codec) (codecs : List Codec) (c : Codec) : Bool :=
  match c.protected? with
  | some apt => codecs.any fun p => p.payloadType == apt && p.hasType needle.format.mimeType
  | none => false

def retransmission (needle : Codec) (codecs : List Codec) : CodecMatch :=
  .first (·.protected? == some needle.payloadType) (protectsType needle codecs) codecs

def ofType (mimeType : String) (codecs : List Codec) : List Codec :=
  codecs.filter (·.hasType mimeType)

end Codec

end MediaSender

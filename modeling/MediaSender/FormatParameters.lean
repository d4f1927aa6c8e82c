import MediaSender.Codec
import MediaSender.Text.Blank
/-!
Format parameter lines. Redundant audio lists the payload types of its blocks, separated by
slashes; every other format has `key=value` segments, separated by semicolons, in which the case of
a key does not matter and the last segment of a key wins.
-/

namespace MediaSender

inductive FormatParameters
  | general (mimeType : String) (pairs : List (String × String))
  | redundant (blocks : List String)
  deriving DecidableEq, Repr

namespace FormatParameters

open Text

/-- Blank segments, and segments without a key, say nothing. -/
def segment? (segment : List Char) : Option (String × String) :=
  match cut '=' (trim segment) with
  | ([], _) => none
  | (key, value) => some (String.ofList (lowercase key), String.ofList (value.getD []))

def pairsOf (line : String) : List (String × String) := (split ';' line.toList).filterMap segment?

def blocksOf (line : String) : List String :=
  (split '/' line.toList).map fun block => String.ofList (trim block)

def parse (mimeType line : String) : FormatParameters :=
  if Ascii.same mimeType Mime.red then .redundant (blocksOf line)
  else .general mimeType (pairsOf line)

def mimeType : FormatParameters → String
  | general mimeType _ => mimeType
  | redundant _ => Mime.red

def valueIn (pairs : List (String × String)) (key : String) : Option String :=
  pairs.reverse.lookup key

/-- The value of a key; of redundant audio, a block that is listed stands for itself. -/
def lookup : FormatParameters → String → Option String
  | general _ pairs, key => valueIn pairs key
  | redundant blocks, key => blocks.find? (· == key)

def agree (pairs others : List (String × String)) : Bool :=
  pairs.all fun (key, _) =>
    match valueIn pairs key, valueIn others key with
    | some value, some other => Ascii.same other value
    | _, _ => true

def compatible : FormatParameters → FormatParameters → Bool
  | general mime pairs, general mime' pairs' =>
    Ascii.same mime mime' && agree pairs pairs' && agree pairs' pairs
  | redundant blocks, redundant blocks' => blocks == blocks'
  | _, _ => false

def entries (pairs : List (String × String)) : List (String × String) :=
  let keys := (pairs.map (·.1)).eraseDups.mergeSort (fun a b => decide (a ≤ b))
  keys.map fun key => (key, (valueIn pairs key).getD "")

end FormatParameters

def CodecFormat.parsed (f : CodecFormat) : FormatParameters := .parse f.mimeType f.parameters

end MediaSender

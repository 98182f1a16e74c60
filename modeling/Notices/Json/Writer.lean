import Notices.Text.Quoted
import Notices.Value.Basic

/-!
# Writing JSON

`Json.write` writes a value as JSON without blanks.  In a string the quote,
the backslash and the control characters are escaped.  A timestamp is written
as the string of its text.
-/

namespace Notices.Json

/-- A character inside a string. -/
def writeChar (c : Char) : List Char :=
  if c == '"' || c == '\\' then ['\\', c]
  else if c == '\n' then ['\\', 'n']
  else if c == '\r' then ['\\', 'r']
  else if c == '\t' then ['\\', 't']
  else if c.toNat < 0x20 then '\\' :: 'u' :: Text.hexText 4 c.toNat
  else [c]

/-- A string in quotes. -/
def writeString (s : String) : List Char :=
  '"' :: s.toList.flatMap writeChar ++ ['"']

/-- A real number; infinity and no number have names. -/
def writeReal : Binary64 → List Char
  | .infinite negative => (if negative then "-Infinity" else "Infinity").toList
  | .nan => "NaN".toList
  | x => x.text

mutual

/-- A value as JSON. -/
def writeValue : Value → List Char
  | .null => "null".toList
  | .bool b => (if b then "true" else "false").toList
  | .int n => intText n
  | .real x => writeReal x
  | .string s => writeString s
  | .time t => '"' :: t.text ++ ['"']
  | .list items => '[' :: writeItems items ++ [']']
  | .object fields => '{' :: writeFields fields ++ ['}']

/-- The items of a list, with commas between them. -/
def writeItems : List Value → List Char
  | [] => []
  | [v] => writeValue v
  | v :: rest => writeValue v ++ ',' :: writeItems rest

/-- The fields of an object, with commas between them. -/
def writeFields : List (String × Value) → List Char
  | [] => []
  | [(name, v)] => writeString name ++ ':' :: writeValue v
  | (name, v) :: rest =>
      writeString name ++ ':' :: writeValue v ++ ',' :: writeFields rest

end

/-- The JSON text of a value. -/
def write (v : Value) : String := String.ofList (writeValue v)

end Notices.Json

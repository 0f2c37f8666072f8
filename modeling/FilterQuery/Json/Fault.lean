import FilterQuery.Json.Numeral
import FilterQuery.Text.Quoted

/-!
# What can be wrong with a JSON text

A text may end too early, break the rules of JSON, or be JSON of the wrong kind.  `Fault.kind` tells
these three apart, and `Fault.message` gives the wording.
-/

namespace FilterQuery.Json

/-- The three kinds of fault. -/
inductive FaultKind
  /-- The text ends too early. -/
  | truncated
  /-- The text is not JSON. -/
  | malformed
  /-- The text is JSON, but not for what it is read as. -/
  | mismatched
  deriving DecidableEq, Repr

/-- What a text may end inside of. -/
inductive Part
  | value
  | list
  | object
  | string
  deriving DecidableEq, Repr

/-- The part in words. -/
def Part.wording : Part → String
  | .value => "a value"
  | .list => "a list"
  | .object => "an object"
  | .string => "a string"

/-- What stands in a text. -/
inductive Found
  | null
  | bool (value : Bool)
  | number (value : Number)
  | text (value : String)
  | sequence
  | map
  deriving DecidableEq, Repr

/-- The thing found, in words. -/
def Found.wording : Found → String
  | .null => "null"
  | .bool true => "boolean `true`"
  | .bool false => "boolean `false`"
  | .number (.double bits) => "floating point `" ++ (Number.double bits).display ++ "`"
  | .number value => "integer `" ++ value.display ++ "`"
  | .text value => "string " ++ Text.quote value
  | .sequence => "sequence"
  | .map => "map"

/-- What ought to stand in a text. -/
inductive Expected
  | text
  | character
  | sequence
  | map
  | null
  /-- A record of this name. -/
  | record (name : String)
  deriving DecidableEq, Repr

/-- The thing expected, in words. -/
def Expected.wording : Expected → String
  | .text => "a string"
  | .character => "a character"
  | .sequence => "a sequence"
  | .map => "a map"
  | .null => "unit"
  | .record name => "struct " ++ name

/-- Why a JSON text cannot be read as what it is read as. -/
inductive Fault
  | ends (inside : Part)
  | noValue
  | noWord
  | noColon
  | noListMark
  | noObjectMark
  | noStringKey
  | trailingComma
  | trailingCharacters
  | badNumber
  | numberTooLarge
  | badEscape
  | controlCharacter
  /-- A code of a surrogate stands where it has no first half. -/
  | loneSurrogate
  /-- A first half of a surrogate pair is followed by no code at all. -/
  | halfSurrogate
  | tooDeep
  | wrongType (found : Found) (expected : Expected)
  | wrongText (found : String) (expected : Expected)
  | wrongLength (length : Nat) (record : String) (size : Nat)
  | unknownVariant (name : String) (known : List String)
  | duplicateField (name : String)
  | missingField (name : String)
  /-- A value is neither a string nor a list of strings. -/
  | noAlternative
  deriving DecidableEq, Repr

namespace Fault

/-- The kind of the fault. -/
def kind : Fault → FaultKind
  | ends _ => .truncated
  | noValue | noWord | noColon | noListMark | noObjectMark | noStringKey | trailingComma
  | trailingCharacters | badNumber | numberTooLarge | badEscape | controlCharacter | loneSurrogate
  | halfSurrogate | tooDeep => .malformed
  | wrongType .. | wrongText .. | wrongLength .. | unknownVariant .. | duplicateField _
  | missingField _ | noAlternative => .mismatched

/-- Names between grave accents with commas between them. -/
def listing (names : List String) : String :=
  ", ".intercalate (names.map fun name => "`" ++ name ++ "`")

/-- The fault in words. -/
def message : Fault → String
  | ends inside => "EOF while parsing " ++ inside.wording
  | noValue => "expected value"
  | noWord => "expected ident"
  | noColon => "expected `:`"
  | noListMark => "expected `,` or `]`"
  | noObjectMark => "expected `,` or `\x7d`"
  | noStringKey => "key must be a string"
  | trailingComma => "trailing comma"
  | trailingCharacters => "trailing characters"
  | badNumber => "invalid number"
  | numberTooLarge => "number out of range"
  | badEscape => "invalid escape"
  | controlCharacter =>
    "control character (\\u0000-\\u001F) found while parsing a string"
  | loneSurrogate => "lone leading surrogate in hex escape"
  | halfSurrogate => "unexpected end of hex escape"
  | tooDeep => "recursion limit exceeded"
  | wrongType found expected =>
    "invalid type: " ++ found.wording ++ ", expected " ++ expected.wording
  | wrongText found expected =>
    "invalid value: string " ++ Text.quote found ++ ", expected " ++ expected.wording
  | wrongLength length record size =>
    "invalid length " ++ toString length ++ ", expected struct " ++ record ++ " with "
      ++ toString size ++ " elements"
  | unknownVariant name known =>
    "unknown variant `" ++ name ++ "`, expected one of " ++ listing known
  | duplicateField name => "duplicate field `" ++ name ++ "`"
  | missingField name => "missing field `" ++ name ++ "`"
  | noAlternative => "data did not match any variant of untagged enum ValueToken"

end Fault

end FilterQuery.Json

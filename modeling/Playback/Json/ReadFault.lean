import Playback.Json.Document
import Playback.Json.Value
import Playback.Text.Located
import Playback.Text.Quoted

namespace Playback.Json

/-- What a reader meets in the place of what it expects. -/
inductive Found where
  | null
  | boolean (value : Bool)
  | number (value : Number)
  | text (value : String)
  | list
  | object
deriving DecidableEq

def Found.message : Found → String
  | .null => "null"
  | .boolean value => "boolean `" ++ truth value ++ "`"
  | .number (.integer value) => "integer `" ++ toString value ++ "`"
  | .number value => "floating point `" ++ value.text ++ "`"
  | .text value => "string " ++ Text.quoted value
  | .list => "sequence"
  | .object => "map"

inductive ReadFault where
  | flawed (flaw : Flaw)
  | mismatch (found : Found) (expected : String)
  | outOfRange (value : Int) (expected : String)
  | missingField (name : String)
  | repeatedField (name : String)
  | unknownVariant (name : String) (known : List String)
  | tooShort (count : Nat) (expected : String)
  | refused (reason : String)
deriving DecidableEq

namespace ReadFault

def tick (name : String) : String := "`" ++ name ++ "`"

/-- One, two and more alternatives are worded differently. -/
def alternatives : List String → String
  | [] => "there are no variants"
  | [only] => "expected " ++ tick only
  | [first, second] => "expected " ++ tick first ++ " or " ++ tick second
  | names => "expected one of " ++ String.intercalate ", " (names.map tick)

/-- Messages do not tell where a fault is, so a reason loses the location at its end. -/
def message : ReadFault → String
  | .flawed flaw => flaw.message
  | .mismatch found expected => "invalid type: " ++ found.message ++ ", expected " ++ expected
  | .outOfRange value expected =>
      "invalid value: integer `" ++ toString value ++ "`, expected " ++ expected
  | .missingField name => "missing field " ++ tick name
  | .repeatedField name => "duplicate field " ++ tick name
  | .unknownVariant name known =>
      "unknown variant " ++ tick name ++ ", " ++ alternatives known
  | .tooShort count expected =>
      "invalid length " ++ toString count ++ ", expected " ++ expected
  | .refused reason => Text.withoutLocation Text.plainWord? reason

end ReadFault

namespace Document

/-- What a reader answers to a document of another type than the expected one. -/
def mismatch (expected : String) : Document → ReadFault
  | .null => .mismatch .null expected
  | .boolean value => .mismatch (.boolean value) expected
  | .number (.exact value) => .mismatch (.number value) expected
  | .number .tooLarge => .flawed .numberOutOfRange
  | .number (.broken reading) => .flawed reading
  | .text (.plain value) => .mismatch (.text value) expected
  | .text (.unpaired reading) => .flawed reading
  | .text (.broken reading _) => .flawed reading
  | .list _ _ => .mismatch .list expected
  | .object _ _ => .mismatch .object expected
  | .misnamed _ _ => .mismatch .object expected
  | .stray flaw => .flawed flaw
  | .severed flaw => .flawed flaw
  | .absent => .flawed .endInValue

end Document

end Playback.Json

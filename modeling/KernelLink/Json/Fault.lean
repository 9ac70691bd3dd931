import KernelLink.Json.Number
import KernelLink.Text.Quoted

namespace KernelLink

/-- What a JSON value turned out to be where a value of another type was wanted. -/
inductive Found where
  | null
  | bool (value : Bool)
  | number (value : Number)
  | text (value : String)
  | array
  | object
  deriving DecidableEq, Repr

namespace Found

def describe : Found → String
  | .null => "null"
  | .bool b => "boolean `" ++ toString b ++ "`"
  | .number (.integer i) => "integer `" ++ toString i ++ "`"
  | .number (.double d) => "floating point `" ++ d.text ++ "`"
  | .text s => "string " ++ quoted s
  | .array => "sequence"
  | .object => "map"

end Found

/-- Why a text, or a value read from one, is not what was asked for. -/
inductive Fault where
  /-- The text ended inside a value. -/
  | incomplete
  /-- The text is not JSON, whatever might follow it. -/
  | malformed
  | mismatch (found : Found) (wanted : String)
  | outOfRange (value : Int) (wanted : String)
  | length (count : Nat) (wanted : String)
  | missing (field : String)
  | duplicate (field : String)
  | unknownVariant (name : String) (known : List String)
  /-- The text could not be read or written to its end. -/
  | io (reason : String)
  deriving DecidableEq, Repr

namespace Fault

private def alternatives (known : List String) : String :=
  match known with
  | [only] => "`" ++ only ++ "`"
  | _ => "one of " ++ ", ".intercalate (known.map fun name => "`" ++ name ++ "`")

def describe : Fault → String
  | .incomplete => "<eof>"
  | .malformed => "<syntax>"
  | .mismatch found wanted => "invalid type: " ++ found.describe ++ ", expected " ++ wanted
  | .outOfRange value wanted =>
    "invalid value: integer `" ++ toString value ++ "`, expected " ++ wanted
  | .length count wanted => "invalid length " ++ toString count ++ ", expected " ++ wanted
  | .missing field => "missing field `" ++ field ++ "`"
  | .duplicate field => "duplicate field `" ++ field ++ "`"
  | .unknownVariant name known =>
    "unknown variant `" ++ name ++ "`, expected " ++ alternatives known
  | .io reason => reason

end Fault

end KernelLink

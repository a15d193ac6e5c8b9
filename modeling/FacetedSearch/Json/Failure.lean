import FacetedSearch.Number.Decimal
import FacetedSearch.Text.Literal

/-! Why a JSON text cannot be read as what it should be.

A text is refused at the first place where it goes wrong: because it ends too early, because it
is no JSON, or because it is JSON of another shape. Only the last kind needs words.
-/

set_option autoImplicit false

namespace FacetedSearch.Json

open Number (Binary64)

/-- What a value is, said without its contents where these are further values. -/
inductive Kind where
  | null
  | boolean (value : Bool)
  | natural (value : Nat)
  | negative (magnitude : Nat)
  | float (value : Binary64)
  | string (value : String)
  | sequence
  | map
  deriving DecidableEq, Repr

inductive Mismatch where
  | type (found : Kind) (expected : String)
  | length (found : Nat) (expected : String)
  | missing (member : String)
  | duplicate (member : String)
  deriving DecidableEq, Repr

inductive Failure where
  | mismatch (cause : Mismatch)
  | malformed
  | incomplete
  deriving DecidableEq, Repr

def Kind.describe : Kind → String
  | .null => "null"
  | .boolean value => "boolean `" ++ (if value then "true" else "false") ++ "`"
  | .natural value => "integer `" ++ toString value ++ "`"
  | .negative magnitude => "integer `-" ++ toString magnitude ++ "`"
  | .float value => "floating point `" ++ value.write .scientific ++ "`"
  | .string value => "string " ++ Text.literal value
  | .sequence => "sequence"
  | .map => "map"

def Mismatch.message : Mismatch → String
  | .type found expected => "invalid type: " ++ found.describe ++ ", expected " ++ expected
  | .length found expected => "invalid length " ++ toString found ++ ", expected " ++ expected
  | .missing member => "missing field `" ++ member ++ "`"
  | .duplicate member => "duplicate field `" ++ member ++ "`"

end FacetedSearch.Json

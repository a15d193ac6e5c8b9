import FacetedSearch.Number.Binary64
import FacetedSearch.Toml.Moment

/-! The values of TOML documents.

A table can be a mark: when its first key is `momentKey`, it stands for the moment that the value
of this key tells, whatever else it holds.
-/

set_option autoImplicit false

namespace FacetedSearch.Toml

/-- A value. A date, a time or both is kept as its text in the usual form. -/
inductive Value where
  | text (value : String)
  | integer (value : Int)
  | float (value : Number.Binary64)
  | boolean (value : Bool)
  | moment (text : String)
  | array (elements : List Value)
  | table (entries : List (String × Value))

def momentKey : String := "$__toml_private_datetime"

def Value.toMoment? : Value → Option Value
  | .text marked => (markedMoment? marked).map .moment
  | _ => none

mutual

/-- A value with moments in the place of their marks, if no mark is without a moment. -/
def Value.settle? : Value → Option Value
  | .array elements => (settleElements? elements).map .array
  | .table [] => some (.table [])
  | .table ((key, value) :: rest) =>
    if key == momentKey then value.toMoment?
    else do
      let first ← value.settle?
      return .table ((key, first) :: (← settleEntries? rest))
  | value => some value

def settleElements? : List Value → Option (List Value)
  | [] => some []
  | value :: rest => do return (← value.settle?) :: (← settleElements? rest)

def settleEntries? : List (String × Value) → Option (List (String × Value))
  | [] => some []
  | (key, value) :: rest => do return (key, ← value.settle?) :: (← settleEntries? rest)

end

end FacetedSearch.Toml

/-! Dialects: the two choices under which queries are read and written. -/

set_option autoImplicit false

namespace FacetedSearch

/-- Under a dialect, free text belongs to the category `remainder`, and the values of the
categories in `unquotable` are written without quotation marks. Both are compared exactly. -/
structure Dialect where
  remainder : String := "text"
  unquotable : List String := []
  deriving DecidableEq, Repr

def Dialect.isRemainder (dialect : Dialect) (category : String) : Bool :=
  dialect.remainder == category

def Dialect.isUnquotable (dialect : Dialect) (category : String) : Bool :=
  dialect.unquotable.contains category

def Dialect.withUnquotable (dialect : Dialect) (categories : List String) : Dialect :=
  { dialect with unquotable := dialect.unquotable ++ categories }

end FacetedSearch

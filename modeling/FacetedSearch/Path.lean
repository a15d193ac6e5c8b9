/-! Paths as texts: parts with slashes between them.

A path starts at the root when it starts with a slash, and else at a directory. Empty parts and
`.` stay in place.
-/

set_option autoImplicit false

namespace FacetedSearch.Path

def segments : List Char → List (List Char)
  | [] => [[]]
  | c :: rest =>
    if c = '/' then [] :: segments rest
    else
      match segments rest with
      | [] => [[c]]
      | first :: others => (c :: first) :: others

def isAbsolute (path : String) : Bool := path.toList.head? == some '/'

def absolute (directory path : String) : String :=
  if isAbsolute path then path else directory ++ "/" ++ path

/-- A path up to its last part that does not stay in place. Without such a part, and when it goes
upwards, a path has no name for a file. -/
def untilName? (path : String) : Option String :=
  let staysInPlace (part : List Char) : Bool := part.isEmpty || part == ['.']
  match (segments path.toList).reverse.dropWhile staysInPlace with
  | [] | ['.', '.'] :: _ => none
  | parts => some (String.ofList (List.intercalate ['/'] parts.reverse))

end FacetedSearch.Path

/-! Places in texts, counted in bytes of UTF-8. -/

set_option autoImplicit false

namespace FacetedSearch.Text

def byteLength : List Char → Nat
  | [] => 0
  | c :: rest => c.utf8Size + byteLength rest

/-- Split a text after so many bytes, if a character ends there. -/
def splitBytes? : Nat → List Char → Option (List Char × List Char)
  | 0, cs => some ([], cs)
  | _ + 1, [] => none
  | count + 1, c :: rest =>
    if c.utf8Size ≤ count + 1 then
      (splitBytes? (count + 1 - c.utf8Size) rest).map fun (first, rest) => (c :: first, rest)
    else none

def cutFrom? (start : Nat) (cs : List Char) : Option (List Char) :=
  (splitBytes? start cs).map (·.2)

def cut? (start stop : Nat) (cs : List Char) : Option (List Char) := do
  let rest ← cutFrom? start cs
  return (← splitBytes? (stop - start) rest).1

end FacetedSearch.Text

/-! Blank characters and trimming.

A character is blank when Unicode gives it the property `White_Space`. Every rule of the
query language that speaks of blanks, and every trimmed value, means this one class.
-/

set_option autoImplicit false

namespace FacetedSearch.Text

/-- The characters with the Unicode property `White_Space`, and no others. -/
def isBlank (c : Char) : Bool :=
  let n := c.toNat
  (0x09 ≤ n && n ≤ 0x0D) || n == 0x20 || n == 0x85 || n == 0xA0 || n == 0x1680 ||
    (0x2000 ≤ n && n ≤ 0x200A) || n == 0x2028 || n == 0x2029 || n == 0x202F || n == 0x205F ||
    n == 0x3000

def isBlankText (cs : List Char) : Bool := cs.all isBlank

def trimEnd : List Char → List Char
  | [] => []
  | c :: rest =>
    match trimEnd rest with
    | [] => if isBlank c then [] else [c]
    | kept => c :: kept

def trimChars (cs : List Char) : List Char := trimEnd (cs.dropWhile isBlank)

def trim (s : String) : String := String.ofList (trimChars s.toList)

end FacetedSearch.Text

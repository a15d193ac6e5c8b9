import FacetedSearch.Text.Blank

/-! How a pattern is read from a place on.

A pattern is a regular expression. Its flags can say that blanks and comments have no meaning, and
that characters are those of ASCII only. They hold up to the end of the group that they stand in.
-/

set_option autoImplicit false

namespace FacetedSearch.Pattern

structure Mode where
  spaced : Bool := false
  unicode : Bool := true
  deriving DecidableEq, Repr

/-- The letters of all flags; most of them concern matching only. -/
def flagLetters : List Char := "imsUuRx".toList

def Mode.switch (mode : Mode) (flag : Char) (on : Bool) : Mode :=
  if flag == 'x' then { mode with spaced := on }
  else if flag == 'u' then { mode with unicode := on }
  else mode

/-- Drop blanks and comments, perhaps from the inside of a comment on. A comment goes from `#` to
the end of the line. -/
def dropSpace (inComment : Bool) : List Char → List Char
  | [] => []
  | c :: rest =>
    if inComment then dropSpace (c != '\n') rest
    else if Text.isBlank c then dropSpace false rest
    else if c == '#' then dropSpace true rest
    else c :: rest

def Mode.skip (mode : Mode) (cs : List Char) : List Char :=
  if mode.spaced then dropSpace false cs else cs

/-- The character that decides what a hyphen before it means. Blanks and the start of a comment
are passed over if something follows them; the text of a comment is not. -/
def Mode.afterHyphen? (mode : Mode) (cs : List Char) : Option Char :=
  let shown := cs.dropWhile Text.isBlank
  let shown := if shown.head? == some '#' then (shown.drop 1).dropWhile Text.isBlank else shown
  if mode.spaced then shown.head? <|> cs.head? else cs.head?

end FacetedSearch.Pattern

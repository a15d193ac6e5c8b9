import FacetedSearch.Journal.Member
import FacetedSearch.Journal.Rule
import FacetedSearch.Text.Blank
import FacetedSearch.Text.Bytes

/-! Reading the directives of which a filter of the journal consists.

A directive is a level, a target, or both with `=` between them. After the target, brackets can
hold a span, and braces in them a member. The places of these parts are counted in bytes from the
first character that is not blank, but the parts are cut from the whole text at these places. So a
blank in front moves all parts, and a place can fall into the middle of a character.
-/

set_option autoImplicit false

namespace FacetedSearch.Journal

/-- What a directive says: a rule, or something about spans or about the values of members, which
concerns no note. -/
inductive Directive where
  | rule (rule : Rule)
  | spans
  deriving DecidableEq, Repr

inductive Fault where
  | malformed
  /-- A part would start or end in the middle of a character. -/
  | divided
  deriving DecidableEq, Repr

def part (whole : List Char) (start stop : Nat) : Except Fault (List Char) :=
  match Text.cut? start stop whole with
  | some part => .ok part
  | none => .error .divided

def lastPart (whole : List Char) (start : Nat) : Except Fault (List Char) :=
  match Text.cutFrom? start whole with
  | some part => .ok part
  | none => .error .divided

def wellFormed {α : Type} : Option α → Except Fault α
  | some value => .ok value
  | none => .error .malformed

def readRankNumber? (cs : List Char) : Option Nat :=
  let digits := if cs.head? == some '+' then cs.drop 1 else cs
  if digits.isEmpty then none else Text.numberInBase? 10 digits

/-- The rank that a level's name or number stands for. Names may have any case, and numbers a plus
sign and zeros in front. -/
def readRank? (cs : List Char) : Option Nat :=
  match readRankNumber? cs with
  | some n => if n ≤ Level.trace.rank then some n else none
  | none =>
    match String.ofList (cs.map Char.toLower) with
    | "off" => some 0
    | "error" => some Level.error.rank
    | "warn" => some Level.warn.rank
    | "info" => some Level.info.rank
    | "debug" => some Level.debug.rank
    | "trace" => some Level.trace.rank
    | _ => none

def readLevel (whole : List Char) (start : Nat) : Except Fault Nat := do
  let cs ← lastPart whole start
  if cs.isEmpty then return Level.trace.rank else wellFormed (readRank? cs)

def readBracketsEnd (whole : List Char) (start : Nat) : List Char → Except Fault Nat
  | [] => .ok Level.trace.rank
  | '=' :: _ => readLevel whole (start + 1)
  | _ => .error .malformed

def readMember (whole : List Char) (start : Nat) (shown : List Char) :
    Except Fault MemberRequest := do
  let inner := shown.takeWhile (· != '\x7d')
  if inner.length == shown.length then throw .malformed
  let cs ← part whole start (start + Text.byteLength inner)
  if cs.isEmpty then throw .malformed
  wellFormed (MemberRequest.read? cs)

/-- Read a directive from its brackets on, after an opening bracket that ends at a place. They hold
a span, and perhaps a member in braces. -/
def readBrackets (whole target : List Char) (start : Nat) (shown : List Char) :
    Except Fault Directive := do
  let span := shown.takeWhile fun c => c != ']' && c != '\x7b'
  let stop := start + Text.byteLength span
  match shown.drop span.length with
  | ']' :: rest =>
    let _ ← part whole start stop
    let _ ← readBracketsEnd whole (stop + 1) rest
    return .spans
  | '\x7b' :: inner =>
    let _ ← part whole start stop
    let member ← readMember whole (stop + 1) inner
    let length := inner.takeWhile (· != '\x7d')
    match inner.drop (length.length + 1) with
    | ']' :: rest =>
      let rank ← readBracketsEnd whole (stop + Text.byteLength length + 3) rest
      if span.isEmpty && !member.hasValue then
        return .rule ⟨String.ofList target, some member.name, rank⟩
      else return .spans
    | _ => throw .malformed
  | _ => throw .malformed

def opensTarget (c : Char) : Bool :=
  c == '-' || c == ':' || c == '_' || Text.isAlphanumeric c

def Directive.plain (text : String) : Directive :=
  match readRank? text.toList with
  | some rank => .rule { target := "", rank }
  | none => .rule { target := text, rank := Level.trace.rank }

def Directive.read (text : String) : Except Fault Directive := do
  let whole := text.toList
  match Text.trimChars whole with
  | [] => throw .malformed
  | '[' :: rest => readBrackets whole [] 1 rest
  | c :: rest =>
    if !opensTarget c then throw .malformed
    let shown := (c :: rest).takeWhile fun c => c != '=' && c != '['
    let stop := Text.byteLength shown
    match (c :: rest).drop shown.length with
    | [] => return Directive.plain text
    | mark :: rest =>
      let target ← part whole 0 stop
      if mark == '[' then readBrackets whole target (stop + 1) rest
      else return .rule { target := String.ofList target, rank := ← readLevel whole (stop + 1) }

end FacetedSearch.Journal

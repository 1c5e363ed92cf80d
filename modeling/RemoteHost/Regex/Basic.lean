/-
RemoteHost/Regex/Basic.lean

Regular expressions over characters, and where they match.

An expression is matched by partial derivatives: `step` gives the expressions one
of which the rest of a match must satisfy after one more character.  An assertion
(start, end, word boundary) consumes nothing and looks at the characters on
either side of the place; so `accepts` and `step` take that place.  `isMatch` runs
the set of pending expressions along the text and starts afresh everywhere,
because a match may begin and end anywhere.
-/
import RemoteHost.Text.Category
import RemoteHost.Text.Script
import RemoteHost.Regex.CaseFold

namespace RemoteHost

namespace Regex

/-! ### Character classes -/

/-- A set of characters. -/
inductive Class where
  | range (lo hi : Char)
  /-- A general category, or a group of them by its first letter. -/
  | category (name : String)
  /-- The characters written in a script. -/
  | script (name : String)
  | alphabetic
  | lowercase
  | uppercase
  | word
  | blank
  | empty
  | union (a b : Class)
  | inter (a b : Class)
  | compl (a : Class)
  /-- With each character also those that differ from it only in case. -/
  | caseless (a : Class)
  deriving DecidableEq

namespace Class

/-- Membership of a character. -/
def has : Class → Char → Bool
  | range lo hi, c => lo ≤ c && c ≤ hi
  | category name, c => Text.Category.isIn name c
  | script name, c => Text.Script.isIn name c
  | alphabetic, c => Text.Category.isAlphabetic c
  | lowercase, c => Text.Category.isLowercase c
  | uppercase, c => Text.Category.isUppercase c
  | word, c => Text.Category.isWordChar c
  | blank, c => Text.isBlank c
  | empty, _ => false
  | union a b, c => a.has c || b.has c
  | inter a b, c => a.has c && b.has c
  | compl a, c => !a.has c
  | caseless a, c => (caseClass c).any a.has

/-- All characters. -/
def any : Class := compl empty

/-- One character. -/
def single (c : Char) : Class := range c c

/-- The characters in exactly one of two sets. -/
def symmDiff (a b : Class) : Class := union (inter a (compl b)) (inter b (compl a))

/-- The union of several sets. -/
def unions : List Class → Class
  | [] => empty
  | [a] => a
  | a :: r => union a (unions r)

end Class

/-! ### Places and assertions -/

/-- A place in a text: the characters before and after it. -/
structure Place where
  before : Option Char
  after : Option Char

/-- A condition on a place. -/
inductive Assertion where
  | textStart
  | textEnd
  | lineStart
  | lineEnd
  /-- Line ends are carriage returns, line feeds and the pair of them. -/
  | lineStartCrlf
  | lineEndCrlf
  | wordBoundary (ascii : Bool)
  | notWordBoundary (ascii : Bool)
  | wordStart (ascii : Bool)
  | wordEnd (ascii : Bool)
  | wordStartHalf (ascii : Bool)
  | wordEndHalf (ascii : Bool)
  deriving DecidableEq

/-- A character of a word; none is not. -/
def isWord (ascii : Bool) : Option Char → Bool
  | none => false
  | some c => if ascii then Text.isLetter c || Text.isDigit c || c == '_'
    else Text.Category.isWordChar c

/-- The assertion holds at a place. -/
def Assertion.holds (p : Place) : Assertion → Bool
  | textStart => p.before.isNone
  | textEnd => p.after.isNone
  | lineStart => p.before.isNone || p.before == some '\n'
  | lineEnd => p.after.isNone || p.after == some '\n'
  | lineStartCrlf => p.before.isNone || p.before == some '\n' ||
      (p.before == some '\r' && p.after != some '\n')
  | lineEndCrlf => p.after.isNone || p.after == some '\r' ||
      (p.after == some '\n' && p.before != some '\r')
  | wordBoundary a => isWord a p.before != isWord a p.after
  | notWordBoundary a => isWord a p.before == isWord a p.after
  | wordStart a => !isWord a p.before && isWord a p.after
  | wordEnd a => isWord a p.before && !isWord a p.after
  | wordStartHalf a => !isWord a p.before
  | wordEndHalf a => !isWord a p.after

end Regex

/-! ### Expressions -/

/-- A regular expression. -/
inductive Regex where
  /-- Nothing at all. -/
  | empty
  | chars (set : Regex.Class)
  | assertion (a : Regex.Assertion)
  | seq (r s : Regex)
  | alt (r s : Regex)
  | star (r : Regex)
  deriving DecidableEq

namespace Regex

/-- The expression matches the empty text at a place. -/
def accepts (p : Place) : Regex → Bool
  | empty => true
  | chars _ => false
  | assertion a => a.holds p
  | seq r s => r.accepts p && s.accepts p
  | alt r s => r.accepts p || s.accepts p
  | star _ => true

/-- A sequence; the empty expression in front is dropped. -/
def andThen : Regex → Regex → Regex
  | empty, s => s
  | r, s => seq r s

/-- What may follow when the next character at a place is `c`. -/
def step (p : Place) (c : Char) : Regex → List Regex
  | empty => []
  | chars set => if set.has c then [empty] else []
  | assertion _ => []
  | seq r s =>
    (r.step p c).map (·.andThen s) ++ (if r.accepts p then s.step p c else [])
  | alt r s => r.step p c ++ s.step p c
  | star r => (r.step p c).map (·.andThen (star r))

/-- Some pending expression, or a fresh start, ends in a match; `before` is the last
character read. -/
def search (r : Regex) (pending : List Regex) (before : Option Char) : List Char → Bool
  | [] => (r :: pending).any (·.accepts ⟨before, none⟩)
  | c :: s =>
    let place : Place := ⟨before, some c⟩
    let now := r :: pending
    now.any (·.accepts place) ||
      search r (now.flatMap (·.step place c)).eraseDups (some c) s

/-- The expression matches somewhere in a text. -/
def isMatch (r : Regex) (s : String) : Bool := r.search [] none s.toList

/-! ### Repetition -/

/-- An expression a fixed number of times. -/
def times (r : Regex) : Nat → Regex
  | 0 => empty
  | 1 => r
  | n + 2 => seq r (times r (n + 1))

/-- An expression or nothing. -/
def optional (r : Regex) : Regex := alt r empty

/-- An expression at most a number of times. -/
def upTo (r : Regex) : Nat → Regex
  | 0 => empty
  | n + 1 => optional (seq r (upTo r n))

/-- The number of nodes. -/
def size : Regex → Nat
  | empty => 1
  | chars _ => 1
  | assertion _ => 1
  | seq r s => r.size + s.size + 1
  | alt r s => r.size + s.size + 1
  | star r => r.size + 1

end Regex

end RemoteHost

/-
RemoteHost/Text/Blank.lean

Blank characters and the three things a command's output is put through
because of them: trimming, splitting into lines and splitting into words.

A character is blank when Unicode gives it the property White_Space; the 25
of them are written out below.  Every function comes in two forms, one on
`List Char`, which is the one to reason about, and one on `String`, which
only unpacks and packs.
-/

namespace RemoteHost.Text

/-! ### Blank characters -/

/-- The property White_Space. -/
def isBlank (c : Char) : Bool :=
  let n := c.toNat
  (9 ≤ n && n ≤ 13) || n == 0x20 || n == 0x85 || n == 0xA0 || n == 0x1680 ||
    (0x2000 ≤ n && n ≤ 0x200A) || n == 0x2028 || n == 0x2029 || n == 0x202F ||
    n == 0x205F || n == 0x3000

example : isBlank '\n' ∧ isBlank '\u3000' ∧ ¬ isBlank '\u200b' := by decide

/-! ### Trimming -/

/-- Drop the trailing characters that satisfy `p`. -/
def dropTrailing (p : Char → Bool) (s : List Char) : List Char :=
  (s.reverse.dropWhile p).reverse

/-- A text without the blanks at either end. -/
def trimChars (s : List Char) : List Char :=
  dropTrailing isBlank (s.dropWhile isBlank)

/-- A text without the blanks at either end. -/
def trim (s : String) : String := String.ofList (trimChars s.toList)

@[simp] theorem toList_trim (s : String) : (trim s).toList = trimChars s.toList := by
  simp [trim]

/-- The trimmed text, if anything is left of it. -/
def trimmed? (s : String) : Option String :=
  let t := trim s
  if t.isEmpty then none else some t

/-- Nothing but blanks. -/
def allBlank (s : String) : Bool := s.toList.all isBlank

/-! ### Lines and words -/

/-- The stretches between line feeds, each trimmed; a carriage return before a
line feed goes with the trimming. -/
def trimmedLines (s : List Char) : List (List Char) :=
  (s.splitOn '\n').map trimChars

/-- All lines of an output, trimmed, the empty ones included. -/
def splitLines (s : String) : List String :=
  (trimmedLines s.toList).map String.ofList

/-- The lines of an output that are not blank, trimmed. -/
def nonEmptyLines (s : String) : List String :=
  ((trimmedLines s.toList).filter (!·.isEmpty)).map String.ofList

/-- The maximal stretches of characters that are not blank. -/
def wordsOf (s : List Char) : List (List Char) :=
  (s.splitOnP isBlank).filter (!·.isEmpty)

/-- The maximal stretches of characters that are not blank. -/
def words (s : String) : List String := (wordsOf s.toList).map String.ofList

end RemoteHost.Text

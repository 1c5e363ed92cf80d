/-
RemoteHost/Idna/Domain.lean

The ASCII form of a domain name.

A name is mapped and cut into labels at its full stops.  A label that is written in
ASCII letters already says so by its first four characters, `xn--`; it has to stand for
a label that could have been written as it is.  Labels with other characters are checked
and written in ASCII letters.  No label of the result has a character that means
something else in an address.
-/
import RemoteHost.Idna.Direction
import RemoteHost.Idna.Joining
import RemoteHost.Idna.Mapping
import RemoteHost.Idna.Punycode
import RemoteHost.Text.Category

namespace RemoteHost.Idna

/-- What a label begins with that is written in ASCII letters. -/
def asciiMark : List Char := ['x', 'n', '-', '-']

/-- Labels with other characters are not longer. -/
def labelBound : Nat := 1000

/-- Labels in ASCII letters are not longer behind their mark. -/
def codeBound : Nat := 2000

/-- All characters are of ASCII. -/
def isAscii (s : List Char) : Bool := s.all Punycode.isBasic

/-- A label with characters beyond ASCII may stand in a name. -/
def isLabel (s : List Char) : Bool :=
  s.all isValid && Text.composed s == s && joinersFit [] s &&
    match s with
    | c :: _ => !Text.Category.isIn "M" c
    | [] => true

/-- A label in its own characters, if it may stand in a name. -/
def readLabel? (s : List Char) : Option (List Char) :=
  if asciiMark.isPrefixOf s then
    let code := s.drop 4
    if codeBound < code.length then none
    else
      match Punycode.decode? code with
      | some t => if !isAscii t && isLabel t then some t else none
      | none => none
  else if isAscii s then some s
  else if isLabel s then some s
  else none

/-- A label in ASCII letters. -/
def writeLabel? (s : List Char) : Option (List Char) :=
  if isAscii s then some s
  else if labelBound < s.length then none
  else some (asciiMark ++ Punycode.encode s)

/-- An ASCII character that no name has, since it means something in an address. -/
def isReserved (c : Char) : Bool :=
  c.toNat ≤ 32 || c.toNat == 127 ||
    c ∈ ['%', '#', '/', ':', '<', '>', '?', '@', '[', '\\', ']', '^', '|']

/-- The ASCII form of a name. -/
def toAscii? (name : List Char) : Option (List Char) := do
  let mapped ← map? name
  let labels ← (mapped.splitOn '.').mapM readLabel?
  if needsDirectionRule labels && !labels.all isUnmixed then none
  else
    let ascii := ['.'].intercalate (← labels.mapM writeLabel?)
    if ascii.any isReserved then none else some ascii

end RemoteHost.Idna

/-
RemoteHost/Json/Reader.lean

Reading JSON text from left to right.

A reader takes the text that is left and gives a value with the text after it.
It stops at the first fault: either the text is malformed, or it is well formed
so far and holds something else than what was asked for.  Which of the two is
met first decides, so a mismatch early in a text hides a syntax error later on.

The number reader fixes how a decimal becomes a floating-point number: the
leading digits that fit 64 bits are rounded to a float, and the result is
multiplied by, or divided by, a power of ten, which rounds once more.
-/
import RemoteHost.Json.Value
import RemoteHost.Text.Quoted

namespace RemoteHost.Json

/-! ### Faults -/

/-- What a text holds where something else was asked for. -/
inductive Found where
  | null
  | bool (b : Bool)
  | number (n : Number)
  | text (s : String)
  | sequence
  | map

/-- The words for what was found. -/
def Found.describe : Found → String
  | .null => "null"
  | .bool b => "boolean `" ++ (if b then "true" else "false") ++ "`"
  | .number (.float x) => "floating point `" ++ (Number.float x).render ++ "`"
  | .number n => "integer `" ++ n.render ++ "`"
  | .text s => "string " ++ Text.quoted s
  | .sequence => "sequence"
  | .map => "map"

/-- A well-formed text that holds the wrong thing. -/
inductive Mismatch where
  | wrongType (found : Found) (expected : String)
  | wrongValue (found : Found) (expected : String)
  | wrongLength (length : Nat) (expected : String)
  | unknownVariant (name : String) (variants : List String)
  | missingField (name : String)
  | duplicateField (name : String)

/-- A choice of names in a message. -/
def oneOf : List String → String
  | [] => "there are no variants"
  | [a] => "`" ++ a ++ "`"
  | [a, b] => "`" ++ a ++ "` or `" ++ b ++ "`"
  | names => "one of " ++ String.intercalate ", " (names.map fun a => "`" ++ a ++ "`")

/-- The wording of a mismatch. -/
def Mismatch.message : Mismatch → String
  | .wrongType found expected =>
    "invalid type: " ++ found.describe ++ ", expected " ++ expected
  | .wrongValue found expected =>
    "invalid value: " ++ found.describe ++ ", expected " ++ expected
  | .wrongLength length expected =>
    "invalid length " ++ toString length ++ ", expected " ++ expected
  | .unknownVariant name variants =>
    "unknown variant `" ++ name ++ "`, expected " ++ oneOf variants
  | .missingField name => "missing field `" ++ name ++ "`"
  | .duplicateField name => "duplicate field `" ++ name ++ "`"

/-- Why reading stopped. -/
inductive Fault where
  | malformed
  | mismatch (m : Mismatch)

/-- A reader of a value at the front of a text. -/
abbrev Reader := StateT (List Char) (Except Fault)

/-! ### Blanks and words -/

/-- The four characters that JSON allows between its tokens. -/
def isGap (c : Char) : Bool := c == ' ' || c == '\n' || c == '\t' || c == '\r'

/-- The text without the blanks in front. -/
def dropGap (s : List Char) : List Char := s.dropWhile isGap

/-- Read exactly these characters. -/
def expect (word : List Char) : Reader Unit := fun s =>
  if word.isPrefixOf s then .ok ((), s.drop word.length) else .error .malformed

/-! ### Strings -/

/-- The number that four hexadecimal digits spell. -/
def hex4 (a b c d : Char) : Option Nat := Text.digitsValue 16 [a, b, c, d]

/-- The character of an escape with one letter. -/
def escapeLetter : Char → Option Char
  | '"' => some '"'
  | '\\' => some '\\'
  | '/' => some '/'
  | 'b' => some '\x08'
  | 'f' => some '\x0c'
  | 'n' => some '\n'
  | 'r' => some '\r'
  | 't' => some '\t'
  | _ => none

/-- The rest of a string after its opening quote: the characters and the text after
the closing quote.  Control characters stand for themselves only when escaped,
and surrogates come in pairs. -/
def stringRest : List Char → Option (List Char × List Char)
  | '"' :: r => some ([], r)
  | '\\' :: 'u' :: a :: b :: c :: d :: r =>
    match hex4 a b c d with
    | none => none
    | some n =>
      if n < 0xD800 ∨ 0xE000 ≤ n then
        (stringRest r).map fun (cs, r) => (Char.ofNat n :: cs, r)
      else if n < 0xDC00 then
        match r with
        | '\\' :: 'u' :: a :: b :: c :: d :: r =>
          match hex4 a b c d with
          | some m =>
            if 0xDC00 ≤ m ∧ m < 0xE000 then
              (stringRest r).map fun (cs, r) =>
                (Char.ofNat (0x10000 + (n - 0xD800) * 0x400 + (m - 0xDC00)) :: cs, r)
            else none
          | none => none
        | _ => none
      else none
  | '\\' :: e :: r =>
    match escapeLetter e with
    | some c => (stringRest r).map fun (cs, r) => (c :: cs, r)
    | none => none
  | c :: r =>
    if c < ' ' ∨ c = '\\' then none else (stringRest r).map fun (cs, r) => (c :: cs, r)
  | [] => none

/-- The text after a string whose opening quote is read and whose content is not
looked at: any four hexadecimal digits will do after `\u`. -/
def skipString : List Char → Option (List Char)
  | '"' :: r => some r
  | '\\' :: 'u' :: a :: b :: c :: d :: r =>
    match hex4 a b c d with
    | none => none
    | some _ => skipString r
  | '\\' :: e :: r =>
    match escapeLetter e with
    | some _ => skipString r
    | none => none
  | c :: r => if c < ' ' ∨ c = '\\' then none else skipString r
  | [] => none

/-! ### Numbers -/

/-- A power of ten as a float. -/
def powerOfTen (k : Nat) : Float := Float.ofScientific 1 false k

/-- A float times a power of ten, in steps that stay in range; none when the result
is too large.  The last argument bounds the steps: each takes 308 powers, and
after three of them nothing is left. -/
def scale (x : Float) (exponent : Int) : Nat → Option Float
  | 0 => some x
  | fuel + 1 =>
    if exponent.natAbs ≤ 308 then
      if 0 ≤ exponent then
        let y := x * powerOfTen exponent.toNat
        if y.isInf then none else some y
      else some (x / powerOfTen exponent.natAbs)
    else if x == 0.0 then some x
    else if 0 ≤ exponent then none
    else scale (x / powerOfTen 308) (exponent + 308) fuel

/-- The largest whole number of 64 bits. -/
def maxWord : Nat := UInt64.size - 1

/-- The leading digits of a whole number that fit 64 bits, with the number of digits
after them. -/
def wholePart : Nat → List Char → Nat × Nat
  | n, [] => (n, 0)
  | n, c :: r =>
    let n' := n * 10 + (c.toNat - 48)
    if n' ≤ maxWord then wholePart n' r else (n, (c :: r).length)

/-- The digits of a fraction that still fit 64 bits after the whole part, with their
number. -/
def fractionPart : Nat → List Char → Nat × Nat
  | n, [] => (n, 0)
  | n, c :: r =>
    let n' := n * 10 + (c.toNat - 48)
    if n' ≤ maxWord then
      let (m, k) := fractionPart n' r
      (m, k + 1)
    else (n, 0)

/-- The written parts of a number. -/
structure Numeral where
  negative : Bool
  whole : List Char
  /-- The digits after the point, if there is one. -/
  fraction : Option (List Char)
  /-- The sign and the digits of the exponent, if there is one. -/
  exponent : Option (Bool × List Char)

/-- The front of a text up to the first character that is no digit, and the rest. -/
def digits (s : List Char) : List Char × List Char :=
  (s.takeWhile Text.isDigit, s.dropWhile Text.isDigit)

/-- The parts of the number at the front of a text. -/
def numeral (s : List Char) : Option (Numeral × List Char) := do
  let (negative, s) := match s with
    | '-' :: r => (true, r)
    | r => (false, r)
  let (whole, s) := digits s
  guard (whole ≠ [] ∧ (whole.head? = some '0' → whole.length = 1))
  let (fraction, s) ← match s with
    | '.' :: r =>
      let (ds, r) := digits r
      if ds = [] then none else some (some ds, r)
    | r => some (none, r)
  let (exponent, s) ← match s with
    | 'e' :: r | 'E' :: r =>
      let (minus, r) := match r with
        | '-' :: r => (true, r)
        | '+' :: r => (false, r)
        | r => (false, r)
      let (ds, r) := digits r
      if ds = [] then none else some (some (minus, ds), r)
    | r => some (none, r)
  some (⟨negative, whole, fraction, exponent⟩, s)

/-- The value of a number; none when it is too large for a float. -/
def Numeral.value? (n : Numeral) : Option Number :=
  let (whole, dropped) := wholePart 0 n.whole
  let float (significand : Nat) (exponent : Int) : Option Number :=
    (scale (UInt64.ofNat significand).toFloat exponent 8).map fun x =>
      .float (if n.negative then -x else x)
  if n.fraction.isNone ∧ n.exponent.isNone ∧ dropped = 0 then
    if ¬ n.negative then some (.nat whole)
    else if 0 < whole ∧ whole ≤ 1 <<< 63 then some (.neg whole)
    else float whole 0
  else
    let (significand, places) := fractionPart whole (n.fraction.getD [])
    let start : Int := (dropped : Int) - places
    match n.exponent with
    | none => float significand start
    | some (minus, ds) =>
      let e := (Text.digitsValue 10 ds).getD 0
      if 1 <<< 31 ≤ e then
        if significand ≠ 0 ∧ ¬ minus then none else float 0 0
      else float significand (if minus then start - e else start + e)

/-- The number at the front of a text. -/
def readNumber : Reader Number := fun s =>
  match numeral s with
  | none => .error .malformed
  | some (n, r) =>
    match n.value? with
    | some v => .ok (v, r)
    | none => .error .malformed

/-! ### Whole values -/

mutual

/-- The text after a value that is not looked at. -/
def skipValue : Nat → List Char → Option (List Char)
  | 0, _ => none
  | fuel + 1, s =>
    match dropGap s with
    | '"' :: r => skipString r
    | '[' :: r =>
      match dropGap r with
      | ']' :: r => some r
      | r => skipItems fuel false r
    | '\x7b' :: r =>
      match dropGap r with
      | '\x7d' :: r => some r
      | r => skipItems fuel true r
    | 'n' :: 'u' :: 'l' :: 'l' :: r => some r
    | 't' :: 'r' :: 'u' :: 'e' :: r => some r
    | 'f' :: 'a' :: 'l' :: 's' :: 'e' :: r => some r
    | r => (numeral r).map (·.2)

/-- The text after the remaining items of an array or, with keys, of an object. -/
def skipItems : Nat → Bool → List Char → Option (List Char)
  | 0, _, _ => none
  | fuel + 1, keyed, s => do
    let s ← if keyed then
        match dropGap s with
        | '"' :: r => do
          let r ← skipString r
          match dropGap r with
          | ':' :: r => some r
          | _ => none
        | _ => none
      else some s
    let s ← skipValue fuel s
    match dropGap s with
    | ',' :: r => skipItems fuel keyed r
    | '\x7d' :: r => if keyed then some r else none
    | ']' :: r => if keyed then none else some r
    | _ => none

end

mutual

/-- The value at the front of a text.  The first argument bounds the nesting and
the number of items together. -/
def value : Nat → List Char → Option (Json × List Char)
  | 0, _ => none
  | fuel + 1, s =>
    match dropGap s with
    | '"' :: r => (stringRest r).map fun (cs, r) => (.str (String.ofList cs), r)
    | '[' :: r =>
      match dropGap r with
      | ']' :: r => some (.arr [], r)
      | r => (items fuel r).map fun (vs, r) => (.arr vs, r)
    | '\x7b' :: r =>
      match dropGap r with
      | '\x7d' :: r => some (.obj [], r)
      | r => (members fuel r).map fun (ms, r) => (.obj ms, r)
    | 'n' :: 'u' :: 'l' :: 'l' :: r => some (.null, r)
    | 't' :: 'r' :: 'u' :: 'e' :: r => some (.bool true, r)
    | 'f' :: 'a' :: 'l' :: 's' :: 'e' :: r => some (.bool false, r)
    | r => do
      let (n, r) ← numeral r
      let v ← n.value?
      some (.num v, r)

/-- The remaining items of an array. -/
def items : Nat → List Char → Option (List Json × List Char)
  | 0, _ => none
  | fuel + 1, s => do
    let (v, s) ← value fuel s
    match dropGap s with
    | ',' :: r => (items fuel r).map fun (vs, r) => (v :: vs, r)
    | ']' :: r => some ([v], r)
    | _ => none

/-- The remaining members of an object. -/
def members : Nat → List Char → Option (List (String × Json) × List Char)
  | 0, _ => none
  | fuel + 1, s =>
    match dropGap s with
    | '"' :: r => do
      let (key, r) ← stringRest r
      match dropGap r with
      | ':' :: r => do
        let (v, r) ← value fuel r
        let m := (String.ofList key, v)
        match dropGap r with
        | ',' :: r => (members fuel r).map fun (ms, r) => (m :: ms, r)
        | '\x7d' :: r => some ([m], r)
        | _ => none
      | _ => none
    | _ => none

end

/-- The value that a whole text spells. -/
def parse? (text : String) : Option Json :=
  let s := text.toList
  match value (2 * s.length + 2) s with
  | some (v, r) => if (dropGap r).isEmpty then some v else none
  | none => none

end RemoteHost.Json

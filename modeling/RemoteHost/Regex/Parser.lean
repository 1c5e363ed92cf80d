/-
RemoteHost/Regex/Parser.lean

Reading regular expressions.

The syntax has literals, `.`, classes in brackets with set operations, the Perl
and POSIX classes, properties (`\p`), anchors and word boundaries, groups, flags
(`i`, `m`, `s`, `R`, `U`, `u`, `x`) and counted repetition.  It has no look-around
and no back-references; a pattern with one of them is refused, like any other
pattern that is not well formed.

Reading is a recursion on fuel, of which every step that nests or goes on takes
one; the length of the pattern is enough for all of them.
-/
import RemoteHost.Regex.Basic

namespace RemoteHost.Regex

/-! ### Flags -/

/-- What the flags at a place in a pattern say. -/
structure Flags where
  caseless : Bool := false
  multiLine : Bool := false
  dotAll : Bool := false
  unicode : Bool := true
  crlf : Bool := false
  verbose : Bool := false

/-- Set or clear a flag by its letter. -/
def Flags.set? (f : Flags) (on : Bool) : Char → Option Flags
  | 'i' => some { f with caseless := on }
  | 'm' => some { f with multiLine := on }
  | 's' => some { f with dotAll := on }
  | 'u' => some { f with unicode := on }
  | 'R' => some { f with crlf := on }
  | 'U' => some f
  | 'x' => some { f with verbose := on }
  | _ => none

/-- The flags that a text like `im-s` sets; a letter stands at most once, and a
minus sign at most once and not at the end. -/
def Flags.read (f : Flags) (seen : List Char) (negated : Bool) : List Char → Option Flags
  | [] => if seen.head? = some '-' then none else some f
  | '-' :: r => if negated then none else f.read ('-' :: seen) true r
  | c :: r =>
    if c ∈ seen then none
    else do (← f.set? (!negated) c).read (c :: seen) negated r

/-! ### The state of reading -/

/-- What is left of the pattern, and the names of groups so far. -/
structure Reading where
  rest : List Char
  names : List (List Char) := []

/-- A reader of a part of a pattern; none when the pattern is not well formed. -/
abbrev Part := StateT Reading Option

/-- The next character. -/
def peek : Part (Option Char) := do pure (← get).rest.head?

/-- The character after the next. -/
def peekSecond : Part (Option Char) := do pure ((← get).rest.drop 1).head?

/-- Pass over the next character. -/
def bump : Part Unit := modify fun s => { s with rest := s.rest.drop 1 }

/-- Take the next character. -/
def take : Part Char := do
  match (← get).rest with
  | c :: r =>
    modify fun s => { s with rest := r }
    pure c
  | [] => failure

/-- Pass over a piece of text if it comes next. -/
def bumpIf (piece : String) : Part Bool := do
  if piece.toList.isPrefixOf (← get).rest then
    modify fun s => { s with rest := s.rest.drop piece.toList.length }
    pure true
  else pure false

/-- The text without blanks and comments in front. -/
def dropSpace : Nat → List Char → List Char
  | 0, s => s
  | fuel + 1, s =>
    match s with
    | '#' :: r => dropSpace fuel (r.dropWhile (· != '\n'))
    | c :: r => if Text.isBlank c then dropSpace fuel r else s
    | [] => []

/-- In verbose mode, pass over blanks and comments. -/
def bumpSpace (f : Flags) : Part Unit := do
  if f.verbose then modify fun s => { s with rest := dropSpace (2 * s.rest.length) s.rest }

/-- Take the characters up to a closing one, which is passed over. -/
def takeUntil (close : Char) : Part (List Char) := do
  match Text.splitOnce close (← get).rest with
  | some (inner, r) =>
    modify fun s => { s with rest := r }
    pure inner
  | none => failure

/-! ### Named classes -/

/-- The letters and digits of a property name in lower case, without `is` in front. -/
def normalName (s : List Char) : String :=
  let t := (s.filter fun c => c != ' ' && c != '_' && c != '-').map Text.lowerAscii
  let stripped := match t with
    | 'i' :: 's' :: r => if r = ['c'] ∨ r = [] then t else r
    | r => r
  String.ofList stripped

/-- The names of general categories. -/
def categoryNames : List (String × String) :=
  [("l", "L"), ("letter", "L"), ("lu", "Lu"), ("uppercaseletter", "Lu"), ("ll", "Ll"),
   ("lowercaseletter", "Ll"), ("lt", "Lt"), ("titlecaseletter", "Lt"), ("lm", "Lm"),
   ("modifierletter", "Lm"), ("lo", "Lo"), ("otherletter", "Lo"), ("m", "M"), ("mark", "M"),
   ("combiningmark", "M"), ("mn", "Mn"), ("nonspacingmark", "Mn"), ("mc", "Mc"),
   ("spacingmark", "Mc"), ("me", "Me"), ("enclosingmark", "Me"), ("n", "N"), ("number", "N"),
   ("nd", "Nd"), ("decimalnumber", "Nd"), ("digit", "Nd"), ("nl", "Nl"), ("letternumber", "Nl"),
   ("no", "No"), ("othernumber", "No"), ("p", "P"), ("punctuation", "P"), ("punct", "P"),
   ("pc", "Pc"), ("connectorpunctuation", "Pc"), ("pd", "Pd"), ("dashpunctuation", "Pd"),
   ("ps", "Ps"), ("openpunctuation", "Ps"), ("pe", "Pe"), ("closepunctuation", "Pe"),
   ("pi", "Pi"), ("initialpunctuation", "Pi"), ("pf", "Pf"), ("finalpunctuation", "Pf"),
   ("po", "Po"), ("otherpunctuation", "Po"), ("s", "S"), ("symbol", "S"), ("sm", "Sm"),
   ("mathsymbol", "Sm"), ("sc", "Sc"), ("currencysymbol", "Sc"), ("sk", "Sk"),
   ("modifiersymbol", "Sk"), ("so", "So"), ("othersymbol", "So"), ("z", "Z"),
   ("separator", "Z"), ("zs", "Zs"), ("spaceseparator", "Zs"), ("zl", "Zl"),
   ("lineseparator", "Zl"), ("zp", "Zp"), ("paragraphseparator", "Zp"), ("c", "C"),
   ("other", "C"), ("cc", "Cc"), ("control", "Cc"), ("cntrl", "Cc"), ("cf", "Cf"),
   ("format", "Cf"), ("co", "Co"), ("privateuse", "Co"), ("cn", "Cn"), ("unassigned", "Cn")]

/-- The class of a general category, by its name. -/
def categoryClass? (name : String) : Option Class :=
  match name with
  | "any" => some .any
  | "assigned" => some (.compl (.category "Cn"))
  | "ascii" => some (.range '\x00' '\x7f')
  | "lc" | "casedletter" =>
    some (.unions [.category "Lu", .category "Ll", .category "Lt"])
  | _ => (categoryNames.lookup name).map .category

/-- The class of a script, by its name. -/
def scriptClass? (name : String) : Option Class :=
  if Text.Script.isName name then some (.script name) else none

/-- The class of a property that a character has or has not. -/
def binaryClass? (name : String) : Option Class :=
  match name with
  | "alphabetic" | "alpha" => some .alphabetic
  | "lowercase" | "lower" => some .lowercase
  | "uppercase" | "upper" => some .uppercase
  | "whitespace" | "wspace" | "space" => some .blank
  | "asciihexdigit" | "ahex" =>
    some (.unions [.range '0' '9', .range 'A' 'F', .range 'a' 'f'])
  | "hexdigit" | "hex" =>
    some (.unions [.range '0' '9', .range 'A' 'F', .range 'a' 'f', .range '\uff10' '\uff19',
      .range '\uff21' '\uff26', .range '\uff41' '\uff46'])
  | _ => none

/-- The class of a property that has one of several values. -/
def valueClass? (key value : List Char) : Option Class :=
  match normalName key with
  | "gc" | "generalcategory" => categoryClass? (normalName value)
  | "sc" | "script" => scriptClass? (normalName value)
  | _ => none

/-- The class of a property, and whether it is meant the other way round. -/
def property? (name : List Char) : Option (Bool × Class) :=
  match Text.cut ['!', '='] name with
  | some (key, value) => (valueClass? key value).map (true, ·)
  | none =>
    match Text.splitOnce ':' name <|> Text.splitOnce '=' name with
    | some (key, value) => (valueClass? key value).map (false, ·)
    | none =>
      let name := normalName name
      (binaryClass? name <|> categoryClass? name <|> scriptClass? name).map (false, ·)

/-- Decimal digits. -/
def digitClass (f : Flags) : Class := if f.unicode then .category "Nd" else .range '0' '9'

/-- The characters below 128 that are blank. -/
def asciiSpace : Class := .unions [.range '\t' '\r', .single ' ']

/-- The characters below 128 of which words are made. -/
def asciiWord : Class := .unions [.range '0' '9', .range 'A' 'Z', .single '_', .range 'a' 'z']

/-- A class in brackets and colons. -/
def posixClass? : String → Option Class
  | "alnum" => some (.unions [.range '0' '9', .range 'A' 'Z', .range 'a' 'z'])
  | "alpha" => some (.unions [.range 'A' 'Z', .range 'a' 'z'])
  | "ascii" => some (.range '\x00' '\x7f')
  | "blank" => some (.unions [.single '\t', .single ' '])
  | "cntrl" => some (.unions [.range '\x00' '\x1f', .single '\x7f'])
  | "digit" => some (.range '0' '9')
  | "graph" => some (.range '!' '~')
  | "lower" => some (.range 'a' 'z')
  | "print" => some (.range ' ' '~')
  | "punct" => some (.unions [.range '!' '/', .range ':' '@', .range '[' '\x60', .range '\x7b' '~'])
  | "space" => some asciiSpace
  | "upper" => some (.range 'A' 'Z')
  | "word" => some asciiWord
  | "xdigit" => some (.unions [.range '0' '9', .range 'A' 'F', .range 'a' 'f'])
  | _ => none

/-- A set as the flags want it: with its case variants, and negated.  A negated set
holds characters beyond the first 128, which is only allowed in Unicode mode. -/
def shaped (f : Flags) (negated : Bool) (c : Class) : Part Class := do
  if negated ∧ ¬ f.unicode then failure
  let c := if f.caseless then .caseless c else c
  pure (if negated then .compl c else c)

/-! ### Escapes -/

/-- What an escape stands for. -/
inductive Escape where
  | literal (c : Char)
  | set (c : Class)
  | assertion (a : Assertion)

/-- A character by its number. -/
def charOfNumber (n : Nat) : Part Char :=
  if n.isValidChar then pure (Char.ofNat n) else failure

/-- A character by hexadecimal digits: in braces, or as many as the letter says. -/
def hexEscape (f : Flags) (count : Nat) : Part Char := do
  bumpSpace f
  if ← bumpIf "\x7b" then
    let inner ← takeUntil '\x7d'
    let ds := if f.verbose then inner.filter (!Text.isBlank ·) else inner
    if ds = [] then failure
    match Text.digitsValue 16 ds with
    | some n => charOfNumber n
    | none => failure
  else
    let ds := (← get).rest.take count
    if ds.length < count then failure
    modify fun s => { s with rest := s.rest.drop count }
    match Text.digitsValue 16 ds with
    | some n => charOfNumber n
    | none => failure

/-- Characters that may follow a backslash for themselves: what is neither a letter
nor a digit nor beyond the first 128. -/
def isEscapable (c : Char) : Bool :=
  c.toNat < 128 && !Text.isLetter c && !Text.isDigit c && c != '<' && c != '>'

/-- The rest of an escape after the backslash. -/
def readEscape (f : Flags) : Part Escape := do
  let c ← take
  match c with
  | 'x' => return .literal (← hexEscape f 2)
  | 'u' => return .literal (← hexEscape f 4)
  | 'U' => return .literal (← hexEscape f 8)
  | 'p' | 'P' =>
    if ¬ f.unicode then failure
    bumpSpace f
    let name ← if ← bumpIf "\x7b" then takeUntil '\x7d' else (fun c => [c]) <$> take
    match property? name with
    | some (opposite, set) => return .set (← shaped f ((c == 'P') != opposite) set)
    | none => failure
  | 'd' | 'D' => return .set (← shaped { f with caseless := false } (c == 'D') (digitClass f))
  | 's' | 'S' =>
    return .set (← shaped { f with caseless := false } (c == 'S')
      (if f.unicode then .blank else asciiSpace))
  | 'w' | 'W' =>
    return .set (← shaped { f with caseless := false } (c == 'W')
      (if f.unicode then .word else asciiWord))
  | 'a' => return .literal '\x07'
  | 'f' => return .literal '\x0c'
  | 't' => return .literal '\t'
  | 'n' => return .literal '\n'
  | 'r' => return .literal '\r'
  | 'v' => return .literal '\x0b'
  | 'A' => return .assertion .textStart
  | 'z' => return .assertion .textEnd
  | 'B' => return .assertion (.notWordBoundary (!f.unicode))
  | '<' => return .assertion (.wordStart (!f.unicode))
  | '>' => return .assertion (.wordEnd (!f.unicode))
  | 'b' =>
    if ← bumpIf "\x7bstart\x7d" then return .assertion (.wordStart (!f.unicode))
    if ← bumpIf "\x7bend\x7d" then return .assertion (.wordEnd (!f.unicode))
    if ← bumpIf "\x7bstart-half\x7d" then return .assertion (.wordStartHalf (!f.unicode))
    if ← bumpIf "\x7bend-half\x7d" then return .assertion (.wordEndHalf (!f.unicode))
    return .assertion (.wordBoundary (!f.unicode))
  | c => if isEscapable c then return .literal c else failure

/-! ### Classes in brackets -/

/-- An item of a class: a character, which may begin a range, or a set. -/
inductive Item where
  | literal (c : Char)
  | set (c : Class)

/-- The set of an item. -/
def Item.toClass : Item → Class
  | .literal c => .single c
  | .set c => c

/-- A character, which outside Unicode mode is one of the first 128. -/
def bracketLiteral (f : Flags) (c : Char) : Part Item :=
  if f.unicode ∨ c.toNat < 128 then pure (.literal c) else failure

/-- A character or an escape inside brackets. -/
def readItem (f : Flags) : Part Item := do
  let c ← take
  if c = '\\' then
    match ← readEscape f with
    | .literal c => bracketLiteral f c
    | .set s => pure (.set s)
    | .assertion _ => failure
  else bracketLiteral f c

/-- An item, or a range that begins with it. -/
def readRange (f : Flags) : Part Class := do
  let first ← readItem f
  bumpSpace f
  match ← peek with
  | none => failure
  | some '-' =>
    let s ← get
    bump
    bumpSpace f
    let after ← peek
    if after = some ']' ∨ after = some '-' then
      set s
      pure first.toClass
    else
      match first, ← readItem f with
      | .literal lo, .literal hi => if lo ≤ hi then pure (.range lo hi) else failure
      | _, _ => failure
  | some _ => pure first.toClass

/-- A class such as `[:alpha:]`, after the opening bracket of an enclosing class. -/
def posixItem (f : Flags) : Part (Option Class) := do
  let s ← get
  match s.rest with
  | '[' :: ':' :: r =>
    let (negated, r) := match r with
      | '^' :: r => (true, r)
      | r => (false, r)
    let name := r.takeWhile (· != ':')
    match r.drop name.length, posixClass? (String.ofList name) with
    | ':' :: ']' :: r, some c =>
      let c ← shaped f negated c
      set { s with rest := r }
      pure (some c)
    | _, _ => pure none
  | _ => pure none

/-- The operations on sets inside brackets. -/
inductive SetOperation where
  | inter
  | diff
  | symmDiff

/-- The result of an operation; with case variants on both sides if wanted. -/
def SetOperation.apply (f : Flags) (op : SetOperation) (a b : Class) : Class :=
  let a := if f.caseless then .caseless a else a
  let b := if f.caseless then .caseless b else b
  match op with
  | .inter => .inter a b
  | .diff => .inter a (.compl b)
  | .symmDiff => .symmDiff a b

/-- The left side and the operation that wait for a right side. -/
def applyPending (f : Flags) (pending : Option (Class × SetOperation)) (right : Class) : Class :=
  match pending with
  | some (left, op) => op.apply f left right
  | none => right

/-- Minus signs at the start of a class stand for themselves. -/
def leadingMinus (f : Flags) : Nat → List Class → Part (List Class)
  | 0, acc => pure acc
  | fuel + 1, acc => do
    if (← peek) = some '-' then
      bump
      bumpSpace f
      leadingMinus f fuel (.single '-' :: acc)
    else pure acc

mutual

/-- A class after its opening bracket. -/
def readClass (f : Flags) : Nat → Part Class
  | 0 => failure
  | fuel + 1 => do
    bumpSpace f
    let negated ← bumpIf "^"
    bumpSpace f
    let start ← leadingMinus f ((← get).rest.length) []
    let start ← if start.isEmpty ∧ (← peek) = some ']' then do
        bump
        bumpSpace f
        pure [Class.single ']']
      else pure start
    let c ← readClassItems f fuel none start
    shaped f negated c

/-- The items of a class up to its closing bracket. -/
def readClassItems (f : Flags) : Nat → Option (Class × SetOperation) → List Class → Part Class
  | 0, _, _ => failure
  | fuel + 1, pending, items => do
    bumpSpace f
    let union := Class.unions items.reverse
    let second ← peekSecond
    match ← peek with
    | none => failure
    | some '[' =>
      match ← posixItem f with
      | some c => readClassItems f fuel pending (c :: items)
      | none =>
        bump
        let c ← readClass f fuel
        readClassItems f fuel pending (c :: items)
    | some ']' =>
      bump
      pure (applyPending f pending union)
    | some '&' =>
      if second = some '&' then
        bump
        bump
        readClassItems f fuel (some (applyPending f pending union, .inter)) []
      else readClassItems f fuel pending ((← readRange f) :: items)
    | some '-' =>
      if second = some '-' then
        bump
        bump
        readClassItems f fuel (some (applyPending f pending union, .diff)) []
      else readClassItems f fuel pending ((← readRange f) :: items)
    | some '~' =>
      if second = some '~' then
        bump
        bump
        readClassItems f fuel (some (applyPending f pending union, .symmDiff)) []
      else readClassItems f fuel pending ((← readRange f) :: items)
    | some _ => readClassItems f fuel pending ((← readRange f) :: items)

end

/-! ### Expressions -/

/-- Expressions larger than this are refused. -/
def maxSize : Nat := 100000

/-- A part of a sequence; flags leave a mark that cannot be repeated. -/
inductive Piece where
  | expression (r : Regex)
  | flags

/-- The sequence of some pieces, the last one first. -/
def sequence : List Piece → Regex
  | [] => .empty
  | .flags :: r => sequence r
  | .expression e :: r =>
    match sequence r with
    | .empty => e
    | s => .seq s e

/-- The alternatives, the last one first. -/
def alternatives : List Regex → Regex
  | [] => .empty
  | [r] => r
  | r :: rs => .alt (alternatives rs) r

/-- The characters that `.` stands for. -/
def dotClass (f : Flags) : Class :=
  if f.dotAll then .any
  else if f.crlf then .compl (.unions [.single '\n', .single '\r'])
  else .compl (.single '\n')

/-- The meaning of `^`. -/
def caret (f : Flags) : Assertion :=
  if ¬ f.multiLine then .textStart else if f.crlf then .lineStartCrlf else .lineStart

/-- The meaning of `$`. -/
def dollar (f : Flags) : Assertion :=
  if ¬ f.multiLine then .textEnd else if f.crlf then .lineEndCrlf else .lineEnd

/-- A single character. -/
def literal (f : Flags) (c : Char) : Regex :=
  .chars (if f.caseless then .caseless (.single c) else .single c)

/-- Put a repetition of the last piece in its place. -/
def repeatLast (f : Flags) (min : Nat) (max : Option Nat) : List Piece → Part (List Piece)
  | .expression r :: rest => do
    bumpSpace f
    discard (bumpIf "?")
    let n := max.getD (min + 1)
    if maxSize < r.size * n then failure
    let head := r.times min
    let e := match max with
      | none => if min = 0 then .star r else .seq head (.star r)
      | some m => if min = 0 then r.upTo m else if m = min then head else .seq head (r.upTo (m - min))
    pure (.expression e :: rest)
  | _ => failure

/-- A number in a counted repetition, with blanks around it. -/
def readCount : Part Nat := do
  modify fun s => { s with rest := s.rest.dropWhile Text.isBlank }
  let ds := (← get).rest.takeWhile Text.isDigit
  if ds = [] then failure
  modify fun s => { s with rest := (s.rest.drop ds.length).dropWhile Text.isBlank }
  match Text.digitsValue 10 ds with
  | some n => if n < UInt32.size then pure n else failure
  | none => failure

/-- The bounds of a counted repetition after its opening brace. -/
def readBounds (f : Flags) : Part (Nat × Option Nat) := do
  bumpSpace f
  let min ← readCount
  let max ← if ← bumpIf "," then do
      bumpSpace f
      if (← peek) = some '\x7d' then pure none else some <$> readCount
    else pure (some min)
  if ¬ (← bumpIf "\x7d") then failure
  match max with
  | some m => if m < min then failure
  | none => pure ()
  pure (min, max)

/-- A name of a group is a letter or underscore with letters, digits, dots and
brackets after it, and no other group has it. -/
def addName (name : List Char) : Part Unit := do
  match name with
  | [] => failure
  | c :: r =>
    let starts := c = '_' ∨ Text.Category.isAlphabetic c
    let goesOn := r.all fun d =>
      d == '_' || d == '.' || d == '[' || d == ']' || Text.Category.isAlphanumeric d
    if ¬ starts ∨ goesOn = false ∨ name ∈ (← get).names then failure
    modify fun s => { s with names := name :: s.names }

/-- What stands between the opening of a group and its content. -/
inductive GroupHead where
  | group (f : Flags)
  | flags (f : Flags)

/-- The head of a group after its opening parenthesis. -/
def readGroupHead (f : Flags) : Part GroupHead := do
  bumpSpace f
  for look in ["?=", "?!", "?<=", "?<!"] do
    if look.toList.isPrefixOf (← get).rest then failure
  if ← bumpIf "?P<" then
    addName (← takeUntil '>')
    return .group f
  if ← bumpIf "?<" then
    addName (← takeUntil '>')
    return .group f
  if ← bumpIf "?" then
    let letters := (← get).rest.takeWhile fun c => c != ':' && c != ')'
    modify fun s => { s with rest := s.rest.drop letters.length }
    let close ← take
    if close = ')' ∧ letters = [] then failure
    match f.read [] false letters with
    | none => failure
    | some g => return if close = ')' then .flags g else .group g
  return .group f

mutual

/-- An expression up to the end of its group; the flag says whether it is in one. -/
def readExpression (nested : Bool) : Nat → Flags → List Regex → List Piece → Part Regex
  | 0, _, _, _ => failure
  | fuel + 1, f, alts, pieces => do
    bumpSpace f
    match ← peek with
    | none => if nested then failure else pure (alternatives (sequence pieces :: alts))
    | some ')' => if nested then pure (alternatives (sequence pieces :: alts)) else failure
    | some '|' =>
      bump
      readExpression nested fuel f (sequence pieces :: alts) []
    | some '*' =>
      bump
      readExpression nested fuel f alts (← repeatLast f 0 none pieces)
    | some '+' =>
      bump
      readExpression nested fuel f alts (← repeatLast f 1 none pieces)
    | some '?' =>
      bump
      readExpression nested fuel f alts (← repeatLast f 0 (some 1) pieces)
    | some '\x7b' =>
      if pieces.isEmpty then failure
      bump
      let (min, max) ← readBounds f
      readExpression nested fuel f alts (← repeatLast f min max pieces)
    | some '(' =>
      bump
      match ← readGroupHead f with
      | .flags g => readExpression nested fuel g alts (.flags :: pieces)
      | .group g =>
        let inner ← readExpression true fuel g [] []
        bump
        readExpression nested fuel f alts (.expression inner :: pieces)
    | some _ =>
      let r ← readAtom f fuel
      readExpression nested fuel f alts (.expression r :: pieces)

/-- A single character, class, escape or anchor. -/
def readAtom (f : Flags) : Nat → Part Regex
  | 0 => failure
  | fuel + 1 => do
    match ← take with
    | '.' => if f.unicode then pure (.chars (dotClass f)) else failure
    | '^' => pure (.assertion (caret f))
    | '$' => pure (.assertion (dollar f))
    | '[' => .chars <$> readClass f fuel
    | '\\' =>
      match ← readEscape f with
      | .literal c => pure (literal f c)
      | .set c => pure (.chars c)
      | .assertion a => pure (.assertion a)
    | c => pure (literal f c)

end

/-- The expression that a pattern spells. -/
def parse? (pattern : String) : Option Regex := do
  let s := pattern.toList
  let (r, _) ← (readExpression false (2 * s.length + 2) {} [] []).run { rest := s }
  if r.size ≤ maxSize then some r else none

end RemoteHost.Regex

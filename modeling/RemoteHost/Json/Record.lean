/-
RemoteHost/Json/Record.lean

Reading JSON text into values of known types.

A record is read from an object, its members in any order and unknown ones
ignored, or from an array of its fields in their order.  While it is read it is
a draft, in which every field may still be absent; the record's own module turns
the draft into the record and supplies the defaults.
-/
import RemoteHost.Json.Reader

namespace RemoteHost.Json

/-- Stop because the text is malformed. -/
def malformed {α : Type} : Reader α := fun _ => .error .malformed

/-- Stop because the text holds the wrong thing. -/
def mismatch {α : Type} (m : Mismatch) : Reader α := fun _ => .error (.mismatch m)

/-- Skip blanks and look at the next character. -/
def next? : Reader (Option Char) := fun s =>
  let s := dropGap s
  .ok (s.head?, s)

/-- Pass over the next character. -/
def advance : Reader Unit := fun s => .ok ((), s.drop 1)

/-- Read a string from its opening quote. -/
def readString : Reader String := fun s =>
  match s with
  | '"' :: r =>
    match stringRest r with
    | some (cs, r) => .ok (String.ofList cs, r)
    | none => .error .malformed
  | _ => .error .malformed

/-- What the text holds next.  A scalar is read in full, so that one that is itself
malformed is reported as such; of an array or an object the opening is enough. -/
def readFound : Reader Found := do
  match ← next? with
  | some 'n' => expect "null".toList; pure .null
  | some 't' => expect "true".toList; pure (.bool true)
  | some 'f' => expect "false".toList; pure (.bool false)
  | some '"' => pure (.text (← readString))
  | some '[' => pure .sequence
  | some '\x7b' => pure .map
  | some c =>
    if c = '-' ∨ Text.isDigit c then pure (.number (← readNumber)) else malformed
  | none => malformed

/-- Stop because the text holds something of another type. -/
def wrongType {α : Type} (expected : String) : Reader α := do
  mismatch (.wrongType (← readFound) expected)

/-! ### Scalars -/

/-- A text. -/
def readText : Reader String := do
  match ← next? with
  | some '"' => readString
  | _ => wrongType "a string"

/-- A truth value. -/
def readFlag : Reader Bool := do
  match ← next? with
  | some 't' => expect "true".toList; pure true
  | some 'f' => expect "false".toList; pure false
  | _ => wrongType "a boolean"

/-- An unsigned whole number of `bits` bits. -/
def readWord (bits : Nat) : Reader Nat := do
  let expected := "u" ++ toString bits
  match ← readFound with
  | .number (.nat n) =>
    if n < 1 <<< bits then pure n
    else mismatch (.wrongValue (.number (.nat n)) expected)
  | .number (.neg n) => mismatch (.wrongValue (.number (.neg n)) expected)
  | found => mismatch (.wrongType found expected)

/-- A value that may be null. -/
def readOptional {α : Type} (read : Reader α) : Reader (Option α) := do
  match ← next? with
  | some 'n' => expect "null".toList; pure none
  | _ => some <$> read

/-- The value of a name from a fixed choice. -/
def choose {α : Type} (choices : List (String × α)) (name : String) : Reader α :=
  match choices.find? (·.1 == name) with
  | some (_, v) => pure v
  | none => mismatch (.unknownVariant name (choices.map (·.1)))

/-- One of a fixed choice of names, alone or as the only key of an object with the
value null. -/
def readChoice {α : Type} (choices : List (String × α)) : Reader α := do
  match ← next? with
  | some '"' => choose choices (← readString)
  | some '\x7b' =>
    advance
    let name ← match ← next? with
      | some '"' => readString
      | _ => wrongType "variant identifier"
    let v ← choose choices name
    match ← next? with
    | some ':' => advance
    | _ => malformed
    match ← next? with
    | some 'n' => expect "null".toList
    | _ => wrongType "unit"
    match ← next? with
    | some '\x7d' => advance
    | _ => malformed
    pure v
  | _ => malformed

/-! ### Records -/

/-- A field of a record with drafts of type `σ`. -/
structure Field (σ : Type) where
  name : String
  /-- There is no record without this field. -/
  required : Bool
  /-- The draft has the field. -/
  isSet : σ → Bool
  /-- Read the field's value and put it into the draft. -/
  read : Reader (σ → σ)

/-- A record type: its name and its fields in order. -/
structure Schema (σ : Type) where
  name : String
  fields : List (Field σ)

variable {σ : Type}

/-- Whether an array goes on with another item; a comma separates them. -/
def nextItem (isFirst : Bool) : Reader Bool := do
  match ← next? with
  | some ']' => pure false
  | some ',' =>
    if isFirst then pure true
    else
      advance
      match ← next? with
      | some ']' | none => malformed
      | some _ => pure true
  | some _ => if isFirst then pure true else malformed
  | none => malformed

/-- The fields of a record from the items of an array. -/
def Schema.readItems (schema : Schema σ) : Nat → List (Field σ) → σ → Reader σ
  | _, [], draft => pure draft
  | i, f :: fs, draft => do
    if ← nextItem (i == 0) then
      let set ← f.read
      schema.readItems (i + 1) fs (set draft)
    else if f.required then
      let n := schema.fields.length
      mismatch (.wrongLength i ("struct " ++ schema.name ++ " with " ++ toString n ++
        (if n = 1 then " element" else " elements")))
    else schema.readItems (i + 1) fs draft

/-- Whether an object goes on with another member; a comma separates them. -/
def nextMember (isFirst : Bool) : Reader Bool := do
  match ← next? with
  | some '\x7d' => pure false
  | some ',' => if isFirst then malformed else do advance; pure true
  | some _ => if isFirst then pure true else malformed
  | none => malformed

/-- The fields of a record from the members of an object.  The first argument bounds
their number. -/
def Schema.readMembers (schema : Schema σ) : Nat → Bool → σ → Reader σ
  | 0, _, _ => malformed
  | fuel + 1, isFirst, draft => do
    if ← nextMember isFirst then
      let key ← match ← next? with
        | some '"' => readString
        | _ => malformed
      let field := schema.fields.find? (·.name == key)
      match field with
      | some f => if f.isSet draft then mismatch (.duplicateField f.name)
      | none => pure ()
      match ← next? with
      | some ':' => advance
      | _ => malformed
      match field with
      | some f =>
        let set ← f.read
        schema.readMembers fuel false (set draft)
      | none =>
        let s ← get
        match skipValue (2 * s.length + 2) s with
        | some r => set r
        | none => malformed
        schema.readMembers fuel false draft
    else pure draft

/-- The first field that the draft still lacks and that has no default. -/
def Schema.missing? (schema : Schema σ) (draft : σ) : Option (Field σ) :=
  schema.fields.find? fun f => f.required && !f.isSet draft

/-- The draft of a record. -/
def Schema.read (schema : Schema σ) (empty : σ) : Reader σ := do
  match ← next? with
  | some '[' =>
    advance
    let draft ← schema.readItems 0 schema.fields empty
    match ← next? with
    | some ']' => advance
    | _ => malformed
    pure draft
  | some '\x7b' =>
    advance
    let s ← get
    let draft ← schema.readMembers (s.length + 1) true empty
    match schema.missing? draft with
    | some f => mismatch (.missingField f.name)
    | none => pure ()
    match ← next? with
    | some '\x7d' => advance
    | _ => malformed
    pure draft
  | _ => wrongType ("struct " ++ schema.name)

/-- The draft that a whole text spells. -/
def Schema.decode (schema : Schema σ) (empty : σ) (text : String) : Except Fault σ :=
  match schema.read empty text.toList with
  | .ok (draft, r) => if (dropGap r).isEmpty then .ok draft else .error .malformed
  | .error e => .error e

end RemoteHost.Json

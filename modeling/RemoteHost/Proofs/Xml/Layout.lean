/-
RemoteHost/Proofs/Xml/Layout.lean

Documents with blanks between their elements, and how they are read.

A layout is a tree of elements together with the blanks that stand between their tags.  Whatever
texts and values of attributes are in it, its text is read as the tree (`read_document`): the
reader goes through an escaped value without leaving its mode and comes out with the value.  The
proof follows the layout, one lemma for each kind of tag and one induction over the elements.
-/
import RemoteHost.Proofs.Xml.Reader

namespace RemoteHost.Xml

/-! ### Layouts -/

/-- An element as it is written: in one tag, around a text, or around other elements, with blanks
in front of each of them and behind the last one. -/
inductive Layout where
  | empty (name : String) (attributes : List (String × String))
  | leaf (name : String) (attributes : List (String × String)) (text : String)
  | node (name : String) (attributes : List (String × String)) (gap : String)
      (children : List Layout) (last : String)

def attributeText (a : String × String) : List Char :=
  ' ' :: (a.1.toList ++ '=' :: '"' :: ((escape a.2).toList ++ ['"']))

def startText (name : String) (attributes : List (String × String)) : List Char :=
  '<' :: (name.toList ++ attributes.flatMap attributeText)

def endText (name : String) : List Char := '<' :: '/' :: (name.toList ++ ['>'])

/-- Something is called so. -/
def isName (name : String) : Bool := !name.toList.isEmpty && name.toList.all isNameChar

/-- A start tag with attributes that are called so is well formed. -/
def soundTag (name : String) (keys : List String) : Bool :=
  isName name && keys.all isName && decide keys.Nodup

namespace Layout

mutual

/-- The text of an element. -/
def write : Layout → List Char
  | empty name attributes => startText name attributes ++ ['/', '>']
  | leaf name attributes text =>
    startText name attributes ++ '>' :: ((escape text).toList ++ endText name)
  | node name attributes gap children last =>
    startText name attributes ++ '>' :: (writeAll gap children ++ (last.toList ++ endText name))

/-- The text of elements with blanks in front of each of them. -/
def writeAll (gap : String) : List Layout → List Char
  | [] => []
  | l :: ls => gap.toList ++ (l.write ++ writeAll gap ls)

end

mutual

/-- The element that is written. -/
@[simp] def tree : Layout → Element
  | empty name attributes => .leaf name attributes ""
  | leaf name attributes text => .leaf name attributes text
  | node name attributes _ children _ => .node name attributes (trees children)

/-- The elements that are written. -/
@[simp] def trees : List Layout → List Element
  | [] => []
  | l :: ls => l.tree :: trees ls

end

mutual

/-- The tags are well formed, and only blanks stand between them where there is no text. -/
def sound : Layout → Bool
  | empty name attributes => soundTag name (attributes.map Prod.fst)
  | leaf name attributes _ => soundTag name (attributes.map Prod.fst)
  | node name attributes gap children last =>
    soundTag name (attributes.map Prod.fst) && gap.toList.all isBlank && last.toList.all isBlank &&
      !children.isEmpty && soundAll children

def soundAll : List Layout → Bool
  | [] => true
  | l :: ls => l.sound && soundAll ls

end

@[simp] theorem trees_leaves (name : String) (attributes : List (String × String))
    (texts : List String) :
    trees (texts.map (leaf name attributes)) = texts.map (Element.leaf name attributes) := by
  induction texts with
  | nil => rfl
  | cons text texts ih => rw [List.map_cons, trees, tree, ih, List.map_cons]

theorem soundAll_leaves {name : String} {attributes : List (String × String)}
    (h : soundTag name (attributes.map Prod.fst)) (texts : List String) :
    soundAll (texts.map (leaf name attributes)) := by
  induction texts with
  | nil => rfl
  | cons text texts ih => rw [List.map_cons, soundAll, sound, h, ih, Bool.and_self]

end Layout

variable {s : List Char} {c : Char}

theorem isName_iff {name : String} :
    isName name ↔ name.toList ≠ [] ∧ name.toList.all isNameChar := by
  rw [isName, Bool.and_eq_true, Bool.not_eq_true', List.isEmpty_eq_false_iff]

theorem isName_of_soundTag {name : String} {keys : List String} (h : soundTag name keys) :
    isName name := by
  rw [soundTag, Bool.and_eq_true, Bool.and_eq_true] at h
  exact h.1.1

theorem not_mem_of_blank (h : s.all isBlank) (hc : ¬ isBlank c) : c ∉ s :=
  fun hmem => hc (List.all_eq_true.1 h c hmem)

/-! ### Reading characters -/

namespace Reading

variable {r r' : Reading} {f : Frame} {fs : List Frame}

theorem read_cons (h : r.step c = some r') (s : List Char) : r.read (c :: s) = r'.read s := by
  rw [read, List.foldlM_cons, h]
  rfl

/-- Characters that only add up. -/
theorem read_collect (m : List Char → Mode)
    (h : ∀ raw, ∀ c ∈ s, step ⟨f, fs, m raw⟩ c = some ⟨f, fs, m (raw ++ [c])⟩)
    (raw t : List Char) : read ⟨f, fs, m raw⟩ (s ++ t) = read ⟨f, fs, m (raw ++ s)⟩ t := by
  induction s generalizing raw with
  | nil => rw [List.nil_append, List.append_nil]
  | cons c s ih =>
    rw [List.cons_append, read_cons (h raw c List.mem_cons_self),
      ih fun raw d hd => h raw d (List.mem_cons_of_mem c hd), ← List.append_cons]

/-- Text up to a tag. -/
theorem read_content (h : '<' ∉ s) (t : List Char) :
    read ⟨f, fs, .content []⟩ (s ++ t) = read ⟨f, fs, .content s⟩ t := by
  refine read_collect .content (fun raw c hc => if_neg ?_) [] t
  rintro rfl
  exact h hc

theorem read_tag (h : s.all isNameChar) (t : List Char) :
    read ⟨f, fs, .tag []⟩ (s ++ t) = read ⟨f, fs, .tag s⟩ t :=
  read_collect .tag (fun _ c hc => if_pos (List.all_eq_true.1 h c hc)) [] t

theorem read_closing (h : s.all isNameChar) (t : List Char) :
    read ⟨f, fs, .closing []⟩ (s ++ t) = read ⟨f, fs, .closing s⟩ t :=
  read_collect .closing (fun _ c hc => if_pos (List.all_eq_true.1 h c hc)) [] t

theorem read_key (hs : s ≠ []) (h : s.all isNameChar) (t : List Char) :
    read ⟨f, fs, .gap⟩ (s ++ t) = read ⟨f, fs, .key s⟩ t := by
  obtain ⟨c, s, rfl⟩ := List.exists_cons_of_ne_nil hs
  rw [List.all_cons, Bool.and_eq_true] at h
  have hstep : step ⟨f, fs, .gap⟩ c = some ⟨f, fs, .key [c]⟩ := if_pos h.1
  rw [List.cons_append, read_cons hstep]
  exact read_collect .key (fun _ d hd => if_pos (List.all_eq_true.1 h.2 d hd)) [c] t

theorem read_value (key : List Char) (hquote : '"' ∉ s) (hlt : '<' ∉ s) (t : List Char) :
    read ⟨f, fs, .value key []⟩ (s ++ t) = read ⟨f, fs, .value key s⟩ t := by
  refine read_collect (.value key) (fun raw c hc => ?_) [] t
  have hquote' : c ≠ '"' := fun h => hquote (h ▸ hc)
  have hlt' : c ≠ '<' := fun h => hlt (h ▸ hc)
  exact (if_neg hquote').trans (if_neg hlt')

/-! ### Reading tags -/

/-- An attribute comes out as it is, with any value. -/
theorem read_attribute {key : String} (value : String) (hkey : isName key)
    (hnew : key ∉ f.attributes.map Prod.fst) (t : List Char) :
    read ⟨f, fs, .inside⟩ (attributeText (key, value) ++ t) =
      read ⟨{ f with attributes := f.attributes ++ [(key, value)] }, fs, .inside⟩ t := by
  obtain ⟨hne, hall⟩ := isName_iff.1 hkey
  have hspace : step ⟨f, fs, .inside⟩ ' ' = some ⟨f, fs, .gap⟩ := rfl
  have hequals : step ⟨f, fs, .key key.toList⟩ '=' = some ⟨f, fs, .equals key.toList⟩ := rfl
  have hquote : step ⟨f, fs, .equals key.toList⟩ '"' = some ⟨f, fs, .value key.toList []⟩ := rfl
  have hend : step ⟨f, fs, .value key.toList (escape value).toList⟩ '"' =
      some ⟨{ f with attributes := f.attributes ++ [(key, value)] }, fs, .inside⟩ := by
    have hany : ¬ f.attributes.any fun a => a.1 == String.ofList key.toList := by
      simpa using hnew
    simp only [step, if_true]
    rw [valueEnd, if_neg hany, unescape_escape, Option.map_some, String.ofList_toList,
      String.ofList_toList]
  rw [attributeText, List.cons_append, List.append_assoc, List.cons_append, List.cons_append,
    List.append_assoc, read_cons hspace, read_key hne hall, read_cons hequals, read_cons hquote,
    read_value key.toList (not_mem_escape (by decide) value) (not_mem_escape (by decide) value),
    List.singleton_append, read_cons hend]

theorem read_attributes {attributes : List (String × String)}
    (hkeys : ∀ key ∈ attributes.map Prod.fst, isName key)
    (hnodup : ((f.attributes ++ attributes).map Prod.fst).Nodup) (t : List Char) :
    read ⟨f, fs, .inside⟩ (attributes.flatMap attributeText ++ t) =
      read ⟨{ f with attributes := f.attributes ++ attributes }, fs, .inside⟩ t := by
  induction attributes generalizing f with
  | nil => rw [List.append_nil]; rfl
  | cons a attributes ih =>
    rw [List.map_cons, List.forall_mem_cons] at hkeys
    have hnew : a.1 ∉ f.attributes.map Prod.fst := by
      rw [List.map_append, List.nodup_append] at hnodup
      exact fun h => hnodup.2.2 _ h _ List.mem_cons_self rfl
    rw [List.append_cons] at hnodup
    rw [List.flatMap_cons, List.append_assoc, read_attribute a.2 hkeys.1 hnew,
      ih hkeys.2 hnodup, ← List.append_cons]

/-- Behind its name a start tag goes on as behind an attribute. -/
theorem read_opened {name : String} (hname : isName name) (htext : f.text.toList.all isBlank)
    (hc : ¬ isNameChar c) (t : List Char) :
    read ⟨f, fs, .tag name.toList⟩ (c :: t) = read ⟨.new name, f :: fs, .inside⟩ (c :: t) := by
  obtain ⟨hne, -⟩ := isName_iff.1 hname
  have hopened : opened ⟨f, fs, .tag name.toList⟩ name.toList =
      some ⟨.new name, f :: fs, .inside⟩ := by
    rw [opened, List.isEmpty_eq_false_iff.2 hne, htext, String.ofList_toList]
    rfl
  have hstep : step ⟨f, fs, .tag name.toList⟩ c = step ⟨.new name, f :: fs, .inside⟩ c := by
    refine (if_neg hc).trans ((if_neg fun h => hne h.2).trans ?_)
    rw [hopened]
    rfl
  rw [read, read, List.foldlM_cons, List.foldlM_cons, hstep]

/-- A start tag, up to its end. -/
theorem read_startText {name : String} {attributes : List (String × String)} {raw : List Char}
    (htag : soundTag name (attributes.map Prod.fst)) (hraw : raw.all isBlank) (hc : ¬ isNameChar c)
    (t : List Char) :
    read ⟨f, fs, .content raw⟩ (startText name attributes ++ c :: t) =
      read ⟨⟨name, attributes, [], ""⟩, { f with text := String.ofList raw } :: fs, .inside⟩
        (c :: t) := by
  rw [soundTag, Bool.and_eq_true, Bool.and_eq_true, List.all_eq_true, decide_eq_true_iff] at htag
  obtain ⟨⟨hname, hkeys⟩, hnodup⟩ := htag
  have hlt : step ⟨f, fs, .content raw⟩ '<' =
      some ⟨{ f with text := String.ofList raw }, fs, .tag []⟩ := by
    simp only [step, if_true]
    rw [unescape_eq_self (not_mem_of_blank hraw (by decide)), Option.map_some]
  have htext : { f with text := String.ofList raw }.text.toList.all isBlank := by
    rwa [String.toList_ofList]
  rw [startText, List.cons_append, List.append_assoc, read_cons hlt,
    read_tag (isName_iff.1 hname).2]
  have hrest : read ⟨.new name, { f with text := String.ofList raw } :: fs, .inside⟩
      (attributes.flatMap attributeText ++ c :: t) =
        read ⟨⟨name, attributes, [], ""⟩, { f with text := String.ofList raw } :: fs, .inside⟩
          (c :: t) := read_attributes (f := .new name) hkeys hnodup (c :: t)
  -- The name ends with the tag or in front of the first attribute.
  cases attributes with
  | nil =>
    rw [List.flatMap_nil, List.nil_append] at hrest ⊢
    rw [read_opened hname htext hc, hrest]
  | cons a attributes =>
    rw [List.flatMap_cons, attributeText, List.cons_append, List.cons_append] at hrest ⊢
    rw [read_opened hname htext (by decide), hrest]

/-- The end tag of an element that can end. -/
theorem read_endText {name : String} {attributes : List (String × String)} {children : List Element}
    {text : String} {raw : List Char} {e : Element} (hname : isName name)
    (hraw : unescape raw = some text.toList)
    (he : Frame.close? ⟨name, attributes, children, text⟩ = some e) (old : String)
    (t : List Char) :
    read ⟨⟨name, attributes, children, old⟩, f :: fs, .content raw⟩ (endText name ++ t) =
      read ⟨f.add e, fs, .content []⟩ t := by
  have hlt : step ⟨⟨name, attributes, children, old⟩, f :: fs, .content raw⟩ '<' =
      some ⟨⟨name, attributes, children, text⟩, f :: fs, .tag []⟩ := by
    simp only [step, if_true]
    rw [hraw, Option.map_some, String.ofList_toList]
  have hslash : step ⟨⟨name, attributes, children, text⟩, f :: fs, .tag []⟩ '/' =
      some ⟨⟨name, attributes, children, text⟩, f :: fs, .closing []⟩ := rfl
  have hend : step ⟨⟨name, attributes, children, text⟩, f :: fs, .closing name.toList⟩ '>' =
      some ⟨f.add e, fs, .content []⟩ := by
    have hgt : ¬ isNameChar '>' := by decide
    simp only [step]
    rw [if_neg hgt, if_pos ⟨trivial, String.ofList_toList.symm⟩, closed, he]
    rfl
  rw [endText, List.cons_append, List.cons_append, List.append_assoc, read_cons hlt,
    read_cons hslash, read_closing (isName_iff.1 hname).2, List.singleton_append, read_cons hend]

end Reading

/-! ### Reading layouts -/

/-- There are more elements in an element. -/
def Frame.addAll (f : Frame) (es : List Element) : Frame := es.foldl add f

theorem Frame.addAll_eq (name : String) (attributes : List (String × String))
    (children es : List Element) :
    addAll ⟨name, attributes, children, ""⟩ es = ⟨name, attributes, children ++ es, ""⟩ := by
  induction es generalizing children with
  | nil => rw [List.append_nil]; rfl
  | cons e es ih => exact (ih (children ++ [e])).trans (by rw [← List.append_cons])

namespace Layout

theorem trees_ne_nil {ls : List Layout} (h : ls ≠ []) : trees ls ≠ [] := by
  obtain ⟨l, ls, rfl⟩ := List.exists_cons_of_ne_nil h
  exact List.cons_ne_nil l.tree (trees ls)

mutual

/-- An element that is written behind blanks is read as its tree. -/
theorem read_write (l : Layout) (hl : l.sound) (f : Frame) (fs : List Frame) {raw : List Char}
    (hraw : raw.all isBlank) (t : List Char) :
    Reading.read ⟨f, fs, .content raw⟩ (l.write ++ t) =
      Reading.read ⟨f.add l.tree, fs, .content []⟩ t := by
  cases l with
  | empty name attributes =>
    rw [sound] at hl
    rw [write, List.append_assoc, List.cons_append,
      Reading.read_startText hl hraw (by decide), Reading.read_cons rfl,
      List.singleton_append, Reading.read_cons rfl]
    rfl
  | leaf name attributes text =>
    rw [sound] at hl
    -- No tag begins in an escaped text, so the reader comes to the end tag with all of it.
    rw [write, List.append_assoc, List.cons_append, List.append_assoc,
      Reading.read_startText hl hraw (by decide), Reading.read_cons rfl,
      Reading.read_content (not_mem_escape (by decide) text),
      Reading.read_endText (isName_of_soundTag hl) (unescape_escape text) rfl]
    rfl
  | node name attributes gap children last =>
    rw [sound, Bool.and_eq_true, Bool.and_eq_true, Bool.and_eq_true, Bool.and_eq_true] at hl
    obtain ⟨⟨⟨⟨htag, hgap⟩, hlast⟩, hchildren⟩, hsound⟩ := hl
    -- Beside elements an element has no text, so it can end only behind blanks.
    have hclose : Frame.close? ⟨name, attributes, trees children, last⟩ =
        some (node name attributes gap children last).tree := by
      have hne : ¬ (trees children).isEmpty := by
        rw [List.isEmpty_iff]
        exact trees_ne_nil (by simpa using hchildren)
      rw [Frame.close?, if_neg hne, if_pos hlast, tree]
    rw [write, List.append_assoc, List.cons_append, List.append_assoc, List.append_assoc,
      Reading.read_startText htag hraw (by decide), Reading.read_cons rfl,
      read_writeAll children hsound _ _ hgap, Frame.addAll_eq, List.nil_append,
      Reading.read_content (not_mem_of_blank hlast (by decide)),
      Reading.read_endText (isName_of_soundTag htag)
        (unescape_eq_self (not_mem_of_blank hlast (by decide))) hclose]
    rfl

/-- Elements that are written behind blanks are read as their trees. -/
theorem read_writeAll (ls : List Layout) (hls : soundAll ls) (f : Frame) (fs : List Frame)
    {gap : String} (hgap : gap.toList.all isBlank) (t : List Char) :
    Reading.read ⟨f, fs, .content []⟩ (writeAll gap ls ++ t) =
      Reading.read ⟨f.addAll (trees ls), fs, .content []⟩ t := by
  cases ls with
  | nil => rfl
  | cons l ls =>
    rw [soundAll, Bool.and_eq_true] at hls
    rw [writeAll, List.append_assoc, List.append_assoc,
      Reading.read_content (not_mem_of_blank hgap (by decide)), read_write l hls.1 f fs hgap,
      read_writeAll ls hls.2 _ _ hgap]
    rfl

end

end Layout

/-- **A document is read as the tree of its layout**, whatever texts and values stand in it. -/
theorem read_document {l : Layout} (hl : l.sound) {gap : String} (hgap : gap.toList.all isBlank) :
    read (prolog ++ gap ++ String.ofList l.write) = some l.tree := by
  have hread : Reading.start.read (gap ++ String.ofList l.write).toList =
      some ⟨Frame.add (.new "") l.tree, [], .content []⟩ := by
    have hwrite := l.read_write hl (.new "") [] hgap []
    rw [List.append_nil] at hwrite
    rw [String.toList_append, String.toList_ofList, Reading.start,
      Reading.read_content (not_mem_of_blank hgap (by decide)), hwrite]
    rfl
  rw [read, String.append_assoc, Text.dropPrefix?_append, Option.bind_some, hread]
  rfl

end RemoteHost.Xml

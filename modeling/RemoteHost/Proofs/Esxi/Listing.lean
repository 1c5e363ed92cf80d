/-
RemoteHost/Proofs/Esxi/Listing.lean

The listing of installed packages, line by line.

Each line of data says one thing, a package or an issue, and a blank one says nothing
(`readLine_cases`).  Going through the lines, nothing is lost, told twice or put out of order
(`ofLines_eq`), and the number of a line is its place in the whole output, header and blank lines
counted.  What is written as a listing is read back (`ofLines_of_rows`).

From there `listing_accounts_for_every_line`: a listing is read completely, and a search in it sees
the packages only, whatever else the output has in it.
-/
import RemoteHost.Esxi.Request
import RemoteHost.Proofs.Text.Lines

namespace RemoteHost.Esxi

open Text

variable {output pattern : String} {accepts : String → Bool} {p q : Package}
variable {packages : List Package} {number : Nat}

/-- The fields of a package, in the order of its line. -/
def Package.fields (p : Package) : List String :=
  [p.name, p.version, p.vendor, p.kind, p.installDate]

theorem Package.eq_of_fields (h : p.fields = q.fields) : p = q := by
  cases p
  cases q
  simpa [Package.fields] using h

/-! ### Lines of data -/

/-- A line of an output, as it stands there, with its number. -/
structure Line where
  text : List Char
  number : Nat

namespace Line

/-- The fields of a line. -/
def fields (l : Line) : List String := (wordsOf l.text).map String.ofList

/-- There is something in the line. -/
def hasData (l : Line) : Bool := !l.text.all isBlank

/-- The line has as many fields as a package. -/
def isRecord (l : Line) : Bool := l.fields.length == 5

theorem isRecord_iff {l : Line} : l.isRecord ↔ ∃ p : Package, p.fields = l.fields := by
  rw [isRecord, beq_iff_eq]
  constructor
  · intro h
    match l.fields, h with
    | [name, version, vendor, kind, date], _ => exact ⟨⟨name, version, vendor, kind, date⟩, rfl⟩
  · rintro ⟨p, hp⟩
    rw [← hp]
    rfl

/-- The issue for a line that describes no package. -/
def issue (l : Line) : Issue where
  line := l.number
  fields := l.fields.length
  text := String.ofList (trimChars l.text)

/-- Lines with their numbers, the first of which is given. -/
def numbered (number : Nat) (lines : List (List Char)) : List Line :=
  (lines.zipIdx number).map fun (text, n) => ⟨text, n⟩

@[simp] theorem numbered_cons (number : Nat) (text : List Char) (lines : List (List Char)) :
    numbered number (text :: lines) = ⟨text, number⟩ :: numbered (number + 1) lines := rfl

theorem mem_of_mem_numbered {lines : List (List Char)} {l : Line} (h : l ∈ numbered number lines) :
    l.text ∈ lines := by
  obtain ⟨x, hx, rfl⟩ := List.mem_map.1 h
  exact List.fst_mem_of_mem_zipIdx hx

theorem feed_not_mem_issue {l : Line} (h : '\n' ∉ l.text) : '\n' ∉ l.issue.message.toList := by
  have hdigit {n : Nat} : '\n' ∉ (toString n).toList := by
    intro hmem
    rw [Nat.toString_eq_repr, Nat.toList_repr] at hmem
    exact absurd (Nat.isDigit_of_mem_toDigits (by decide) (by decide) hmem) (by decide)
  have htext : '\n' ∉ (String.ofList (trimChars l.text)).toList := by
    rw [String.toList_ofList]
    exact fun hmem => h (mem_of_mem_trimChars hmem)
  simp only [Issue.message, issue, String.toList_append, List.mem_append, not_or]
  exact ⟨⟨⟨⟨⟨⟨by decide, hdigit⟩, by decide⟩, hdigit⟩, by decide⟩, htext⟩, by decide⟩

end Line

/-- The lines of data of an output: those behind the two header lines that are not blank. -/
def dataLines (output : String) : List Line :=
  ((Line.numbered 1 (output.toList.splitOn '\n')).drop 2).filter Line.hasData

/-- The fields of the lines that describe a package. -/
def records (output : String) : List (List String) :=
  ((dataLines output).filter Line.isRecord).map Line.fields

namespace Inventory

/-! ### One line -/

theorem readLine_cases (l : Line) :
    (l.hasData = false ∧ readLine l.number (trimChars l.text) = none) ∨
      (l.hasData ∧ l.isRecord ∧
        ∃ p : Package, readLine l.number (trimChars l.text) = some (.inl p) ∧
          p.fields = l.fields) ∨
      (l.hasData ∧ l.isRecord = false ∧
        readLine l.number (trimChars l.text) = some (.inr l.issue)) := by
  unfold readLine
  rw [wordsOf_trimChars]
  by_cases hblank : trimChars l.text = []
  · left
    rw [if_pos (List.isEmpty_iff.2 hblank)]
    refine ⟨?_, rfl⟩
    rw [Line.hasData, List.all_eq_true.2 (trimChars_eq_nil_iff.1 hblank)]
    rfl
  · right
    have hdata : l.hasData := by
      rw [Line.hasData, Bool.not_eq_true', ← Bool.not_eq_true, List.all_eq_true,
        ← trimChars_eq_nil_iff]
      exact hblank
    rw [if_neg (List.isEmpty_iff.not.2 hblank)]
    split
    · next name version vendor kind date h =>
      have hp : (⟨name, version, vendor, kind, date⟩ : Package).fields = l.fields := h.symm
      exact .inl ⟨hdata, Line.isRecord_iff.2 ⟨_, hp⟩, _, rfl, hp⟩
    · next h =>
      refine .inr ⟨hdata, Bool.eq_false_iff.2 fun hrecord => ?_, rfl⟩
      obtain ⟨p, hp⟩ := Line.isRecord_iff.1 hrecord
      exact h p.name p.version p.vendor p.kind p.installDate hp.symm

/-! ### All lines -/

/-- What some lines say, in order. -/
theorem ofLines_eq (number : Nat) (lines : List (List Char)) :
    (ofLines number (lines.map trimChars)).packages.map Package.fields =
        (((Line.numbered number lines).filter Line.hasData).filter Line.isRecord).map Line.fields ∧
      (ofLines number (lines.map trimChars)).issues =
        (((Line.numbered number lines).filter Line.hasData).filter (!·.isRecord)).map
          Line.issue := by
  induction lines generalizing number with
  | nil => exact ⟨rfl, rfl⟩
  | cons text lines ih =>
    obtain ⟨hpackages, hissues⟩ := ih (number + 1)
    rw [List.map_cons, Line.numbered_cons, ofLines]
    obtain ⟨hdata, hread⟩ | ⟨hdata, hrecord, p, hread, hp⟩ | ⟨hdata, hrecord, hread⟩ :=
      readLine_cases ⟨text, number⟩
    · rw [hread, List.filter_cons_of_neg (by simp [hdata])]
      exact ⟨hpackages, hissues⟩
    · rw [hread, List.filter_cons_of_pos hdata, List.filter_cons_of_pos hrecord,
        List.filter_cons_of_neg (by simp [hrecord])]
      exact ⟨congrArg₂ _ hp hpackages, hissues⟩
    · rw [hread, List.filter_cons_of_pos hdata, List.filter_cons_of_neg (by simp [hrecord]),
        List.filter_cons_of_pos (by simp [hrecord])]
      exact ⟨hpackages, congrArg (_ :: ·) hissues⟩

theorem ofOutput_eq (output : String) :
    (ofOutput output).packages.map Package.fields = records output ∧
      (ofOutput output).issues = ((dataLines output).filter (!·.isRecord)).map Line.issue := by
  have hlines (n : Nat) (ls : List (List Char)) :
      (Line.numbered n ls).drop 2 = Line.numbered (n + 2) (ls.drop 2) := by
    rcases ls with _ | ⟨a, _ | ⟨b, ls⟩⟩
    · rfl
    · rfl
    · rfl
  have h := ofLines_eq 3 ((output.toList.splitOn '\n').drop 2)
  rw [List.map_drop] at h
  rw [records, dataLines, hlines]
  exact h

/-- An issue takes one line of a message. -/
theorem feed_not_mem_message {i : Issue} (h : i ∈ (ofOutput output).issues) :
    '\n' ∉ i.message.toList := by
  rw [(ofOutput_eq output).2] at h
  obtain ⟨l, hl, rfl⟩ := List.mem_map.1 h
  have hline := List.mem_of_mem_drop (List.mem_filter.1 (List.mem_filter.1 hl).1).1
  exact Line.feed_not_mem_issue (not_mem_of_mem_splitOn (Line.mem_of_mem_numbered hline))

/-! ### Failures -/

theorem failure?_eq_none_iff (l : Inventory) : l.failure? = none ↔ l.issues = [] := by
  rw [failure?, isComplete, ← List.isEmpty_iff]
  cases l.issues.isEmpty with
  | true => exact ⟨fun _ => rfl, fun _ => rfl⟩
  | false => exact ⟨(nomatch ·), (nomatch ·)⟩

/-- The lines of the message are the issues. -/
theorem splitOn_failure {e : Failure} (h : (ofOutput output).failure? = some e) :
    e.kind = .parseFailed ∧
      (e.message.toList.splitOn '\n').map String.ofList =
        (ofOutput output).issues.map Issue.message := by
  have hne : (ofOutput output).issues ≠ [] := fun hnil => by
    rw [(failure?_eq_none_iff _).2 hnil] at h
    cases h
  rw [failure?, isComplete, if_neg (List.isEmpty_iff.not.2 hne)] at h
  obtain rfl := Option.some.inj h
  refine ⟨rfl, ?_⟩
  have hfeed : ∀ m ∈ ((ofOutput output).issues.map Issue.message).map String.toList, '\n' ∉ m := by
    rw [List.map_map]
    intro m hm
    obtain ⟨i, hi, rfl⟩ := List.mem_map.1 hm
    exact feed_not_mem_message hi
  have hmap (ms : List String) : (ms.map String.toList).map String.ofList = ms := by
    rw [List.map_map]
    exact (List.map_congr_left fun m _ => String.ofList_toList).trans (List.map_id ms)
  have hsplit := List.splitOn_intercalate '\n' hfeed (by simpa using hne)
  rw [String.toList_intercalate]
  exact (congrArg (List.map String.ofList) hsplit).trans (hmap _)

/-! ### Listings that are written -/

/-- The lines are the packages in order, with any blank lines among them. -/
inductive Rows : List Package → List (List Char) → Prop
  | nil : Rows [] []
  | blank {l : List Char} {packages : List Package} {ls : List (List Char)} (hl : Padding l)
      (h : Rows packages ls) : Rows packages (l :: ls)
  | package {p : Package} {l : List Char} {packages : List Package} {ls : List (List Char)}
      (hl : Row (p.fields.map String.toList) l) (h : Rows packages ls) :
      Rows (p :: packages) (l :: ls)

/-- The output lists the packages below two header lines.  A field is a word; around the fields
and the lines there may be any padding, and each line may end in either way. -/
structure Lists (packages : List Package) (output : String) : Prop where
  words : ∀ p ∈ packages, ∀ field ∈ p.fields, IsWord field.toList
  lines : ∃ first second rows, '\n' ∉ first ∧ '\n' ∉ second ∧ Rows packages rows ∧
    Joined (first :: second :: rows) output.toList

theorem isWord_of_mem_fields (h : ∀ field ∈ p.fields, IsWord field.toList) :
    ∀ w ∈ p.fields.map String.toList, IsWord w := by
  intro w hw
  obtain ⟨field, hfield, rfl⟩ := List.mem_map.1 hw
  exact h field hfield

theorem feed_not_mem_rows {rows : List (List Char)} (h : Rows packages rows)
    (hwords : ∀ p ∈ packages, ∀ field ∈ p.fields, IsWord field.toList) :
    ∀ l ∈ rows, '\n' ∉ l := by
  induction h with
  | nil => exact fun l hl => absurd hl List.not_mem_nil
  | blank hl _ ih => exact List.forall_mem_cons.2 ⟨fun hmem => (hl '\n' hmem).2 rfl, ih hwords⟩
  | package hl _ ih =>
    obtain ⟨hp, hwords⟩ := List.forall_mem_cons.1 hwords
    exact List.forall_mem_cons.2 ⟨hl.feed_not_mem (isWord_of_mem_fields hp), ih hwords⟩

/-- The row of a package is read as this package. -/
theorem readLine_row {l : List Char} (h : Row (p.fields.map String.toList) l)
    (hp : ∀ field ∈ p.fields, IsWord field.toList) :
    readLine number (trimChars l) = some (.inl p) := by
  have hfields : Line.fields ⟨l, number⟩ = p.fields := by
    rw [Line.fields, h.wordsOf_eq (isWord_of_mem_fields hp), List.map_map]
    exact (List.map_congr_left fun f _ => String.ofList_toList).trans (List.map_id _)
  obtain ⟨hdata, -⟩ | ⟨-, -, q, hread, hq⟩ | ⟨-, hrecord, -⟩ := readLine_cases ⟨l, number⟩
  · -- A blank line has no fields.
    have hblank : ∀ c ∈ l, isBlank c := by simpa [Line.hasData] using hdata
    rw [Line.fields, wordsOf_of_blank hblank] at hfields
    cases hfields
  · rw [hread, Package.eq_of_fields (hq.trans hfields)]
  · rw [Line.isRecord, hfields] at hrecord
    cases hrecord

theorem ofLines_of_rows {rows : List (List Char)} (h : Rows packages rows)
    (hwords : ∀ p ∈ packages, ∀ field ∈ p.fields, IsWord field.toList) :
    ofLines number (rows.map trimChars) = ⟨packages, []⟩ := by
  induction h generalizing number with
  | nil => rfl
  | blank hl _ ih =>
    rw [List.map_cons, ofLines, trimChars_of_blank fun c hc => (hl c hc).1, ih hwords]
    rfl
  | package hl _ ih =>
    obtain ⟨hp, hwords⟩ := List.forall_mem_cons.1 hwords
    rw [List.map_cons, ofLines, readLine_row hl hp, ih hwords]
    rfl

theorem ofOutput_of_lists (h : Lists packages output) : ofOutput output = ⟨packages, []⟩ := by
  obtain ⟨hwords, first, second, rows, hfirst, hsecond, hrows, hjoined⟩ := h
  have hfeed : ∀ l ∈ first :: second :: rows, '\n' ∉ l := List.forall_mem_cons.2
    ⟨hfirst, List.forall_mem_cons.2 ⟨hsecond, feed_not_mem_rows hrows hwords⟩⟩
  rw [ofOutput, hjoined.trimmedLines_eq hfeed]
  exact ofLines_of_rows hrows hwords

/-- Nothing but the lines that describe a package decides which packages there are. -/
theorem packages_eq_of_records {other : String} (h : records other = records output) :
    (ofOutput other).packages = (ofOutput output).packages := by
  have hmap : (ofOutput other).packages.map Package.fields =
      (ofOutput output).packages.map Package.fields := by
    rw [(ofOutput_eq other).1, (ofOutput_eq output).1, h]
  exact (List.map_inj_right fun _ _ => Package.eq_of_fields).1 hmap

end Inventory

/-! ### Searches -/

namespace Request

open Inventory

variable {l : Inventory}

theorem findIn_eq_ok_iff : findIn pattern accepts l = .ok (.package p) ↔
    ∃ before behind, l.packages = before ++ p :: behind ∧ accepts p.name ∧
      ∀ q ∈ before, accepts q.name = false := by
  have hfind : findIn pattern accepts l = .ok (.package p) ↔ l.find? accepts = some p := by
    unfold findIn
    split
    · next q h =>
      rw [h]
      simp
    · next h =>
      rw [h]
      simp
  rw [hfind, Inventory.find?, List.find?_eq_some_iff_append]
  constructor
  · rintro ⟨hp, before, behind, hpackages, hbefore⟩
    exact ⟨before, behind, hpackages, hp, fun q hq => by simpa using hbefore q hq⟩
  · rintro ⟨before, behind, hpackages, hp, hbefore⟩
    exact ⟨hp, before, behind, hpackages, fun q hq => by simp [hbefore q hq]⟩

theorem findIn_eq_error_iff : findIn pattern accepts l = .error (notFound pattern l) ↔
    ∀ p ∈ l.packages, accepts p.name = false := by
  have hnone : l.find? accepts = none ↔ ∀ p ∈ l.packages, accepts p.name = false := by
    simp [Inventory.find?]
  rw [← hnone]
  unfold findIn
  split
  · next q h =>
    rw [h]
    simp
  · next h =>
    rw [h]
    simp

/-- What is found depends on the packages only. -/
theorem toOption_findIn {l' : Inventory} (h : l'.packages = l.packages) :
    (findIn pattern accepts l').toOption = (findIn pattern accepts l).toOption := by
  have hfind : l'.find? accepts = l.find? accepts := by
    rw [Inventory.find?, Inventory.find?, h]
  unfold findIn
  rw [hfind]
  cases l.find? accepts with
  | some p => rfl
  | none => rfl

end Request

open Inventory Request

/-- **A listing is read completely.**  Each line of data becomes one package or one issue, in the
order of the lines, by whether it has five fields or not; an issue has the number of its line in
the output.  There is a failure exactly when there are issues, and the lines of its message are
the issues.  What is written as a listing of some packages is read as these, and nothing is
amiss.  A search finds the first package with a name that is accepted, in spite of any lines that
describe none, or fails because there is no such package. -/
theorem listing_accounts_for_every_line (output : String) :
    let l := ofOutput output
    l.packages.map Package.fields = records output ∧
    l.issues = ((dataLines output).filter (!·.isRecord)).map Line.issue ∧
    (l.failure? = none ↔ l.issues = []) ∧
    (∀ e ∈ l.failure?, e.kind = .parseFailed ∧
      (e.message.toList.splitOn '\n').map String.ofList = l.issues.map Issue.message) ∧
    (∀ packages, Lists packages output → l = ⟨packages, []⟩) ∧
    (∀ pattern, (conclude (.find pattern) (.ok output)).1 =
      match Regex.parse? pattern with
      | some r => findIn pattern r.isMatch l
      | none => .error (invalidPattern pattern)) ∧
    ∀ (pattern : String) (accepts : String → Bool),
      (∀ p, findIn pattern accepts l = .ok (.package p) ↔
        ∃ before behind, l.packages = before ++ p :: behind ∧ accepts p.name ∧
          ∀ q ∈ before, accepts q.name = false) ∧
      (findIn pattern accepts l = .error (notFound pattern l) ↔
        ∀ p ∈ l.packages, accepts p.name = false) ∧
      (notFound pattern l).kind = .notFound ∧
      ∀ other, records other = records output →
        (findIn pattern accepts (ofOutput other)).toOption =
          (findIn pattern accepts l).toOption := by
  intro l
  refine ⟨(ofOutput_eq output).1, (ofOutput_eq output).2, failure?_eq_none_iff l, fun e he => ?_,
    fun packages => ofOutput_of_lists, fun pattern => ?_, fun pattern accepts =>
    ⟨fun p => findIn_eq_ok_iff, findIn_eq_error_iff, rfl, fun other hother => ?_⟩⟩
  · exact splitOn_failure he
  · rw [conclude]
    cases Regex.parse? pattern with
    | none => rfl
    | some r => rfl
  · exact toOption_findIn (packages_eq_of_records hother)

/-- Two packages with a tab, a blank line and either line end, and the same among broken lines. -/
theorem listing_accounts_for_every_line_mixed :
    let packages : List Package :=
      [⟨"esx-base", "7.0", "VMware", "core", "2021-03-01"⟩, ⟨"net", "1", "Intel", "extra", "-"⟩]
    let output := "Name  Version\n----\r\n esx-base\t7.0 VMware core 2021-03-01 \r\n\n" ++
      "net 1 Intel extra -"
    let broken := "Name  Version\n----\n\nesx-base 7.0 VMware core 2021-03-01\n too short\n" ++
      "net 1 Intel extra -\ninstalled: 2\n"
    Lists packages output ∧ ofOutput output = ⟨packages, []⟩ ∧
      records broken = records output ∧
      (findIn "net" (·.startsWith "net") (ofOutput broken)).toOption =
        (findIn "net" (·.startsWith "net") (ofOutput output)).toOption ∧
      ∃ e ∈ (ofOutput broken).failure?, e.kind = .parseFailed ∧
        (e.message.toList.splitOn '\n').map String.ofList =
          ["line 5: expected 5 fields, found 2: 'too short'",
            "line 7: expected 5 fields, found 2: 'installed: 2'"] := by
  intro packages output broken
  have word {w : List Char} {ws : List (List Char)} {s : List Char} (h : Row ws s) :
      Row (w :: ws) (w ++ ' ' :: s) := .cons (a := []) (by decide) (by decide) h
  have hbase : Row ["esx-base".toList, "7.0".toList, "VMware".toList, "core".toList,
      "2021-03-01".toList] " esx-base\t7.0 VMware core 2021-03-01 ".toList :=
    .cons (a := [' ']) (by decide) (c := '\t') (by decide)
      (word (word (word (word (.blank (by decide))))))
  have hnet : Row ["net".toList, "1".toList, "Intel".toList, "extra".toList, "-".toList]
      "net 1 Intel extra -".toList :=
    word (word (word (word (.last (a := []) (by decide)))))
  have htext : output.toList = "Name  Version".toList ++ ['\n'] ++ ("----".toList ++ ['\r', '\n'] ++
      (" esx-base\t7.0 VMware core 2021-03-01 ".toList ++ ['\r', '\n'] ++
        ([] ++ ['\n'] ++ "net 1 Intel extra -".toList))) := by decide +kernel
  have hlists : Lists packages output := by
    refine ⟨by decide, "Name  Version".toList, "----".toList, _, by decide, by decide,
      .package hbase (.blank (l := []) (by decide) (.package hnet .nil)), ?_⟩
    rw [htext]
    exact .cons .feed (.cons .returnFeed (.cons .returnFeed (.cons .feed (.last _))))
  have hrecords : records broken = records output := by decide +kernel
  have hissues : (ofOutput broken).issues.map Issue.message =
      ["line 5: expected 5 fields, found 2: 'too short'",
        "line 7: expected 5 fields, found 2: 'installed: 2'"] := by decide +kernel
  obtain ⟨-, -, -, -, hread, -, hfind⟩ := listing_accounts_for_every_line output
  obtain ⟨-, -, hnone, hfailure, -⟩ := listing_accounts_for_every_line broken
  obtain ⟨e, he⟩ : ∃ e, (ofOutput broken).failure? = some e := by
    rw [← Option.ne_none_iff_exists', Ne, hnone]
    intro h
    rw [h] at hissues
    cases hissues
  exact ⟨hlists, hread packages hlists, hrecords, (hfind _ _).2.2.2 broken hrecords, e, he,
    (hfailure e he).1, (hfailure e he).2.trans hissues⟩

end RemoteHost.Esxi

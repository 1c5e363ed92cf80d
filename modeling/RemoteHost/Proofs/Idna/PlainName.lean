/-
RemoteHost/Proofs/Idna/PlainName.lean

Names of small letters and digits.

The tables of characters have nothing to say about the small letters and digits of ASCII: they
begin beyond ASCII, apart from the capital letters, and a composed character has a mark from
beyond ASCII.  Each table is gone through once for this.  So a name of small letters and digits
stays as it is all the way (`toAscii?_plain`), and a host is called what it is called
(`Host.ofText_plain`).
-/
import RemoteHost.Url.Host

namespace RemoteHost.Text

variable {c : Char} {n bound : Nat} {s : List Char}

/-! ### Tables that begin later -/

theorem Range.has_eq_false {r : Range} (h : n < r.first ∨ r.last < n) : r.has n = false := by
  have hout : ¬ (r.first ≤ n ∧ n ≤ r.last) := by omega
  rw [Range.has, ← Bool.decide_and, decide_eq_false hout, Bool.false_and]

theorem CharSet.contains_eq_false {set : CharSet}
    (h : set.ranges.toList.all (bound ≤ ·.first)) (hc : c.toNat < bound) :
    set.contains c = false := by
  rw [CharSet.contains, CharSet.has, ← Array.any_toList, List.any_eq_false]
  intro r hr
  have hfirst : bound ≤ r.first := by simpa using List.all_eq_true.1 h r hr
  rw [Range.has_eq_false (.inl (by omega))]
  exact Bool.false_ne_true

theorem CaseRun.find?_eq_none {runs : Array CaseRun}
    (h : ∀ r ∈ runs.toList, n < r.range.first ∨ r.range.last < n) :
    runs.find? (·.range.has n) = none := by
  rw [← Array.find?_toList, List.find?_eq_none]
  intro r hr
  rw [Range.has_eq_false (h r hr)]
  exact Bool.false_ne_true

theorem Expansion.find?_eq_none {table : Array Expansion}
    (h : table.toList.all (bound ≤ ·.source)) (hn : n < bound) :
    Expansion.find? table n = none := by
  rw [Expansion.find?, Option.map_eq_none_iff, ← Array.find?_toList, List.find?_eq_none]
  intro e he
  have hsource : bound ≤ e.source := by simpa using List.all_eq_true.1 h e he
  simp only [beq_iff_eq]
  omega

/-! ### Composition -/

set_option maxRecDepth 100000 in
/-- The characters of marks and the ends of composed ones are beyond ASCII, and no composed one
begins with a colon. -/
theorem marks_begin :
    (markClasses.toList.all fun r => 0x80 ≤ r.range.first) ∧
      composites.toList.all fun e =>
        e.result.getLast?.all (0x80 ≤ ·.toNat) && e.result.head? != some ':' := by
  unfold markClasses composites CaseRun.ofTable Expansion.ofTable
  rw [String.toList_ofList, String.toList_ofList]
  decide +kernel

theorem markClass_ascii (hc : c.toNat < 0x80) : markClass c = 0 := by
  have hbegin : ∀ r ∈ markClasses.toList, c.toNat < r.range.first ∨ r.range.last < c.toNat := by
    intro r hr
    have hfirst : 0x80 ≤ r.range.first := by
      simpa using List.all_eq_true.1 marks_begin.1 r hr
    exact .inl (by omega)
  rw [markClass, CaseRun.targetOf, CaseRun.find?_eq_none hbegin]

/-- No character is composed with one of ASCII for its mark. -/
theorem compose?_ascii (a : Char) (hc : c.toNat < 0x80) : compose? a c = none := by
  have hhangul : hangulSyllable? a c = none := by
    rw [hangulSyllable?, if_neg (by omega), if_neg (by omega)]
  rw [compose?, hhangul]
  simp only [Option.map_eq_none_iff]
  rw [← Array.find?_toList, List.find?_eq_none]
  intro e he hresult
  have hlast : e.result.getLast? = some c := by
    rw [beq_iff_eq.1 hresult]
    exact List.getLast?_concat
  have hrow := List.all_eq_true.1 marks_begin.2 e he
  rw [hlast, Bool.and_eq_true] at hrow
  have hmark : 0x80 ≤ c.toNat := by simpa using hrow.1
  omega

theorem composeFrom_ascii (a : Char) (hs : ∀ c ∈ s, c.toNat < 0x80) :
    composeFrom a [] 0 s = a :: s := by
  induction s generalizing a with
  | nil => rfl
  | cons c s ih =>
    obtain ⟨hc, hs⟩ := List.forall_mem_cons.1 hs
    unfold composeFrom
    simp only [List.isEmpty_nil, Bool.true_or, if_true, compose?_ascii a hc, markClass_ascii hc,
      ih c hs]
    rfl

theorem orderMarks_ascii (hs : ∀ c ∈ s, c.toNat < 0x80) : orderMarks s = s := by
  induction s with
  | nil => rfl
  | cons c s ih =>
    obtain ⟨-, hs⟩ := List.forall_mem_cons.1 hs
    show insertMark c (orderMarks s) = c :: s
    rw [ih hs]
    cases s with
    | nil => rfl
    | cons d s =>
      have hd : markClass d = 0 := markClass_ascii (hs d List.mem_cons_self)
      rw [insertMark, if_neg (fun h => h.1 hd)]

theorem composed_ascii (hs : ∀ c ∈ s, c.toNat < 0x80) : composed s = s := by
  have hdecompose : s.flatMap decompose = s := by
    have hc : ∀ c ∈ s, decompose c = [c] := fun c hc => by
      have hlt := hs c hc
      rw [decompose, if_pos (by omega)]
    rw [List.flatMap_def, List.map_congr_left hc, ← List.flatMap_def, List.flatMap_singleton']
  rw [composed, hdecompose, orderMarks_ascii hs]
  cases s with
  | nil => rfl
  | cons c s =>
    obtain ⟨hc, hs⟩ := List.forall_mem_cons.1 hs
    rw [composeOrdered, if_pos (markClass_ascii hc), composeFrom_ascii c hs]

end RemoteHost.Text

namespace RemoteHost.Idna

open Text

variable {c : Char} {name : List Char}

/-! ### Plain characters -/

/-- The small letters and the digits. -/
def plainChars : List Char := "abcdefghijklmnopqrstuvwxyz0123456789".toList

theorem toNat_of_mem_plainChars (h : c ∈ plainChars) :
    c.toNat < 0x80 ∧ (c.toNat < 0x41 ∨ 0x5a < c.toNat) := by
  have hall : plainChars.all fun c => c.toNat < 0x80 && (c.toNat < 0x41 || 0x5a < c.toNat) := by
    decide
  simpa using List.all_eq_true.1 hall c h

/-- A plain character has no meaning in a name. -/
theorem isReserved_of_mem_plainChars (h : c ∈ plainChars) :
    c ≠ '.' ∧ c ≠ '-' ∧ isReserved c = false := by
  have hall : plainChars.all fun c => c != '.' && (c != '-' && !isReserved c) := by decide
  simpa using List.all_eq_true.1 hall c h

set_option maxRecDepth 100000 in
/-- The sets of characters that a name is tested with begin beyond ASCII. -/
theorem charSets_begin :
    ∀ set ∈ [disallowed, ignored, rightToLeftLetters, arabicNumbers],
      set.ranges.toList.all (0x80 ≤ ·.first) := by
  unfold disallowed ignored rightToLeftLetters arabicNumbers CharSet.ofTable
  repeat rw [String.toList_ofList]
  decide +kernel

set_option maxRecDepth 100000 in
/-- In ASCII only the capital letters are replaced. -/
theorem mappings_begin :
    (expanded.toList.all (0x80 ≤ ·.source)) ∧
      replaced.toList.all fun r =>
        0x80 ≤ r.range.first || (0x41 ≤ r.range.first && r.range.last ≤ 0x5a) := by
  unfold expanded replaced Expansion.ofTable CaseRun.ofTable
  rw [String.toList_ofList, String.toList_ofList]
  decide +kernel

/-- The characters of ASCII that are no capital letters stay. -/
theorem mapChar?_ascii (hascii : c.toNat < 0x80) (hcapital : c.toNat < 0x41 ∨ 0x5a < c.toNat) :
    mapChar? c = some [c] := by
  have hreplaced : ∀ r ∈ replaced.toList, c.toNat < r.range.first ∨ r.range.last < c.toNat := by
    intro r hr
    have hrange := List.all_eq_true.1 mappings_begin.2 r hr
    simp only [Bool.or_eq_true, Bool.and_eq_true, decide_eq_true_eq] at hrange
    omega
  rw [mapChar?, CharSet.contains_eq_false (charSets_begin disallowed (by simp)) hascii,
    CharSet.contains_eq_false (charSets_begin ignored (by simp)) hascii, if_neg Bool.false_ne_true,
    if_neg Bool.false_ne_true, Expansion.find?_eq_none mappings_begin.1 hascii, CaseRun.move,
    CaseRun.find?_eq_none hreplaced, Char.ofNat_toNat]

theorem mapChar?_plain (h : c ∈ plainChars) : mapChar? c = some [c] :=
  mapChar?_ascii (toNat_of_mem_plainChars h).1 (toNat_of_mem_plainChars h).2

theorem map?_plain (h : ∀ c ∈ name, c ∈ plainChars) : map? name = some name := by
  have hparts : name.mapM mapChar? = some (name.map ([·])) := by
    induction name with
    | nil => rfl
    | cons c name ih =>
      obtain ⟨hc, hname⟩ := List.forall_mem_cons.1 h
      rw [List.mapM_cons, mapChar?_plain hc, ih hname]
      rfl
  have hcomposed := composed_ascii fun c hc => (toNat_of_mem_plainChars (h c hc)).1
  rw [map?, hparts, Option.map_some, ← List.flatMap_def, List.flatMap_singleton', hcomposed]

/-! ### Plain names -/

theorem needsDirectionRule_plain (h : ∀ c ∈ name, c ∈ plainChars) :
    needsDirectionRule [name] = false := by
  rw [needsDirectionRule, List.any_cons, List.any_nil, Bool.or_false, List.any_eq_false]
  intro c hc
  have hascii := (toNat_of_mem_plainChars (h c hc)).1
  rw [Direction.of, CharSet.contains_eq_false (charSets_begin rightToLeftLetters (by simp)) hascii,
    CharSet.contains_eq_false (charSets_begin arabicNumbers (by simp)) hascii,
    if_neg Bool.false_ne_true, if_neg Bool.false_ne_true]
  split
  · decide
  · split
    · decide
    · split <;> decide

/-- A name of small letters and digits is its own ASCII form. -/
theorem toAscii?_plain (h : ∀ c ∈ name, c ∈ plainChars) : toAscii? name = some name := by
  have hascii : isAscii name := List.all_eq_true.2 fun c hc => by
    simpa [Punycode.isBasic] using (toNat_of_mem_plainChars (h c hc)).1
  have hlabels : name.splitOn '.' = [name] := List.splitOn_eq_singleton fun hdot =>
    (isReserved_of_mem_plainChars (h '.' hdot)).1 rfl
  have hmark : asciiMark.isPrefixOf name = false := by
    rw [Bool.eq_false_iff, Ne, List.isPrefixOf_iff_prefix]
    intro hprefix
    have hhyphen : '-' ∈ name := hprefix.subset (by decide)
    exact (isReserved_of_mem_plainChars (h '-' hhyphen)).2.1 rfl
  have hread : readLabel? name = some name := by
    rw [readLabel?, hmark, if_neg Bool.false_ne_true, if_pos hascii]
  have hwrite : writeLabel? name = some name := by
    rw [writeLabel?, if_pos hascii]
  have hreserved : name.any isReserved = false := by
    rw [List.any_eq_false]
    intro c hc
    rw [(isReserved_of_mem_plainChars (h c hc)).2.2]
    exact Bool.false_ne_true
  have hread' : [name].mapM readLabel? = some [name] := by
    rw [List.mapM_cons, hread]
    rfl
  have hwrite' : [name].mapM writeLabel? = some [name] := by
    rw [List.mapM_cons, hwrite]
    rfl
  have hjoin : ['.'].intercalate [name] = name := by simp [List.intercalate]
  rw [toAscii?, map?_plain h]
  simp only [Option.bind_eq_bind, Option.bind_some, hlabels, hread',
    needsDirectionRule_plain h, Bool.false_and, Bool.false_eq_true, if_false, hwrite', hjoin,
    hreserved]

end RemoteHost.Idna

namespace RemoteHost.Url

/-- A host with a name of small letters and digits, unless it is an address. -/
theorem Host.ofText_plain {name : String} (hplain : ∀ c ∈ name.toList, c ∈ Idna.plainChars)
    (hname : name.toList ≠ [])
    (hutf : Utf8.decode? (percentDecode (Utf8.encodeChars name.toList)) = some name)
    (hmeant : Ipv4.isMeant name.toList = false) :
    Host.ofText name.toList = .ok (.domain name) := by
  have hofName : Host.ofName name.toList = .ok (.domain name) := by
    unfold Host.ofName
    simp only [hutf, Idna.toAscii?_plain hplain, hmeant, List.isEmpty_iff, hname,
      Bool.false_eq_true, if_false, String.ofList_toList]
    rfl
  unfold Host.ofText
  split
  · next h => exact absurd h hname
  · next h =>
    have hbracket : '[' ∈ name.toList := by
      rw [h]
      exact List.mem_cons_self
    exact absurd (hplain '[' hbracket) (by decide)
  · exact hofName

end RemoteHost.Url

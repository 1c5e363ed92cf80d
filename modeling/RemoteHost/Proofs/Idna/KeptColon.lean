/-
RemoteHost/Proofs/Idna/KeptColon.lean

Names with a colon.

No step on the way from a name to its ASCII form takes a colon away.  Decoding bytes keeps it, since
it is neither a hexadecimal digit nor a part of a longer character (`mem_percentDecodeFrom`,
`mem_decodeFrom`).  Mapping keeps it, since nothing is composed with it (`mem_map?`), and so do reading
and writing a label (`mem_readLabel?`, `mem_writeLabel?`).  In the end it is one of the characters that
no name may have (`toAscii?_colon`), so a name with a colon stands for no host (`Host.ofName_colon`).
-/
import Mathlib.Data.Option.Basic
import RemoteHost.Proofs.Idna.PlainName
import RemoteHost.Proofs.Text.Search
import RemoteHost.Proofs.Text.Utf8

namespace RemoteHost.Text

variable {s : List Char}

/-! ### Composition -/

/-- A colon is not composed with a mark. -/
theorem compose?_colon (c : Char) : compose? ':' c = none := by
  have hhangul : hangulSyllable? ':' c = none := by
    have hn : ':'.toNat = 0x3A := rfl
    rw [hangulSyllable?, if_neg (by omega), if_neg (by omega)]
  rw [compose?, hhangul]
  simp only [Option.map_eq_none_iff]
  rw [← Array.find?_toList, List.find?_eq_none]
  intro e he hresult
  have hrow := List.all_eq_true.1 marks_begin.2 e he
  have hhead : e.result.head? = some ':' := by
    rw [beq_iff_eq.1 hresult]
    rfl
  rw [hhead, Bool.and_eq_true] at hrow
  exact absurd hrow.2 (by decide)

theorem mem_composeFrom {a : Char} {kept : List Char} {top : Nat} (h : ':' ∈ a :: (kept ++ s)) :
    ':' ∈ composeFrom a kept top s := by
  induction s generalizing a kept top with
  | nil =>
    rw [List.append_nil] at h
    exact h
  | cons c s ih =>
    simp only [composeFrom]
    generalize hfree : (kept.isEmpty || decide (top < markClass c)) = free
    cases hcomposed : if free then compose? a c else none with
    | some d =>
      rw [Option.ite_none_right_eq_some] at hcomposed
      obtain ⟨-, hcomposed⟩ := hcomposed
      -- Neither of the two that are composed is a colon.
      have ha : ':' ≠ a := by
        rintro rfl
        rw [compose?_colon] at hcomposed
        cases hcomposed
      have hc : ':' ≠ c := by
        rintro rfl
        have hnone : compose? a ':' = none := compose?_ascii a (by decide)
        rw [hnone] at hcomposed
        cases hcomposed
      have hrest : ':' ∈ kept ++ s := by simpa [ha, hc] using h
      exact ih (List.mem_cons_of_mem d hrest)
    | none =>
      by_cases hclass : markClass c = 0
      · simp only [if_pos hclass]
        rw [← List.cons_append, List.mem_append] at h
        rcases h with h | h
        · exact List.mem_append_left _ h
        · exact List.mem_append_right _ (ih h)
      · simp only [if_neg hclass]
        refine ih ?_
        rw [List.append_assoc]
        exact h

theorem mem_composeOrdered (h : ':' ∈ s) : ':' ∈ composeOrdered s := by
  induction s with
  | nil => exact h
  | cons c s ih =>
    unfold composeOrdered
    split
    · exact mem_composeFrom h
    · rcases List.mem_cons.1 h with rfl | h
      · exact List.mem_cons_self
      · exact List.mem_cons_of_mem c (ih h)

theorem mem_insertMark {c d : Char} (h : d ∈ c :: s) : d ∈ insertMark c s := by
  induction s with
  | nil => exact h
  | cons x s ih =>
    unfold insertMark
    split
    · rw [List.mem_cons, List.mem_cons] at h
      rcases h with rfl | rfl | h
      · exact List.mem_cons_of_mem x (ih List.mem_cons_self)
      · exact List.mem_cons_self
      · exact List.mem_cons_of_mem x (ih (List.mem_cons_of_mem c h))
    · exact h

theorem mem_orderMarks {d : Char} (h : d ∈ s) : d ∈ orderMarks s := by
  induction s with
  | nil => exact h
  | cons c s ih =>
    show d ∈ insertMark c (orderMarks s)
    rcases List.mem_cons.1 h with rfl | h
    · exact mem_insertMark List.mem_cons_self
    · exact mem_insertMark (List.mem_cons_of_mem c (ih h))

theorem mem_composed (h : ':' ∈ s) : ':' ∈ composed s := by
  have hdecompose : ':' ∈ s.flatMap decompose :=
    List.mem_flatMap.2 ⟨':', h, by rw [decompose, if_pos (by decide)]; exact List.mem_cons_self⟩
  exact mem_composeOrdered (mem_orderMarks hdecompose)

end RemoteHost.Text

namespace RemoteHost.Idna

open Text

variable {s t : List Char}

/-! ### Mapping -/

theorem exists_mem_of_mapM {α β : Type} {f : α → Option β} {xs : List α} {ys : List β}
    (h : xs.mapM f = some ys) {x : α} (hx : x ∈ xs) : ∃ y ∈ ys, f x = some y := by
  induction xs generalizing ys with
  | nil => exact absurd hx List.not_mem_nil
  | cons a xs ih =>
    rw [List.mapM_cons] at h
    obtain ⟨y, hy, h⟩ := Option.bind_eq_some_iff.1 h
    obtain ⟨ys', hys, h⟩ := Option.bind_eq_some_iff.1 h
    obtain rfl := Option.some.inj h
    rcases List.mem_cons.1 hx with rfl | hx
    · exact ⟨y, List.mem_cons_self, hy⟩
    · obtain ⟨z, hz, hfz⟩ := ih hys hx
      exact ⟨z, List.mem_cons_of_mem y hz, hfz⟩

/-- A name with a colon becomes one with a colon. -/
theorem mem_map? (h : map? s = some t) (hs : ':' ∈ s) : ':' ∈ t := by
  obtain ⟨parts, hparts, rfl⟩ := Option.map_eq_some_iff.1 h
  obtain ⟨part, hpart, hcolon⟩ := exists_mem_of_mapM hparts hs
  rw [mapChar?_ascii (by decide) (by decide)] at hcolon
  obtain rfl := Option.some.inj hcolon
  exact mem_composed (List.mem_flatten.2 ⟨_, hpart, List.mem_singleton.2 rfl⟩)

/-! ### Labels -/

namespace Punycode

/-- A number has no colon, so one in the text is behind it. -/
theorem mem_of_readNumber {bias place weight sum n : Nat}
    {r : { r : List Char // r.length < s.length }}
    (h : readNumber bias place weight sum s = some (n, r)) (hs : ':' ∈ s) : ':' ∈ r.val := by
  induction s generalizing place weight sum with
  | nil => exact absurd hs List.not_mem_nil
  | cons c s ih =>
    unfold readNumber at h
    cases hdigit : digitOf? c with
    | none =>
      simp only [hdigit] at h
      cases h
    | some d =>
      have hc : ':' ≠ c := by
        rintro rfl
        rw [show digitOf? ':' = none from rfl] at hdigit
        cases hdigit
      have hs' : ':' ∈ s := (List.mem_cons.1 hs).resolve_left hc
      simp only [hdigit] at h
      split at h
      · cases h
      · split at h
        · obtain ⟨rfl, rfl⟩ := Prod.mk.inj (Option.some.inj h)
          exact hs'
        · split at h
          · cases h
          · obtain ⟨⟨m, r'⟩, hr', h⟩ := Option.map_eq_some_iff.1 h
            obtain ⟨rfl, rfl⟩ := Prod.mk.inj h
            exact ih hr' hs'

/-- A colon stays where the decoded characters are put between the others, and there is none in the
numbers that they are read from. -/
theorem mem_of_decodeFrom {n index bias : Nat} {text : List Char}
    (h : decodeFrom n index bias text s = some t) (hcolon : ':' ∈ text ∨ ':' ∈ s) : ':' ∈ t := by
  induction hlen : s.length using Nat.strongRecOn generalizing n index bias text s with
  | ind len ih =>
    rw [decodeFrom] at h
    split at h
    · next hempty =>
      obtain rfl := Option.some.inj h
      rw [List.isEmpty_iff.1 hempty] at hcolon
      exact hcolon.resolve_right List.not_mem_nil
    · split at h
      · cases h
      · next sum rest hnumber =>
        simp only at h
        split at h
        · cases h
        · refine ih _ (hlen ▸ rest.property) h ?_ rfl
          rcases hcolon with htext | hs
          · have hplace : sum % (text.length + 1) ≤ text.length :=
              Nat.le_of_lt_succ (Nat.mod_lt sum (Nat.succ_pos _))
            exact .inl ((List.mem_insertIdx hplace).2 (.inr htext))
          · exact .inr (mem_of_readNumber hnumber hs)

theorem mem_splitLast (hs : ':' ∈ s) : ':' ∈ (splitLast s).1 ∨ ':' ∈ (splitLast s).2 := by
  unfold splitLast
  simp only
  rcases split_at_last '-' s with ⟨-, htail⟩ | ⟨front, tail, heq, -, htail, hfront⟩
  · have hnone : (s.take (s.length - s.length - 1)).isEmpty := by simp
    rw [htail, if_pos hnone]
    exact .inr hs
  · rw [htail, hfront]
    split
    · exact .inr hs
    · rw [heq, List.mem_append, List.mem_cons] at hs
      exact hs.imp_right fun h => h.resolve_left (by decide)

theorem mem_decode? (h : decode? s = some t) (hs : ':' ∈ s) : ':' ∈ t := by
  unfold decode? at h
  simp only at h
  split at h
  · exact mem_of_decodeFrom h (mem_splitLast hs)
  · cases h

theorem mem_encode (hs : ':' ∈ s) : ':' ∈ encode s := by
  have hbasic : ':' ∈ s.filter isBasic := List.mem_filter.2 ⟨hs, rfl⟩
  unfold encode
  exact List.mem_append_left _ (List.mem_append_left _ hbasic)

end Punycode

theorem mem_readLabel? (h : readLabel? s = some t) (hs : ':' ∈ s) : ':' ∈ t := by
  unfold readLabel? at h
  split at h
  · next hmark =>
    obtain ⟨code, rfl⟩ := List.isPrefixOf_iff_prefix.1 hmark
    have hcode : ':' ∈ code := (List.mem_append.1 hs).resolve_left (by decide)
    simp only at h
    split at h
    · cases h
    · split at h
      · next u hdecode =>
        split at h
        · obtain rfl := Option.some.inj h
          exact Punycode.mem_decode? hdecode hcode
        · cases h
      · cases h
  · split at h
    · obtain rfl := Option.some.inj h
      exact hs
    · split at h
      · obtain rfl := Option.some.inj h
        exact hs
      · cases h

theorem mem_writeLabel? (h : writeLabel? s = some t) (hs : ':' ∈ s) : ':' ∈ t := by
  unfold writeLabel? at h
  split at h
  · obtain rfl := Option.some.inj h
    exact hs
  · split at h
    · cases h
    · obtain rfl := Option.some.inj h
      exact List.mem_append_right _ (Punycode.mem_encode hs)

/-! ### Names -/

/-- A character that is not the separator is in the whole where it is in a part. -/
theorem mem_intercalate_singleton {c d : Char} (hc : c ≠ d) (parts : List (List Char)) :
    c ∈ [d].intercalate parts ↔ ∃ part ∈ parts, c ∈ part := by
  induction parts with
  | nil => simp
  | cons part parts ih =>
    cases parts with
    | nil => simp
    | cons part' parts =>
      rw [List.intercalate_cons_cons, List.mem_append, List.mem_append, List.mem_singleton, ih,
        or_iff_left hc]
      simp only [List.mem_cons, exists_eq_or_imp]

/-- A name with a colon has no ASCII form. -/
theorem toAscii?_colon (hs : ':' ∈ s) : toAscii? s = none := by
  rw [Option.eq_none_iff_forall_ne_some]
  intro ascii h
  unfold toAscii? at h
  obtain ⟨mapped, hmapped, h⟩ := Option.bind_eq_some_iff.1 h
  obtain ⟨labels, hlabels, h⟩ := Option.bind_eq_some_iff.1 h
  split at h
  · cases h
  · obtain ⟨written, hwritten, h⟩ := Option.bind_eq_some_iff.1 h
    have hdot : ':' ≠ '.' := by decide
    -- The label with the colon is followed through.
    have hsplit : ':' ∈ ['.'].intercalate (mapped.splitOn '.') := by
      rw [List.intercalate_splitOn]
      exact mem_map? hmapped hs
    obtain ⟨piece, hpiece, hcolon⟩ := (mem_intercalate_singleton hdot _).1 hsplit
    obtain ⟨label, hlabel, hread⟩ := exists_mem_of_mapM hlabels hpiece
    obtain ⟨code, hcode, hwrite⟩ := exists_mem_of_mapM hwritten hlabel
    have hjoined : ':' ∈ ['.'].intercalate written := (mem_intercalate_singleton hdot _).2
      ⟨code, hcode, mem_writeLabel? hwrite (mem_readLabel? hread hcolon)⟩
    have hreserved : (['.'].intercalate written).any isReserved :=
      List.any_eq_true.2 ⟨':', hjoined, by decide⟩
    simp only [hreserved, if_true] at h
    cases h

end RemoteHost.Idna

namespace RemoteHost.Url

open Text

/-! ### Bytes of names -/

theorem hexDigit?_colon : hexDigit? 0x3A = none := rfl

/-- No encoded byte has the byte of a colon in it, so the byte stays. -/
theorem mem_percentDecodeFrom {k : Nat} {bytes : Bytes} (h : 0x3A ∈ bytes.drop k) :
    0x3A ∈ percentDecodeFrom k bytes := by
  induction bytes generalizing k with
  | nil => simp at h
  | cons b r ih =>
    cases k with
    | succ k => exact ih h
    | zero =>
      rw [List.drop_zero] at h
      rw [percentDecodeFrom]
      split
      · next c hencoded =>
        obtain ⟨_, hb, hencoded⟩ := Option.bind_eq_some_iff.1 hencoded
        obtain ⟨x, hx, hencoded⟩ := Option.bind_eq_some_iff.1 hencoded
        obtain ⟨high, hhigh, hencoded⟩ := Option.bind_eq_some_iff.1 hencoded
        obtain ⟨y, hy, hencoded⟩ := Option.bind_eq_some_iff.1 hencoded
        obtain ⟨low, hlow, -⟩ := Option.bind_eq_some_iff.1 hencoded
        have hb : 0x3A ≠ b := by
          rintro rfl
          have hguard : (guard ((0x3A : UInt8) = 0x25) : Option Unit) = none := by decide
          rw [hguard] at hb
          cases hb
        have hne {z : UInt8} {value : Nat} (hz : hexDigit? z = some value) : 0x3A ≠ z := by
          rintro rfl
          rw [hexDigit?_colon] at hz
          cases hz
        -- What is decoded are the two digits behind the sign.
        have hr : 0x3A ∈ r := (List.mem_cons.1 h).resolve_left hb
        have hrest : 0x3A ∈ r.drop 2 := by
          match r, hx, hy with
          | x' :: y' :: r', hx, hy =>
            obtain rfl := Option.some.inj hx
            obtain rfl := Option.some.inj hy
            have hr := (List.mem_cons.1 hr).resolve_left (hne hhigh)
            exact (List.mem_cons.1 hr).resolve_left (hne hlow)
        exact List.mem_cons_of_mem c (ih hrest)
      · rcases List.mem_cons.1 h with rfl | h
        · exact List.mem_cons_self
        · exact List.mem_cons_of_mem b (ih (by rwa [List.drop_zero]))

/-- The byte of a colon is read as a colon, and it goes along with no other byte. -/
theorem mem_decodeFrom {k : Nat} {bytes : Bytes} {s : List Char}
    (h : Utf8.decodeFrom k bytes = some s) (hcolon : 0x3A ∈ bytes.drop k) : ':' ∈ s := by
  induction bytes generalizing k s with
  | nil => simp at hcolon
  | cons b r ih =>
    cases k with
    | succ k => exact ih h hcolon
    | zero =>
      rw [List.drop_zero] at hcolon
      rw [Utf8.decodeFrom] at h
      split at h
      · next c k hfirst =>
        obtain ⟨s', hs', rfl⟩ := Option.map_eq_some_iff.1 h
        rcases List.mem_cons.1 hcolon with rfl | hr
        · rw [Utf8.first_one (by decide)] at hfirst
          obtain ⟨hc, -⟩ := Prod.mk.inj hfirst
          obtain rfl := Option.some.inj hc
          exact List.mem_cons_self
        · have hdrop : 0x3A ∈ r.drop k := by
            rw [← List.take_append_drop k r, List.mem_append] at hr
            refine hr.resolve_left fun htake => ?_
            have hk : k = (Utf8.first b r).2 := by rw [hfirst]
            rw [hk] at htake
            exact absurd (Utf8.isContinuation_of_mem_take htake) (by decide)
          exact List.mem_cons_of_mem c (ih hs' hdrop)
      · cases h

/-- A name with a colon stands for no host. -/
theorem Host.ofName_colon {s : List Char} (hs : ':' ∈ s) (h : Host) : Host.ofName s ≠ .ok h := by
  intro hok
  have hbytes : 0x3A ∈ Utf8.encodeChars s :=
    List.mem_flatMap.2 ⟨':', hs, by decide⟩
  have hdecoded : 0x3A ∈ percentDecode (Utf8.encodeChars s) :=
    mem_percentDecodeFrom (by rwa [List.drop_zero])
  unfold Host.ofName at hok
  cases htext : Utf8.decode? (percentDecode (Utf8.encodeChars s)) with
  | none =>
    rw [htext] at hok
    cases hok
  | some text =>
    obtain ⟨chars, hchars, rfl⟩ := Option.map_eq_some_iff.1 htext
    have hcolon : ':' ∈ (String.ofList chars).toList := by
      rw [String.toList_ofList]
      exact mem_decodeFrom hchars (by rwa [List.drop_zero])
    rw [htext] at hok
    simp only [Idna.toAscii?_colon hcolon] at hok
    cases hok

/-- A host has a colon only in brackets. -/
theorem Host.ofText_colon {s : List Char} {h : Host} (hs : ':' ∈ s) (hok : Host.ofText s = .ok h) :
    s.getLast? = some ']' := by
  unfold Host.ofText at hok
  split at hok
  · exact absurd hs List.not_mem_nil
  · next r =>
    split at hok
    · next hlast =>
      rw [List.getLast?_cons, hlast]
      rfl
    · cases hok
  · exact absurd hok (Host.ofName_colon hs h)

end RemoteHost.Url

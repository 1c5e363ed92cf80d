/-
RemoteHost/Proofs/Winrm/CommandLimit.lean

The command lines of a copy are short enough.

A script of a copy is as wide as its fixed text, the path in each place where it stands, and the
chunk in base64 (`width_prepareScript`, `width_appendScript`, `width_verifyScript`).  The width of
the script decides about the length of its command line (`fits_command_iff`).  For all paths within
the limit of the host, the chunks may have up to 1794 bytes (`lines_fit_iff`); the usual copier
makes them 1536 bytes long.
-/
import RemoteHost.Proofs.PowerShell.CommandLine
import RemoteHost.Proofs.Winrm.CopyRemote

namespace RemoteHost.Winrm

open PowerShell Utf16

namespace FileCopy

/-! ### The width of scripts -/

/-- The width of what stands between the literals, script by script. -/
theorem textWidths :
    [prepareForm "", appendForm "" [], verifyForm ""].map (fun p => (p.texts.map width).sum) =
      [253, 113, 42] := by
  decide +kernel

theorem width_quote_opening : width (quote opening.2) = 18 := by decide

theorem width_prepareScript (destination : String) :
    width (preamble ++ (prepare destination).script) = 271 + 4 * width (quote destination) := by
  have htexts : ((prepareForm destination).texts.map width).sum = 253 :=
    (List.cons.inj textWidths).1
  have hvalues : ((prepareForm destination).fills.map fun f => width (quote f.2)).sum =
      18 + 4 * width (quote destination) := by
    simp only [prepareForm, List.map_cons, List.map_nil, List.sum_cons, List.sum_nil,
      width_quote_opening]
    omega
  rw [render_prepareForm, width_render, htexts, hvalues, ← Nat.add_assoc]

theorem width_quote_encode (bytes : Bytes) :
    width (quote (Base64.encode bytes)) = 2 + 4 * ((bytes.length + 2) / 3) := by
  have hbasic : ∀ c ∈ Base64.encodeChars bytes, c.toNat < 0x10000 := fun c hc =>
    Nat.lt_trans (Base64.ascii_of_mem_encodeChars hc) (by decide)
  rw [width_quote, width, Base64.toList_encode,
    List.count_eq_zero_of_not_mem (quote_not_mem_encodeChars bytes),
    length_units_of_basic hbasic, Base64.length_encodeChars, Nat.add_zero]

theorem width_appendScript (destination : String) (chunk : Bytes × Nat) :
    width (preamble ++ (append destination chunk).script) =
      133 + 4 * ((chunk.1.length + 2) / 3) + width (quote destination) := by
  have htexts : ((appendForm destination chunk.1).texts.map width).sum = 113 :=
    (List.cons.inj (List.cons.inj textWidths).2).1
  have hvalues : ((appendForm destination chunk.1).fills.map fun f => width (quote f.2)).sum =
      20 + 4 * ((chunk.1.length + 2) / 3) + width (quote destination) := by
    simp only [appendForm, List.map_cons, List.map_nil, List.sum_cons, List.sum_nil,
      width_quote_opening, width_quote_encode]
    omega
  rw [render_appendForm, width_render, htexts, hvalues]
  omega

theorem width_verifyScript (destination : String) :
    width (preamble ++ (verify destination).script) = 60 + width (quote destination) := by
  have htexts : ((verifyForm destination).texts.map width).sum = 42 :=
    (List.cons.inj (List.cons.inj (List.cons.inj textWidths).2).2).1
  have hvalues : ((verifyForm destination).fills.map fun f => width (quote f.2)).sum =
      18 + width (quote destination) := by
    simp only [verifyForm, List.map_cons, List.map_nil, List.sum_cons, List.sum_nil,
      width_quote_opening, Nat.add_zero]
  rw [render_verifyForm, width_render, htexts, hvalues, ← Nat.add_assoc]

/-! ### The length of command lines -/

/-- Windows takes command lines that have fewer characters than this. -/
def lineLimit : Nat := 8191

/-- Windows takes paths of so many code units. -/
def pathLimit : Nat := 260

/-- The command line is not too long.  Its characters are one code unit each, so it does not matter
which of them are counted. -/
def Fits (command : String × List String) : Prop :=
  (commandLine command).length < lineLimit ∧
    width (commandLine command) = (commandLine command).length

/-- The width of the script decides. -/
theorem fits_command_iff {s : Step} :
    Fits s.command ↔ width (preamble ++ s.script) ≤ 3049 := by
  have hbasic : ∀ c ∈ (commandLine s.command).toList, c.toNat < 0x10000 := fun c hc =>
    Nat.lt_trans (ascii_of_mem_commandLine s.script c hc) (by decide)
  have hlength : (commandLine s.command).length =
      58 + 4 * ((2 * width (preamble ++ s.script) + 2) / 3) := length_commandLine s.script
  rw [Fits, and_iff_left (width_eq_length hbasic), hlength, lineLimit]
  omega

theorem fits_of_mem_plan {size : Nat} {data : Bytes} {destination : String} {s : Step}
    (hsize : size ≤ 1794) (hpath : width destination ≤ pathLimit)
    (hs : s ∈ plan size data destination) : Fits s.command := by
  have hquote : width (quote destination) ≤ 522 :=
    (width_quote_le destination).trans (by rw [pathLimit] at hpath; omega)
  rw [plan, List.cons_append, List.mem_cons, List.mem_append, List.mem_map,
    List.mem_singleton] at hs
  rw [fits_command_iff]
  rcases hs with rfl | ⟨chunk, hchunk, rfl⟩ | rfl
  · rw [width_prepareScript]
    omega
  · have hlength : chunk.1.length ≤ size :=
      length_le_of_mem_pieces (List.fst_mem_of_mem_zipIdx hchunk)
    rw [width_appendScript]
    omega
  · rw [width_verifyScript]
    omega

/-- Data that is no longer than a chunk is appended by one script. -/
theorem append_mem_plan {size : Nat} {data : Bytes} (hne : data ≠ []) (h : data.length ≤ size)
    (destination : String) : append destination (data, 0) ∈ plan size data destination := by
  rw [plan, chunks_eq_singleton hne h]
  exact List.mem_cons_of_mem _ (List.mem_append_left _ List.mem_cons_self)

/-- The path that gets widest: nothing but apostrophes. -/
def widestPath : String := String.ofList (List.replicate pathLimit '\'')

theorem width_widestPath : width widestPath = pathLimit := by
  have hbasic : ∀ c ∈ List.replicate pathLimit '\'', c.toNat < 0x10000 := fun c hc => by
    rw [List.eq_of_mem_replicate hc]
    decide
  rw [width, widestPath, String.toList_ofList, length_units_of_basic hbasic,
    List.length_replicate]

theorem width_quote_widestPath : width (quote widestPath) = 522 := by
  rw [width_quote, width_widestPath, widestPath, String.toList_ofList, List.count_replicate_self]
  rfl

/-- The scripts of all copies to paths within the limit fit just where chunks have at most 1794
bytes. -/
theorem lines_fit_iff {size : Nat} :
    (∀ data destination, width destination ≤ pathLimit →
      ∀ s ∈ plan size data destination, Fits s.command) ↔ size ≤ 1794 := by
  constructor
  · intro h
    by_contra hsize
    -- a chunk of this size is too much for the widest path
    have hne : List.replicate size (0 : UInt8) ≠ [] := by
      rw [Ne, List.replicate_eq_nil_iff]
      omega
    have hmem := append_mem_plan hne List.length_replicate.le widestPath
    have hfits := h _ _ width_widestPath.le _ hmem
    rw [fits_command_iff, width_appendScript, width_quote_widestPath,
      List.length_replicate] at hfits
    omega
  · intro hsize data destination hpath s hs
    exact fits_of_mem_plan hsize hpath hs

end FileCopy

namespace Copier

open FileCopy

variable {σ ω : Type}

/-- **No command line is too long.**  The usual copier copies data to a path within the limit of
the host.  Then the command lines of all its scripts stay below the limit of the command
interpreter: of the one that makes a file, of those that append a chunk and of the one that reads
the size.  Whatever the outside answers, no others are run.  The chunks leave some room: they could
be longer, up to 1794 bytes and no further. -/
theorem command_lines_fit (service : σ) (data : Bytes) {destination : String}
    (hpath : width destination ≤ pathLimit) (answer : (x : ShellCall σ) → ω → x.Reply × ω) (w : ω) :
    let c := Copier.ofService service
    (∀ s ∈ plan c.chunkSize data destination, Fits s.command) ∧
    (∀ command ∈ commandsOf ((c.copy data destination).play answer w).exchanges, Fits command) ∧
    ∀ size, (∀ data destination, width destination ≤ pathLimit →
      ∀ s ∈ plan size data destination, Fits s.command) ↔ size ≤ 1794 := by
  intro c
  have hfits : ∀ s ∈ plan c.chunkSize data destination, Fits s.command := fun s =>
    fits_of_mem_plan (show 1536 ≤ 1794 by decide) hpath
  refine ⟨hfits, fun command hcommand => ?_, fun size => lines_fit_iff⟩
  obtain ⟨r, hr⟩ := (returns_copy (c := c) data destination).play answer w
  have hcommands := commandsOf_copy_prefix (Dialogue.runs_of_play hr)
  obtain ⟨s, hs, rfl⟩ := List.mem_map.1 (hcommands.subset hcommand)
  exact hfits s hs

/-- A full chunk for a path of 260 apostrophes: its line has 7266 characters. -/
theorem command_lines_fit_widest :
    let data : Bytes := List.replicate 1536 0
    width widestPath ≤ pathLimit ∧ (∀ s ∈ plan 1536 data widestPath, Fits s.command) ∧
      append widestPath (data, 0) ∈ plan 1536 data widestPath ∧
      (commandLine (append widestPath (data, 0)).command).length = 7266 := by
  intro data
  have hpath : width widestPath ≤ pathLimit := width_widestPath.le
  have hlength : data.length = 1536 := List.length_replicate
  have hne : data ≠ [] := List.ne_nil_of_length_pos (by rw [hlength]; decide)
  refine ⟨hpath, (command_lines_fit () data hpath (FileHost.answer Unit) {}).1,
    append_mem_plan hne hlength.le widestPath, ?_⟩
  refine (length_commandLine _).trans ?_
  rw [width_appendScript, width_quote_widestPath, hlength]

end Copier

end RemoteHost.Winrm

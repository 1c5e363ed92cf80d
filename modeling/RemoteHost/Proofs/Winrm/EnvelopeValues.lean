/-
RemoteHost/Proofs/Winrm/EnvelopeValues.lean

What a reader of XML finds in the envelopes of requests.

An envelope is read as the tree of its layout (`read_envelope`).  So each value comes out as it went
in, in an element or an attribute of its own, and the tags are those of the same request with
nothing in the place of its values (`envelope_carries_its_values`).
-/
import RemoteHost.Proofs.Winrm.EnvelopeLayout
import RemoteHost.Uuid

namespace RemoteHost.Winrm.Request

open Xml

/-! ### Reading envelopes -/

/-- The tags of an envelope are well formed, whatever its values are. -/
theorem sound_layout (r : Request) (endpoint timeout messageId : String) :
    (r.layout endpoint timeout messageId).sound := by
  -- No value takes part in this, so the tags of each part are gone through as they are.
  have hheader : (r.headerLayout endpoint timeout messageId).sound := by
    unfold headerLayout subjectLayout
    cases r.shell? <;>
      simp only [Layout.sound, Layout.soundAll, mandatory, List.map_cons, List.map_nil,
        List.isEmpty_cons] <;>
      decide +kernel
  have hbody : r.bodyLayout.sound := by
    cases r with
    | runCommand shell command arguments =>
      have harguments : Layout.soundAll (arguments.map (.leaf "rsp:Arguments" [])) :=
        Layout.soundAll_leaves (by decide +kernel) arguments
      have hlast : (if arguments.isEmpty then "\n        \n      "
          else "\n      ").toList.all isBlank := by split <;> decide +kernel
      simp only [bodyLayout, fullBody, commandLayout, Layout.sound, Layout.soundAll, List.map_nil,
        List.isEmpty_cons, hlast, harguments]
      decide +kernel
    | _ =>
      simp only [bodyLayout, fullBody, Layout.sound, Layout.soundAll, List.map_cons, List.map_nil,
        List.isEmpty_cons]
      decide +kernel
  simp only [layout, namespaces, Layout.sound, Layout.soundAll, hheader, hbody, List.map_cons,
    List.map_nil, List.isEmpty_cons]
  decide +kernel

/-- An envelope as a tree. -/
def document (r : Request) (endpoint timeout messageId : String) : Element :=
  (r.layout endpoint timeout messageId).tree

/-- An envelope is read as its tree. -/
theorem read_envelope (r : Request) {endpoint timeout messageId : String} (htimeout : plain timeout)
    (hid : plain ("uuid:" ++ messageId)) :
    Xml.read (r.envelope endpoint timeout messageId) =
      some (r.document endpoint timeout messageId) := by
  rw [r.envelope_eq htimeout hid]
  exact read_document (r.sound_layout endpoint timeout messageId) rfl

/-! ### Values -/

/-- The command that is run. -/
def command? : Request → Option String
  | runCommand _ command _ => some command
  | _ => none

/-- The arguments of the command that is run. -/
def arguments : Request → List String
  | runCommand _ _ arguments => arguments
  | _ => []

/-- The command that a request is about when it has been begun before. -/
def commandId? : Request → Option String
  | receiveOutput _ command => some command
  | terminateCommand _ command => some command
  | _ => none

/-- The request with nothing in the place of each of its values. -/
def blank : Request → Request
  | createShell => createShell
  | deleteShell _ => deleteShell ""
  | runCommand _ _ arguments => runCommand "" "" (arguments.map fun _ => "")
  | receiveOutput _ _ => receiveOutput "" ""
  | terminateCommand _ _ => terminateCommand "" ""

/-- The tags of an envelope do not depend on the values in it. -/
theorem tags_document (r : Request) (endpoint timeout messageId endpoint' : String) :
    (r.document endpoint timeout messageId).tags =
      (r.blank.document endpoint' timeout messageId).tags := by
  cases r <;>
    simp only [blank, document, layout, headerLayout, subjectLayout, shell?, bodyLayout, fullBody,
      commandLayout, Layout.tree, Layout.trees, Layout.trees_leaves, Element.tags, Element.tagsOf,
      Element.tagsOf_leaves, List.map_cons, List.map_nil, List.map_const', List.length_replicate]

/-- The selector of an envelope holds the shell that the request is about. -/
theorem selectors_document (r : Request) (endpoint timeout messageId : String) :
    (((r.document endpoint timeout messageId).named "w:Selector").map fun x => x.text?) =
      r.shell?.toList.map some := by
  cases r <;>
    simp [document, layout, headerLayout, subjectLayout, shell?, bodyLayout, fullBody,
      commandLayout, mandatory, namespaces, Element.named, List.filter_map, Function.comp_def]

/-- The attributes with the name of a command hold the command that the request is about. -/
theorem commandIds_document (r : Request) (endpoint timeout messageId : String) :
    (r.document endpoint timeout messageId).values "CommandId" = r.commandId?.toList := by
  cases r <;>
    simp [document, layout, headerLayout, subjectLayout, shell?, bodyLayout, fullBody,
      commandLayout, mandatory, namespaces, commandId?, Element.values]

/-! ### Times and identifiers -/

theorem plain_timeout (seconds : Nat) : plain ("PT" ++ toString seconds ++ "S") := by
  have hreserved : reserved.all fun c => !c.isDigit := by decide
  have hdigits : plain (toString seconds) := by
    rw [plain_iff, Nat.toString_eq_ofList_toDigits, String.toList_ofList]
    intro c hc hmem
    have hdigit := Nat.isDigit_of_mem_toDigits (by decide) (by decide) hc
    have hnot := List.all_eq_true.1 hreserved c hmem
    rw [hdigit] at hnot
    cases hnot
  exact plain_append (plain_append rfl hdigits) rfl

/-- An identifier is made up of digits and hyphens. -/
theorem mem_ofRandom {random : Bytes} {c : Char} (h : c ∈ (Uuid.ofRandom random).toList) :
    c = '-' ∨ c ∈ Uuid.digits (Uuid.marked random) := by
  simp only [Uuid.ofRandom, String.toList_ofList, List.mem_append, List.mem_cons] at h
  obtain (((h | rfl | h) | rfl | h) | rfl | h) | rfl | h := h
  · exact .inr (List.mem_of_mem_take h)
  · exact .inl rfl
  · exact .inr (List.mem_of_mem_drop (List.mem_of_mem_take h))
  · exact .inl rfl
  · exact .inr (List.mem_of_mem_drop (List.mem_of_mem_take h))
  · exact .inl rfl
  · exact .inr (List.mem_of_mem_drop (List.mem_of_mem_take h))
  · exact .inl rfl
  · exact .inr (List.mem_of_mem_drop h)

theorem plain_messageId (random : Bytes) : plain ("uuid:" ++ Uuid.ofRandom random) := by
  have hdigits : ∀ n < 256, plain (String.ofList (Uuid.digits [UInt8.ofNat n])) := by
    decide +kernel
  -- The octets of an identifier are written one by one, and there are not many of them.
  refine plain_append rfl (plain_iff.2 fun c hc => ?_)
  rcases mem_ofRandom hc with rfl | hc
  · decide
  · rw [Uuid.digits, List.mem_flatMap] at hc
    obtain ⟨x, -, hx⟩ := hc
    have hplain := plain_iff.1 (hdigits x.toNat x.toNat_lt) c
    rw [String.toList_ofList, UInt8.ofNat_toNat] at hplain
    exact hplain (by rw [Uuid.digits, List.flatMap_singleton]; exact hx)

/-- **An envelope carries its values and nothing else.**  Whatever the endpoint, the shell, the
command and its arguments are, a reader of XML finds each of them in its place and nowhere else,
and finds no tag and no attribute that is not there when they are empty.  What a new shell is like
stands once in the envelope that asks for it, in the header. -/
theorem envelope_carries_its_values (r : Request) (endpoint : String) (seconds : Nat)
    (random : Bytes) :
    let timeout := "PT" ++ toString seconds ++ "S"
    let id := Uuid.ofRandom random
    let d := r.document endpoint timeout id
    let optionSets := if r = createShell then 1 else 0
    Xml.read (r.envelope endpoint timeout id) = some d ∧
      (∃ d₀, Xml.read (r.blank.envelope "" timeout id) = some d₀ ∧ d.tags = d₀.tags) ∧
      d.texts "a:To" = [some endpoint] ∧
      d.texts "w:OperationTimeout" = [some timeout] ∧
      d.texts "rsp:Command" = r.command?.toList.map some ∧
      d.texts "rsp:Arguments" = r.arguments.map some ∧
      ((d.named "w:Selector").map fun x => (x.attributes, x.text?)) =
        (r.shell?.toList.map fun shell => ([("Name", "ShellId")], some shell)) ∧
      d.values "CommandId" = r.commandId?.toList ∧
      (d.named "w:OptionSet").length = optionSets ∧
      ((d.named "s:Header").map fun h => (h.named "w:OptionSet").length) = [optionSets] := by
  intro timeout id d optionSets
  have htimeout : plain timeout := plain_timeout seconds
  have hid : plain ("uuid:" ++ id) := plain_messageId random
  refine ⟨r.read_envelope htimeout hid,
    ⟨_, r.blank.read_envelope htimeout hid, r.tags_document endpoint timeout id ""⟩, ?_⟩
  -- The tree is known, so its elements are looked through.
  cases r <;>
    simp [d, optionSets, document, layout, headerLayout, subjectLayout, shell?, bodyLayout,
      fullBody, commandLayout, mandatory, namespaces, command?, arguments, commandId?,
      Element.texts, Element.named, Element.values, List.filter_map, Function.comp_def]

end RemoteHost.Winrm.Request

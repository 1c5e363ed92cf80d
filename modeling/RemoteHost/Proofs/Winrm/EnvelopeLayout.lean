/-
RemoteHost/Proofs/Winrm/EnvelopeLayout.lean

The envelopes of requests are texts of layouts (`envelope_eq`).

The endpoint, the time, the shell, the command and its arguments stand in a layout as texts or as
values of attributes.  The header of a request for a new shell is finished by a replacement of its
end, and the end is found nowhere but there (`sentHeader_eq`): it begins with a tag, and no value
can hold one.
-/
import RemoteHost.Proofs.Xml.Layout
import RemoteHost.Winrm.Envelope

namespace RemoteHost.Winrm.Request

open Xml

/-! ### The end of the header -/

/-- The text of the last element of a header. -/
def subjectText (r : Request) : String := (r.shell?.map selector).getD options

set_option maxRecDepth 2000 in
/-- The end of a header is not found in front of it. -/
theorem quiet_headerTop (endpoint : String) {timeout messageId : String}
    (htimeout : '<' ∉ timeout.toList) (hid : '<' ∉ messageId.toList) :
    Text.quiet headerEnd.toList (createShell.headerTop endpoint timeout messageId).toList := by
  have hendpoint : '<' ∉ (escape endpoint).toList := not_mem_escape (by decide) endpoint
  -- To make the equations of a definition with long literals takes too long.
  delta headerTop
  simp only [String.toList_append, List.append_assoc]
  -- Where a value is not known, the tag behind it fences it.
  refine Text.quiet_append (Text.quiet_ofList (by decide +kernel)) ?_
  refine Text.quiet_append_fences (Text.fences_ofList (by decide +kernel)) hendpoint ?_
  refine Text.quiet_append (by decide +kernel) ?_
  refine Text.quiet_append (Text.quiet_ofList (by decide +kernel)) ?_
  refine Text.quiet_append (by decide +kernel) ?_
  refine Text.quiet_append (Text.quiet_ofList (by decide +kernel)) ?_
  refine Text.quiet_append_fences (Text.fences_ofList (by decide +kernel)) hid ?_
  refine Text.quiet_append (by decide +kernel) ?_
  refine Text.quiet_append (Text.quiet_ofList (by decide +kernel)) ?_
  have hend : Text.quiet headerEnd.toList
      (timeout.toList ++ ("</w:OperationTimeout>".toList ++ [])) :=
    Text.quiet_append_fences (by decide +kernel) htimeout rfl
  rwa [List.append_nil] at hend

/-- What a new shell is like stands in its header where the shell stands in those of other
requests. -/
theorem sentHeader_eq (r : Request) {endpoint timeout messageId : String}
    (htimeout : '<' ∉ timeout.toList) (hid : '<' ∉ messageId.toList) :
    r.sentHeader endpoint timeout messageId =
      r.headerTop endpoint timeout messageId ++ (r.subjectText ++ headerEnd) := by
  cases r with
  | createShell =>
    have hquiet := quiet_headerTop endpoint htimeout hid
    rw [sentHeader, header, shell?, Option.map_none, Option.getD_none, String.append_empty]
    exact Text.replace_append_self (by simp [headerEnd]) hquiet (options ++ headerEnd)
  | _ => exact String.append_assoc

/-! ### Layouts of envelopes -/

/-- The namespaces of an envelope. -/
def namespaces : List (String × String) :=
  [("xmlns:s", Protocol.soap), ("xmlns:a", Protocol.addressing),
    ("xmlns:w", Protocol.management), ("xmlns:rsp", Protocol.shell)]

/-- The attribute of an element that has to be understood. -/
def mandatory : List (String × String) := [("s:mustUnderstand", "true")]

/-- The last element of a header. -/
def subjectLayout (r : Request) : Layout :=
  match r.shell? with
  | some shell =>
    .node "w:SelectorSet" [] "\n        " [.leaf "w:Selector" [("Name", "ShellId")] shell]
      "\n      "
  | none =>
    .node "w:OptionSet" [] "\n        "
      [.leaf "w:Option" [("Name", "WINRS_NOPROFILE")] "FALSE",
        .leaf "w:Option" [("Name", "WINRS_CODEPAGE")] "65001"]
      "\n      "

/-- The header of an envelope. -/
def headerLayout (r : Request) (endpoint timeout messageId : String) : Layout :=
  .node "s:Header" [] "\n      "
    [.leaf "a:To" [] endpoint,
      .leaf "a:Action" mandatory r.action,
      .leaf "w:ResourceURI" mandatory Protocol.commandShell,
      .leaf "a:MessageID" [] ("uuid:" ++ messageId),
      .node "a:ReplyTo" [] "\n        "
        [.leaf "a:Address" mandatory (Protocol.addressing ++ "/role/anonymous")] "\n      ",
      .leaf "w:MaxEnvelopeSize" mandatory "153600",
      .empty "w:Locale" [("xml:lang", "en-US"), ("s:mustUnderstand", "false")],
      .leaf "w:OperationTimeout" [] timeout,
      r.subjectLayout]
    "\n    "

/-- The elements of a command. -/
def commandLayout (command : String) (arguments : List String) : Layout :=
  .node "rsp:CommandLine" [] "\n        "
    (.leaf "rsp:Command" [] command :: arguments.map (.leaf "rsp:Arguments" []))
    (if arguments.isEmpty then "\n        \n      " else "\n      ")

/-- The body of an envelope with something in it. -/
def fullBody (content : Layout) : Layout := .node "s:Body" [] "\n      " [content] "\n    "

/-- The body of an envelope.  There is nothing in it when a shell is deleted. -/
def bodyLayout : Request → Layout
  | createShell =>
    fullBody (.node "rsp:Shell" [] "\n        "
      [.leaf "rsp:InputStreams" [] "stdin", .leaf "rsp:OutputStreams" [] "stdout stderr"]
      "\n      ")
  | deleteShell _ => .leaf "s:Body" [] "\n      \n    "
  | runCommand _ command arguments => fullBody (commandLayout command arguments)
  | receiveOutput _ command =>
    fullBody (.node "rsp:Receive" [] "\n        "
      [.leaf "rsp:DesiredStream" [("CommandId", command)] "stdout stderr"] "\n      ")
  | terminateCommand _ command =>
    fullBody (.node "rsp:Signal" [("CommandId", command)] "\n        "
      [.leaf "rsp:Code" [] Protocol.terminate] "\n      ")

/-- An envelope. -/
def layout (r : Request) (endpoint timeout messageId : String) : Layout :=
  .node "s:Envelope" namespaces "\n    "
    [r.headerLayout endpoint timeout messageId, r.bodyLayout] "\n"

/-! ### The text of a layout -/

/-- The texts and values of attributes that stand in every envelope of a kind. -/
def constants : List String :=
  [Protocol.soap, Protocol.addressing, Protocol.management, Protocol.shell, Protocol.commandShell,
    Protocol.terminate, Protocol.addressing ++ "/role/anonymous",
    "http://schemas.xmlsoap.org/ws/2004/09/transfer/Create",
    "http://schemas.xmlsoap.org/ws/2004/09/transfer/Delete", Protocol.shell ++ "/Command",
    Protocol.shell ++ "/Receive", Protocol.shell ++ "/Signal", "true", "false", "en-US", "153600",
    "ShellId", "WINRS_NOPROFILE", "FALSE", "WINRS_CODEPAGE", "65001", "stdin", "stdout stderr",
    "\n      \n    "]

theorem plain_constants : constants.all plain := by
  delta constants Protocol.terminate Protocol.commandShell Protocol.soap Protocol.addressing
    Protocol.management Protocol.shell
  simp only [List.all_cons, List.all_nil, plain, String.toList_append]
  -- A literal is a list of characters, so it is opened here without being decoded.
  repeat rw [String.toList_ofList]
  decide +kernel

theorem escape_constant {s : String} (h : s ∈ constants) : escape s = s :=
  escape_of_plain (List.all_eq_true.1 plain_constants s h)

theorem escape_action (r : Request) : escape r.action = r.action :=
  escape_constant (by cases r <;> simp [constants, action])

theorem toList_subjectText (r : Request) :
    r.subjectText.toList = "\n      ".toList ++ r.subjectLayout.write := by
  unfold subjectText subjectLayout
  cases r.shell? with
  | none =>
    rw [Option.map_none, Option.getD_none]
    delta options
    simp (disch := (unfold constants; simp)) only [escape_constant, Layout.write, Layout.writeAll,
      startText, endText, attributeText, List.flatMap_cons, List.flatMap_nil, List.append_assoc]
    repeat rw [String.toList_ofList]
    simp only [List.cons_append, List.nil_append]
  | some shell =>
    rw [Option.map_some, Option.getD_some]
    delta selector
    simp (disch := (unfold constants; simp)) only [escape_constant, Layout.write, Layout.writeAll,
      startText, endText, attributeText, List.flatMap_cons, List.flatMap_nil,
      String.toList_append, List.append_assoc]
    repeat rw [String.toList_ofList]
    simp only [List.cons_append, List.nil_append, List.append_assoc]

set_option maxRecDepth 2000 in
theorem toList_header (r : Request) (endpoint : String) {timeout messageId : String}
    (htimeout : plain timeout) (hid : plain ("uuid:" ++ messageId)) :
    (r.headerTop endpoint timeout messageId ++ (r.subjectText ++ headerEnd)).toList =
      (r.headerLayout endpoint timeout messageId).write := by
  delta headerTop headerEnd
  simp (disch := (unfold constants; simp)) only [escape_constant, escape_of_plain htimeout,
    escape_of_plain hid, escape_action, headerLayout, mandatory, toList_subjectText, Layout.write,
    Layout.writeAll, startText, endText, attributeText, List.flatMap_cons, List.flatMap_nil,
    String.toList_append, List.append_assoc]
  repeat rw [String.toList_ofList]
  simp only [List.cons_append, List.nil_append, List.append_assoc]

/-- An argument stands on a line of its own. -/
theorem writeAll_arguments (a : String) (arguments : List String) :
    Layout.writeAll "\n        " ((a :: arguments).map (.leaf "rsp:Arguments" [])) =
      "\n        ".toList ++ (argumentElements (a :: arguments)).toList := by
  have hwrite : ∀ b, (Layout.leaf "rsp:Arguments" [] b).write =
      ("<rsp:Arguments>" ++ escape b ++ "</rsp:Arguments>").toList := by
    intro b
    simp only [Layout.write, startText, endText, List.flatMap_nil, String.toList_append,
      List.append_assoc]
    repeat rw [String.toList_ofList]
    simp only [List.cons_append, List.nil_append]
  rw [argumentElements, List.map_cons, List.map_cons, Layout.writeAll]
  induction arguments generalizing a with
  | nil =>
    rw [List.map_nil, List.map_nil, String.intercalate_singleton, Layout.writeAll, hwrite,
      List.append_nil]
  | cons b arguments ih =>
    rw [List.map_cons, List.map_cons, String.intercalate_cons_cons, Layout.writeAll, ih b, hwrite]
    simp only [String.toList_append, List.append_assoc]

/-- Behind the arguments the line of the end tag begins, on which they begin if there are none. -/
theorem toList_arguments (arguments : List String) (t : List Char) :
    "\n        ".toList ++ ((argumentElements arguments).toList ++ ("\n      ".toList ++ t)) =
      Layout.writeAll "\n        " (arguments.map (.leaf "rsp:Arguments" [])) ++
        ((if arguments.isEmpty then "\n        \n      " else "\n      ").toList ++ t) := by
  cases arguments with
  | nil =>
    rw [argumentElements, List.map_nil, String.intercalate_nil, List.isEmpty_nil, if_pos rfl]
    repeat rw [String.toList_ofList]
    rfl
  | cons a arguments =>
    rw [writeAll_arguments, List.isEmpty_cons, if_neg Bool.false_ne_true, List.append_assoc]

theorem toList_body (r : Request) (t : List Char) :
    "\n    <s:Body>\n      ".toList ++ (r.body.toList ++ ("\n    </s:Body>".toList ++ t)) =
      "\n    ".toList ++ (r.bodyLayout.write ++ t) := by
  delta body
  cases r with
  | runCommand shell command arguments =>
    -- In the layout the blanks in front of an argument belong to the argument.
    have hliteral : "</rsp:Command>\n        " = "</rsp:Command>" ++ "\n        " := by
      simp only [String.reduceAppend]
    have hend : "\n      </rsp:CommandLine>" = "\n      " ++ "</rsp:CommandLine>" := by
      simp only [String.reduceAppend]
    simp only [hliteral, hend, toList_arguments, bodyLayout, fullBody, commandLayout, Layout.write,
      Layout.writeAll, startText, endText, List.flatMap_nil, String.toList_append,
      List.append_assoc]
    repeat rw [String.toList_ofList]
    simp only [List.cons_append, List.nil_append, List.append_assoc]
  | _ =>
    simp (disch := (unfold constants; simp)) only [escape_constant, bodyLayout, fullBody,
      Layout.write, Layout.writeAll, startText, endText, attributeText, List.flatMap_cons,
      List.flatMap_nil, String.toList_append, List.append_assoc]
    repeat rw [String.toList_ofList]
    simp only [List.cons_append, List.nil_append, List.append_assoc]

/-- An envelope is the text of its layout. -/
theorem envelope_eq (r : Request) {endpoint timeout messageId : String} (htimeout : plain timeout)
    (hid : plain ("uuid:" ++ messageId)) :
    r.envelope endpoint timeout messageId =
      prolog ++ "\n" ++ String.ofList (r.layout endpoint timeout messageId).write := by
  -- The literals at both ends go over more than one part of the layout.
  have hopen : "<?xml version=\"1.0\" encoding=\"UTF-8\"?>\n<s:Envelope xmlns:s=\"" =
      prolog ++ "\n" ++ "<s:Envelope xmlns:s=\"" := by
    simp only [prolog, String.reduceAppend]
  have hend : "\n    </s:Body>\n</s:Envelope>" = "\n    </s:Body>" ++ "\n</s:Envelope>" := by
    simp only [String.reduceAppend]
  have hlt : '<' ∉ timeout.toList := fun h => plain_iff.1 htimeout _ h (by decide)
  have hlt' : '<' ∉ messageId.toList := by
    refine fun h => plain_iff.1 hid '<' ?_ (by decide)
    rw [String.toList_append]
    exact List.mem_append_right _ h
  have hheader := r.toList_header endpoint htimeout hid
  rw [← sentHeader_eq r hlt hlt'] at hheader
  delta envelope
  rw [hopen, hend, ← String.toList_inj]
  simp (disch := (unfold constants; simp)) only [escape_constant, layout, namespaces, hheader,
    toList_body, Layout.write, Layout.writeAll, startText, endText, attributeText,
    List.flatMap_cons, List.flatMap_nil, String.toList_append, String.toList_ofList,
    List.append_assoc]
  repeat rw [String.toList_ofList]
  simp only [List.cons_append, List.nil_append, List.append_assoc]

end RemoteHost.Winrm.Request

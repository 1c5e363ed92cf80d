/-
RemoteHost/Xml.lean

Texts in XML: the five characters with a meaning of their own are written as entities.
-/
import RemoteHost.Text.Search

namespace RemoteHost.Xml

/-- The characters with a meaning of their own, and their entities.  The one that begins
an entity comes first, so that no entity that is written is taken for text. -/
def entities : List (String × String) :=
  [("&", "&amp;"), ("<", "&lt;"), (">", "&gt;"), ("\"", "&quot;"), ("'", "&apos;")]

/-- A text as it stands in content or in the value of an attribute. -/
def escape (s : String) : String :=
  entities.foldl (fun t e => Text.replace t e.1 e.2) s

end RemoteHost.Xml

/-!
# `IdeProjects.Descriptor.Markup`: values in a project file

A value in a project file may hold any character. The five characters
that could end a value or open a tag are written as entities, and
nothing else is changed.
-/

set_option autoImplicit false

namespace IdeProjects

namespace Markup

/-- One character of a value. -/
def escapeChar (c : Char) : List Char :=
  if c = '&' then "&amp;".toList
  else if c = '<' then "&lt;".toList
  else if c = '>' then "&gt;".toList
  else if c = '"' then "&quot;".toList
  else if c = '\'' then "&#x27;".toList
  else [c]

/-- A value as it stands in a project file. -/
def escape (s : String) : String := String.ofList (s.toList.flatMap escapeChar)

/-- A path with backslashes between its parts. -/
def backslashed (s : String) : String :=
  String.ofList (s.toList.map fun c => if c = '/' then '\\' else c)

end Markup

end IdeProjects

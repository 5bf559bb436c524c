/-!
# Forms of diagnostic text

Diagnostic text shows the fields of a thing by name: a record names itself and lists its fields
between braces, a list stands between square brackets, and what may be missing says so.
-/

namespace SymbolicFrame.Diagnostic

/-- A truth value. -/
def flag : Bool → String
  | true => "true"
  | false => "false"

/-- Something that may be missing, given the text of what is there. -/
def optional : Option String → String
  | none => "None"
  | some text => "Some(" ++ text ++ ")"

/-- A list, given the texts of its items. -/
def list (items : List String) : String := "[" ++ String.intercalate ", " items ++ "]"

/-- A record, given its name and its fields with their texts. -/
def record (name : String) (fields : List (String × String)) : String :=
  name ++ " \x7b " ++
    String.intercalate ", " (fields.map fun field => field.1 ++ ": " ++ field.2) ++ " \x7d"

end SymbolicFrame.Diagnostic

/-! # Texts of records and lists

The text of a record is its name and its fields in braces, each field with its label; the text of a
list stands in brackets. Both separate by a comma and a space.
-/

namespace Mailroom.Text

/-- The text of a record with at least one field. -/
def record (name : String) (fields : List (String × String)) : String :=
  let members := fields.map fun (label, value) => label ++ ": " ++ value
  name ++ " \x7b " ++ ", ".intercalate members ++ " \x7d"

def list (items : List String) : String := "[" ++ ", ".intercalate items ++ "]"

end Mailroom.Text

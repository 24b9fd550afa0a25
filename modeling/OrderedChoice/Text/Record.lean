/-!
# Records in text

How a value with named fields is shown: the name of its type, then the fields in braces.
-/

namespace OrderedChoice.Text

/-- A record with at least one field. -/
def record (name : String) (fields : List (String × String)) : String :=
  name ++ " \x7b " ++
  ", ".intercalate (fields.map fun (field, value) => field ++ ": " ++ value) ++ " \x7d"

/-- A list in brackets. -/
def bracketed (items : List String) : String :=
  "[" ++ ", ".intercalate items ++ "]"

end OrderedChoice.Text

import CardCrc.Text.Numeral

/-!
# Objects in JSON

A report for machines is one JSON object, one member to a line behind two
blanks, in the order given. The texts written here are hex digits, blanks and
command names, none of which JSON escapes.
-/

namespace CardCrc.Report

/-- The value of a member. -/
inductive Member
  | number (value : Nat)
  | text (value : String)

/-- A value in JSON. -/
def Member.render : Member → String
  | number value => Numeral.decimal value
  | text value => "\"" ++ value ++ "\""

/-- An object in JSON. -/
def object (members : List (String × Member)) : String :=
  let lines := members.map fun (key, value) => "  \"" ++ key ++ "\": " ++ value.render
  "\x7b\n" ++ ",\n".intercalate lines ++ "\n\x7d"

end CardCrc.Report

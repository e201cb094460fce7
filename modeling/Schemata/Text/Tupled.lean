/-!
Items in parentheses, as tuples are shown: a single item is followed by a comma.
-/
namespace Schemata.Text

def tupled : List String → String
  | [item] => "(" ++ item ++ ",)"
  | items => "(" ++ ", ".intercalate items ++ ")"

end Schemata.Text

/-!
# Substrings

Whether a text occurs in another one, as a run of characters.
-/

namespace GridGateway.Text

/-- Whether `part` occurs in a list of characters. -/
def occursIn (part : List Char) : List Char → Bool
  | [] => part.isEmpty
  | c :: cs => part.isPrefixOf (c :: cs) || occursIn part cs

/-- Whether a text contains another one. -/
def contains (whole part : String) : Bool := occursIn part.toList whole.toList

end GridGateway.Text

/-!
# Parts of a text

A text in which a separator stands between the parts. There is always one part more than there are
separators.
-/

namespace Metering

/-- The parts of a text between separators. -/
def partsBetween (separator : Char) : List Char → List (List Char)
  | [] => [[]]
  | c :: cs =>
    if c = separator then [] :: partsBetween separator cs
    else
      match partsBetween separator cs with
      | [] => [[c]]
      | part :: parts => (c :: part) :: parts

end Metering

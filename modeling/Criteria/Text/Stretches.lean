/-!
# Stretches

A text cut at every occurrence of a separator.
-/

namespace Criteria

/-- The stretches between separators; there is always at least one. -/
def stretches (separator : Char) : List Char → List (List Char)
  | [] => [[]]
  | char :: rest =>
      if char = separator then [] :: stretches separator rest
      else
        match stretches separator rest with
        | [] => [[char]]
        | stretch :: others => (char :: stretch) :: others

end Criteria

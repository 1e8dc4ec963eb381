/-!
# Replacing a pattern

Occurrences are found from left to right and do not overlap.
-/

namespace Rollout.Text

/-- Replace every occurrence of a pattern from left to right, `skip` characters of an occurrence
being still to pass over. -/
def replaceFrom (pattern replacement : List Char) (skip : Nat) : List Char → List Char
  | [] => []
  | c :: rest =>
      if 0 < skip then replaceFrom pattern replacement (skip - 1) rest
      else if pattern.isPrefixOf (c :: rest) then
        replacement ++ replaceFrom pattern replacement (pattern.length - 1) rest
      else c :: replaceFrom pattern replacement 0 rest

/-- Replace every occurrence of a pattern, which is not empty. -/
def replaceAll (pattern replacement text : List Char) : List Char :=
  replaceFrom pattern replacement 0 text

end Rollout.Text

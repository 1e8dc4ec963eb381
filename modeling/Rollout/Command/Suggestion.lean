import Rollout.Command.Option

/-!
# Suggestions

For an unknown option the known ones are suggested that need the fewest insertions, deletions,
replacements and exchanges of neighbours, if these are at most three and leave more than two fifths
of the longer word alone.
-/

namespace Rollout.Command.Suggestion

/-- The sixteen-bit units of a text. -/
def units (text : List Char) : List Nat :=
  text.flatMap fun c =>
    let code := c.toNat
    if code < 0x10000 then [code]
    else [0xD800 + (code - 0x10000) / 0x400, 0xDC00 + (code - 0x10000) % 0x400]

/-- The largest number of edits that is considered. -/
def maxDistance : Nat := 3

/-- One row of the table of distances: from the rows of the last two letters of the first word to
the row of the letter `a`.  `before` is the letter before `a`; the rows start with the empty second
word. -/
def nextRow (a : Nat) (before : Option Nat) (row : List Nat) (earlier : List Nat)
    (word : List Nat) : List Nat :=
  let start := row.head?.getD 0 + 1
  let rec go (left : Nat) (above : List Nat) (exchange : List Nat) (last : Option Nat) :
      List Nat → List Nat
    | [] => []
    | b :: rest =>
        match above with
        | diagonal :: up :: others =>
            let plain := min (min (up + 1) (left + 1)) (diagonal + if a = b then 0 else 1)
            let value :=
              match before, last, exchange with
              | some c, some d, corner :: _ =>
                  if a = d ∧ c = b then min plain (corner + 1) else plain
              | _, _, _ => plain
            let exchange :=
              match last with
              | some _ => exchange.drop 1
              | none => exchange
            value :: go value (up :: others) exchange (some b) rest
        | _ => []
  start :: go start row earlier none word

/-- The last row of the table of distances. -/
def lastRow (word : List Nat) : Option Nat → List Nat → List Nat → List Nat → List Nat
  | _, row, _, [] => row
  | before, row, earlier, a :: rest =>
      lastRow word (some a) (nextRow a before row earlier word) row rest

/-- The number of edits between two words; words of very different lengths count as entirely
different. -/
def distance (left right : List Nat) : Nat :=
  if maxDistance < left.length - right.length ∨ maxDistance < right.length - left.length then
    max left.length right.length
  else
    ((lastRow right none (List.range (right.length + 1)) [] left).getLast?).getD 0

/-- Keep the candidates at the least distance so far. -/
def keepBest (word : List Nat) (best : Nat × List String) (candidate : String) :
    Nat × List String :=
  let letters := units candidate.toList
  if letters.length ≤ 1 then best
  else
    let edits := distance word letters
    let length := max word.length letters.length
    if 2 * length < 5 * (length - edits) then
      if edits < best.1 then (edits, [candidate])
      else if edits = best.1 then (best.1, best.2 ++ [candidate])
      else best
    else best

/-- The names among the candidates that are close to a word, in alphabetical order. -/
def similar (word : String) (candidates : List String) : List String :=
  let best := candidates.eraseDups.foldl (keepBest (units word.toList)) (maxDistance, [])
  best.2.mergeSort fun left right => !(right < left)

/-- The line that suggests options for an unknown one, empty if there is nothing to suggest. -/
def line (argument : String) (candidates : List String) : String :=
  match argument.toList with
  | '-' :: '-' :: word =>
      match (similar (String.ofList word) candidates).map ("--" ++ ·) with
      | [] => ""
      | [only] => "\n(Did you mean " ++ only ++ "?)"
      | several => "\n(Did you mean one of " ++ String.intercalate ", " several ++ "?)"
  | _ => ""

end Rollout.Command.Suggestion

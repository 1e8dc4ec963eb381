import Rollout.Text.Blank
import Rollout.Text.Replace

/-!
# Environment files

An environment file assigns texts to names, one assignment to a line: an optional `export`, a name,
an equals sign or a colon, and a value.  A value in quotes may go on over several lines; any other
ends at the line or at a number sign.  Lines that assign nothing are passed over.
-/

namespace Rollout.Dotenv

open Text

/-- A character of a name. -/
def isNamePart (c : Char) : Bool :=
  ('a' ≤ c && c ≤ 'z') || ('A' ≤ c && c ≤ 'Z') || ('0' ≤ c && c ≤ '9') || c == '_' ||
    c == '.' || c == '-'

/-- A character that quotes a value. -/
def isQuote (c : Char) : Bool := c == '\'' || c == '"' || c == '\x60'

/-- Line ends written as carriage returns, with or without a line feed, become line feeds. -/
def unifyLineEnds : List Char → List Char
  | [] => []
  | '\r' :: '\n' :: rest => '\n' :: unifyLineEnds rest
  | '\r' :: rest => '\n' :: unifyLineEnds rest
  | c :: rest => c :: unifyLineEnds rest

/-- What stands from the last line end among blanks on, if there is one. -/
def fromLastLineEnd? : List Char → Option (List Char)
  | [] => none
  | c :: rest => (fromLastLineEnd? rest).or (if isLineEnd c then some (c :: rest) else none)

/-- What follows a complete assignment: blanks, then a comment, the end of the text or, among the
blanks, the end of the line. -/
def settle? (text : List Char) : Option (List Char) :=
  let blanks := text.takeWhile isBlank
  match text.dropWhile isBlank with
  | [] => some []
  | c :: rest =>
      if c = '#' then some ((c :: rest).dropWhile fun d => !isLineEnd d)
      else (fromLastLineEnd? blanks).map fun ending => ending ++ c :: rest

/-- The ways to close a quoted value, in the order of the text: each quote behind a backslash, and
the first quote without one.  Each comes with the value before it and the text behind it. -/
def closings (quote : Char) (escaped : Bool) (value : List Char) :
    List Char → List (List Char × List Char)
  | [] => []
  | c :: rest =>
      if c = quote then
        if escaped then (value.reverse, rest) :: closings quote false (c :: value) rest
        else [(value.reverse, rest)]
      else closings quote (c == '\\') (c :: value) rest

/-- The first of several closings, from the last, behind which the assignment is complete. -/
def firstSettled? (quote : Char) :
    List (List Char × List Char) → Option (List Char × List Char)
  | [] => none
  | (value, after) :: others =>
      match settle? after with
      | some rest => some (quote :: (value ++ [quote]), rest)
      | none => firstSettled? quote others

/-- A quoted value behind blanks, with its quotes, and what follows the assignment. -/
def quotedValue? (text : List Char) : Option (List Char × List Char) :=
  match text.dropWhile isBlank with
  | [] => none
  | quote :: body =>
      if isQuote quote then firstSettled? quote (closings quote false [] body).reverse else none

/-- The value of an assignment behind its sign, and what follows the assignment. -/
def value? (text : List Char) : Option (List Char × List Char) :=
  match quotedValue? text with
  | some found => some found
  | none =>
      let isPlain (c : Char) : Bool := c != '#' && c != '\n' && c != '\r'
      (settle? (text.dropWhile isPlain)).map fun rest => (text.takeWhile isPlain, rest)

/-- The text behind the sign of an assignment: an equals sign, blanks before it or not, or a colon
with a blank. -/
def afterSign? (text : List Char) : Option (List Char) :=
  match text.dropWhile isBlank with
  | '=' :: rest => some rest
  | _ =>
      match text with
      | ':' :: c :: rest => if isBlank c then some rest else none
      | _ => none

/-- An assignment with its value as written, and what follows it. -/
def assignment? (text : List Char) : Option (List Char × List Char × List Char) :=
  let name := text.takeWhile isNamePart
  if name.isEmpty then none
  else
    ((afterSign? (text.dropWhile isNamePart)).bind value?).map fun (value, rest) =>
      (name, value, rest)

/-- An assignment at the beginning of a line, behind blanks and perhaps the word `export`. -/
def lineAssignment? (text : List Char) : Option (List Char × List Char × List Char) :=
  let text := text.dropWhile isBlank
  let word := "export".toList
  let behind := text.drop word.length
  let exported :=
    if word.isPrefixOf text && behind.head?.any isBlank then
      assignment? (behind.dropWhile isBlank)
    else none
  exported.or (assignment? text)

/-- The text between a quote and the last quote of its kind that ends a line, and what follows. -/
def enclosed? (quote : Char) : List Char → Option (List Char × List Char)
  | [] => none
  | c :: rest =>
      match enclosed? quote rest with
      | some (inside, after) => some (c :: inside, after)
      | none =>
          let endsLine := rest.isEmpty || rest.head?.any isLineEnd
          if c = quote ∧ endsLine then some ([], rest) else none

/-- Remove the quotes around a value, or around its lines. -/
def unquote : Nat → Bool → List Char → List Char
  | _, _, [] => []
  | 0, _, text => text
  | fuel + 1, atStart, c :: rest =>
      match if atStart && isQuote c then enclosed? c rest else none with
      | some (inside, after) => inside ++ unquote fuel false after
      | none => c :: unquote fuel (isLineEnd c) rest

/-- The meaning of a written value: without blanks and quotes around it and, if it stood in double
quotes, with line ends in place of their abbreviations. -/
def meaning (written : List Char) : List Char :=
  let value := trim written
  let plain := unquote value.length true value
  if value.head? = some '"' then
    replaceAll ['\\', 'r'] ['\r'] (replaceAll ['\\', 'n'] ['\n'] plain)
  else plain

/-- The assignments of a text, of which `atStart` says whether a line begins there. -/
def assignments : Nat → Bool → List Char → List (String × String)
  | 0, _, _ => []
  | _, _, [] => []
  | fuel + 1, atStart, c :: rest =>
      match if atStart then lineAssignment? (c :: rest) else none with
      | some (name, value, rest) =>
          (String.ofList name, String.ofList (meaning value)) :: assignments fuel false rest
      | none => assignments fuel (isLineEnd c) rest

/-- The assignments of an environment file, in order. -/
def parse (content : String) : List (String × String) :=
  let text := unifyLineEnds content.toList
  assignments text.length true text

/-- The value of a name after several assignments: the last one counts. -/
def lookup (assignments : List (String × String)) (name : String) : Option String :=
  (assignments.reverse.find? fun entry => entry.1 == name).map Prod.snd

/-- An environment with the assignments of a file; names that are set already keep their values. -/
def extend (environment assignments : List (String × String)) : List (String × String) :=
  environment ++ assignments.reverse.filter fun entry =>
    !(environment.any fun known => known.1 == entry.1)

end Rollout.Dotenv

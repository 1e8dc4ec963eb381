import Rollout.Text.Replace

/-!
# Text styles

Styles are switched on and off by escape sequences.  A style that ends inside the text is switched
on again, and all styles are off while a line ends.
-/

namespace Rollout.Console

/-- A style of printed text. -/
inductive Style where
  /-- Bold letters. -/
  | bold
  /-- Underlined letters. -/
  | underline
  /-- Exchanged colours of letters and background. -/
  | inverse
  /-- Red letters. -/
  | red
  /-- Green letters. -/
  | green
  /-- Yellow letters. -/
  | yellow
  /-- Blue letters. -/
  | blue
  /-- Magenta letters. -/
  | magenta
  /-- Cyan letters. -/
  | cyan
  /-- Gray letters. -/
  | gray
  deriving DecidableEq

/-- The character that starts an escape sequence. -/
def escape : Char := Char.ofNat 27

/-- The escape sequence of a code. -/
def sequence (code : String) : List Char := escape :: '[' :: (code.toList ++ ['m'])

namespace Style

/-- What switches a style on. -/
def opening : Style → List Char
  | bold => sequence "1"
  | underline => sequence "4"
  | inverse => sequence "7"
  | red => sequence "31"
  | green => sequence "32"
  | yellow => sequence "33"
  | blue => sequence "34"
  | magenta => sequence "35"
  | cyan => sequence "36"
  | gray => sequence "90"

/-- What switches a style off. -/
def closing : Style → List Char
  | bold => sequence "22"
  | underline => sequence "24"
  | inverse => sequence "27"
  | _ => sequence "39"

end Style

/-- Enclose every line end, with a carriage return before it, between two texts. -/
def encloseLineEnds (before after : List Char) : List Char → List Char
  | [] => []
  | '\r' :: '\n' :: rest => before ++ '\r' :: '\n' :: after ++ encloseLineEnds before after rest
  | '\n' :: rest => before ++ '\n' :: after ++ encloseLineEnds before after rest
  | c :: rest => c :: encloseLineEnds before after rest

/-- A text in styles, the outermost first.  Without colours it is left as it is, and so is the
empty text. -/
def paint (colours : Bool) (styles : List Style) (text : String) : String :=
  if !colours || text == "" then text
  else
    let openings := styles.flatMap Style.opening
    let closings := styles.reverse.flatMap Style.closing
    let reopened :=
      if text.toList.contains escape then
        styles.reverse.foldl
          (fun text style =>
            Text.replaceAll style.closing (style.closing ++ style.opening) text) text.toList
      else text.toList
    String.ofList (openings ++ encloseLineEnds closings openings reopened ++ closings)

end Rollout.Console

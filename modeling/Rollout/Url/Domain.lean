import Rollout.Url.DomainTable
import Rollout.Url.Punycode

/-!
# Domain names

The form in which a domain name is looked up: characters are replaced by those that they stand
for, and labels with characters outside ASCII must be well formed.  As only the ASCII characters of
the result matter here, such labels are checked and then left as they are.
-/

namespace Rollout.Url.Domain

/-- A small letter in place of a capital ASCII letter. -/
def lowerAscii (c : Char) : Char :=
  if 'A' ≤ c ∧ c ≤ 'Z' then Char.ofNat (c.toNat + 32) else c

/-- Whether a character is outside ASCII. -/
def isWide (c : Char) : Bool := 0x80 ≤ c.toNat

/-- What a character stands for in a domain name, if it may occur there. -/
def mapCharacter? (c : Char) : Option (List Char) :=
  if !isWide c then some [lowerAscii c]
  else if DomainTable.holds DomainTable.ignoredRanges c then some []
  else if DomainTable.holds DomainTable.disallowedRanges c then none
  else some ((DomainTable.asciiForm? c).getD [c])

/-- Whether a character may stand in a domain name and stands for itself. -/
def isSettled (c : Char) : Bool :=
  if isWide c then
    !DomainTable.holds DomainTable.ignoredRanges c &&
      !DomainTable.holds DomainTable.disallowedRanges c &&
      !DomainTable.holds DomainTable.mappedRanges c
  else lowerAscii c == c

/-- Replace the characters of a domain name. -/
def mapAll? : List Char → Option (List Char)
  | [] => some []
  | c :: rest =>
      match mapCharacter? c, mapAll? rest with
      | some mapped, some others => some (mapped ++ others)
      | _, _ => none

/-- A letter written from right to left. -/
def isRightToLeft (c : Char) : Bool := DomainTable.holds DomainTable.rightToLeftRanges c

/-- A digit that follows Arabic letters. -/
def isArabicNumber (c : Char) : Bool := DomainTable.holds DomainTable.arabicNumberRanges c

/-- A digit written like a European one. -/
def isEuropeanNumber (c : Char) : Bool :=
  Text.isDecimalDigit c || DomainTable.holds DomainTable.europeanNumberRanges c

/-- A combining mark. -/
def isMark (c : Char) : Bool := DomainTable.holds DomainTable.markRanges c

/-- A sign that may stand among letters of either direction. -/
def isNeutral (c : Char) : Bool :=
  if isWide c then isMark c || DomainTable.holds DomainTable.neutralRanges c
  else !(('a' ≤ c && c ≤ 'z') || ('A' ≤ c && c ≤ 'Z'))

/-- Whether a label keeps one direction: among letters from right to left there is no other letter,
digits are of one kind, and the last character but for marks is a letter or a digit. -/
def keepsDirection (label : List Char) : Bool :=
  if !label.any isRightToLeft then true
  else
    label.all (fun c =>
        isRightToLeft c || isArabicNumber c || isEuropeanNumber c || isNeutral c) &&
      !(label.any isArabicNumber && label.any isEuropeanNumber) &&
      (match label.reverse.dropWhile isMark with
        | [] => false
        | last :: _ => isRightToLeft last || isArabicNumber last || isEuropeanNumber last)

/-- Whether every joiner of a text follows a sign that allows one; the character before the text is
given. -/
def joinsProperly (before : Option Char) : List Char → Bool
  | [] => true
  | c :: rest =>
      (if c == '\u200c' || c == '\u200d' then
          before.any (DomainTable.holds DomainTable.joinerRanges)
        else true) && joinsProperly (some c) rest

/-- Whether a label with characters outside ASCII is well formed. -/
def isWellFormed (label : List Char) : Bool :=
  !(label.head?.any isMark) && joinsProperly none label && keepsDirection label

/-- The characters of code points, if all are characters. -/
def characters? : List Nat → Option (List Char)
  | [] => some []
  | code :: rest =>
      if code.isValidChar then (characters? rest).map (Char.ofNat code :: ·) else none

/-- Whether a label may stand in a domain name. -/
def acceptsLabel (label : List Char) : Bool :=
  match label with
  | 'x' :: 'n' :: '-' :: '-' :: encoded =>
      !label.any isWide && !"xn--".toList.isPrefixOf encoded &&
        (match (Punycode.decode? encoded).bind characters? with
          | some decoded =>
              decoded.any isWide && decoded.all isSettled && isWellFormed decoded
          | none => false)
  | label => !label.any isWide || isWellFormed label

/-- Split a text at every occurrence of a character. -/
def splitAt (separator : Char) : List Char → List (List Char)
  | [] => [[]]
  | c :: rest =>
      if c = separator then [] :: splitAt separator rest
      else
        match splitAt separator rest with
        | part :: parts => (c :: part) :: parts
        | [] => [[c]]

/-- A character that may not stand in the name of a host. -/
def isForbidden (c : Char) : Bool :=
  c.toNat ≤ 0x20 || c.toNat == 0x7F || "#%/:<>?@[\\]^|".toList.contains c

/-- The looked-up form of a domain name, if it has one. -/
def resolve? (name : List Char) : Option (List Char) :=
  match mapAll? name with
  | none => none
  | some mapped =>
      let accepted :=
        !mapped.isEmpty && (splitAt '.' mapped).all acceptsLabel && !mapped.any isForbidden
      if accepted then some mapped else none

end Rollout.Url.Domain

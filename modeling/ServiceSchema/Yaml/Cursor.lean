/-
A place in a YAML text: what follows, and where it stands. Classes of characters
are those of the notation: spaces and tabs are blank, and besides line feed and
carriage return there are three more line breaks.
-/
namespace ServiceSchema.Yaml

/-- Whether a character may stand in a text at all. -/
def isAllowed (c : Char) : Bool :=
  let n := c.toNat
  n == 0x9 || n == 0xA || n == 0xD || (0x20 ≤ n && n ≤ 0x7E) || n == 0x85 ||
    (0xA0 ≤ n && n ≤ 0xD7FF) || (0xE000 ≤ n && n ≤ 0xFFFD) || 0x10000 ≤ n

def isBlank (c : Char) : Bool := c == ' ' || c == '\t'

def isBreak (c : Char) : Bool :=
  c == '\n' || c == '\r' || c.toNat == 0x85 || c.toNat == 0x2028 || c.toNat == 0x2029

/-- The characters of names: letters, digits, underscores and hyphens, all ASCII. -/
def isWordChar (c : Char) : Bool := c.isAlphanum || c == '_' || c == '-'

structure Cursor where
  rest : List Char
  index : Nat := 0
  line : Nat := 0
  column : Nat := 0

namespace Cursor

def head? (c : Cursor) : Option Char := c.rest.head?

/-- Whether a given character comes next. -/
def sees (c : Cursor) (char : Char) : Bool := c.head? = some char

/-- Whether the character after so many others is of some kind; the end of the text is
when `atEnd` says so. -/
def isAt (c : Cursor) (offset : Nat) (kind : Char → Bool) (atEnd : Bool) : Bool :=
  match c.rest.drop offset with
  | char :: _ => kind char
  | [] => atEnd

/-- Whether a line break or the end of the text follows. -/
def atBreak (c : Cursor) (offset : Nat := 0) : Bool := c.isAt offset isBreak true

/-- Whether a blank, a line break or the end of the text follows. -/
def atGap (c : Cursor) (offset : Nat := 0) : Bool :=
  c.isAt offset (fun char => isBlank char || isBreak char) true

/-- Passes over so many characters of one line. -/
def skip (c : Cursor) (count : Nat := 1) : Cursor :=
  { c with rest := c.rest.drop count, index := c.index + count, column := c.column + count }

/-- Passes over the characters of some kind. -/
def skipWhile (c : Cursor) (kind : Char → Bool) : Cursor :=
  c.skip (c.rest.takeWhile kind).length

/-- Passes over a line break. Its text is a line feed, save for the separators of lines
and paragraphs, which stay what they are. -/
def takeBreak (c : Cursor) : List Char × Cursor :=
  let next := fun (count : Nat) (rest : List Char) =>
    { rest, index := c.index + count, line := c.line + 1, column := 0 : Cursor }
  match c.rest with
  | '\r' :: '\n' :: rest => (['\n'], next 2 rest)
  | char :: rest =>
    if isBreak char then
      (if char.toNat == 0x2028 || char.toNat == 0x2029 then [char] else ['\n'], next 1 rest)
    else ([], c)
  | [] => ([], c)

/-- Passes over a comment, up to the end of its line. -/
def skipComment (c : Cursor) : Cursor :=
  if c.sees '#' then c.skipWhile (!isBreak ·) else c

/-- Passes over the end of a line that has nothing more than blanks and a comment. -/
def endLine? (c : Cursor) : Option Cursor :=
  let c := (c.skipWhile isBlank).skipComment
  if c.atBreak then some c.takeBreak.2 else none

/-- Whether a line starts here with three of a character and a gap. -/
def atMarker (c : Cursor) (char : Char) : Bool :=
  c.column = 0 && c.rest.take 3 = [char, char, char] && c.atGap 3

/-- Whether a document starts or ends here. -/
def atDocumentMarker (c : Cursor) : Bool := c.atMarker '-' || c.atMarker '.'

end Cursor

end ServiceSchema.Yaml

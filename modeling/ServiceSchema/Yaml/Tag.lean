/-
Reading what stands in front of nodes and documents of a YAML text: anchors, tags
and directives.
-/
import ServiceSchema.Yaml.Scalar
import ServiceSchema.Yaml.Token

namespace ServiceSchema.Yaml

/-- Reads a name of word characters. -/
def readWord (c : Cursor) : String × Cursor :=
  let word := c.rest.takeWhile isWordChar
  (String.ofList word, c.skip word.length)

/-- The characters that may follow the name of an anchor, besides gaps. -/
def followsAnchor (c : Char) : Bool :=
  c == '?' || c == ':' || c == ',' || c == ']' || c == '\x7d' || c == '%' || c == '@' ||
    c.toNat == 0x60

/-- Reads the name of an anchor. -/
def readAnchor (c : Cursor) : Option (String × Cursor) :=
  let (name, c) := readWord c
  if name.isEmpty || !(c.atGap || c.isAt 0 followsAnchor false) then none else some (name, c)

/-! ## Tags -/

/-- The characters of a tag; some brackets are among them when it is written in full. -/
def isTagChar (full : Bool) (c : Char) : Bool :=
  isWordChar c || [';', '/', '?', ':', '@', '&', '=', '+', '$', '.', '%', '!', '~', '*', '\'',
    '(', ')'].contains c || (full && [',', '[', ']'].contains c)

/-- Replaces each `%xx` by the byte it stands for. -/
def unescapeTag : List Char → Option (List UInt8)
  | [] => some []
  | '%' :: a :: b :: rest => do
    let code := 16 * (← hexDigit? a) + (← hexDigit? b)
    let more ← unescapeTag rest
    return UInt8.ofNat code :: more
  | c :: rest => if c = '%' then none else (unescapeTag rest).map (UInt8.ofNat c.toNat :: ·)

/-- Reads the text of a tag, of which a part may have been read. -/
def readTagText (full : Bool) (start : List Char) (c : Cursor) : Option (String × Cursor) := do
  let text := c.rest.takeWhile (isTagChar full)
  if start.isEmpty && text.isEmpty then none
  else do
    let bytes ← unescapeTag (start ++ text)
    let s ← String.fromUTF8? (ByteArray.mk bytes.toArray)
    return (s, c.skip text.length)

/-- Reads the handle of a tag: word characters between exclamation marks, of which the
second may be missing. -/
def readHandle (c : Cursor) : List Char × Cursor :=
  let word := (c.rest.drop 1).takeWhile isWordChar
  let c := c.skip (1 + word.length)
  if c.sees '!' then ('!' :: word ++ ['!'], c.skip) else ('!' :: word, c)

/-- Reads a tag. -/
def readTag (inFlow : Bool) (c : Cursor) : Option (Token × Cursor) := do
  let (tag, c) ←
    if c.isAt 1 (· == '<') false then do
      let (text, c) ← readTagText true [] (c.skip 2)
      if c.sees '>' then some (Token.tag "" text, c.skip) else none
    else
      match readHandle c with
      | (handle, after) =>
        if 1 < handle.length && handle.getLast? = some '!' then do
          let (suffix, c) ← readTagText false [] after
          some (Token.tag (String.ofList handle) suffix, c)
        else if handle = ['!'] && !after.isAt 0 (isTagChar false) false then
          some (Token.tag "" "!", after)
        else do
          let (suffix, c) ← readTagText false (handle.drop 1) after
          some (Token.tag "!" suffix, c)
  if (inFlow && c.sees ',') || c.atGap then return (tag, c) else none

/-! ## Directives -/

/-- Reads a number of a version, of nine digits at most. -/
def readVersionNumber (c : Cursor) : Option (Nat × Cursor) :=
  let digits := c.rest.takeWhile Char.isDigit
  if digits.isEmpty || 9 < digits.length then none
  else some (digits.foldl (fun n d => 10 * n + (d.toNat - '0'.toNat)) 0, c.skip digits.length)

/-- Reads a directive: its percent sign, name and value, and the end of its line. -/
def readDirective (c : Cursor) : Option (Token × Cursor) := do
  let (name, c) := readWord c.skip
  if name.isEmpty || !c.atGap then none
  else
    let c := c.skipWhile isBlank
    if name = "YAML" then do
      let (major, c) ← readVersionNumber c
      if !c.sees '.' then none
      else do
        let (minor, c) ← readVersionNumber c.skip
        return (.version major minor, ← c.endLine?)
    else if name = "TAG" then
      if !c.sees '!' then none
      else do
        let (handle, c) := readHandle c
        if handle ≠ ['!'] && handle.getLast? ≠ some '!' || !c.isAt 0 isBlank false then none
        else do
          let (start, c) ← readTagText true [] (c.skipWhile isBlank)
          if !c.atGap then none else return (.tagHandle (String.ofList handle) start, ← c.endLine?)
    else none

end ServiceSchema.Yaml

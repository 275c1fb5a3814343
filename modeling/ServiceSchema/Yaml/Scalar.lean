/-
Reading the scalars of a YAML text: plain ones, quoted ones, and blocks. Inside a
scalar a single line break folds into a space and further ones are kept; what
blanks and breaks come to is only known when text follows them.
-/
import ServiceSchema.Yaml.Cursor

namespace ServiceSchema.Yaml

/-! ## Folding -/

/-- Blanks and line breaks that have been read in front of more text. -/
structure Fold where
  /-- Blanks on the line where text last stood. -/
  blanks : List Char := []
  /-- The first line break. -/
  first : List Char := []
  /-- The further line breaks. -/
  more : List Char := []
  /-- Whether a line has ended. -/
  broken : Bool := false

namespace Fold

/-- What has been read comes to this once more text follows. -/
def text (f : Fold) : List Char :=
  if !f.broken then f.blanks
  else if f.first = ['\n'] then (if f.more = [] then [' '] else f.more)
  else f.first ++ f.more

/-- Reads blanks and line breaks. On a line after the first no tab may stand left of
column `least`. -/
def read (least : Nat) : Nat → Fold → Cursor → Option (Fold × Cursor)
  | 0, _, _ => none
  | fuel + 1, f, c =>
    match c.head? with
    | none => some (f, c)
    | some char =>
      if isBlank char then
        if f.broken then
          if char = '\t' && c.column < least then none else read least fuel f c.skip
        else read least fuel { f with blanks := f.blanks ++ [char] } c.skip
      else if isBreak char then
        let (text, c) := c.takeBreak
        if f.broken then read least fuel { f with more := f.more ++ text } c
        else read least fuel { f with blanks := [], first := text, broken := true } c
      else some (f, c)

end Fold

/-! ## Plain scalars -/

/-- How a run of plain text ends. -/
inductive PlainEnd where
  /-- A blank, a line break or the end of the text follows. -/
  | gap
  /-- An indicator follows, and the scalar is over. -/
  | over
  | fault

def isFlowIndicator (c : Char) : Bool :=
  c == ',' || c == '[' || c == ']' || c == '\x7b' || c == '\x7d'

/-- Reads plain text up to a blank or an indicator that ends it: a colon before a gap,
or inside brackets one of their indicators. -/
def readPlainRun (inFlow : Bool) : List Char → List Char × PlainEnd
  | [] => ([], .gap)
  | c :: rest =>
    if isBlank c || isBreak c then ([], .gap)
    else
      let next := rest.head?
      if inFlow && c == ':' && (next.map fun n => isFlowIndicator n || n == '?').getD false then
        ([], .fault)
      else if c == ':' && (next.map fun n => isBlank n || isBreak n).getD true then ([], .over)
      else if inFlow && isFlowIndicator c then ([], .over)
      else
        let (run, stop) := readPlainRun inFlow rest
        (c :: run, stop)

/-- A scalar that has been read, with the place after it. -/
structure Read where
  text : List Char
  /-- Whether the last thing read was the end of a line. -/
  newLine : Bool := false
  cursor : Cursor

/-- Reads a plain scalar whose lines must start at column `least` or further in. -/
def readPlain (inFlow : Bool) (least : Nat) : Nat → List Char → Fold → Cursor → Option Read
  | 0, _, _, _ => none
  | fuel + 1, text, fold, c =>
    if c.atDocumentMarker || c.sees '#' then some ⟨text, fold.broken, c⟩
    else
      let (run, stop) := readPlainRun inFlow c.rest
      let text := if run.isEmpty then text else text ++ fold.text ++ run
      let fold := if run.isEmpty then fold else {}
      let c := c.skip run.length
      match stop with
      | .fault => none
      | .over => some ⟨text, fold.broken, c⟩
      | .gap =>
        if c.rest.isEmpty then some ⟨text, fold.broken, c⟩
        else do
          let (fold, c) ← fold.read least (c.rest.length + 1) c
          if !inFlow && c.column < least then return ⟨text, fold.broken, c⟩
          readPlain inFlow least fuel text fold c

/-! ## Quoted scalars -/

def hexDigit? (c : Char) : Option Nat :=
  if c.isDigit then some (c.toNat - '0'.toNat)
  else if 'a' ≤ c && c ≤ 'f' then some (c.toNat - 'a'.toNat + 10)
  else if 'A' ≤ c && c ≤ 'F' then some (c.toNat - 'A'.toNat + 10)
  else none

/-- The character whose code is written by so many hexadecimal digits. -/
def hexChar? (count : Nat) (cs : List Char) : Option Char :=
  let digits := cs.take count
  if digits.length < count then none
  else do
    let code ← digits.foldlM (fun n c => (hexDigit? c).map (16 * n + ·)) 0
    if (0xD800 ≤ code && code ≤ 0xDFFF) || 0x10FFFF < code then none
    else some (Char.ofNat code)

/-- The character that an escape stands for, and how many characters follow its letter. -/
def escape? (letter : Char) (after : List Char) : Option (Char × Nat) :=
  match letter with
  | '0' => some ('\x00', 0)
  | 'a' => some ('\x07', 0)
  | 'b' => some ('\x08', 0)
  | 't' | '\t' => some ('\t', 0)
  | 'n' => some ('\n', 0)
  | 'v' => some ('\x0b', 0)
  | 'f' => some ('\x0c', 0)
  | 'r' => some ('\r', 0)
  | 'e' => some ('\x1b', 0)
  | ' ' => some (' ', 0)
  | '"' => some ('"', 0)
  | '/' => some ('/', 0)
  | '\\' => some ('\\', 0)
  | 'N' => some (Char.ofNat 0x85, 0)
  | '_' => some (Char.ofNat 0xA0, 0)
  | 'L' => some (Char.ofNat 0x2028, 0)
  | 'P' => some (Char.ofNat 0x2029, 0)
  | 'x' => (hexChar? 2 after).map (·, 2)
  | 'u' => (hexChar? 4 after).map (·, 4)
  | 'U' => (hexChar? 8 after).map (·, 8)
  | _ => none

/-- How a run of quoted text ends. -/
inductive QuotedEnd where
  | quote
  /-- A blank, a line break or the end of the text follows. -/
  | gap
  /-- A line break was escaped. -/
  | joined

/-- Reads quoted text up to its quote or a blank. -/
def readQuotedRun (quote : Char) : Nat → Cursor → Option (List Char × QuotedEnd × Cursor)
  | 0, _ => none
  | fuel + 1, c =>
    if c.atGap then some ([], .gap, c)
    else match c.rest with
      | [] => none
      | '\'' :: '\'' :: _ =>
        if quote = '\'' then more fuel '\'' (c.skip 2) else more fuel '\'' c.skip
      | char :: after =>
        if char = quote then some ([], .quote, c)
        else if quote = '"' && char = '\\' then
          match after with
          | [] => none
          | letter :: after =>
            if isBreak letter then some ([], .joined, c.skip.takeBreak.2)
            else do
              let (char, digits) ← escape? letter after
              more fuel char (c.skip (2 + digits))
        else more fuel char c.skip
where
  /-- Goes on after a character. -/
  more (fuel : Nat) (char : Char) (c : Cursor) : Option (List Char × QuotedEnd × Cursor) := do
    let (run, stop, c) ← readQuotedRun quote fuel c
    return (char :: run, stop, c)

/-- Reads a quoted scalar after its opening quote. -/
def readQuoted (quote : Char) : Nat → List Char → Cursor → Option Read
  | 0, _, _ => none
  | fuel + 1, text, c =>
    if c.atDocumentMarker || c.rest.isEmpty then none
    else do
      let (run, stop, c) ← readQuotedRun quote (c.rest.length + 1) c
      let text := text ++ run
      match stop with
      | .quote => return ⟨text, false, c.skip⟩
      | .joined | .gap =>
        if c.sees quote then return ⟨text, false, c.skip⟩
        let (fold, c) ← Fold.read 0 (c.rest.length + 1) { broken := stop matches .joined } c
        readQuoted quote fuel (text ++ fold.text) c

/-! ## Block scalars -/

/-- What becomes of the line breaks at the end of a block. -/
inductive Chomping where
  | strip | clip | keep
deriving DecidableEq, Repr

/-- Reads the sign of a block's header. -/
def readChomping (c : Cursor) : Option (Chomping × Cursor) :=
  if c.sees '+' then some (.keep, c.skip)
  else if c.sees '-' then some (.strip, c.skip)
  else none

/-- Reads the digit of a block's header, which is not zero. There is no inner answer
without a digit. -/
def readIncrement (c : Cursor) : Option (Option (Nat × Cursor)) :=
  match c.head? with
  | some char =>
    if char = '0' then none
    else if char.isDigit then some (some (char.toNat - '0'.toNat, c.skip))
    else some none
  | none => some none

/-- Reads a block's header: a sign and a digit in either order, either or both left out. -/
def readHeader (c : Cursor) : Option (Chomping × Option Nat × Cursor) :=
  match readChomping c with
  | some (chomping, c) => do
    match ← readIncrement c with
    | some (increment, c) => return (chomping, some increment, c)
    | none => return (chomping, none, c)
  | none => do
    match ← readIncrement c with
    | some (increment, c) =>
      match readChomping c with
      | some (chomping, c) => return (chomping, some increment, c)
      | none => return (.clip, some increment, c)
    | none => return (.clip, none, c)

/-- Reads the empty lines in front of a line of a block, and the indentation of that
line. The indentation is limited once it is known; the answers are the line breaks,
the greatest column met, and the place. -/
def readEmptyLines (indent : Option Nat) :
    Nat → List Char → Nat → Cursor → Option (List Char × Nat × Cursor)
  | 0, _, _, _ => none
  | fuel + 1, breaks, greatest, c =>
    let spaces := (c.rest.takeWhile (· == ' ')).length
    let spaces := match indent with
      | some n => min spaces (n - c.column)
      | none => spaces
    let c := c.skip spaces
    let greatest := max greatest c.column
    let inside := match indent with
      | some n => decide (n ≤ c.column)
      | none => false
    if c.sees '\t' && !inside then none
    else if c.isAt 0 isBreak false then
      let (text, c) := c.takeBreak
      readEmptyLines indent fuel (breaks ++ text) greatest c
    else some (breaks, greatest, c)

/-- Reads the lines of a block. `leading` is the break before the line at hand, `empty`
the further ones, and `indented` tells whether the line before starts with a blank. -/
def readBlockLines (folded : Bool) (indent : Nat) :
    Nat → List Char → (leading empty : List Char) → (indented : Bool) → Cursor →
      Option (List Char × List Char × List Char × Cursor)
  | 0, _, _, _, _, _ => none
  | fuel + 1, text, leading, empty, indented, c =>
    if c.column ≠ indent || c.rest.isEmpty then some (text, leading, empty, c)
    else do
      let starts := c.isAt 0 isBlank false
      let glue :=
        if folded && leading = ['\n'] && !indented && !starts then
          (if empty.isEmpty then [' '] else [])
        else leading
      let line := c.rest.takeWhile (!isBreak ·)
      let (leading, c) := (c.skip line.length).takeBreak
      let (breaks, _, c) ← readEmptyLines (some indent) (c.rest.length + 1) [] 0 c
      readBlockLines folded indent fuel (text ++ glue ++ empty ++ line) leading breaks starts c

/-- Reads a block scalar after its indicator, inside a block of some indentation. -/
def readBlock (folded : Bool) (parent : Int) (c : Cursor) : Option Read := do
  let (chomping, increment, c) ← readHeader c
  let c ← c.endLine?
  let fuel := c.rest.length + 1
  let known := increment.map fun n => if 0 ≤ parent then parent.toNat + n else n
  let (breaks, greatest, c) ← readEmptyLines known fuel [] 0 c
  let indent := known.getD (max (max greatest (parent + 1).toNat) 1)
  let (text, leading, empty, c) ← readBlockLines folded indent fuel [] [] breaks false c
  let text := if chomping = .strip then text else text ++ leading
  return ⟨if chomping = .keep then text ++ empty else text, false, c⟩

end ServiceSchema.Yaml

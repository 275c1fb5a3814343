/-
Cutting a YAML text into tokens. Blocks open where a line is indented further than
the block around it and close where a later line is not. Where a key could start the
place is remembered, for its tokens come before those of the key itself once a colon
follows. Such a place is forgotten at the end of the line, or a thousand characters on.
-/
import ServiceSchema.Yaml.Tag

namespace ServiceSchema.Yaml

/-- A place where a key may have started. -/
structure KeyPlace where
  /-- How many tokens stand before it. -/
  token : Nat
  index : Nat
  line : Nat
  column : Nat
  /-- Whether only a key can stand here. -/
  required : Bool

/-- How far on a colon may stand. -/
def keyReach : Nat := 1024

structure Lexer where
  cursor : Cursor
  tokens : Array Token := #[]
  /-- The column of the innermost block, and of those around it. -/
  indent : Int := -1
  outer : List Int := []
  flowLevel : Nat := 0
  /-- Whether a key may start here. -/
  keyAllowed : Bool := true
  /-- The place of a possible key, for each level of brackets and for blocks. -/
  keys : List (Option KeyPlace) := [none]

namespace Lexer

def inFlow (l : Lexer) : Bool := l.flowLevel != 0

def push (l : Lexer) (t : Token) : Lexer := { l with tokens := l.tokens.push t }

/-- Puts a token before all but so many others. -/
def insertAt (l : Lexer) (place : Nat) (t : Token) : Lexer :=
  { l with tokens := l.tokens.insertIdxIfInBounds place t }

/-! ## Keys -/

/-- Forgets the places of keys that have been passed. -/
def forgetPassedKeys (l : Lexer) : Option Lexer := do
  let keys ← l.keys.mapM fun
    | none => some none
    | some key =>
      if key.line < l.cursor.line || key.index + keyReach < l.cursor.index then
        if key.required then none else some none
      else some (some key)
  return { l with keys }

/-- Forgets the key of the innermost level. -/
def dropKey (l : Lexer) : Option Lexer :=
  match l.keys with
  | some key :: rest => if key.required then none else some { l with keys := none :: rest }
  | _ => some l

/-- Remembers that a key may start here. -/
def saveKey (l : Lexer) : Option Lexer :=
  if l.keyAllowed then do
    let l ← l.dropKey
    let key : KeyPlace :=
      { token := l.tokens.size, index := l.cursor.index, line := l.cursor.line
        column := l.cursor.column, required := !l.inFlow && l.indent = l.cursor.column }
    return { l with keys := some key :: l.keys.drop 1 }
  else some l

/-! ## Blocks -/

/-- Opens a block at a column, unless one is open there. -/
def openBlock (l : Lexer) (column : Nat) (t : Token) (place : Nat) : Lexer :=
  if l.inFlow || (column : Int) ≤ l.indent then l
  else { l.insertAt place t with indent := column, outer := l.indent :: l.outer }

/-- Closes blocks from the innermost on, down to a column. -/
def closeBlocksFrom (column : Int) (tokens : Array Token) (indent : Int) :
    List Int → Array Token × Int × List Int
  | [] => (tokens, indent, [])
  | next :: outer =>
    if column < indent then closeBlocksFrom column (tokens.push .blockEnd) next outer
    else (tokens, indent, next :: outer)

/-- Closes the blocks that are further in than a column. -/
def closeBlocks (l : Lexer) (column : Int) : Lexer :=
  if l.inFlow then l
  else
    let (tokens, indent, outer) := closeBlocksFrom column l.tokens l.indent l.outer
    { l with tokens, indent, outer }

/-! ## Tokens -/

/-- Takes an indicator of so many characters. -/
def take (l : Lexer) (count : Nat) (t : Token) (keyAllowed : Bool) : Lexer :=
  { l.push t with cursor := l.cursor.skip count, keyAllowed }

/-- Takes a token that has been read, with the place after it. -/
def took (l : Lexer) (keyAllowed : Bool) : Token × Cursor → Lexer
  | (t, cursor) => { l.push t with cursor, keyAllowed }

/-- Takes a marker between documents. -/
def takeMarker (l : Lexer) (t : Token) : Option Lexer := do
  let l ← (l.closeBlocks (-1)).dropKey
  return l.take 3 t false

def takeDirective (l : Lexer) : Option Lexer := do
  let l ← (l.closeBlocks (-1)).dropKey
  return l.took false (← readDirective l.cursor)

/-- Takes an opening bracket. -/
def takeOpening (l : Lexer) (t : Token) : Option Lexer := do
  let l ← l.saveKey
  return { l.take 1 t true with keys := none :: l.keys, flowLevel := l.flowLevel + 1 }

/-- Takes a closing bracket. -/
def takeClosing (l : Lexer) (t : Token) : Option Lexer := do
  let l ← l.dropKey
  let l := if l.inFlow then { l with keys := l.keys.drop 1, flowLevel := l.flowLevel - 1 } else l
  return l.take 1 t false

def takeFlowEntry (l : Lexer) : Option Lexer := do
  let l ← l.dropKey
  return l.take 1 .flowEntry true

/-- Opens a block for an indicator that may start one, which needs the place of a key
outside brackets. -/
def openAtIndicator (l : Lexer) (t : Token) : Option Lexer :=
  if l.inFlow then some l
  else if l.keyAllowed then some (l.openBlock l.cursor.column t l.tokens.size)
  else none

def takeBlockEntry (l : Lexer) : Option Lexer := do
  let l ← (← l.openAtIndicator .blockSequence).dropKey
  return l.take 1 .blockEntry true

def takeKey (l : Lexer) : Option Lexer := do
  let l ← (← l.openAtIndicator .blockMapping).dropKey
  return l.take 1 .key (!l.inFlow)

def takeValue (l : Lexer) : Option Lexer :=
  match l.keys with
  | some key :: rest =>
    let l := (l.insertAt key.token .key).openBlock key.column .blockMapping key.token
    some { l.take 1 .value false with keys := none :: rest }
  | _ => do
    let l ← l.openAtIndicator .blockMapping
    return l.take 1 .value (!l.inFlow)

/-- Takes an alias or an anchor after its indicator. -/
def takeName (l : Lexer) (token : String → Token) : Option Lexer := do
  let l ← l.saveKey
  let (name, cursor) ← readAnchor l.cursor.skip
  return l.took false (token name, cursor)

def takeTag (l : Lexer) : Option Lexer := do
  let l ← l.saveKey
  return l.took false (← readTag l.inFlow l.cursor)

/-- Takes a scalar that has been read. -/
def tookScalar (l : Lexer) (style : ScalarStyle) (keyAllowed : Bool) (r : Read) : Lexer :=
  l.took keyAllowed (.scalar (String.ofList r.text) style, r.cursor)

def takeBlockScalar (l : Lexer) (folded : Bool) : Option Lexer := do
  let l ← l.dropKey
  let r ← readBlock folded l.indent l.cursor.skip
  return l.tookScalar (if folded then .other else .literal) true r

def takeQuoted (l : Lexer) (quote : Char) : Option Lexer := do
  let l ← l.saveKey
  let r ← readQuoted quote (l.cursor.rest.length + 1) [] l.cursor.skip
  return l.tookScalar .other false r

def takePlain (l : Lexer) : Option Lexer := do
  let l ← l.saveKey
  let least := (l.indent + 1).toNat
  let r ← readPlain l.inFlow least (l.cursor.rest.length + 1) [] {} l.cursor
  return l.tookScalar .plain r.newLine r

/-- Passes over blanks, comments and line breaks. A tab in front of a place where a key
may start is not passed over. -/
def skipToToken (l : Lexer) : Nat → Lexer
  | 0 => l
  | fuel + 1 =>
    let c := l.cursor
    let c := if c.column = 0 && c.isAt 0 (·.toNat == 0xFEFF) false then c.skip else c
    let tabs := l.inFlow || !l.keyAllowed
    let c := (c.skipWhile fun char => char == ' ' || (tabs && char == '\t')).skipComment
    if c.isAt 0 isBreak false then
      skipToToken { l with cursor := c.takeBreak.2, keyAllowed := l.keyAllowed || !l.inFlow } fuel
    else { l with cursor := c }

/-- The characters that start something other than a plain scalar. -/
def isIndicator (c : Char) : Bool :=
  ['-', '?', ':', ',', '[', ']', '\x7b', '\x7d', '#', '&', '*', '!', '|', '>', '\'', '"', '%',
    '@'].contains c || c.toNat == 0x60

/-- Whether a plain scalar starts with a character; a hyphen, question mark or colon may
when something follows it at once. -/
def startsPlain (l : Lexer) (c : Char) : Bool :=
  if c = '-' then !l.cursor.isAt 1 isBlank false
  else if c = '?' || c = ':' then !l.inFlow && !l.cursor.atGap 1
  else !isIndicator c && !isBlank c

/-- Takes the token that starts with a character. -/
def takeToken (l : Lexer) (char : Char) : Option Lexer :=
  let c := l.cursor
  if c.column = 0 && char = '%' then l.takeDirective
  else if c.atMarker '-' then l.takeMarker .documentStart
  else if c.atMarker '.' then l.takeMarker .documentEnd
  else if char = '[' then l.takeOpening .openSequence
  else if char = '\x7b' then l.takeOpening .openMapping
  else if char = ']' then l.takeClosing .closeSequence
  else if char = '\x7d' then l.takeClosing .closeMapping
  else if char = ',' then l.takeFlowEntry
  else if char = '-' && c.atGap 1 then l.takeBlockEntry
  else if char = '?' && (l.inFlow || c.atGap 1) then l.takeKey
  else if char = ':' && (l.inFlow || c.atGap 1) then l.takeValue
  else if char = '*' then l.takeName .alias
  else if char = '&' then l.takeName .anchor
  else if char = '!' then l.takeTag
  else if char = '|' && !l.inFlow then l.takeBlockScalar false
  else if char = '>' && !l.inFlow then l.takeBlockScalar true
  else if char = '\'' || char = '"' then l.takeQuoted char
  else if l.startsPlain char then l.takePlain
  else none

/-- Ends the text: what is open is closed, and no key may be wanting. -/
def finish (l : Lexer) : Option (List Token) := do
  let l ← (l.closeBlocks (-1)).dropKey
  return l.tokens.toList

/-- Takes the rest of the tokens; each takes a character at least. -/
def run : Nat → Lexer → Option (List Token)
  | 0, _ => none
  | fuel + 1, l => do
    let l ← (l.skipToToken (l.cursor.rest.length + 1)).forgetPassedKeys
    let l := l.closeBlocks l.cursor.column
    match l.cursor.head? with
    | none => l.finish
    | some char => run fuel (← l.takeToken char)

end Lexer

/-- The tokens of a text, all characters of which must be allowed. -/
def tokens? (text : String) : Option (List Token) :=
  if text.toList.all isAllowed then
    (Lexer.run (text.length + 1) { cursor := { rest := text.toList } })
  else none

end ServiceSchema.Yaml

/-
The tree of the one document in a YAML text. Nodes may be left out: where one is
missing an empty plain scalar stands. A text may have no document at all, but not
more than one.
-/
import ServiceSchema.Yaml.Lexer

namespace ServiceSchema.Yaml

inductive Tree where
  | scalar (anchor : Option String) (text : String) (style : ScalarStyle) (tag : Option String)
  | seq (anchor : Option String) (items : List Tree)
  | map (anchor : Option String) (entries : List (Tree × Tree))
  | alias (name : String)

namespace Tree

/-- The node that stands where none is written. -/
def missing : Tree := .scalar none "" .plain none

/-- What tags with a handle start with. -/
abbrev Handles := List (String × String)

/-- The handles that need no directive. -/
def standardHandles : Handles := [("!", "!"), ("!!", "tag:yaml.org,2002:")]

/-! ## Properties of nodes -/

/-- A tag in full; there is none when its handle is not known. -/
def fullTag (handles : Handles) (handle suffix : String) : Option String :=
  if handle.isEmpty then some suffix else (handles.lookup handle).map (· ++ suffix)

/-- Reads the anchor and the tag in front of a node, in either order. -/
def readProperties (handles : Handles) :
    List Token → Option ((Option String × Option String) × List Token)
  | .anchor name :: .tag handle suffix :: rest | .tag handle suffix :: .anchor name :: rest => do
    let tag ← fullTag handles handle suffix
    return ((some name, some tag), rest)
  | .anchor name :: rest => some ((some name, none), rest)
  | .tag handle suffix :: rest => do
    let tag ← fullTag handles handle suffix
    return ((none, some tag), rest)
  | rest => some ((none, none), rest)

/-- The tag of a scalar, of which a lone exclamation mark says nothing. -/
def scalarTag (tag : Option String) : Option String := tag.filter (· ≠ "!")

/-! ## Where a node is missing -/

def endsBlockItem : List Token → Bool
  | .blockEntry :: _ | .blockEnd :: _ => true
  | _ => false

def endsBlockField : List Token → Bool
  | .key :: _ | .value :: _ | .blockEnd :: _ => true
  | _ => false

def endsLooseItem (tokens : List Token) : Bool :=
  endsBlockField tokens || endsBlockItem tokens

def endsFlowKey (closing : Token) : List Token → Bool
  | .value :: _ | .flowEntry :: _ => true
  | t :: _ => t = closing
  | [] => false

def endsFlowValue (closing : Token) : List Token → Bool
  | .flowEntry :: _ => true
  | t :: _ => t = closing
  | [] => false

/-! ## Nodes -/

/-- A node of which there is nothing but an anchor or a tag. -/
def orMissing (anchor tag : Option String) (rest : List Token) : Option (Tree × List Token) :=
  if anchor.isSome || tag.isSome then some (.scalar anchor "" .plain tag, rest) else none

/-- Passes over the comma in front of every item but the first. -/
def afterComma (first : Bool) : List Token → Option (List Token)
  | .flowEntry :: rest => if first then some (.flowEntry :: rest) else some rest
  | rest => if first then some rest else none

mutual

/-- Reads a node, of a block or in brackets. The items of a sequence that is the value of
a key need not be indented. -/
def readNode (handles : Handles) (inBlock loose : Bool) :
    Nat → List Token → Option (Tree × List Token)
  | 0, _ => none
  | _ + 1, .alias name :: rest => some (.alias name, rest)
  | fuel + 1, tokens => do
    let ((anchor, tag), rest) ← readProperties handles tokens
    match rest with
    | .scalar text style :: rest => return (.scalar anchor text style (scalarTag tag), rest)
    | .openSequence :: rest =>
      let (items, rest) ← readFlowItems handles true fuel rest
      return (.seq anchor items, rest)
    | .openMapping :: rest =>
      let (entries, rest) ← readFlowEntries handles true fuel rest
      return (.map anchor entries, rest)
    | .blockSequence :: after =>
      if inBlock then
        let (items, rest) ← readBlockItems handles fuel after
        return (.seq anchor items, rest)
      else orMissing anchor tag rest
    | .blockMapping :: after =>
      if inBlock then
        let (entries, rest) ← readBlockEntries handles fuel after
        return (.map anchor entries, rest)
      else orMissing anchor tag rest
    | .blockEntry :: _ =>
      if loose then
        let (items, rest) ← readLooseItems handles fuel rest
        return (.seq anchor items, rest)
      else orMissing anchor tag rest
    | _ => orMissing anchor tag rest

/-- Reads a node, unless none is written. -/
def readOptional (handles : Handles) (inBlock loose absent : Bool) :
    Nat → List Token → Option (Tree × List Token)
  | 0, _ => none
  | fuel + 1, tokens =>
    if absent then some (missing, tokens) else readNode handles inBlock loose fuel tokens

/-- Reads the items of a sequence that is a block. -/
def readBlockItems (handles : Handles) : Nat → List Token → Option (List Tree × List Token)
  | 0, _ => none
  | fuel + 1, .blockEntry :: rest => do
    let (item, rest) ← readOptional handles true false (endsBlockItem rest) fuel rest
    let (items, rest) ← readBlockItems handles fuel rest
    return (item :: items, rest)
  | _ + 1, .blockEnd :: rest => some ([], rest)
  | _ + 1, _ => none

/-- Reads the items of a sequence that is no block of its own. -/
def readLooseItems (handles : Handles) : Nat → List Token → Option (List Tree × List Token)
  | 0, _ => none
  | fuel + 1, .blockEntry :: rest => do
    let (item, rest) ← readOptional handles true false (endsLooseItem rest) fuel rest
    let (items, rest) ← readLooseItems handles fuel rest
    return (item :: items, rest)
  | _ + 1, rest => some ([], rest)

/-- Reads the entries of a mapping that is a block. -/
def readBlockEntries (handles : Handles) :
    Nat → List Token → Option (List (Tree × Tree) × List Token)
  | 0, _ => none
  | fuel + 1, .key :: rest => do
    let (key, rest) ← readOptional handles true true (endsBlockField rest) fuel rest
    let (value, rest) ← readBlockValue handles fuel rest
    let (entries, rest) ← readBlockEntries handles fuel rest
    return ((key, value) :: entries, rest)
  | _ + 1, .blockEnd :: rest => some ([], rest)
  | _ + 1, _ => none

/-- Reads the value of an entry in a block. -/
def readBlockValue (handles : Handles) : Nat → List Token → Option (Tree × List Token)
  | 0, _ => none
  | fuel + 1, .value :: rest => readOptional handles true true (endsBlockField rest) fuel rest
  | _ + 1, rest => some (missing, rest)

/-- Reads the items of a sequence in brackets, with a comma before each but the first. -/
def readFlowItems (handles : Handles) (first : Bool) :
    Nat → List Token → Option (List Tree × List Token)
  | 0, _ => none
  | _ + 1, .closeSequence :: rest => some ([], rest)
  | fuel + 1, tokens => do
    match ← afterComma first tokens with
    | .closeSequence :: rest => return ([], rest)
    | .key :: rest =>
      let (key, rest) ← readPairKey handles fuel rest
      let (value, rest) ← readFlowValue handles .closeSequence fuel rest
      let (items, rest) ← readFlowItems handles false fuel rest
      return (.map none [(key, value)] :: items, rest)
    | rest =>
      let (item, rest) ← readNode handles false false fuel rest
      let (items, rest) ← readFlowItems handles false fuel rest
      return (item :: items, rest)

/-- Reads the key of a single entry that is an item. The token that ends a missing key
is passed over. -/
def readPairKey (handles : Handles) : Nat → List Token → Option (Tree × List Token)
  | 0, _ => none
  | fuel + 1, tokens =>
    if endsFlowKey .closeSequence tokens then some (missing, tokens.drop 1)
    else readNode handles false false fuel tokens

/-- Reads the value of an entry in brackets. -/
def readFlowValue (handles : Handles) (closing : Token) :
    Nat → List Token → Option (Tree × List Token)
  | 0, _ => none
  | fuel + 1, .value :: rest =>
    readOptional handles false false (endsFlowValue closing rest) fuel rest
  | _ + 1, rest => some (missing, rest)

/-- Reads the entries of a mapping in brackets. -/
def readFlowEntries (handles : Handles) (first : Bool) :
    Nat → List Token → Option (List (Tree × Tree) × List Token)
  | 0, _ => none
  | _ + 1, .closeMapping :: rest => some ([], rest)
  | fuel + 1, tokens => do
    match ← afterComma first tokens with
    | .closeMapping :: rest => return ([], rest)
    | .key :: rest =>
      let (key, rest) ←
        readOptional handles false false (endsFlowKey .closeMapping rest) fuel rest
      let (value, rest) ← readFlowValue handles .closeMapping fuel rest
      let (entries, rest) ← readFlowEntries handles false fuel rest
      return ((key, value) :: entries, rest)
    | rest =>
      let (key, rest) ← readNode handles false false fuel rest
      let (entries, rest) ← readFlowEntries handles false fuel rest
      return ((key, missing) :: entries, rest)

end
/-! ## Documents -/

/-- Reads the directives in front of a document. -/
def readDirectives (version : Bool) (handles : Handles) :
    List Token → Option (Handles × List Token)
  | .version major minor :: rest =>
    if version || major ≠ 1 || (minor ≠ 1 && minor ≠ 2) then none
    else readDirectives true handles rest
  | .tagHandle handle start :: rest =>
    if (handles.lookup handle).isSome then none
    else readDirectives version (handles ++ [(handle, start)]) rest
  | rest => some (handles ++ standardHandles, rest)

/-- Whether a document with a start has no node. -/
def endsDocument : List Token → Bool
  | [] | .version _ _ :: _ | .tagHandle _ _ :: _ | .documentStart :: _ | .documentEnd :: _ => true
  | _ => false

/-- Reads a document with a start, after its directives. -/
def readStarted (handles : Handles) (fuel : Nat) :
    List Token → Option (Tree × List Token)
  | .documentStart :: rest =>
    if endsDocument rest then some (missing, rest) else readNode handles true false fuel rest
  | _ => none

/-- The document of some tokens, if there is one. -/
def ofTokens (tokens : List Token) : Option (Option Tree) := do
  let fuel := 4 * tokens.length + 4
  let (tree, rest) ←
    match tokens with
    | [] => return none
    | .version _ _ :: _ | .tagHandle _ _ :: _ | .documentStart :: _ => do
      let (handles, rest) ← readDirectives false [] tokens
      readStarted handles fuel rest
    | _ => readNode standardHandles true false fuel tokens
  if rest.all (· = .documentEnd) then return some tree else none

end Tree

end ServiceSchema.Yaml

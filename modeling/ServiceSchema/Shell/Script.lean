/-
Shell scripts, as far as simple compilers are written in them: commands with
redirections, pipelines, lists, conditions and loops over words.
-/
namespace ServiceSchema.Shell

/-- A part of a word. Only what is not quoted is split at blanks once it is expanded. -/
inductive Part where
  | text (cs : List Char) (quoted : Bool)
  | parameter (name : String) (quoted : Bool)
deriving DecidableEq, Repr

abbrev Word := List Part

/-- What becomes of a stream. -/
inductive Redirect where
  | input (path : Word)
  | output (stream : Nat) (append : Bool) (path : Word)
  /-- The stream goes where another one goes. -/
  | duplicate (stream other : Nat)

inductive Command where
  | simple (assignments : List (String × Word)) (words : List Word) (redirects : List Redirect)
  | pipe (first second : Command)
  | negation (c : Command)
  | both (first second : Command)
  | either (first second : Command)
  | sequence (first second : Command)
  | condition (test positive negative : Command)
  | loop (name : String) (words : List Word) (body : Command)
  /-- Repeats a command while the test before it succeeds, or while it fails. -/
  | repeating (wanted : Bool) (test body : Command)
  | redirected (c : Command) (redirects : List Redirect)
  /-- A command of which only the status counts for those after it. -/
  | subshell (c : Command)
  /-- A command that is not waited for. -/
  | background (c : Command)
  | nothing

/-! ## Tokens -/

inductive Token where
  | word (w : Word)
  /-- An operator between commands. -/
  | sign (s : String)
  | input
  | output (stream : Nat) (append : Bool)
  | duplicate (stream other : Nat)
deriving DecidableEq, Repr

def isBlank (c : Char) : Bool := c == ' ' || c == '\t'

def isNameChar (c : Char) : Bool := c.isAlphanum || c == '_'

/-- The characters that end a word. -/
def endsWord (c : Char) : Bool :=
  isBlank c || [';', '\n', '&', '|', '<', '>', '(', ')'].contains c

/-- The parameters with a name of one character. -/
def isSpecial (c : Char) : Bool := c.isDigit || ['@', '*', '#', '$', '?', '!', '-'].contains c

/-- Reads a parameter after its dollar sign; there is none when no name follows. -/
def readParameter (cs : List Char) : Option (String × List Char) :=
  match cs with
  | '\x7b' :: rest =>
    match rest.dropWhile (· != '\x7d') with
    | _ :: after => some (String.ofList (rest.takeWhile (· != '\x7d')), after)
    | [] => none
  | c :: rest =>
    if isSpecial c then some (c.toString, rest)
    else if isNameChar c then
      some (String.ofList (cs.takeWhile isNameChar), cs.dropWhile isNameChar)
    else none
  | [] => none

/-- Reads a text between double quotes up to the closing one. -/
def readDouble : Nat → List Char → Option (Word × List Char)
  | 0, _ | _, [] => none
  | _ + 1, '"' :: rest => some ([], rest)
  | fuel + 1, '\\' :: c :: rest => do
    let (w, after) ← readDouble fuel rest
    if c = '\n' then return (w, after)
    if ['$', '"', '\\'].contains c || c.toNat = 0x60 then return (.text [c] true :: w, after)
    return (.text ['\\', c] true :: w, after)
  | fuel + 1, '$' :: rest =>
    match readParameter rest with
    | some (name, rest) => do
      let (w, rest) ← readDouble fuel rest
      return (.parameter name true :: w, rest)
    | none => do
      let (w, rest) ← readDouble fuel rest
      return (.text ['$'] true :: w, rest)
  | fuel + 1, c :: rest => do
    let (w, rest) ← readDouble fuel rest
    return (.text [c] true :: w, rest)

/-- Reads a word. -/
def readWord : Nat → List Char → Option (Word × List Char)
  | 0, _ => none
  | _ + 1, [] => some ([], [])
  | fuel + 1, c :: rest =>
    if endsWord c then some ([], c :: rest)
    else if c = '\'' then
      match rest.dropWhile (· != '\'') with
      | _ :: after => do
        let (w, after) ← readWord fuel after
        return (.text (rest.takeWhile (· != '\'')) true :: w, after)
      | [] => none
    else if c = '"' then do
      let (quoted, rest) ← readDouble fuel rest
      let (w, rest) ← readWord fuel rest
      return ((if quoted = [.parameter "@" true] then [] else [.text [] true]) ++ quoted ++ w, rest)
    else if c = '\\' then
      match rest with
      | '\n' :: rest => readWord fuel rest
      | d :: rest => do
        let (w, rest) ← readWord fuel rest
        return (.text [d] true :: w, rest)
      | [] => some ([.text ['\\'] true], [])
    else if c = '$' then
      match readParameter rest with
      | some (name, rest) => do
        let (w, rest) ← readWord fuel rest
        return (.parameter name false :: w, rest)
      | none => do
        let (w, rest) ← readWord fuel rest
        return (.text ['$'] false :: w, rest)
    else do
      let (w, rest) ← readWord fuel rest
      return (.text [c] false :: w, rest)

/-- Reads what a redirection of a stream does, after its angle bracket. -/
def readOutput (stream : Nat) : List Char → Token × List Char
  | '>' :: rest => (.output stream true, rest)
  | '&' :: d :: rest =>
    if d.isDigit then (.duplicate stream (d.toNat - '0'.toNat), rest)
    else (.output stream false, '&' :: d :: rest)
  | rest => (.output stream false, rest)

/-- Cuts a script into tokens. -/
def tokens : Nat → List Char → Option (List Token)
  | 0, _ => none
  | _ + 1, [] => some []
  | fuel + 1, '&' :: '&' :: rest => (tokens fuel rest).map (.sign "&&" :: ·)
  | fuel + 1, '|' :: '|' :: rest => (tokens fuel rest).map (.sign "||" :: ·)
  | fuel + 1, '<' :: rest => (tokens fuel rest).map (.input :: ·)
  | fuel + 1, '>' :: rest =>
    let (token, rest) := readOutput 1 rest
    (tokens fuel rest).map (token :: ·)
  | fuel + 1, '1' :: '>' :: rest =>
    let (token, rest) := readOutput 1 rest
    (tokens fuel rest).map (token :: ·)
  | fuel + 1, '2' :: '>' :: rest =>
    let (token, rest) := readOutput 2 rest
    (tokens fuel rest).map (token :: ·)
  | fuel + 1, c :: rest =>
    if isBlank c then tokens fuel rest
    else if c = '#' then tokens fuel (rest.dropWhile (· != '\n'))
    else if c = '\n' then (tokens fuel rest).map (.sign ";" :: ·)
    else if [';', '&', '|', '(', ')'].contains c then (tokens fuel rest).map (.sign c.toString :: ·)
    else do
      let (w, rest) ← readWord (rest.length + 2) (c :: rest)
      return .word w :: (← tokens fuel rest)

/-! ## Commands -/

/-- The text of a word that has nothing quoted and no parameter in it. -/
def bareText? : Word → Option (List Char)
  | [] => some []
  | .text cs false :: rest => (bareText? rest).map (cs ++ ·)
  | _ => none

/-- Whether the next token is a given word of the language. -/
def sees (s : String) : List Token → Bool
  | .word w :: _ => bareText? w = some s.toList
  | _ => false

/-- The words that end a list of commands. -/
def closingWords : List String := ["then", "else", "elif", "fi", "do", "done", "\x7d"]

/-- Whether a list of commands ends here. -/
def endsList (ts : List Token) : Bool :=
  ts.isEmpty || ts.head? = some (.sign ")") || closingWords.any (sees · ts)

def skipSeparators (ts : List Token) : List Token := ts.dropWhile (· = .sign ";")

/-- An assignment in front of a command. -/
def assignment? (w : Word) : Option (String × Word) :=
  let plain := w.takeWhile fun
    | .text [c] false => c != '='
    | _ => false
  match w.drop plain.length, bareText? plain with
  | .text ['='] false :: value, some (c :: cs) =>
    if (c :: cs).all isNameChar && !c.isDigit then some (String.ofList (c :: cs), value) else none
  | _, _ => none

/-- Reads the words and redirections of a command. -/
def readSimple (assigning : Bool) :
    List Token → Option (List (String × Word) × List Word × List Redirect × List Token)
  | .word w :: rest =>
    match (if assigning then assignment? w else none) with
    | some a => do
      let (as, ws, rs, rest) ← readSimple true rest
      return (a :: as, ws, rs, rest)
    | none => do
      let (as, ws, rs, rest) ← readSimple false rest
      return (as, w :: ws, rs, rest)
  | .input :: .word w :: rest => do
    let (as, ws, rs, rest) ← readSimple assigning rest
    return (as, ws, .input w :: rs, rest)
  | .output stream append :: .word w :: rest => do
    let (as, ws, rs, rest) ← readSimple assigning rest
    return (as, ws, .output stream append w :: rs, rest)
  | .duplicate stream other :: rest => do
    let (as, ws, rs, rest) ← readSimple assigning rest
    return (as, ws, .duplicate stream other :: rs, rest)
  | .input :: _ | .output _ _ :: _ => none
  | rest => some ([], [], [], rest)

/-- Reads the redirections after a command that is not made of words. -/
def readRedirects : List Token → Option (List Redirect × List Token)
  | .input :: .word w :: rest => do
    let (rs, rest) ← readRedirects rest
    return (.input w :: rs, rest)
  | .output stream append :: .word w :: rest => do
    let (rs, rest) ← readRedirects rest
    return (.output stream append w :: rs, rest)
  | .duplicate stream other :: rest => do
    let (rs, rest) ← readRedirects rest
    return (.duplicate stream other :: rs, rest)
  | .input :: _ | .output _ _ :: _ | .word _ :: _ => none
  | rest => some ([], rest)

/-- Passes over a given word of the language. -/
def expectWord (s : String) (ts : List Token) : Option (List Token) :=
  if sees s ts then some (ts.drop 1) else none

/-- Reads the words of a loop up to the end of its line. -/
def readWords : List Token → List Word × List Token
  | .word w :: rest =>
    let (ws, rest) := readWords rest
    (w :: ws, rest)
  | rest => ([], rest)

mutual

/-- Reads commands up to the end of their list. -/
def readList : Nat → List Token → Option (Command × List Token)
  | 0, _ => none
  | fuel + 1, ts =>
    let ts := skipSeparators ts
    if endsList ts then some (.nothing, ts)
    else do
      let (first, ts) ← readChain fuel ts
      match ts with
      | .sign ";" :: rest =>
        let (more, ts) ← readList fuel rest
        return (.sequence first more, ts)
      | .sign "&" :: rest =>
        let (more, ts) ← readList fuel rest
        return (.sequence (.background first) more, ts)
      | ts => return (first, ts)

/-- Reads pipelines that depend on one another. -/
def readChain : Nat → List Token → Option (Command × List Token)
  | 0, _ => none
  | fuel + 1, ts => do
    let (first, ts) ← readPipeline fuel ts
    readChainAfter fuel first ts

def readChainAfter : Nat → Command → List Token → Option (Command × List Token)
  | 0, _, _ => none
  | fuel + 1, first, ts =>
    match ts with
    | .sign "&&" :: rest => do
      let (second, ts) ← readPipeline fuel (skipSeparators rest)
      readChainAfter fuel (.both first second) ts
    | .sign "||" :: rest => do
      let (second, ts) ← readPipeline fuel (skipSeparators rest)
      readChainAfter fuel (.either first second) ts
    | ts => some (first, ts)

def readPipeline : Nat → List Token → Option (Command × List Token)
  | 0, _ => none
  | fuel + 1, ts => do
    if sees "!" ts then
      let (c, ts) ← readPipeline fuel (ts.drop 1)
      return (.negation c, ts)
    let (first, ts) ← readCommand fuel ts
    match ts with
    | .sign "|" :: rest =>
      let (second, ts) ← readPipeline fuel (skipSeparators rest)
      return (.pipe first second, ts)
    | ts => return (first, ts)

/-- Reads one command. -/
def readCommand : Nat → List Token → Option (Command × List Token)
  | 0, _ => none
  | fuel + 1, ts => do
    match ← readCompound fuel ts with
    | some (c, ts) =>
      let (redirects, ts) ← readRedirects ts
      return (if redirects.isEmpty then c else .redirected c redirects, ts)
    | none =>
      let (assignments, words, redirects, rest) ← readSimple true ts
      if assignments.isEmpty && words.isEmpty && redirects.isEmpty then none
      else return (.simple assignments words redirects, rest)

/-- Reads a command that is made of others, if there is one. -/
def readCompound : Nat → List Token → Option (Option (Command × List Token))
  | 0, _ => none
  | fuel + 1, ts =>
    if sees "if" ts then (readCondition fuel (ts.drop 1)).map some
    else if sees "for" ts then (readLoop fuel (ts.drop 1)).map some
    else if sees "while" ts || sees "until" ts then do
      let (test, rest) ← readList fuel (ts.drop 1)
      let (body, rest) ← readList fuel (← expectWord "do" rest)
      return some (.repeating (sees "while" ts) test body, ← expectWord "done" rest)
    else if sees "\x7b" ts then do
      let (c, ts) ← readList fuel (ts.drop 1)
      return some (c, ← expectWord "\x7d" ts)
    else match ts with
      | .sign "(" :: rest => do
        match ← readList fuel rest with
        | (c, .sign ")" :: rest) => return some (.subshell c, rest)
        | _ => none
      | _ => some none

/-- Reads a condition after its first word. -/
def readCondition : Nat → List Token → Option (Command × List Token)
  | 0, _ => none
  | fuel + 1, ts => do
    let (test, ts) ← readList fuel ts
    let (positive, ts) ← readList fuel (← expectWord "then" ts)
    if sees "elif" ts then
      let (negative, ts) ← readCondition fuel (ts.drop 1)
      return (.condition test positive negative, ts)
    if sees "else" ts then
      let (negative, ts) ← readList fuel (ts.drop 1)
      return (.condition test positive negative, ← expectWord "fi" ts)
    return (.condition test positive .nothing, ← expectWord "fi" ts)

/-- Reads a loop after its first word. -/
def readLoop : Nat → List Token → Option (Command × List Token)
  | 0, _ => none
  | fuel + 1, ts =>
    match ts with
    | .word w :: rest => do
      let name ← bareText? w
      let (words, rest) :=
        if sees "in" rest then readWords (rest.drop 1) else ([[.parameter "@" true]], rest)
      let (body, ts) ← readList fuel (← expectWord "do" (skipSeparators rest))
      return (.loop (String.ofList name) words body, ← expectWord "done" ts)
    | _ => none

end

/-- The command that a script is. -/
def parse? (script : String) : Option Command := do
  let ts ← tokens (script.length + 1) script.toList
  let (c, rest) ← readList (8 * ts.length + 16) ts
  if rest.isEmpty then some c else none

end ServiceSchema.Shell

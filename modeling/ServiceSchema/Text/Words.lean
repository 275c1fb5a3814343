/-
The words of a name, and the two spellings built from them. A word is made of
ASCII letters and digits; every other character separates. Inside a run of them a
new word starts at an upper-case letter after a lower-case letter or a digit, and
at the last letter of an upper-case run that a lower-case letter follows, so that
`HTTPServer2Go` has the words `HTTP`, `Server2` and `Go`.
-/
namespace ServiceSchema.Text

/-- The pieces between the characters that satisfy `sep`, empty ones included. -/
def splitBy (sep : Char → Bool) : List Char → List (List Char)
  | [] => [[]]
  | c :: rest =>
    match splitBy sep rest with
    | [] => [[c]]
    | piece :: more => if sep c then [] :: piece :: more else (c :: piece) :: more

/-- Whether a word starts at `c`, between the character before it and the rest of
its run. -/
def startsWord (prev c : Char) (rest : List Char) : Bool :=
  c.isUpper &&
    (prev.isLower || prev.isDigit || (prev.isUpper && (rest.head?.map Char.isLower).getD false))

/-- Cuts what follows `prev` in a run before every letter that starts a word. The
first piece belongs to the word of `prev`, and may be empty. -/
def cutAfter (prev : Char) : List Char → List (List Char)
  | [] => [[]]
  | c :: rest =>
    match cutAfter c rest with
    | [] => [[c]]
    | piece :: more =>
      if startsWord prev c rest then [] :: (c :: piece) :: more else (c :: piece) :: more

/-- The words of one run of letters and digits. -/
def runWords : List Char → List (List Char)
  | [] => []
  | c :: rest =>
    match cutAfter c rest with
    | [] => [[c]]
    | piece :: more => (c :: piece) :: more

def words (cs : List Char) : List (List Char) :=
  (splitBy (fun c => !c.isAlphanum) cs).flatMap runWords

/-- A word with its first letter in upper case and the others as they are. -/
def capitalised : List Char → List Char
  | [] => []
  | c :: rest => c.toUpper :: rest

/-- The words joined with their first letters in upper case, as in `WidgetService`. -/
def camelCase (s : String) : String :=
  String.ofList ((words s.toList).flatMap capitalised)

/-- The words in lower case with underscores between them, as in `widget_service`. -/
def snakeCase (s : String) : String :=
  "_".intercalate ((words s.toList).map fun word => String.ofList (word.map Char.toLower))

end ServiceSchema.Text

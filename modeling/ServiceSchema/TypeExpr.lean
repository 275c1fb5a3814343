/-
Type expressions, as they are written in a manifest: the name of a scalar or a
record, `[T]` or `list<T>`, and `map<K, V>`, with blanks around every part.

The reader works from the outside in: it takes off the outer brackets, splits what
is inside at the commas that no bracket encloses, and reads each piece. Where that
fails it says which piece it was reading and what is wrong with it.
-/
import ServiceSchema.Shape
import ServiceSchema.Text.Blank

namespace ServiceSchema

inductive TypeExpr where
  | scalar (kind : Scalar)
  | list (element : TypeExpr)
  | map (key value : TypeExpr)
  /-- A record, to be looked up by its name. -/
  | named (name : String)
deriving DecidableEq, Repr

/-- What is wrong with a text that is no type expression. -/
inductive TypeFault where
  | empty
  | missingBracket
  | straySign
  | textAfterArguments
  | unbalanced
  | listArity
  | mapArity
  | noArguments
  | notAName
deriving DecidableEq, Repr

def TypeFault.reason : TypeFault → String
  | .empty => "empty type"
  | .missingBracket => "missing closing `]`"
  | .straySign => "unbalanced `>`"
  | .textAfterArguments => "type arguments must close the expression"
  | .unbalanced => "unbalanced brackets"
  | .listArity => "`list` takes one type argument"
  | .mapArity => "`map` takes two type arguments"
  | .noArguments => "only `list` and `map` take type arguments"
  | .notAName => "not a type name"

/-- A piece of a type expression that cannot be read. -/
structure MalformedType where
  expr : String
  fault : TypeFault
deriving DecidableEq, Repr

def MalformedType.message (m : MalformedType) : String :=
  "malformed type expression `" ++ m.expr ++ "`: " ++ m.fault.reason

namespace TypeExpr

/-- The scalar that a name stands for. -/
def scalarNamed? : String → Option Scalar
  | "i8" => some .int8
  | "i16" => some .int16
  | "i32" | "int32" => some .int32
  | "i64" | "int64" => some .int64
  | "u8" => some .uint8
  | "u16" => some .uint16
  | "u32" | "uint32" => some .uint32
  | "u64" | "uint64" => some .uint64
  | "f32" | "float" => some .float32
  | "f64" | "double" => some .float64
  | "bool" => some .bool
  | "string" | "String" => some .text
  | "timestamp" => some .timestamp
  | "duration" => some .duration
  | _ => none

def startsName (c : Char) : Bool := c.isAlpha || c == '_'

def continuesName (c : Char) : Bool := c.isAlphanum || c == '_' || c == '.'

/-- Whether a text is a name: a letter or underscore, then letters, digits,
underscores and dots, all of them ASCII. -/
def isName : List Char → Bool
  | [] => false
  | c :: rest => startsName c && rest.all continuesName

/-- The type that a name stands for by itself. -/
def ofName (name : String) : TypeExpr :=
  match scalarNamed? name with
  | some kind => .scalar kind
  | none => .named name

/-- A text without the given last character. -/
def dropFinal? (c : Char) (cs : List Char) : Option (List Char) :=
  if cs.getLast? = some c then some cs.dropLast else none

def opens (c : Char) : Bool := c == '<' || c == '['

def closes (c : Char) : Bool := c == '>' || c == ']'

/-- Puts a character in front of the first piece. -/
def prepend (c : Char) : List (List Char) → List (List Char)
  | [] => [[c]]
  | piece :: more => (c :: piece) :: more

/-- Splits at the commas that no bracket encloses, `depth` brackets being open.
There is no answer when a bracket closes that is not open, or stays open. -/
def splitTopLevel? (depth : Nat) : List Char → Option (List (List Char))
  | [] => if depth = 0 then some [[]] else none
  | c :: rest =>
    if opens c then (splitTopLevel? (depth + 1) rest).map (prepend c)
    else if closes c then
      if depth = 0 then none else (splitTopLevel? (depth - 1) rest).map (prepend c)
    else if c = ',' ∧ depth = 0 then (splitTopLevel? 0 rest).map ([] :: ·)
    else (splitTopLevel? depth rest).map (prepend c)

/-- A text with an angle bracket in it, cut into what stands before the first one
and what it encloses; `none` for a text without angle brackets. -/
def splitArguments (expr : List Char) : Except TypeFault (Option (List Char × List Char)) :=
  match expr.dropWhile (· != '<') with
  | [] => if expr.contains '>' then .error .straySign else .ok none
  | _ :: rest =>
    match dropFinal? '>' rest with
    | none => .error .textAfterArguments
    | some args => .ok (some (Text.trimmed (expr.takeWhile (· != '<')), args))

/-! ## Each step leaves less to read -/

theorem length_dropFinal? {c : Char} {cs inner : List Char} (h : dropFinal? c cs = some inner) :
    inner.length ≤ cs.length := by
  unfold dropFinal? at h
  split at h
  · cases h; simp
  · cases h

theorem mem_prepend {c : Char} {pieces : List (List Char)} {p : List Char}
    (h : p ∈ prepend c pieces) : p = [c] ∨ p ∈ pieces ∨ ∃ q ∈ pieces, p = c :: q := by
  cases pieces with
  | nil => simp [prepend] at h; exact .inl h
  | cons q more =>
    simp only [prepend, List.mem_cons] at h
    rcases h with rfl | h
    · exact .inr (.inr ⟨q, List.mem_cons_self, rfl⟩)
    · exact .inr (.inl (List.mem_cons_of_mem _ h))

theorem length_of_mem_prepend {c : Char} {pieces : List (List Char)} {p : List Char} {n : Nat}
    (hn : ∀ q ∈ pieces, q.length ≤ n) (h : p ∈ prepend c pieces) : p.length ≤ n + 1 := by
  rcases mem_prepend h with rfl | h | ⟨q, hq, rfl⟩
  · simp
  · exact Nat.le_succ_of_le (hn p h)
  · simpa using hn q hq

theorem length_of_mem_splitTopLevel? {depth : Nat} {cs : List Char} {pieces : List (List Char)}
    (h : splitTopLevel? depth cs = some pieces) : ∀ p ∈ pieces, p.length ≤ cs.length := by
  induction cs generalizing depth pieces with
  | nil =>
    unfold splitTopLevel? at h
    split at h
    · cases h; simp
    · cases h
  | cons c rest ih =>
    intro p hp
    rw [List.length_cons]
    unfold splitTopLevel? at h
    split at h
    · obtain ⟨ps, hps, rfl⟩ := Option.map_eq_some_iff.1 h
      exact length_of_mem_prepend (ih hps) hp
    · split at h
      · split at h
        · cases h
        · obtain ⟨ps, hps, rfl⟩ := Option.map_eq_some_iff.1 h
          exact length_of_mem_prepend (ih hps) hp
      · split at h
        · obtain ⟨ps, hps, rfl⟩ := Option.map_eq_some_iff.1 h
          rcases List.mem_cons.1 hp with rfl | hp
          · simp
          · exact Nat.le_succ_of_le (ih hps p hp)
        · obtain ⟨ps, hps, rfl⟩ := Option.map_eq_some_iff.1 h
          exact length_of_mem_prepend (ih hps) hp

theorem length_splitArguments {expr head args : List Char}
    (h : splitArguments expr = .ok (some (head, args))) : args.length < expr.length := by
  unfold splitArguments at h
  split at h
  · split at h <;> simp at h
  · rename_i c rest heq
    have hl : (expr.dropWhile (· != '<')).length ≤ expr.length :=
      (List.dropWhile_sublist _).length_le
    rw [heq, List.length_cons] at hl
    split at h
    · cases h
    · rename_i inner hinner
      have := length_dropFinal? hinner
      simp only [Except.ok.injEq, Option.some.injEq, Prod.mk.injEq] at h
      obtain ⟨-, rfl⟩ := h
      omega

/-! ## Reading -/

set_option linter.unusedVariables false in
/-- Reads a type expression. -/
def read (input : List Char) : Except MalformedType TypeExpr :=
  let malformed := fun fault => Except.error ⟨String.ofList input, fault⟩
  match hexpr : Text.trimmed input with
  | [] => malformed .empty
  | c :: rest =>
    if c = '[' then
      match hinner : dropFinal? ']' rest with
      | none => malformed .missingBracket
      | some inner => (read inner).map .list
    else
      match hargs : splitArguments (c :: rest) with
      | .error fault => malformed fault
      | .ok none =>
        if isName (c :: rest) then .ok (ofName (String.ofList (c :: rest)))
        else malformed .notAName
      | .ok (some (head, args)) =>
        match hpieces : splitTopLevel? 0 args with
        | none => malformed .unbalanced
        | some pieces =>
          if head = ['l', 'i', 's', 't'] then
            match pieces with
            | [element] => (read element).map .list
            | _ => malformed .listArity
          else if head = ['m', 'a', 'p'] then
            match pieces with
            | [key, value] => do
              let key ← read key
              let value ← read value
              return .map key value
            | _ => malformed .mapArity
          else malformed .noArguments
termination_by input.length
decreasing_by
  all_goals
    have hlen := Text.length_trimmed_le input
    rw [hexpr, List.length_cons] at hlen
  · have := length_dropFinal? hinner
    omega
  all_goals
    have hlt := length_splitArguments hargs
    rw [List.length_cons] at hlt
    have hle := length_of_mem_splitTopLevel? hpieces
  · have := hle element (by simp)
    omega
  · have := hle key (by simp)
    omega
  · have := hle value (by simp)
    omega

/-- Reads a type expression from a text. -/
def parse (input : String) : Except MalformedType TypeExpr :=
  read input.toList

end TypeExpr

end ServiceSchema

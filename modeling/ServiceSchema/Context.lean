/-
The context of a call: values under a closed set of keys, at most one for each.
-/
import ServiceSchema.Text.LowerCase

namespace ServiceSchema

/-- An authenticated caller. -/
structure User where
  id : UInt64
  username : String
deriving DecidableEq, Repr

inductive ContextKey where
  | requestId | user | traceId | locale | clientAddress
deriving DecidableEq, Repr

inductive ContextValue where
  | text (s : String)
  | integer (n : Int64)
  | flag (b : Bool)
  | user (u : User)
deriving DecidableEq

/-- The values of a context, as a function of the key. -/
structure Context where
  value? : ContextKey → Option ContextValue

namespace Context

def empty : Context := ⟨fun _ => none⟩

def get? (c : Context) (key : ContextKey) : Option ContextValue := c.value? key

def contains (c : Context) (key : ContextKey) : Bool := (c.get? key).isSome

/-- Puts a value under a key, in place of the one it had. -/
def set (c : Context) (key : ContextKey) (value : ContextValue) : Context :=
  ⟨fun k => if k = key then some value else c.value? k⟩

def erase (c : Context) (key : ContextKey) : Context :=
  ⟨fun k => if k = key then none else c.value? k⟩

/-- The caller, when authentication has identified one. -/
def user? (c : Context) : Option User :=
  match c.get? .user with
  | some (.user u) => some u
  | _ => none

def requestId? (c : Context) : Option String :=
  match c.get? .requestId with
  | some (.text s) => some s
  | _ => none

theorem get?_set_self (c : Context) (key : ContextKey) (value : ContextValue) :
    (c.set key value).get? key = some value := by
  simp [set, get?]

theorem get?_set_other (c : Context) {key key' : ContextKey} (value : ContextValue)
    (h : key' ≠ key) : (c.set key value).get? key' = c.get? key' := by
  simp [set, get?, h]

end Context

end ServiceSchema

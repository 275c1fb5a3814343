/-
Who may call a handler. A handler asks for claims, any one of which admits a
caller, and for permissions, all of which the caller must hold. Backends decide;
they are arbitrary functions of the context of the call.
-/
import ServiceSchema.Context

namespace ServiceSchema

/-- The kinds of caller that a handler admits. -/
structure Claims where
  any : Bool := false
  authenticated : Bool := false
  admin : Bool := false
  owner : Bool := false
deriving DecidableEq, Repr

namespace Claims

def none : Claims := {}

/-- Everybody, with or without an identity. -/
def anyone : Claims := { any := true }

def union (a b : Claims) : Claims :=
  ⟨a.any || b.any, a.authenticated || b.authenticated, a.admin || b.admin, a.owner || b.owner⟩

/-- Whether some kind of caller is in both. -/
def intersects (a b : Claims) : Bool :=
  (a.any && b.any) || (a.authenticated && b.authenticated) || (a.admin && b.admin) ||
    (a.owner && b.owner)

def isEmpty (c : Claims) : Bool := c = none

/-- The claims as a number, a bit for each kind. -/
def bits (c : Claims) : Nat :=
  c.any.toNat + 2 * c.authenticated.toNat + 4 * c.admin.toNat + 8 * c.owner.toNat

def ofBits (n : Nat) : Claims :=
  ⟨n.testBit 0, n.testBit 1, n.testBit 2, n.testBit 3⟩

/-- Reads the name of one kind of caller in any mixture of cases, between blank
characters. -/
def ofName? (s : String) : Option Claims :=
  match Text.asciiLower (Text.trim s) with
  | "any" => some anyone
  | "authenticated" => some { authenticated := true }
  | "admin" => some { admin := true }
  | "owner" => some { owner := true }
  | _ => Option.none

end Claims

/-- A named capability, such as `widgets.write`. -/
abbrev Permission := String

/-- The outcome of an authentication. -/
inductive Decision where
  /-- The caller may proceed, and may have been identified. -/
  | allow (user : Option User)
  | deny
deriving DecidableEq, Repr

/-- A backend that could not decide. -/
inductive SecurityError where
  | unavailable (reason : String)
  | invalidCredentials (reason : String)
deriving DecidableEq, Repr

def SecurityError.message : SecurityError → String
  | .unavailable reason => "authentication backend unavailable: " ++ reason
  | .invalidCredentials reason => "invalid credentials: " ++ reason

/-- Decides whether the caller of a context satisfies the claims of a handler. -/
abbrev AuthenticationBackend := Context → Claims → Except SecurityError Decision

/-- Decides whether the caller of a context holds all of some permissions. -/
structure PermissionBackend where
  granted : Context → List Permission
  holds : Context → List Permission → Bool :=
    fun context required => required.all fun p => (granted context).contains p

end ServiceSchema

/-
Simple backends: with one answer to everything, by the claims asked for, by the
presence of a request id, and by a table of granted permissions.
-/
import ServiceSchema.Keyed.Table
import ServiceSchema.Security

namespace ServiceSchema

namespace AuthenticationBackend

/-- Always gives the same answer. -/
def always (answer : Except SecurityError Decision) : AuthenticationBackend := fun _ _ => answer

/-- Admits a user to handlers that ask for one of the given claims. -/
def byClaims (held : Claims) (user : Option User) : AuthenticationBackend := fun _ asked =>
  .ok (if held.intersects asked then .allow user else .deny)

/-- Admits calls that carry a request id, without identifying anybody. -/
def byRequestId : AuthenticationBackend := fun context _ =>
  .ok (if context.requestId?.isSome then .allow none else .deny)

end AuthenticationBackend

namespace PermissionBackend

/-- Grants the permissions listed for the name of the user in the context, which is
empty when there is none. -/
def byName (granted : Table (List Permission)) : PermissionBackend where
  granted context := (granted.get? ((context.user?.map (·.username)).getD "")).getD []

end PermissionBackend

end ServiceSchema

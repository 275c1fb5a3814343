/-
What stands between a call and the body of a handler (`call_gated`). The body runs exactly when
an endpoint of the name is registered and admits the call: authentication, then permissions in
the context that authentication leaves, then decoding. It runs once. Otherwise the answer is the
error of the first of these that fails, and no body has run.

Bodies are arbitrary functions, so whether one runs shows in what a call gives when all bodies
are replaced (`mapBodies`): a call in which none runs gives the same, and a call in which one
runs gives what its replacement gives, run once.
-/
import ServiceSchema.Proofs.App.Registration
import ServiceSchema.Samples.Handlers
import ServiceSchema.Security.Backends

namespace ServiceSchema

/-- The default of a backend: the caller holds permissions when each of them is granted. -/
theorem PermissionBackend.holds_of_granted (granted : Context → List Permission) (context : Context)
    (required : List Permission) :
    ({ granted } : PermissionBackend).holds context required = true ↔
      ∀ p ∈ required, p ∈ granted context := by
  simp

theorem TypedHandler.prepare_eq_ok_iff {Request Response : Type} (h : TypedHandler Request Response)
    {request : Json} {body : Body} :
    h.toEndpoint.prepare request = .ok body ↔
      ∃ r, h.decode .memory request.sorted.toNode = .ok r ∧ body = h.body r := by
  simp only [TypedHandler.toEndpoint, TypedHandler.prepare]
  cases h.decode .memory request.sorted.toNode with
  | error error => simp [Except.map]
  | ok r => simp [Except.map, eq_comm]

/-- A body that fails exactly where another one succeeds. -/
def Body.contrary (body : Body) : Body := fun context =>
  match (body context).1 with
  | .ok _ => (.error (.failed []), context)
  | .error _ => (.ok .null, context)

namespace Endpoint

/-- The end of a call in which a body has run. -/
def conclude (e : Endpoint) (run : Except BodyError Json × Context) :
    Except CallError Json × Context :=
  (run.1.mapError (.ofBody e.name), run.2)

/-- The endpoint with other bodies. -/
def mapBody (e : Endpoint) (f : Body → Body) : Endpoint :=
  { e with prepare := fun request => (e.prepare request).map f }

theorem conclude_contrary_ne (e : Endpoint) (body : Body) (context : Context) :
    e.conclude (body.contrary context) ≠ e.conclude (body context) := by
  cases h : (body context).1 <;> simp [conclude, Body.contrary, h, Except.mapError]

end Endpoint

namespace App

/-! ## The checks of an endpoint -/

/-- The claims of an endpoint are satisfied. The second context is the first one with what
authentication has put into it. -/
inductive Authenticates (a : App) (e : Endpoint) (context : Context) : Context → Prop
  | anyone : e.authentication.any = true → Authenticates a e context context
  | anonymous {backend : AuthenticationBackend} : e.authentication.any = false →
      a.authentication = some backend →
      backend context e.authentication = .ok (.allow none) → Authenticates a e context context
  | identified {backend : AuthenticationBackend} {user : User} : e.authentication.any = false →
      a.authentication = some backend →
      backend context e.authentication = .ok (.allow (some user)) →
      Authenticates a e context (context.set .user (.user user))

/-- An endpoint asks for no permission, or a backend tells that the caller holds them all. -/
def Permits (a : App) (e : Endpoint) (context : Context) : Prop :=
  e.permissions = [] ∨
    ∃ backend, a.permissions = some backend ∧ backend.holds context e.permissions = true

/-- A call of an endpoint passes all checks, and `body` is to run in `context'`. -/
structure Admits (a : App) (e : Endpoint) (context : Context) (request : Json) (body : Body)
    (context' : Context) : Prop where
  authenticates : a.Authenticates e context context'
  permits : a.Permits e context'
  decodes : e.prepare request = .ok body

/-- The first check that a call of an endpoint fails, by its error, and the context at that
point. The checks stand in order; each asks that those before it are passed. -/
inductive Refuses (a : App) (e : Endpoint) (context : Context) (request : Json) :
    CallError → Context → Prop
  | noAuthentication : e.authentication.any = false → a.authentication = none →
      Refuses a e context request (.missingBackend e.name .authentication) context
  | undecided {backend : AuthenticationBackend} {error : SecurityError} :
      e.authentication.any = false → a.authentication = some backend →
      backend context e.authentication = .error error →
      Refuses a e context request (.security error) context
  | unauthenticated {backend : AuthenticationBackend} :
      e.authentication.any = false → a.authentication = some backend →
      backend context e.authentication = .ok .deny →
      Refuses a e context request (.unauthenticated e.name) context
  | noPermissions {context' : Context} : a.Authenticates e context context' →
      e.permissions ≠ [] → a.permissions = none →
      Refuses a e context request (.missingBackend e.name .permissions) context'
  | forbidden {context' : Context} {backend : PermissionBackend} :
      a.Authenticates e context context' → e.permissions ≠ [] → a.permissions = some backend →
      backend.holds context' e.permissions = false →
      Refuses a e context request (.forbidden e.name) context'
  | invalidRequest {context' : Context} {error : DecodeError} :
      a.Authenticates e context context' → a.Permits e context' →
      e.prepare request = .error error →
      Refuses a e context request (.invalidRequest e.name error) context'

variable {a : App} {e : Endpoint} {context context' : Context} {request : Json} {body : Body}
  {error : CallError} {name : String}

theorem authenticate_of_authenticates (h : a.Authenticates e context context') :
    a.authenticate e context = .ok context' := by
  cases h with
  | anyone hany => simp [authenticate, hany]
  | anonymous hany hbackend hallow => simp [authenticate, hany, hbackend, hallow]
  | identified hany hbackend hallow => simp [authenticate, hany, hbackend, hallow]

theorem authorize_of_permits (h : a.Permits e context) : a.authorize e context = .ok () := by
  rcases h with hnone | ⟨backend, hbackend, hholds⟩
  · simp [authorize, hnone]
  · simp [authorize, hbackend, hholds]

theorem screen_of_admits (h : a.Admits e context request body context') :
    a.screen e context request = (.ok body, context') := by
  simp [screen, authenticate_of_authenticates h.authenticates, authorize_of_permits h.permits,
    h.decodes, Except.mapError]

theorem screen_of_refuses (h : a.Refuses e context request error context') :
    a.screen e context request = (.error error, context') := by
  cases h with
  | noAuthentication hany hbackend => simp [screen, authenticate, hany, hbackend]
  | undecided hany hbackend herror => simp [screen, authenticate, hany, hbackend, herror]
  | unauthenticated hany hbackend hdeny => simp [screen, authenticate, hany, hbackend, hdeny]
  | noPermissions hauth hne hbackend =>
    simp [screen, authenticate_of_authenticates hauth, authorize, hne, hbackend]
  | forbidden hauth hne hbackend hholds =>
    simp [screen, authenticate_of_authenticates hauth, authorize, hne, hbackend, hholds]
  | invalidRequest hauth hpermits herror =>
    simp [screen, authenticate_of_authenticates hauth, authorize_of_permits hpermits, herror,
      Except.mapError]

theorem authenticates_or_refuses (a : App) (e : Endpoint) (context : Context) (request : Json) :
    (∃ context', a.Authenticates e context context') ∨
      ∃ error, a.Refuses e context request error context := by
  cases hany : e.authentication.any with
  | true => exact .inl ⟨context, .anyone hany⟩
  | false =>
    cases hbackend : a.authentication with
    | none => exact .inr ⟨_, .noAuthentication hany hbackend⟩
    | some backend =>
      cases hanswer : backend context e.authentication with
      | error error => exact .inr ⟨_, .undecided hany hbackend hanswer⟩
      | ok decision =>
        cases decision with
        | deny => exact .inr ⟨_, .unauthenticated hany hbackend hanswer⟩
        | allow user =>
          cases user with
          | none => exact .inl ⟨_, .anonymous hany hbackend hanswer⟩
          | some user => exact .inl ⟨_, .identified hany hbackend hanswer⟩

theorem permits_or_refuses (request : Json) (hauth : a.Authenticates e context context') :
    a.Permits e context' ∨ ∃ error, a.Refuses e context request error context' := by
  by_cases hnone : e.permissions = []
  · exact .inl (.inl hnone)
  · cases hbackend : a.permissions with
    | none => exact .inr ⟨_, .noPermissions hauth hnone hbackend⟩
    | some backend =>
      cases hholds : backend.holds context' e.permissions with
      | true => exact .inl (.inr ⟨backend, hbackend, hholds⟩)
      | false => exact .inr ⟨_, .forbidden hauth hnone hbackend hholds⟩

/-- A call of an endpoint passes all checks, or there is a first one that it fails. -/
theorem admits_or_refuses (a : App) (e : Endpoint) (context : Context) (request : Json) :
    (∃ body context', a.Admits e context request body context') ∨
      ∃ error context', a.Refuses e context request error context' := by
  rcases a.authenticates_or_refuses e context request with ⟨context', hauth⟩ | ⟨error, h⟩
  · rcases permits_or_refuses request hauth with hpermits | ⟨error, h⟩
    · cases hprepare : e.prepare request with
      | ok body => exact .inl ⟨body, context', hauth, hpermits, hprepare⟩
      | error error => exact .inr ⟨_, context', .invalidRequest hauth hpermits hprepare⟩
    · exact .inr ⟨error, context', h⟩
  · exact .inr ⟨error, context, h⟩

/-! ## Calls -/

/-- How a call fails before any body runs: there is no endpoint of the name, or the endpoint
refuses the call. -/
inductive Rejects (a : App) (name : String) (context : Context) (request : Json) :
    CallError → Context → Prop
  | unknownHandler : (∀ e ∈ a.endpoints, e.name ≠ name) →
      Rejects a name context request (.unknownHandler name) context
  | refused {e : Endpoint} {error : CallError} {context' : Context} :
      e ∈ a.endpoints → e.name = name → a.Refuses e context request error context' →
      Rejects a name context request error context'

/-- A call is admitted by the endpoint of its name, or rejected. -/
theorem admits_or_rejects (a : App) (name : String) (context : Context) (request : Json) :
    (∃ e ∈ a.endpoints, e.name = name ∧ ∃ body context', a.Admits e context request body context') ∨
      ∃ error context', a.Rejects name context request error context' := by
  cases hfind : a.find? name with
  | none => exact .inr ⟨_, _, .unknownHandler (find?_eq_none_iff.1 hfind)⟩
  | some e =>
    have hmem : e ∈ a.endpoints := List.mem_of_find?_eq_some hfind
    have hname : e.name = name := by simpa using List.find?_some hfind
    rcases a.admits_or_refuses e context request with hadmits | ⟨error, context', hrefuses⟩
    · exact .inl ⟨e, hmem, hname, hadmits⟩
    · exact .inr ⟨error, context', .refused hmem hname hrefuses⟩

section

variable (hnames : a.names.Nodup)

include hnames

theorem call_of_admits (hmem : e ∈ a.endpoints) (hname : e.name = name)
    (h : a.Admits e context request body context') :
    a.call name context request = e.conclude (body context') := by
  simp only [call, (find?_eq_some_iff hnames).2 ⟨hmem, hname⟩, screen_of_admits h,
    Endpoint.conclude]
  rcases body context' with ⟨_ | _, _⟩ <;> rfl

theorem call_of_rejects (h : a.Rejects name context request error context') :
    a.call name context request = (.error error, context') := by
  cases h with
  | unknownHandler hnone => simp only [call, find?_eq_none_iff.2 hnone]
  | refused hmem hname h =>
    simp only [call, (find?_eq_some_iff hnames).2 ⟨hmem, hname⟩, screen_of_refuses h]

end

/-! ## Calls with other bodies -/

/-- The application in which each body has another one in its place. -/
def mapBodies (a : App) (f : Body → Body) : App :=
  { a with endpoints := a.endpoints.map (·.mapBody f) }

/-- A body runs in a call: what the call gives depends on the bodies. -/
def Runs (a : App) (name : String) (context : Context) (request : Json) : Prop :=
  ∃ f, (a.mapBodies f).call name context request ≠ a.call name context request

variable {f : Body → Body}

theorem names_mapBodies : (a.mapBodies f).names = a.names := by
  simp [names, mapBodies, Endpoint.mapBody]

theorem Authenticates.mapBodies (h : a.Authenticates e context context') :
    (a.mapBodies f).Authenticates (e.mapBody f) context context' := by
  cases h with
  | anyone hany => exact .anyone hany
  | anonymous hany hbackend hallow => exact .anonymous hany hbackend hallow
  | identified hany hbackend hallow => exact .identified hany hbackend hallow

theorem Admits.mapBodies (h : a.Admits e context request body context') :
    (a.mapBodies f).Admits (e.mapBody f) context request (f body) context' where
  authenticates := h.authenticates.mapBodies
  permits := h.permits
  decodes := by simp [Endpoint.mapBody, h.decodes, Except.map]

theorem Refuses.mapBodies (h : a.Refuses e context request error context') :
    (a.mapBodies f).Refuses (e.mapBody f) context request error context' := by
  cases h with
  | noAuthentication hany hbackend => exact .noAuthentication hany hbackend
  | undecided hany hbackend herror => exact .undecided hany hbackend herror
  | unauthenticated hany hbackend hdeny => exact .unauthenticated hany hbackend hdeny
  | noPermissions hauth hne hbackend => exact .noPermissions hauth.mapBodies hne hbackend
  | forbidden hauth hne hbackend hholds => exact .forbidden hauth.mapBodies hne hbackend hholds
  | invalidRequest hauth hpermits herror =>
    exact .invalidRequest hauth.mapBodies hpermits (by simp [Endpoint.mapBody, herror, Except.map])

theorem Rejects.mapBodies (h : a.Rejects name context request error context') :
    (a.mapBodies f).Rejects name context request error context' := by
  cases h with
  | unknownHandler hnone => exact .unknownHandler (List.forall_mem_map.2 hnone)
  | refused hmem hname h => exact .refused (List.mem_map_of_mem hmem) hname h.mapBodies

section

variable (hnames : a.names.Nodup)

include hnames

/-- A call that is admitted runs what stands in place of the body, once. -/
theorem call_mapBodies_of_admits (hmem : e ∈ a.endpoints) (hname : e.name = name)
    (h : a.Admits e context request body context') (f : Body → Body) :
    (a.mapBodies f).call name context request = e.conclude (f body context') := by
  have hmem' : e.mapBody f ∈ (a.mapBodies f).endpoints := List.mem_map_of_mem hmem
  rw [call_of_admits (by rwa [names_mapBodies]) hmem' hname h.mapBodies]
  rfl

theorem runs_of_admits (hmem : e ∈ a.endpoints) (hname : e.name = name)
    (h : a.Admits e context request body context') : a.Runs name context request := by
  refine ⟨Body.contrary, ?_⟩
  rw [call_mapBodies_of_admits hnames hmem hname h, call_of_admits hnames hmem hname h]
  exact e.conclude_contrary_ne body context'

theorem not_runs_of_rejects (h : a.Rejects name context request error context') :
    ¬ a.Runs name context request := by
  intro hruns
  obtain ⟨f, hf⟩ := hruns
  rw [call_of_rejects hnames h, call_of_rejects (by rwa [names_mapBodies]) h.mapBodies] at hf
  exact hf rfl

end

open Samples

def alice : User := ⟨9, "alice"⟩

/-- An application in which a caller is identified, and is granted permissions by name. -/
def sampleApp : App :=
  build "Widget Service"
    [.authentication (.byClaims { authenticated := true } (some alice)),
      .register updateWidget.toEndpoint, .register chain.toEndpoint,
      .permissions (.byName (Table.ofList [("alice", ["widgets.write"])]))]

def sampleRequest : Json := .object [("id", .integer 7), ("parts", .array [])]

theorem admits_sampleRequest :
    sampleApp.Admits updateWidget.toEndpoint .empty sampleRequest (updateWidget.body ⟨7, []⟩)
      (Context.empty.set .user (.user alice)) where
  authenticates := .identified rfl rfl rfl
  permits := .inr ⟨_, rfl, by decide⟩
  decodes := rfl

theorem refuses_null :
    sampleApp.Refuses updateWidget.toEndpoint .empty .null
      (.invalidRequest "UpdateWidget" (.invalidType .null (.record "UpdateWidgetRequest")))
      (Context.empty.set .user (.user alice)) :=
  .invalidRequest admits_sampleRequest.authenticates admits_sampleRequest.permits rfl

end App

end ServiceSchema

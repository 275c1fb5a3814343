/-
What a call does to its context (`call_frame`). Before a body runs, one thing can happen to it: when
the authentication backend is consulted and identifies a user, that user is put under its key. A
call that ends before its body leaves the context so, whatever the error; the errors that come
before a caller is identified leave it as it was, and so do the checks of an endpoint that is open
to anyone. The body starts from there, and what it makes of the context is what the call leaves.

As with bodies, whether a backend is consulted shows in what a call gives when the backend is
replaced (`Consults`).
-/
import ServiceSchema.Proofs.App.Gate
import ServiceSchema.Proofs.App.Runs

namespace ServiceSchema

/-- The errors of a call that come before a caller has been identified. -/
def CallError.beforeIdentity : CallError → Bool
  | .unknownHandler _ | .missingBackend _ .authentication | .security _ | .unauthenticated _ => true
  | .missingBackend _ .permissions | .forbidden _ | .invalidRequest _ _ | .invalidResponse _ _
  | .failed _ _ => false

theorem Endpoint.beforeIdentity_of_conclude {e : Endpoint} {run : Except BodyError Json × Context}
    {error : CallError} (h : (e.conclude run).1 = .error error) : error.beforeIdentity = false := by
  obtain ⟨outcome, context⟩ := run
  cases outcome with
  | ok response => cases h
  | error reason =>
    cases h
    cases reason <;> rfl

/-- The body of a typed handler leaves the context as the handler does, also when its response has
no document. -/
theorem TypedHandler.context_of_body {Request Response : Type} (h : TypedHandler Request Response)
    (r : Request) (context : Context) : (h.body r context).2 = (h.handle context r).2 := by
  unfold body
  rcases h.handle context r with ⟨_ | _, _⟩ <;> rfl

namespace App

/-- The application in which the authentication backend has another one in its place. -/
def mapAuthentication (a : App) (f : AuthenticationBackend → AuthenticationBackend) : App :=
  { a with authentication := a.authentication.map f }

/-- The authentication backend is consulted in a call: what the call gives depends on it. -/
def Consults (a : App) (name : String) (context : Context) (request : Json) : Prop :=
  ∃ f, (a.mapAuthentication f).call name context request ≠ a.call name context request

/-- The authentication backend is consulted in a call, and identifies the caller. -/
structure Identifies (a : App) (name : String) (context : Context) (request : Json) (user : User) :
    Prop where
  consults : a.Consults name context request
  answers : ∃ e backend, a.find? name = some e ∧ a.authentication = some backend ∧
    backend context e.authentication = .ok (.allow (some user))

/-- The second context is the first one as the checks of a call leave it: a user that has been
identified stands under its key, and nothing else is different. -/
structure Enters (a : App) (name : String) (context : Context) (request : Json) (entered : Context) :
    Prop where
  identified : ∀ user, a.Identifies name context request user →
    entered.get? .user = some (.user user)
  unidentified : (∀ user, ¬ a.Identifies name context request user) → entered = context
  others : ∀ key, key ≠ .user → entered.get? key = context.get? key

variable {a : App} {e : Endpoint} {context context' : Context} {request : Json} {error : CallError}
  {name : String} {user : User}

/-! ## When the backend is consulted -/

/-- A call depends on the authentication backend only through the answer that its endpoint gets. -/
theorem call_mapAuthentication {f : AuthenticationBackend → AuthenticationBackend}
    (hfind : a.find? name = some e)
    (h : (a.mapAuthentication f).authenticate e context = a.authenticate e context) :
    (a.mapAuthentication f).call name context request = a.call name context request := by
  have hfind' : (a.mapAuthentication f).find? name = some e := hfind
  rw [call, call, hfind, hfind']
  simp only [screen, h]
  rfl

theorem call_of_undecided {backend : AuthenticationBackend} {reason : SecurityError}
    (hfind : a.find? name = some e) (hany : e.authentication.any = false)
    (hbackend : a.authentication = some backend)
    (hanswer : backend context e.authentication = .error reason) :
    a.call name context request = (.error (.security reason), context) := by
  rw [call, hfind]
  simp only [screen_of_refuses (.undecided hany hbackend hanswer)]

/-- A backend is consulted when there is one, and the endpoint is not open to anyone. -/
theorem consults_iff : a.Consults name context request ↔
    ∃ e backend, a.find? name = some e ∧ e.authentication.any = false ∧
      a.authentication = some backend := by
  constructor
  · intro h
    obtain ⟨f, hf⟩ := h
    cases hfind : a.find? name with
    | none =>
      rw [call_of_find?_eq_none hfind, call_of_find?_eq_none (a := a.mapAuthentication f) hfind] at hf
      exact absurd rfl hf
    | some e =>
      cases hany : e.authentication.any with
      | true => exact absurd (call_mapAuthentication hfind (by simp [authenticate, hany])) hf
      | false =>
        cases hbackend : a.authentication with
        | none =>
          have hsame : (a.mapAuthentication f).authenticate e context = a.authenticate e context := by
            simp [authenticate, mapAuthentication, hany, hbackend]
          exact absurd (call_mapAuthentication hfind hsame) hf
        | some backend => exact ⟨e, backend, rfl, hany, rfl⟩
  · intro h
    obtain ⟨e, backend, hfind, hany, hbackend⟩ := h
    by_contra hnot
    -- Backends that fail in different ways make for different answers.
    have hcall : ∀ reason, a.call name context request = (.error (.security reason), context) := by
      intro reason
      have hsame := not_not.1 (not_exists.1 hnot fun _ => .always (.error reason))
      rw [← hsame]
      exact call_of_undecided (a := a.mapAuthentication _) hfind hany
        (congrArg (Option.map _) hbackend) rfl
    have hreasons := (hcall (.unavailable "")).symm.trans (hcall (.invalidCredentials ""))
    simp at hreasons

theorem identifies_iff (hfind : a.find? name = some e) : a.Identifies name context request user ↔
    e.authentication.any = false ∧ ∃ backend, a.authentication = some backend ∧
      backend context e.authentication = .ok (.allow (some user)) := by
  constructor
  · intro h
    obtain ⟨q, _, hq, hany, -⟩ := consults_iff.1 h.consults
    obtain ⟨q', backend, hq', hbackend, hanswer⟩ := h.answers
    cases hfind.symm.trans hq
    cases hfind.symm.trans hq'
    exact ⟨hany, backend, hbackend, hanswer⟩
  · intro h
    obtain ⟨hany, backend, hbackend, hanswer⟩ := h
    exact ⟨consults_iff.2 ⟨e, backend, hfind, hany, hbackend⟩, e, backend, hfind, hbackend, hanswer⟩

/-! ## The context as the checks leave it -/

theorem enters_of_unidentified (h : ∀ user, ¬ a.Identifies name context request user) :
    a.Enters name context request context :=
  ⟨fun user hid => absurd hid (h user), fun _ => rfl, fun _ _ => rfl⟩

theorem not_identifies_of_find?_eq_none (hfind : a.find? name = none) :
    ¬ a.Identifies name context request user := by
  intro h
  obtain ⟨e, _, he, -⟩ := h.answers
  cases hfind.symm.trans he

theorem not_identifies_of_any (hfind : a.find? name = some e) (hany : e.authentication.any = true) :
    ¬ a.Identifies name context request user := by
  intro h
  exact absurd hany (by simp [((identifies_iff hfind).1 h).1])

/-- An answer other than a user identifies nobody. -/
theorem not_identifies_of_answer {backend : AuthenticationBackend} (hfind : a.find? name = some e)
    (hbackend : a.authentication = some backend)
    (hanswer : ∀ user, backend context e.authentication ≠ .ok (.allow (some user))) :
    ¬ a.Identifies name context request user := by
  intro h
  obtain ⟨-, other, hother, hallow⟩ := (identifies_iff hfind).1 h
  cases hbackend.symm.trans hother
  exact hanswer user hallow

theorem Authenticates.enters (h : a.Authenticates e context context')
    (hfind : a.find? name = some e) : a.Enters name context request context' := by
  cases h with
  | anyone hany => exact enters_of_unidentified fun _ => not_identifies_of_any hfind hany
  | anonymous hany hbackend hallow =>
    exact enters_of_unidentified fun _ =>
      not_identifies_of_answer hfind hbackend (by simp [hallow])
  | @identified backend user hany hbackend hallow =>
    have hid : a.Identifies name context request user :=
      (identifies_iff hfind).2 ⟨hany, backend, hbackend, hallow⟩
    refine ⟨fun other hother => ?_, fun hnone => absurd hid (hnone user), fun key hkey => ?_⟩
    · obtain ⟨-, _, hsame, hanswer⟩ := (identifies_iff hfind).1 hother
      cases hbackend.symm.trans hsame
      cases hallow.symm.trans hanswer
      exact Context.get?_set_self ..
    · exact Context.get?_set_other _ _ hkey

/-- A call that is refused leaves its context as the checks before the refusal do. -/
theorem Refuses.enters (h : a.Refuses e context request error context')
    (hfind : a.find? name = some e) : a.Enters name context request context' := by
  cases h with
  | noAuthentication hany hbackend =>
    refine enters_of_unidentified fun user hid => ?_
    obtain ⟨-, _, hother, -⟩ := (identifies_iff hfind).1 hid
    cases hbackend.symm.trans hother
  | undecided hany hbackend herror =>
    exact enters_of_unidentified fun _ =>
      not_identifies_of_answer hfind hbackend (by simp [herror])
  | unauthenticated hany hbackend hdeny =>
    exact enters_of_unidentified fun _ =>
      not_identifies_of_answer hfind hbackend (by simp [hdeny])
  | noPermissions hauth => exact hauth.enters hfind
  | forbidden hauth => exact hauth.enters hfind
  | invalidRequest hauth => exact hauth.enters hfind

theorem Refuses.context_eq (h : a.Refuses e context request error context')
    (hbefore : error.beforeIdentity = true) : context' = context := by
  cases h with
  | noAuthentication | undecided | unauthenticated => rfl
  | noPermissions | forbidden | invalidRequest => cases hbefore

theorem Enters.eq_of_any {entered : Context} (h : a.Enters name context request entered)
    (hfind : a.find? name = some e) (hany : e.authentication.any = true) : entered = context :=
  h.unidentified fun _ => not_identifies_of_any hfind hany

/-! ## Calls -/

theorem find?_only (hfind : a.find? name = some e) : (a.only e).find? name = some e := by
  have hname : e.name = name := by simpa using List.find?_some hfind
  simp [find?, only, hname]

theorem find?_mapBodies {f : Body → Body} (hfind : a.find? name = some e) :
    (a.mapBodies f).find? name = some (e.mapBody f) := by
  rw [find?, mapBodies, List.find?_map]
  exact congrArg (Option.map (Endpoint.mapBody · f)) hfind

theorem enters_only {entered : Context} (hfind : a.find? name = some e) :
    (a.only e).Enters name context request entered ↔ a.Enters name context request entered := by
  have hid : ∀ user, (a.only e).Identifies name context request user ↔
      a.Identifies name context request user := fun user =>
    (identifies_iff (find?_only hfind)).trans (identifies_iff hfind).symm
  constructor
  · intro h
    exact ⟨fun user hu => h.identified user ((hid user).2 hu),
      fun hnone => h.unidentified fun user hu => hnone user ((hid user).1 hu), h.others⟩
  · intro h
    exact ⟨fun user hu => h.identified user ((hid user).1 hu),
      fun hnone => h.unidentified fun user hu => hnone user ((hid user).2 hu), h.others⟩

/-- With other bodies too, a call has to do with one endpoint. -/
theorem call_mapBodies_only {f : Body → Body} (hfind : a.find? name = some e) :
    (a.mapBodies f).call name context request = ((a.only e).mapBodies f).call name context request :=
  call_of_find?_eq_some (find?_mapBodies hfind) context request

theorem runs_only (hfind : a.find? name = some e) :
    a.Runs name context request ↔ (a.only e).Runs name context request := by
  refine exists_congr fun f => ?_
  rw [call_mapBodies_only hfind, call_of_find?_eq_some hfind]

theorem not_runs_of_find?_eq_none (hfind : a.find? name = none) :
    ¬ a.Runs name context request := by
  intro hruns
  obtain ⟨f, hf⟩ := hruns
  have hfind' : (a.mapBodies f).find? name = none :=
    find?_eq_none_iff.2 (List.forall_mem_map.2 (find?_eq_none_iff.1 hfind))
  rw [call_of_find?_eq_none hfind, call_of_find?_eq_none hfind'] at hf
  exact hf rfl

/-- A call is rejected before any body runs, or admitted by the endpoint of its name. -/
theorem call_cases (a : App) (name : String) (context : Context) (request : Json) :
    ∃ entered, a.Enters name context request entered ∧
      ((¬ a.Runs name context request ∧ ∃ error,
          a.call name context request = (.error error, entered) ∧
          (error.beforeIdentity = true → entered = context)) ∨
        ∃ e body, a.Runs name context request ∧ a.find? name = some e ∧ e.prepare request = .ok body ∧
          a.call name context request = e.conclude (body entered) ∧
          ∀ f, (a.mapBodies f).call name context request = e.conclude (f body entered)) := by
  cases hfind : a.find? name with
  | none =>
    have henters : a.Enters name context request context :=
      enters_of_unidentified fun _ => not_identifies_of_find?_eq_none hfind
    exact ⟨context, henters, .inl ⟨not_runs_of_find?_eq_none hfind, _,
      call_of_find?_eq_none hfind context request, fun _ => rfl⟩⟩
  | some e =>
    have hname : e.name = name := by simpa using List.find?_some hfind
    have hnames : (a.only e).names.Nodup := List.nodup_singleton _
    have hmem : e ∈ (a.only e).endpoints := List.mem_singleton_self e
    rw [runs_only hfind, call_of_find?_eq_some hfind]
    simp only [call_mapBodies_only hfind]
    rcases (a.only e).admits_or_refuses e context request with
      ⟨body, entered, hadmits⟩ | ⟨error, entered, hrefuses⟩
    · have henters : (a.only e).Enters name context request entered :=
        hadmits.authenticates.enters (find?_only hfind)
      exact ⟨entered, (enters_only hfind).1 henters, .inr ⟨e, body,
        runs_of_admits hnames hmem hname hadmits, rfl, hadmits.decodes,
        call_of_admits hnames hmem hname hadmits,
        call_mapBodies_of_admits hnames hmem hname hadmits⟩⟩
    · have hrejects : (a.only e).Rejects name context request error entered :=
        .refused hmem hname hrefuses
      exact ⟨entered, (enters_only hfind).1 (hrefuses.enters (find?_only hfind)),
        .inl ⟨not_runs_of_rejects hnames hrejects, error, call_of_rejects hnames hrejects,
          hrefuses.context_eq⟩⟩

/-- **What a call does to its context.** The checks leave one context: that of the call, with the
user in it whom the authentication backend has identified, if it has been consulted and has
identified one, and with nothing else changed. A call in which no body runs gives an error and
leaves that context. The errors that come before an identification leave the context of the call,
and so do the checks of an endpoint that is open to anyone. A body that runs starts from the context
that the checks leave, and the call leaves what the body, or the handler in it, makes of it. -/
theorem call_frame (a : App) (name : String) (context : Context) (request : Json) :
    ∃ entered, a.Enters name context request entered ∧
      (¬ a.Runs name context request →
        ∃ error, a.call name context request = (.error error, entered)) ∧
      (∀ error, (a.call name context request).1 = .error error → error.beforeIdentity = true →
        (a.call name context request).2 = context) ∧
      (∀ e, a.find? name = some e → e.authentication.any = true → entered = context) ∧
      (a.Runs name context request →
        ∃ e body, a.find? name = some e ∧ e.prepare request = .ok body ∧
          a.call name context request = e.conclude (body entered) ∧
          (∀ f, (a.mapBodies f).call name context request = e.conclude (f body entered)) ∧
          ∀ (Request Response : Type) (h : TypedHandler Request Response), e = h.toEndpoint →
            ∃ r, h.decode .memory request.sorted.toNode = .ok r ∧
              (a.call name context request).2 = (h.handle entered r).2) := by
  obtain ⟨entered, henters, hcases⟩ := a.call_cases name context request
  refine ⟨entered, henters, fun hnot => ?_, fun error herror hbefore => ?_,
    fun e hfind hany => henters.eq_of_any hfind hany, fun hruns => ?_⟩
  · rcases hcases with ⟨-, error, hcall, -⟩ | ⟨_, _, hruns, -⟩
    · exact ⟨error, hcall⟩
    · exact absurd hruns hnot
  · rcases hcases with ⟨-, _, hcall, hcontext⟩ | ⟨_, _, -, -, -, hcall, -⟩
    · rw [hcall] at herror ⊢
      cases herror
      exact hcontext hbefore
    · rw [hcall] at herror
      exact absurd hbefore (by simp [Endpoint.beforeIdentity_of_conclude herror])
  · rcases hcases with ⟨hnot, -⟩ | ⟨e, body, -, hfind, hprepare, hcall, hbodies⟩
    · exact absurd hruns hnot
    · refine ⟨e, body, hfind, hprepare, hcall, hbodies, ?_⟩
      rintro Request Response h rfl
      obtain ⟨r, hr, rfl⟩ := h.prepare_eq_ok_iff.1 hprepare
      exact ⟨r, hr, by rw [hcall]; exact h.context_of_body r entered⟩

/-- A caller whom authentication has identified stays in the context of a call that is refused
later. -/
example : (sampleApp.call "UpdateWidget" .empty .null).2.user? = some alice := rfl

end App

end ServiceSchema

/-
Applications in use: settings and calls, one after the other, in any order. Whatever has been done,
the endpoint registered first under a name is the one that counts (`run_registrations`): a
registration is accepted when none of the name has come before it, the names are those registered,
each where it came first, the descriptors and the methods of the schema follow these names one for
one, and a call goes to the endpoint registered first under its name: the checks of this endpoint
decide on it, and it is this endpoint's body that runs (`Dispatched`). An endpoint that was refused
shows in none of this.

All of it follows from what a run makes of looking a name up (`find?_run`) and of the list of names
(`names_run`); each is an induction over the run, from what one operation makes of it.
-/
import Mathlib.Data.List.Forall2
import ServiceSchema.Proofs.App.Gate
import ServiceSchema.Proofs.Service.Methods

namespace ServiceSchema

namespace App

/-- What is done with an application: it is set up further, or called. -/
inductive Operation where
  | set (s : Setting)
  | call (name : String) (context : Context) (request : Json)

/-- What an operation answers. -/
inductive Answer where
  | done
  | registered (new : Bool)
  | called (outcome : Except CallError Json × Context)

def perform (a : App) : Operation → Answer × App
  | .set (.register e) => (.registered (a.register e).1, (a.register e).2)
  | .set s => (.done, a.set s)
  | .call name context request => (.called (a.call name context request), a)

/-- Performs operations one after the other: their answers, and what becomes of the
application. -/
def run (a : App) : List Operation → List Answer × App
  | [] => ([], a)
  | op :: rest =>
    let (answer, a) := a.perform op
    let (answers, a) := a.run rest
    (answer :: answers, a)

/-- What becomes of a new application. -/
def after (service : String) (ops : List Operation) : App := ((named service).run ops).2

/-- What a new application answers. -/
def answers (service : String) (ops : List Operation) : List Answer := ((named service).run ops).1

/-- The endpoint that an operation registers, or tries to. -/
def Operation.endpoint? : Operation → Option Endpoint
  | .set (.register e) => some e
  | _ => none

/-- The endpoints that come up for registration, those that are refused among them. -/
def registered (ops : List Operation) : List Endpoint := ops.filterMap (·.endpoint?)

/-- The endpoint that comes up first under a name. -/
def firstUnder (ops : List Operation) (name : String) : Option Endpoint :=
  (registered ops).find? (·.name = name)

/-- The application with one endpoint and no other. -/
def only (a : App) (e : Endpoint) : App := { a with endpoints := [e] }

/-- The outcome of a call is that of one endpoint: of its checks and its body. -/
structure Dispatched (a : App) (e : Endpoint) (name : String) (context : Context) (request : Json)
    (outcome : Except CallError Json × Context) : Prop where
  /-- When the endpoint admits the call its body runs, and what stands in its place would. -/
  admitted : ∀ body context', a.Admits e context request body context' →
    outcome = e.conclude (body context') ∧
      ∀ f, (a.mapBodies f).call name context request = e.conclude (f body context')
  refused : ∀ error context', a.Refuses e context request error context' →
    outcome = (.error error, context')
  decided : (∃ body context', a.Admits e context request body context') ∨
    ∃ error context', a.Refuses e context request error context'
  /-- The other endpoints have no part in it. -/
  alone : outcome = (a.only e).call name context request

variable {a : App} {service name : String} {e : Endpoint} {op : Operation} {ops : List Operation}

/-! ## One operation -/

theorem register_eq_true_iff : (a.register e).1 = true ↔ a.find? e.name = none := by
  cases h : a.find? e.name <;> simp [register, h]

theorem find?_register :
    (a.register e).2.find? name = (a.find? name).or ([e].find? (·.name = name)) := by
  by_cases htaken : e.name ∈ a.names
  · rw [register, if_pos (find?_isSome_iff.2 htaken)]
    by_cases hname : e.name = name
    · obtain ⟨q, hq⟩ := Option.isSome_iff_exists.1 (find?_isSome_iff.2 (hname ▸ htaken))
      rw [hq, Option.some_or]
    · simp [hname]
  · rw [register, if_neg (mt find?_isSome_iff.1 htaken), find?, List.find?_append]
    rfl

theorem find?_perform (op : Operation) : (a.perform op).2.find? name =
    (a.find? name).or (op.endpoint?.toList.find? (·.name = name)) := by
  cases op with
  | call => exact (Option.or_none ..).symm
  | set s =>
    cases s with
    | register e => exact find?_register
    | _ => exact (Option.or_none ..).symm

theorem perform_set (s : Setting) : (a.perform (.set s)).2 = a.set s := by
  cases s <;> rfl

theorem nodup_names_perform (h : a.names.Nodup) (op : Operation) : (a.perform op).2.names.Nodup := by
  cases op with
  | call => exact h
  | set s => exact perform_set s ▸ nodup_names_set h s

theorem names_perform_of_none (h : op.endpoint? = none) : (a.perform op).2.names = a.names := by
  cases op with
  | call => rfl
  | set s =>
    cases s with
    | register e => cases h
    | _ => rfl

theorem names_perform_of_some (h : op.endpoint? = some e) : (a.perform op).2.names =
    if e.name ∈ a.names then a.names else a.names ++ [e.name] := by
  cases op with
  | call => cases h
  | set s =>
    cases s with
    | register q =>
      cases h
      exact names_register a e
    | _ => cases h

/-! ## Runs -/

theorem registered_cons : registered (op :: ops) = op.endpoint?.toList ++ registered ops := by
  cases h : op.endpoint? <;> simp [registered, h]

/-- An answer is that of its operation to what the operations before it have made. -/
theorem getElem?_answers {i : Nat} (h : ops[i]? = some op) :
    (a.run ops).1[i]? = some ((a.run (ops.take i)).2.perform op).1 := by
  induction ops generalizing a i with
  | nil => cases h
  | cons first rest ih =>
    cases i with
    | zero =>
      cases h
      rfl
    | succ i => exact ih h

/-- A name leads to the endpoint that it led to before, or else to the first that came up
under it. -/
theorem find?_run : (a.run ops).2.find? name = (a.find? name).or (firstUnder ops name) := by
  induction ops generalizing a with
  | nil => exact (Option.or_none ..).symm
  | cons op rest ih =>
    rw [run, ih, find?_perform, Option.or_assoc, firstUnder, firstUnder, registered_cons,
      List.find?_append]

theorem nodup_names_run (h : a.names.Nodup) : (a.run ops).2.names.Nodup := by
  induction ops generalizing a with
  | nil => exact h
  | cons op rest ih => exact ih (nodup_names_perform h op)

/-- Behind the names that were there stand the new ones, each where it came up first. -/
theorem names_run : (a.run ops).2.names =
    a.names ++ (((registered ops).map (·.name)).removeAll a.names).eraseDups := by
  induction ops generalizing a with
  | nil => exact (List.append_nil _).symm
  | cons op rest ih =>
    rw [run, ih, registered_cons]
    cases hop : op.endpoint? with
    | none => rw [names_perform_of_none hop, Option.toList_none, List.nil_append]
    | some e =>
      rw [names_perform_of_some hop, Option.toList_some, List.singleton_append, List.map_cons,
        List.cons_removeAll]
      by_cases htaken : e.name ∈ a.names
      · rw [if_pos htaken, if_neg (by simpa using htaken)]
      · rw [if_neg htaken, if_pos (by simpa using htaken), List.eraseDups_cons, List.append_assoc,
          List.singleton_append]
        have hrest : ∀ names : List String, names.removeAll (a.names ++ [e.name]) =
            (names.removeAll a.names).filter fun name => !name == e.name := by
          intro names
          simp [List.removeAll, List.filter_filter, Bool.and_comm, beq_eq_decide]
        rw [hrest]

/-! ## Endpoints by their names -/

/-- With different names, what goes with the endpoints one for one goes with their names. -/
theorem forall₂_endpoints {β : Type} {R : Endpoint → β → Prop} {bs : List β} (h : a.names.Nodup) :
    List.Forall₂ R a.endpoints bs ↔
      List.Forall₂ (fun name b => ∃ e, a.find? name = some e ∧ R e b) a.names bs := by
  have hfind : ∀ e ∈ a.endpoints, a.find? e.name = some e :=
    fun e he => (find?_eq_some_iff h).2 ⟨he, rfl⟩
  rw [names, List.forall₂_map_left_iff]
  constructor
  · intro hR
    refine ((List.forall₂_and_left _ _).2 ⟨hfind, hR⟩).imp fun e b hb => ⟨e, hb⟩
  · intro hR
    refine ((List.forall₂_and_left _ _).2 ⟨hfind, hR⟩).imp fun e b hb => ?_
    obtain ⟨he, q, hq, hRq⟩ := hb
    cases he.symm.trans hq
    exact hRq

theorem descriptorsOf_eq_ok {es : List Endpoint} {handlers : List Handler} :
    descriptorsOf es = .ok handlers ↔ List.Forall₂ (fun e h => e.descriptor = .ok h) es handlers := by
  induction es generalizing handlers with
  | nil => rw [descriptorsOf, List.forall₂_nil_left_iff, Except.ok.injEq, eq_comm]
  | cons e rest ih =>
    simp only [descriptorsOf, bind_eq_ok, pure_eq_ok, List.forall₂_cons_left_iff, ih]
    constructor
    · rintro ⟨handler, hhandler, more, hmore, rfl⟩
      exact ⟨handler, more, hhandler, hmore, rfl⟩
    · rintro ⟨handler, more, hhandler, hmore, rfl⟩
      exact ⟨handler, hhandler, more, hmore, rfl⟩

theorem call_of_find?_eq_none (h : a.find? name = none) (context : Context) (request : Json) :
    a.call name context request = (.error (.unknownHandler name), context) := by
  rw [call, h]

/-- A call has to do with one endpoint: without the others it gives the same. -/
theorem call_of_find?_eq_some (h : a.find? name = some e) (context : Context) (request : Json) :
    a.call name context request = (a.only e).call name context request := by
  have honly : (a.only e).find? name = some e := by
    have hname : e.name = name := by simpa using List.find?_some h
    simp [find?, only, hname]
  rw [call, call, h, honly]
  rfl

theorem dispatched_of_find?_eq_some (hnames : a.names.Nodup) (h : a.find? name = some e)
    (context : Context) (request : Json) :
    a.Dispatched e name context request (a.call name context request) := by
  obtain ⟨hmem, hname⟩ := (find?_eq_some_iff hnames).1 h
  refine ⟨fun body context' hadmits => ?_, fun error context' hrefuses => ?_,
    a.admits_or_refuses e context request, call_of_find?_eq_some h context request⟩
  · exact ⟨call_of_admits hnames hmem hname hadmits,
      call_mapBodies_of_admits hnames hmem hname hadmits⟩
  · exact call_of_rejects hnames (.refused hmem hname hrefuses)

/-! ## New applications in use -/

theorem find?_after : (after service ops).find? name = firstUnder ops name := by
  rw [after, find?_run]
  rfl

theorem nodup_names_after : (after service ops).names.Nodup :=
  nodup_names_run .nil

theorem names_after : (after service ops).names = ((registered ops).map (·.name)).eraseDups := by
  rw [after, names_run]
  simp [named, names]

theorem firstUnder_eq_none_iff : firstUnder ops name = none ↔ ∀ q ∈ registered ops, q.name ≠ name := by
  simp [firstUnder]

/-- What comes up later does not take a name away. -/
theorem firstUnder_of_take {i : Nat} (h : firstUnder (ops.take i) name = some e) :
    firstUnder ops name = some e := by
  have hsplit : registered ops = registered (ops.take i) ++ registered (ops.drop i) := by
    rw [registered, registered, registered, ← List.filterMap_append, List.take_append_drop]
  rw [firstUnder] at h
  rw [firstUnder, hsplit, List.find?_append, h, Option.some_or]

/-- The endpoints of an application in use have come up for registration. -/
theorem mem_registered_of_mem_after (h : e ∈ (after service ops).endpoints) : e ∈ registered ops := by
  have hfind : (after service ops).find? e.name = some e :=
    (find?_eq_some_iff nodup_names_after).2 ⟨h, rfl⟩
  rw [find?_after, firstUnder] at hfind
  exact List.mem_of_find?_eq_some hfind

theorem descriptors_after {handlers : List Handler} :
    (after service ops).descriptors = .ok handlers ↔
      List.Forall₂ (fun name h => ∃ e, firstUnder ops name = some e ∧ e.descriptor = .ok h)
        (after service ops).names handlers := by
  rw [descriptors, descriptorsOf_eq_ok, forall₂_endpoints nodup_names_after]
  simp only [find?_after]

theorem rpcs_after {known : WellKnownTypes} {s : Service} (h : (after service ops).service known = .ok s)
    (layout : Layout) :
    List.Forall₂
      (fun name rpc => ∃ e h, firstUnder ops name = some e ∧ e.descriptor = .ok h ∧ rpc = h.rpc)
      (after service ops).names (s.document known layout).rpcs := by
  obtain ⟨handlers, hhandlers, hmake⟩ := bind_eq_ok.1 h
  obtain ⟨records, -, rfl⟩ := Service.make_eq_ok.1 hmake
  refine List.forall₂_map_right_iff.2 ((descriptors_after.1 hhandlers).imp fun name handler h => ?_)
  obtain ⟨e, hfirst, hdescriptor⟩ := h
  exact ⟨e, handler, hfirst, hdescriptor, rfl⟩

/-- **Whoever comes first under a name has it.** Of any run of settings and calls: a registration is
accepted exactly when no endpoint of the name has come up before it; the names are those that came
up, each where it came up first; descriptors and methods follow the names one for one, and are those
of the endpoints that came up first; and a call goes to the endpoint that came up first under its
name before the call, which is the first of the whole run: it admits the call, and its body runs, or
it refuses the call, as if no other had been registered. -/
theorem run_registrations (service : String) (ops : List Operation) :
    (∀ i e, ops[i]? = some (.set (.register e)) →
      ∃ new, (answers service ops)[i]? = some (.registered new) ∧
        (new = true ↔ ∀ q ∈ registered (ops.take i), q.name ≠ e.name)) ∧
    (after service ops).names = ((registered ops).map (·.name)).eraseDups ∧
    (∀ handlers, (after service ops).descriptors = .ok handlers ↔
      List.Forall₂ (fun name h => ∃ e, firstUnder ops name = some e ∧ e.descriptor = .ok h)
        (after service ops).names handlers) ∧
    (∀ known s layout, (after service ops).service known = .ok s →
      List.Forall₂
        (fun name rpc => ∃ e h, firstUnder ops name = some e ∧ e.descriptor = .ok h ∧ rpc = h.rpc)
        (after service ops).names (s.document known layout).rpcs ∧
      ((∀ e ∈ registered ops, e.Typed) →
        (s.document known layout).methodNames = (after service ops).names)) ∧
    ∀ i name context request, ops[i]? = some (.call name context request) →
      ∃ outcome, (answers service ops)[i]? = some (.called outcome) ∧
        (firstUnder (ops.take i) name = none →
          outcome = (.error (.unknownHandler name), context)) ∧
        ∀ e, firstUnder (ops.take i) name = some e →
          firstUnder ops name = some e ∧
            (after service (ops.take i)).Dispatched e name context request outcome := by
  refine ⟨fun i e hop => ?_, names_after, fun _ => descriptors_after, fun known s layout h => ?_,
    fun i name context request hop => ?_⟩
  · refine ⟨_, getElem?_answers hop, ?_⟩
    have hfirst : (after service (ops.take i)).find? e.name = firstUnder (ops.take i) e.name :=
      find?_after
    rw [← firstUnder_eq_none_iff, ← hfirst]
    exact register_eq_true_iff
  · refine ⟨rpcs_after h layout, fun htyped => ?_⟩
    exact methodNames_of_service (fun e he => htyped e (mem_registered_of_mem_after he)) h layout
  · refine ⟨_, getElem?_answers hop, fun hfirst => ?_, fun e hfirst => ⟨firstUnder_of_take hfirst, ?_⟩⟩
    · exact call_of_find?_eq_none (find?_after.trans hfirst) context request
    · exact dispatched_of_find?_eq_some nodup_names_after (find?_after.trans hfirst) context request

open Samples

/-- An endpoint for those who are identified and may write, then another one of its name for
everybody, and a call. -/
def sampleRun : List Operation :=
  [.set (.register updateWidget.toEndpoint),
    .set (.register { chain.toEndpoint with name := "UpdateWidget" }),
    .set (.authentication (.byClaims { authenticated := true } (some alice))),
    .set (.permissions (.byName (Table.ofList [("alice", ["widgets.write"])]))),
    .call "UpdateWidget" .empty sampleRequest]

/-- The second endpoint is refused. The call has to be admitted, and the body that runs is the one
that tells whether there is a user. -/
theorem run_registrations_sampleRun :
    (answers "Widget Service" sampleRun)[1]? = some (.registered false) ∧
      (after "Widget Service" sampleRun).names = ["UpdateWidget"] ∧
      (answers "Widget Service" sampleRun)[4]? =
        some (.called (.ok (.object [("updated", .bool true)]),
          Context.empty.set .user (.user alice))) := by
  obtain ⟨hregister, hnames, -, -, hcall⟩ := run_registrations "Widget Service" sampleRun
  refine ⟨?_, hnames.trans (by decide), ?_⟩
  · obtain ⟨new, hanswer, hnew⟩ := hregister 1 _ rfl
    have hrefused : new = false :=
      Bool.eq_false_iff.2 fun h => hnew.1 h updateWidget.toEndpoint (.head _) rfl
    rw [hanswer, hrefused]
  · obtain ⟨outcome, hanswer, -, hfirst⟩ := hcall 4 _ _ _ rfl
    obtain ⟨-, hdispatched⟩ := hfirst updateWidget.toEndpoint rfl
    have hadmits : (after "Widget Service" (sampleRun.take 4)).Admits updateWidget.toEndpoint .empty
        sampleRequest (updateWidget.body ⟨7, []⟩) (Context.empty.set .user (.user alice)) :=
      ⟨.identified rfl rfl rfl, .inr ⟨_, rfl, by decide⟩, rfl⟩
    rw [hanswer, (hdispatched.admitted _ _ hadmits).1]
    rfl

end App

end ServiceSchema

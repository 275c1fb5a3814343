/-
Resolving step by step. One state holds all that resolving works with: the stack of names under
way, the records kept, the handlers that are finished and those that are to come, and the task at
hand with what waits for its result. A step does one thing, puts a name onto the stack or takes
it off, looks a record up or keeps it, reads a text, or passes a shape on.

The steps come to an end, and to the answer of `resolveHandlers` (`exists_run_eq_ends`): each
function of resolving is a finite run between two states, the second of which has the result and
the stack of the first (`namesArrive`, `NamesArrive.expr`, `NamesArrive.fields`). So the stack of a
state is the one that these functions are called with (`Follows`). A run into the declaration of a
record starts with one more name on the stack, and all names there are declared and different, so
the induction is on the declared names that are not on the stack.
-/
import ServiceSchema.Proofs.Manifest.Memo

namespace ServiceSchema

/-! ## States -/

namespace Resolving

/-- What waits for a shape, and what waits behind it. -/
inductive Awaiting where
  | request (spec : HandlerSpec)
  | response (spec : HandlerSpec) (request : Shape)
  | element (outer : Awaiting)
  | key (referrer : Referrer) (value : TypeExpr) (outer : Awaiting)
  | value (key : Shape) (outer : Awaiting)
  /-- A field of the record `owner`, between the fields before it and those behind it. -/
  | field (owner : String) (before : List (String × Shape)) (name : String)
      (rest : List FieldSpec) (outer : Awaiting)

/-- What is done next. -/
inductive Task where
  /-- The next handler is taken up. -/
  | handler
  | text (referrer : Referrer) (text : String) (outer : Awaiting)
  | expr (referrer : Referrer) (e : TypeExpr) (outer : Awaiting)
  /-- The record `owner` is made of the fields before and the rest of its declaration. -/
  | fields (owner : String) (before : List (String × Shape)) (rest : List FieldSpec)
      (outer : Awaiting)
  /-- A shape is there for what waits for it. -/
  | give (shape : Shape) (outer : Awaiting)

structure State where
  /-- The names under way, outermost first. -/
  stack : List String
  done : Resolved
  handlers : List Handler
  pending : List HandlerSpec
  task : Task

/-- What comes after a state: another one, or the answer. -/
inductive Next where
  | goesOn (s : State)
  | ends (answer : Except ManifestError (List Handler))

/-- Before the first handler. -/
def State.start (specs : List HandlerSpec) : State := ⟨[], [], [], specs, .handler⟩

end Resolving

open Resolving

namespace Declarations

/-! ## Steps -/

/-- Resolves a name, at once or by going into its declaration. -/
def stepName (d : Declarations) (s : State) (referrer : Referrer) (name : String)
    (outer : Awaiting) : Next :=
  match s.done.lookup name with
  | some r => .goesOn { s with task := .give (.record r) outer }
  | none =>
    if name ∈ s.stack then .ends (.error (.recursiveRecord (s.stack ++ [name])))
    else match d.find? name with
      | some spec =>
        .goesOn { s with stack := s.stack ++ [name], task := .fields name [] spec.fields outer }
      | none =>
        if d.known.contains name then .goesOn { s with task := .give (.record (.bare name)) outer }
        else .ends (.error (.unknownType name referrer))

/-- Passes a shape on to what waits for it. -/
def stepGive (s : State) (shape : Shape) : Awaiting → Next
  | .request spec =>
    .goesOn { s with task := .text (.handler spec.name) spec.response (.response spec shape) }
  | .response spec request =>
    match makeHandler spec request shape with
    | .ok handler => .goesOn { s with handlers := s.handlers ++ [handler], task := .handler }
    | .error e => .ends (.error e)
  | .element outer => .goesOn { s with task := .give (.sequence shape) outer }
  | .key referrer value outer => .goesOn { s with task := .expr referrer value (.value shape outer) }
  | .value key outer => .goesOn { s with task := .give (.map key shape) outer }
  | .field owner before name rest outer =>
    .goesOn { s with task := .fields owner (before ++ [(name, shape)]) rest outer }

/-- One step. When the fields of a record are all there, its name comes off the stack and the
record is kept. -/
def step (d : Declarations) (s : State) : Next :=
  match s.task with
  | .handler =>
    match s.pending with
    | [] => .ends (.ok s.handlers)
    | spec :: rest => .goesOn { s with
        pending := rest, task := .text (.handler spec.name) spec.request (.request spec) }
  | .text referrer text outer =>
    match TypeExpr.parse text with
    | .ok e => .goesOn { s with task := .expr referrer e outer }
    | .error e => .ends (.error (.malformedType e))
  | .expr _ (.scalar kind) outer => .goesOn { s with task := .give (.scalar kind) outer }
  | .expr referrer (.list element) outer =>
    .goesOn { s with task := .expr referrer element (.element outer) }
  | .expr referrer (.map key value) outer =>
    .goesOn { s with task := .expr referrer key (.key referrer value outer) }
  | .expr referrer (.named name) outer => d.stepName s referrer name outer
  | .fields owner before [] outer => .goesOn { s with
      stack := s.stack.dropLast
      done := (owner, Record.ofFields owner before) :: s.done
      task := .give (.record (Record.ofFields owner before)) outer }
  | .fields owner before (field :: rest) outer => .goesOn { s with
      task := .text (.field owner field.name) field.type
        (.field owner before field.name rest outer) }
  | .give shape outer => stepGive s shape outer

/-- At most `n` steps, fewer if the answer is there before. -/
def run (d : Declarations) : Nat → State → Next
  | 0, s => .goesOn s
  | n + 1, s =>
    match d.step s with
    | .goesOn s' => d.run n s'
    | .ends answer => .ends answer

variable {d : Declarations} {s s' : State}

theorem run_add {m : Nat} (h : d.run m s = .goesOn s') (n : Nat) :
    d.run (m + n) s = d.run n s' := by
  induction m generalizing s with
  | zero =>
    cases h
    rw [Nat.zero_add]
  | succ m ih =>
    rw [Nat.succ_add, run]
    rw [run] at h
    cases hstep : d.step s with
    | goesOn t =>
      rw [hstep] at h
      exact ih h
    | ends answer =>
      rw [hstep] at h
      cases h

/-! ## Runs that come to a result -/

/-- From a state a run comes to the result of a computation: to the state that goes with its
value, or to its error. -/
def Arrives {α : Type} (d : Declarations) (s : State) (result : Except ManifestError α)
    (after : α → State) : Prop :=
  match result with
  | .ok a => ∃ n, d.run n s = .goesOn (after a)
  | .error e => ∃ n, d.run n s = .ends (.error e)

namespace Arrives

variable {α β : Type} {result : Except ManifestError α} {after : α → State}

theorem here {a : α} : d.Arrives (after a) (.ok a) after := ⟨0, rfl⟩

theorem stop {e : ManifestError} (h : d.step s = .ends (.error e)) :
    d.Arrives s (.error e) after := by
  refine ⟨1, ?_⟩
  rw [run, h]

theorem ofRun {n : Nat} (h : d.run n s = .goesOn s') (hnext : d.Arrives s' result after) :
    d.Arrives s result after := by
  cases result with
  | ok a =>
    obtain ⟨k, hk⟩ := hnext
    exact ⟨n + k, (run_add h k).trans hk⟩
  | error e =>
    obtain ⟨k, hk⟩ := hnext
    exact ⟨n + k, (run_add h k).trans hk⟩

theorem step (h : d.step s = .goesOn s') (hnext : d.Arrives s' result after) :
    d.Arrives s result after := by
  have hone : d.run 1 s = .goesOn s' := by rw [run, h]; rfl
  exact ofRun hone hnext

/-- One computation after the other. -/
theorem bind (h : d.Arrives s result after) {f : α → Except ManifestError β} {after' : β → State}
    (hnext : ∀ a, d.Arrives (after a) (f a) after') : d.Arrives s (result >>= f) after' := by
  cases result with
  | ok a =>
    obtain ⟨n, hn⟩ := h
    exact ofRun hn (hnext a)
  | error e => exact h

end Arrives

/-! ## Names, type expressions and fields -/

/-- From a name a run comes to what the name is resolved to, with the same stack. -/
def NamesArrive (d : Declarations) (stack : List String) : Prop :=
  ∀ done handlers pending referrer name outer,
    d.Arrives ⟨stack, done, handlers, pending, .expr referrer (.named name) outer⟩
      (d.resolveName stack done referrer name)
      fun p => ⟨stack, p.2, handlers, pending, .give (.record p.1) outer⟩

variable {stack : List String} (handlers : List Handler) (pending : List HandlerSpec)

theorem NamesArrive.expr (hnames : d.NamesArrive stack) (done : Resolved) (referrer : Referrer)
    (e : TypeExpr) (outer : Awaiting) :
    d.Arrives ⟨stack, done, handlers, pending, .expr referrer e outer⟩
      (d.resolveExpr stack done referrer e)
      fun p => ⟨stack, p.2, handlers, pending, .give p.1 outer⟩ := by
  induction e generalizing done outer with
  | scalar kind =>
    rw [resolveExpr]
    exact .step rfl .here
  | list element ih =>
    rw [resolveExpr]
    refine .step rfl ((ih done (.element outer)).bind fun p => ?_)
    exact .step rfl .here
  | map key value ihk ihv =>
    rw [resolveExpr]
    refine .step rfl ((ihk done (.key referrer value outer)).bind fun p => ?_)
    refine .step rfl ((ihv p.2 (.value p.1 outer)).bind fun q => ?_)
    exact .step rfl .here
  | named name =>
    rw [resolveExpr]
    exact (hnames done handlers pending referrer name outer).bind fun p => .here

theorem NamesArrive.text (hnames : d.NamesArrive stack) (done : Resolved) (referrer : Referrer)
    (text : String) (outer : Awaiting) :
    d.Arrives ⟨stack, done, handlers, pending, .text referrer text outer⟩
      (do let e ← (TypeExpr.parse text).mapError ManifestError.malformedType
          d.resolveExpr stack done referrer e)
      fun p => ⟨stack, p.2, handlers, pending, .give p.1 outer⟩ := by
  cases hparse : TypeExpr.parse text with
  | error e => exact .stop (by simp only [Declarations.step, hparse])
  | ok e =>
    have hread : d.step ⟨stack, done, handlers, pending, .text referrer text outer⟩ =
        .goesOn ⟨stack, done, handlers, pending, .expr referrer e outer⟩ := by
      simp only [Declarations.step, hparse]
    exact .step hread (hnames.expr handlers pending done referrer e outer)

theorem resolveFields_cons (stack : List String) (done : Resolved) (owner : String)
    (field : FieldSpec) (rest : List FieldSpec) :
    d.resolveFields stack done owner (field :: rest) =
      (do let e ← (TypeExpr.parse field.type).mapError ManifestError.malformedType
          d.resolveExpr stack done (.field owner field.name) e) >>= fun p =>
        d.resolveFields stack p.2 owner rest >>= fun q =>
          pure ((field.name, p.1) :: q.1, q.2) := by
  rw [resolveFields, bind_assoc]

theorem NamesArrive.fields (hnames : d.NamesArrive stack) (done : Resolved) (owner : String)
    (before : List (String × Shape)) (fields : List FieldSpec) (outer : Awaiting) :
    d.Arrives ⟨stack, done, handlers, pending, .fields owner before fields outer⟩
      (d.resolveFields stack done owner fields)
      fun p => ⟨stack, p.2, handlers, pending, .fields owner (before ++ p.1) [] outer⟩ := by
  induction fields generalizing done before with
  | nil =>
    rw [resolveFields]
    exact ⟨0, by simp only [run, List.append_nil]⟩
  | cons field rest ih =>
    rw [resolveFields_cons]
    refine .step rfl ((hnames.text handlers pending done (.field owner field.name) field.type
      (.field owner before field.name rest outer)).bind fun p => ?_)
    refine .step rfl ((ih p.2 (before ++ [(field.name, p.1)])).bind fun q => ?_)
    exact ⟨0, by simp only [run, List.append_assoc, List.singleton_append]⟩

section

variable {handlers pending} {done : Resolved} {referrer : Referrer} {name : String} {outer : Awaiting}
  (h : done.lookup name = none)

include h

theorem step_of_mem (hs : name ∈ stack) :
    d.step ⟨stack, done, handlers, pending, .expr referrer (.named name) outer⟩ =
      .ends (.error (.recursiveRecord (stack ++ [name]))) := by
  simp only [step, stepName, h, if_pos hs]

theorem step_of_declared (hs : name ∉ stack) {spec : RecordSpec}
    (hfind : d.find? name = some spec) :
    d.step ⟨stack, done, handlers, pending, .expr referrer (.named name) outer⟩ =
      .goesOn ⟨stack ++ [name], done, handlers, pending, .fields name [] spec.fields outer⟩ := by
  simp only [step, stepName, h, if_neg hs, hfind]

theorem step_of_undeclared (hs : name ∉ stack) (hfind : d.find? name = none) :
    d.step ⟨stack, done, handlers, pending, .expr referrer (.named name) outer⟩ =
      if d.known.contains name then
        .goesOn ⟨stack, done, handlers, pending, .give (.record (.bare name)) outer⟩
      else .ends (.error (.unknownType name referrer)) := by
  simp only [step, stepName, h, if_neg hs, hfind]

end

/-- A run from a name comes to its result: it goes deeper only with one more name on the stack. -/
theorem namesArrive (d : Declarations) (stack : List String) : d.NamesArrive stack := by
  induction hk : d.remaining stack using Nat.strongRecOn generalizing stack with
  | _ k ih =>
    intro done handlers pending referrer name outer
    cases hl : done.lookup name with
    | some r =>
      rw [resolveName_of_kept hl]
      refine .step ?_ .here
      simp only [step, stepName, hl]
    | none =>
      by_cases hs : name ∈ stack
      · rw [resolveName_of_mem hl hs]
        exact .stop (step_of_mem hl hs)
      cases hfind : d.find? name with
      | some spec =>
        have hnames : d.NamesArrive (stack ++ [name]) := ih _ (hk ▸ remaining_push hs hfind) _ rfl
        rw [resolveName_of_declared hl hs hfind]
        refine .step (step_of_declared hl hs hfind)
          ((hnames.fields handlers pending done name [] spec.fields outer).bind fun p => .step ?_ .here)
        simp only [step, List.dropLast_concat, List.nil_append]
      | none =>
        rw [resolveName_of_undeclared hl hs hfind]
        split
        · rename_i hknown
          exact .step ((step_of_undeclared hl hs hfind).trans (if_pos hknown)) .here
        · rename_i hknown
          exact .stop ((step_of_undeclared hl hs hfind).trans (if_neg hknown))

/-! ## Calls -/

/-- What is done at a state is a call of one of the functions of resolving, with the stack and the
records of that state: the run comes to what the function gives, with the stack as it was. -/
structure Follows (d : Declarations) (s : State) : Prop where
  name : ∀ referrer name outer, s.task = .expr referrer (.named name) outer →
    d.Arrives s (d.resolveName s.stack s.done referrer name)
      fun p => { s with done := p.2, task := .give (.record p.1) outer }
  expr : ∀ referrer e outer, s.task = .expr referrer e outer →
    d.Arrives s (d.resolveExpr s.stack s.done referrer e)
      fun p => { s with done := p.2, task := .give p.1 outer }
  fields : ∀ owner before rest outer, s.task = .fields owner before rest outer →
    d.Arrives s (d.resolveFields s.stack s.done owner rest)
      fun p => { s with done := p.2, task := .fields owner (before ++ p.1) [] outer }

theorem follows (d : Declarations) (s : State) : d.Follows s := by
  obtain ⟨stack, done, handlers, pending, task⟩ := s
  have hnames := namesArrive d stack
  refine ⟨?_, ?_, ?_⟩
  · rintro referrer name outer rfl
    exact hnames done handlers pending referrer name outer
  · rintro referrer e outer rfl
    exact hnames.expr handlers pending done referrer e outer
  · rintro owner before rest outer rfl
    exact hnames.fields handlers pending done owner before rest outer

/-! ## Handlers -/

theorem arrives_makeHandler (done : Resolved) (spec : HandlerSpec) (request response : Shape) :
    d.Arrives ⟨[], done, handlers, pending, .give response (.response spec request)⟩
      (makeHandler spec request response >>= fun handler => pure (handler, done))
      fun p => ⟨[], p.2, handlers ++ [p.1], pending, .handler⟩ := by
  cases hmake : makeHandler spec request response with
  | error e =>
    refine .stop ?_
    simp only [step, stepGive, hmake]
  | ok handler =>
    refine ⟨1, ?_⟩
    simp only [run, step, stepGive, hmake]

theorem arrives_handler (done : Resolved) (spec : HandlerSpec) :
    d.Arrives ⟨[], done, handlers, spec :: pending, .handler⟩ (d.resolveHandler done spec)
      fun p => ⟨[], p.2, handlers ++ [p.1], pending, .handler⟩ := by
  rw [resolveHandler_eq]
  have htext := (namesArrive d []).text handlers pending
  refine .step rfl ((htext done _ spec.request (.request spec)).bind fun p => ?_)
  refine .step rfl ((htext p.2 _ spec.response (.response spec p.1)).bind fun q => ?_)
  exact arrives_makeHandler handlers pending q.2 spec p.1 q.1

/-- A run over some handlers, all of which are resolved, comes to the state behind them. -/
theorem exists_run_eq_goesOn {specs : List HandlerSpec} {done : Resolved} {new : List Handler}
    (h : d.resolveHandlers done specs = .ok new) : ∃ n done',
      d.run n ⟨[], done, handlers, specs ++ pending, .handler⟩ =
        .goesOn ⟨[], done', handlers ++ new, pending, .handler⟩ := by
  induction specs generalizing done handlers new with
  | nil =>
    cases h
    exact ⟨0, done, by simp only [run, List.nil_append, List.append_nil]⟩
  | cons spec rest ih =>
    rw [resolveHandlers, bind_eq_ok] at h
    obtain ⟨⟨handler, done'⟩, hfirst, h⟩ := h
    obtain ⟨others, hrest, h⟩ := bind_eq_ok.1 h
    obtain rfl := pure_eq_ok.1 h
    have harrives := arrives_handler (d := d) handlers (rest ++ pending) done spec
    rw [hfirst] at harrives
    obtain ⟨m, hm⟩ := harrives
    obtain ⟨n, done'', hn⟩ := ih (handlers ++ [handler]) hrest
    refine ⟨m + n, done'', (run_add hm n).trans ?_⟩
    rw [hn, List.append_assoc, List.singleton_append]

/-- **Resolving comes to an end.** From the state before some handlers a run comes, after finitely
many steps, to the answer that the handlers are resolved to, behind those that are finished. -/
theorem exists_run_eq_ends (d : Declarations) (specs : List HandlerSpec) (done : Resolved) :
    ∃ n, d.run n ⟨[], done, handlers, specs, .handler⟩ =
      .ends ((d.resolveHandlers done specs).map (handlers ++ ·)) := by
  induction specs generalizing done handlers with
  | nil => exact ⟨1, by simp only [run, step, resolveHandlers, Except.map, List.append_nil]⟩
  | cons spec rest ih =>
    have harrives := arrives_handler (d := d) handlers rest done spec
    rw [resolveHandlers]
    cases hfirst : d.resolveHandler done spec with
    | error e =>
      rw [hfirst] at harrives
      exact harrives
    | ok p =>
      rw [hfirst] at harrives
      obtain ⟨m, hm⟩ := harrives
      obtain ⟨n, hn⟩ := ih (handlers ++ [p.1]) p.2
      refine ⟨m + n, (run_add hm n).trans (hn.trans ?_)⟩
      change _ = Next.ends ((d.resolveHandlers p.2 rest >>= fun others =>
        pure (p.1 :: others)).map (handlers ++ ·))
      cases d.resolveHandlers p.2 rest with
      | error e => rfl
      | ok others =>
        simp only [Except.map, List.append_assoc, List.singleton_append]
        rfl

end Declarations

end ServiceSchema

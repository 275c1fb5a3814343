/-
The stack of names under way, at every point of resolving a manifest (`stack_of_run`). It is the
stack that the functions of resolving are called with at that point. Its names are different,
declared, and not those of records that are kept, so it is never deeper than there are declarations,
and between two handlers it is empty. The run ends, whatever the declarations refer to, and ends
with what the manifest resolves to.

The stack says in a list what the task at hand says in what it waits for: the records whose
declarations have been entered and not left (`owners`). A step changes both in the same way, and
it does so in two places only (`Effect`). All that holds of the stack is kept by these two.
-/
import ServiceSchema.Proofs.Manifest.Acceptance
import ServiceSchema.Proofs.Manifest.Steps

namespace ServiceSchema

open Resolving

namespace Resolving

/-- The records in whose declarations a shape is awaited, outermost first. -/
def Awaiting.owners : Awaiting → List String
  | .request _ | .response _ _ => []
  | .element outer | .key _ _ outer | .value _ outer => outer.owners
  | .field owner _ _ _ outer => outer.owners ++ [owner]

/-- The records in whose declarations a task is done, outermost first. -/
def Task.owners : Task → List String
  | .handler => []
  | .text _ _ outer | .expr _ _ outer | .give _ outer => outer.owners
  | .fields owner _ _ outer => outer.owners ++ [owner]

end Resolving

namespace Declarations

variable {d : Declarations} {s s' : State}

/-! ## What a step does to the stack -/

/-- A step leaves the stack and the records kept as they are, or goes into the declaration of a
name, or leaves that of the last one, whose record is then kept. -/
inductive Effect (d : Declarations) (s s' : State) : Prop
  | stay : s'.stack = s.stack → s'.done = s.done → s'.task.owners = s.task.owners → Effect d s s'
  | enter {name : String} : s'.stack = s.stack ++ [name] → s'.done = s.done →
      s'.task.owners = s.task.owners ++ [name] → name ∉ s.stack → (d.find? name).isSome →
      ¬ s.done.Has name → Effect d s s'
  | leave {name : String} {r : Record} : s'.stack = s.stack.dropLast → s'.done = (name, r) :: s.done →
      s.task.owners = s'.task.owners ++ [name] → Effect d s s'

theorem effect_of_stepName {referrer : Referrer} {name : String} {outer : Awaiting}
    (htask : s.task = .expr referrer (.named name) outer)
    (h : d.stepName s referrer name outer = .goesOn s') : Effect d s s' := by
  rw [stepName] at h
  cases hl : s.done.lookup name with
  | some r =>
    rw [hl] at h
    cases h
    exact .stay rfl rfl (by rw [htask]; rfl)
  | none =>
    simp only [hl] at h
    split at h
    · cases h
    rename_i hs
    split at h
    · rename_i spec hfind
      cases h
      have hnot : ¬ s.done.Has name := by
        rintro ⟨r, hr⟩
        cases hl.symm.trans hr
      exact .enter rfl rfl (by rw [htask]; rfl) hs (by rw [hfind]; rfl) hnot
    · split at h
      · cases h
        exact .stay rfl rfl (by rw [htask]; rfl)
      · cases h

theorem effect_of_stepGive {shape : Shape} {outer : Awaiting} (htask : s.task = .give shape outer)
    (h : stepGive s shape outer = .goesOn s') : Effect d s s' := by
  cases outer with
  | response spec request =>
    rw [stepGive] at h
    split at h
    · cases h
      exact .stay rfl rfl (by rw [htask]; rfl)
    · cases h
  | _ =>
    cases h
    exact .stay rfl rfl (by rw [htask]; rfl)

theorem effect_of_step (h : d.step s = .goesOn s') : Effect d s s' := by
  obtain ⟨stack, done, handlers, pending, task⟩ := s
  cases task with
  | handler =>
    cases pending with
    | nil => cases h
    | cons spec rest =>
      cases h
      exact .stay rfl rfl rfl
  | text referrer text outer =>
    simp only [step] at h
    split at h
    · cases h
      exact .stay rfl rfl rfl
    · cases h
  | expr referrer e outer =>
    cases e with
    | named name => exact effect_of_stepName rfl h
    | _ =>
      cases h
      exact .stay rfl rfl rfl
  | fields owner before rest outer =>
    cases rest with
    | nil =>
      cases h
      exact .leave rfl rfl rfl
    | cons field rest =>
      cases h
      exact .stay rfl rfl rfl
  | give shape outer => exact effect_of_stepGive rfl h

/-! ## What holds of the stack -/

/-- The stack has the names of the declarations entered, each once, and none that is kept. -/
structure StackSound (d : Declarations) (s : State) : Prop where
  eq_owners : s.stack = s.task.owners
  distinct : s.stack.Nodup
  declared : ∀ name ∈ s.stack, (d.find? name).isSome
  unfinished : ∀ name ∈ s.stack, ¬ s.done.Has name

namespace StackSound

theorem start (specs : List HandlerSpec) : d.StackSound (.start specs) :=
  ⟨rfl, List.nodup_nil, nofun, nofun⟩

theorem next (h : d.StackSound s) (heffect : Effect d s s') : d.StackSound s' := by
  cases heffect with
  | stay hstack hdone howners =>
    refine ⟨?_, ?_, ?_, ?_⟩
    · rw [hstack, howners]
      exact h.eq_owners
    · rw [hstack]
      exact h.distinct
    · rw [hstack]
      exact h.declared
    · rw [hstack, hdone]
      exact h.unfinished
  | @enter name hstack hdone howners hs hdecl hnot =>
    refine ⟨?_, ?_, ?_, ?_⟩
    · rw [hstack, howners, h.eq_owners]
    · rw [hstack, List.nodup_append_comm]
      exact List.nodup_cons.2 ⟨hs, h.distinct⟩
    · rw [hstack]
      exact List.forall_mem_append.2 ⟨h.declared, List.forall_mem_singleton.2 hdecl⟩
    · rw [hstack, hdone]
      exact List.forall_mem_append.2 ⟨h.unfinished, List.forall_mem_singleton.2 hnot⟩
  | @leave name r hstack hdone howners =>
    -- The name that is kept now was the last of different ones, so it is not on the stack again.
    have hsplit : s.stack = s'.stack ++ [name] := by
      rw [hstack, h.eq_owners, howners, List.dropLast_concat]
    have hdistinct := h.distinct
    rw [hsplit, List.nodup_append_comm] at hdistinct
    obtain ⟨hs, hdistinct⟩ := List.nodup_cons.1 hdistinct
    have hmem : ∀ n ∈ s'.stack, n ∈ s.stack := fun n hn => hsplit ▸ List.mem_append_left _ hn
    refine ⟨?_, hdistinct, fun n hn => h.declared n (hmem n hn), fun n hn hhas => ?_⟩
    · rw [hstack, h.eq_owners, howners, List.dropLast_concat]
    · rw [hdone, Resolved.has_cons] at hhas
      rcases hhas with rfl | hhas
      · exact hs hn
      · exact h.unfinished n (hmem n hn) hhas

theorem run {n : Nat} (h : d.StackSound s) (hrun : d.run n s = .goesOn s') : d.StackSound s' := by
  induction n generalizing s with
  | zero =>
    cases hrun
    exact h
  | succ n ih =>
    rw [Declarations.run] at hrun
    cases hstep : d.step s with
    | goesOn t =>
      rw [hstep] at hrun
      exact ih (h.next (effect_of_step hstep)) hrun
    | ends answer =>
      rw [hstep] at hrun
      cases hrun

theorem exists_record (h : d.StackSound s) {name : String} (hn : name ∈ s.stack) :
    ∃ spec ∈ d.records, spec.name = name := by
  obtain ⟨spec, hfind⟩ := Option.isSome_iff_exists.1 (h.declared name hn)
  exact ⟨spec, mem_of_find? hfind, name_of_find? hfind⟩

theorem length_le (h : d.StackSound s) : s.stack.length ≤ d.records.length := by
  have hsub : s.stack ⊆ d.records.map (·.name) := fun name hn => List.mem_map.2 (h.exists_record hn)
  have hle := h.distinct.length_le_of_subset hsub
  rwa [List.length_map] at hle

end StackSound

end Declarations

namespace Manifest

/-- **The stack, from the first step to the last.** Resolving the handlers of a manifest ends, with
what the manifest resolves to once its names have been checked. At every point of the run the
stack is the one that resolving is called with there (`Follows`); the names on it are different,
declared, and not kept, they are no more than the declarations, and between two handlers there are
none. When some of the first handlers are resolved, the run comes to the point behind them. -/
theorem stack_of_run (m : Manifest) (known : WellKnownTypes) :
    (∃ n answer, (m.declarations known).run n (.start m.handlers) = .ends answer ∧
      m.resolve known = checkNames [] m.records >>= fun _ => answer) ∧
    (∀ n s, (m.declarations known).run n (.start m.handlers) = .goesOn s →
      (m.declarations known).Follows s ∧
      s.stack.Nodup ∧
      (∀ name ∈ s.stack, (∃ spec ∈ m.records, spec.name = name) ∧ ¬ s.done.Has name) ∧
      s.stack.length ≤ m.records.length ∧
      (s.task = .handler → s.stack = [])) ∧
    ∀ before after handlers, m.handlers = before ++ after →
      (m.declarations known).resolveHandlers [] before = .ok handlers →
      ∃ n done, (m.declarations known).run n (.start m.handlers) =
        .goesOn ⟨[], done, handlers, after, .handler⟩ := by
  refine ⟨?_, fun n s hrun => ?_, fun before after handlers hsplit hbefore => ?_⟩
  · obtain ⟨n, hn⟩ := Declarations.exists_run_eq_ends [] (m.declarations known) m.handlers []
    refine ⟨n, (m.declarations known).resolveHandlers [] m.handlers, hn.trans ?_, rfl⟩
    cases (m.declarations known).resolveHandlers [] m.handlers <;> rfl
  · have hsound : (m.declarations known).StackSound s :=
      (Declarations.StackSound.start m.handlers).run hrun
    refine ⟨Declarations.follows _ s, hsound.distinct,
      fun name hn => ⟨hsound.exists_record hn, hsound.unfinished name hn⟩, hsound.length_le,
      fun htask => ?_⟩
    rw [hsound.eq_owners, htask, Task.owners]
  · rw [State.start, hsplit]
    exact Declarations.exists_run_eq_goesOn [] after hbefore

end Manifest

end ServiceSchema

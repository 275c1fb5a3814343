/-
How applications come about: from one without endpoints, by settings one after the other, in
any order (`build`). Whatever the settings, no two endpoints of the application have one name
(`Built.nodup_names`): a setting keeps that, because an endpoint whose name is taken is not
registered. So a name leads to the one endpoint that has it (`find?_eq_some_iff`).
-/
import Mathlib.Data.List.Nodup
import ServiceSchema.App

namespace ServiceSchema

namespace App

/-- A step in setting up an application. -/
inductive Setting where
  | describe (info : ServiceInfo)
  | authentication (backend : AuthenticationBackend)
  | permissions (backend : PermissionBackend)
  | register (e : Endpoint)

def set (a : App) : Setting → App
  | .describe info => { a with info }
  | .authentication backend => { a with authentication := some backend }
  | .permissions backend => { a with permissions := some backend }
  | .register e => (a.register e).2

/-- The application that some settings make, one after the other. -/
def build (service : String) (settings : List Setting) : App :=
  settings.foldl set (named service)

/-- An application that has been set up, in whatever way. -/
def Built (a : App) : Prop := ∃ service settings, build service settings = a

variable {a : App} {name : String} {e : Endpoint}

theorem mem_names : name ∈ a.names ↔ ∃ e ∈ a.endpoints, e.name = name := by
  rw [names, List.mem_map]

theorem find?_eq_none_iff : a.find? name = none ↔ ∀ e ∈ a.endpoints, e.name ≠ name := by
  simp [find?]

theorem find?_isSome_iff : (a.find? name).isSome ↔ name ∈ a.names := by
  rw [mem_names, find?, List.find?_isSome]
  simp only [decide_eq_true_eq]

/-! ## Names are taken once -/

theorem names_register (a : App) (e : Endpoint) :
    (a.register e).2.names = if e.name ∈ a.names then a.names else a.names ++ [e.name] := by
  by_cases h : e.name ∈ a.names
  · rw [register, if_pos (find?_isSome_iff.2 h), if_pos h]
  · rw [register, if_neg (mt find?_isSome_iff.1 h), if_neg h]
    simp [names]

/-- A setting keeps the names of endpoints different. -/
theorem nodup_names_set (h : a.names.Nodup) (s : Setting) : (a.set s).names.Nodup := by
  cases s with
  | describe => exact h
  | authentication => exact h
  | permissions => exact h
  | register e =>
    rw [set, names_register]
    split
    · exact h
    · rename_i hnew
      exact List.nodup_append.2 ⟨h, List.nodup_singleton _, fun n hn m hm hnm =>
        hnew (List.mem_singleton.1 hm ▸ hnm ▸ hn)⟩

theorem nodup_names_foldl (settings : List Setting) (h : a.names.Nodup) :
    (settings.foldl set a).names.Nodup := by
  induction settings generalizing a with
  | nil => exact h
  | cons s rest ih => exact ih (nodup_names_set h s)

/-- In an application that has been set up, different endpoints have different names. -/
theorem Built.nodup_names (h : a.Built) : a.names.Nodup := by
  obtain ⟨service, settings, rfl⟩ := h
  exact nodup_names_foldl settings .nil

/-- With different names, a name leads to the endpoint that has it. -/
theorem find?_eq_some_iff (h : a.names.Nodup) :
    a.find? name = some e ↔ e ∈ a.endpoints ∧ e.name = name := by
  constructor
  · intro hfind
    exact ⟨List.mem_of_find?_eq_some hfind, by simpa using List.find?_some hfind⟩
  · intro he
    obtain ⟨hmem, hname⟩ := he
    cases hfind : a.find? name with
    | none => exact absurd hname (find?_eq_none_iff.1 hfind e hmem)
    | some other =>
      have hother : other.name = name := by simpa using List.find?_some hfind
      rw [List.inj_on_of_nodup_map h (List.mem_of_find?_eq_some hfind) hmem (hother.trans hname.symm)]

end App

end ServiceSchema

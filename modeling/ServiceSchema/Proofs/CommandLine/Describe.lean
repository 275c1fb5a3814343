/-
What can be told from a service that has been described. The text that is printed has one value, and
the value has all records of the service in it as they are; so services that are described alike have
the same records, whatever they are called, and with them the same fields, numbers and shapes.
-/
import ServiceSchema.CommandLine.Run
import ServiceSchema.Proofs.Except
import ServiceSchema.Proofs.Format.Record

namespace ServiceSchema.CommandLine

theorem integral_describeHandler (h : Handler) : (describeHandler h).Integral := by
  have hpermissions : Json.IntegralItems (h.permissions.map .text) :=
    Json.integralItems_iff.2 (List.forall_mem_map.2 fun _ _ => trivial)
  exact ⟨trivial, trivial, trivial, trivial, trivial, hpermissions, trivial⟩

theorem integral_describeService (s : Service) : (describeService s).Integral := by
  have hhandlers : Json.IntegralItems (s.handlers.map describeHandler) :=
    Json.integralItems_iff.2 (List.forall_mem_map.2 fun h _ => integral_describeHandler h)
  have hrecords : Json.IntegralItems (s.records.map Record.toJson) :=
    Json.integralItems_iff.2 (List.forall_mem_map.2 fun r _ => r.integral_toJson)
  exact ⟨⟨trivial, trivial, trivial, trivial, trivial⟩, trivial, hhandlers, hrecords, trivial⟩

/-- The records of a service as they stand in its document. -/
theorem get?_records (s : Service) : (describeService s).sorted.get? "records" =
    some (Json.array (s.records.map Record.toJson)).sorted :=
  rfl

/-- Services that are described alike have the same records. -/
theorem records_eq_of_pretty {s s' : Service}
    (h : (describeService s).sorted.pretty = (describeService s').sorted.pretty) :
    s.records = s'.records := by
  have hvalue : (describeService s).sorted = (describeService s').sorted :=
    (Json.pretty_inj (Json.integral_sorted (integral_describeService s))
      (Json.integral_sorted (integral_describeService s'))).1 h
  have hrecords := congrArg (Json.get? "records") hvalue
  rw [get?_records, get?_records] at hrecords
  exact Record.array_toJson_inj.1 (Option.some.inj hrecords)

theorem run_describe_cases (w : World) (manifest : String) (config : Option String) :
    (∃ error, run w (.describe manifest config) =
      { stdout := "", failure := some error, files := w.files }) ∨
    ∃ settings s, loadConfig w config = .ok settings ∧
      loadService w manifest settings.knownTypes = .ok s ∧
      run w (.describe manifest config) =
        { stdout := (describeService s).sorted.pretty ++ "\n", files := w.files } := by
  rw [run, describe]
  cases loadConfig w config with
  | error error => exact .inl ⟨error, rfl⟩
  | ok settings =>
    cases hservice : loadService w manifest settings.knownTypes with
    | error error => exact .inl ⟨error, by simp [hservice, bind, Except.bind]⟩
    | ok s =>
      exact .inr ⟨settings, s, rfl, hservice,
        by simp [hservice, bind, Except.bind, pure, Except.pure]⟩

/-- **What is described can be told.** Records whose documents are the same value, in whatever order
the entries stand, are the same records, down to every name, number and shape. A run prints the text of
the service that it has loaded, and services with the same text have the same records. -/
theorem described_records_faithful (rs rs' : List Record) :
    ((Json.array (rs.map Record.toJson)).sorted = (Json.array (rs'.map Record.toJson)).sorted ↔
      rs = rs') ∧
    (∀ s s' : Service, (describeService s).sorted.pretty = (describeService s').sorted.pretty →
      s.records = s'.records) ∧
    ∀ w manifest config,
      (∃ error, run w (.describe manifest config) =
        { stdout := "", failure := some error, files := w.files }) ∨
      ∃ settings s, loadConfig w config = .ok settings ∧
        loadService w manifest settings.knownTypes = .ok s ∧
        run w (.describe manifest config) =
          { stdout := (describeService s).sorted.pretty ++ "\n", files := w.files } :=
  ⟨Record.array_toJson_inj, fun _ _ => records_eq_of_pretty, run_describe_cases⟩

end ServiceSchema.CommandLine

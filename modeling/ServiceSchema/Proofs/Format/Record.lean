/-
The document of a record determines the record, with all that is nested in it (`Record.toJson_inj`),
also when the entries of its objects are put in order. A scalar with a name of its own is an object,
so it cannot be taken for a scalar that is called so, and the word of each kind of shape is the only
key of its object.
-/
import ServiceSchema.Format.Record
import ServiceSchema.Proofs.Json.Order
import ServiceSchema.Proofs.Json.Text

namespace ServiceSchema

open Json (sortedItems)

/-! ## Entries in order -/

section

variable (kind : Scalar) (r : Record) (s element key value : Shape) (name : String) (ordinal : UInt32)
  (fields rest : List Field)

@[simp] theorem Shape.sorted_scalar :
    (scalar kind).toJson.sorted = .object [("scalar", kind.toJson)] := by
  cases kind <;> rfl

@[simp] theorem Shape.sorted_record :
    (record r).toJson.sorted = .object [("record", r.toJson.sorted)] := rfl

@[simp] theorem Shape.sorted_sequence :
    (sequence element).toJson.sorted = .object [("sequence", element.toJson.sorted)] := rfl

@[simp] theorem Shape.sorted_map : (map key value).toJson.sorted =
    .object [("map", .array [key.toJson.sorted, value.toJson.sorted])] := rfl

@[simp] theorem Record.sorted_mk : (mk name fields).toJson.sorted =
    .object [("fields", .array (sortedItems (Field.toJsonList fields))), ("name", .text name)] := rfl

@[simp] theorem Field.sortedItems_nil : sortedItems (toJsonList []) = [] := rfl

@[simp] theorem Field.sortedItems_cons : sortedItems (toJsonList (⟨name, ordinal, s⟩ :: rest)) =
    .object [("name", .text name), ("ordinal", .integer ordinal.toNat), ("type", s.toJson.sorted)] ::
      sortedItems (toJsonList rest) := rfl

end

/-! ## Telling the record -/

theorem Scalar.toJson_inj {kind other : Scalar} (h : kind.toJson = other.toJson) : kind = other := by
  cases kind <;> cases other <;> simp_all [toJson]

mutual

theorem Shape.toJson_inj : ∀ {s t : Shape}, s.toJson.sorted = t.toJson.sorted → s = t
  | .scalar kind, t, h => by
    cases t with
    | scalar other =>
      have hkind : kind.toJson = other.toJson := by simpa using h
      rw [Scalar.toJson_inj hkind]
    | _ => simp at h
  | .record r, t, h => by
    cases t with
    | record other =>
      have hr : r.toJson.sorted = other.toJson.sorted := by simpa using h
      rw [Record.toJson_inj hr]
    | _ => simp at h
  | .sequence element, t, h => by
    cases t with
    | sequence other =>
      have helement : element.toJson.sorted = other.toJson.sorted := by simpa using h
      rw [Shape.toJson_inj helement]
    | _ => simp at h
  | .map key value, t, h => by
    cases t with
    | map key' value' =>
      have hboth : key.toJson.sorted = key'.toJson.sorted ∧
          value.toJson.sorted = value'.toJson.sorted := by simpa using h
      rw [Shape.toJson_inj hboth.1, Shape.toJson_inj hboth.2]
    | _ => simp at h

theorem Record.toJson_inj : ∀ {r r' : Record}, r.toJson.sorted = r'.toJson.sorted → r = r'
  | ⟨name, fields⟩, ⟨name', fields'⟩, h => by
    have hboth : sortedItems (Field.toJsonList fields) = sortedItems (Field.toJsonList fields') ∧
        name = name' := by simpa using h
    rw [Field.toJsonList_inj hboth.1, hboth.2]

theorem Field.toJsonList_inj : ∀ {fs gs : List Field},
    sortedItems (Field.toJsonList fs) = sortedItems (Field.toJsonList gs) → fs = gs
  | [], gs, h => by
    cases gs with
    | nil => rfl
    | cons g more =>
      obtain ⟨name, ordinal, shape⟩ := g
      simp at h
  | ⟨name, ordinal, shape⟩ :: rest, gs, h => by
    cases gs with
    | nil => simp at h
    | cons g more =>
      obtain ⟨name', ordinal', shape'⟩ := g
      have hall : (name = name' ∧ ordinal = ordinal' ∧ shape.toJson.sorted = shape'.toJson.sorted) ∧
          sortedItems (Field.toJsonList rest) = sortedItems (Field.toJsonList more) := by
        simpa [Int.natCast_inj, UInt32.toNat_inj] using h
      rw [hall.1.1, hall.1.2.1, Shape.toJson_inj hall.1.2.2, Field.toJsonList_inj hall.2]

end

/-- Lists of records are told by the documents of their records. -/
theorem Record.array_toJson_inj {rs rs' : List Record} :
    (Json.array (rs.map toJson)).sorted = (Json.array (rs'.map toJson)).sorted ↔ rs = rs' := by
  constructor
  · intro h
    have hmap : (rs.map fun r => r.toJson.sorted) = rs'.map fun r => r.toJson.sorted := by
      simpa [Json.sorted, Json.sortedItems_eq_map, Function.comp_def] using h
    exact List.map_injective_iff.2 (fun _ _ => toJson_inj) hmap
  · rintro rfl
    rfl

/-! ## Numbers -/

theorem Scalar.integral_toJson (kind : Scalar) : kind.toJson.Integral := by
  cases kind <;> simp [toJson, Json.Integral, Json.IntegralEntries]

mutual

theorem Shape.integral_toJson (s : Shape) : s.toJson.Integral := by
  cases s with
  | scalar kind => exact ⟨kind.integral_toJson, trivial⟩
  | record r => exact ⟨r.integral_toJson, trivial⟩
  | sequence element => exact ⟨element.integral_toJson, trivial⟩
  | map key value => exact ⟨⟨key.integral_toJson, value.integral_toJson, trivial⟩, trivial⟩

theorem Record.integral_toJson : ∀ r : Record, r.toJson.Integral
  | ⟨_, fields⟩ => ⟨trivial, Field.integral_toJsonList fields, trivial⟩

theorem Field.integral_toJsonList : ∀ fs : List Field, Json.IntegralItems (Field.toJsonList fs)
  | [] => trivial
  | ⟨_, _, shape⟩ :: rest =>
    ⟨⟨trivial, trivial, Shape.integral_toJson shape, trivial⟩, Field.integral_toJsonList rest⟩

end

end ServiceSchema

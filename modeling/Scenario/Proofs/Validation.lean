import Scenario.Validation.Scalar

/-! # What is read from a value

Readings side by side succeed when each of them does (`Checked.ap_eq_ok_iff`). A decoder reads back
what is written (`Decoder.ReadsBack`) if a value that was made from data is read as this data:
texts, numbers and truth values are, and with the items of a list the list. -/

namespace Scenario

namespace Checked

variable {α β : Type} {entries : List (Value × Value)} {name : String} {d : Decoder α} {v : Value}
  {a default : α}

/-- A function and its argument are read when both are. -/
theorem ap_eq_ok_iff {f : Checked (α → β)} {x : Checked α} {b : β} :
    ap f x = .ok b ↔ ∃ g a, f = .ok g ∧ x = .ok a ∧ g a = b := by
  cases f <;> cases x <;> simp [ap, both, Functor.map, Except.map]

/-- A required field is read as what is under its name. -/
theorem required_of_field? (hv : Value.field? name entries = some v) (ha : d v = .ok a) :
    required entries name d = .ok a := by
  rw [required, hv]
  dsimp only
  rw [ha]
  rfl

/-- A field that is there is read as what is under its name. -/
theorem withDefault_of_field? (hv : Value.field? name entries = some v) (ha : d v = .ok a) :
    withDefault entries name d default = .ok a := by
  rw [withDefault, hv]
  dsimp only
  rw [ha]
  rfl

/-- What a field is read as is under its name, or it is the default. -/
theorem withDefault_eq_ok_iff :
    withDefault entries name d default = .ok a ↔
      (∃ v, Value.field? name entries = some v ∧ d v = .ok a) ∨
        Value.field? name entries = none ∧ default = a := by
  unfold withDefault
  cases Value.field? name entries with
  | none => simp
  | some v => cases hd : d v <;> simp [under, hd]

end Checked

namespace Decoder

variable {α : Type} {d : Decoder α} {write : α → Value}

/-- What has been written is read as the data from which it was written. -/
def ReadsBack (d : Decoder α) (write : α → Value) : Prop := ∀ a, d (write a) = .ok a

theorem readsBack_text : ReadsBack text .text := fun _ => rfl

theorem readsBack_int : ReadsBack int .int := fun _ => rfl

theorem readsBack_bool : ReadsBack bool .bool := fun _ => rfl

theorem readsBack_any : ReadsBack any id := fun _ => rfl

/-- Items are read back one by one, wherever they stand. -/
theorem ReadsBack.items (h : ReadsBack d write) (i : Nat) (as : List α) :
    items d i (as.map write) = .ok as := by
  induction as generalizing i with
  | nil => rfl
  | cons a as ih =>
      rw [List.map_cons, Decoder.items, h a, ih]
      rfl

/-- A list is read back if its items are. -/
theorem ReadsBack.list (h : ReadsBack d write) :
    ReadsBack (list d) fun as => .list (as.map write) :=
  h.items 0

end Decoder

end Scenario

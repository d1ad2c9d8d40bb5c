import Scenario.Proofs.Json.Roundtrip
import Scenario.Proofs.Specification.Outline
import Mathlib.Algebra.Order.BigOperators.Group.List
import Mathlib.Algebra.Order.Ring.Nat

/-! # The numbers of an outline

An outline numbers fields and features, and it counts statements; each of these numbers is bounded
by the length of a list of the class. So where no list is so long that its length could not be read
(`ClassDecl.IsShort`), the outline of the class is a plain document
(`ClassDecl.plain_outline`). -/

namespace Scenario

theorem Digits.isLong_of_le {m n : Nat} (h : m ≤ n) (hn : isLong n = false) :
    isLong m = false := by
  rw [isLong, decide_eq_false_iff_not, Nat.not_le] at hn ⊢
  exact Nat.lt_of_le_of_lt h hn

/-! ## Outlines as plain documents -/

namespace Json

theorem plain_texts (ss : List String) : (texts ss).Plain := by
  apply Plain.list
  intro j hj
  obtain ⟨s, -, rfl⟩ := List.mem_map.mp hj
  exact .text s

theorem plain_optionalText (o : Option String) : (optionalText o).Plain := by
  cases o with
  | none => exact .null
  | some s => exact .text s

/-- A list of plain documents is plain. -/
theorem plain_list_map {α : Type} {as : List α} {toJson : α → Json}
    (h : ∀ a ∈ as, (toJson a).Plain) : (Json.list (as.map toJson)).Plain := by
  apply Plain.list
  intro j hj
  obtain ⟨a, ha, rfl⟩ := List.mem_map.mp hj
  exact h a ha

end Json

theorem BlockOutline.plain_toJson {b : BlockOutline} (h : Digits.isLong b.statements = false) :
    b.toJson.Plain := by
  apply Json.Plain.object
  · simp only [List.map_cons, List.map_nil]
    decide +kernel
  · simp only [List.forall_mem_cons]
    exact ⟨.text _, Json.plain_texts _, .int h, nofun⟩

theorem FieldOutline.plain_toJson {f : FieldOutline} (h : Digits.isLong f.ordinal = false) :
    f.toJson.Plain := by
  apply Json.Plain.object
  · simp only [List.map_cons, List.map_nil]
    decide +kernel
  · simp only [List.forall_mem_cons]
    exact ⟨.text _, .int h, .bool _, nofun⟩

/-- No number that is told of a method is too long to be read. -/
structure MethodOutline.IsShort (o : MethodOutline) : Prop where
  ordinal : ∀ n, o.ordinal = some n → Digits.isLong n = false
  statements : ∀ b ∈ o.blocks, Digits.isLong b.statements = false

theorem MethodOutline.plain_toJson {o : MethodOutline} (h : o.IsShort) : o.toJson.Plain := by
  have hmarks : ∀ mark ∈ o.marks, mark.2.Plain := by
    intro mark hmark
    rcases List.mem_append.mp hmark with hmark | hmark
    · obtain ⟨n, hn, rfl⟩ := Option.map_eq_some_iff.mp (Option.mem_toList.mp hmark)
      exact .int (h.ordinal n hn)
    · obtain ⟨r, -, rfl⟩ := Option.map_eq_some_iff.mp (Option.mem_toList.mp hmark)
      exact .text r.name
  have hblocks := Json.plain_list_map fun b hb => BlockOutline.plain_toJson (h.statements b hb)
  apply Json.Plain.object
  · unfold marks
    cases o.ordinal <;> cases o.role <;>
      simp only [Option.map_none, Option.map_some, Option.toList_none, Option.toList_some,
        List.map_append, List.map_cons, List.map_nil] <;> decide +kernel
  · rw [List.forall_mem_append]
    simp only [List.forall_mem_cons]
    exact ⟨⟨.text _, .text _, hblocks, nofun⟩, hmarks⟩

/-- No number of an outline is too long to be read. -/
structure Outline.IsShort (o : Outline) : Prop where
  fields : ∀ f ∈ o.fields, Digits.isLong f.ordinal = false
  fixtures : ∀ m ∈ o.fixtures, m.IsShort
  methods : ∀ m ∈ o.methods, m.IsShort

theorem Outline.plain_toJson {o : Outline} (h : o.IsShort) : o.toJson.Plain := by
  apply Json.Plain.object
  · simp only [List.map_cons, List.map_nil]
    decide +kernel
  · simp only [List.forall_mem_cons]
    exact ⟨.text _, Json.plain_optionalText _,
      Json.plain_list_map fun f hf => FieldOutline.plain_toJson (h.fields f hf),
      Json.plain_list_map fun m hm => MethodOutline.plain_toJson (h.fixtures m hm),
      Json.plain_list_map fun m hm => MethodOutline.plain_toJson (h.methods m hm), nofun⟩

/-! ## Numbers and the lists that they count -/

namespace MethodDecl

variable {m : MethodDecl}

/-- No block has more statements than the body that the blocks tell. -/
theorem ToldBy.statements_le {blocks : List BlockOutline} (h : m.ToldBy blocks) :
    ∀ b ∈ blocks, b.statements ≤ m.statements.length := by
  intro b hb
  rw [← h.statements]
  have hsize : b.statements + b.descriptions.length ∈
      blocks.map fun b => b.statements + b.descriptions.length := List.mem_map_of_mem hb
  exact Nat.le_trans (Nat.le_add_right _ _) (List.le_sum_of_mem hsize)

theorem OutlinedAs.statements_le {o : MethodOutline} (h : m.OutlinedAs o) :
    ∀ b ∈ o.blocks, b.statements ≤ m.statements.length := by
  cases h with
  | feature ordinal blocks _ hb => exact hb.statements_le
  | helper _ => exact List.forall_mem_singleton.mpr (Nat.le_refl _)

end MethodDecl

namespace ClassDecl

variable {c : ClassDecl} {settings : Settings} {spec : Specification}

/-- No list of a class is so long that its length could not be read. -/
def IsShort (c : ClassDecl) : Prop :=
  Digits.isLong c.fields.length = false ∧ Digits.isLong c.methods.length = false ∧
    ∀ m ∈ c.methods, Digits.isLong m.statements.length = false

instance (c : ClassDecl) : Decidable c.IsShort :=
  inferInstanceAs (Decidable (_ ∧ _))

theorem isShort_outline (h : c.specification settings = .ok spec) (hc : c.IsShort) :
    spec.outline.IsShort := by
  obtain ⟨hfields, hmethods, hstatements⟩ := hc
  constructor
  case fields =>
    intro f hf
    rw [specification_eq_account h] at hf
    obtain ⟨field, hfield, rfl⟩ := List.mem_map.mp hf
    obtain ⟨i, hi, rfl⟩ := List.mem_mapIdx.mp hfield
    exact Digits.isLong_of_le (Nat.le_trans (Nat.le_of_lt hi) (List.length_filter_le _ _)) hfields
  case fixtures =>
    intro o ho
    obtain ⟨f, hf, rfl⟩ := List.mem_map.mp ho
    rw [Specification.fixtureMethods, Fixtures.inOrder_eq] at hf
    obtain ⟨r, -, hr⟩ := List.mem_filterMap.mp hf
    rw [get?_fixtures_eq h] at hr
    obtain ⟨m, hm, rfl⟩ := Option.map_eq_some_iff.mp hr
    have hmem := List.mem_of_mem_filter (List.mem_of_getLast? hm)
    constructor
    · intro n hn
      cases hn
    · exact List.forall_mem_singleton.mpr (hstatements m hmem)
  case methods =>
    intro o ho
    obtain ⟨d, hd, rfl⟩ := List.mem_map.mp ho
    obtain ⟨m, hm, -, hdeclared, k, hk, rfl⟩ := exists_of_mem_methods h hd
    constructor
    · intro n hn
      have hordinal := (m.ordinal?_asMember k).symm.trans hn
      split at hordinal
      · cases hordinal
      · cases hordinal
        exact Digits.isLong_of_le (Nat.le_of_lt hk) hmethods
    · intro b hb
      exact Digits.isLong_of_le (hdeclared.outlinedAs.statements_le b hb) (hstatements m hm)

/-- The outline of a class that builds is a plain document. -/
theorem plain_outline (h : c.specification settings = .ok spec) (hc : c.IsShort) :
    spec.outline.toJson.Plain :=
  Outline.plain_toJson (isShort_outline h hc)

end ClassDecl

end Scenario

import Scenario.Classification

/-! # Annotations by name

An annotation stands for a name if it is the name, or if the name is simple, that is without dots,
and the annotation qualifies it (`FieldDecl.StandsFor`). A simple name is read off an annotation
after its last dot (`FieldDecl.simpleName_eq_iff`), and a field is annotated with a name if one of
its annotations stands for it (`FieldDecl.isAnnotatedWith_iff`). `FieldDecl.annotated_by_names`
says what follows for dotted names, for simple ones and for shared fields. -/

namespace Scenario.FieldDecl

variable {f : FieldDecl} {a name p q s : String} {annotations : List String}

/-! ## Simple names -/

/-- A name with a qualifier in front. -/
def qualified (q name : String) : String := q ++ "." ++ name

theorem toList_qualified (q name : String) :
    (qualified q name).toList = q.toList ++ '.' :: name.toList := by
  simp [qualified]

/-- Read from its end, a text without dots is passed over as a whole. -/
theorem takeWhile_reverse_append (h : '.' ∉ s.toList) (cs : List Char) :
    (s.toList.reverse ++ cs).takeWhile (· ≠ '.') =
      s.toList.reverse ++ cs.takeWhile (· ≠ '.') := by
  refine List.takeWhile_append_of_pos fun c hc => decide_eq_true fun heq => h ?_
  exact heq ▸ List.mem_reverse.mp hc

theorem simpleName_of_not_mem (h : '.' ∉ a.toList) : simpleName a = a := by
  have hwhole : a.toList.reverse.takeWhile (· ≠ '.') = a.toList.reverse := by
    simpa using takeWhile_reverse_append h []
  rw [simpleName, hwhole, List.reverse_reverse, String.ofList_toList]

/-- The qualifier, however many dots it has, is not part of the simple name. -/
theorem simpleName_qualified (h : '.' ∉ s.toList) : simpleName (qualified q s) = s := by
  have hreverse : (qualified q s).toList.reverse = s.toList.reverse ++ '.' :: q.toList.reverse := by
    simp [toList_qualified]
  rw [simpleName, hreverse, takeWhile_reverse_append h, List.takeWhile_cons_of_neg (by decide),
    List.append_nil, List.reverse_reverse, String.ofList_toList]

/-- A text with dots qualifies what stands after the last of them. -/
theorem exists_eq_qualified (h : '.' ∈ a.toList) : ∃ q s, a = qualified q s ∧ '.' ∉ s.toList := by
  obtain ⟨after, before, hreverse, hafter⟩ :=
    List.eq_append_cons_of_mem (List.mem_reverse.mpr h)
  refine ⟨String.ofList before.reverse, String.ofList after.reverse, ?_, by simpa using hafter⟩
  rw [← String.toList_inj, toList_qualified, ← List.reverse_reverse a.toList, hreverse]
  simp

theorem simpleName_eq_iff :
    simpleName a = name ↔ '.' ∉ name.toList ∧ (a = name ∨ ∃ q, a = qualified q name) := by
  constructor
  · rintro rfl
    by_cases h : '.' ∈ a.toList
    · obtain ⟨q, s, rfl, hs⟩ := exists_eq_qualified h
      rw [simpleName_qualified hs]
      exact ⟨hs, .inr ⟨q, rfl⟩⟩
    · rw [simpleName_of_not_mem h]
      exact ⟨h, .inl rfl⟩
  · rintro ⟨hname, rfl | ⟨q, rfl⟩⟩
    · exact simpleName_of_not_mem hname
    · exact simpleName_qualified hname

/-! ## What an annotation stands for -/

/-- An annotation stands for itself, and for the simple name that it qualifies. -/
def StandsFor (a name : String) : Prop :=
  a = name ∨ '.' ∉ name.toList ∧ ∃ q, a = qualified q name

theorem standsFor_iff_simpleName : StandsFor a name ↔ a = name ∨ simpleName a = name := by
  rw [simpleName_eq_iff, StandsFor]
  constructor
  · rintro (h | ⟨hname, hq⟩)
    · exact .inl h
    · exact .inr ⟨hname, .inr hq⟩
  · rintro (h | ⟨hname, h | hq⟩)
    · exact .inl h
    · exact .inl h
    · exact .inr ⟨hname, hq⟩

theorem isAnnotatedWith_iff :
    f.isAnnotatedWith name = true ↔ ∃ a ∈ f.annotations, StandsFor a name := by
  simp only [isAnnotatedWith, List.any_eq_true, Bool.or_eq_true, beq_iff_eq,
    standsFor_iff_simpleName]

/-- The end of a longer simple name is not what an annotation with that name stands for. -/
theorem not_standsFor_of_longer (hp : p ≠ "") (hdots : '.' ∉ p.toList)
    (ha : a = p ++ name ∨ ∃ q, a = qualified q (p ++ name)) : ¬ StandsFor a name := by
  have hlength : 0 < p.length := Nat.pos_of_ne_zero fun h => hp (String.length_eq_zero_iff.mp h)
  have hlonger : p ++ name ≠ name := by
    intro h
    have hsame := congrArg String.length h
    rw [String.length_append] at hsame
    omega
  rintro (rfl | ⟨hname, hq⟩)
  · rcases ha with h | ⟨q, h⟩
    · exact hlonger h.symm
    · have hsame := congrArg String.length h
      simp only [qualified, String.length_append] at hsame
      omega
  · have hsimple : '.' ∉ (p ++ name).toList := by
      simp [hdots, hname]
    have hshort : simpleName a = name := simpleName_eq_iff.mpr ⟨hname, .inr hq⟩
    have hlong : simpleName a = p ++ name := simpleName_eq_iff.mpr ⟨hsimple, ha⟩
    exact hlonger (hlong.symm.trans hshort)

/-- Which names a field is annotated with depends on the set of its annotations. -/
theorem isAnnotatedWith_congr (h : ∀ a, a ∈ annotations ↔ a ∈ f.annotations) (name : String) :
    ({ f with annotations } : FieldDecl).isAnnotatedWith name = f.isAnnotatedWith name := by
  rw [Bool.eq_iff_iff, isAnnotatedWith_iff, isAnnotatedWith_iff]
  simp only [h]

/-- A field is annotated with a name if an annotation is the name, or if the name is simple and an
annotation qualifies it. So a dotted name is found literally only; a simple one is found in each of
its qualifications, and never at the end of a longer simple name; and order and repetition of the
annotations have no say in what a field is. -/
theorem annotated_by_names (f : FieldDecl) (name : String) :
    (f.isAnnotatedWith name = true ↔
      name ∈ f.annotations ∨ '.' ∉ name.toList ∧ ∃ q, q ++ "." ++ name ∈ f.annotations) ∧
    ('.' ∈ name.toList → (f.isAnnotatedWith name = true ↔ name ∈ f.annotations)) ∧
    ('.' ∉ name.toList → ∀ q, q ++ "." ++ name ∈ f.annotations → f.isAnnotatedWith name = true) ∧
    ((∀ a ∈ f.annotations, ∃ p, p ≠ "" ∧ '.' ∉ p.toList ∧
        (a = p ++ name ∨ ∃ q, a = q ++ "." ++ (p ++ name))) → f.isAnnotatedWith name = false) ∧
    ∀ annotations : List String, (∀ a, a ∈ annotations ↔ a ∈ f.annotations) →
      ∀ settings owner, ({ f with annotations } : FieldDecl).dataField? settings owner =
        f.dataField? settings owner := by
  have hiff : f.isAnnotatedWith name = true ↔
      name ∈ f.annotations ∨ '.' ∉ name.toList ∧ ∃ q, qualified q name ∈ f.annotations := by
    rw [isAnnotatedWith_iff]
    constructor
    · rintro ⟨a, ha, rfl | ⟨hname, q, rfl⟩⟩
      · exact .inl ha
      · exact .inr ⟨hname, q, ha⟩
    · rintro (ha | ⟨hname, q, ha⟩)
      · exact ⟨name, ha, .inl rfl⟩
      · exact ⟨qualified q name, ha, .inr ⟨hname, q, rfl⟩⟩
  refine ⟨hiff, ?dotted, ?simple, ?longer, ?shared⟩
  case dotted =>
    intro hname
    rw [hiff]
    exact or_iff_left fun h => h.1 hname
  case simple =>
    intro hname q hq
    exact hiff.mpr (.inr ⟨hname, q, hq⟩)
  case longer =>
    intro h
    rw [Bool.eq_false_iff, ne_eq, isAnnotatedWith_iff]
    rintro ⟨a, ha, hstands⟩
    obtain ⟨p, hp, hdots, hlonger⟩ := h a ha
    exact not_standsFor_of_longer hp hdots hlonger hstands
  case shared =>
    intro annotations h settings owner
    simp only [dataField?, isAnnotatedWith_congr h]

/-- A field with two qualified annotations and one that ends like one of them. -/
def markedField : FieldDecl :=
  { name := "log", annotations := ["spock.lang.Shared", "groovy.Unshared", "Unshared"] }

/-- The field is annotated with one of the names in full and with both by their simple names, not
with a part of a qualified name nor with the end of a simple one, and it stays so when its
annotations are turned around and repeated. -/
theorem annotated_by_names_markedField :
    markedField.isAnnotatedWith "spock.lang.Shared" = true ∧
    markedField.isAnnotatedWith "lang.Shared" = false ∧
    markedField.isAnnotatedWith "Shared" = true ∧
    ({ markedField with annotations := ["groovy.Unshared", "Unshared"] } :
      FieldDecl).isAnnotatedWith "shared" = false ∧
    ∀ settings owner, ({ markedField with
        annotations := ["Unshared", "groovy.Unshared", "spock.lang.Shared", "Unshared"] } :
      FieldDecl).dataField? settings owner = markedField.dataField? settings owner := by
  refine ⟨?full, ?part, ?simple, ?longer, ?shared⟩
  case full =>
    obtain ⟨-, hdotted, -⟩ := annotated_by_names markedField "spock.lang.Shared"
    exact (hdotted (by decide)).mpr (by decide)
  case part =>
    obtain ⟨-, hdotted, -⟩ := annotated_by_names markedField "lang.Shared"
    exact Bool.eq_false_iff.mpr fun h => absurd ((hdotted (by decide)).mp h) (by decide)
  case simple =>
    obtain ⟨-, -, hsimple, -⟩ := annotated_by_names markedField "Shared"
    exact hsimple (by decide) "spock.lang" (by decide)
  case longer =>
    obtain ⟨-, -, -, hlonger, -⟩ := annotated_by_names
      { markedField with annotations := ["groovy.Unshared", "Unshared"] } "shared"
    refine hlonger ?_
    simp only [List.forall_mem_cons]
    exact ⟨⟨"Un", by decide, by decide, .inr ⟨"groovy", by decide⟩⟩,
      ⟨"Un", by decide, by decide, .inl (by decide)⟩, nofun⟩
  case shared =>
    obtain ⟨-, -, -, -, hshared⟩ := annotated_by_names markedField "Shared"
    refine hshared _ fun a => ?_
    simp only [markedField, List.mem_cons, List.not_mem_nil, or_false]
    grind

end Scenario.FieldDecl

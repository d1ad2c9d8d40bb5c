import Scenario.Proofs.Loading.Documents
import Scenario.Proofs.Validation.Follows
import Scenario.Proofs.Validation.Mending

/-! # Faults in class declarations

Each kind of node has a shape, which its decoder follows. What is told of a class that is not as it
should be is thus sound, complete and in order, and mended values make it load
(`ClassDecl.faults_told`). -/

namespace Scenario

open Checked Decoder

/-! ## Shapes of nodes -/

def Position.shape : Shape :=
  .node "SourcePosition" [{ name := "line" }, { name := "column" }] (fun _ => .scalar .int)
    (by decide)

def Statement.shape : Shape :=
  .node "StatementNode"
    [{ name := "label" }, { name := "position" }, { name := "literal" }, { name := "expression" }]
    (fun
      | "label" | "literal" => .optional (.scalar .text)
      | "position" => Position.shape
      | _ => .any)
    (by decide)

def PropertyDecl.shape : Shape :=
  .node "PropertyNode" [{ name := "name", required := true }, { name := "position" }]
    (fun
      | "name" => .scalar .text
      | _ => Position.shape)
    (by decide)

def FieldDecl.shape : Shape :=
  .node "FieldNode"
    [{ name := "name", required := true }, { name := "is_static" }, { name := "is_synthetic" },
      { name := "annotations" }, { name := "position" }]
    (fun
      | "name" => .scalar .text
      | "is_static" | "is_synthetic" => .scalar .bool
      | "annotations" => .list (.scalar .text)
      | _ => Position.shape)
    (by decide)

def MethodDecl.shape : Shape :=
  .node "MethodNode"
    [{ name := "name", required := true }, { name := "is_static" }, { name := "is_synthetic" },
      { name := "is_constructor" }, { name := "statements" }, { name := "position" },
      { name := "end_position" }]
    (fun
      | "name" => .scalar .text
      | "is_static" | "is_synthetic" | "is_constructor" => .scalar .bool
      | "statements" => .list Statement.shape
      | "position" => Position.shape
      | _ => .optional Position.shape)
    (by decide)

def ClassDecl.shape : Shape :=
  .node "ClassNode"
    [{ name := "name", required := true }, { name := "source_file" }, { name := "fields" },
      { name := "properties" }, { name := "methods" }, { name := "position" }]
    (fun
      | "name" => .scalar .text
      | "source_file" => .optional (.scalar .text)
      | "fields" => .list FieldDecl.shape
      | "properties" => .list PropertyDecl.shape
      | "methods" => .list MethodDecl.shape
      | _ => Position.shape)
    (by decide)

/-! ## Decoders follow the shapes

The fields are told one after another, in the order in which a decoder reads them. -/

theorem Position.follows_shape : Decoder.Follows Position.decoder Position.shape :=
  follows_node fun _ => Tells.of_eq
    (.ap (follows_int.withDefault.map _)
      follows_int.withDefault) rfl

theorem Statement.follows_shape : Decoder.Follows Statement.decoder Statement.shape :=
  follows_node fun _ => Tells.of_eq
    (.ap (.ap (.ap (follows_text.optional.withDefault.map _)
      Position.follows_shape.withDefault)
      follows_text.optional.withDefault)
      follows_any.withDefault) rfl

theorem PropertyDecl.follows_shape : Decoder.Follows PropertyDecl.decoder PropertyDecl.shape :=
  follows_node fun _ => Tells.of_eq
    (.ap (follows_text.required.map _)
      Position.follows_shape.withDefault) rfl

theorem FieldDecl.follows_shape : Decoder.Follows FieldDecl.decoder FieldDecl.shape :=
  follows_node fun _ => Tells.of_eq
    (.ap (.ap (.ap (.ap (follows_text.required.map _)
      follows_bool.withDefault)
      follows_bool.withDefault)
      follows_text.list.withDefault)
      Position.follows_shape.withDefault) rfl

theorem MethodDecl.follows_shape : Decoder.Follows MethodDecl.decoder MethodDecl.shape :=
  follows_node fun _ => Tells.of_eq
    (.ap (.ap (.ap (.ap (.ap (.ap (follows_text.required.map _)
      follows_bool.withDefault)
      follows_bool.withDefault)
      follows_bool.withDefault)
      Statement.follows_shape.list.withDefault)
      Position.follows_shape.withDefault)
      Position.follows_shape.optional.withDefault) rfl

theorem ClassDecl.follows_shape : Decoder.Follows ClassDecl.decoder ClassDecl.shape :=
  follows_node fun _ => Tells.of_eq
    (.ap (.ap (.ap (.ap (.ap (follows_text.required.map _)
      follows_text.optional.withDefault)
      FieldDecl.follows_shape.list.withDefault)
      PropertyDecl.follows_shape.list.withDefault)
      MethodDecl.follows_shape.list.withDefault)
      Position.follows_shape.withDefault) rfl

/-! ## What is told of a class -/

namespace ClassDecl

variable {source : Path} {document item : Value} {entries : List (Value × Value)}
  {issues : List Issue}

/-- The source file that is added to a mapping is never at fault. -/
theorem issues_withSource (source : Path) (entries : List (Value × Value)) :
    shape.issues (.map (withSource source entries)) = shape.issues (.map entries) := by
  unfold withSource
  cases hsource : Value.field? "source_file" entries with
  | some v => rfl
  | none => exact Shape.issues_node_cons hsource (.inr rfl) (by decide)

/-- Of a mapping that is to be a class, the faults in it are told. -/
theorem tells_of_exposed (source : Path) (hitem : item.exposed = .map entries) :
    (ClassDecl.decoder (.map (withSource source entries))).Tells (shape.issues item) := by
  have hentries : shape.issues item = shape.issues (.map entries) := by
    rw [shape, Shape.issues_node_of_entries? (entries?_eq_some_iff.mpr hitem),
      Shape.issues_node_of_entries? (Value.entries?_map entries)]
  rw [hentries, ← issues_withSource source]
  exact follows_shape _

/-- A mapping loads exactly when there are no faults in it. -/
theorem exists_loadsAlone_iff (hitem : item.exposed = .map entries) :
    (∃ c, LoadsAlone source item c) ↔ shape.issues item = [] := by
  simp only [loadsAlone_iff hitem]
  exact (tells_of_exposed source hitem).exists_ok_iff

/-- What is told of a mapping that gives no class: faults in the order of the document, one for each
place, each of which is there. -/
structure FaultsTold (source : Path) (item : Value) (issues : List Issue) : Prop where
  ne_nil : issues ≠ []
  nodup : (issues.map Issue.loc).Nodup
  ordered : issues.Pairwise shape.Before
  /-- What is missing is a key that a mapping has to have. -/
  missing : ∀ loc, ⟨loc, .missing⟩ ∈ issues ↔ shape.Lacks item loc
  /-- Other faults are those of values. -/
  unfit : ∀ loc, (∃ c, c ≠ .missing ∧ ⟨loc, c⟩ ∈ issues) ↔ shape.Unfit item loc
  /-- Valid values in all these places give a class. -/
  mended : ∀ w : List Step → Value,
    (∀ i ∈ issues, ∀ s, Shape.at? i.loc shape = some s → s.Accepts (w i.loc)) →
      ∃ c, LoadsAlone source (mended w issues item) c
  /-- There are such values. -/
  mendable : ∃ w : List Step → Value,
    ∀ i ∈ issues, ∀ s, Shape.at? i.loc shape = some s → s.Accepts (w i.loc)

/-- What is valid loads. -/
theorem exists_loadsAlone_of_accepts (h : shape.Accepts item) : ∃ c, LoadsAlone source item c := by
  obtain ⟨entries, hentries, -⟩ := id h
  exact (exists_loadsAlone_iff (entries?_eq_some_iff.mp hentries)).mpr
    (Shape.issues_eq_nil_iff.mpr h)

theorem faultsTold_of_tells {x : Checked ClassDecl} (h : x.Tells (shape.issues item))
    (hx : x = .error issues) : FaultsTold source item issues := by
  obtain ⟨rfl, hne⟩ := h.error_iff.mp hx
  exact
    { ne_nil := hne
      nodup := Shape.nodup_loc_issues
      ordered := Shape.pairwise_before_issues
      missing := fun _ => Shape.mem_issues_missing_iff
      unfit := fun _ => Shape.exists_mem_issues_iff
      mended := fun _ hw => exists_loadsAlone_of_accepts (Shape.Mends.accepts_mended hw)
      mendable := Shape.exists_mends shape item }

/-- What a refused mapping is told to have are its faults. -/
theorem faultsTold_of_refusedAs {index : Nat} {path : Path} {name : String}
    (h : RefusedAs source index item (.input ⟨path, .invalidClass name issues⟩)) :
    FaultsTold source item issues := by
  cases h with
  | named hitem hinvalid => exact faultsTold_of_tells (tells_of_exposed source hitem) hinvalid
  | unnamed hitem hinvalid => exact faultsTold_of_tells (tells_of_exposed source hitem) hinvalid

/-- The faults that are told of a mapping that gives no class are sound, complete and in the order
of the document: no place is named twice, what is told to be missing is a key that a mapping in it
has to have and lacks, all others are values in it that are none of what is declared for them, and
with valid values in all these places it loads. A mapping without such faults loads. -/
theorem faults_told (source : Path) :
    (∀ item entries, item.exposed = .map entries →
      ((∃ c, LoadsAlone source item c) ↔
        ∀ loc, ¬shape.Lacks item loc ∧ ¬shape.Unfit item loc) ∧
      ∀ issues, ClassDecl.decoder (.map (withSource source entries)) = .error issues →
        FaultsTold source item issues) ∧
    ∀ document path name issues,
      classesOfDocument document source = .error (.input ⟨path, .invalidClass name issues⟩) →
        ∃ before item after, Holds document (before ++ item :: after) ∧
          (∀ b ∈ before, ∃ c, LoadsAlone source b c) ∧ FaultsTold source item issues := by
  refine ⟨fun item entries hitem => ⟨?_, fun issues hissues => ?_⟩,
    fun document path name issues hdocument => ?_⟩
  · rw [exists_loadsAlone_iff hitem, Shape.issues_eq_nil_iff_forall_loc]
  · exact faultsTold_of_tells (tells_of_exposed source hitem) hissues
  · have hholds : ∃ items, Holds document items := by
      by_contra hno
      cases hdocument.symm.trans (classesOfDocument_eq_shape_iff.mpr hno)
    obtain ⟨items, hitems⟩ := hholds
    obtain ⟨before, item, after, rfl, hbefore, hrefused⟩ :=
      hitems.classesOfDocument_eq_error_iff.mp hdocument
    exact ⟨before, item, after, hitems, hbefore, faultsTold_of_refusedAs hrefused⟩

/-- A class without a name, with faults in a field and in a method. -/
def faultyClass : Value :=
  .map
    [(.text "fields", .list [.map [(.text "name", .int 5), (.text "is_static", .text "maybe")]]),
      (.text "methods", .list [.map [(.text "position", .map [(.text "line", .text "x")])]]),
      (.text "source_file", .null)]

/-- Five faults are told of it, and with the text "1" in all five places it is a class. -/
theorem faults_told_faultyClass :
    let source : Path := .ofText "y.yaml"
    let issues : List Issue :=
      [⟨[.field "name"], .missing⟩,
        ⟨[.field "fields", .index 0, .field "name"], .textType⟩,
        ⟨[.field "fields", .index 0, .field "is_static"], .boolParsing⟩,
        ⟨[.field "methods", .index 0, .field "name"], .missing⟩,
        ⟨[.field "methods", .index 0, .field "position", .field "line"], .intParsing⟩]
    classesOfDocument faultyClass source =
        .error (.input ⟨source, .invalidClass "#0" issues⟩) ∧
      FaultsTold source faultyClass issues ∧
      ∃ c, LoadsAlone source (mended (fun _ => .text "1") issues faultyClass) c := by
  intro source issues
  obtain ⟨hmapping, -⟩ := faults_told source
  have hissues : shape.issues faultyClass = issues := by decide +kernel
  have htells : Checked.Tells _ (shape.issues faultyClass) := tells_of_exposed source rfl
  have hinvalid := htells.error_iff.mpr ⟨hissues.symm, hissues ▸ List.cons_ne_nil _ _⟩
  have htold := (hmapping faultyClass _ rfl).2 issues hinvalid
  refine ⟨?_, htold, htold.mended _ ?_⟩
  · have hholds : Holds faultyClass [faultyClass] :=
      ⟨.list [faultyClass], .single rfl rfl, rfl, List.forall_mem_singleton.mpr ⟨_, rfl⟩⟩
    have hplace : "#0" = s!"#{([] : List Value).length}" := by decide +kernel
    refine hholds.classesOfDocument_eq_error_iff.mpr ⟨[], faultyClass, [], rfl, nofun, ?_⟩
    rw [hplace]
    exact .unnamed rfl hinvalid rfl
  · have htext : Scalar.text.issues (.text "1") = [] := rfl
    have hbool : Scalar.bool.issues (.text "1") = [] := by decide +kernel
    have hint : Scalar.int.issues (.text "1") = [] := by decide +kernel
    simp only [issues, List.forall_mem_cons, List.not_mem_nil, false_imp_iff, implies_true,
      and_true]
    refine ⟨?_, ?_, ?_, ?_, ?_⟩ <;> rintro s ⟨⟩
    exacts [htext, htext, hbool, htext, hint]

end ClassDecl
end Scenario

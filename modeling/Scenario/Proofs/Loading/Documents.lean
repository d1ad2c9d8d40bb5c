import Mathlib.Data.List.Forall2
import Scenario.Proofs.Loading
import Scenario.Proofs.Validation

/-! # Classes of a document

What a document holds is a list of mappings, each of which describes a class by itself: the classes
of the document are those that its mappings give when they stand alone, and without one of them
there are none (`classesOfDocument_itemwise`). The first mapping that gives no class is told by its
name or its place, unless the name has a whole number that is too long to be written. -/

namespace Scenario

open Checked Decoder

variable {source : Path} {document item v : Value} {entries : List (Value × Value)}
  {items : List Value} {ess : List (List (Value × Value))} {c : ClassDecl} {cs : List ClassDecl}
  {issues : List Issue} {index : Nat} {e : LoadError}

/-! ## Shapes of documents -/

/-- What a document says to be its classes. -/
inductive ClassesAt (document : Value) : Value → Prop where
  /-- A mapping holds them under `classes`. -/
  | entry {entries : List (Value × Value)} {v : Value} (hdoc : document.exposed = .map entries)
    (hv : Value.field? "classes" entries = some v) : ClassesAt document v
  /-- A mapping without this entry is the only class. -/
  | single {entries : List (Value × Value)} (hdoc : document.exposed = .map entries)
    (hnone : Value.field? "classes" entries = none) : ClassesAt document (.list [document])
  /-- Any other document is as it stands. -/
  | whole (hdoc : ∀ entries, document.exposed ≠ .map entries) :
    ClassesAt document document.exposed

theorem classesAt_unwrapClasses (document : Value) :
    ClassesAt document (unwrapClasses document) := by
  unfold unwrapClasses
  split
  · next entries hdoc =>
    cases hv : Value.field? "classes" entries with
    | none => exact .single hdoc hv
    | some v => exact .entry hdoc hv
  · next hdoc => exact .whole hdoc

theorem ClassesAt.unwrapClasses_eq (h : ClassesAt document v) : unwrapClasses document = v := by
  unfold unwrapClasses
  cases h with
  | entry hdoc hv => simp only [hdoc, hv, Option.getD_some]
  | single hdoc hnone => simp only [hdoc, hnone, Option.getD_none]
  | whole hdoc =>
      split
      · next hmap => exact absurd hmap (hdoc _)
      · rfl

/-- A document holds values if its classes are the list of them and each is a mapping. -/
def Holds (document : Value) (items : List Value) : Prop :=
  ∃ v, ClassesAt document v ∧ v.exposed = .list items ∧
    ∀ item ∈ items, ∃ entries, item.exposed = .map entries

/-- Values are mappings with these entries. -/
def AreMappings : List Value → List (List (Value × Value)) → Prop :=
  List.Forall₂ fun item entries => item.exposed = .map entries

theorem entries?_eq_some_iff : entries? v = some entries ↔ v.exposed = .map entries := by
  cases h : v.exposed <;> simp [entries?, h]

theorem mapM_entries?_eq_some_iff : items.mapM entries? = some ess ↔ AreMappings items ess := by
  unfold AreMappings
  induction items generalizing ess with
  | nil => simp [eq_comm]
  | cons item items ih =>
      simp only [List.mapM_cons, List.forall₂_cons_left_iff, Option.bind_eq_bind, Option.pure_def,
        Option.bind_eq_some_iff, Option.some.injEq, entries?_eq_some_iff, ih]
      constructor
      · rintro ⟨entries, hitem, rest, hrest, rfl⟩
        exact ⟨entries, rest, hitem, hrest, rfl⟩
      · rintro ⟨entries, rest, hitem, hrest, rfl⟩
        exact ⟨entries, hitem, rest, hrest, rfl⟩

theorem exists_areMappings_iff :
    (∃ ess, AreMappings items ess) ↔ ∀ item ∈ items, ∃ entries, item.exposed = .map entries := by
  unfold AreMappings
  induction items with
  | nil => simp
  | cons item items ih =>
      rw [List.forall_mem_cons, ← ih]
      constructor
      · rintro ⟨_, _ | ⟨hitem, hess⟩⟩
        exact ⟨⟨_, hitem⟩, _, hess⟩
      · rintro ⟨⟨entries, hitem⟩, ess, hess⟩
        exact ⟨entries :: ess, .cons hitem hess⟩

/-- The entries of what a document holds are those that are read. -/
theorem Holds.exists_classEntries? (h : Holds document items) :
    ∃ ess, AreMappings items ess ∧ classEntries? document = some ess := by
  obtain ⟨v, hv, hlist, hitems⟩ := h
  obtain ⟨ess, hess⟩ := exists_areMappings_iff.mpr hitems
  refine ⟨ess, hess, ?_⟩
  rw [classEntries?, hv.unwrapClasses_eq, hlist]
  exact mapM_entries?_eq_some_iff.mpr hess

/-- The entries that are read are those of what a document holds. -/
theorem exists_holds_of_classEntries? (h : classEntries? document = some ess) :
    ∃ items, Holds document items ∧ AreMappings items ess := by
  unfold classEntries? at h
  split at h
  · next items hlist =>
    have hess := mapM_entries?_eq_some_iff.mp h
    have hitems := exists_areMappings_iff.mp ⟨ess, hess⟩
    exact ⟨items, ⟨_, classesAt_unwrapClasses document, hlist, hitems⟩, hess⟩
  · cases h

/-- A document that holds no classes is refused for its shape, before any class is read. -/
theorem classesOfDocument_eq_shape_iff :
    classesOfDocument document source = .error (.input ⟨source, .shape⟩) ↔
      ¬ ∃ items, Holds document items := by
  constructor
  · rintro h ⟨items, hitems⟩
    obtain ⟨ess, -, hess⟩ := hitems.exists_classEntries?
    rw [classesOfDocument, hess] at h
    obtain ⟨before, entries, after, issues, -, -, -, he⟩ := exists_first_invalid h
    unfold LoadError.ofIssues at he
    split at he <;> cases he
  · intro h
    cases hess : classEntries? document with
    | none => rw [classesOfDocument, hess]
    | some ess =>
        obtain ⟨items, hitems, -⟩ := exists_holds_of_classEntries? hess
        exact absurd ⟨items, hitems⟩ h

/-! ## Mappings by themselves -/

/-- A value gives a class when it is the only item of a document. -/
def LoadsAlone (source : Path) (item : Value) (c : ClassDecl) : Prop :=
  classesOfDocument (.list [item]) source = .ok [c]

/-- How the value at a place in a document is refused. -/
inductive RefusedAs (source : Path) (index : Nat) (item : Value) : LoadError → Prop where
  /-- It is told by its name. -/
  | named {entries : List (Value × Value)} {issues : List Issue} {name : Value}
    (hitem : item.exposed = .map entries)
    (hinvalid : ClassDecl.decoder (.map (withSource source entries)) = .error issues)
    (hname : Value.field? "name" entries = some name) (hshort : name.hasLong = false) :
    RefusedAs source index item (.input ⟨source, .invalidClass name.plain issues⟩)
  /-- Without a name, it is told by its place. -/
  | unnamed {entries : List (Value × Value)} {issues : List Issue}
    (hitem : item.exposed = .map entries)
    (hinvalid : ClassDecl.decoder (.map (withSource source entries)) = .error issues)
    (hname : Value.field? "name" entries = none) :
    RefusedAs source index item (.input ⟨source, .invalidClass s!"#{index}" issues⟩)
  /-- It is not told, since its name has a whole number that is too long to be written. -/
  | untold {entries : List (Value × Value)} {issues : List Issue} {name : Value}
    (hitem : item.exposed = .map entries)
    (hinvalid : ClassDecl.decoder (.map (withSource source entries)) = .error issues)
    (hname : Value.field? "name" entries = some name) (hlong : name.hasLong = true) :
    RefusedAs source index item (.longInteger .write)

theorem loadsAlone_iff (hitem : item.exposed = .map entries) :
    LoadsAlone source item c ↔ ClassDecl.decoder (.map (withSource source entries)) = .ok c := by
  have hess : classEntries? (.list [item]) = some [entries] :=
    mapM_entries?_eq_some_iff.mpr (.cons hitem .nil)
  rw [LoadsAlone, classesOfDocument, hess]
  dsimp only
  rw [readClasses_cons]
  cases ClassDecl.decoder (.map (withSource source entries)) with
  | error issues => simp
  | ok c' =>
      have hrest : readClasses source (0 + 1) [] = .ok [] := rfl
      simp [hrest, Functor.map, Except.map]

/-- What loads alone is a mapping. -/
theorem LoadsAlone.exists_entries (h : LoadsAlone source item c) :
    ∃ entries, item.exposed = .map entries ∧
      ClassDecl.decoder (.map (withSource source entries)) = .ok c := by
  cases hess : classEntries? (.list [item]) with
  | none =>
      rw [LoadsAlone, classesOfDocument, hess] at h
      cases h
  | some ess =>
      obtain ⟨entries, -, hitem, -, -⟩ :=
        List.forall₂_cons_left_iff.mp (mapM_entries?_eq_some_iff.mp hess)
      exact ⟨entries, hitem, (loadsAlone_iff hitem).mp h⟩

/-- The mapping at a place is refused as its entries are. -/
theorem refusedAs_iff (hitem : item.exposed = .map entries) :
    RefusedAs source index item e ↔
      ∃ issues, ClassDecl.decoder (.map (withSource source entries)) = .error issues ∧
        e = .ofIssues source index entries issues := by
  constructor
  · rintro (⟨hitem', hinvalid, hname, hshort⟩ | ⟨hitem', hinvalid, hname⟩ |
      ⟨hitem', hinvalid, hname, hlong⟩) <;>
    obtain rfl : entries = _ := Value.map.inj (hitem.symm.trans hitem')
    · exact ⟨_, hinvalid, by simp [LoadError.ofIssues, entryName, hname, Value.writePlain, hshort]⟩
    · exact ⟨_, hinvalid, by simp [LoadError.ofIssues, entryName, hname]⟩
    · exact ⟨_, hinvalid, by simp [LoadError.ofIssues, entryName, hname, Value.writePlain, hlong]⟩
  · rintro ⟨issues, hinvalid, rfl⟩
    unfold LoadError.ofIssues entryName
    cases hname : Value.field? "name" entries with
    | none => exact .unnamed hitem hinvalid hname
    | some name =>
        dsimp only
        unfold Value.writePlain
        cases hlong : name.hasLong with
        | false => exact .named hitem hinvalid hname hlong
        | true => exact .untold hitem hinvalid hname hlong

/-- What is refused does not load alone. -/
theorem RefusedAs.not_loadsAlone (h : RefusedAs source index item e) (c : ClassDecl) :
    ¬ LoadsAlone source item c := by
  intro hc
  obtain ⟨entries, hitem, hread⟩ := hc.exists_entries
  obtain ⟨issues, hinvalid, -⟩ := (refusedAs_iff hitem).mp h
  cases hread.symm.trans hinvalid

/-! ## All mappings together -/

/-- Classes are read from entries one by one. -/
theorem readClasses_eq_ok_iff (hess : AreMappings items ess) :
    readClasses source index ess = .ok cs ↔ List.Forall₂ (LoadsAlone source) items cs := by
  induction hess generalizing index cs with
  | nil =>
      -- By `rfl`, since the unfolding of the recursion looks into the decoder.
      have hnil : readClasses source index [] = .ok [] := rfl
      simp [hnil, eq_comm]
  | @cons item entries items ess hitem hess ih =>
      have hrest : ∀ cs, readClasses source (index + 1) ess = .ok cs ↔
          List.Forall₂ (LoadsAlone source) items cs := fun _ => ih
      rw [readClasses_cons, List.forall₂_cons_left_iff]
      simp only [loadsAlone_iff hitem, ← hrest]
      cases ClassDecl.decoder (.map (withSource source entries)) with
      | error issues => simp
      | ok c =>
          cases readClasses source (index + 1) ess <;>
            simp [Functor.map, Except.map, eq_comm]

/-- Of lists that are related item by item, the first is split where the second is. -/
theorem exists_split_of_forall₂ {α β : Type} {R : α → β → Prop} {as : List α}
    {before after : List β} {b : β} (h : List.Forall₂ R as (before ++ b :: after)) :
    ∃ before' a after', as = before' ++ a :: after' ∧ List.Forall₂ R before' before ∧ R a b := by
  have hbefore := List.forall₂_take_append _ _ _ h
  have hafter := List.forall₂_drop_append _ _ _ h
  obtain ⟨a, after', hab, -, hdrop⟩ := List.forall₂_cons_right_iff.mp hafter
  refine ⟨_, a, after', ?_, hbefore, hab⟩
  rw [← hdrop, List.take_append_drop]

/-- Mappings load alone where their entries describe classes. -/
theorem AreMappings.forall_loadsAlone_iff (hess : AreMappings items ess) :
    (∀ item ∈ items, ∃ c, LoadsAlone source item c) ↔
      ∀ entries ∈ ess, Describes source entries := by
  induction hess with
  | nil => simp
  | cons hitem _ ih => simp only [List.forall_mem_cons, ih, loadsAlone_iff hitem, Describes]

/-- What keeps classes from being read is the first mapping that does not load alone. -/
theorem readClasses_eq_error_iff (hess : AreMappings items ess) :
    readClasses source index ess = .error e ↔
      ∃ before item after, items = before ++ item :: after ∧
        (∀ b ∈ before, ∃ c, LoadsAlone source b c) ∧
        RefusedAs source (index + before.length) item e := by
  constructor
  · intro h
    obtain ⟨before, entries, after, issues, rfl, hbefore, hinvalid, he⟩ := exists_first_invalid h
    obtain ⟨before', item, after', rfl, hmaps, hitem⟩ := exists_split_of_forall₂ hess
    refine ⟨before', item, after', rfl, ?_, ?_⟩
    · exact (AreMappings.forall_loadsAlone_iff hmaps).mpr hbefore
    · exact (refusedAs_iff hitem).mpr ⟨issues, hinvalid, hmaps.length_eq ▸ he⟩
  · rintro ⟨before, item, after, rfl, hbefore, hrefused⟩
    -- The entries are split where the mappings are, so the relation is turned round.
    obtain ⟨before', entries, after', rfl, hflip, hitem⟩ :=
      exists_split_of_forall₂ (List.Forall₂.flip hess)
    have hmaps : AreMappings before before' := hflip.flip
    obtain ⟨issues, hinvalid, rfl⟩ := (refusedAs_iff hitem).mp hrefused
    rw [List.Forall₂.length_eq hmaps]
    exact readClasses_of_first_invalid (hmaps.forall_loadsAlone_iff.mp hbefore) hinvalid

/-! ## Source files -/

/-- The source file of a class with these entries. -/
inductive SourceFrom (source : Path) (entries : List (Value × Value)) : Option String → Prop where
  /-- Without one, it is the file of the document. -/
  | absent (h : Value.field? "source_file" entries = none) :
    SourceFrom source entries (some source.text)
  /-- Null is kept. -/
  | null (h : Value.field? "source_file" entries = some .null) : SourceFrom source entries none
  /-- A text is kept. -/
  | text {s : String} (h : Value.field? "source_file" entries = some (.text s)) :
    SourceFrom source entries (some s)
  /-- Bytes are the text that they stand for. -/
  | bytes {bs : List UInt8} {cs : List Char}
    (h : Value.field? "source_file" entries = some (.bytes bs))
    (hdecode : Text.Utf8.decode bs = .ok cs) : SourceFrom source entries (some (Text.ofChars cs))

/-- A class is read field by field. -/
theorem ClassDecl.decoder_eq_ok_iff : ClassDecl.decoder (.map entries) = .ok c ↔
    required entries "name" text = .ok c.name ∧
      withDefault entries "source_file" (optional text) none = .ok c.sourceFile ∧
      withDefault entries "fields" (list FieldDecl.decoder) [] = .ok c.fields ∧
      withDefault entries "properties" (list PropertyDecl.decoder) [] = .ok c.properties ∧
      withDefault entries "methods" (list MethodDecl.decoder) [] = .ok c.methods ∧
      withDefault entries "position" Position.decoder {} = .ok c.position := by
  unfold ClassDecl.decoder
  dsimp only [node, Value.exposed_map]
  constructor
  · intro h
    obtain ⟨ofPosition, position, h₅, hposition, rfl⟩ := ap_eq_ok_iff.mp h
    obtain ⟨ofMethods, methods, h₄, hmethods, rfl⟩ := ap_eq_ok_iff.mp h₅
    obtain ⟨ofProperties, properties, h₃, hproperties, rfl⟩ := ap_eq_ok_iff.mp h₄
    obtain ⟨ofFields, fields, h₂, hfields, rfl⟩ := ap_eq_ok_iff.mp h₃
    obtain ⟨ofSource, sourceFile, h₁, hsource, rfl⟩ := ap_eq_ok_iff.mp h₂
    cases hname : required entries "name" text with
    | error issues =>
        rw [hname] at h₁
        cases h₁
    | ok name =>
        rw [hname] at h₁
        cases h₁
        exact ⟨rfl, hsource, hfields, hproperties, hmethods, hposition⟩
  · rintro ⟨hname, hsource, hfields, hproperties, hmethods, hposition⟩
    rw [hname, hsource, hfields, hproperties, hmethods, hposition]
    rfl

/-- A class has the source file that its entries hold. -/
theorem sourceFile_of_decoder (h : ClassDecl.decoder (.map entries) = .ok c) :
    withDefault entries "source_file" (optional text) none = .ok c.sourceFile :=
  (ClassDecl.decoder_eq_ok_iff.mp h).2.1

/-- What is read as a text that may be absent is null, a text, or bytes that stand for one. -/
theorem optionalText_cases {o : Option String} (h : optional text v = .ok o) :
    (v = .null ∧ o = none) ∨ (∃ s, v = .text s ∧ o = some s) ∨
      ∃ bs cs, v = .bytes bs ∧ Text.Utf8.decode bs = .ok cs ∧ o = some (Text.ofChars cs) := by
  cases v with
  | null => exact .inl ⟨rfl, (Except.ok.inj h).symm⟩
  | text s => exact .inr (.inl ⟨s, rfl, (Except.ok.inj h).symm⟩)
  | bytes bs =>
      dsimp only [Decoder.optional, text] at h
      cases hdecode : Text.Utf8.decode bs with
      | error fault =>
          rw [hdecode] at h
          cases h
      | ok cs =>
          rw [hdecode] at h
          exact .inr (.inr ⟨bs, cs, rfl, hdecode, (Except.ok.inj h).symm⟩)
  | _ => cases h

/-- A class is from the file that its mapping names, or else from that of the document. -/
theorem sourceFrom_of_decoder
    (h : ClassDecl.decoder (.map (withSource source entries)) = .ok c) :
    SourceFrom source entries c.sourceFile := by
  have hsource := sourceFile_of_decoder h
  unfold withSource at hsource
  cases hfield : Value.field? "source_file" entries with
  | none =>
      rw [hfield, withDefault_of_field? (a := some source.text) rfl rfl] at hsource
      exact Except.ok.inj hsource ▸ .absent hfield
  | some v =>
      rw [hfield] at hsource
      obtain ⟨v', hv', hread⟩ | ⟨hnone, -⟩ := withDefault_eq_ok_iff.mp hsource
      · rcases optionalText_cases hread with ⟨rfl, ho⟩ | ⟨s, rfl, ho⟩ | ⟨bs, cs, rfl, hdecode, ho⟩
        · exact ho ▸ .null hv'
        · exact ho ▸ .text hv'
        · exact ho ▸ .bytes hv' hdecode
      · cases hfield.symm.trans hnone

/-! ## Documents -/

/-- The classes of a document are those that each of what it holds gives alone. -/
theorem Holds.classesOfDocument_eq_ok_iff (h : Holds document items) :
    classesOfDocument document source = .ok cs ↔ List.Forall₂ (LoadsAlone source) items cs := by
  obtain ⟨ess, hess, hentries⟩ := h.exists_classEntries?
  rw [classesOfDocument, hentries]
  exact readClasses_eq_ok_iff hess

/-- A document is refused for the first of what it holds that does not load alone. -/
theorem Holds.classesOfDocument_eq_error_iff (h : Holds document items) :
    classesOfDocument document source = .error e ↔
      ∃ before item after, items = before ++ item :: after ∧
        (∀ b ∈ before, ∃ c, LoadsAlone source b c) ∧ RefusedAs source before.length item e := by
  obtain ⟨ess, hess, hentries⟩ := h.exists_classEntries?
  rw [classesOfDocument, hentries]
  dsimp only
  rw [readClasses_eq_error_iff hess]
  simp only [Nat.zero_add]

/-- Documents that say the same to be their classes are loaded alike. -/
theorem classesOfDocument_congr {document' v' : Value} (hv : ClassesAt document v)
    (hv' : ClassesAt document' v') (h : v.exposed = v'.exposed) :
    classesOfDocument document source = classesOfDocument document' source := by
  rw [classesOfDocument, classesOfDocument, classEntries?, classEntries?, hv.unwrapClasses_eq,
    hv'.unwrapClasses_eq, h]

/-- A mapping without the entry `classes` is loaded like a list, or an entry `classes`, that holds
nothing else. A document that holds mappings gives the classes that each of them gives alone; else
the first that gives none is told, by its name or its place, unless its name cannot be written.
Any other document is refused for its shape. A class is from the file that its mapping names, which
may be none, and from that of the document if it names none. -/
theorem classesOfDocument_itemwise (source : Path) :
    (∀ d entries, d.exposed = .map entries → Value.field? "classes" entries = none →
      ∀ document v, ClassesAt document v → v.exposed = .list [d] →
        classesOfDocument document source = classesOfDocument d source) ∧
    (∀ document items, Holds document items →
      (∀ cs, classesOfDocument document source = .ok cs ↔
        List.Forall₂ (LoadsAlone source) items cs) ∧
      ∀ e, classesOfDocument document source = .error e ↔
        ∃ before item after, items = before ++ item :: after ∧
          (∀ b ∈ before, ∃ c, LoadsAlone source b c) ∧ (∀ c, ¬ LoadsAlone source item c) ∧
          RefusedAs source before.length item e) ∧
    (∀ document, classesOfDocument document source = .error (.input ⟨source, .shape⟩) ↔
      ¬ ∃ items, Holds document items) ∧
    ∀ item c, LoadsAlone source item c →
      ∃ entries, item.exposed = .map entries ∧ SourceFrom source entries c.sourceFile := by
  refine ⟨fun d entries hd hnone document v hv hlist => ?_,
    fun document items h => ⟨fun cs => h.classesOfDocument_eq_ok_iff, fun e => ?_⟩,
    fun document => classesOfDocument_eq_shape_iff, fun item c h => ?_⟩
  · exact classesOfDocument_congr hv (.single hd hnone) hlist
  · rw [h.classesOfDocument_eq_error_iff]
    constructor
    · rintro ⟨before, item, after, hitems, hbefore, hrefused⟩
      exact ⟨before, item, after, hitems, hbefore, hrefused.not_loadsAlone, hrefused⟩
    · rintro ⟨before, item, after, hitems, hbefore, -, hrefused⟩
      exact ⟨before, item, after, hitems, hbefore, hrefused⟩
  · obtain ⟨entries, hitem, hread⟩ := h.exists_entries
    exact ⟨entries, hitem, sourceFrom_of_decoder hread⟩

/-- Of a class without a source file and a mapping without a name under `classes`, the latter is
told by its place. Without it the class is loaded, and it stays without a source file. -/
theorem classesOfDocument_itemwise_unnamed :
    let source : Path := .ofText "y.yaml"
    let a : Value := .map [(.text "name", .text "A"), (.text "source_file", .null)]
    let document : Value := .map [(.text "classes", .list [a, .map []])]
    classesOfDocument document source =
      .error (.input ⟨source, .invalidClass "#1" [⟨[.field "name"], .missing⟩]⟩) ∧
    classesOfDocument (.list [a]) source = .ok [{ name := "A" }] ∧
    classesOfDocument (.list [a]) source = classesOfDocument a source ∧
    classesOfDocument (.list [a, .null]) source = .error (.input ⟨source, .shape⟩) := by
  intro source a document
  obtain ⟨hshapes, hitems, hshape, -⟩ := classesOfDocument_itemwise source
  have ha : LoadsAlone source a { name := "A" } := rfl
  have hholds : Holds document [a, .map []] :=
    ⟨.list [a, .map []], .entry rfl rfl, rfl, by simp [a]⟩
  refine ⟨?_, ha, ?_, ?_⟩
  · refine ((hitems document _ hholds).2 _).mpr ⟨[a], .map [], [], rfl, ?_, ?_, ?_⟩
    · exact List.forall_mem_singleton.mpr ⟨_, ha⟩
    · nofun
    · have hempty : Value.exposed (.map []) = .map [] := rfl
      have hplace : "#1" = s!"#{[a].length}" := by decide +kernel
      rw [hplace]
      exact .unnamed hempty rfl rfl
  · exact hshapes a _ rfl rfl (.list [a]) (.list [a]) (.whole nofun) rfl
  · refine (hshape _).mpr ?_
    rintro ⟨items, v, hv, hlist, hmaps⟩
    cases hv.unwrapClasses_eq
    cases hlist
    obtain ⟨entries, hnull⟩ := hmaps .null (by simp)
    cases hnull

/-- A class whose name is a whole number of more than 4300 digits. -/
def longName : Value := .map [(.text "name", .int (.ofNat (Nat.pow 16 3572)))]

/-- The class does not load, and no input error tells of it. -/
theorem longName_untold :
    let source : Path := .ofText "y.yaml"
    Holds longName [longName] ∧ (∀ c, ¬ LoadsAlone source longName c) ∧
      classesOfDocument longName source = .error (.longInteger .write) ∧
      ¬ ∃ i, classesOfDocument longName source = .error (.input i) := by
  intro source
  have hholds : Holds longName [longName] :=
    ⟨.list [longName], .single rfl rfl, rfl, List.forall_mem_singleton.mpr ⟨_, rfl⟩⟩
  have hlong : Value.hasLong (.int (.ofNat (Nat.pow 16 3572))) = true := by decide +kernel
  have hrefused : RefusedAs source 0 longName (.longInteger .write) := .untold rfl rfl rfl hlong
  have herror : classesOfDocument longName source = .error (.longInteger .write) :=
    hholds.classesOfDocument_eq_error_iff.mpr ⟨[], longName, [], rfl, nofun, hrefused⟩
  refine ⟨hholds, hrefused.not_loadsAlone, herror, ?_⟩
  rintro ⟨i, hi⟩
  cases herror.symm.trans hi

end Scenario

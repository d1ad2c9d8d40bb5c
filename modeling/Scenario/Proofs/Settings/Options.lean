import Mathlib.Order.WellFounded
import Scenario.Proofs.Loading
import Scenario.Settings.File

/-! # The options of a settings file

Of a settings document four items count: the table of the settings, and the three options in it
(`Settings.Item`). Each of them may be absent, and admits certain values only. A document in which
all items are as admitted gives the settings that it tells (`Settings.ofDocument_of_told`); else the
first item that is not is at fault (`Settings.ofDocument_of_firstOffends`).

`Settings.file_options_answered` puts this together for files. A fault that cannot be written, since
the value holds a whole number of too many digits, is not told (`Settings.longMark_untold`). -/

namespace Scenario

namespace Settings

variable {document document' table : Toml.Table} {settings : Settings} {v : Value}
  {key default s : String} {policy : DuplicatePolicy} {tree : FileTree} {home : Address}
  {path : Path}

/-! ## Items of a document -/

/-- What can be at fault in a settings document. -/
inductive Item where
  /-- The table that holds the settings. -/
  | table
  | duplicates
  | internalPrefix
  | sharedMarker
deriving DecidableEq, Repr

/-- The entries of the table of the settings; none if there is no such table. -/
def entries (document : Toml.Table) : Toml.Table :=
  match Value.field? "parser" document with
  | some (.map table) => table
  | _ => []

namespace Item

/-- The place of an item in the order in which they are looked at. -/
def rank : Item → Nat
  | .table => 0
  | .duplicates => 1
  | .internalPrefix => 2
  | .sharedMarker => 3

/-- What a document holds for an item. -/
def value? (document : Toml.Table) : Item → Option Value
  | .table => Value.field? "parser" document
  | .duplicates => Value.field? "duplicate_fixtures" (entries document)
  | .internalPrefix => Value.field? "internal_prefix" (entries document)
  | .sharedMarker => Value.field? "shared_annotation" (entries document)

/-- The values that an item may have: a table, the name of a policy, a text that is not empty. -/
def Admits : Item → Value → Prop
  | .table, v => ∃ table, v = .map table
  | .duplicates, v => ∃ policy : DuplicatePolicy, v = .text policy.name
  | .internalPrefix, v | .sharedMarker, v => ∃ s, s ≠ "" ∧ v = .text s

/-- The fault of an item with a value that it does not admit. -/
def fault : Item → Value → SettingsFault
  | .table, _ => .notATable
  | .duplicates, v => .duplicates v.plain
  | .internalPrefix, v => .text "internal_prefix" v.literal
  | .sharedMarker, v => .text "shared_annotation" v.literal

/-- What a document holds for an item, if it holds anything, is as admitted. -/
def Fits (document : Toml.Table) (item : Item) : Prop :=
  ∀ v, item.value? document = some v → item.Admits v

/-- An item has a value that it does not admit, and the items before it fit. -/
structure FirstOffends (document : Toml.Table) (item : Item) (v : Value) : Prop where
  value : item.value? document = some v
  not_admits : ¬ item.Admits v
  before : ∀ item' : Item, item'.rank < item.rank → item'.Fits document

end Item

/-- All items of a document fit. -/
def Valid (document : Toml.Table) : Prop := ∀ item : Item, item.Fits document

/-- A value gives a text, or the default where there is no value. -/
def Gives (value : Option Value) (default s : String) : Prop :=
  value = some (.text s) ∨ value = none ∧ s = default

/-- The settings are those that a document tells, and the defaults where it tells nothing. -/
structure Told (document : Toml.Table) (settings : Settings) : Prop where
  duplicates : Gives (Item.duplicates.value? document) "error" settings.duplicates.name
  internalPrefix : Gives (Item.internalPrefix.value? document) "$" settings.internalPrefix
  sharedMarker : Gives (Item.sharedMarker.value? document) "Shared" settings.sharedMarker

/-- If an item does not fit, one is the first that does not. -/
theorem exists_firstOffends (h : ¬ Valid document) :
    ∃ item v, Item.FirstOffends document item v := by
  obtain ⟨item, hitem, hmin⟩ := (measure Item.rank).wf.has_min {item | ¬ item.Fits document}
    (Classical.not_forall.mp h)
  obtain ⟨v, hv⟩ := Classical.not_forall.mp hitem
  obtain ⟨hvalue, hno⟩ := Classical.not_imp.mp hv
  exact ⟨item, v, hvalue, hno, fun item' hlt => Classical.not_not.mp fun hno' =>
    hmin item' hno' hlt⟩

/-! ## Each item by itself -/

/-- A table that fits is the one whose entries count. -/
theorem parserTable_of_fits (h : Item.table.Fits document) :
    parserTable document = .ok (entries document) := by
  unfold parserTable entries
  cases hv : Value.field? "parser" document with
  | none => rfl
  | some v =>
      obtain ⟨table, rfl⟩ := h v hv
      rfl

theorem parserTable_of_not_admits (hv : Value.field? "parser" document = some v)
    (hno : ¬ Item.table.Admits v) : parserTable document = .error (.invalid .notATable) := by
  unfold parserTable
  rw [hv]
  cases v <;> first | rfl | exact absurd ⟨_, rfl⟩ hno

theorem ofName?_name (policy : DuplicatePolicy) :
    DuplicatePolicy.ofName? policy.name = some policy := by
  cases policy <;> rfl

theorem eq_name_of_ofName? (h : DuplicatePolicy.ofName? s = some policy) : s = policy.name := by
  have hname := List.find?_some h
  exact (beq_iff_eq.mp hname).symm

/-- The policy is the one that is named, or else the default. -/
theorem duplicatesOption_of_gives
    (h : Gives (Value.field? "duplicate_fixtures" table) "error" policy.name) :
    duplicatesOption table = .ok policy := by
  unfold duplicatesOption
  rcases h with h | ⟨h, hdefault⟩
  · rw [h]
    dsimp only
    rw [ofName?_name]
  · rw [h]
    cases policy with
    | error => rfl
    | overwrite => exact absurd hdefault (by decide)

theorem duplicatesOption_of_not_admits (hv : Value.field? "duplicate_fixtures" table = some v)
    (hno : ¬ Item.duplicates.Admits v) :
    duplicatesOption table = .error (.ofShown .duplicates v.writePlain) := by
  unfold duplicatesOption
  rw [hv]
  cases v with
  | text s =>
      cases hs : DuplicatePolicy.ofName? s with
      | none => simp only [hs]; rfl
      | some policy => exact absurd ⟨policy, congrArg Value.text (eq_name_of_ofName? hs)⟩ hno
  | _ => rfl

/-- The text is the one that is given, if it is not empty, or else the default. -/
theorem textOption_of_gives (h : Gives (Value.field? key table) default s) (hne : s ≠ "") :
    textOption table key default = .ok s := by
  unfold textOption
  rcases h with h | ⟨h, rfl⟩
  · rw [h]
    exact if_neg hne
  · rw [h]

theorem textOption_of_not_admits (hv : Value.field? key table = some v)
    (hno : ¬ ∃ s, s ≠ "" ∧ v = .text s) :
    textOption table key default = .error (.ofShown (.text key) v.writeLiteral) := by
  unfold textOption
  rw [hv]
  cases v with
  | text s =>
      by_cases hs : s = ""
      · exact if_pos hs
      · exact absurd ⟨s, hs, rfl⟩ hno
  | _ => rfl

/-! ## A whole document -/

theorem exists_gives {value : Option Value} (default : String)
    (h : ∀ v, value = some v → ∃ s, s ≠ "" ∧ v = .text s) : ∃ s, Gives value default s := by
  cases value with
  | none => exact ⟨default, .inr ⟨rfl, rfl⟩⟩
  | some v =>
      obtain ⟨s, -, rfl⟩ := h v rfl
      exact ⟨s, .inl rfl⟩

theorem Gives.ne_empty {value : Option Value} (h : Gives value default s) (hdefault : default ≠ "")
    (hfits : ∀ v, value = some v → ∃ s, s ≠ "" ∧ v = .text s) : s ≠ "" := by
  rcases h with rfl | ⟨-, rfl⟩
  · obtain ⟨s', hne, heq⟩ := hfits _ rfl
    cases heq
    exact hne
  · exact hdefault

theorem exists_gives_name (h : Item.duplicates.Fits document) :
    ∃ policy : DuplicatePolicy, Gives (Item.duplicates.value? document) "error" policy.name := by
  cases hv : Item.duplicates.value? document with
  | none => exact ⟨.error, .inr ⟨rfl, rfl⟩⟩
  | some v =>
      obtain ⟨policy, rfl⟩ := h v hv
      exact ⟨policy, .inl rfl⟩

/-- A valid document tells settings. -/
theorem exists_told (h : Valid document) : ∃ settings, Told document settings := by
  obtain ⟨policy, hpolicy⟩ := exists_gives_name (h .duplicates)
  obtain ⟨internalPrefix, hprefix⟩ := exists_gives "$" (h .internalPrefix)
  obtain ⟨sharedMarker, hmarker⟩ := exists_gives "Shared" (h .sharedMarker)
  exact ⟨{ internalPrefix, sharedMarker, duplicates := policy }, hpolicy, hprefix, hmarker⟩

theorem Told.internalPrefix_ne_empty (h : Told document settings) (hvalid : Valid document) :
    settings.internalPrefix ≠ "" :=
  h.internalPrefix.ne_empty (by decide) (hvalid .internalPrefix)

theorem Told.sharedMarker_ne_empty (h : Told document settings) (hvalid : Valid document) :
    settings.sharedMarker ≠ "" :=
  h.sharedMarker.ne_empty (by decide) (hvalid .sharedMarker)

/-- The settings of a valid document are those that it tells. -/
theorem ofDocument_of_told (hvalid : Valid document) (h : Told document settings) :
    ofDocument document = .ok settings := by
  have hprefix : textOption (entries document) "internal_prefix" "$" =
      .ok settings.internalPrefix :=
    textOption_of_gives h.internalPrefix (h.internalPrefix_ne_empty hvalid)
  have hmarker : textOption (entries document) "shared_annotation" "Shared" =
      .ok settings.sharedMarker :=
    textOption_of_gives h.sharedMarker (h.sharedMarker_ne_empty hvalid)
  simp only [ofDocument, bind, Except.bind, parserTable_of_fits (hvalid .table),
    duplicatesOption_of_gives h.duplicates, hprefix, hmarker]
  rfl

/-- The failure for an item with a value that it does not admit: a value with a whole number of too
many digits cannot be told. -/
def Item.failure (item : Item) (v : Value) : SettingsFailure :=
  if item ≠ .table ∧ v.hasLong = true then .longInteger .write else .invalid (item.fault v)

theorem ofShown_writePlain (fault : String → SettingsFault) (v : Value) :
    SettingsFailure.ofShown fault v.writePlain =
      if v.hasLong = true then .longInteger .write else .invalid (fault v.plain) := by
  unfold Value.writePlain
  split <;> rfl

theorem ofShown_writeLiteral (fault : String → SettingsFault) (v : Value) :
    SettingsFailure.ofShown fault v.writeLiteral =
      if v.hasLong = true then .longInteger .write else .invalid (fault v.literal) := by
  unfold Value.writeLiteral
  split <;> rfl

/-- The first item that does not fit is at fault. -/
theorem ofDocument_of_firstOffends {item : Item} (h : item.FirstOffends document v) :
    ofDocument document = .error (item.failure v) := by
  obtain ⟨hv, hno, hbefore⟩ := h
  have htable : item ≠ .table → parserTable document = .ok (entries document) := fun hne =>
    parserTable_of_fits (hbefore .table (by cases item <;> first | decide | exact absurd rfl hne))
  cases item with
  | table =>
      simp only [ofDocument, bind, Except.bind, parserTable_of_not_admits hv hno]
      rfl
  | duplicates =>
      simp only [ofDocument, bind, Except.bind, htable nofun, duplicatesOption_of_not_admits hv hno,
        ofShown_writePlain, Item.failure, ne_eq, reduceCtorEq, not_false_eq_true, true_and,
        Item.fault]
  | internalPrefix =>
      obtain ⟨policy, hpolicy⟩ := exists_gives_name (hbefore .duplicates (by decide))
      have hprefix : textOption (entries document) "internal_prefix" "$" = _ :=
        textOption_of_not_admits hv hno
      simp only [ofDocument, bind, Except.bind, htable nofun, duplicatesOption_of_gives hpolicy,
        hprefix, ofShown_writeLiteral, Item.failure, ne_eq, reduceCtorEq, not_false_eq_true,
        true_and, Item.fault]
  | sharedMarker =>
      obtain ⟨policy, hpolicy⟩ := exists_gives_name (hbefore .duplicates (by decide))
      have hfits := hbefore .internalPrefix (by decide)
      obtain ⟨mark, hmark⟩ := exists_gives "$" hfits
      have hprefix : textOption (entries document) "internal_prefix" "$" = .ok mark :=
        textOption_of_gives hmark (hmark.ne_empty (by decide) hfits)
      have hmarker : textOption (entries document) "shared_annotation" "Shared" = _ :=
        textOption_of_not_admits hv hno
      simp only [ofDocument, bind, Except.bind, htable nofun, duplicatesOption_of_gives hpolicy,
        hprefix, hmarker, ofShown_writeLiteral, Item.failure, ne_eq, reduceCtorEq,
        not_false_eq_true, true_and, Item.fault]

/-- A document gives settings exactly if it is valid. -/
theorem exists_ofDocument_eq_ok_iff :
    (∃ settings, ofDocument document = .ok settings) ↔ Valid document := by
  constructor
  · rintro ⟨settings, hsettings⟩
    refine Classical.byContradiction fun h => ?_
    obtain ⟨item, v, hfirst⟩ := exists_firstOffends h
    cases hsettings.symm.trans (ofDocument_of_firstOffends hfirst)
  · intro h
    obtain ⟨settings, htold⟩ := exists_told h
    exact ⟨settings, ofDocument_of_told h htold⟩

/-- What a document tells besides the four items has no say. -/
theorem ofDocument_congr (h : ∀ item : Item, item.value? document' = item.value? document) :
    ofDocument document' = ofDocument document := by
  have hfits : ∀ item : Item, item.Fits document' ↔ item.Fits document := fun item => by
    rw [Item.Fits, Item.Fits, h]
  by_cases hvalid : Valid document
  · obtain ⟨settings, htold⟩ := exists_told hvalid
    have htold' : Told document' settings := by
      obtain ⟨hduplicates, hprefix, hmarker⟩ := htold
      constructor <;> rw [h] <;> assumption
    rw [ofDocument_of_told hvalid htold,
      ofDocument_of_told (fun item => (hfits item).mpr (hvalid item)) htold']
  · obtain ⟨item, v, hv, hno, hbefore⟩ := exists_firstOffends hvalid
    rw [ofDocument_of_firstOffends ⟨hv, hno, hbefore⟩, ofDocument_of_firstOffends
      ⟨(h item).trans hv, hno, fun item' hlt => (hfits item').mpr (hbefore item' hlt)⟩]

/-! ## Files -/

/-- A file holds a settings document. -/
def HoldsDocument (tree : FileTree) (home : Address) (path : Path) (document : Toml.Table) : Prop :=
  ∃ content, HasText tree home path content ∧ Toml.load content = .ok document

theorem HoldsDocument.load_eq (h : HoldsDocument tree home path document) :
    load tree home path = ofDocument document := by
  obtain ⟨_, ⟨bytes, chars, hfind, hdecode, rfl⟩, hload⟩ := h
  simp only [load, ofFound, hfind, ofEntry, ofBytes, hdecode, hload]

/-- The document that the bytes of a file hold. -/
def documentOf? (bytes : List UInt8) : Option Toml.Table :=
  match Text.Utf8.decode bytes with
  | .error _ => none
  | .ok chars => (Toml.load (Text.unifyLineEnds chars)).toOption

/-- A working directory with one settings file. -/
def directoryOf (bytes : List UInt8) : FileTree :=
  FileTree.empty.insert ["work", settingsFileName] (.file bytes)

theorem exists_holdsDocument {bytes : List UInt8} (h : (documentOf? bytes).isSome = true) :
    ∃ document, HoldsDocument (directoryOf bytes) ["work"] (.ofText settingsFileName) document := by
  obtain ⟨document, hdocument⟩ := Option.isSome_iff_exists.mp h
  unfold documentOf? at hdocument
  split at hdocument
  · cases hdocument
  · next chars hchars =>
    refine ⟨document, _, ⟨bytes, chars, by rfl, hchars, rfl⟩, ?_⟩
    cases hload : Toml.load (Text.unifyLineEnds chars) with
    | error fault =>
        rw [hload] at hdocument
        cases hdocument
    | ok document' =>
        rw [hload] at hdocument
        cases hdocument
        rfl

/-- A file that holds a settings document is answered by the four items. If they all fit, the
settings are those that the document tells, and no text in them is empty. Else the first item that
does not fit is told by a diagnostic at the start of the file; only if its value holds a whole
number of too many digits, no diagnostic comes of it. Whatever else the document tells, the answer
is the same. -/
theorem file_options_answered (h : HoldsDocument tree home path document) :
    ((∃ settings, load tree home path = .ok settings) ↔ Valid document) ∧
    (∀ settings, load tree home path = .ok settings →
      Told document settings ∧ settings.internalPrefix ≠ "" ∧ settings.sharedMarker ≠ "") ∧
    (¬ Valid document → ∃ item v, Item.FirstOffends document item v) ∧
    (∀ item v, Item.FirstOffends document item v →
      (item = .table ∨ v.hasLong = false →
        load tree home path = .error (.invalid (item.fault v)) ∧
        (SettingsError.diagnostic ⟨path, item.fault v⟩).kind = .config ∧
        (SettingsError.diagnostic ⟨path, item.fault v⟩).location =
          some { file := some path, line := 1, column := 1 }) ∧
      (item ≠ .table ∧ v.hasLong = true →
        load tree home path = .error (.longInteger .write))) ∧
    ∀ tree' home' path' document', HoldsDocument tree' home' path' document' →
      (∀ item : Item, item.value? document' = item.value? document) →
        load tree' home' path' = load tree home path := by
  rw [h.load_eq]
  refine ⟨exists_ofDocument_eq_ok_iff, ?told, exists_firstOffends, ?offends, ?others⟩
  case told =>
    intro settings hsettings
    have hvalid := exists_ofDocument_eq_ok_iff.mp ⟨settings, hsettings⟩
    obtain ⟨settings', htold⟩ := exists_told hvalid
    obtain rfl := Except.ok.inj ((ofDocument_of_told hvalid htold).symm.trans hsettings)
    exact ⟨htold, htold.internalPrefix_ne_empty hvalid, htold.sharedMarker_ne_empty hvalid⟩
  case offends =>
    intro item v hfirst
    rw [ofDocument_of_firstOffends hfirst, Item.failure]
    constructor
    · intro hshort
      rw [if_neg fun hlong => ?_]
      · refine ⟨rfl, rfl, ?_⟩
        cases item <;> rfl
      · rcases hshort with rfl | hshort
        · exact hlong.1 rfl
        · rw [hlong.2] at hshort
          cases hshort
    · intro hlong
      rw [if_pos hlong]
  case others =>
    intro tree' home' path' document' h' hsame
    rw [h'.load_eq, ofDocument_congr hsame]

/-- A file that sets an option and so tells it, with the defaults of the others, and one in which
two options are faulty, of which the marker comes after the prefix. -/
theorem file_options_answered_markedFile :
    let path : Path := .ofText settingsFileName
    let marked := directoryOf "parser.internal_prefix='_'".toUTF8.toList
    let faulty := directoryOf "[parser]\nshared_annotation=''\ninternal_prefix=[]".toUTF8.toList
    (∃ document, HoldsDocument marked ["work"] path document ∧
      load marked ["work"] path = .ok { internalPrefix := "_" } ∧ Valid document ∧
      Told document { internalPrefix := "_" }) ∧
    ∃ document v, HoldsDocument faulty ["work"] path document ∧
      load faulty ["work"] path = .error (.invalid (.text "internal_prefix" "[]")) ∧
      Item.internalPrefix.FirstOffends document v := by
  intro path marked faulty
  constructor
  · obtain ⟨document, hholds⟩ : ∃ document, HoldsDocument marked ["work"] path document :=
      exists_holdsDocument (by decide +kernel)
    have hload : load marked ["work"] path = .ok { internalPrefix := "_" } := by decide +kernel
    obtain ⟨haccepts, htold, -⟩ := file_options_answered hholds
    exact ⟨document, hholds, hload, haccepts.mp ⟨_, hload⟩, (htold _ hload).1⟩
  · obtain ⟨document, hholds⟩ : ∃ document, HoldsDocument faulty ["work"] path document :=
      exists_holdsDocument (by decide +kernel)
    have hload : load faulty ["work"] path =
        .error (.invalid (.text "internal_prefix" "[]")) := by
      decide +kernel
    obtain ⟨haccepts, -, hoffends, htells, -⟩ := file_options_answered hholds
    have hinvalid : ¬ Valid document := fun hvalid => by
      obtain ⟨settings, hsettings⟩ := haccepts.mpr hvalid
      cases hsettings.symm.trans hload
    obtain ⟨item, v, hfirst⟩ := hoffends hinvalid
    obtain ⟨hshort, hlong⟩ := htells item v hfirst
    refine ⟨document, v, hholds, hload, ?_⟩
    have hv : v.hasLong = false ∨ item = .table := by
      refine Classical.byContradiction fun hno => ?_
      have hv : v.hasLong = true := by simpa using (not_or.mp hno).1
      cases (hlong ⟨fun htable => hno (.inr htable), hv⟩).symm.trans hload
    have hfault : item.fault v = .text "internal_prefix" "[]" :=
      SettingsFailure.invalid.inj (Except.error.inj ((hshort hv.symm).1.symm.trans hload))
    cases item with
    | internalPrefix => exact hfirst
    | table | duplicates => cases hfault
    | sharedMarker => exact absurd (SettingsFault.text.inj hfault).1 (by decide)

/-- The bytes of a file with a whole number of 4302 digits in place of a text. -/
def longMark : List UInt8 :=
  "[parser]\ninternal_prefix=0x1".toUTF8.toList ++ List.replicate 3572 (UInt8.ofNat 48)

/-- A whole number that is too long to be written is no text, and yet no fault is told. -/
theorem longMark_untold :
    let path : Path := .ofText settingsFileName
    (∃ document, HoldsDocument (directoryOf longMark) ["work"] path document ∧ ¬ Valid document) ∧
    load (directoryOf longMark) ["work"] path = .error (.longInteger .write) ∧
    ¬ ∃ fault, load (directoryOf longMark) ["work"] path = .error (.invalid fault) := by
  intro path
  obtain ⟨document, hholds⟩ : ∃ document,
      HoldsDocument (directoryOf longMark) ["work"] path document :=
    exists_holdsDocument (by decide +kernel)
  have hload : load (directoryOf longMark) ["work"] path = .error (.longInteger .write) := by
    decide +kernel
  refine ⟨⟨document, hholds, fun hvalid => ?_⟩, hload, ?_⟩
  · obtain ⟨settings, hsettings⟩ := exists_ofDocument_eq_ok_iff.mpr hvalid
    cases hsettings.symm.trans (hholds.load_eq.symm.trans hload)
  · rintro ⟨fault, hfault⟩
    cases hfault.symm.trans hload

end Settings
end Scenario

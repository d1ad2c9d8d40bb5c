import Scenario.Loading
import Scenario.Proofs.Json.Roundtrip

/-! # JSON documents in files

The text of a document has ASCII characters only, and no line ends but line feeds. So nothing
changes when it is put in a file and loaded: the file denotes what the document denotes once its
halves are joined (`Json.Plain.denotedBy`). That is what the document itself denotes unless two
halves in one of its texts are a way to write a character (`Json.Plain.denotedBy_self_iff`). -/

namespace Scenario

open Text

/-! ## ASCII -/

/-- Characters that can be printed or that end a line, each of which is one byte. -/
def IsAscii (cs : List Char) : Prop :=
  ∀ c ∈ cs, c = '\n' ∨ 0x20 ≤ c.toNat ∧ c.toNat < 0x7f

instance (cs : List Char) : Decidable (IsAscii cs) :=
  List.decidableBAll _ cs

namespace IsAscii

variable {c : Char} {cs ds : List Char}

theorem nil : IsAscii [] := nofun

@[simp] theorem cons_iff :
    IsAscii (c :: cs) ↔ (c = '\n' ∨ 0x20 ≤ c.toNat ∧ c.toNat < 0x7f) ∧ IsAscii cs :=
  List.forall_mem_cons

@[simp] theorem append_iff : IsAscii (cs ++ ds) ↔ IsAscii cs ∧ IsAscii ds :=
  List.forall_mem_append

/-- There are no line ends to be unified. -/
theorem unifyLineEnds_eq (h : IsAscii cs) : unifyLineEnds cs = cs := by
  induction cs with
  | nil => rfl
  | cons c cs ih =>
      rw [cons_iff] at h
      have hc : c ≠ '\r' := by
        rintro rfl
        exact absurd h.1 (by decide)
      rw [unifyLineEnds.eq_3 c cs fun _ h => absurd h hc, if_neg hc, ih h.2]

theorem decodeFrom_utf8 (h : IsAscii cs) (position : Nat) :
    Utf8.decodeFrom position (cs.flatMap String.utf8EncodeChar) = .ok cs := by
  induction cs generalizing position with
  | nil => rfl
  | cons c cs ih =>
      rw [cons_iff] at h
      have hc : c.toNat < 0x80 := by
        rcases h.1 with rfl | hc
        · decide
        · omega
      have hbyte : String.utf8EncodeChar c = [c.val.toUInt8] :=
        String.utf8EncodeChar_eq_singleton
          (Char.utf8Size_eq_one_iff.mpr (UInt32.le_iff_toNat_le.mpr (Nat.le_of_lt_succ hc)))
      have hvalue : c.val.toUInt8.toNat = c.toNat := by
        rw [UInt32.toNat_toUInt8]
        exact Nat.mod_eq_of_lt (Nat.lt_trans hc (by decide))
      have hwidth : Utf8.width? c.val.toUInt8 = some 1 := by
        simp only [Utf8.width?, hvalue]
        rw [if_pos hc]
      rw [List.flatMap_cons, hbyte, List.singleton_append, Utf8.decodeFrom, hwidth]
      dsimp only
      rw [hvalue, Char.ofNat_toNat, ih h.2]
      rfl

end IsAscii

namespace Json

variable {c : Char} {j : Json} {items : List Json} {members : List (String × Json)} {level : Nat}

theorem isAscii_unitEscape {n : Nat} (h : n < 0x10000) : IsAscii (unitEscape n) := by
  have hdigit {d : Nat} (hd : d < 16) :
      d.digitChar = '\n' ∨ 0x20 ≤ d.digitChar.toNat ∧ d.digitChar.toNat < 0x7f := by
    decide +revert
  unfold unitEscape
  rw [Digits.hexPadded_four h]
  simp only [IsAscii.cons_iff]
  refine ⟨by decide, by decide, hdigit ?_, hdigit ?_, hdigit ?_, hdigit ?_, .nil⟩ <;> omega

theorem isAscii_escapeChar (c : Char) : IsAscii (escapeChar c) := by
  have hvalid := toNat_lt_or c
  unfold escapeChar
  by_cases hc : c = '"' ∨ c = '\\'
  · rw [if_pos hc]
    rcases hc with rfl | rfl <;> decide
  rw [if_neg hc]
  split
  · decide
  split
  · decide
  split
  · decide
  split
  · decide
  split
  · decide
  split
  · next hplain => exact IsAscii.cons_iff.mpr ⟨.inr hplain, .nil⟩
  split
  · next hunit => exact isAscii_unitEscape hunit
  · exact IsAscii.append_iff.mpr ⟨isAscii_unitEscape (by omega), isAscii_unitEscape (by omega)⟩

theorem isAscii_escapePoint (p : CodePoint) : IsAscii (escapePoint p) := by
  cases p with
  | char c => exact isAscii_escapeChar c
  | half h => exact isAscii_unitEscape (Nat.lt_trans h.toNat_lt.2 (by decide))

theorem isAscii_writeText (s : String) : IsAscii (writeText s) := by
  unfold writeText
  simp only [IsAscii.cons_iff, IsAscii.append_iff]
  refine ⟨by decide, fun c hc => ?_, by decide, .nil⟩
  obtain ⟨p, -, hp⟩ := List.mem_flatMap.mp hc
  exact isAscii_escapePoint p c hp

theorem isAscii_newLine (level : Nat) : IsAscii (newLine level) := by
  refine IsAscii.cons_iff.mpr ⟨by decide, fun c hc => ?_⟩
  rw [List.eq_of_mem_replicate hc]
  decide

theorem isAscii_toDigits (n : Nat) : IsAscii (Nat.toDigits 10 n) := by
  intro c hc
  have hdigit := Digits.isDigit_of_mem_toDigits hc
  simp only [Char.isDigit, Bool.and_eq_true, decide_eq_true_eq, UInt32.le_iff_toNat_le] at hdigit
  exact .inr ⟨Nat.le_trans (by decide) hdigit.1, Nat.lt_of_le_of_lt hdigit.2 (by decide)⟩

theorem isAscii_int (n : Int) : IsAscii (toString n).toList := by
  obtain ⟨m, -, h⟩ | ⟨m, -, h⟩ := toList_int_cases n
  · rw [h]
    exact isAscii_toDigits m
  · rw [h, IsAscii.cons_iff]
    exact ⟨by decide, isAscii_toDigits m⟩

theorem isAscii_writeItems (h : ∀ j ∈ items, ∀ level, IsAscii (writeIndented level j)) :
    IsAscii (writeItems level items) := by
  induction items with
  | nil => exact .nil
  | cons j items ih =>
      obtain ⟨hj, h⟩ := List.forall_mem_cons.mp h
      rw [writeItems]
      simp only [IsAscii.cons_iff, IsAscii.append_iff]
      exact ⟨by decide, isAscii_newLine level, hj level, ih h⟩

theorem isAscii_writeMembers (h : ∀ m ∈ members, ∀ level, IsAscii (writeIndented level m.2)) :
    IsAscii (writeMembers level members) := by
  induction members with
  | nil => exact .nil
  | cons m members ih =>
      obtain ⟨name, j⟩ := m
      obtain ⟨hj, h⟩ := List.forall_mem_cons.mp h
      rw [writeMembers]
      simp only [IsAscii.cons_iff, IsAscii.append_iff]
      exact ⟨by decide, isAscii_newLine level, isAscii_writeText name, by decide, by decide,
        hj level, ih h⟩

theorem Plain.isAscii (h : Plain j) (level : Nat) : IsAscii (writeIndented level j) := by
  induction h generalizing level with
  | null =>
      show IsAscii ['n', 'u', 'l', 'l']
      decide
  | bool b =>
      cases b with
      | false =>
          show IsAscii ['f', 'a', 'l', 's', 'e']
          decide
      | true =>
          show IsAscii ['t', 'r', 'u', 'e']
          decide
  | @int n _ => exact isAscii_int n
  | text s => exact isAscii_writeText s
  | @list items _ ih =>
      cases items with
      | nil =>
          show IsAscii ['[', ']']
          decide
      | cons j items =>
          obtain ⟨hj, ih⟩ := List.forall_mem_cons.mp ih
          rw [writeIndented]
          simp only [IsAscii.cons_iff, IsAscii.append_iff]
          exact ⟨by decide, isAscii_newLine _, hj _, isAscii_writeItems ih, isAscii_newLine level,
            by decide, .nil⟩
  | @object members _ _ ih =>
      cases members with
      | nil =>
          show IsAscii ['\x7b', '\x7d']
          decide
      | cons m members =>
          obtain ⟨name, j⟩ := m
          obtain ⟨hj, ih⟩ := List.forall_mem_cons.mp ih
          rw [writeIndented]
          simp only [IsAscii.cons_iff, IsAscii.append_iff]
          exact ⟨by decide, isAscii_newLine _, isAscii_writeText name, by decide, by decide, hj _,
            isAscii_writeMembers ih, isAscii_newLine level, by decide, .nil⟩

end Json

/-! ## Files -/

/-- A text denotes a document: the reader gives the document, and so does every file that holds the
text under a name of the format. -/
structure Json.DenotedBy (j : Json) (text : String) : Prop where
  ofChars : Json.ofChars text.toList = .ok j
  readFile (tree : FileTree) (home : Address) (path : Path) :
    Format.ofSuffix? path.suffix = some .json →
      tree.find home path = .ok (some (.file (text.toList.flatMap String.utf8EncodeChar))) →
        readFile tree home path = .ok j.toValue

/-- The text of a plain document denotes the document with its halves joined. -/
theorem Json.Plain.denotedBy {j : Json} (h : j.Plain) :
    j.joined.DenotedBy (j.pretty ++ "\n") where
  ofChars := h.ofChars_pretty
  readFile tree home path hsuffix hfile := by
    have hascii : IsAscii (j.pretty ++ "\n").toList := by
      rw [toList_pretty, IsAscii.append_iff]
      exact ⟨h.isAscii 0, isAscii_newLine 0⟩
    unfold Scenario.readFile
    rw [hfile]
    dsimp only
    rw [Utf8.decode, hascii.decodeFrom_utf8]
    dsimp only
    rw [hascii.unifyLineEnds_eq, Scenario.readDocument, hsuffix]
    dsimp only
    rw [h.ofChars_pretty]

/-- A plain document is denoted by its text unless two halves in one of its texts are a way to write
a character. -/
theorem Json.Plain.denotedBy_self_iff {j : Json} (h : j.Plain) :
    j.DenotedBy (j.pretty ++ "\n") ↔ j.hasPair = false := by
  rw [← h.joined_eq_self_iff]
  constructor
  · intro hself
    exact Except.ok.inj (h.ofChars_pretty.symm.trans hself.ofChars)
  · intro hjoined
    have hdenoted := h.denotedBy
    rwa [hjoined] at hdenoted

end Scenario

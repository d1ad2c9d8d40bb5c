import Scenario.Json.Printer
import Scenario.Json.Reader
import Scenario.Proofs.Number.Digits
import Scenario.Proofs.Text.CodePoint

/-! # Texts of JSON documents written and read

Every code point is written as itself or as escapes, and each escape is read as a code point: a
character beyond sixteen bits is read as two halves (`Json.units`). These are joined again, and so
are two halves of the text that are a way to write a character (`joinHalves_units`). So a text is
read back from its escapes up to the closing quote with its halves joined (`readText_escaped`),
whatever it is made of. -/

namespace Scenario.Json

open Text

variable {c e : Char} {n : Nat} {opening rest after : List Char} {ps : List CodePoint}

/-! ## Code points of sixteen bits -/

/-- The code points that are read where a code point is written: a character beyond sixteen bits is
written as two halves. -/
def units : CodePoint → List CodePoint
  | .char c =>
    if c.toNat < 0x10000 then [.char c]
    else [.ofNat (0xD800 + (c.toNat - 0x10000) / 0x400),
      .ofNat (0xDC00 + (c.toNat - 0x10000) % 0x400)]
  | .half h => [.half h]

theorem ofNat_toNat_char (c : Char) : CodePoint.ofNat c.toNat = .char c := by
  have hvalid := toNat_lt_or c
  rw [CodePoint.ofNat, dif_neg (by omega), dif_neg (by omega), Char.ofNat_toNat]

theorem ofNat_toNat_half (h : Half) : CodePoint.ofNat h.toNat = .half h := by
  cases h with
  | high n =>
      rw [CodePoint.ofNat, Half.toNat, dif_pos (by omega)]
      simp
  | low n =>
      rw [CodePoint.ofNat, Half.toNat, dif_neg (by omega), dif_pos (by omega)]
      simp

/-- The two halves of a character beyond sixteen bits are a way to write it. -/
theorem exists_units_eq (h : ¬ c.toNat < 0x10000) :
    ∃ first second, units (.char c) = [.half (.high first), .half (.low second)] ∧
      charOfHalves first second = c := by
  have hvalid := toNat_lt_or c
  refine ⟨⟨(c.toNat - 0x10000) / 0x400, by omega⟩, ⟨(c.toNat - 0x10000) % 0x400, by omega⟩, ?_, ?_⟩
  · rw [units, if_neg h, ← ofNat_toNat_half, ← ofNat_toNat_half]
    rfl
  · have hsum : 0x10000 + (c.toNat - 0x10000) / 0x400 * 0x400 + (c.toNat - 0x10000) % 0x400 =
        c.toNat := by
      omega
    rw [charOfHalves, hsum, Char.ofNat_toNat]

/-- No code point is read as a second half first, unless it is one. -/
theorem units_ne_low {p : CodePoint} (hp : ∀ l, p ≠ .half (.low l)) (l : Fin 0x400)
    (more : List CodePoint) : units p ≠ .half (.low l) :: more := by
  cases p with
  | half h =>
      intro heq
      exact hp l (List.cons.inj heq).1
  | char c =>
      by_cases h : c.toNat < 0x10000
      · rw [units, if_pos h]
        exact nofun
      · obtain ⟨first, second, hunits, -⟩ := exists_units_eq h
        rw [hunits]
        exact nofun

theorem units_ne_nil (p : CodePoint) : units p ≠ [] := by
  cases p with
  | half h => exact nofun
  | char c =>
      rw [units]
      split <;> exact nofun

theorem flatMap_units_ne_low (hps : ∀ l more, ps ≠ .half (.low l) :: more) (l : Fin 0x400)
    (more : List CodePoint) : ps.flatMap units ≠ .half (.low l) :: more := by
  cases ps with
  | nil => exact nofun
  | cons p ps =>
      have hp : ∀ l, p ≠ .half (.low l) := fun l heq => hps l ps (heq ▸ rfl)
      obtain ⟨q, qs, hunits⟩ := List.exists_cons_of_ne_nil (units_ne_nil p)
      rw [List.flatMap_cons, hunits]
      intro heq
      exact units_ne_low hp l qs (hunits.trans (congrArg (· :: qs) (List.cons.inj heq).1))

/-- The halves that a character is read as are joined again, and no others than would be joined
before. -/
theorem joinHalves_units (ps : List CodePoint) :
    joinHalves (ps.flatMap units) = joinHalves ps := by
  fun_induction joinHalves ps with
  | case1 h l rest ih =>
      rw [← ih]
      rfl
  | case2 p rest hpair ih =>
      rw [List.flatMap_cons]
      cases p with
      | char c =>
          by_cases h : c.toNat < 0x10000
          · rw [units, if_pos h, ← ih]
            rfl
          · obtain ⟨first, second, hunits, hjoined⟩ := exists_units_eq h
            rw [hunits, ← ih, ← hjoined]
            rfl
      | half h =>
          cases h with
          | low l =>
              rw [← ih]
              rfl
          | high first =>
              -- No character that follows is read as a second half which this one would join.
              have hrest : ∀ l more, rest.flatMap units ≠ .half (.low l) :: more :=
                flatMap_units_ne_low fun l more heq => hpair first l more rfl heq
              rw [← ih]
              exact joinHalves_cons_of_ne hrest
  | case3 => rfl

/-! ## Reading on from a character -/

/-- A character that needs no escape is read as it is. -/
theorem readPoints_plain (hquote : c ≠ '"') (hslash : c ≠ '\\') (hc : 0x20 ≤ c.toNat)
    (h : readPoints opening rest = .ok (ps, after)) :
    readPoints opening (c :: rest) = .ok (.char c :: ps, after) := by
  rw [readPoints.eq_5 opening c rest (fun h => absurd h hslash) (fun _ _ _ _ _ h => absurd h hslash)
    (fun _ _ h => absurd h hslash), if_neg hquote, if_neg (Nat.not_lt.mpr hc), h]
  rfl

/-- A short escape is read as what it stands for. -/
theorem readPoints_short (he : shortEscape? e = some c)
    (h : readPoints opening rest = .ok (ps, after)) :
    readPoints opening ('\\' :: e :: rest) = .ok (.char c :: ps, after) := by
  have hu : e ≠ 'u' := by
    rintro rfl
    cases he
  rw [readPoints.eq_4 opening e rest fun _ _ _ _ _ h => absurd h hu, if_neg hu, he, h]
  rfl

theorem hexUnit?_digits (h : n < 0x10000) :
    hexUnit? (n / 16 / 16 / 16).digitChar (n / 16 / 16 % 16).digitChar (n / 16 % 16).digitChar
      (n % 16).digitChar = some n := by
  have hsum :
      ((n / 16 / 16 / 16 * 16 + n / 16 / 16 % 16) * 16 + n / 16 % 16) * 16 + n % 16 = n := by
    omega
  unfold hexUnit?
  rw [Digits.ofHex?_digitChar (by omega), Digits.ofHex?_digitChar (by omega),
    Digits.ofHex?_digitChar (by omega), Digits.ofHex?_digitChar (by omega)]
  exact congrArg some hsum

/-- A unit is read from its escape, if a text goes on behind it. -/
theorem readPoints_unitEscape (hn : n < 0x10000) (h : readPoints opening rest = .ok (ps, after)) :
    readPoints opening (unitEscape n ++ rest) = .ok (.ofNat n :: ps, after) := by
  have hrest : rest.isEmpty = false := by
    cases rest with
    | nil => cases h
    | cons => rfl
  unfold unitEscape
  rw [Digits.hexPadded_four hn]
  simp only [List.cons_append, List.nil_append]
  rw [readPoints, hexUnit?_digits hn, hrest, h]
  rfl

/-- The code points of a character are read from how it is written. -/
theorem readPoints_escapeChar (c : Char) (h : readPoints opening rest = .ok (ps, after)) :
    readPoints opening (escapeChar c ++ rest) = .ok (units (.char c) ++ ps, after) := by
  have hsmall (hc : c.toNat < 0x10000) : units (.char c) ++ ps = .char c :: ps := by
    rw [units, if_pos hc]
    rfl
  have of_toNat {n : Nat} (h : c.toNat = n) : Char.ofNat n = c := h ▸ Char.ofNat_toNat c
  unfold escapeChar
  by_cases hc : c = '"' ∨ c = '\\'
  · rw [if_pos hc]
    rcases hc with rfl | rfl
    · exact readPoints_short rfl h
    · exact readPoints_short rfl h
  rw [if_neg hc]
  split
  · next hn => exact hn ▸ readPoints_short rfl h
  split
  · next hr => exact hr ▸ readPoints_short rfl h
  split
  · next ht => exact ht ▸ readPoints_short rfl h
  split
  · next hb =>
    rw [hsmall (by omega)]
    exact readPoints_short (congrArg some (of_toNat hb)) h
  split
  · next hf =>
    rw [hsmall (by omega)]
    exact readPoints_short (congrArg some (of_toNat hf)) h
  split
  · next hplain =>
    rw [not_or] at hc
    rw [hsmall (by omega)]
    exact readPoints_plain hc.1 hc.2 hplain.1 h
  split
  · next hunit =>
    rw [hsmall hunit, ← ofNat_toNat_char]
    exact readPoints_unitEscape hunit h
  · next hpair =>
    have hvalid := toNat_lt_or c
    rw [units, if_neg hpair, List.append_assoc]
    exact readPoints_unitEscape (by omega) (readPoints_unitEscape (by omega) h)

/-- The code points of a code point are read from how it is written. -/
theorem readPoints_escapePoint (p : CodePoint) (h : readPoints opening rest = .ok (ps, after)) :
    readPoints opening (escapePoint p ++ rest) = .ok (units p ++ ps, after) := by
  cases p with
  | char c => exact readPoints_escapeChar c h
  | half half =>
      have hlt := half.toNat_lt
      have hread := readPoints_unitEscape (n := half.toNat) (by omega) h
      rw [ofNat_toNat_half] at hread
      exact hread

/-! ## Whole texts -/

theorem readPoints_escaped (opening : List Char) (ps : List CodePoint) (rest : List Char) :
    readPoints opening (ps.flatMap escapePoint ++ '"' :: rest) = .ok (ps.flatMap units, rest) := by
  induction ps with
  | nil => rw [List.flatMap_nil, List.nil_append, readPoints] <;> simp
  | cons p ps ih =>
      rw [List.flatMap_cons, List.flatMap_cons, List.append_assoc]
      exact readPoints_escapePoint p ih

/-- A text is read back from its escapes with its halves joined, up to the closing quote. -/
theorem readText_escaped (s : String) (rest : List Char) :
    readText ((codePoints s).flatMap escapePoint ++ '"' :: rest) = .ok (joined s, rest) := by
  unfold readText
  rw [readPoints_escaped]
  show Except.ok (ofCodePoints (joinHalves ((codePoints s).flatMap units)), rest) = _
  rw [joinHalves_units]
  rfl

end Scenario.Json

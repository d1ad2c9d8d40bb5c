import Scenario.Text.CodePoint

/-! # Code points kept in strings

Each string is the text of its code points (`ofCodePoints_codePoints`), and each list of code points
is that of a text (`codePoints_ofCodePoints`). Where halves are joined, a text stays as it is unless
there is a half in it that comes first with one that comes second right behind it
(`joined_eq_self_iff`). -/

namespace Scenario.Text

variable {c : Char} {h : Half} {p : CodePoint} {ps rest : List CodePoint} {cs : List Char}
  {marks n : Nat} {s : String}

/-! ## Halves and their stand-ins -/

theorem Half.toNat_lt (h : Half) : 0xD800 ≤ h.toNat ∧ h.toNat < 0xE000 := by
  cases h <;> simp only [toNat] <;> omega

/-- The code points of characters leave out those of halves. -/
theorem toNat_lt_or (c : Char) :
    c.toNat < 0xD800 ∨ 0xDFFF < c.toNat ∧ c.toNat < 0x110000 :=
  c.valid

theorem toNat_ofNat (hn : n.isValidChar) : (Char.ofNat n).toNat = n := by
  rw [Char.ofNat, dif_pos hn]
  rfl

theorem Half.toNat_standIn (h : Half) : h.standIn.toNat = h.toNat + 0x800 := by
  have hlt := h.toNat_lt
  exact toNat_ofNat (.inr ⟨by omega, by omega⟩)

theorem half?_standIn (h : Half) : half? h.standIn = some h := by
  have hstand := h.toNat_standIn
  cases h with
  | high n =>
      simp only [Half.toNat] at hstand
      rw [half?, dif_pos (by omega)]
      simp only [Option.some.injEq, Half.high.injEq, Fin.ext_iff]
      omega
  | low n =>
      simp only [Half.toNat] at hstand
      rw [half?, dif_neg (by omega), dif_pos (by omega)]
      simp only [Option.some.injEq, Half.low.injEq, Fin.ext_iff]
      omega

theorem standIn_of_half? (hc : half? c = some h) : h.standIn = c := by
  have of_toNat {n : Nat} (hn : n = c.toNat) : Char.ofNat n = c := hn ▸ Char.ofNat_toNat c
  unfold half? at hc
  split at hc
  · cases hc
    exact of_toNat (by simp only [Half.toNat]; omega)
  · split at hc
    · cases hc
      exact of_toNat (by simp only [Half.toNat]; omega)
    · cases hc

/-- A mark stands in for nothing. -/
theorem half?_mark : half? mark = none := by
  decide +kernel

theorem standIn_ne_mark (h : Half) : h.standIn ≠ mark := by
  intro heq
  have hsome := half?_standIn h
  rw [heq, half?_mark] at hsome
  cases hsome

/-! ## Strings and code points -/

theorem codePointsFrom_mark (marks : Nat) (cs : List Char) :
    codePointsFrom marks (mark :: cs) = codePointsFrom (marks + 1) cs := by
  rw [codePointsFrom, if_pos rfl]

theorem codePointsFrom_of_half?_eq_none (hc : c ≠ mark) (hhalf : half? c = none) :
    codePointsFrom marks (c :: cs) =
      List.replicate marks (.char mark) ++ .char c :: codePointsFrom 0 cs := by
  rw [codePointsFrom, if_neg hc, hhalf]

theorem codePointsFrom_of_half?_eq_some (hc : c ≠ mark) (hhalf : half? c = some h) :
    codePointsFrom marks (c :: cs) = List.replicate (marks / 2) (.char mark) ++
      (if marks % 2 = 0 then .char c else .half h) :: codePointsFrom 0 cs := by
  rw [codePointsFrom, if_neg hc, hhalf]

theorem codePointsFrom_replicate (marks n : Nat) (cs : List Char) :
    codePointsFrom marks (List.replicate n mark ++ cs) = codePointsFrom (marks + n) cs := by
  induction n generalizing marks with
  | zero => rfl
  | succ n ih =>
      rw [List.replicate_succ, List.cons_append, codePointsFrom_mark, ih, Nat.add_right_comm]
      rfl

theorem charsFrom_mark (marks : Nat) (ps : List CodePoint) :
    charsFrom marks (.char mark :: ps) = charsFrom (marks + 1) ps := by
  rw [charsFrom, if_pos rfl]

theorem charsFrom_replicate (marks n : Nat) (ps : List CodePoint) :
    charsFrom marks (List.replicate n (.char mark) ++ ps) = charsFrom (marks + n) ps := by
  induction n generalizing marks with
  | zero => rfl
  | succ n ih =>
      rw [List.replicate_succ, List.cons_append, charsFrom_mark, ih, Nat.add_right_comm]
      rfl

/-- Marks with the code points after them are read from the characters that keep them. -/
theorem codePointsFrom_charsFrom (marks : Nat) (ps : List CodePoint) :
    codePointsFrom 0 (charsFrom marks ps) = List.replicate marks (.char mark) ++ ps := by
  induction ps generalizing marks with
  | nil =>
      rw [charsFrom, ← List.append_nil (List.replicate marks mark), codePointsFrom_replicate,
        Nat.zero_add, codePointsFrom, List.append_nil]
  | cons p ps ih =>
      cases p with
      | char c =>
          by_cases hc : c = mark
          · rw [hc, charsFrom_mark, ih, List.replicate_succ', List.append_assoc]
            rfl
          · rw [charsFrom, if_neg hc, codePointsFrom_replicate, Nat.zero_add]
            cases hhalf : half? c with
            | none =>
                rw [codePointsFrom_of_half?_eq_none hc hhalf, ih]
                rfl
            | some h =>
                rw [codePointsFrom_of_half?_eq_some hc hhalf, ih]
                simp
      | half h =>
          have heven : (2 * marks + 1) % 2 ≠ 0 := by omega
          have hdiv : (2 * marks + 1) / 2 = marks := by omega
          rw [charsFrom, codePointsFrom_replicate, Nat.zero_add,
            codePointsFrom_of_half?_eq_some (standIn_ne_mark h) (half?_standIn h), if_neg heven,
            hdiv, ih]
          rfl

/-- Marks with the characters after them are kept as they are read. -/
theorem charsFrom_codePointsFrom (marks : Nat) (cs : List Char) :
    charsFrom 0 (codePointsFrom marks cs) = List.replicate marks mark ++ cs := by
  induction cs generalizing marks with
  | nil =>
      rw [codePointsFrom, ← List.append_nil (List.replicate marks (CodePoint.char mark)),
        charsFrom_replicate, Nat.zero_add, charsFrom, List.append_nil]
  | cons c cs ih =>
      by_cases hc : c = mark
      · rw [hc, codePointsFrom_mark, ih, List.replicate_succ', List.append_assoc]
        rfl
      · cases hhalf : half? c with
        | none =>
            rw [codePointsFrom_of_half?_eq_none hc hhalf, charsFrom_replicate, charsFrom, if_neg hc,
              hhalf, ih]
            simp
        | some h =>
            rw [codePointsFrom_of_half?_eq_some hc hhalf, charsFrom_replicate, Nat.zero_add]
            by_cases heven : marks % 2 = 0
            · have hmarks : 2 * (marks / 2) = marks := by omega
              rw [if_pos heven, charsFrom, if_neg hc, hhalf, Option.isSome_some, if_pos rfl, hmarks,
                ih]
              rfl
            · have hmarks : 2 * (marks / 2) + 1 = marks := by omega
              rw [if_neg heven, charsFrom, hmarks, standIn_of_half? hhalf, ih]
              rfl

/-- Each list of code points is that of a text. -/
@[simp] theorem codePoints_ofCodePoints (ps : List CodePoint) :
    codePoints (ofCodePoints ps) = ps := by
  rw [codePoints, ofCodePoints, String.toList_ofList, codePointsFrom_charsFrom]
  rfl

/-- Each string is the text of its code points. -/
@[simp] theorem ofCodePoints_codePoints (s : String) : ofCodePoints (codePoints s) = s := by
  rw [codePoints, ofCodePoints, charsFrom_codePointsFrom]
  exact String.ofList_toList

/-! ## Halves that are joined -/

/-- A text with the character in place of two halves that are a way to write it. -/
def joined (s : String) : String := ofCodePoints (joinHalves (codePoints s))

/-- Whether among code points there is a half that comes first, with one that comes second right
behind it. -/
def havePair : List CodePoint → Bool
  | .half (.high _) :: .half (.low _) :: _ => true
  | _ :: rest => havePair rest
  | [] => false

/-- Whether a text has two halves that are a way to write a character. -/
def hasPair (s : String) : Bool := havePair (codePoints s)

/-- What does not begin with a second half is not joined with the code point in front of it. -/
theorem joinHalves_cons_of_ne (h : ∀ l more, ps ≠ .half (.low l) :: more) :
    joinHalves (p :: ps) = p :: joinHalves ps :=
  joinHalves.eq_2 p ps fun _ l more _ heq => h l more heq

theorem joinHalves_eq_self_iff (ps : List CodePoint) :
    joinHalves ps = ps ↔ havePair ps = false := by
  fun_induction joinHalves ps with
  | case1 h l rest ih => simp [havePair]
  | case2 p rest hpair ih => rw [List.cons.injEq, havePair, ih, and_iff_right rfl]; exact hpair
  | case3 => simp [havePair]

/-- A text stays as it is unless two halves in it are a way to write a character. -/
theorem joined_eq_self_iff : joined s = s ↔ hasPair s = false := by
  rw [joined, hasPair, ← joinHalves_eq_self_iff]
  constructor
  · intro h
    rw [← codePoints_ofCodePoints (joinHalves (codePoints s)), h]
  · intro h
    rw [h, ofCodePoints_codePoints]

end Scenario.Text

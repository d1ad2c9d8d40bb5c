import Scenario.Validation.Scalar

/-! # Faults of simple data

A text, a whole number or a truth value is read with one fault at most, which lies at the value
itself and is not that it is missing (`Scalar.issues_cases`). -/

namespace Scenario

/-- The faults that a reading has found. -/
def Checked.issues {α : Type} : Checked α → List Issue
  | .ok _ => []
  | .error issues => issues

/-- The simple kinds of data. -/
inductive Scalar where
  | text
  | int
  | bool
deriving DecidableEq, Repr

/-- The faults of a value that is to be a simple one. -/
def Scalar.issues : Scalar → Value → List Issue
  | .text, v => (Decoder.text v).issues
  | .int, v => (Decoder.int v).issues
  | .bool, v => (Decoder.bool v).issues

namespace Checked

/-- A reading that stops at its first fault, which lies at the value itself. -/
inductive StopsAtOnce {α : Type} : Checked α → Prop where
  | ok (a : α) : StopsAtOnce (.ok a)
  | fail {c : Complaint} (h : c ≠ .missing) : StopsAtOnce (fail c)

theorem StopsAtOnce.issues_cases {α : Type} {x : Checked α} (h : x.StopsAtOnce) :
    x.issues = [] ∨ ∃ c, c ≠ .missing ∧ x.issues = [⟨[], c⟩] := by
  cases h with
  | ok a => exact .inl rfl
  | fail hc => exact .inr ⟨_, hc, rfl⟩

theorem StopsAtOnce.ite {α : Type} {p : Prop} [Decidable p] {x y : Checked α}
    (hx : x.StopsAtOnce) (hy : y.StopsAtOnce) : (if p then x else y).StopsAtOnce := by
  by_cases hp : p
  · rwa [if_pos hp]
  · rwa [if_neg hp]

end Checked

namespace Decoder

open Checked

theorem stopsAtOnce_text (v : Value) : (text v).StopsAtOnce := by
  cases v with
  | text s => exact StopsAtOnce.ok s
  | bytes bs =>
      unfold text
      dsimp only
      cases Text.Utf8.decode bs with
      | ok cs => exact StopsAtOnce.ok _
      | error fault => exact StopsAtOnce.fail nofun
  | _ => exact StopsAtOnce.fail nofun

/-- What is wrong with an integer is not that it is missing. -/
theorem ne_missing_of_plainInteger {cs : List Char} {c : Complaint}
    (h : plainInteger cs = .error c) : c ≠ .missing := by
  unfold plainInteger at h
  extract_lets body digits at h
  split at h
  · cases h
    exact nofun
  · split at h
    · cases h
      exact nofun
    · cases h

theorem stopsAtOnce_intOfText (cs : List Char) : (intOfText cs).StopsAtOnce := by
  unfold intOfText
  dsimp only
  split
  · exact .ok _
  · next c h =>
    refine .fail ?_
    split at h
    · cases hsimple : simplified cs with
      | none =>
          rw [hsimple] at h
          cases h
          exact nofun
      | some cs' =>
          rw [hsimple] at h
          exact ne_missing_of_plainInteger h
    · exact ne_missing_of_plainInteger h

theorem stopsAtOnce_intOfFloat (x : Binary64) : (intOfFloat x).StopsAtOnce := by
  unfold intOfFloat
  split
  · exact StopsAtOnce.fail nofun
  · split
    · exact StopsAtOnce.fail nofun
    · split
      · exact StopsAtOnce.ok _
      · exact StopsAtOnce.fail nofun

theorem stopsAtOnce_int (v : Value) : (int v).StopsAtOnce := by
  cases v with
  | int n => exact StopsAtOnce.ok n
  | bool b => exact StopsAtOnce.ok _
  | float x => exact stopsAtOnce_intOfFloat x
  | text s => exact StopsAtOnce.ite (.fail nofun) (stopsAtOnce_intOfText s.toList)
  | bytes bs =>
      unfold int
      dsimp only
      cases Text.Utf8.decode bs with
      | ok cs => exact stopsAtOnce_intOfText cs
      | error fault => exact StopsAtOnce.fail nofun
  | _ => exact StopsAtOnce.fail nofun

theorem stopsAtOnce_boolOfText (s : String) : (boolOfText s).StopsAtOnce := by
  unfold boolOfText
  dsimp only
  split
  · exact StopsAtOnce.ok true
  · split
    · exact StopsAtOnce.ok false
    · exact StopsAtOnce.fail nofun

theorem stopsAtOnce_boolOfInt (n : Int) : (boolOfInt n).StopsAtOnce := by
  unfold boolOfInt
  split
  · exact StopsAtOnce.ok false
  · split
    · exact StopsAtOnce.ok true
    · exact StopsAtOnce.fail nofun

theorem stopsAtOnce_bool (v : Value) : (bool v).StopsAtOnce := by
  cases v with
  | bool b => exact StopsAtOnce.ok b
  | text s => exact StopsAtOnce.ite (.fail nofun) (stopsAtOnce_boolOfText s)
  | bytes bs =>
      unfold bool
      dsimp only
      cases Text.Utf8.decode bs with
      | ok cs => exact stopsAtOnce_boolOfText _
      | error fault => exact StopsAtOnce.fail nofun
  | int n =>
      unfold bool
      dsimp only
      split
      · exact stopsAtOnce_boolOfInt n
      · exact StopsAtOnce.fail nofun
  | float x =>
      unfold bool
      dsimp only
      split
      · split
        · exact stopsAtOnce_boolOfInt _
        · exact StopsAtOnce.fail nofun
      · exact StopsAtOnce.fail nofun
  | _ => exact StopsAtOnce.fail nofun

end Decoder

/-- A simple value has one fault at most, which lies at the value itself. -/
theorem Scalar.issues_cases (kind : Scalar) (v : Value) :
    kind.issues v = [] ∨ ∃ c, c ≠ .missing ∧ kind.issues v = [⟨[], c⟩] := by
  cases kind with
  | text => exact (Decoder.stopsAtOnce_text v).issues_cases
  | int => exact (Decoder.stopsAtOnce_int v).issues_cases
  | bool => exact (Decoder.stopsAtOnce_bool v).issues_cases

end Scenario

import GridQuery.Condition

/-!
# Conditions in three-valued logic

A store compares in a logic with a third value: a comparison with a projection that is absent is
neither true nor false, and a query keeps what its clause is true of.  A condition asks whether there
is a cell, so that it has one of the two usual values itself, the one that `holds` computes.
-/

namespace GridQuery

/-- Conjunction with an unknown value, `none`. -/
def and3 : Option Bool → Option Bool → Option Bool
  | some true, b => b
  | some false, _ => some false
  | none, some false => some false
  | none, _ => none

def not3 (a : Option Bool) : Option Bool := a.map not

theorem and3_eq_true_iff {a b : Option Bool} :
    and3 a b = some true ↔ a = some true ∧ b = some true := by
  rcases a with _ | _ | _ <;> rcases b with _ | _ | _ <;> decide

theorem map_eq_true_iff {α : Type} {o : Option α} {p : α → Bool} :
    o.map p = some true ↔ o.any p = true := by
  cases o <;> simp

namespace CellTest

def truth (cell : Projections) : CellTest → Option Bool
  | hasText => some cell.text.isSome
  | trimmedTextIs text => cell.text.map fun s => Text.trimBy (· = ' ') s.toList = text.toList
  | textIs text => cell.text.map (· == text)
  | matching pattern => cell.text.map (Residual.matchesPattern pattern)
  | flagIs flag => cell.flag.map (· == flag)
  | number comparison operand => cell.number.map fun x => compareNumbers x operand comparison
  | numberWithin low high =>
    and3 (cell.number.map fun x => compareNumbers x low .greaterOrEqual)
      (cell.number.map fun x => compareNumbers x high .lessOrEqual)
  | instant comparison operand => cell.instant.map fun t => compareInstants t operand comparison
  | instantWithin low high =>
    and3 (cell.instant.map fun t => compareInstants t low .greaterOrEqual)
      (cell.instant.map fun t => compareInstants t high .lessOrEqual)

theorem any_and_any {α : Type} {o : Option α} {p q : α → Bool} :
    o.any (fun a => p a && q a) = true ↔ o.any p = true ∧ o.any q = true := by
  cases o <;> simp

theorem beq_some_iff_any {α : Type} [DecidableEq α] {o : Option α} {a : α} :
    (o == some a) = true ↔ o.any (· == a) = true := by
  cases o <;> simp

theorem truth_eq_true_iff {cell : Projections} {test : CellTest} :
    test.truth cell = some true ↔ test.holds cell = true := by
  cases test with
  | hasText => simp [truth, holds]
  | trimmedTextIs text => exact map_eq_true_iff
  | matching pattern => exact map_eq_true_iff
  | number comparison operand => exact map_eq_true_iff
  | instant comparison operand => exact map_eq_true_iff
  | textIs text => exact map_eq_true_iff.trans beq_some_iff_any.symm
  | flagIs flag => exact map_eq_true_iff.trans beq_some_iff_any.symm
  | numberWithin low high =>
    rw [truth, and3_eq_true_iff, map_eq_true_iff, map_eq_true_iff]
    exact any_and_any.symm
  | instantWithin low high =>
    rw [truth, and3_eq_true_iff, map_eq_true_iff, map_eq_true_iff]
    exact any_and_any.symm

end CellTest

namespace Condition

/-- The truth of a condition on the cells of a row: whether there is a cell that its clause is true
of. -/
def truth (cells : List (Int × Projections)) : Condition → Option Bool
  | someCell columnId test =>
    some (cells.any fun cell => and3 (some (cell.1 == columnId)) (test.truth cell.2) = some true)
  | noCell columnId test =>
    not3 (some
      (cells.any fun cell => and3 (some (cell.1 == columnId)) (test.truth cell.2) = some true))
  | someText term =>
    some (cells.any fun cell => (cell.2.text.map fun s =>
      Text.isLike '/' (searchPattern term) (Text.asciiLower s.toList)) = some true)
  | never => some false

theorem truth_eq_some_holds {cells : List (Int × Projections)} {condition : Condition} :
    condition.truth cells = some (condition.holds cells) := by
  have hcell (columnId : Int) (test : CellTest) (cell : Int × Projections) :
      decide (and3 (some (cell.1 == columnId)) (test.truth cell.2) = some true) =
        (cell.1 == columnId && test.holds cell.2) := by
    rw [Bool.eq_iff_iff, decide_eq_true_iff, and3_eq_true_iff, CellTest.truth_eq_true_iff,
      Bool.and_eq_true, Option.some.injEq]
  cases condition with
  | someCell columnId test => simp only [truth, holds, hcell]
  | noCell columnId test => simp only [truth, holds, hcell, not3, Option.map_some]
  | someText term =>
    simp only [truth, holds, Option.some.injEq]
    congr 1
    funext cell
    rw [Bool.eq_iff_iff, decide_eq_true_iff, map_eq_true_iff]
  | never => rfl

end Condition

end GridQuery

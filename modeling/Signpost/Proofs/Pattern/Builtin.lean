import Signpost.Proofs.Pattern.Groups
import Signpost.Proofs.Regex.Sequences

/-!
# Built-in types

A type that is named by a keyword admits the characters of one class. Its expression is that class,
repeated, so a parameter of such a type opens no group but its own.
-/
namespace Signpost

open Regex

namespace ValueType

/-- A type that gives no expression of its own. -/
def Builtin (valueType : ValueType) : Prop := ∀ token, valueType ≠ .custom token

/-- The characters of which the values of a type consist. -/
def admits : ValueType → Char → Bool
  | .string, c => c != '\n'
  | .int, c => c.isDigit
  | .float, c => c.isDigit || c ∈ ['-', '+', '.', 'e', 'E']
  | .custom _, _ => false

/-- The class that the expression of a built-in type repeats. -/
def charClass : ValueType → CharClass
  | .string => .complement (.within [(10, 10)])
  | .int => .union .empty (.within [(48, 57)])
  | .float => [(45, 45), (43, 43), (48, 57), (46, 46), (101, 101), (69, 69)].foldl
    (fun set range => .union set (.within [range])) .empty
  | .custom _ => .empty

theorem isDigit_iff (c : Char) : c.isDigit = true ↔ 48 ≤ c.toNat ∧ c.toNat ≤ 57 := by
  simp only [Char.isDigit, Bool.and_eq_true, decide_eq_true_eq, UInt32.le_iff_toNat_le]
  exact Iff.rfl

theorem admits_iff (valueType : ValueType) (c : Char) :
    valueType.admits c ↔ valueType.charClass.contains c.toNat := by
  have same (other : Char) : c = other ↔ c.toNat = other.toNat := Char.toNat_inj.symm
  cases valueType with
  | string => simp [admits, charClass, CharClass.contains, same]
  | int => simp [admits, charClass, CharClass.contains, CharClass.empty, isDigit_iff]
  | float =>
    simp [admits, charClass, CharClass.contains, CharClass.empty, isDigit_iff, same]
    omega
  | custom token => simp [admits, charClass, CharClass.contains, CharClass.empty]

variable {valueType : ValueType}

theorem Builtin.read (builtin : valueType.Builtin) :
    Expr.read? valueType.regexBody.toList
      = some (Branches.sequence [some (.repeated (.chars valueType.charClass) 1 none true)]) := by
  cases valueType with
  | string | int | float => decide
  | custom token => exact absurd rfl (builtin token)

theorem Builtin.nesting (builtin : valueType.Builtin) : valueType.nesting ≤ 3 := by
  cases valueType with
  | string | int | float => decide +kernel
  | custom token => exact absurd rfl (builtin token)

theorem Builtin.groupLabels (builtin : valueType.Builtin) : valueType.groupLabels = [] := by
  rw [ValueType.groupLabels, builtin.read]
  rfl

theorem Builtin.compiles (builtin : valueType.Builtin) {token : String}
    (custom : valueType = .custom token) : (Regex.compile? token).isSome :=
  absurd custom (builtin token)

theorem Builtin.opens_iff (builtin : valueType.Builtin) {groups : Nat} :
    valueType.Opens groups ↔ groups = 0 := by
  cases valueType with
  | string | int | float => exact Iff.rfl
  | custom token => exact absurd rfl (builtin token)

end ValueType

namespace Parameter

variable {parameter : Parameter} (builtin : parameter.valueType.Builtin)

include builtin

/-- The expression of a parameter of a built-in type. -/
theorem expr_builtin :
    parameter.expr = if parameter.required then .slot parameter.valueType.charClass
      else .repeated (.slot parameter.valueType.charClass) 0 (some 1) true := by
  rw [expr, ValueType.expr, builtin.read]
  rfl

theorem groups_builtin : parameter.expr.groups = 1 := by
  rw [expr_builtin builtin]
  split <;> rfl

theorem nesting_builtin : parameter.nesting ≤ 6 := by
  have type := builtin.nesting
  rw [nesting]
  split <;> omega

section

variable {text : Array Char} {next start : Nat}

/-- A parameter takes characters of its type, or nothing if it is optional. -/
theorem mem_expr {run : MatchRun} (inside : start ≤ text.size)
    (member : run ∈ (parameter.expr.table text next).runs start) :
    (run = (start, []) ∧ parameter.required = false) ∨
      (run.2 = [(next, start, run.1)] ∧ start < run.1 ∧
        ∀ position, start ≤ position → position < run.1 →
          Assertion.present parameter.valueType.charClass text position) := by
  rw [expr_builtin builtin] at member
  split at member
  next => exact .inr (Expr.mem_slot member)
  next optional =>
    rcases Expr.mem_optional rfl inside member with skipped | taken
    · exact .inl ⟨skipped, Bool.eq_false_iff.mpr optional⟩
    · exact .inr (Expr.mem_slot taken)

theorem endsAt_expr {stop : Nat} (inside : start ≤ text.size) (last : stop ≤ text.size)
    (ends : (stop = start ∧ parameter.required = false) ∨ (start < stop ∧
      ∀ position, start ≤ position → position < stop →
        Assertion.present parameter.valueType.charClass text position)) :
    EndsAt stop ((parameter.expr.table text next).runs start) := by
  rw [expr_builtin builtin]
  rcases ends with ⟨skipped, optional⟩ | ⟨later, all⟩
  · rw [if_neg (by simp [optional])]
    exact Expr.endsAt_optional rfl inside last (.inl skipped)
  · have taken := @Expr.endsAt_slot text stop parameter.valueType.charClass next start inside later all
    split
    · exact taken
    · exact Expr.endsAt_optional rfl inside last (.inr taken)

end

end Parameter

namespace Pattern

variable {fragment : Fragment} {parameters : List Parameter}

theorem Stands.shallow_builtin (stands : Stands fragment parameters)
    (builtin : ∀ parameter ∈ parameters, parameter.valueType.Builtin) :
    deepest fragment.depths ≤ 6 := by
  rw [stands.depth]
  refine deepest_le fun depth member => ?_
  obtain ⟨parameter, among, rfl⟩ := List.mem_map.mp member
  exact Parameter.nesting_builtin (builtin parameter among)

/-- What stands for parameters of built-in types compiles. -/
theorem Stands.compiles_builtin (stands : Stands fragment parameters)
    (builtin : ∀ parameter ∈ parameters, parameter.valueType.Builtin) : fragment.Compiles := by
  have unnamed : parameters.flatMap (·.valueType.groupLabels) = [] :=
    List.flatMap_eq_nil_iff.mpr fun parameter member => (builtin parameter member).groupLabels
  have shallow := stands.shallow_builtin builtin
  refine ⟨?_, ?_⟩
  · rw [stands.names.nodup_iff, unnamed]
    exact List.nodup_nil
  · rw [fragment.anchoredDepth_eq, Expr.nestLimit]
    omega

end Pattern

end Signpost

import CrontabRenderer.Template
import Mathlib.Tactic.Common

/-!
# Filling piece by piece

What filling makes of a run of literal characters and of a placeholder.
-/
namespace CrontabRenderer.Template

/-- Literal characters stay, and the last of them stands before the pieces behind. -/
theorem text_fillPieces_literal_append (reserved : Reserved) (lookup : String → Option String)
    (before : Option Char) (s : List Char) (rest : List Piece) :
    (fillPieces reserved lookup before (s.map .literal ++ rest)).text =
      s ++ (fillPieces reserved lookup (s.getLast?.or before) rest).text := by
  induction s generalizing before with
  | nil => rfl
  | cons c s ih =>
    have hlast : s.getLast?.or (some c) = (c :: s).getLast?.or before := by
      cases h : s.getLast? <;> simp [List.getLast?_cons, h]
    rw [List.map_cons, List.cons_append, fillPieces, ih, hlast, List.cons_append]

theorem text_fillPieces_placeholder (reserved : Reserved) (lookup : String → Option String)
    (before : Option Char) (name : String) (rest : List Piece) :
    (fillPieces reserved lookup before (.placeholder name :: rest)).text =
      replacement (enclosing? before (firstChar? rest)) name ((reserved name).or (lookup name)) ++
        (fillPieces reserved lookup none rest).text := by
  rw [fillPieces]
  cases reserved name with
  | none => rfl
  | some value => rfl

/-- A placeholder without a value stays as it is written. -/
theorem text_fillPieces_of_eq_none {task name : String} {lookup : String → Option String}
    (hname : name ≠ taskName) (hnone : lookup name = none) (before : Option Char)
    (rest : List Piece) :
    (fillPieces (taskReserved task) lookup before (.placeholder name :: rest)).text =
      (Piece.placeholder name).source ++
        (fillPieces (taskReserved task) lookup none rest).text := by
  rw [text_fillPieces_placeholder, taskReserved, if_neg hname, hnone]
  rfl

end CrontabRenderer.Template

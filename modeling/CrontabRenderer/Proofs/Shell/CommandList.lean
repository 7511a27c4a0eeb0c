import CrontabRenderer.Job
import Mathlib.Data.List.Induction
import Mathlib.Tactic.Common

/-!
# Lists of commands

How a shell reads and runs a row of commands with `&&` and `;` between them. Both operators take the
nearest operands on their left, and `&&` binds tighter than `;`, so a list is made of and-or lists.
A row is read in one way only (`row_eq_iff`). A command runs if every command before it succeeds
from which `&&` alone leads to it (`run_ofOperators`).
-/
namespace CrontabRenderer.Shell

/-- Commands with `&&` between them. -/
inductive AndOr (α : Type) where
  | command (operand : α)
  | and (left : AndOr α) (operand : α)

/-- And-or lists with `;` between them. -/
inductive CommandList (α : Type) where
  | single (list : AndOr α)
  | sequence (left : CommandList α) (list : AndOr α)

/-- What a run leaves: the exit status, and the commands that ran, in order. -/
structure Run (α : Type) where
  status : Nat
  ran : List α

variable {α : Type}

namespace AndOr

def text (name : α → String) : AndOr α → String
  | command operand => name operand
  | and left operand => JoinOperator.and.join (left.text name) (name operand)

/-- The first operand, and each further one behind its operator. -/
def row : AndOr α → α × List (JoinOperator × α)
  | command operand => (operand, [])
  | and left operand => (left.row.1, left.row.2 ++ [(.and, operand)])

/-- A command behind `&&` is skipped, and the status kept, unless the status is that of success. -/
def run (exit : α → Nat) : AndOr α → Run α
  | command operand => ⟨exit operand, [operand]⟩
  | and left operand =>
    let before := left.run exit
    if before.status = 0 then ⟨exit operand, before.ran ++ [operand]⟩ else before

end AndOr

namespace CommandList

def text (name : α → String) : CommandList α → String
  | single list => list.text name
  | sequence left list => JoinOperator.sequence.join (left.text name) (list.text name)

def row : CommandList α → α × List (JoinOperator × α)
  | single list => list.row
  | sequence left list => (left.row.1, left.row.2 ++ (.sequence, list.row.1) :: list.row.2)

def run (exit : α → Nat) : CommandList α → Run α
  | single list => list.run exit
  | sequence left list =>
    let before := left.run exit
    let after := list.run exit
    ⟨after.status, before.ran ++ after.ran⟩

/-- Reads one more operator and operand at the right end. -/
def push : CommandList α → JoinOperator → α → CommandList α
  | single list, .and, operand => single (list.and operand)
  | sequence left list, .and, operand => sequence left (list.and operand)
  | list, .sequence, operand => sequence list (.command operand)

def pushAll (list : CommandList α) (rest : List (JoinOperator × α)) : CommandList α :=
  rest.foldl (fun list next => list.push next.1 next.2) list

/-- Reads a row from the left. -/
def ofRow (first : α) (rest : List (JoinOperator × α)) : CommandList α :=
  (single (.command first)).pushAll rest

@[simp] theorem pushAll_nil (list : CommandList α) : list.pushAll [] = list := rfl

@[simp] theorem pushAll_append (list : CommandList α) (rest more : List (JoinOperator × α)) :
    list.pushAll (rest ++ more) = (list.pushAll rest).pushAll more := List.foldl_append

@[simp] theorem pushAll_cons (list : CommandList α) (next : JoinOperator × α)
    (rest : List (JoinOperator × α)) :
    list.pushAll (next :: rest) = (list.push next.1 next.2).pushAll rest := rfl

theorem row_push (list : CommandList α) (operator : JoinOperator) (operand : α) :
    (list.push operator operand).row = (list.row.1, list.row.2 ++ [(operator, operand)]) := by
  cases list <;> cases operator <;> simp [push, row, AndOr.row]

theorem row_pushAll (list : CommandList α) (rest : List (JoinOperator × α)) :
    (list.pushAll rest).row = (list.row.1, list.row.2 ++ rest) := by
  induction rest generalizing list with
  | nil => simp
  | cons next rest ih => simp [ih, row_push]

theorem pushAll_row_and (list : AndOr α) :
    (single (.command list.row.1)).pushAll list.row.2 = single list ∧
      ∀ left, (sequence left (.command list.row.1)).pushAll list.row.2 = sequence left list := by
  induction list with
  | command operand => exact ⟨rfl, fun left => rfl⟩
  | and list operand ih =>
    obtain ⟨hsingle, hsequence⟩ := ih
    refine ⟨?_, fun left => ?_⟩
    · simp [AndOr.row, hsingle, push]
    · simp [AndOr.row, hsequence left, push]

theorem ofRow_row (list : CommandList α) : ofRow list.row.1 list.row.2 = list := by
  induction list with
  | single list => exact (pushAll_row_and list).1
  | sequence left list ih =>
    rw [ofRow] at ih ⊢
    simp [row, ih, push, (pushAll_row_and list).2 left]

/-- A row is read in one way only. -/
theorem row_eq_iff {list : CommandList α} {first : α} {rest : List (JoinOperator × α)} :
    list.row = (first, rest) ↔ list = ofRow first rest := by
  constructor
  · intro h
    rw [← ofRow_row list, h]
  · rintro rfl
    simp [ofRow, row_pushAll, row, AndOr.row]

theorem text_push (name : α → String) (list : CommandList α) (operator : JoinOperator)
    (operand : α) :
    (list.push operator operand).text name = operator.join (list.text name) (name operand) := by
  cases list <;> cases operator <;>
    simp [push, text, AndOr.text, JoinOperator.join, String.append_assoc]

theorem text_pushAll (name : α → String) (list : CommandList α) (rest : List (JoinOperator × α)) :
    (list.pushAll rest).text name =
      rest.foldl (fun line next => next.1.join line (name next.2)) (list.text name) := by
  induction rest generalizing list with
  | nil => rfl
  | cons next rest ih => rw [pushAll_cons, ih, text_push, List.foldl_cons]

/-- The status of a list is that of its last and-or list, so a pushed `&&` looks at all of it. -/
theorem run_push_and (exit : α → Nat) (list : CommandList α) (operand : α) :
    (list.push .and operand).run exit =
      if (list.run exit).status = 0 then ⟨exit operand, (list.run exit).ran ++ [operand]⟩
      else list.run exit := by
  cases list with
  | single list => rfl
  | sequence left list =>
    by_cases h : (list.run exit).status = 0 <;> simp [push, run, AndOr.run, h]

theorem run_push_sequence (exit : α → Nat) (list : CommandList α) (operand : α) :
    (list.push .sequence operand).run exit = ⟨exit operand, (list.run exit).ran ++ [operand]⟩ := by
  cases list <;> rfl

/-- The list of the commands `0`, `1`, and so on, with these operators between them. -/
def ofOperators (operators : List JoinOperator) : CommandList Nat :=
  ofRow 0 (operators.zipIdx 1)

theorem ofOperators_append_singleton (operators : List JoinOperator) (operator : JoinOperator) :
    ofOperators (operators ++ [operator]) =
      (ofOperators operators).push operator (operators.length + 1) := by
  simp [ofOperators, ofRow, List.zipIdx_append, Nat.add_comm]

/-- Every command before the `n`th succeeds from which `&&` alone leads to it. -/
def Reached (operators : List JoinOperator) (exit : Nat → Nat) (n : Nat) : Prop :=
  ∀ m < n, (∀ l, m ≤ l → l < n → operators[l]? = some .and) → exit m = 0

theorem reached_append_singleton {operators : List JoinOperator} {exit : Nat → Nat} {n : Nat}
    (operator : JoinOperator) (hn : n ≤ operators.length) :
    Reached (operators ++ [operator]) exit n ↔ Reached operators exit n := by
  have hsame : ∀ l, l < n → (operators ++ [operator])[l]? = operators[l]? := fun l hl =>
    List.getElem?_append_left (by omega)
  constructor
  · intro h m hm hand
    exact h m hm fun l hml hl => by rw [hsame l hl]; exact hand l hml hl
  · intro h m hm hand
    exact h m hm fun l hml hl => by rw [← hsame l hl]; exact hand l hml hl

theorem reached_succ_and {operators : List JoinOperator} {exit : Nat → Nat} :
    Reached (operators ++ [.and]) exit (operators.length + 1) ↔
      Reached operators exit operators.length ∧ exit operators.length = 0 := by
  have hlast : (operators ++ [JoinOperator.and])[operators.length]? = some .and := by simp
  constructor
  · intro h
    refine ⟨(reached_append_singleton .and (Nat.le_refl _)).1 fun m hm hand => ?_, ?_⟩
    · refine h m (by omega) fun l hml hl => ?_
      rcases Nat.lt_succ_iff_lt_or_eq.1 hl with hl | rfl
      · exact hand l hml hl
      · exact hlast
    · refine h _ (by omega) fun l hml hl => ?_
      rw [show l = operators.length by omega]
      exact hlast
  · rintro ⟨h, hexit⟩ m hm hand
    rcases Nat.lt_succ_iff_lt_or_eq.1 hm with hm | rfl
    · exact (reached_append_singleton .and (Nat.le_refl _)).2 h m hm fun l hml hl =>
        hand l hml (by omega)
    · exact hexit

theorem reached_succ_sequence (operators : List JoinOperator) (exit : Nat → Nat) :
    Reached (operators ++ [.sequence]) exit (operators.length + 1) := by
  intro m hm hand
  have hlast := hand operators.length (by omega) (by omega)
  simp at hlast

/-- A pushed command runs if it is reached; if not, it leaves a run that has failed as it was. -/
theorem run_push_of_reached {operators : List JoinOperator} {exit : Nat → Nat}
    (hstatus : ((ofOperators operators).run exit).status = 0 ↔
      Reached operators exit operators.length ∧ exit operators.length = 0)
    (operator : JoinOperator) :
    let before := (ofOperators operators).run exit
    let after := ((ofOperators operators).push operator (operators.length + 1)).run exit
    (Reached (operators ++ [operator]) exit (operators.length + 1) ∧
      after = ⟨exit (operators.length + 1), before.ran ++ [operators.length + 1]⟩) ∨
    (¬Reached (operators ++ [operator]) exit (operators.length + 1) ∧
      before.status ≠ 0 ∧ after = before) := by
  cases operator with
  | and =>
    rw [reached_succ_and, run_push_and, ← hstatus]
    by_cases h : ((ofOperators operators).run exit).status = 0
    · exact .inl ⟨h, if_pos h⟩
    · exact .inr ⟨h, h, if_neg h⟩
  | sequence => exact .inl ⟨reached_succ_sequence operators exit, run_push_sequence exit _ _⟩

/-- What a run of the list leaves: the commands that were reached, and success if the last command
was reached and succeeded. -/
theorem run_ofOperators (operators : List JoinOperator) (exit : Nat → Nat) :
    (∀ n, n ∈ ((ofOperators operators).run exit).ran ↔
      n ≤ operators.length ∧ Reached operators exit n) ∧
    (((ofOperators operators).run exit).status = 0 ↔
      Reached operators exit operators.length ∧ exit operators.length = 0) := by
  induction operators using List.reverseRecOn with
  | nil =>
    have hfirst : Reached [] exit 0 := fun m hm => absurd hm (Nat.not_lt_zero m)
    refine ⟨fun n => ?_, ?_⟩
    · simp only [ofOperators, ofRow, List.zipIdx_nil, pushAll_nil, run, AndOr.run,
        List.mem_singleton, List.length_nil, Nat.le_zero]
      exact ⟨fun h => ⟨h, h ▸ hfirst⟩, fun h => h.1⟩
    · exact ⟨fun h => ⟨hfirst, h⟩, fun h => h.2⟩
  | append_singleton operators operator ih =>
    obtain ⟨hran, hstatus⟩ := ih
    have hold : ∀ n, n ∈ ((ofOperators operators).run exit).ran ↔
        n ≤ operators.length ∧ Reached (operators ++ [operator]) exit n := fun n => by
      rw [hran]
      exact and_congr_right fun hn => (reached_append_singleton operator hn).symm
    rw [ofOperators_append_singleton, List.length_append, List.length_singleton]
    rcases run_push_of_reached hstatus operator with ⟨hreached, hrun⟩ | ⟨hmissed, hfailed, hrun⟩
    · rw [hrun]
      refine ⟨fun n => ?_, (and_iff_right hreached).symm⟩
      rw [List.mem_append, List.mem_singleton, hold, Nat.le_succ_iff]
      constructor
      · rintro (⟨hn, h⟩ | rfl)
        · exact ⟨.inl hn, h⟩
        · exact ⟨.inr rfl, hreached⟩
      · rintro ⟨hn | rfl, h⟩
        · exact .inl ⟨hn, h⟩
        · exact .inr rfl
    · rw [hrun]
      refine ⟨fun n => ?_, fun h => absurd h hfailed, fun h => absurd h.1 hmissed⟩
      rw [hold, Nat.le_succ_iff]
      constructor
      · rintro ⟨hn, h⟩
        exact ⟨.inl hn, h⟩
      · rintro ⟨hn | rfl, h⟩
        · exact ⟨hn, h⟩
        · exact absurd h hmissed

end CommandList

end CrontabRenderer.Shell

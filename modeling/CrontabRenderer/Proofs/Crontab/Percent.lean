import CrontabRenderer.Crontab
import CrontabRenderer.Proofs.Text.Backslashes

/-!
# Percent signs in a crontab

Cron reads the command part of a line from the left. A backslash escapes the character behind it,
and the first percent sign that is not escaped ends the command. A percent sign that stands behind
an odd number of backslashes in a command loses its escape when one more is written in front of it.
So cron reads a command back just if it has no such percent sign, and cuts it off at the first one
otherwise (`line_percents`).
-/
namespace CrontabRenderer.Crontab

/-- How far cron has read the command part of a line. -/
structure CommandReader where
  command : List Char := []
  /-- The last character is a backslash that escapes the next one. -/
  escaped : Bool := false
  /-- What stands behind the percent sign that ended the command. -/
  input? : Option (List Char) := none

namespace CommandReader

/-- An escaped percent sign is read without its backslash, everything else as it is. -/
def step (reader : CommandReader) (c : Char) : CommandReader :=
  match reader.input? with
  | some input => { reader with input? := some (input ++ [c]) }
  | none =>
    if reader.escaped then
      { reader with
        command := reader.command ++ (if c = '%' then ['%'] else ['\\', c])
        escaped := false }
    else if c = '\\' then { reader with escaped := true }
    else if c = '%' then { reader with input? := some [] }
    else { reader with command := reader.command ++ [c] }

def run (reader : CommandReader) (s : List Char) : CommandReader := s.foldl step reader

/-- The command that is read so far; a backslash with nothing behind it stays. -/
def taken (reader : CommandReader) : List Char :=
  reader.command ++ if reader.escaped then ['\\'] else []

theorem run_append (reader : CommandReader) (s t : List Char) :
    reader.run (s ++ t) = (reader.run s).run t := by
  simp [run, List.foldl_append]

/-- Behind the end of the command everything is input. -/
theorem run_input (command input s : List Char) (escaped : Bool) :
    run ⟨command, escaped, some input⟩ s = ⟨command, escaped, some (input ++ s)⟩ := by
  induction s generalizing input with
  | nil => simp [run]
  | cons c s ih =>
    have hcons : run ⟨command, escaped, some input⟩ (c :: s) =
        run ⟨command, escaped, some (input ++ [c])⟩ s := rfl
    rw [hcons, ih, List.append_assoc, List.singleton_append]

/-- The reader has taken the text for a command, and has not come to its end. -/
structure HasTaken (reader : CommandReader) (s : List Char) : Prop where
  taken : reader.taken = s
  escaped : reader.escaped = true ↔ Odd (Text.finalBackslashes s)
  input : reader.input? = none

theorem hasTaken_nil : HasTaken {} [] := ⟨rfl, by simp, rfl⟩

variable {reader : CommandReader} {s : List Char}

/-- Another character than a percent sign is taken as it is, escaped or not. -/
theorem HasTaken.step (h : reader.HasTaken s) {c : Char} (hc : c ≠ '%') :
    (reader.step c).HasTaken (s ++ [c]) := by
  obtain ⟨command, escaped, _⟩ := reader
  obtain ⟨rfl, hescaped, rfl⟩ := h
  cases escaped with
  | true =>
    have hstep : CommandReader.step ⟨command, true, none⟩ c =
        ⟨command ++ ['\\', c], false, none⟩ := by simp [CommandReader.step, hc]
    have hodd := hescaped.1 rfl
    rw [hstep]
    refine ⟨by simp [CommandReader.taken], ?_, rfl⟩
    rw [Text.finalBackslashes_append_singleton]
    split <;> simp [Nat.odd_add_one, hodd]
  | false =>
    have heven : ¬Odd (Text.finalBackslashes (CommandReader.taken ⟨command, false, none⟩)) := by
      simpa using hescaped
    by_cases hbackslash : c = '\\'
    · subst hbackslash
      refine ⟨by simp [CommandReader.step, CommandReader.taken], ?_, rfl⟩
      rw [Text.finalBackslashes_append_singleton]
      simpa [CommandReader.step, Nat.odd_add_one] using heven
    · have hstep : CommandReader.step ⟨command, false, none⟩ c = ⟨command ++ [c], false, none⟩ := by
        simp [CommandReader.step, hc, hbackslash]
      rw [hstep]
      exact ⟨by simp [CommandReader.taken], by simp [hbackslash], rfl⟩

/-- The backslash in front of a percent sign escapes it if it is not escaped itself. -/
theorem HasTaken.run_percent (h : reader.HasTaken s) (heven : Even (Text.finalBackslashes s)) :
    (reader.run ['\\', '%']).HasTaken (s ++ ['%']) := by
  obtain ⟨command, escaped, _⟩ := reader
  obtain ⟨rfl, hescaped, rfl⟩ := h
  have hnot := Nat.not_odd_iff_even.2 heven
  obtain rfl : escaped = false := by simpa [hnot] using hescaped
  exact ⟨by simp [run, CommandReader.step, CommandReader.taken], by simp [run, CommandReader.step],
    rfl⟩

/-- Otherwise the percent sign ends the command, and both backslashes belong to the command. -/
theorem HasTaken.run_cut (h : reader.HasTaken s) (hodd : Odd (Text.finalBackslashes s))
    (rest : List Char) :
    reader.run (['\\', '%'] ++ rest) = ⟨s ++ ['\\'], false, some rest⟩ := by
  obtain ⟨command, escaped, _⟩ := reader
  obtain ⟨rfl, hescaped, rfl⟩ := h
  obtain rfl : escaped = true := hescaped.2 hodd
  have hstart : run ⟨command, true, none⟩ ['\\', '%'] =
      ⟨command ++ ['\\', '\\'], false, some []⟩ := rfl
  rw [run_append, hstart, run_input]
  simp [CommandReader.taken]

/-- A command without an escaped percent sign is taken as it was before it was written. -/
theorem hasTaken_run_escape (h : Text.NoneEscaped '%' s) :
    (run {} (Text.replaceChar '%' ['\\', '%'] s)).HasTaken s := by
  induction s using List.reverseRecOn with
  | nil => exact hasTaken_nil
  | append_singleton s c ih =>
    obtain ⟨hs, hlast⟩ := Text.beforeEach_append_singleton.1 h
    by_cases hc : c = '%'
    · rw [hc, Text.replaceChar_append_mark, List.append_assoc, run_append]
      exact (ih hs).run_percent (hlast hc)
    · rw [Text.replaceChar_append_of_ne hc, run_append]
      exact (ih hs).step hc

end CommandReader

/-- What cron reads: the command, and the input that a percent sign cuts off it. -/
def readCommand (part : List Char) : List Char × Option (List Char) :=
  let reader := CommandReader.run {} part
  (reader.taken, reader.input?)

theorem readCommand_escape {s : List Char} (h : Text.NoneEscaped '%' s) :
    readCommand (Text.replaceChar '%' ['\\', '%'] s) = (s, none) := by
  have htaken := CommandReader.hasTaken_run_escape h
  rw [readCommand, htaken.taken, htaken.input]

theorem readCommand_escape_of_escaped {front back : List Char} (hfront : Text.NoneEscaped '%' front)
    (hodd : Odd (Text.finalBackslashes front)) :
    readCommand (Text.replaceChar '%' ['\\', '%'] (front ++ '%' :: back)) =
      (front ++ ['\\'], some (Text.replaceChar '%' ['\\', '%'] back)) := by
  have hsplit : Text.replaceChar '%' ['\\', '%'] (front ++ '%' :: back) =
      Text.replaceChar '%' ['\\', '%'] front ++
        (['\\', '%'] ++ Text.replaceChar '%' ['\\', '%'] back) :=
    Text.replaceChar_append_cons '%' ['\\', '%'] front '%' back
  have htaken := CommandReader.hasTaken_run_escape hfront
  rw [readCommand, hsplit, CommandReader.run_append, htaken.run_cut hodd]
  simp [CommandReader.taken]

/-- On a line, every percent sign of the command is escaped, and cron reads the squished command
back, just if no percent sign of the squished command is escaped already. Otherwise the first of
those that are ends the command, behind one backslash more than the command has there. -/
theorem line_percents (expression command : String) :
    let squished := (Text.squish command).toList
    ∃ part, (line expression command).toList = (Text.trim expression).toList ++ ' ' :: part ∧
      (Text.AllEscaped '%' part ↔ Text.NoneEscaped '%' squished) ∧
      (readCommand part = (squished, none) ↔ Text.NoneEscaped '%' squished) ∧
      ∀ front back, squished = front ++ '%' :: back → Text.NoneEscaped '%' front →
        Odd (Text.finalBackslashes front) →
          readCommand part = (front ++ ['\\'], some (Text.replaceChar '%' ['\\', '%'] back)) := by
  intro squished
  refine ⟨Text.replaceChar '%' ['\\', '%'] squished, ?_, ?_, ⟨fun hread => ?_, ?_⟩, ?_⟩
  · simp [line, cleanCommand, String.toList_append, squished]
  · exact Text.allEscaped_replaceChar_iff (by decide)
  · by_contra hescaped
    obtain ⟨front, back, hsplit, hodd, hfront⟩ := Text.exists_first_of_not_beforeEach hescaped
    rw [hsplit, readCommand_escape_of_escaped hfront (Nat.not_even_iff_odd.1 hodd)] at hread
    cases (Prod.mk.inj hread).2
  · exact readCommand_escape
  · intro front back hsplit hfront hodd
    rw [hsplit]
    exact readCommand_escape_of_escaped hfront hodd

/-- The percent sign had its backslash before; with the one that is written in front of it, cron
takes the first for an escape of the second and ends the command at the percent sign. -/
theorem line_percent_escaped_before :
    let part := "date +\\\\%Y".toList
    line "@daily" "date +\\%Y" = "@daily " ++ String.ofList part ∧
      ¬Text.AllEscaped '%' part ∧
      readCommand part = ("date +\\\\".toList, some "Y".toList) ∧
      readCommand part ≠ ((Text.squish "date +\\%Y").toList, none) := by
  decide +kernel

end CrontabRenderer.Crontab

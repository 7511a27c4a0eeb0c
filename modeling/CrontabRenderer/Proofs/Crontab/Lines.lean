import CrontabRenderer.Crontab
import CrontabRenderer.Proofs.Results
import CrontabRenderer.Proofs.Schedule.Accepted

/-!
# The lines of a crontab

Every job outside any other job is written with its time expression, its cleaned command and a
newline (`Crontab.render_forall₂`). A cleaned command has no blank but the space; an accepted
expression may have any blank between its words. So the text has a line more for every newline in an
expression, and its lines are those of the jobs, with expressions as the crontab reads them, just if
no expression has another blank than the space and the tab (`Crontab.render_readsBack_iff`).
-/
namespace CrontabRenderer

namespace JobList

/-- The jobs outside any other job with their schedules, in the order of their lines. -/
def rows (list : JobList) : List (Schedule × Job) :=
  list.entries.flatMap fun entry => entry.jobs.map (entry.schedule, ·)

theorem length_rows (list : JobList) : list.rows.length = list.jobCount := by
  simp [rows, jobCount, List.length_flatMap]

theorem forall_mem_rows {list : JobList} {p : Schedule → Prop}
    (h : ∀ entry ∈ list.entries, p entry.schedule) : ∀ row ∈ list.rows, p row.1 := by
  intro row hrow
  obtain ⟨entry, hentry, hrow⟩ := List.mem_flatMap.1 hrow
  obtain ⟨job, -, rfl⟩ := List.mem_map.1 hrow
  exact h entry hentry

end JobList

namespace Crontab

/-- A cleaned command has no blank but the space. -/
theorem eq_space_of_mem_cleanCommand {c : Char} {command : String}
    (h : c ∈ (cleanCommand command).toList) (hc : Text.isBlank c = true) : c = ' ' := by
  rw [cleanCommand, String.toList_ofList] at h
  rcases Text.mem_replaceChar h with h | h
  · rw [Text.squish, String.toList_ofList] at h
    exact Text.eq_space_of_mem_squishChars h hc
  · have hescape : c = '\\' ∨ c = '%' := by simpa using h
    rcases hescape with rfl | rfl <;> exact absurd hc (by decide)

/-- The line holds the time expression, a space and the cleaned command of the row. -/
def Writes (scope : Scope) (row : Schedule × Job) (line : String) : Prop :=
  ∃ command, scope.renderJob row.2 = .ok command ∧
    line = row.1.expression ++ " " ++ cleanCommand command

theorem renderEntry_eq_ok {scope : Scope} {entry : Entry} {rendered : RenderedEntry}
    (h : scope.renderEntry entry = .ok rendered) :
    rendered.expression = entry.schedule.expression ∧
      List.Forall₂ (fun job command => scope.renderJob job = .ok command) entry.jobs
        rendered.commands := by
  obtain ⟨_, -, h⟩ := bind_eq_ok_iff.1 h
  obtain ⟨commands, hcommands, h⟩ := bind_eq_ok_iff.1 h
  cases h
  exact ⟨rfl, mapM_eq_ok_iff.1 hcommands⟩

/-- The lines of an entry, in the order of its jobs. -/
theorem forall₂_writes_of_renderEntry {scope : Scope} {entry : Entry} {rendered : RenderedEntry}
    (haccepted : entry.schedule.IsAccepted) (h : scope.renderEntry entry = .ok rendered) :
    List.Forall₂ (Writes scope) (entry.jobs.map (entry.schedule, ·))
      (rendered.commands.map (line rendered.expression)) := by
  obtain ⟨hexpression, hcommands⟩ := renderEntry_eq_ok h
  rw [List.forall₂_map_left_iff, List.forall₂_map_right_iff]
  apply hcommands.imp
  intro job command hcommand
  refine ⟨command, hcommand, ?_⟩
  rw [line, hexpression, haccepted.trim_expression]

/-- The crontab is the lines of the rows in their order, with a newline behind each. -/
theorem render_forall₂ {base : Scope} {list : JobList} {text : String}
    (haccepted : ∀ entry ∈ list.entries, entry.schedule.IsAccepted)
    (h : render base list = .ok text) :
    ∃ lines, List.Forall₂ (Writes (base.forList list)) list.rows lines ∧
      text = String.join (lines.map (· ++ "\n")) := by
  obtain ⟨entries, hentries, h⟩ := bind_eq_ok_iff.1 h
  cases h
  refine ⟨lines entries, ?_, rfl⟩
  have hrendered := mapM_eq_ok_iff.1 hentries
  have hlines : List.Forall₂ (fun entry rendered => entry.schedule.IsAccepted ∧
      (base.forList list).renderEntry entry = .ok rendered) list.entries entries :=
    (List.forall₂_and_left ..).2 ⟨haccepted, hrendered⟩
  rw [JobList.rows, lines]
  apply List.rel_flatMap hlines
  intro entry rendered hentry
  exact forall₂_writes_of_renderEntry hentry.1 hentry.2

theorem Writes.toList_line {scope : Scope} {row : Schedule × Job} {line : String}
    (h : Writes scope row line) : ∃ command, line.toList =
      row.1.expression.toList ++ ' ' :: (cleanCommand command).toList := by
  obtain ⟨command, -, rfl⟩ := h
  exact ⟨command, by simp [String.toList_append]⟩

/-- A blank of a line that is no space is one of its time expression. -/
theorem Writes.mem_expression {scope : Scope} {row : Schedule × Job} {line : String} {c : Char}
    (h : Writes scope row line) (hmem : c ∈ line.toList) (hc : Text.isBlank c = true)
    (hspace : c ≠ ' ') : c ∈ row.1.expression.toList := by
  obtain ⟨command, hline⟩ := h.toList_line
  rw [hline, List.mem_append, List.mem_cons] at hmem
  rcases hmem with hmem | rfl | hmem
  · exact hmem
  · exact absurd rfl hspace
  · exact absurd (eq_space_of_mem_cleanCommand hmem hc) hspace

theorem Writes.count_newline {scope : Scope} {row : Schedule × Job} {line : String}
    (h : Writes scope row line) :
    line.toList.count '\n' = row.1.expression.toList.count '\n' := by
  obtain ⟨command, hline⟩ := h.toList_line
  have hcommand : '\n' ∉ (cleanCommand command).toList := fun hmem =>
    absurd (eq_space_of_mem_cleanCommand hmem (by decide)) (by decide)
  rw [hline, List.count_append, List.count_cons, List.count_eq_zero.2 hcommand]
  simp

theorem toList_join_lines (lines : List String) :
    (String.join (lines.map (· ++ "\n"))).toList =
      lines.flatMap fun line => line.toList ++ ['\n'] := by
  simp [String.toList_join, List.flatMap_map, String.toList_append]

theorem length_splitOn {α : Type} [BEq α] [LawfulBEq α] (a : α) (s : List α) :
    (s.splitOn a).length = s.count a + 1 := by
  induction s with
  | nil => rfl
  | cons b s ih =>
    rw [List.splitOn_cons_eq_if_modifyHead, List.count_cons]
    split <;> simp [ih]

theorem splitOn_flatMap_lines {lines : List String} (h : ∀ line ∈ lines, '\n' ∉ line.toList) :
    (lines.flatMap fun line => line.toList ++ ['\n']).splitOn '\n' =
      lines.map String.toList ++ [[]] := by
  induction lines with
  | nil => rfl
  | cons line lines ih =>
    obtain ⟨hline, hlines⟩ := List.forall_mem_cons.1 h
    rw [List.flatMap_cons, List.append_assoc, List.singleton_append,
      List.splitOn_append_cons_self_of_not_mem hline, ih hlines]
    rfl

/-- A time expression as the crontab reads it at the head of a line: a shortcut, or five words with
spaces and tabs between them. -/
def IsTimeExpression (expression : String) : Prop :=
  Text.trim expression = expression ∧
    (∀ c ∈ expression.toList, Text.isBlank c = true → c = ' ' ∨ c = '\t') ∧
    ((expression.toList.head? = some '@' ∧ ∀ c ∈ expression.toList, Text.isBlank c = false) ∨
      (Text.wordsOf expression.toList).length = 5)

/-- Splitting the text at the newlines gives a line for every job, in order, and nothing behind the
last newline; every line holds the time expression and the cleaned command of its job. -/
def ReadsBack (base : Scope) (list : JobList) (text : String) : Prop :=
  ∃ lines : List String, text.toList.splitOn '\n' = lines.map String.toList ++ [[]] ∧
    lines.length = list.jobCount ∧
    List.Forall₂ (fun row line => IsTimeExpression row.1.expression ∧
      Writes (base.forList list) row line) list.rows lines ∧
    ∀ line ∈ lines, '\n' ∉ line.toList ∧ '\r' ∉ line.toList

theorem count_newline_of_forall₂ {scope : Scope} {rows : List (Schedule × Job)}
    {lines : List String} (h : List.Forall₂ (Writes scope) rows lines) :
    (lines.flatMap fun line => line.toList ++ ['\n']).count '\n' =
      rows.length + (rows.flatMap (·.1.expression.toList)).count '\n' := by
  induction h with
  | nil => rfl
  | cons hline hlines ih =>
    rw [List.flatMap_cons, List.flatMap_cons, List.count_append, List.count_append,
      List.count_append, hline.count_newline, ih, List.length_cons]
    simp
    omega

/-- With spaces and tabs alone in the expressions no line goes on to the next one. -/
theorem not_mem_of_forall₂ {scope : Scope} {rows : List (Schedule × Job)} {lines : List String}
    (h : List.Forall₂ (Writes scope) rows lines)
    (hblanks : ∀ row ∈ rows, ∀ c ∈ row.1.expression.toList,
      Text.isBlank c = true → c = ' ' ∨ c = '\t')
    {c : Char} (hc : Text.isBlank c = true) (hspace : c ≠ ' ') (htab : c ≠ '\t') :
    ∀ line ∈ lines, c ∉ line.toList := by
  intro line hline hmem
  obtain ⟨row, hrow, hwrites⟩ := exists_left_of_forall₂ h hline
  rcases hblanks row hrow c (hwrites.mem_expression hmem hc hspace) hc with heq | heq
  · exact hspace heq
  · exact htab heq

/-- The crontab of a list with accepted schedules has a line for every job, and one more for every
newline in an expression. It reads back line by line just if every blank in an expression is a space
or a tab. -/
theorem render_readsBack_iff {base : Scope} {list : JobList} {text : String}
    (haccepted : ∀ entry ∈ list.entries, entry.schedule.IsAccepted)
    (h : render base list = .ok text) :
    (∃ lines, List.Forall₂ (Writes (base.forList list)) list.rows lines ∧
      text = String.join (lines.map (· ++ "\n"))) ∧
    (text.toList.splitOn '\n').length = list.jobCount + 1 +
      (list.rows.flatMap (·.1.expression.toList)).count '\n' ∧
    (ReadsBack base list text ↔ ∀ row ∈ list.rows, ∀ c ∈ row.1.expression.toList,
      Text.isBlank c = true → c = ' ' ∨ c = '\t') := by
  obtain ⟨lines, hlines, rfl⟩ := render_forall₂ haccepted h
  refine ⟨⟨lines, hlines, rfl⟩, ?_, ?_, fun hblanks => ?_⟩
  · rw [length_splitOn, toList_join_lines, count_newline_of_forall₂ hlines, list.length_rows]
    omega
  · rintro ⟨lines', -, -, hrows, -⟩ row hrow
    have hexpressions := (List.forall₂_and_left ..).1 hrows
    exact (hexpressions.1 row hrow).2.1
  · have hnewline : ∀ line ∈ lines, '\n' ∉ line.toList :=
      not_mem_of_forall₂ hlines hblanks (by decide) (by decide) (by decide)
    have hreturn : ∀ line ∈ lines, '\r' ∉ line.toList :=
      not_mem_of_forall₂ hlines hblanks (by decide) (by decide) (by decide)
    refine ⟨lines, ?_, ?_, ?_, fun line hline => ⟨hnewline line hline, hreturn line hline⟩⟩
    · rw [toList_join_lines, splitOn_flatMap_lines hnewline]
    · rw [← hlines.length_eq, list.length_rows]
    · refine (List.forall₂_and_left ..).2 ⟨fun row hrow => ?_, hlines⟩
      have hrow' := list.forall_mem_rows haccepted row hrow
      exact ⟨hrow'.trim_expression, hblanks row hrow, hrow'.words⟩

/-- The timetable of midnight, every day. -/
def midnight : Schedule.Timetable where
  seconds := [⟨0, 0, 1⟩]
  minutes := [⟨0, 0, 1⟩]
  hours := [⟨0, 0, 1⟩]
  daysOfMonth := Schedule.Field.dayOfMonth.allNumbers
  months := Schedule.Field.month.allNumbers
  daysOfWeek := Schedule.Field.dayOfWeek.allNumbers
  years := Schedule.Field.year.allNumbers

/-- A crontab with a tab in one expression and newlines and percent signs in its tasks. -/
theorem render_readsBack_tab :
    let base : Scope := { jobTypes := .ofList [("say", ":task")] }
    let list : JobList := { entries := [
      ⟨⟨"@Reboot", .reboot⟩, [{ type := "say", task := "a\n%b" }, { type := "say", task := "c" }]⟩,
      ⟨⟨"0 0\t* * *", .timetable midnight⟩, [{ type := "say", task := " d\r\n" }]⟩] }
    (∀ entry ∈ list.entries, entry.schedule.IsAccepted) ∧
      render base list = .ok "@Reboot a \\%b\n@Reboot c\n0 0\t* * * d\n" ∧
      ReadsBack base list "@Reboot a \\%b\n@Reboot c\n0 0\t* * * d\n" := by
  intro base list
  have haccepted : ∀ entry ∈ list.entries, entry.schedule.IsAccepted :=
    List.forall_mem_cons.2 ⟨⟨"@Reboot", by decide +kernel⟩,
      List.forall_mem_cons.2 ⟨⟨"0 0\t* * *", by decide +kernel⟩, by simp⟩⟩
  have htext : render base list = .ok "@Reboot a \\%b\n@Reboot c\n0 0\t* * * d\n" := by
    decide +kernel
  have hblanks : ∀ row ∈ list.rows, ∀ c ∈ row.1.expression.toList,
      Text.isBlank c = true → c = ' ' ∨ c = '\t' := by
    simp [JobList.rows, list, Text.isBlank]
  exact ⟨haccepted, htext, (render_readsBack_iff haccepted htext).2.2.2 hblanks⟩

/-- The one job of the list stands on two lines, neither of which begins with a time expression. -/
theorem render_spills_over_newline :
    let schedule : Schedule := ⟨"0 0\n* * *", .timetable midnight⟩
    let base : Scope := { jobTypes := .ofList [("say", ":task")] }
    let list : JobList := { entries := [⟨schedule, [{ type := "say", task := "hi" }]⟩] }
    let text := "0 0\n* * * hi\n"
    Schedule.ofText "0 0\n* * *" = .ok schedule ∧ render base list = .ok text ∧
      list.jobCount = 1 ∧ text.toList.splitOn '\n' = ["0 0".toList, "* * * hi".toList, []] ∧
      ¬ReadsBack base list text := by
  intro schedule base list text
  refine ⟨by decide +kernel, by decide +kernel, rfl, by decide, ?_⟩
  rintro ⟨lines, -, -, hrows, -⟩
  obtain ⟨hexpression, -⟩ := (List.forall₂_and_left ..).1 hrows
  have hrow : (schedule, { type := "say", task := "hi" }) ∈ list.rows := by
    simp [JobList.rows, list]
  have hblanks := (hexpression _ hrow).2.1
  exact absurd (hblanks '\n' (by decide) (by decide)) (by decide)

end Crontab

end CrontabRenderer

import CrontabRenderer.Proofs.Template.Insertion

/-!
# Names that a template can address

A colon ends every name in front of it and begins a placeholder of its own, so what stands in front
of it has the pieces that it has alone (`IsFactoring.append_colon`). Therefore a name that is a word
can be put behind a colon anywhere in a template, and its value comes to stand there; of another name
no template has a placeholder, and its value changes no text (`isWord_iff_addressed`).
-/
namespace CrontabRenderer.Template

section Token

variable {before name after : String}

/-- No name goes on over a colon. -/
theorem startsWord_append_colon {s rest : List Char} :
    StartsWord (s ++ ':' :: rest) ↔ StartsWord s := by
  cases s with
  | nil =>
    have hcolon : Text.isWordChar ':' = false := by decide
    simp [StartsWord, hcolon]
  | cons c s => rfl

/-- The text in front of a colon has the same pieces as without what follows. -/
theorem IsFactoring.append_colon {before rest : List Char} {left right : List Piece}
    (h : IsFactoring before left) (hrest : IsFactoring (':' :: rest) right) :
    IsFactoring (before ++ ':' :: rest) (left ++ right) := by
  induction h with
  | nil => exact hrest
  | literal hplain _ ih =>
    exact .literal (fun hcolon => startsWord_append_colon.not.2 (hplain hcolon)) ih
  | placeholder hname hmaximal _ ih =>
    have hpiece := IsFactoring.placeholder hname (startsWord_append_colon.not.2 hmaximal) ih
    simpa using hpiece

/-- The token of a word is seen as a whole, and the text on both sides of it as it is alone. -/
theorem isFactoring_token (before : String) (hname : Text.isWord name = true)
    (hmaximal : ¬StartsWord after.toList) :
    IsFactoring (before ++ ":" ++ name ++ after).toList
      (piecesOf before.toList ++ .placeholder name :: piecesOf after.toList) := by
  have htoken : IsFactoring (':' :: name.toList ++ after.toList)
      (.placeholder name :: piecesOf after.toList) :=
    .placeholder hname hmaximal (isFactoring_piecesOf after.toList)
  have hpieces := (isFactoring_piecesOf before.toList).append_colon htoken
  simpa [String.toList_append] using hpieces

/-- Where no other name has a value, filling puts the value in the place of the token. -/
theorem IsFilled.toList_token {value? : String → Option String} {value text : String}
    (hfilled : IsFilled (before ++ ":" ++ name ++ after) value? text)
    (hname : Text.isWord name = true) (hmaximal : ¬StartsWord after.toList)
    (hvalue : value? name = some value)
    (hnone : ∀ other ∈ placeholders before ++ placeholders after, value? other = none) :
    text.toList =
      before.toList ++ insertion before.toList after.toList value ++ after.toList := by
  rw [List.forall_mem_append] at hnone
  have hleft : ∀ other ∈ namesOf (piecesOf before.toList), value? other = none :=
    fun other hother => hnone.1 other (mem_placeholders.2 (mem_namesOf.1 hother))
  have hright : ∀ other ∈ namesOf (piecesOf after.toList), value? other = none :=
    fun other hother => hnone.2 other (mem_placeholders.2 (mem_namesOf.1 hother))
  rw [hfilled.toList_eq (isFactoring_token before hname hmaximal),
    filledPieces_append_placeholder hvalue, textBefore, textBehind, filledBetween_eq_source hleft,
    filledBetween_eq_source hright, flatMap_source_piecesOf, flatMap_source_piecesOf,
    List.append_assoc]

/-- In the template of a job type this is so for every name but that of the task. -/
theorem toList_fill_token {task value : String} {lookup : String → Option String}
    (hname : Text.isWord name = true) (hmaximal : ¬StartsWord after.toList)
    (hreserved : name ≠ taskName) (hvalue : lookup name = some value)
    (hnone : ∀ other, other ≠ name → lookup other = none)
    (hothers : ∀ other ∈ placeholders before ++ placeholders after,
      other ≠ name ∧ other ≠ taskName) :
    (fill (before ++ ":" ++ name ++ after) task lookup).toList =
      before.toList ++ insertion before.toList after.toList value ++ after.toList := by
  apply (IsFilled.fill task lookup).toList_token hname hmaximal
  · simp [taskReserved, hreserved, hvalue]
  · intro other hother
    obtain ⟨hne, htask⟩ := hothers other hother
    simp [taskReserved, htask, hnone other hne]

end Token

variable {name template : String}

theorem isWord_of_mem_placeholders (h : name ∈ placeholders template) :
    Text.isWord name = true :=
  (isFactoring_piecesOf template.toList).isWord_of_mem (mem_placeholders.1 h)

/-- The value of a name that is no word is in no text. -/
theorem text_filling_of_not_isWord (hname : Text.isWord name = false) (reserved : Reserved)
    {lookup lookup' : String → Option String}
    (hsame : ∀ other, other ≠ name → lookup other = lookup' other) :
    (filling reserved template lookup).text = (filling reserved template lookup').text := by
  apply text_filling_congr
  intro other hother _
  apply hsame
  rintro rfl
  rw [isWord_of_mem_placeholders hother] at hname
  cases hname

/-- A name is a word just if its token is seen as a whole between any two texts, of which the second
does not go on with the name: the placeholders are the name and those of the two texts. If the name
alone has a value, and neither text has a placeholder of it or of the task, filling puts the value in
the place of that token and leaves the texts as they are. No template has a placeholder of a name
that is no word, and no filled text changes with what is looked up of it. -/
theorem isWord_iff_addressed (name : String) :
    (Text.isWord name = true ↔ ∀ before after : String, ¬StartsWord after.toList →
      name ∈ placeholders (before ++ ":" ++ name ++ after) ∧
      piecesOf (before ++ ":" ++ name ++ after).toList =
        piecesOf before.toList ++ .placeholder name :: piecesOf after.toList ∧
      (name ≠ "task" →
        (∀ other ∈ placeholders before ++ placeholders after, other ≠ name ∧ other ≠ "task") →
        ∀ (task value : String) (lookup : String → Option String), lookup name = some value →
          (∀ other, other ≠ name → lookup other = none) →
          (fill (before ++ ":" ++ name ++ after) task lookup).toList =
            before.toList ++ insertion before.toList after.toList value ++ after.toList)) ∧
    (Text.isWord name = false → ∀ template : String, name ∉ placeholders template ∧
      ∀ (task job : String) (lookup lookup' : String → Option String),
        (∀ other, other ≠ name → lookup other = lookup' other) →
          fill template task lookup = fill template task lookup' ∧
          wrap template job task lookup = wrap template job task lookup') := by
  refine ⟨⟨?_, fun h => ?_⟩, ?_⟩
  · intro hname before after hmaximal
    have hpieces := (isFactoring_iff.1 (isFactoring_token before hname hmaximal)).symm
    refine ⟨?_, hpieces, ?_⟩
    · rw [mem_placeholders, hpieces]
      simp
    · intro hreserved hothers task value lookup hvalue hnone
      exact toList_fill_token hname hmaximal hreserved hvalue hnone hothers
  · exact isWord_of_mem_placeholders (h "" "" (by simp [StartsWord])).1
  · intro hname template
    refine ⟨fun hmem => ?_, fun task job lookup lookup' hsame => ⟨?_, ?_⟩⟩
    · rw [isWord_of_mem_placeholders hmem] at hname
      cases hname
    · exact congrArg String.ofList (text_filling_of_not_isWord hname _ hsame)
    · exact congrArg String.ofList (text_filling_of_not_isWord hname _ hsame)

/-- The placeholder stands between quotation marks, with a colon in front of them, and the names in
the rest of the template are longer. A name with a hyphen ends in front of it. -/
theorem isWord_iff_addressed_between_marks :
    let before := "echo é:dir1::'"
    let after := "'é:dir_"
    let value := "it's :dir"
    let lookup (name : String) := if name = "dir" then some value else none
    Text.isWord "dir" = true ∧ ¬StartsWord after.toList ∧
      (∀ other ∈ placeholders before ++ placeholders after, other ≠ "dir" ∧ other ≠ "task") ∧
      "dir" ∈ placeholders (before ++ ":" ++ "dir" ++ after) ∧
      fill (before ++ ":" ++ "dir" ++ after) "" lookup = "echo é:dir1::'it'\\''s :dir'é:dir_" ∧
      Text.isWord "out-dir" = false ∧ "out-dir" ∉ placeholders "cd :out-dir" ∧
      fill "cd :out-dir" "" (fun _ => none) =
        fill "cd :out-dir" "" fun name => if name = "out-dir" then some value else none := by
  intro before after value lookup
  have hname : Text.isWord "dir" = true := by decide
  have hmaximal : ¬StartsWord after.toList := by simp [StartsWord, after, Text.isWordChar]
  have hothers : ∀ other ∈ placeholders before ++ placeholders after,
      other ≠ "dir" ∧ other ≠ "task" := by decide +kernel
  have hhyphen : Text.isWord "out-dir" = false := by decide
  obtain ⟨hmem, -, hfill⟩ := (isWord_iff_addressed "dir").1.1 hname before after hmaximal
  obtain ⟨hnone, hsame⟩ := (isWord_iff_addressed "out-dir").2 hhyphen "cd :out-dir"
  refine ⟨hname, hmaximal, hothers, hmem, ?_, hhyphen, hnone, ?_⟩
  · apply String.toList_injective
    rw [hfill (by decide) hothers "" value lookup rfl (by simp +contextual [lookup])]
    decide +kernel
  · exact (hsame "" "" _ _ (by simp +contextual)).1

end CrontabRenderer.Template

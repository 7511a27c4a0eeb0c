import CrontabRenderer.Proofs.Shell.Tokens
import CrontabRenderer.Proofs.Template.Insertion

/-!
# Placeholders between quotation marks

A shell reads the filled text, as `Shell.Tokenizer` does: without a reading of their own for
expansions and here-documents. At a placeholder directly between single marks, the first of which it
does not find quoted, the value goes on with one word, and all other tokens are what they are for any
other value (`singleQuoted_one_word`). Between double marks a backslash is not escaped: the value
stays between them just if it has no mark behind an odd number of backslashes, nor such a number at
its end (`doubleQuoted_closesAtEnd_iff`).
-/
namespace CrontabRenderer.Template

open Shell (Token Tokenizer)

/-- A placeholder directly between two marks. -/
def quoted (quote : Quote) (name : String) : List Piece :=
  [.literal quote.mark, .placeholder name, .literal quote.mark]

theorem insertion_between_marks (quote : Quote) (before after : List Char) (value : String) :
    insertion (before ++ [quote.mark]) (quote.mark :: after) value =
      quote.escape value.toList := by
  cases quote <;> simp [insertion, Quote.escape, Quote.mark, Quote.escapedMark]

variable {value? : String → Option String} {template text name value : String}
  {left right : List Piece} {quote : Quote}

/-- The marks stay around the value. -/
theorem IsFilled.toList_quoted (hfilled : IsFilled template value? text)
    (hpieces : IsFactoring template.toList (left ++ quoted quote name ++ right))
    (hvalue : value? name = some value) :
    text.toList = textBefore value? left (quoted quote name ++ right) ++
      quote.mark :: quote.escape value.toList ++
        quote.mark :: textBehind value? (left ++ quoted quote name) right := by
  have hvalue' : (Piece.placeholder name).filled value?
      ((left ++ [Piece.literal quote.mark]).flatMap Piece.source)
      ((Piece.literal quote.mark :: right).flatMap Piece.source) = quote.escape value.toList := by
    rw [← insertion_between_marks quote (left.flatMap Piece.source) (right.flatMap Piece.source)]
    simp [Piece.filled, hvalue, Piece.source]
  rw [hfilled.toList_eq hpieces, List.append_assoc, filledPieces_append]
  simp only [quoted, List.cons_append, List.nil_append, textBehind_cons, hvalue',
    List.append_assoc]
  rfl

/-- A value between single marks, of which the shell finds the first unquoted, goes on with one word,
character for character, and the quotation is closed behind the mark at its end. Inside, the shell is
between single marks at each character of the value, or behind a backslash if it is such a mark.
With any other value in its place, the text has the same tokens but for that word. The text around
the placeholder is read without expansions and here-documents: where a `$'`, `$(`, `${`, backquote or
`<<` in front of it opens something that a shell reads in another way, nothing is said. -/
theorem singleQuoted_one_word (hfilled : IsFilled template value? text)
    (hpieces : IsFactoring template.toList (left ++ quoted .single name ++ right))
    (hvalue : value? name = some value)
    (hunquoted : (Tokenizer.run {}
      (textBefore value? left (quoted .single name ++ right))).IsUnquoted) :
    let before := textBefore value? left (quoted .single name ++ right)
    let behind := textBehind value? (left ++ quoted .single name) right
    let opening := Tokenizer.run {} before
    let inserted := Quote.single.escape value.toList
    text.toList = before ++ '\'' :: inserted ++ '\'' :: behind ∧
    opening.run ('\'' :: inserted ++ ['\'']) = opening.put value.toList ∧
    (opening.put value.toList).IsUnquoted ∧
    (∀ front c back, value.toList = front ++ c :: back →
      let reached := Quote.single.escape front ++ if c = '\'' then ['\'', '\\'] else []
      reached ++ [c] <+: inserted ∧
        (opening.run ('\'' :: reached)).quoting = if c = '\'' then .escaped else .single) ∧
    ∃ quoting head first last tail, ∀ other : List Char,
      let read := Tokenizer.run {} (before ++ '\'' :: Quote.single.escape other ++ '\'' :: behind)
      read.quoting = quoting ∧
        read.allTokens = head ++ Token.word (first ++ other ++ last) :: tail := by
  intro before behind opening inserted
  refine ⟨hfilled.toList_quoted hpieces hvalue, Tokenizer.run_singleQuoted hunquoted _,
    ⟨hunquoted.1, nofun⟩, ?_, ?_⟩
  · intro front c back hsplit reached
    have hinserted : inserted = Quote.single.escape front ++
        ((if c = '\'' then Quote.single.escapedMark else [c]) ++ Quote.single.escape back) :=
      (congrArg Quote.single.escape hsplit).trans
        (Text.replaceChar_append_cons '\'' Quote.single.escapedMark front c back)
    have hopen := Tokenizer.run_open_single hunquoted front
    by_cases hc : c = '\''
    · refine ⟨⟨'\'' :: Quote.single.escape back, ?_⟩, ?_⟩
      · simp [hinserted, reached, hc, Quote.escapedMark]
      · simp only [reached, if_pos hc, ← List.cons_append, Tokenizer.run_append]
        rw [hopen]
        rfl
    · refine ⟨⟨Quote.single.escape back, ?_⟩, ?_⟩
      · simp [hinserted, reached, hc]
      · simp only [reached, if_neg hc, List.append_nil]
        rw [hopen]
  · obtain ⟨quoting, head, first, last, tail, hall⟩ :=
      Tokenizer.exists_tokens hunquoted behind
    refine ⟨quoting, head, first, last, tail, fun other => ?_⟩
    rw [List.append_assoc, Tokenizer.run_append]
    exact hall other

/-- The value has marks of both kinds, operators, a backslash and what looks like a comment and a
placeholder. Another quoted placeholder stands in front of it. -/
theorem singleQuoted_one_word_operators :
    let value := "it's; \"$x\" & # 'y' :b \\"
    let lookup (name : String) := if name = "b" then some "-'-" else none
    let text := fill "run ':b' x':task' && end" value lookup
    let opening := Tokenizer.run {} "run '-'\\''-' x".toList
    text = "run '-'\\''-' x'it'\\''s; \"$x\" & # '\\''y'\\'' :b \\' && end" ∧
      opening.IsUnquoted ∧
      opening.run ('\'' :: Quote.single.escape value.toList ++ ['\'']) =
        opening.put value.toList ∧
      (Tokenizer.run {} text.toList).allTokens =
        [.word "run".toList, .word "-'-".toList, .word ("x" ++ value).toList,
          .operator "&&".toList, .word "end".toList] := by
  intro value lookup text opening
  have hfilled : IsFilled "run ':b' x':task' && end"
      (fun name => (taskReserved value name).or (lookup name)) text := .fill value lookup
  let left : List Piece := "run '".toList.map .literal ++ .placeholder "b" ::
    "' x".toList.map .literal
  let right : List Piece := " && end".toList.map .literal
  have hpieces : IsFactoring "run ':b' x':task' && end".toList
      (left ++ quoted .single "task" ++ right) := isFactoring_iff.2 (by decide +kernel)
  have hread := singleQuoted_one_word hfilled hpieces rfl (by decide +kernel)
  exact ⟨by decide +kernel, by decide +kernel, hread.2.1, by decide +kernel⟩

/-- A quotation between double marks, of which the shell finds the first unquoted, is closed at the
end of the value, and the value goes on with one word, just if no mark in the value stands behind an
odd number of backslashes and the value does not end with such a number. -/
theorem doubleQuoted_closesAtEnd_iff (hfilled : IsFilled template value? text)
    (hpieces : IsFactoring template.toList (left ++ quoted .double name ++ right))
    (hvalue : value? name = some value)
    (hunquoted : (Tokenizer.run {}
      (textBefore value? left (quoted .double name ++ right))).IsUnquoted) :
    let before := textBefore value? left (quoted .double name ++ right)
    let behind := textBehind value? (left ++ quoted .double name) right
    let opening := Tokenizer.run {} before
    let inserted := Quote.double.escape value.toList
    text.toList = before ++ '"' :: inserted ++ '"' :: behind ∧
    (opening.ClosesAtEnd '"' inserted ↔
      Text.NoneEscaped '"' value.toList ∧ Even (Text.finalBackslashes value.toList)) ∧
    (opening.ClosesAtEnd '"' inserted →
      ∃ read, opening.run ('"' :: inserted ++ ['"']) = opening.put read) := by
  intro before behind opening inserted
  have hend : Text.finalBackslashes inserted = Text.finalBackslashes value.toList :=
    Text.finalBackslashes_replaceChar (by decide) _
  have hmarks : Text.AllEscaped '"' inserted ↔ Text.NoneEscaped '"' value.toList :=
    Text.allEscaped_replaceChar_iff (by decide)
  refine ⟨hfilled.toList_quoted hpieces hvalue, ?_, fun hcloses => ?_⟩
  · rw [Tokenizer.closesAtEnd_iff hunquoted, hend, hmarks]
  · obtain ⟨hinner, heven⟩ := (Tokenizer.closesAtEnd_iff hunquoted).1 hcloses
    exact Tokenizer.run_doubleQuoted hunquoted hinner heven

/-- A backslash in front of another character than a mark, and an even number of them at the end. -/
theorem doubleQuoted_closesAtEnd_path :
    let value := "C:\\dir \"a;b\" \\\\"
    let text := wrap "sh -c \":job\"; date" value "" fun _ => none
    let opening := Tokenizer.run {} "sh -c ".toList
    text = "sh -c \"C:\\dir \\\"a;b\\\" \\\\\"; date" ∧ opening.IsUnquoted ∧
      Text.NoneEscaped '"' value.toList ∧ Even (Text.finalBackslashes value.toList) ∧
      opening.ClosesAtEnd '"' (Quote.double.escape value.toList) ∧
      (Tokenizer.run {} text.toList).allTokens =
        [.word "sh".toList, .word "-c".toList, .word "C:\\dir \"a;b\" \\".toList,
          .operator ";".toList, .word "date".toList] := by
  intro value text opening
  have hfilled : IsFilled "sh -c \":job\"; date"
      (fun name => (jobReserved value "" name).or none) text := .wrap value "" fun _ => none
  let left : List Piece := "sh -c ".toList.map .literal
  let right : List Piece := "; date".toList.map .literal
  have hpieces : IsFactoring "sh -c \":job\"; date".toList
      (left ++ quoted .double "job" ++ right) := isFactoring_iff.2 (by decide +kernel)
  have hbackslashes : Text.NoneEscaped '"' value.toList ∧
      Even (Text.finalBackslashes value.toList) := by decide +kernel
  have hread := doubleQuoted_closesAtEnd_iff hfilled hpieces rfl (by decide +kernel)
  exact ⟨by decide +kernel, by decide +kernel, hbackslashes.1, hbackslashes.2,
    hread.2.1.2 hbackslashes, by decide +kernel⟩

/-- The backslash that is written in front of the mark in the value is escaped by the one before it,
so the mark ends the quotation and the rest of the value is read as commands. The mark at the end is
escaped by the last character of the value. -/
theorem doubleQuoted_closed_by_value :
    let value := "\\\"; date; \\"
    let text := fill "echo \":task\"" value fun _ => none
    let opening := Tokenizer.run {} "echo ".toList
    text = "echo \"\\\\\"; date; \\\"" ∧ opening.IsUnquoted ∧
      '$' ∉ value.toList ∧ '`' ∉ value.toList ∧
      ¬opening.ClosesAtEnd '"' (Quote.double.escape value.toList) ∧
      (Tokenizer.run {} text.toList).allTokens =
        [.word "echo".toList, .word "\\".toList, .operator ";".toList, .word "date".toList,
          .operator ";".toList, .word "\"".toList] := by
  intro value text opening
  refine ⟨by decide +kernel, by decide +kernel, by decide +kernel, by decide +kernel, ?_,
    by decide +kernel⟩
  rintro ⟨hopen, -⟩
  exact hopen "\\\\\"".toList ⟨"; date; \\".toList, by decide +kernel⟩ (by decide +kernel)

end CrontabRenderer.Template

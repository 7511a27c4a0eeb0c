import CrontabRenderer.Proofs.Template.Quoted

/-!
# Placeholders outside of quotations

Whether a mark next to a placeholder begins a quotation or ends one depends on the whole text in
front, but filling looks at the two characters next to the placeholder alone. A value that the shell
reaches unquoted is therefore inserted as it is just if these are not the same mark, or the value has
no such mark (`unquoted_verbatim_iff`). Where it is altered, the mark in front ends a quotation or is
escaped, and begins none (`Tokenizer.quoting_of_isUnquoted_step`).
-/
namespace CrontabRenderer

namespace Shell.Tokenizer

open Template (Quote)

/-- A mark behind which the shell is unquoted ends a quotation of its kind, or is escaped. -/
theorem quoting_of_isUnquoted_step {t : Tokenizer} {quote : Quote}
    (h : (t.step quote.mark).IsUnquoted) :
    t.quoting = openQuoting quote ∨ t.quoting = .escaped := by
  obtain ⟨quoting, pending, tokens⟩ := t
  cases quoting with
  | unquoted =>
    by_cases hcomment : pending = .comment
    · -- A comment goes on behind the mark.
      subst hcomment
      have hstep : step ⟨.unquoted, .comment, tokens⟩ quote.mark =
          ⟨.unquoted, .comment, tokens⟩ := by cases quote <;> rfl
      exact absurd (hstep ▸ h.2) (by simp)
    · have hopen := step_open (t := ⟨.unquoted, pending, tokens⟩) ⟨rfl, hcomment⟩ quote
      have hquoting := h.1
      rw [hopen] at hquoting
      cases quote <;> cases hquoting
  | escaped => exact .inr rfl
  | single =>
    cases quote with
    | single => exact .inl rfl
    | double => cases h.1
  | double =>
    cases quote with
    | single => cases h.1
    | double => exact .inl rfl
  | doubleEscaped => cases quote <;> cases h.1

end Shell.Tokenizer

namespace Template

open Shell (Token Tokenizer)

/-- The template has the same mark directly on both sides of a placeholder. -/
def IsBetween (quote : Quote) (left right : List Piece) : Prop :=
  left.getLast? = some (.literal quote.mark) ∧ right.head? = some (.literal quote.mark)

instance (quote : Quote) (left right : List Piece) : Decidable (IsBetween quote left right) :=
  inferInstanceAs (Decidable (_ ∧ _))

theorem Quote.not_isWordChar_mark (quote : Quote) : Text.isWordChar quote.mark = false := by
  cases quote <;> decide

theorem Quote.escape_eq_self_iff {quote : Quote} {value : List Char} :
    quote.escape value = value ↔ quote.mark ∉ value := by
  have hlength : 1 < quote.escapedMark.length := by cases quote <;> decide
  exact Text.replaceChar_eq_self_iff hlength

theorem enclosing?_eq_some_iff {before after : Option Char} {quote : Quote} :
    enclosing? before after = some quote ↔
      before = some quote.mark ∧ after = some quote.mark := by
  unfold enclosing?
  by_cases hsingle : before = some '\'' ∧ after = some '\''
  · rw [if_pos hsingle, hsingle.1, hsingle.2]
    cases quote <;> simp [Quote.mark]
  · rw [if_neg hsingle]
    cases quote with
    | single => simpa [Quote.mark] using hsingle
    | double => simp [Quote.mark]

section Marks

variable {template text name value : String} {value? : String → Option String}
  {left right : List Piece} {quote : Quote}

/-- A name ends in a word character, so a mark that the template has in front is a literal. -/
theorem IsFactoring.getLast?_eq_mark_iff
    (h : IsFactoring template.toList (left ++ .placeholder name :: right)) :
    (left.flatMap Piece.source).getLast? = some quote.mark ↔
      left.getLast? = some (.literal quote.mark) := by
  rcases List.eq_nil_or_concat' left with rfl | ⟨front, piece, rfl⟩
  · simp
  cases piece with
  | literal c => simp [Piece.source]
  | placeholder other =>
    have hother : Piece.placeholder other ∈
        front ++ [.placeholder other] ++ .placeholder name :: right := by simp
    obtain ⟨hne, hword⟩ := Text.isWord_iff.1 (h.isWord_of_mem hother)
    obtain ⟨inner, c, hlast⟩ := (List.eq_nil_or_concat' other.toList).resolve_left hne
    have hc : c ≠ quote.mark := by
      rintro rfl
      have hmark := hword quote.mark (by simp [hlast])
      rw [quote.not_isWordChar_mark] at hmark
      cases hmark
    have hsource : (front ++ [Piece.placeholder other]).flatMap Piece.source =
        (front.flatMap Piece.source ++ ':' :: inner) ++ [c] := by
      simp [Piece.source, hlast]
    rw [hsource, List.getLast?_concat, List.getLast?_concat]
    simp [hc]

theorem head?_eq_mark_iff :
    (right.flatMap Piece.source).head? = some quote.mark ↔
      right.head? = some (.literal quote.mark) := by
  cases right with
  | nil => simp
  | cons piece right =>
    cases piece with
    | literal c => simp [Piece.source]
    | placeholder name => cases quote <;> simp [Piece.source, Quote.mark]

theorem IsFactoring.isBetween_iff
    (h : IsFactoring template.toList (left ++ .placeholder name :: right)) :
    IsBetween quote left right ↔ enclosing? (left.flatMap Piece.source).getLast?
      (right.flatMap Piece.source).head? = some quote := by
  rw [enclosing?_eq_some_iff, h.getLast?_eq_mark_iff, head?_eq_mark_iff, IsBetween]

/-- A value is escaped between two marks of one kind, and changes there just if it has such a
mark. -/
theorem IsFactoring.insertion_eq_self_iff
    (h : IsFactoring template.toList (left ++ .placeholder name :: right)) (value : String) :
    let inserted := insertion (left.flatMap Piece.source) (right.flatMap Piece.source) value
    (inserted = value.toList ↔
      ∀ quote, IsBetween quote left right → quote.mark ∉ value.toList) ∧
    ∀ quote, IsBetween quote left right → inserted = quote.escape value.toList := by
  intro inserted
  simp only [h.isBetween_iff]
  have hinserted := replacement_eq_insertion (left.flatMap Piece.source)
    (right.flatMap Piece.source) name value
  cases henclosing : enclosing? (left.flatMap Piece.source).getLast?
      (right.flatMap Piece.source).head? with
  | none =>
    rw [henclosing] at hinserted
    exact ⟨iff_of_true hinserted.symm (by simp), by simp⟩
  | some quote =>
    rw [henclosing] at hinserted
    have hescape : inserted = quote.escape value.toList := hinserted.symm
    rw [hescape, Quote.escape_eq_self_iff]
    simp only [Option.some.injEq, forall_eq', true_and]

/-- What is in front of a placeholder ends with the mark that the template has there. -/
theorem IsBetween.exists_front (h : IsBetween quote left right)
    (value? : String → Option String) (rest : List Piece) :
    ∃ front, left = front ++ [.literal quote.mark] ∧
      textBefore value? left rest =
        textBefore value? front (.literal quote.mark :: rest) ++ [quote.mark] := by
  obtain ⟨front, rfl⟩ := List.getLast?_eq_some_iff.1 h.1
  refine ⟨front, rfl, ?_⟩
  rw [textBefore, filledBetween_append]
  simp [textBefore, filledBetween, Piece.filled, Piece.source]

/-- A value that the shell reaches unquoted is inserted as it is just if the template does not have
the same mark on both sides of the placeholder, or the value has no such mark. With such marks on
both sides the value is escaped, although the mark in front begins no quotation: the shell reads it as
the end of one, or behind a backslash. -/
theorem unquoted_verbatim_iff (hfilled : IsFilled template value? text)
    (hpieces : IsFactoring template.toList (left ++ .placeholder name :: right))
    (hvalue : value? name = some value)
    (hunquoted :
      (Tokenizer.run {} (textBefore value? left (.placeholder name :: right))).IsUnquoted) :
    let before := textBefore value? left (.placeholder name :: right)
    let behind := textBehind value? (left ++ [.placeholder name]) right
    let inserted := insertion (left.flatMap Piece.source) (right.flatMap Piece.source) value
    text.toList = before ++ (inserted ++ behind) ∧
    (inserted = value.toList ↔
      ∀ quote, IsBetween quote left right → quote.mark ∉ value.toList) ∧
    ∀ quote, IsBetween quote left right → inserted = quote.escape value.toList ∧
      ∃ reached, before = reached ++ [quote.mark] ∧
        ((Tokenizer.run {} reached).quoting = Tokenizer.openQuoting quote ∨
          (Tokenizer.run {} reached).quoting = .escaped) := by
  intro before behind inserted
  obtain ⟨hself, hescape⟩ := hpieces.insertion_eq_self_iff value
  refine ⟨?_, hself, fun quote hbetween => ⟨hescape quote hbetween, ?_⟩⟩
  · rw [hfilled.toList_eq hpieces, filledPieces_append_placeholder hvalue]
  · obtain ⟨front, -, hfront⟩ := hbetween.exists_front value? (.placeholder name :: right)
    refine ⟨_, hfront, Tokenizer.quoting_of_isUnquoted_step ?_⟩
    rwa [hfront, Tokenizer.run_append] at hunquoted

end Marks

/-- The value has marks of both kinds and stands between a single and a double one. The text around
it is quoted, and the value goes on with the same word. -/
theorem unquoted_verbatim_between_kinds :
    let value := "x'y'z"
    let lookup (name : String) := if name = "dir" then some "it's" else none
    let text := wrap "cd ':dir' && echo 'a':job\"b\"" value "" lookup
    let before := "cd 'it'\\''s' && echo 'a'"
    text = before ++ value ++ "\"b\"" ∧ (Tokenizer.run {} before.toList).IsUnquoted ∧
      (Tokenizer.run {} text.toList).allTokens =
        [.word "cd".toList, .word "it's".toList, .operator "&&".toList, .word "echo".toList,
          .word "axyzb".toList] := by
  intro value lookup text before
  have hfilled : IsFilled "cd ':dir' && echo 'a':job\"b\""
      (fun name => (jobReserved value "" name).or (lookup name)) text := .wrap value "" lookup
  let left : List Piece := "cd '".toList.map .literal ++ .placeholder "dir" ::
    "' && echo 'a'".toList.map .literal
  let right : List Piece := "\"b\"".toList.map .literal
  have hpieces : IsFactoring "cd ':dir' && echo 'a':job\"b\"".toList
      (left ++ .placeholder "job" :: right) := isFactoring_iff.2 (by decide +kernel)
  obtain ⟨htext, hverbatim, -⟩ := unquoted_verbatim_iff hfilled hpieces rfl (by decide +kernel)
  have hnot (quote : Quote) : ¬IsBetween quote left right := by
    cases quote <;> decide +kernel
  have hvalue := hverbatim.2 fun quote hbetween => absurd hbetween (hnot quote)
  rw [hvalue] at htext
  refine ⟨String.toList_injective (htext.trans ?_), by decide +kernel, by decide +kernel⟩
  decide +kernel

/-- The mark in front of the placeholder ends one quotation, and the mark behind it begins another,
so the value stands outside of both, and is escaped all the same. -/
theorem unquoted_altered_between_quotations :
    let value := "x'y'z"
    let text := fill "echo 'a':task'b'" value fun _ => none
    (Tokenizer.run {} "echo 'a'".toList).IsUnquoted ∧
      text ≠ "echo 'a'" ++ value ++ "'b'" ∧
      text = "echo 'a'x'\\''y'\\''z'b'" := by
  decide +kernel

end Template

end CrontabRenderer

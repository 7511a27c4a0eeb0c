import CrontabRenderer.Proofs.Template.SinglePass
import CrontabRenderer.Proofs.Text.Backslashes

/-!
# Inserted values

What a value does to the filled text. The text holds what its template has in front of a placeholder
and behind it, both filled, and the value between them (`filledPieces_append_placeholder`). It
depends on the values of the names in the template alone (`filledPieces_congr`), and is at least as
long as each of them (`length_le_filledPieces`).
-/
namespace CrontabRenderer.Template

variable {value? : String → Option String}

/-- What the pieces between two parts of a template become one after another. -/
def filledBetween (value? : String → Option String) :
    List Char → List Piece → List Char → List Char
  | _, [], _ => []
  | before, piece :: pieces, after =>
    piece.filled value? before (pieces.flatMap Piece.source ++ after) ++
      filledBetween value? (before ++ piece.source) pieces after

/-- What the pieces `left` become in front of the pieces `right`. -/
def textBefore (value? : String → Option String) (left right : List Piece) : List Char :=
  filledBetween value? [] left (right.flatMap Piece.source)

/-- What the pieces `right` become behind the pieces `left`. -/
def textBehind (value? : String → Option String) (left right : List Piece) : List Char :=
  filledBetween value? (left.flatMap Piece.source) right []

theorem filledPieces_eq_filledBetween (before : List Char) (pieces : List Piece) :
    filledPieces value? before pieces = filledBetween value? before pieces [] := by
  induction pieces generalizing before with
  | nil => rfl
  | cons piece pieces ih => rw [filledPieces_cons, filledBetween, ih, List.append_nil]

theorem filledBetween_append (before : List Char) (left right : List Piece) (after : List Char) :
    filledBetween value? before (left ++ right) after =
      filledBetween value? before left (right.flatMap Piece.source ++ after) ++
        filledBetween value? (before ++ left.flatMap Piece.source) right after := by
  induction left generalizing before with
  | nil => simp [filledBetween]
  | cons piece left ih => simp [filledBetween, ih]

theorem filledPieces_append (left right : List Piece) :
    filledPieces value? [] (left ++ right) =
      textBefore value? left right ++ textBehind value? left right := by
  rw [filledPieces_eq_filledBetween, filledBetween_append, List.append_nil]
  rfl

theorem textBehind_cons (left : List Piece) (piece : Piece) (right : List Piece) :
    textBehind value? left (piece :: right) =
      piece.filled value? (left.flatMap Piece.source) (right.flatMap Piece.source) ++
        textBehind value? (left ++ [piece]) right := by
  simp [textBehind, filledBetween]

/-- A value stands between what is in front of its placeholder and what is behind it. -/
theorem filledPieces_append_placeholder {name value : String} (hvalue : value? name = some value)
    (left right : List Piece) :
    filledPieces value? [] (left ++ .placeholder name :: right) =
      textBefore value? left (.placeholder name :: right) ++
        (insertion (left.flatMap Piece.source) (right.flatMap Piece.source) value ++
          textBehind value? (left ++ [.placeholder name]) right) := by
  rw [filledPieces_append, textBehind_cons]
  simp [Piece.filled, hvalue]

theorem length_le_insertion (before after : List Char) (value : String) :
    value.toList.length ≤ (insertion before after value).length := by
  unfold insertion
  split
  · exact Text.length_le_length_replaceChar (by simp) _
  · split
    · exact Text.length_le_length_replaceChar (by simp) _
    · exact Nat.le_refl _

/-- A value is inserted with all its length. -/
theorem length_le_filledPieces {name value : String} {pieces : List Piece}
    (hname : .placeholder name ∈ pieces) (hvalue : value? name = some value) :
    value.toList.length ≤ (filledPieces value? [] pieces).length := by
  obtain ⟨left, right, rfl⟩ := List.append_of_mem hname
  have hlength := length_le_insertion (left.flatMap Piece.source) (right.flatMap Piece.source) value
  rw [filledPieces_append_placeholder hvalue, List.length_append, List.length_append]
  omega

theorem mem_namesOf {name : String} {pieces : List Piece} :
    name ∈ namesOf pieces ↔ .placeholder name ∈ pieces := by
  rw [namesOf, List.mem_filterMap]
  constructor
  · rintro ⟨piece, hpiece, hname⟩
    cases piece with
    | literal c => cases hname
    | placeholder other =>
      obtain rfl := Option.some.inj hname
      exact hpiece
  · intro hname
    exact ⟨_, hname, rfl⟩

theorem mem_placeholders {template name : String} :
    name ∈ placeholders template ↔ .placeholder name ∈ piecesOf template.toList := by
  rw [placeholders, List.mem_eraseDups, mem_namesOf]

/-- Pieces whose names have no value stay as they are. -/
theorem filledBetween_eq_source {pieces : List Piece}
    (h : ∀ name ∈ namesOf pieces, value? name = none) (before after : List Char) :
    filledBetween value? before pieces after = pieces.flatMap Piece.source := by
  induction pieces generalizing before with
  | nil => rfl
  | cons piece pieces ih =>
    cases piece with
    | literal c =>
      rw [filledBetween, ih h, List.flatMap_cons]
      rfl
    | placeholder name =>
      have hnames : namesOf (.placeholder name :: pieces) = name :: namesOf pieces := rfl
      rw [hnames, List.forall_mem_cons] at h
      rw [filledBetween, ih h.2, List.flatMap_cons, Piece.filled, h.1]
      rfl

/-- The filled text depends on the values of the names in it alone. -/
theorem filledPieces_congr {value?' : String → Option String} {pieces : List Piece}
    (h : ∀ name ∈ namesOf pieces, value? name = value?' name) (before : List Char) :
    filledPieces value? before pieces = filledPieces value?' before pieces := by
  induction pieces generalizing before with
  | nil => rfl
  | cons piece pieces ih =>
    cases piece with
    | literal c => rw [filledPieces_cons, filledPieces_cons, ih h, Piece.filled, Piece.filled]
    | placeholder name =>
      have hnames : namesOf (.placeholder name :: pieces) = name :: namesOf pieces := rfl
      rw [hnames, List.forall_mem_cons] at h
      rw [filledPieces_cons, filledPieces_cons, ih h.2, Piece.filled, Piece.filled, h.1]

/-- A filled template depends on what is looked up of the names in it alone. -/
theorem text_filling_congr {reserved : Reserved} {template : String}
    {lookup lookup' : String → Option String}
    (h : ∀ name ∈ placeholders template, reserved name = none → lookup name = lookup' name) :
    (filling reserved template lookup).text = (filling reserved template lookup').text := by
  rw [text_filling, text_filling]
  apply filledPieces_congr
  intro name hname
  cases hreserved : reserved name with
  | none => rw [h name (mem_placeholders.2 (mem_namesOf.1 hname)) hreserved]
  | some value => rfl

/-- The text that a template is filled to, for the template of a job type or with a command put into
it, and the values of the names in it. -/
inductive IsFilled (template : String) : (String → Option String) → String → Prop
  | fill (task : String) (lookup : String → Option String) :
      IsFilled template (fun name => (taskReserved task name).or (lookup name))
        (fill template task lookup)
  | wrap (job task : String) (lookup : String → Option String) :
      IsFilled template (fun name => (jobReserved job task name).or (lookup name))
        (wrap template job task lookup)

theorem IsFilled.toList_eq {template text : String} {pieces : List Piece}
    (h : IsFilled template value? text) (hpieces : IsFactoring template.toList pieces) :
    text.toList = filledPieces value? [] pieces := by
  rw [isFactoring_iff] at hpieces
  subst hpieces
  cases h with
  | fill task lookup => rw [Template.fill, String.toList_ofList, text_filling]
  | wrap job task lookup => rw [Template.wrap, String.toList_ofList, text_filling]

end CrontabRenderer.Template

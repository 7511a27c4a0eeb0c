import CrontabRenderer.Proofs.Template.Filling
import Mathlib.Data.List.Infix

/-!
# Filling in a single pass

A template is made of literal characters and placeholders in one way only (`isFactoring_iff`).
Filling replaces each placeholder in its place, by a value that is escaped if the template has it
between quotation marks, and asks for each name once for every placeholder, in order
(`filling_singlePass`). What is inserted has no part in this.
-/
namespace CrontabRenderer.Template

/-! ## The pieces of a template -/

/-- A name could go on with this text. -/
def StartsWord (s : List Char) : Prop := ∃ c ∈ s.head?, Text.isWordChar c = true

/-- The text is made of these pieces. A placeholder is a colon and all word characters behind it, of
which there is one at least. Every other character is literal. -/
inductive IsFactoring : List Char → List Piece → Prop
  | nil : IsFactoring [] []
  | literal {c : Char} {rest : List Char} {pieces : List Piece}
      (hplain : c = ':' → ¬StartsWord rest) (hrest : IsFactoring rest pieces) :
      IsFactoring (c :: rest) (.literal c :: pieces)
  | placeholder {name : String} {rest : List Char} {pieces : List Piece}
      (hname : Text.isWord name = true) (hmaximal : ¬StartsWord rest)
      (hrest : IsFactoring rest pieces) :
      IsFactoring (':' :: name.toList ++ rest) (.placeholder name :: pieces)

theorem startsWord_append {name : String} (h : Text.isWord name = true) (rest : List Char) :
    StartsWord (name.toList ++ rest) := by
  obtain ⟨hne, hword⟩ := Text.isWord_iff.1 h
  obtain ⟨c, name', hname⟩ := List.exists_cons_of_ne_nil hne
  rw [hname] at hword ⊢
  exact ⟨c, rfl, hword c List.mem_cons_self⟩

/-- A name ends where no word character follows. -/
theorem takeWhile_name {name : String} {rest : List Char} (hname : Text.isWord name = true)
    (hmaximal : ¬StartsWord rest) :
    (name.toList ++ rest).takeWhile Text.isWordChar = name.toList := by
  rw [List.takeWhile_append_of_pos (Text.isWord_iff.1 hname).2]
  cases rest with
  | nil => simp
  | cons c rest =>
    have hc : ¬Text.isWordChar c = true := fun hc => hmaximal ⟨c, rfl, hc⟩
    simp [hc]

theorem IsFactoring.unique {s : List Char} {pieces pieces' : List Piece}
    (h : IsFactoring s pieces) (h' : IsFactoring s pieces') : pieces = pieces' := by
  induction h generalizing pieces' with
  | nil =>
    cases h'
    rfl
  | literal hplain _ ih =>
    cases h' with
    | literal _ hrest' => rw [ih hrest']
    | placeholder hname' => exact absurd (startsWord_append hname' _) (hplain rfl)
  | @placeholder name rest pieces hname hmaximal _ ih =>
    generalize hs : ':' :: name.toList ++ rest = s at h'
    cases h' with
    | nil => cases hs
    | literal hplain' _ =>
      obtain ⟨rfl, rfl⟩ := List.cons.inj hs
      exact absurd (startsWord_append hname rest) (hplain' rfl)
    | @placeholder name' rest' pieces' hname' hmaximal' hrest' =>
      have hsame : name.toList ++ rest = name'.toList ++ rest' := (List.cons.inj hs).2
      have hnames : name.toList = name'.toList := by
        rw [← takeWhile_name hname hmaximal, hsame, takeWhile_name hname' hmaximal']
      rw [hnames] at hsame
      obtain rfl := String.toList_injective hnames
      obtain rfl := List.append_cancel_left hsame
      rw [ih hrest']

theorem IsFactoring.isWord_of_mem {s : List Char} {pieces : List Piece} {name : String}
    (h : IsFactoring s pieces) (hname : .placeholder name ∈ pieces) : Text.isWord name = true := by
  induction h with
  | nil => cases hname
  | literal _ _ ih =>
    rcases List.mem_cons.1 hname with heq | hrest
    · cases heq
    · exact ih hrest
  | placeholder hword _ _ ih =>
    rcases List.mem_cons.1 hname with heq | hrest
    · cases heq
      exact hword
    · exact ih hrest

/-- Word characters that no colon comes before are literal. -/
theorem IsFactoring.word_append {run rest : List Char} {pieces : List Piece}
    (hrun : ∀ c ∈ run, Text.isWordChar c = true) (h : IsFactoring rest pieces) :
    IsFactoring (run ++ rest) (run.map .literal ++ pieces) := by
  induction run with
  | nil => exact h
  | cons c run ih =>
    obtain ⟨hc, hrun⟩ := List.forall_mem_cons.1 hrun
    refine .literal (fun hcolon => ?_) (ih hrun)
    rw [hcolon] at hc
    exact absurd hc (by decide)

/-- A scan has read a text: the word characters in front are not assigned yet, and the pieces are
those of the text behind them. -/
structure Scan.HasRead (scan : Scan) (s : List Char) : Prop where
  run : ∀ c ∈ scan.run, Text.isWordChar c = true
  behind : ∃ rest, s = scan.run ++ rest ∧ ¬StartsWord rest ∧ IsFactoring rest scan.behind

theorem Scan.HasRead.isFactoring {scan : Scan} {s : List Char} (h : scan.HasRead s) :
    IsFactoring s scan.pieces := by
  obtain ⟨rest, rfl, -, hrest⟩ := h.behind
  exact hrest.word_append h.run

theorem Scan.HasRead.extend {scan : Scan} {s : List Char} (h : scan.HasRead s) (c : Char) :
    (scan.extend c).HasRead (c :: s) := by
  obtain ⟨rest, rfl, hmaximal, hrest⟩ := h.behind
  have hstart {c : Char} (hc : ¬Text.isWordChar c = true) (s : List Char) : ¬StartsWord (c :: s) := by
    simpa [StartsWord] using hc
  unfold Scan.extend
  split
  · rename_i hc
    exact ⟨List.forall_mem_cons.2 ⟨hc, h.run⟩, rest, rfl, hmaximal, hrest⟩
  rename_i hc
  split
  · rename_i hplaceholder
    obtain ⟨rfl, hne⟩ := hplaceholder
    have hname : Text.isWord (.ofList scan.run) = true := by
      rw [Text.isWord_iff, String.toList_ofList]
      exact ⟨hne, h.run⟩
    have hpiece := IsFactoring.placeholder hname hmaximal hrest
    rw [String.toList_ofList] at hpiece
    exact ⟨by simp, _, rfl, hstart hc _, hpiece⟩
  · rename_i hliteral
    refine ⟨by simp, c :: (scan.run ++ rest), rfl, hstart hc _, .literal ?_ h.isFactoring⟩
    intro hcolon
    have hrun : scan.run = [] := by
      by_contra hne
      exact hliteral ⟨hcolon, hne⟩
    rwa [hrun]

theorem hasRead_foldr (template : List Char) :
    (template.foldr Scan.extend ⟨[], []⟩).HasRead template := by
  induction template with
  | nil => exact ⟨by simp, [], rfl, by simp [StartsWord], .nil⟩
  | cons c template ih => exact ih.extend c

theorem isFactoring_piecesOf (template : List Char) : IsFactoring template (piecesOf template) :=
  (hasRead_foldr template).isFactoring

/-- A template is made of its pieces, and of no others. -/
theorem isFactoring_iff {template : List Char} {pieces : List Piece} :
    IsFactoring template pieces ↔ pieces = piecesOf template := by
  constructor
  · intro h
    exact h.unique (isFactoring_piecesOf template)
  · rintro rfl
    exact isFactoring_piecesOf template

/-! ## What pieces are filled with -/

/-- A value between two parts of a template. If the characters next to it are quotation marks of one
kind, such marks are escaped in it. -/
def insertion (before after : List Char) (value : String) : List Char :=
  if before.getLast? = some '\'' ∧ after.head? = some '\'' then
    Text.replaceChar '\'' ['\'', '\\', '\'', '\''] value.toList
  else if before.getLast? = some '"' ∧ after.head? = some '"' then
    Text.replaceChar '"' ['\\', '"'] value.toList
  else value.toList

/-- What a piece between two parts of a template becomes. A placeholder without a value stays. -/
def Piece.filled (value? : String → Option String) (before after : List Char) :
    Piece → List Char
  | .literal c => [c]
  | .placeholder name =>
    match value? name with
    | none => ':' :: name.toList
    | some value => insertion before after value

/-- What the pieces become one after another, behind the text `before`. -/
def filledPieces (value? : String → Option String) (before : List Char) (pieces : List Piece) :
    List Char :=
  (pieces.mapIdx fun i piece => piece.filled value?
    (before ++ (pieces.take i).flatMap Piece.source) ((pieces.drop (i + 1)).flatMap Piece.source)).flatten

theorem filledPieces_cons (value? : String → Option String) (before : List Char) (piece : Piece)
    (pieces : List Piece) :
    filledPieces value? before (piece :: pieces) =
      piece.filled value? before (pieces.flatMap Piece.source) ++
        filledPieces value? (before ++ piece.source) pieces := by
  simp [filledPieces, List.mapIdx_cons]

theorem firstChar?_eq (pieces : List Piece) :
    firstChar? pieces = (pieces.flatMap Piece.source).head? := by
  cases pieces with
  | nil => rfl
  | cons piece pieces => cases piece <;> rfl

theorem replacement_eq_insertion (before after : List Char) (name value : String) :
    replacement (enclosing? before.getLast? after.head?) name (some value) =
      insertion before after value := by
  unfold enclosing? insertion
  split
  · rfl
  · split <;> rfl

theorem replacement_eq_filled (value? : String → Option String) (before after : List Char)
    (name : String) :
    replacement (enclosing? before.getLast? after.head?) name (value? name) =
      (Piece.placeholder name).filled value? before after := by
  cases hvalue : value? name with
  | none => simp [Piece.filled, hvalue, replacement]
  | some value => simp [Piece.filled, hvalue, replacement_eq_insertion]

/-- A word character is no quotation mark. -/
theorem enclosing?_of_isWordChar {c : Char} (hc : Text.isWordChar c = true) (after : Option Char) :
    enclosing? (some c) after = enclosing? none after := by
  have hsingle : c ≠ '\'' := by rintro rfl; revert hc; decide
  have hdouble : c ≠ '"' := by rintro rfl; revert hc; decide
  simp [enclosing?, hsingle, hdouble]

/-- Filling keeps the last character of the text in front, unless a name ends there. Either way the
quotation marks next to a placeholder are seen. -/
theorem text_fillPieces {s : List Char} {pieces : List Piece} (h : IsFactoring s pieces)
    (reserved : Reserved) (lookup : String → Option String) {last : Option Char}
    {before : List Char}
    (hlast : ∀ after, enclosing? last after = enclosing? before.getLast? after) :
    (fillPieces reserved lookup last pieces).text =
      filledPieces (fun name => (reserved name).or (lookup name)) before pieces := by
  induction h generalizing last before with
  | nil => rfl
  | @literal c rest pieces _ _ ih =>
    have hnext (after : Option Char) : enclosing? (some c) after =
        enclosing? (before ++ (Piece.literal c).source).getLast? after := by simp [Piece.source]
    rw [filledPieces_cons, ← ih hnext]
    rfl
  | @placeholder name rest pieces hname _ _ ih =>
    obtain ⟨hne, hword⟩ := Text.isWord_iff.1 hname
    have hend (after : Option Char) : enclosing? none after =
        enclosing? (before ++ (Piece.placeholder name).source).getLast? after := by
      obtain ⟨front, c, hfront⟩ := (List.eq_nil_or_concat name.toList).resolve_left hne
      have hc : Text.isWordChar c = true := hword c (by simp [hfront])
      have hsource : before ++ (Piece.placeholder name).source = (before ++ ':' :: front) ++ [c] := by
        simp [Piece.source, hfront]
      rw [hsource, List.getLast?_concat, enclosing?_of_isWordChar hc]
    rw [text_fillPieces_placeholder, filledPieces_cons, ← replacement_eq_filled, ih hend, hlast,
      firstChar?_eq]

/-- Every name that is not reserved is asked for, once for each of its placeholders. -/
theorem requested_fillPieces (reserved : Reserved) (lookup : String → Option String)
    (last : Option Char) (pieces : List Piece) :
    (fillPieces reserved lookup last pieces).requested =
      (namesOf pieces).filter fun name => (reserved name).isNone := by
  induction pieces generalizing last with
  | nil => rfl
  | cons piece pieces ih =>
    cases piece with
    | literal c => exact ih (some c)
    | placeholder name =>
      have hnames : namesOf (.placeholder name :: pieces) = name :: namesOf pieces := rfl
      rw [hnames, fillPieces]
      cases hname : reserved name with
      | none => simp [hname, ih]
      | some value => simp [hname, ih]

theorem text_filling (reserved : Reserved) (template : String) (lookup : String → Option String) :
    (filling reserved template lookup).text =
      filledPieces (fun name => (reserved name).or (lookup name)) [] (piecesOf template.toList) := by
  have hstart (after : Option Char) : enclosing? none after =
      enclosing? ([] : List Char).getLast? after := rfl
  exact text_fillPieces (isFactoring_piecesOf _) reserved lookup hstart

theorem requested_filling (reserved : Reserved) (template : String)
    (lookup : String → Option String) :
    (filling reserved template lookup).requested =
      (namesOf (piecesOf template.toList)).filter fun name => (reserved name).isNone :=
  requested_fillPieces reserved lookup none _

/-- A template is made of literal characters and placeholders in one way only. Filling it, and
wrapping a command in it, puts the literal characters and what stands for the placeholders one
behind the other, and asks for the names of the placeholders in order, except for those whose value
the job gives. The names asked for are the same for every job and all values. -/
theorem filling_singlePass (template : String) :
    ∃ pieces, (∀ other, IsFactoring template.toList other ↔ other = pieces) ∧
      ∀ (task job : String) (lookup : String → Option String),
        (fill template task lookup).toList =
          filledPieces (fun name => if name = "task" then some task else lookup name) [] pieces ∧
        (wrap template job task lookup).toList =
          filledPieces (fun name => if name = "job" then some job
            else if name = "task" then some task else lookup name) [] pieces ∧
        (filling (taskReserved task) template lookup).requested =
          (namesOf pieces).filter (· ≠ "task") ∧
        (filling (jobReserved job task) template lookup).requested =
          (namesOf pieces).filter fun name => name ≠ "job" ∧ name ≠ "task" := by
  refine ⟨piecesOf template.toList, fun other => isFactoring_iff, fun task job lookup => ?_⟩
  have htask (name : String) : (taskReserved task name).or (lookup name) =
      if name = "task" then some task else lookup name := by
    unfold taskReserved taskName
    split <;> rfl
  have hjob (name : String) : (jobReserved job task name).or (lookup name) =
      if name = "job" then some job else if name = "task" then some task else lookup name := by
    rw [← htask]
    unfold jobReserved jobName
    split <;> rfl
  refine ⟨?_, ?_, ?_, ?_⟩
  · rw [fill, String.toList_ofList, text_filling]
    simp only [htask]
  · rw [wrap, String.toList_ofList, text_filling]
    simp only [hjob]
  · rw [requested_filling]
    apply List.filter_congr
    intro name _
    by_cases hname : name = "task" <;> simp [taskReserved, taskName, hname]
  · rw [requested_filling]
    apply List.filter_congr
    intro name _
    by_cases hname : name = "job" <;> by_cases hname' : name = "task" <;>
      simp [jobReserved, jobName, taskReserved, taskName, hname, hname']

end CrontabRenderer.Template

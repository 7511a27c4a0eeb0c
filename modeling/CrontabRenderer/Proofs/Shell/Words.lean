import CrontabRenderer.Template
import Mathlib.Tactic.Common

/-!
# Shell words

How the quoting of a POSIX shell splits a line into words: at unquoted spaces, tabs and newlines.
Everything between single quotation marks stands for itself; between double ones the backslash quotes
a few characters; outside of both it quotes any. Operators, comments and expansions are left out. A
value between single marks, with the marks in it escaped, is read back as it was
(`Lexer.run_escape_single`).
-/
namespace CrontabRenderer.Shell

open Template (Quote)

inductive Quoting where
  | unquoted
  /-- Behind a backslash outside quotation marks. -/
  | escaped
  | single
  | double
  /-- Behind a backslash between double quotation marks. -/
  | doubleEscaped
  deriving Repr, DecidableEq

/-- How far a line is read: the quoting at the next character, the word that has begun there if one
has, and the words before it. -/
structure Lexer where
  quoting : Quoting := .unquoted
  word : Option (List Char) := none
  words : List (List Char) := []
  deriving Repr, DecidableEq

def isSeparator (c : Char) : Bool := c == ' ' || c == '\t' || c == '\n'

/-- The backslash quotes the character also between double quotation marks. -/
def isSpecialInDouble (c : Char) : Bool := c == '$' || c == '`' || c == '"' || c == '\\'

/-- A character that needs no quotation: no blank, no quotation mark and no backslash. -/
def isPlain (c : Char) : Bool := !Text.isBlank c && c != '\'' && c != '"' && c != '\\'

/-- Characters that need no quotation, at least one of them. -/
def isPlainWord (word : List Char) : Bool := !word.isEmpty && word.all isPlain

theorem isPlainWord_iff {word : List Char} :
    isPlainWord word = true ↔ word ≠ [] ∧ ∀ c ∈ word, isPlain c = true := by
  simp [isPlainWord]

theorem not_isBlank_of_isPlain {c : Char} (hc : isPlain c = true) : Text.isBlank c = false := by
  simp only [isPlain, Bool.and_eq_true, Bool.not_eq_true'] at hc
  exact hc.1.1.1

theorem isBlank_of_isSeparator {c : Char} (hc : isSeparator c = true) : Text.isBlank c = true := by
  simp only [isSeparator, Bool.or_eq_true, beq_iff_eq] at hc
  rcases hc with (rfl | rfl) | rfl <;> decide

namespace Lexer

/-- Goes on with the word, or begins one. -/
def put (lexer : Lexer) (s : List Char) : Lexer :=
  { lexer with word := some (lexer.word.getD [] ++ s) }

def endWord (lexer : Lexer) : Lexer :=
  match lexer.word with
  | none => lexer
  | some word => { lexer with word := none, words := lexer.words ++ [word] }

/-- Reads a character. A newline behind a backslash is dropped with it. -/
def step (lexer : Lexer) (c : Char) : Lexer :=
  match lexer.quoting with
  | .unquoted =>
    if isSeparator c then lexer.endWord
    else if c = '\'' then { lexer.put [] with quoting := .single }
    else if c = '"' then { lexer.put [] with quoting := .double }
    else if c = '\\' then { lexer with quoting := .escaped }
    else lexer.put [c]
  | .escaped =>
    if c = '\n' then { lexer with quoting := .unquoted }
    else { lexer.put [c] with quoting := .unquoted }
  | .single => if c = '\'' then { lexer with quoting := .unquoted } else lexer.put [c]
  | .double =>
    if c = '"' then { lexer with quoting := .unquoted }
    else if c = '\\' then { lexer with quoting := .doubleEscaped }
    else lexer.put [c]
  | .doubleEscaped =>
    if c = '\n' then { lexer with quoting := .double }
    else if isSpecialInDouble c then { lexer.put [c] with quoting := .double }
    else { lexer.put ['\\', c] with quoting := .double }

def run (lexer : Lexer) (s : List Char) : Lexer := s.foldl step lexer

/-- The words at the end of the line, unless it ends inside a quotation. -/
def finish? (lexer : Lexer) : Option (List (List Char)) :=
  if lexer.quoting = .unquoted then some lexer.endWord.words else none

@[simp] theorem run_nil (lexer : Lexer) : lexer.run [] = lexer := rfl

@[simp] theorem run_cons (lexer : Lexer) (c : Char) (s : List Char) :
    lexer.run (c :: s) = (lexer.step c).run s := rfl

theorem run_append (lexer : Lexer) (s t : List Char) :
    lexer.run (s ++ t) = (lexer.run s).run t := by
  simp [run, List.foldl_append]

theorem step_plain {c : Char} (hc : isPlain c = true) (word : Option (List Char))
    (words : List (List Char)) :
    step ⟨.unquoted, word, words⟩ c = ⟨.unquoted, some (word.getD [] ++ [c]), words⟩ := by
  have hseparator : ¬isSeparator c = true := by
    intro hseparator
    have hblank := isBlank_of_isSeparator hseparator
    rw [not_isBlank_of_isPlain hc] at hblank
    cases hblank
  simp only [isPlain, Bool.and_eq_true, bne_iff_ne] at hc
  obtain ⟨⟨⟨-, hsingle⟩, hdouble⟩, hbackslash⟩ := hc
  simp [step, put, hseparator, hsingle, hdouble, hbackslash]

theorem step_separator {c : Char} (hc : isSeparator c = true) (word : List Char)
    (words : List (List Char)) :
    step ⟨.unquoted, some word, words⟩ c = ⟨.unquoted, none, words ++ [word]⟩ := by
  simp [step, endWord, hc]

theorem step_open_single (word : Option (List Char)) (words : List (List Char)) :
    step ⟨.unquoted, word, words⟩ '\'' = ⟨.single, some (word.getD []), words⟩ := by
  simp [step, put, isSeparator]

theorem step_single {c : Char} (hc : c ≠ '\'') (word : List Char) (words : List (List Char)) :
    step ⟨.single, some word, words⟩ c = ⟨.single, some (word ++ [c]), words⟩ := by
  simp [step, put, hc]

theorem step_close_single (word : Option (List Char)) (words : List (List Char)) :
    step ⟨.single, word, words⟩ '\'' = ⟨.unquoted, word, words⟩ := by
  simp [step]

/-- The quotation is closed, a mark is read behind the backslash, and the quotation opened again. -/
theorem run_escapedMark_single (word : List Char) (words : List (List Char)) :
    run ⟨.single, some word, words⟩ Quote.single.escapedMark =
      ⟨.single, some (word ++ ['\'']), words⟩ := by
  simp [Quote.escapedMark, step, put, isSeparator]

/-- An escaped value is read as the value, and the quotation is open again behind it. -/
theorem run_escape_single (word value : List Char) (words : List (List Char)) :
    run ⟨.single, some word, words⟩ (Quote.single.escape value) =
      ⟨.single, some (word ++ value), words⟩ := by
  induction value generalizing word with
  | nil => simp [Quote.escape]
  | cons c value ih =>
    have hescape : Quote.single.escape (c :: value) =
        (if c = '\'' then Quote.single.escapedMark else [c]) ++ Quote.single.escape value := rfl
    have hfirst : run ⟨.single, some word, words⟩
        (if c = '\'' then Quote.single.escapedMark else [c]) =
          ⟨.single, some (word ++ [c]), words⟩ := by
      by_cases hc : c = '\''
      · rw [if_pos hc, run_escapedMark_single, hc]
      · rw [if_neg hc, run_cons, run_nil, step_single hc]
    rw [hescape, run_append, hfirst, ih, List.append_assoc, List.singleton_append]

/-- A quoted value goes on with the word before it, or is a word of its own. -/
theorem run_quoted (word : Option (List Char)) (value : List Char) (words : List (List Char)) :
    run ⟨.unquoted, word, words⟩ ('\'' :: Quote.single.escape value ++ ['\'']) =
      ⟨.unquoted, some (word.getD [] ++ value), words⟩ := by
  rw [run_append, run_cons _ _ (Quote.single.escape value), step_open_single, run_escape_single,
    run_cons, step_close_single, run_nil]

theorem run_plain {s : List Char} (hs : ∀ c ∈ s, isPlain c = true) (word : List Char)
    (words : List (List Char)) :
    run ⟨.unquoted, some word, words⟩ s = ⟨.unquoted, some (word ++ s), words⟩ := by
  induction s generalizing word with
  | nil => simp
  | cons c s ih =>
    obtain ⟨hc, hs⟩ := List.forall_mem_cons.1 hs
    rw [run_cons, step_plain hc, Option.getD_some, ih hs, List.append_assoc,
      List.singleton_append]

/-- Plain characters with separators on both sides are a word. -/
theorem run_plainWord {word : List Char} (hword : isPlainWord word = true)
    (words : List (List Char)) :
    run ⟨.unquoted, none, words⟩ (word ++ [' ']) = ⟨.unquoted, none, words ++ [word]⟩ := by
  obtain ⟨hne, hplain⟩ := isPlainWord_iff.1 hword
  obtain ⟨c, rest, rfl⟩ := List.exists_cons_of_ne_nil hne
  obtain ⟨hc, hrest⟩ := List.forall_mem_cons.1 hplain
  rw [List.cons_append, run_cons, step_plain hc, run_append, run_plain hrest, run_cons,
    step_separator rfl, run_nil]
  rfl

theorem run_plainWords {line : List (List Char)} (hline : ∀ word ∈ line, isPlainWord word = true)
    (words : List (List Char)) :
    run ⟨.unquoted, none, words⟩ (line.flatMap (· ++ [' '])) =
      ⟨.unquoted, none, words ++ line⟩ := by
  induction line generalizing words with
  | nil => simp
  | cons word line ih =>
    obtain ⟨hword, hline⟩ := List.forall_mem_cons.1 hline
    rw [List.flatMap_cons, run_append, run_plainWord hword, ih hline, List.append_assoc,
      List.singleton_append]

end Lexer

/-- The words of a line; `none` if it ends inside a quotation. -/
def words? (line : String) : Option (List String) :=
  (Lexer.run {} line.toList).finish?.map (·.map String.ofList)

/-- A line of plain words and a quoted value behind them is read as these words and the value. -/
theorem words?_quoted_last {line : String} {words : List (List Char)} {value : List Char}
    (hwords : ∀ word ∈ words, isPlainWord word = true)
    (hline : line.toList =
      words.flatMap (· ++ [' ']) ++ ('\'' :: Quote.single.escape value ++ ['\''])) :
    words? line = some (words.map String.ofList ++ [String.ofList value]) := by
  rw [words?, hline, Lexer.run_append, Lexer.run_plainWords hwords, Lexer.run_quoted]
  simp [Lexer.finish?, Lexer.endWord]

example : words? "sh -c 'it'\\''s  \"x\"'" = some ["sh", "-c", "it's  \"x\""] := by
  decide +kernel

end CrontabRenderer.Shell

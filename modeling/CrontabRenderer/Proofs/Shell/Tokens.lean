import CrontabRenderer.Proofs.Shell.Words
import CrontabRenderer.Proofs.Text.Backslashes

/-!
# Shell tokens

How a POSIX shell divides a text without expansions and here-documents into words and operators. An
operator takes as many characters as it can, a comment goes on to the end of its line, and neither
begins inside a quotation. Dollar signs and backquotes are read like any other character: the text
behind a `$(`, a `${` or a backquote is not read apart from the text around it, nor are the lines of
a here-document, and the mark of a `$'` begins the same quotation as any other.

A value between single marks, with the marks in it escaped, goes on with one word
(`Tokenizer.run_singleQuoted`), and the tokens around that word are the same for every value
(`Tokenizer.exists_tokens`). Between double marks the quotation is closed at its end just if every
mark inside stands behind an odd number of backslashes and the end behind an even one
(`Tokenizer.closesAtEnd_iff`).
-/
namespace CrontabRenderer.Shell

open Template (Quote)

inductive Token where
  | word (characters : List Char)
  | operator (characters : List Char)
  deriving Repr, DecidableEq

/-- The newline is one of them. -/
def operators : List (List Char) :=
  ["\n", "&", "&&", "|", "||", ";", ";;", "(", ")", "<", "<<", "<<-", "<&", "<>", ">", ">>", ">&",
    ">|"].map String.toList

/-- What has begun and may go on with the next character. -/
inductive Pending where
  | nothing
  | word (characters : List Char)
  | operator (characters : List Char)
  | comment
  deriving Repr, DecidableEq

/-- How far a text is read: the quoting at the next character, what has begun there, and the tokens
before it. There is no state for what may be inside a word or a document: `$(`, `${`, backquotes and
here-documents open nothing, and `$'` opens what `'` does. -/
structure Tokenizer where
  quoting : Quoting := .unquoted
  pending : Pending := .nothing
  tokens : List Token := []
  deriving Repr, DecidableEq

namespace Tokenizer

/-- The next character is outside of quotations and comments, and not behind a backslash. -/
def IsUnquoted (t : Tokenizer) : Prop := t.quoting = .unquoted ∧ t.pending ≠ .comment

instance (t : Tokenizer) : Decidable t.IsUnquoted := inferInstanceAs (Decidable (_ ∧ _))

def inWord (t : Tokenizer) : Bool :=
  match t.pending with
  | .word _ => true
  | _ => false

/-- The characters of the word that has begun. -/
def begun (t : Tokenizer) : List Char :=
  match t.pending with
  | .word characters => characters
  | _ => []

/-- The tokens before the word that has begun or begins here. -/
def before (t : Tokenizer) : List Token :=
  match t.pending with
  | .operator characters => t.tokens ++ [.operator characters]
  | _ => t.tokens

/-- Goes on with the word, or begins one. -/
def put (t : Tokenizer) (s : List Char) : Tokenizer :=
  ⟨t.quoting, .word (t.begun ++ s), t.before⟩

/-- Ends what has begun. -/
def delimit (t : Tokenizer) : Tokenizer :=
  match t.pending with
  | .word characters => ⟨t.quoting, .nothing, t.tokens ++ [.word characters]⟩
  | _ => ⟨t.quoting, .nothing, t.before⟩

/-- Reads an unquoted character that does not go on with an operator or a comment. -/
def read (t : Tokenizer) (c : Char) : Tokenizer :=
  if [c] ∈ operators then { t.delimit with pending := .operator [c] }
  else if c = ' ' ∨ c = '\t' then t.delimit
  else if c = '\'' then { t.put [] with quoting := .single }
  else if c = '"' then { t.put [] with quoting := .double }
  else if c = '\\' then { t with quoting := .escaped }
  else if c = '#' ∧ t.inWord = false then { t.delimit with pending := .comment }
  else t.put [c]

/-- Reads a character. A newline behind a backslash is dropped with it. -/
def step (t : Tokenizer) (c : Char) : Tokenizer :=
  match t.quoting with
  | .unquoted =>
    match t.pending with
    | .comment => if c = '\n' then t.read c else t
    | .operator characters =>
      if characters ++ [c] ∈ operators then { t with pending := .operator (characters ++ [c]) }
      else t.read c
    | _ => t.read c
  | .escaped =>
    if c = '\n' then { t with quoting := .unquoted } else { t.put [c] with quoting := .unquoted }
  | .single => if c = '\'' then { t with quoting := .unquoted } else t.put [c]
  | .double =>
    if c = '"' then { t with quoting := .unquoted }
    else if c = '\\' then { t with quoting := .doubleEscaped }
    else t.put [c]
  | .doubleEscaped =>
    if c = '\n' then { t with quoting := .double }
    else if isSpecialInDouble c then { t.put [c] with quoting := .double }
    else { t.put ['\\', c] with quoting := .double }

def run (t : Tokenizer) (s : List Char) : Tokenizer := s.foldl step t

/-- The tokens of all the text that is read. -/
def allTokens (t : Tokenizer) : List Token := t.delimit.tokens

@[simp] theorem run_nil (t : Tokenizer) : t.run [] = t := rfl

@[simp] theorem run_cons (t : Tokenizer) (c : Char) (s : List Char) :
    t.run (c :: s) = (t.step c).run s := rfl

theorem run_append (t : Tokenizer) (s u : List Char) : t.run (s ++ u) = (t.run s).run u := by
  simp [run, List.foldl_append]

/-! ## Quotations -/

theorem mark_notMem_operators (quote : Quote) :
    ∀ characters ∈ operators, quote.mark ∉ characters := by
  cases quote <;> decide

theorem step_of_isUnquoted {t : Tokenizer} (h : t.IsUnquoted) (quote : Quote) :
    t.step quote.mark = t.read quote.mark := by
  obtain ⟨_, pending, tokens⟩ := t
  obtain ⟨rfl, hpending⟩ := h
  have hlonger (characters : List Char) : characters ++ [quote.mark] ∉ operators := fun hmem =>
    mark_notMem_operators quote _ hmem (by simp)
  cases pending <;> simp_all [step]

/-- How the characters behind the mark are read. -/
def openQuoting : Quote → Quoting
  | .single => .single
  | .double => .double

/-- An unquoted mark begins a quotation, in the word that has begun or in a new one. -/
theorem step_open {t : Tokenizer} (h : t.IsUnquoted) (quote : Quote) :
    t.step quote.mark = ⟨openQuoting quote, .word t.begun, t.before⟩ := by
  have hread : t.read quote.mark = ⟨openQuoting quote, .word (t.begun ++ []), t.before⟩ := by
    cases quote <;> rfl
  rw [step_of_isUnquoted h, hread, List.append_nil]

theorem step_single {c : Char} (hc : c ≠ '\'') (word : List Char) (tokens : List Token) :
    step ⟨.single, .word word, tokens⟩ c = ⟨.single, .word (word ++ [c]), tokens⟩ := by
  simp [step, hc, put, begun, before]

/-- The quotation is closed, a mark is read behind the backslash, and the quotation opened again. -/
theorem run_escapedMark_single (word : List Char) (tokens : List Token) :
    run ⟨.single, .word word, tokens⟩ Quote.single.escapedMark =
      ⟨.single, .word (word ++ ['\'']), tokens⟩ := by
  have hclosed : step ⟨.single, .word word, tokens⟩ '\'' =
      ⟨.unquoted, .word word, tokens⟩ := rfl
  have hmark : run ⟨.unquoted, .word word, tokens⟩ ['\\', '\''] =
      ⟨.unquoted, .word (word ++ ['\'']), tokens⟩ := rfl
  have hunquoted : IsUnquoted ⟨.unquoted, .word (word ++ ['\'']), tokens⟩ := ⟨rfl, nofun⟩
  have hopen : step ⟨.unquoted, .word (word ++ ['\'']), tokens⟩ '\'' =
      ⟨.single, .word (word ++ ['\'']), tokens⟩ := step_open hunquoted .single
  have hsplit : Quote.single.escapedMark = '\'' :: (['\\', '\''] ++ ['\'']) := rfl
  rw [hsplit, run_cons, hclosed, run_append, hmark, run_cons, hopen, run_nil]

/-- An escaped value is read as the value, and the quotation is open again behind it. -/
theorem run_escape_single (word value : List Char) (tokens : List Token) :
    run ⟨.single, .word word, tokens⟩ (Quote.single.escape value) =
      ⟨.single, .word (word ++ value), tokens⟩ := by
  induction value generalizing word with
  | nil => simp [Quote.escape]
  | cons c value ih =>
    have hescape : Quote.single.escape (c :: value) =
        (if c = '\'' then Quote.single.escapedMark else [c]) ++ Quote.single.escape value :=
      Text.replaceChar_append_cons '\'' Quote.single.escapedMark [] c value
    have hfirst : run ⟨.single, .word word, tokens⟩
        (if c = '\'' then Quote.single.escapedMark else [c]) =
          ⟨.single, .word (word ++ [c]), tokens⟩ := by
      by_cases hc : c = '\''
      · rw [if_pos hc, run_escapedMark_single, hc]
      · rw [if_neg hc, run_cons, run_nil, step_single hc]
    rw [hescape, run_append, hfirst, ih, List.append_assoc, List.singleton_append]

theorem run_open_single {t : Tokenizer} (h : t.IsUnquoted) (value : List Char) :
    t.run ('\'' :: Quote.single.escape value) =
      ⟨.single, .word (t.begun ++ value), t.before⟩ := by
  have hopen : t.step '\'' = ⟨.single, .word t.begun, t.before⟩ := step_open h .single
  rw [run_cons, hopen, run_escape_single]

/-- A value between single marks goes on with one word, or is a word of its own. -/
theorem run_singleQuoted {t : Tokenizer} (h : t.IsUnquoted) (value : List Char) :
    t.run ('\'' :: Quote.single.escape value ++ ['\'']) = t.put value := by
  have hclose : step ⟨.single, .word (t.begun ++ value), t.before⟩ '\'' =
      ⟨.unquoted, .word (t.begun ++ value), t.before⟩ := rfl
  rw [run_append, run_open_single h, run_cons, hclose, run_nil, put, h.1]

/-! ## What one word leaves as it is -/

/-- The same state behind other tokens. -/
def behind (t : Tokenizer) (tokens : List Token) : Tokenizer :=
  { t with tokens := tokens ++ t.tokens }

@[simp] theorem before_behind (t : Tokenizer) (tokens : List Token) :
    (t.behind tokens).before = tokens ++ t.before := by
  obtain ⟨quoting, pending, _⟩ := t
  cases pending <;> simp [behind, before]

@[simp] theorem put_behind (t : Tokenizer) (tokens : List Token) (s : List Char) :
    (t.behind tokens).put s = (t.put s).behind tokens := by
  rw [put, before_behind]
  rfl

@[simp] theorem delimit_behind (t : Tokenizer) (tokens : List Token) :
    (t.behind tokens).delimit = t.delimit.behind tokens := by
  obtain ⟨quoting, pending, _⟩ := t
  cases pending <;> simp [behind, delimit, before]

theorem read_behind (t : Tokenizer) (tokens : List Token) (c : Char) :
    (t.behind tokens).read c = (t.read c).behind tokens := by
  have hinWord : (t.behind tokens).inWord = t.inWord := rfl
  simp only [read, delimit_behind, put_behind, hinWord]
  split_ifs <;> rfl

/-- What is read does not depend on the tokens before it. -/
theorem step_behind (t : Tokenizer) (tokens : List Token) (c : Char) :
    (t.behind tokens).step c = (t.step c).behind tokens := by
  have hquoting : (t.behind tokens).quoting = t.quoting := rfl
  have hpending : (t.behind tokens).pending = t.pending := rfl
  simp only [step, put_behind, read_behind, hquoting, hpending]
  split
  · split
    · split_ifs <;> rfl
    · split_ifs <;> rfl
    · rfl
  all_goals split_ifs <;> rfl

/-- A character goes on with a word or ends it, whatever the word is. -/
theorem step_word (quoting : Quoting) (c : Char) :
    (∃ quoting' more, ∀ word tokens, step ⟨quoting, .word word, tokens⟩ c =
      ⟨quoting', .word (word ++ more), tokens⟩) ∨
    ∃ quoting' pending, ∀ word tokens, step ⟨quoting, .word word, tokens⟩ c =
      ⟨quoting', pending, tokens ++ [.word word]⟩ := by
  cases quoting with
  | unquoted =>
    have hword (word : List Char) (tokens : List Token) :
        inWord ⟨.unquoted, .word word, tokens⟩ = true := rfl
    simp only [step, read, delimit, put, begun, before, hword, Bool.true_eq_false, and_false,
      if_false]
    split_ifs
    · exact .inr ⟨.unquoted, .operator [c], fun _ _ => rfl⟩
    · exact .inr ⟨.unquoted, .nothing, fun _ _ => rfl⟩
    · exact .inl ⟨.single, [], fun _ _ => rfl⟩
    · exact .inl ⟨.double, [], fun _ _ => rfl⟩
    · exact .inl ⟨.escaped, [], by simp⟩
    · exact .inl ⟨.unquoted, [c], fun _ _ => rfl⟩
  | escaped =>
    simp only [step, put, begun, before]
    split_ifs
    · exact .inl ⟨.unquoted, [], by simp⟩
    · exact .inl ⟨.unquoted, [c], by simp⟩
  | single =>
    simp only [step, put, begun, before]
    split_ifs
    · exact .inl ⟨.unquoted, [], by simp⟩
    · exact .inl ⟨.single, [c], by simp⟩
  | double =>
    simp only [step, put, begun, before]
    split_ifs
    · exact .inl ⟨.unquoted, [], by simp⟩
    · exact .inl ⟨.doubleEscaped, [], by simp⟩
    · exact .inl ⟨.double, [c], by simp⟩
  | doubleEscaped =>
    simp only [step, put, begun, before]
    split_ifs
    · exact .inl ⟨.double, [], by simp⟩
    · exact .inl ⟨.double, [c], by simp⟩
    · exact .inl ⟨.double, ['\\', c], by simp⟩

/-- States that are alike but for a text inside one word, which is still going on or is one of the
tokens. -/
inductive VariesInWord (state : List Char → Tokenizer) : Prop
  | pending (quoting : Quoting) (front back : List Char) (head : List Token)
      (h : ∀ s, state s = ⟨quoting, .word (front ++ s ++ back), head⟩)
  | token (quoting : Quoting) (pending : Pending) (front back : List Char) (head tail : List Token)
      (h : ∀ s, state s = behind ⟨quoting, pending, tail⟩ (head ++ [.word (front ++ s ++ back)]))

theorem VariesInWord.step {state : List Char → Tokenizer} (h : VariesInWord state) (c : Char) :
    VariesInWord fun s => (state s).step c := by
  cases h with
  | pending quoting front back head hstate =>
    rcases step_word quoting c with ⟨quoting', more, hstep⟩ | ⟨quoting', pending, hstep⟩
    · exact .pending quoting' front (back ++ more) head fun s => by simp [hstate, hstep]
    · exact .token quoting' pending front back head [] fun s => by simp [hstate, hstep, behind]
  | token quoting pending front back head tail hstate =>
    exact .token _ _ front back head (Tokenizer.step ⟨quoting, pending, tail⟩ c).tokens fun s => by
      rw [hstate, step_behind]

theorem VariesInWord.run {state : List Char → Tokenizer} (h : VariesInWord state)
    (text : List Char) : VariesInWord fun s => (state s).run text := by
  induction text generalizing state with
  | nil => exact h
  | cons c text ih => exact ih (h.step c)

/-- At the end of the text the quoting and the other tokens are the same. -/
theorem VariesInWord.exists_allTokens {state : List Char → Tokenizer} (h : VariesInWord state) :
    ∃ quoting head front back tail, ∀ s, (state s).quoting = quoting ∧
      (state s).allTokens = head ++ .word (front ++ s ++ back) :: tail := by
  cases h with
  | pending quoting front back head hstate =>
    refine ⟨quoting, head, front, back, [], fun s => ?_⟩
    rw [hstate]
    exact ⟨rfl, rfl⟩
  | token quoting pending front back head tail hstate =>
    refine ⟨quoting, head, front, back, (delimit ⟨quoting, pending, tail⟩).tokens, fun s => ?_⟩
    rw [hstate, allTokens, delimit_behind]
    exact ⟨rfl, by simp [behind]⟩

/-- Whatever value stands between the marks, the text around it is divided in the same way, and the
value is a part of one word. -/
theorem exists_tokens {t : Tokenizer} (h : t.IsUnquoted) (rest : List Char) :
    ∃ quoting head front back tail, ∀ value,
      let read := t.run ('\'' :: Quote.single.escape value ++ '\'' :: rest)
      read.quoting = quoting ∧ read.allTokens = head ++ .word (front ++ value ++ back) :: tail := by
  have hvaries : VariesInWord fun value => t.put value :=
    .pending t.quoting t.begun [] t.before fun value => by rw [put, List.append_nil]
  obtain ⟨quoting, head, front, back, tail, hall⟩ := (hvaries.run rest).exists_allTokens
  refine ⟨quoting, head, front, back, tail, fun value => ?_⟩
  have hread : t.run ('\'' :: Quote.single.escape value ++ '\'' :: rest) =
      (t.put value).run rest := by
    rw [← run_singleQuoted h, ← run_append]
    simp
  rw [hread]
  exact hall value

/-! ## Quotations between double marks -/

/-- The mark behind the text, and none before it, ends the quotation that the mark in front of the
text begins. -/
def ClosesAtEnd (t : Tokenizer) (mark : Char) (inner : List Char) : Prop :=
  (∀ front, front <+: inner → (t.run (mark :: front)).quoting ≠ .unquoted) ∧
    (t.run (mark :: inner ++ [mark])).quoting = .unquoted

/-- A backslash escapes the next character just if it is not escaped itself. -/
def doubleQuoting (s : List Char) : Quoting :=
  if Odd (Text.finalBackslashes s) then .doubleEscaped else .double

/-- Marks behind an odd number of backslashes leave the quotation open. -/
theorem run_double {inner : List Char} (h : Text.AllEscaped '"' inner) (word : List Char)
    (tokens : List Token) :
    ∃ read, run ⟨.double, .word word, tokens⟩ inner =
      ⟨doubleQuoting inner, .word (word ++ read), tokens⟩ := by
  induction inner using List.reverseRecOn with
  | nil => exact ⟨[], by simp [doubleQuoting]⟩
  | append_singleton inner c ih =>
    obtain ⟨hinner, hlast⟩ := Text.beforeEach_append_singleton.1 h
    obtain ⟨read, hread⟩ := ih hinner
    rw [run_append, hread, run_cons, run_nil]
    by_cases hodd : Odd (Text.finalBackslashes inner)
    · have hquoting : doubleQuoting (inner ++ [c]) = .double := by
        rw [doubleQuoting, Text.finalBackslashes_append_singleton]
        split <;> simp [Nat.odd_add_one, hodd]
      rw [hquoting, doubleQuoting, if_pos hodd]
      simp only [step, put, begun, before]
      split_ifs
      · exact ⟨read, rfl⟩
      · exact ⟨read ++ [c], by simp⟩
      · exact ⟨read ++ ['\\', c], by simp⟩
    · have hmark : c ≠ '"' := fun hc => hodd (hlast hc)
      rw [doubleQuoting, if_neg hodd, doubleQuoting, Text.finalBackslashes_append_singleton]
      by_cases hc : c = '\\'
      · exact ⟨read, by simp [step, hc, Nat.odd_add_one, hodd]⟩
      · exact ⟨read ++ [c], by simp [step, hc, hmark, put, begun, before]⟩

theorem run_open_double {t : Tokenizer} (h : t.IsUnquoted) {inner : List Char}
    (hinner : Text.AllEscaped '"' inner) :
    ∃ read, t.run ('"' :: inner) =
      ⟨doubleQuoting inner, .word (t.begun ++ read), t.before⟩ := by
  have hopen : t.step '"' = ⟨.double, .word t.begun, t.before⟩ := step_open h .double
  rw [run_cons, hopen]
  exact run_double hinner _ _

/-- A quotation that is closed at its end goes on with one word, or is a word of its own. -/
theorem run_doubleQuoted {t : Tokenizer} (h : t.IsUnquoted) {inner : List Char}
    (hinner : Text.AllEscaped '"' inner) (heven : Even (Text.finalBackslashes inner)) :
    ∃ read, t.run ('"' :: inner ++ ['"']) = t.put read := by
  obtain ⟨read, hread⟩ := run_open_double h hinner
  rw [doubleQuoting, if_neg (Nat.not_odd_iff_even.2 heven)] at hread
  refine ⟨read, ?_⟩
  rw [run_append, hread, put, h.1]
  rfl

/-- The quotation is closed at its end just if no mark inside and not the mark at the end stands
behind the wrong number of backslashes. -/
theorem closesAtEnd_iff {t : Tokenizer} (h : t.IsUnquoted) {inner : List Char} :
    t.ClosesAtEnd '"' inner ↔
      Text.AllEscaped '"' inner ∧ Even (Text.finalBackslashes inner) := by
  constructor
  · rintro ⟨hopen, hclosed⟩
    have hinner : Text.AllEscaped '"' inner := by
      by_contra hnot
      obtain ⟨front, back, rfl, hodd, hfront⟩ := Text.exists_first_of_not_beforeEach hnot
      obtain ⟨read, hread⟩ := run_open_double h hfront
      rw [doubleQuoting, if_neg hodd] at hread
      have hmark := hopen (front ++ ['"']) ⟨back, by simp⟩
      rw [← List.cons_append, run_append, hread] at hmark
      exact hmark rfl
    refine ⟨hinner, ?_⟩
    by_contra hodd
    obtain ⟨read, hread⟩ := run_open_double h hinner
    rw [doubleQuoting, if_pos (Nat.not_even_iff_odd.1 hodd)] at hread
    rw [run_append, hread] at hclosed
    cases hclosed
  · rintro ⟨hinner, heven⟩
    refine ⟨?_, ?_⟩
    · rintro front ⟨back, rfl⟩
      obtain ⟨read, hread⟩ := run_open_double h hinner.of_append
      rw [hread, doubleQuoting]
      split <;> simp
    · obtain ⟨read, hread⟩ := run_doubleQuoted h hinner heven
      rw [hread]
      exact h.1

end Tokenizer

end CrontabRenderer.Shell

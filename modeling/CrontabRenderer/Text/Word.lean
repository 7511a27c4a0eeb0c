/-!
# Names

A name is a word: ASCII letters, digits and underscores, at least one of them.
-/
namespace CrontabRenderer.Text

def isWordChar (c : Char) : Bool := c.isAlphanum || c == '_'

def isWord (s : String) : Bool := !s.toList.isEmpty && s.toList.all isWordChar

theorem isWord_iff {s : String} :
    isWord s = true ↔ s.toList ≠ [] ∧ ∀ c ∈ s.toList, isWordChar c = true := by
  simp [isWord]

end CrontabRenderer.Text

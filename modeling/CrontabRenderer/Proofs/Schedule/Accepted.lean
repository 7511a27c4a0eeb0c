import CrontabRenderer.Proofs.Results
import CrontabRenderer.Proofs.Text.Lowercase
import CrontabRenderer.Proofs.Text.Words
import CrontabRenderer.Schedule

/-!
# Accepted time expressions

An accepted expression has no blank at its ends (`IsAccepted.trim_expression`). It is made of five
words, or it is a shortcut and has no blank at all (`IsAccepted.words`). Between the words any blank
may stand.
-/
namespace CrontabRenderer.Schedule

/-- The shortcuts, in small letters. -/
def shortcuts : List String :=
  ["@reboot", "@yearly", "@annually", "@monthly", "@weekly", "@daily", "@midnight", "@hourly"]

theorem not_isBlank_of_mem_shortcut {name : String} (hname : name ∈ shortcuts) :
    ∀ c ∈ name.toList, Text.isBlank c = false := by
  have hshortcuts : ∀ name ∈ shortcuts, name.toList.all (!Text.isBlank ·) = true := by decide
  simpa using hshortcuts name hname

theorem isAscii_of_mem_shortcut {name : String} (hname : name ∈ shortcuts) :
    ∀ c ∈ name.toList, Text.isAscii c = true := by
  have hshortcuts : ∀ name ∈ shortcuts, name.toList.all Text.isAscii = true := by decide
  simpa using hshortcuts name hname

/-- Small letters are written for letters only. -/
theorem asciiSmall_eq_self_of_isBlank {c : Char} (hc : Text.isBlank c = true) :
    Text.asciiSmall c = c := by
  have hkelvin : c ≠ Text.kelvinSign := by
    rintro rfl
    revert hc
    decide
  have hupper : ¬('A'.val ≤ c.val ∧ c.val ≤ 'Z'.val) := by
    rintro ⟨hfirst, hlast⟩
    have hfirst : 65 ≤ c.toNat := UInt32.le_iff_toNat_le.1 hfirst
    have hlast : c.toNat ≤ 90 := UInt32.le_iff_toNat_le.1 hlast
    simp only [Text.isBlank, Bool.or_eq_true, Bool.and_eq_true, decide_eq_true_eq, beq_iff_eq] at hc
    omega
  rw [Text.asciiSmall, if_neg hkelvin]
  exact dif_neg hupper

theorem lowercase_mem_shortcuts_of_ofShortcut {expression : String} {timing : Timing}
    (h : ofShortcut expression = .ok timing) : Text.lowercase expression ∈ shortcuts := by
  by_contra hname
  simp only [shortcuts, List.mem_cons, List.not_mem_nil, or_false, not_or] at hname
  obtain ⟨hreboot, hyearly, hannually, hmonthly, hweekly, hdaily, hmidnight, hhourly⟩ := hname
  simp [ofShortcut, hreboot, hyearly, hannually, hmonthly, hweekly, hdaily, hmidnight, hhourly] at h

/-- A shortcut is one word, however its letters are written. -/
theorem not_isBlank_of_ofShortcut {expression : String} {timing : Timing}
    (h : ofShortcut expression = .ok timing) : ∀ c ∈ expression.toList, Text.isBlank c = false := by
  intro c hmem
  by_contra hc
  have hc : Text.isBlank c = true := by simpa using hc
  have hshortcut := lowercase_mem_shortcuts_of_ofShortcut h
  have hname := (Text.lowercase_eq_iff (isAscii_of_mem_shortcut hshortcut)).1 rfl
  have hlower : c ∈ (Text.lowercase expression).toList := by
    rw [← hname]
    exact List.mem_map.2 ⟨c, hmem, asciiSmall_eq_self_of_isBlank hc⟩
  rw [not_isBlank_of_mem_shortcut hshortcut c hlower] at hc
  cases hc

theorem length_wordsOf_of_ofFields {expression : String} {timing : Timing}
    (h : ofFields expression = .ok timing) : (Text.wordsOf expression.toList).length = 5 := by
  unfold ofFields readFields at h
  split at h
  · rename_i hread
    split at hread
    · rename_i hwords
      rw [hwords]
      rfl
    · cases hread
  · cases h

theorem ofText_eq_ok_iff {text : String} {schedule : Schedule} :
    ofText text = .ok schedule ↔ schedule.expression = Text.trim text ∧
      (if schedule.expression.toList.head? = some '@' then ofShortcut schedule.expression
        else ofFields schedule.expression) = .ok schedule.timing := by
  obtain ⟨expression, timing⟩ := schedule
  have hread (result : Except ScheduleError Timing) :
      (do return (⟨Text.trim text, ← result⟩ : Schedule)) = .ok ⟨expression, timing⟩ ↔
        expression = Text.trim text ∧ result = .ok timing := by
    rw [bind_eq_ok_iff]
    constructor
    · rintro ⟨value, hresult, h⟩
      cases h
      exact ⟨rfl, hresult⟩
    · rintro ⟨rfl, hresult⟩
      exact ⟨timing, hresult, rfl⟩
  rw [ofText]
  by_cases hhead : (Text.trim text).toList.head? = some '@'
  · rw [if_pos hhead, hread]
    apply and_congr_right
    intro hexpression
    rw [hexpression, if_pos hhead]
  · rw [if_neg hhead, hread]
    apply and_congr_right
    intro hexpression
    rw [hexpression, if_neg hhead]

/-- A schedule that was read from some text. -/
def IsAccepted (schedule : Schedule) : Prop := ∃ text, ofText text = .ok schedule

theorem IsAccepted.trim_expression {schedule : Schedule} (h : schedule.IsAccepted) :
    Text.trim schedule.expression = schedule.expression := by
  obtain ⟨text, htext⟩ := h
  rw [(ofText_eq_ok_iff.1 htext).1, Text.trim_trim]

/-- An accepted expression is a shortcut without blanks or has five words. -/
theorem IsAccepted.words {schedule : Schedule} (h : schedule.IsAccepted) :
    (schedule.expression.toList.head? = some '@' ∧
      ∀ c ∈ schedule.expression.toList, Text.isBlank c = false) ∨
    (Text.wordsOf schedule.expression.toList).length = 5 := by
  obtain ⟨text, htext⟩ := h
  have htiming := (ofText_eq_ok_iff.1 htext).2
  split at htiming
  · rename_i hhead
    exact .inl ⟨hhead, not_isBlank_of_ofShortcut htiming⟩
  · exact .inr (length_wordsOf_of_ofFields htiming)

end CrontabRenderer.Schedule

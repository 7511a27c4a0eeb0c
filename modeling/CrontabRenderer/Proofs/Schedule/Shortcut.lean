import CrontabRenderer.Crontab
import CrontabRenderer.Proofs.Schedule.Accepted

/-!
# Shortcuts

Which expressions that begin with an `@` are accepted: the eight shortcuts in letters of either
case, and the one among them with a `k` also with a Kelvin sign in its place
(`Schedule.ofText_shortcut`). The crontab gets the expression as it was written.
-/
namespace CrontabRenderer

namespace Text

/-- The texts are the same up to the case of ASCII letters. -/
def SameLetters (s t : String) : Prop := s.toList.map Char.toLower = t.toList.map Char.toLower

instance (s t : String) : Decidable (SameLetters s t) := inferInstanceAs (Decidable (_ = _))

theorem isAscii_toLower (c : Char) : isAscii c.toLower = isAscii c := by
  cases hascii : isAscii c with
  | false => rw [toLower_of_not_isAscii hascii, hascii]
  | true =>
    have hsmall : ∀ n < 0x80, isAscii (Char.ofNat n).toLower = true := by decide
    rw [← Char.ofNat_toNat c]
    exact hsmall c.toNat (by simpa [isAscii] using hascii)

theorem all_isAscii_iff_of_sameLetters {s t : String} (h : SameLetters s t) :
    (∀ c ∈ s.toList, isAscii c = true) ↔ ∀ c ∈ t.toList, isAscii c = true := by
  have hmap (u : String) : (∀ c ∈ u.toList, isAscii c = true) ↔
      ∀ c ∈ u.toList.map Char.toLower, isAscii c = true := by
    simp only [List.forall_mem_map, isAscii_toLower]
  rw [hmap s, hmap t, h]

theorem asciiSmall_eq_k_iff {c : Char} :
    asciiSmall c = 'k' ↔ c.toLower = 'k' ∨ c = kelvinSign := by
  rw [asciiSmall]
  by_cases hkelvin : c = kelvinSign
  · simp [hkelvin]
  · simp [hkelvin]

/-- Without a `k` in the small letters there is no Kelvin sign in the text. -/
theorem map_asciiSmall_eq_iff {s name : List Char} (hname : ∀ c ∈ name, isAscii c = true)
    (hk : 'k' ∉ name) : s.map asciiSmall = name ↔ s.map Char.toLower = name := by
  have hsame (hkelvin : kelvinSign ∉ s) : s.map asciiSmall = s.map Char.toLower := by
    apply List.map_congr_left
    intro c hc
    exact if_neg fun hsign : c = kelvinSign => hkelvin (hsign ▸ hc)
  constructor
  · rintro rfl
    refine (hsame fun hmem => hk ?_).symm
    exact List.mem_map.2 ⟨kelvinSign, hmem, by decide⟩
  · rintro rfl
    refine hsame fun hmem => ?_
    have hlower := hname kelvinSign.toLower (List.mem_map_of_mem hmem)
    revert hlower
    decide

/-- The letter between two parts without a `k` may be a Kelvin sign. -/
theorem map_asciiSmall_eq_append_iff {s front back : List Char}
    (hfront : ∀ c ∈ front, isAscii c = true) (hback : ∀ c ∈ back, isAscii c = true)
    (hk : 'k' ∉ front) (hk' : 'k' ∉ back) :
    s.map asciiSmall = front ++ 'k' :: back ↔
      s.map Char.toLower = front ++ 'k' :: back ∨
        s.map Char.toLower = front ++ kelvinSign :: back := by
  have hsign (c : Char) : c.toLower = kelvinSign ↔ c = kelvinSign := by
    constructor
    · intro h
      have hascii : isAscii c = false := by
        rw [← isAscii_toLower, h]
        decide
      rwa [toLower_of_not_isAscii hascii] at h
    · rintro rfl
      decide
  simp only [List.map_eq_append_iff, List.map_eq_cons_iff]
  constructor
  · rintro ⟨before, rest, rfl, hbefore, c, after, rfl, hc, hafter⟩
    rw [map_asciiSmall_eq_iff hfront hk] at hbefore
    rw [map_asciiSmall_eq_iff hback hk'] at hafter
    rcases asciiSmall_eq_k_iff.1 hc with hc | hc
    · exact .inl ⟨before, _, rfl, hbefore, c, after, rfl, hc, hafter⟩
    · exact .inr ⟨before, _, rfl, hbefore, c, after, rfl, (hsign c).2 hc, hafter⟩
  · rintro (⟨before, rest, rfl, hbefore, c, after, rfl, hc, hafter⟩ |
      ⟨before, rest, rfl, hbefore, c, after, rfl, hc, hafter⟩)
    · exact ⟨before, _, rfl, (map_asciiSmall_eq_iff hfront hk).2 hbefore, c, after, rfl,
        asciiSmall_eq_k_iff.2 (.inl hc), (map_asciiSmall_eq_iff hback hk').2 hafter⟩
    · exact ⟨before, _, rfl, (map_asciiSmall_eq_iff hfront hk).2 hbefore, c, after, rfl,
        asciiSmall_eq_k_iff.2 (.inr ((hsign c).1 hc)), (map_asciiSmall_eq_iff hback hk').2 hafter⟩

end Text

namespace Schedule

/-- The weekly shortcut with a Kelvin sign for its `k`. -/
def kelvinShortcut : String := "@wee\u212aly"

theorem map_toLower_of_mem_shortcuts {name : String} (h : name ∈ kelvinShortcut :: shortcuts) :
    name.toList.map Char.toLower = name.toList := by
  have hall : ∀ name ∈ kelvinShortcut :: shortcuts, name.toList.map Char.toLower = name.toList := by
    decide
  exact hall name h

theorem lowercase_eq_weekly_iff {e : String} : Text.lowercase e = "@weekly" ↔
    Text.SameLetters e "@weekly" ∨ Text.SameLetters e kelvinShortcut := by
  rw [Text.lowercase_eq_iff (isAscii_of_mem_shortcut (by decide)), Text.SameLetters,
    Text.SameLetters, @map_toLower_of_mem_shortcuts "@weekly" (by decide),
    @map_toLower_of_mem_shortcuts kelvinShortcut (by decide)]
  have hweekly : "@weekly".toList = "@wee".toList ++ 'k' :: "ly".toList := by decide
  have hkelvin : kelvinShortcut.toList = "@wee".toList ++ Text.kelvinSign :: "ly".toList := by
    decide
  rw [hweekly, hkelvin]
  exact Text.map_asciiSmall_eq_append_iff (List.all_eq_true.1 (by decide))
    (List.all_eq_true.1 (by decide)) (by decide) (by decide)

theorem lowercase_eq_iff_of_ne_weekly {e name : String} (hname : name ∈ shortcuts)
    (hweekly : name ≠ "@weekly") : Text.lowercase e = name ↔ Text.SameLetters e name := by
  have hk : ∀ name ∈ shortcuts, name ≠ "@weekly" → 'k' ∉ name.toList := by decide
  rw [Text.lowercase_eq_iff (isAscii_of_mem_shortcut hname), Text.SameLetters,
    map_toLower_of_mem_shortcuts (List.mem_cons_of_mem _ hname),
    Text.map_asciiSmall_eq_iff (isAscii_of_mem_shortcut hname) (hk name hname hweekly)]

theorem lowercase_mem_shortcuts_iff {e : String} : Text.lowercase e ∈ shortcuts ↔
    ∃ name ∈ kelvinShortcut :: shortcuts, Text.SameLetters e name := by
  rw [List.exists_mem_cons_iff]
  constructor
  · intro h
    by_cases hweekly : Text.lowercase e = "@weekly"
    · rcases lowercase_eq_weekly_iff.1 hweekly with hsame | hsame
      · exact .inr ⟨"@weekly", by decide, hsame⟩
      · exact .inl hsame
    · exact .inr ⟨_, h, (lowercase_eq_iff_of_ne_weekly h hweekly).1 rfl⟩
  · rintro (hsame | ⟨name, hname, hsame⟩)
    · rw [lowercase_eq_weekly_iff.2 (.inr hsame)]
      decide
    · by_cases hweekly : name = "@weekly"
      · rw [lowercase_eq_weekly_iff.2 (.inl (hweekly ▸ hsame))]
        decide
      · rwa [(lowercase_eq_iff_of_ne_weekly hname hweekly).2 hsame]

theorem exists_timetable_of_readFields {expression : String}
    (h : (readFields expression).toBool = true) :
    ∃ timetable, ofFields expression = .ok (.timetable timetable) := by
  rw [ofFields]
  cases hread : readFields expression with
  | error fault => rw [hread] at h; cases h
  | ok timetable => exact ⟨timetable, rfl⟩

/-- A shortcut is read by its name in small letters. -/
theorem ofShortcut_eq (e : String) :
    (Text.lowercase e = "@reboot" ∧ ofShortcut e = .ok .reboot) ∨
    (Text.lowercase e ∈ shortcuts ∧ Text.lowercase e ≠ "@reboot" ∧
      ∃ timetable, ofShortcut e = .ok (.timetable timetable)) ∨
    (Text.lowercase e ∉ shortcuts ∧ ofShortcut e = .error (.unknownShortcut e)) := by
  by_cases hmem : Text.lowercase e ∈ shortcuts
  · have hname := hmem
    simp only [shortcuts, List.mem_cons, List.not_mem_nil, or_false] at hname
    rcases hname with h | h | h | h | h | h | h | h
    · exact .inl ⟨h, by simp [ofShortcut, h]⟩
    all_goals
      refine .inr (.inl ⟨hmem, by simp [h], ?_⟩)
      simp only [ofShortcut, h, String.reduceEq, or_false, or_true, if_true, if_false]
      exact exists_timetable_of_readFields (by decide +kernel)
  · refine .inr (.inr ⟨hmem, ?_⟩)
    simp only [shortcuts, List.mem_cons, List.not_mem_nil, or_false, not_or] at hmem
    simp [ofShortcut, hmem]

theorem ofText_of_head {s : String} (h : (Text.trim s).toList.head? = some '@') :
    ofText s = (ofShortcut (Text.trim s)).map fun timing => ⟨Text.trim s, timing⟩ := by
  rw [ofText, if_pos h]
  cases ofShortcut (Text.trim s) <;> rfl

/-- Of the accepted expressions, only the one with a Kelvin sign is not ASCII. -/
theorem all_isAscii_iff_of_ofShortcut {e : String} {timing : Timing}
    (h : ofShortcut e = .ok timing) :
    (∀ c ∈ e.toList, Text.isAscii c = true) ↔ ¬Text.SameLetters e kelvinShortcut := by
  have hkelvin : ¬∀ c ∈ kelvinShortcut.toList, Text.isAscii c = true := by
    rw [← List.all_eq_true]
    decide
  have hname := lowercase_mem_shortcuts_iff.1 (lowercase_mem_shortcuts_of_ofShortcut h)
  constructor
  · intro hascii hsame
    exact hkelvin ((Text.all_isAscii_iff_of_sameLetters hsame).1 hascii)
  · intro hnot
    obtain ⟨name, hname, hsame⟩ := hname
    rcases List.mem_cons.1 hname with rfl | hname
    · exact absurd hsame hnot
    · exact (Text.all_isAscii_iff_of_sameLetters hsame).2 (isAscii_of_mem_shortcut hname)

/-- An expression that begins with an `@` is accepted just if it is one of the shortcuts in letters
of either case, or the weekly one with a Kelvin sign for its `k`. It is kept as it is written, and
stands so in front of the commands on crontab lines; of the accepted ones, those with a Kelvin sign
are not ASCII. A run when the machine starts is what `@reboot` asks for, and nothing else does. Any
other expression is refused by name. -/
theorem ofText_shortcut {s e : String} (htrim : Text.trim s = e)
    (hat : e.toList.head? = some '@') :
    ((∃ schedule, ofText s = .ok schedule) ↔
      ∃ name ∈ kelvinShortcut :: shortcuts, Text.SameLetters e name) ∧
    (∀ schedule, ofText s = .ok schedule →
      schedule.expression = e ∧
      (∀ command, Crontab.line schedule.expression command =
        e ++ " " ++ Crontab.cleanCommand command) ∧
      ((∀ c ∈ e.toList, Text.isAscii c = true) ↔ ¬Text.SameLetters e kelvinShortcut) ∧
      (schedule.isReboot = true ↔ Text.SameLetters e "@reboot")) ∧
    ∀ error, ofText s = .error error ↔ error = .unknownShortcut e ∧
      ¬∃ name ∈ kelvinShortcut :: shortcuts, Text.SameLetters e name := by
  subst htrim
  have hreboot : Text.lowercase (Text.trim s) = "@reboot" ↔
      Text.SameLetters (Text.trim s) "@reboot" :=
    lowercase_eq_iff_of_ne_weekly (by decide) (by decide)
  rw [ofText_of_head hat, ← lowercase_mem_shortcuts_iff]
  refine ⟨?_, ?_, ?_⟩
  · rcases ofShortcut_eq (Text.trim s) with ⟨hname, h⟩ | ⟨hname, -, timetable, h⟩ | ⟨hname, h⟩
    · rw [h, hname]
      exact iff_of_true ⟨_, rfl⟩ (by decide)
    · rw [h]
      exact iff_of_true ⟨_, rfl⟩ hname
    · rw [h]
      exact iff_of_false (fun ⟨_, h⟩ => by cases h) hname
  · intro schedule hschedule
    obtain ⟨timing, htiming, rfl⟩ := map_eq_ok_iff.1 hschedule
    refine ⟨rfl, fun command => by rw [Crontab.line, Text.trim_trim], ?_, ?_⟩
    · exact all_isAscii_iff_of_ofShortcut htiming
    · rw [isReboot, beq_iff_eq, ← hreboot]
      rcases ofShortcut_eq (Text.trim s) with ⟨hname, h⟩ | ⟨-, hname, timetable, h⟩ | ⟨-, h⟩
      · rw [h] at htiming
        cases htiming
        exact iff_of_true rfl hname
      · rw [h] at htiming
        cases htiming
        exact iff_of_false (by simp) hname
      · rw [h] at htiming
        cases htiming
  · intro error
    rw [map_eq_error_iff]
    rcases ofShortcut_eq (Text.trim s) with ⟨hname, h⟩ | ⟨hname, -, timetable, h⟩ | ⟨hname, h⟩
    · rw [h, hname]
      exact iff_of_false (by simp) fun ⟨_, hnot⟩ => hnot (by decide)
    · rw [h]
      exact iff_of_false (by simp) fun ⟨_, hnot⟩ => hnot hname
    · rw [h]
      simp [hname, eq_comm]

theorem ofText_shortcut_capitals :
    (Text.trim " @ReBoot\t" = "@ReBoot" ∧ "@ReBoot".toList.head? = some '@') ∧
      (∃ schedule, ofText " @ReBoot\t" = .ok schedule) ∧
      ∀ schedule, ofText " @ReBoot\t" = .ok schedule →
        schedule.expression = "@ReBoot" ∧ schedule.isReboot = true := by
  have htrim : Text.trim " @ReBoot\t" = "@ReBoot" := by decide
  have hat : "@ReBoot".toList.head? = some '@' := by decide
  obtain ⟨haccepted, hkept, -⟩ := ofText_shortcut htrim hat
  refine ⟨⟨htrim, hat⟩, haccepted.2 ⟨"@reboot", by decide, by decide⟩, fun schedule h => ?_⟩
  obtain ⟨hexpression, -, -, hreboot⟩ := hkept schedule h
  exact ⟨hexpression, hreboot.2 (by decide)⟩

/-- The Kelvin sign is no ASCII letter, and cron does not know the name that has one. -/
theorem ofText_shortcut_kelvin :
    (Text.trim kelvinShortcut).toList.head? = some '@' ∧
      (∃ schedule, ofText kelvinShortcut = .ok schedule) ∧
      ¬∃ name ∈ shortcuts, Text.SameLetters (Text.trim kelvinShortcut) name := by
  have hat : (Text.trim kelvinShortcut).toList.head? = some '@' := by decide
  have hname : Text.lowercase (Text.trim kelvinShortcut) = "@weekly" := by decide +kernel
  refine ⟨hat, ?_, by decide⟩
  rw [ofText_of_head hat]
  rcases ofShortcut_eq (Text.trim kelvinShortcut) with ⟨-, h⟩ | ⟨-, -, timetable, h⟩ | ⟨hnot, -⟩
  · exact ⟨_, by rw [h]; rfl⟩
  · exact ⟨_, by rw [h]; rfl⟩
  · rw [hname] at hnot
    exact absurd (by decide) hnot

end Schedule

end CrontabRenderer

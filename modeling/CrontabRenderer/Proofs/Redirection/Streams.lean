import CrontabRenderer.Proofs.Shell.Redirects
import CrontabRenderer.Redirection

/-!
# Two streams

What the shell's words for a split redirection do to the two streams (`Redirection.shell_split`).
Each stream is opened on its own account, but for the output at `/dev/null` beside errors in another
file, which is appended to. The paths are written as they are, so the shell reads what is meant just
if no path needs a quotation.
-/
namespace CrontabRenderer.Redirection

open Shell (Destination Redirect written opened)

/-- How a file is opened on its own account: `/dev/null` from its start, any other at its end. -/
def modeAlone (path : String) : Shell.Mode := if path = nullDevice then .truncate else .append

/-- A stream that is opened on its own account, or left alone. -/
def openedAlone (descriptor : Nat) : Option String → Destination
  | none => .inherited descriptor
  | some path => .file (modeAlone path) path.toList

/-- Both streams, each of them opened on its own account; the output is descriptor 1, the errors are
descriptor 2. -/
def openedApart (standard error : Option String) : Nat → Destination :=
  Function.update (Function.update .inherited 1 (openedAlone 1 standard)) 2 (openedAlone 2 error)

/-- The output is thrown away and the errors are kept in a file. -/
def KeepsErrorsOnly (standard error : Option String) : Prop :=
  standard = some nullDevice ∧ ∃ path, error = some path ∧ path ≠ nullDevice

/-- The shell's words for two streams are the text of redirections, which are read from them just if
no path needs a quotation. -/
structure AreRead (standard error : Option String) (redirects : List Redirect) : Prop where
  text : (split standard error).shell.toList = written redirects
  reads : Shell.Reads (split standard error).shell.toList redirects ↔
    ∀ path ∈ standard.toList ++ error.toList, Shell.StandsForItself path.toList

theorem standsForItself_nullDevice : Shell.StandsForItself nullDevice.toList := by decide

theorem openedApart_none (standard : Option String) :
    openedApart standard none = Function.update .inherited 1 (openedAlone 1 standard) := by
  funext descriptor
  by_cases h : descriptor = 2
  · subst h
    rfl
  · rw [openedApart, Function.update_of_ne h]

theorem openedApart_none_left (error : Option String) :
    openedApart none error = Function.update .inherited 2 (openedAlone 2 error) := by
  rw [openedApart, openedAlone, Function.update_eq_self]

theorem numberText_error : Shell.numberText 2 = ['2'] := by decide

theorem written_output (mode : Shell.Mode) (path : List Char) :
    written [⟨1, .file mode path⟩] = mode.operator ++ ' ' :: path := Shell.written_singleton _

theorem written_error (mode : Shell.Mode) (path : List Char) :
    written [⟨2, .file mode path⟩] = '2' :: (mode.operator ++ ' ' :: path) := by
  rw [Shell.written_singleton, Redirect.text, numberText_error]
  rfl

theorem written_both (mode mode' : Shell.Mode) (path path' : List Char) :
    written [⟨1, .file mode path⟩, ⟨2, .file mode' path'⟩] =
      mode.operator ++ ' ' :: path ++ ' ' :: '2' :: (mode'.operator ++ ' ' :: path') := by
  rw [Shell.written_cons_cons, written_error]
  rfl

theorem shell_output (path : String) : (split (some path) none).shell.toList =
    written [⟨1, .file (modeAlone path) path.toList⟩] := by
  rw [shell, splitShell, written_output]
  split <;> simp_all [modeAlone, Shell.Mode.operator]

theorem shell_error (path : String) : (split none (some path)).shell.toList =
    written [⟨2, .file (modeAlone path) path.toList⟩] := by
  rw [shell, splitShell, written_error]
  split <;> simp_all [modeAlone, Shell.Mode.operator]

theorem shell_both {path path' : String} (h : ¬(path = nullDevice ∧ path' = nullDevice)) :
    (split (some path) (some path')).shell.toList =
      written [⟨1, .file .append path.toList⟩, ⟨2, .file (modeAlone path') path'.toList⟩] := by
  rw [shell, splitShell, written_both]
  by_cases hpath' : path' = nullDevice
  · have hpath : path ≠ nullDevice := fun hpath => h ⟨hpath, hpath'⟩
    simp [modeAlone, hpath, hpath', Shell.Mode.operator]
  · simp [modeAlone, hpath', Shell.Mode.operator]

theorem shell_discard : (split (some nullDevice) (some nullDevice)).shell.toList =
    written [⟨1, .file .truncate nullDevice.toList⟩, ⟨2, .copy 1⟩] := by decide

theorem areRead_none : AreRead none none [] where
  text := rfl
  reads := iff_of_true (.nil rfl) (by simp)

theorem areRead_output (path : String) : AreRead (some path) none
    [⟨1, .file (modeAlone path) path.toList⟩] where
  text := shell_output path
  reads := by
    rw [shell_output, Shell.written_singleton, Shell.reads_file_iff]
    simp

theorem areRead_error (path : String) : AreRead none (some path)
    [⟨2, .file (modeAlone path) path.toList⟩] where
  text := shell_error path
  reads := by
    rw [shell_error, Shell.written_singleton, Shell.reads_file_iff]
    simp

theorem areRead_both {path path' : String} (h : ¬(path = nullDevice ∧ path' = nullDevice)) :
    AreRead (some path) (some path')
      [⟨1, .file .append path.toList⟩, ⟨2, .file (modeAlone path') path'.toList⟩] where
  text := shell_both h
  reads := by
    rw [shell_both h, Shell.reads_two_files_iff]
    simp

theorem areRead_discard : AreRead (some nullDevice) (some nullDevice)
    [⟨1, .file .truncate nullDevice.toList⟩, ⟨2, .copy 1⟩] where
  text := shell_discard
  reads := by
    refine iff_of_true ?_ (by simp [standsForItself_nullDevice])
    rw [shell_discard]
    exact Shell.reads_written (by simp [Redirect.IsPlain, standsForItself_nullDevice])

theorem opened_none : opened [] = openedApart none none := by
  rw [openedApart_none, openedAlone, Function.update_eq_self]
  rfl

theorem opened_output (path : String) :
    opened [⟨1, .file (modeAlone path) path.toList⟩] = openedApart (some path) none := by
  rw [openedApart_none]
  rfl

theorem opened_error (path : String) :
    opened [⟨2, .file (modeAlone path) path.toList⟩] = openedApart none (some path) := by
  rw [openedApart_none_left]
  rfl

/-- The output is appended to its file, whatever the file is. -/
theorem opened_both (path path' : String) :
    opened [⟨1, .file .append path.toList⟩, ⟨2, .file (modeAlone path') path'.toList⟩] =
      Function.update (openedApart (some path) (some path')) 1 (.file .append path.toList) := by
  rw [openedApart, Function.update_comm (by decide), Function.update_idem]
  rfl

theorem opened_discard : opened [⟨1, .file .truncate nullDevice.toList⟩, ⟨2, .copy 1⟩] =
    openedApart (some nullDevice) (some nullDevice) := rfl

/-- Each stream of a split redirection is opened on its own account: left alone if no path is set,
from the start of the file if the path is `/dev/null`, and at its end otherwise. The one exception
is the output at `/dev/null` beside errors in another file, where `/dev/null` is appended to. The
text is that of the redirections with the paths as they are, and the shell reads these from it just
if no path needs a quotation. -/
theorem shell_split (standard error : Option String) :
    ∃ redirects, AreRead standard error redirects ∧
      (¬KeepsErrorsOnly standard error → opened redirects = openedApart standard error) ∧
      (KeepsErrorsOnly standard error → opened redirects =
        Function.update (openedApart standard error) 1 (.file .append nullDevice.toList)) := by
  cases standard with
  | none =>
    have hkept : ¬KeepsErrorsOnly none error := fun h => nomatch h.1
    cases error with
    | none => exact ⟨_, areRead_none, fun _ => opened_none, (absurd · hkept)⟩
    | some path => exact ⟨_, areRead_error path, fun _ => opened_error path, (absurd · hkept)⟩
  | some path =>
    cases error with
    | none =>
      have hkept : ¬KeepsErrorsOnly (some path) none := fun ⟨_, _, h, _⟩ => nomatch h
      exact ⟨_, areRead_output path, fun _ => opened_output path, (absurd · hkept)⟩
    | some path' =>
      by_cases hdiscard : path = nullDevice ∧ path' = nullDevice
      · obtain ⟨rfl, rfl⟩ := hdiscard
        have hkept : ¬KeepsErrorsOnly (some nullDevice) (some nullDevice) :=
          fun ⟨_, _, hpath, hne⟩ => hne (Option.some_inj.1 hpath).symm
        exact ⟨_, areRead_discard, fun _ => opened_discard, (absurd · hkept)⟩
      · refine ⟨_, areRead_both hdiscard, fun hkept => ?_, fun hkept => ?_⟩
        · have hpath : path ≠ nullDevice := fun hpath =>
            hkept ⟨congrArg some hpath, path', rfl, fun hpath' => hdiscard ⟨hpath, hpath'⟩⟩
          have happend : openedAlone 1 (some path) = .file .append path.toList := by
            rw [openedAlone, modeAlone, if_neg hpath]
          rw [opened_both, openedApart, Function.update_comm (by decide), happend,
            Function.update_idem]
        · obtain rfl := Option.some_inj.1 hkept.1
          exact opened_both nullDevice path'

/-- Errors that are kept in a file make the output at `/dev/null` be appended to it. -/
theorem shell_split_kept_errors :
    (∀ redirects,
      Shell.Reads (split (some nullDevice) (some "err.log")).shell.toList redirects ↔
        redirects = [⟨1, .file .append nullDevice.toList⟩, ⟨2, .file .append "err.log".toList⟩]) ∧
    opened [⟨1, .file .append nullDevice.toList⟩, ⟨2, .file .append "err.log".toList⟩] 1 =
      .file .append nullDevice.toList ∧
    openedApart (some nullDevice) (some "err.log") 1 = .file .truncate nullDevice.toList := by
  have hplain : ∀ path ∈ [nullDevice, "err.log"], Shell.StandsForItself path.toList := by
    simp only [List.forall_mem_cons]
    exact ⟨standsForItself_nullDevice, by decide, by simp⟩
  have hreads : Shell.Reads (split (some nullDevice) (some "err.log")).shell.toList
      [⟨1, .file .append nullDevice.toList⟩, ⟨2, .file .append "err.log".toList⟩] :=
    (areRead_both (by decide)).reads.2 hplain
  refine ⟨fun redirects => ⟨fun h => h.unique hreads, ?_⟩, rfl, rfl⟩
  rintro rfl
  exact hreads

end CrontabRenderer.Redirection

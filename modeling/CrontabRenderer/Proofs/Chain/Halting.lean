import CrontabRenderer.Proofs.Chain.Flat
import CrontabRenderer.Proofs.Shell.CommandList

/-!
# Halting chains

What a shell runs of the line of a chain. A command is reached if every command succeeds from which
an unbroken series of halting links leads to it (`mem_ran_iff`). A link says no more than what the
next command waits for (`succ_mem_ran_iff`): one that does not halt starts a new series, also behind
one that failed. So a failed halting link stops all that comes behind it, for every outcome of the
commands, just if the link behind a halting one halts too, unless it is the last
(`Scope.chain_obeysFlags_iff`).
-/
namespace CrontabRenderer

open Shell (CommandList)

namespace Job

/-- The line of a chain as the shell reads it, with the places of the links for their commands. -/
def commandList (links : List Job) : CommandList Nat :=
  .ofOperators (links.dropLast.map (·.operator))

/-- The places of the links whose commands run, for the exit status of each. -/
def ran (links : List Job) (exit : Nat → Nat) : List Nat := ((commandList links).run exit).ran

def haltsAt (links : List Job) (j : Nat) : Bool := links[j]?.any (·.haltOnFailure)

/-- The first command runs, and each further one if the one before it runs and either succeeds or
does not halt the chain. -/
def ObeysFlags (links : List Job) (exit : Nat → Nat) : Prop :=
  0 ∈ ran links exit ∧ ∀ j, j + 1 < links.length →
    (j + 1 ∈ ran links exit ↔
      j ∈ ran links exit ∧ (exit j = 0 ∨ haltsAt links j = false))

/-- Behind a halting link that failed, at any distance, nothing runs. -/
def StopsOnFailure (links : List Job) (exit : Nat → Nat) : Prop :=
  ∀ i j, i < j → i ∈ ran links exit → haltsAt links i = true → exit i ≠ 0 → j ∉ ran links exit

/-- The link behind a halting one halts too, unless it is the last. -/
def HaltsOnceHalting (links : List Job) : Prop :=
  ∀ j, j + 2 < links.length → haltsAt links j = true → haltsAt links (j + 1) = true

theorem operators_getElem?_eq_and {links : List Job} {l : Nat} (hl : l + 1 < links.length) :
    (links.dropLast.map (·.operator))[l]? = some .and ↔ haltsAt links l = true := by
  have hlast : links.dropLast[l]? = links[l]? := by
    rw [List.getElem?_dropLast, if_pos (by omega)]
  rw [List.getElem?_map, hlast, haltsAt]
  cases links[l]? with
  | none => simp
  | some job => cases h : job.haltOnFailure <;> simp [operator, h]

theorem mem_ran_iff {links : List Job} (hlinks : links ≠ []) (exit : Nat → Nat) (n : Nat) :
    n ∈ ran links exit ↔ n < links.length ∧
      ∀ m < n, (∀ l, m ≤ l → l < n → haltsAt links l = true) → exit m = 0 := by
  have hpos := List.length_pos_iff.2 hlinks
  rw [ran, commandList, (CommandList.run_ofOperators _ exit).1, List.length_map,
    List.length_dropLast, show n ≤ links.length - 1 ↔ n < links.length by omega]
  refine and_congr_right fun hn => forall₂_congr fun m hm => imp_congr_left ?_
  exact forall₃_congr fun l hml hl => operators_getElem?_eq_and (by omega)

theorem zero_mem_ran {links : List Job} (hlinks : links ≠ []) (exit : Nat → Nat) :
    0 ∈ ran links exit := by
  refine (mem_ran_iff hlinks exit 0).2 ⟨List.length_pos_iff.2 hlinks, fun m hm => ?_⟩
  omega

/-- A command behind a link that does not halt runs in any case. -/
theorem mem_ran_of_not_haltsAt {links : List Job} {j : Nat} (hj : j + 1 < links.length)
    (h : haltsAt links j = false) (exit : Nat → Nat) : j + 1 ∈ ran links exit := by
  refine (mem_ran_iff (List.ne_nil_of_length_pos (by omega)) exit _).2 ⟨hj, fun m hm hhalts => ?_⟩
  have := hhalts j (by omega) (by omega)
  simp [h] at this

theorem mem_ran_of_haltsAt {links : List Job} {j : Nat} (hj : j + 1 < links.length)
    (h : haltsAt links j = true) (exit : Nat → Nat) :
    j + 1 ∈ ran links exit ↔ j ∈ ran links exit ∧ exit j = 0 := by
  have hlinks : links ≠ [] := List.ne_nil_of_length_pos (by omega)
  rw [mem_ran_iff hlinks, mem_ran_iff hlinks]
  constructor
  · rintro ⟨-, hreached⟩
    refine ⟨⟨by omega, fun m hm hhalts => hreached m (by omega) fun l hml hl => ?_⟩, ?_⟩
    · rcases Nat.lt_succ_iff_lt_or_eq.1 hl with hl | rfl
      · exact hhalts l hml hl
      · exact h
    · refine hreached j (by omega) fun l hml hl => ?_
      rwa [show l = j by omega]
  · rintro ⟨⟨-, hreached⟩, hexit⟩
    refine ⟨hj, fun m hm hhalts => ?_⟩
    rcases Nat.lt_succ_iff_lt_or_eq.1 hm with hm | rfl
    · exact hreached m hm fun l hml hl => hhalts l hml (by omega)
    · exact hexit

/-- A command runs if the link in front of it does not halt, or if the command of that link runs
and succeeds. -/
theorem succ_mem_ran_iff {links : List Job} {j : Nat} (hj : j + 1 < links.length)
    (exit : Nat → Nat) :
    j + 1 ∈ ran links exit ↔ haltsAt links j = false ∨ j ∈ ran links exit ∧ exit j = 0 := by
  cases hhalts : haltsAt links j with
  | true => simp [mem_ran_of_haltsAt hj hhalts exit]
  | false => simp [mem_ran_of_not_haltsAt hj hhalts exit]

/-- If only the command of a halting link fails, and the next link does not halt, the command of the
next link is skipped and the one behind that runs. -/
theorem not_obeysFlags_of_passed_over {links : List Job} {j : Nat} (hj : j + 2 < links.length)
    (hhalts : haltsAt links j = true) (hpasses : haltsAt links (j + 1) = false) :
    let exit := fun m => if m = j then 1 else 0
    ¬ObeysFlags links exit ∧ ¬StopsOnFailure links exit := by
  intro exit
  have hlinks : links ≠ [] := List.ne_nil_of_length_pos (by omega)
  have hran : j ∈ ran links exit := by
    refine (mem_ran_iff hlinks exit j).2 ⟨by omega, fun m hm _ => ?_⟩
    exact if_neg (by omega)
  have hskipped : j + 1 ∉ ran links exit := by
    rw [mem_ran_of_haltsAt (by omega) hhalts]
    simp [exit]
  have hbehind : j + 2 ∈ ran links exit := mem_ran_of_not_haltsAt hj hpasses exit
  refine ⟨fun h => hskipped ((h.2 (j + 1) hj).1 hbehind).1, fun h => ?_⟩
  exact h j (j + 2) (by omega) hran hhalts (by simp [exit]) hbehind

theorem haltsOnceHalting_of_obeysFlags {links : List Job} (h : ∀ exit, ObeysFlags links exit) :
    HaltsOnceHalting links := by
  intro j hj hhalts
  by_contra hpasses
  exact (not_obeysFlags_of_passed_over hj hhalts (by simpa using hpasses)).1 (h _)

theorem haltsOnceHalting_of_stopsOnFailure {links : List Job}
    (h : ∀ exit, StopsOnFailure links exit) : HaltsOnceHalting links := by
  intro j hj hhalts
  by_contra hpasses
  exact (not_obeysFlags_of_passed_over hj hhalts (by simpa using hpasses)).2 (h _)

theorem HaltsOnceHalting.of_le {links : List Job} (h : HaltsOnceHalting links) {i j : Nat}
    (hij : i ≤ j) (hj : j + 1 < links.length) (hi : haltsAt links i = true) :
    haltsAt links j = true := by
  obtain ⟨distance, rfl⟩ := Nat.exists_eq_add_of_le hij
  induction distance with
  | zero => exact hi
  | succ distance ih => exact h (i + distance) hj (ih (by omega) (by omega))

theorem HaltsOnceHalting.obeysFlags {links : List Job} (h : HaltsOnceHalting links)
    (hlinks : links ≠ []) (exit : Nat → Nat) : ObeysFlags links exit := by
  refine ⟨zero_mem_ran hlinks exit, fun j hj => ?_⟩
  rw [succ_mem_ran_iff hj]
  cases hhalts : haltsAt links j with
  | true => simp
  | false =>
    -- the link before `j` does not halt either, or `j` would, so the command of `j` runs in any case
    have hran : j ∈ ran links exit := by
      cases j with
      | zero => exact zero_mem_ran hlinks exit
      | succ j =>
        refine mem_ran_of_not_haltsAt (by omega) ?_ exit
        cases hbefore : haltsAt links j with
        | false => rfl
        | true => rw [← hhalts, h j hj hbefore]
    simp [hran]

theorem HaltsOnceHalting.stopsOnFailure {links : List Job} (h : HaltsOnceHalting links)
    (hlinks : links ≠ []) (exit : Nat → Nat) : StopsOnFailure links exit := by
  intro i j hij _ hhalts hexit hran
  obtain ⟨hj, hreached⟩ := (mem_ran_iff hlinks exit j).1 hran
  exact hexit (hreached i hij fun l hil hl => h.of_le hil (by omega) hhalts)

theorem join_foldl (operator : JoinOperator) (left first : String)
    (rest : List (JoinOperator × String)) :
    operator.join left (rest.foldl (fun line next => next.1.join line next.2) first) =
      rest.foldl (fun line next => next.1.join line next.2) (operator.join left first) := by
  induction rest generalizing first with
  | nil => rfl
  | cons next rest ih =>
    rw [List.foldl_cons, List.foldl_cons, ih]
    simp [JoinOperator.join, String.append_assoc]

/-- The line of a chain, read from the left. -/
theorem lineOf_eq_foldl (job : Job) (links : List Job) (command : String) (commands : List String) :
    links.length = commands.length →
    lineOf (job :: links) (command :: commands) =
      (((job :: links).dropLast.map (·.operator)).zip commands).foldl
        (fun line next => next.1.join line next.2) command := by
  induction links generalizing job command commands with
  | nil => intro _; rfl
  | cons link links ih =>
    intro hlength
    obtain ⟨next, commands, rfl⟩ := List.exists_cons_of_ne_nil
      (List.ne_nil_of_length_pos (l := commands) (by simp at hlength; omega))
    rw [lineOf_cons _ (List.cons_ne_nil _ _), ih link next commands (by simpa using hlength),
      join_foldl]
    rfl

/-- The line of a chain is the text of the list that the shell reads. -/
theorem text_commandList (job : Job) (links : List Job) (command : String) (commands : List String)
    (hlength : links.length = commands.length) :
    (commandList (job :: links)).text (fun j => (command :: commands).getD j "") =
      lineOf (job :: links) (command :: commands) := by
  have hrow : (((job :: links).dropLast.map (·.operator)).zipIdx 1).map
      (fun next => (next.1, (command :: commands).getD next.2 "")) =
        ((job :: links).dropLast.map (·.operator)).zip commands := by
    refine List.ext_getElem (by simp [hlength]) fun i _ hi => ?_
    have hplace : i < commands.length := by
      rw [List.length_zip] at hi
      omega
    simp [Nat.add_comm 1 i, hplace]
  rw [lineOf_eq_foldl job links command commands hlength, commandList, CommandList.ofOperators,
    CommandList.ofRow, CommandList.text_pushAll, ← hrow, List.foldl_map]
  rfl

end Job

namespace Scope

/-- The shell reads the line of a chain as the list of the commands of its links, and in no other
way. One of them runs just if every command succeeds from which halting links alone lead to it: the
first one runs, and a further one if the link in front of it does not halt or its command runs and
succeeds. So a failed halting link stops what comes behind it, at any distance and for every outcome
of the commands, just if the link behind a halting one halts too, unless it is the last. -/
theorem chain_obeysFlags_iff (base : Scope) (job : Job) (rest : List Job) {line : String}
    (h : base.renderJob (job.chain rest) = .ok line) :
    let links := job :: rest
    (∃ commands : List String, base.flatResults links = commands.map .ok ∧
      (Job.commandList links).text (fun j => commands.getD j "") = line) ∧
    (∀ list : CommandList Nat, list.row = (0, (links.dropLast.map (·.operator)).zipIdx 1) ↔
      list = Job.commandList links) ∧
    (∀ exit n, n ∈ Job.ran links exit ↔ n < links.length ∧
      ∀ m < n, (∀ l, m ≤ l → l < n → Job.haltsAt links l = true) → exit m = 0) ∧
    (∀ exit, 0 ∈ Job.ran links exit ∧ ∀ j, j + 1 < links.length →
      (j + 1 ∈ Job.ran links exit ↔
        Job.haltsAt links j = false ∨ j ∈ Job.ran links exit ∧ exit j = 0)) ∧
    ((∀ exit, Job.ObeysFlags links exit) ↔ Job.HaltsOnceHalting links) ∧
    ((∀ exit, Job.StopsOnFailure links exit) ↔ Job.HaltsOnceHalting links) := by
  intro links
  have hlinks : links ≠ [] := List.cons_ne_nil job rest
  refine ⟨?_, fun list => CommandList.row_eq_iff, Job.mem_ran_iff hlinks,
    fun exit => ⟨Job.zero_mem_ran hlinks exit, fun j hj => Job.succ_mem_ran_iff hj exit⟩,
    ⟨Job.haltsOnceHalting_of_obeysFlags, fun hhalts exit => hhalts.obeysFlags hlinks exit⟩,
    ⟨Job.haltsOnceHalting_of_stopsOnFailure, fun hhalts exit => hhalts.stopsOnFailure hlinks exit⟩⟩
  obtain ⟨commands, hcommands, hline⟩ := renderJob_chain_eq_ok_iff.1 h
  have hlength := congrArg List.length hcommands
  rw [flatResults, List.length_mapIdx, List.length_map] at hlength
  obtain ⟨command, commands, rfl⟩ := List.exists_cons_of_ne_nil
    (List.ne_nil_of_length_pos (l := commands) (by simp at hlength; omega))
  refine ⟨command :: commands, hcommands, ?_⟩
  rw [← hline]
  exact Job.text_commandList job rest command commands (by simpa [links] using hlength)

/-- The line `b ; a && c` does what the flags of its links say, whatever its commands return. -/
theorem chain_obeysFlags_sequence_first :
    let base : Scope := { jobTypes := .ofList [("say", ":task")] }
    let links : List Job :=
      [{ type := "say", task := "b", haltOnFailure := false }, { type := "say", task := "a" },
        { type := "say", task := "c" }]
    base.renderJob (links[0].chain links.tail) = .ok "b ; a && c" ∧
      ∀ exit, Job.ObeysFlags links exit := by
  intro base links
  have hline : base.renderJob (links[0].chain links.tail) = .ok "b ; a && c" := by decide +kernel
  have hhalts : Job.HaltsOnceHalting links := by
    intro j hj hhalts
    have hzero : j = 0 := by
      simp [links] at hj
      omega
    subst hzero
    cases hhalts
  exact ⟨hline, (chain_obeysFlags_iff base links[0] links.tail hline).2.2.2.2.1.2 hhalts⟩

/-- In `a && b ; c` the first job halts the chain on failure; if it fails, `c` runs all the same. -/
theorem chain_passes_over_failure :
    let base : Scope := { jobTypes := .ofList [("say", ":task")] }
    let links : List Job :=
      [{ type := "say", task := "a" }, { type := "say", task := "b", haltOnFailure := false },
        { type := "say", task := "c" }]
    let exit : Nat → Nat := fun m => if m = 0 then 1 else 0
    base.renderJob (links[0].chain links.tail) = .ok "a && b ; c" ∧
      Job.ran links exit = [0, 2] ∧
      ¬Job.ObeysFlags links exit ∧ ¬Job.StopsOnFailure links exit := by
  intro base links exit
  refine ⟨by decide +kernel, by decide +kernel, ?_⟩
  exact Job.not_obeysFlags_of_passed_over (j := 0) (by decide) rfl rfl

end Scope

end CrontabRenderer

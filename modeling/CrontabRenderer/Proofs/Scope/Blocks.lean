import CrontabRenderer.Proofs.Job.Tree

/-!
# Blocks

Blocks are opened and closed one inside another, and rendering a job opens and closes the blocks of
the jobs in its tree, in steps that are recorded on the way (`Job.record_eq`). The stack of scopes
depends on nothing but the blocks that are open (`ScopeStack.run_openBlocks`), so a closed block
leaves no trace, and neither does a job, rendered or not. A job finds in the stack what the last
declaration for it gives, in the innermost block that has one (`ScopeStack.IsLexical`).
-/
namespace CrontabRenderer

/-- The declarations of a block. -/
abbrev Block := List Declaration

/-! ## What blocks give -/

namespace Declaration

/-- The template that a declaration gives a job type. -/
def jobType? (name : String) : Declaration → Option String
  | .jobType type => if type.name = name then some type.template else none
  | _ => none

/-- The wrapping template that a declaration sets; no template if it clears it. -/
def wrapper? : Declaration → Option (Option String)
  | .jobTemplate template => some template
  | _ => none

/-- The value that a declaration gives an option. -/
def value? (name : String) : Declaration → Option String
  | .set other value => if other = name then some value else none
  | _ => none

end Declaration

namespace Block

variable {α : Type}

/-- What a block gives: that of its last declaration that gives anything. -/
def last? (gives : Declaration → Option α) (block : Block) : Option α :=
  block.reverse.findSome? gives

/-- What the innermost of the blocks gives that gives anything. The innermost block comes first. -/
def innermost? (gives : Declaration → Option α) (blocks : List Block) : Option α :=
  blocks.findSome? (last? gives)

theorem last?_cons (gives : Declaration → Option α) (declaration : Declaration) (block : Block) :
    last? gives (declaration :: block) = (last? gives block).or (gives declaration) := by
  rw [last?, last?, List.reverse_cons, List.findSome?_append]
  cases h : gives declaration <;> simp [h]

theorem innermost?_cons (gives : Declaration → Option α) (block : Block) (blocks : List Block) :
    innermost? gives (block :: blocks) = (last? gives block).or (innermost? gives blocks) := by
  rw [innermost?, innermost?, List.findSome?_cons]
  cases last? gives block <;> rfl

end Block

namespace Scope

variable {α : Type}

/-- A declaration puts what it gives in the place of what was there before. -/
def Heeds (view : Scope → Option α) (gives : Declaration → Option α) : Prop :=
  ∀ (scope : Scope) (declaration : Declaration),
    view (scope.declare declaration) = (gives declaration).or (view scope)

theorem heeds_jobType (name : String) :
    Heeds (·.jobTypes.find? name) (Declaration.jobType? name) := by
  intro scope declaration
  cases declaration with
  | set other value => rfl
  | jobTemplate template => rfl
  | jobType type =>
    by_cases hname : type.name = name
    · simp [declare, define, Declaration.jobType?, hname]
    · simp [declare, define, Declaration.jobType?, hname, Ne.symm hname]

theorem heeds_wrapper : Heeds (fun scope => some scope.jobTemplate) Declaration.wrapper? := by
  intro scope declaration
  cases declaration <;> rfl

theorem heeds_value (name : String) :
    Heeds (·.globals.find? name) (Declaration.value? name) := by
  intro scope declaration
  cases declaration with
  | jobTemplate template => rfl
  | jobType type => rfl
  | set other value =>
    by_cases hname : other = name
    · simp [declare, setOption, Declaration.value?, hname]
    · simp [declare, setOption, Declaration.value?, hname, Ne.symm hname]

theorem Heeds.declareAll {view : Scope → Option α} {gives : Declaration → Option α}
    (h : Heeds view gives) (scope : Scope) (block : Block) :
    view (scope.declareAll block) = (Block.last? gives block).or (view scope) := by
  induction block generalizing scope with
  | nil => rfl
  | cons declaration block ih =>
    have hcons : scope.declareAll (declaration :: block) =
        (scope.declare declaration).declareAll block := rfl
    rw [hcons, ih, h, Block.last?_cons, Option.or_assoc]

end Scope

/-! ## Nested blocks -/

namespace ScopeStack

/-- The stack with blocks opened in it, the innermost of which comes first. -/
def under (stack : ScopeStack) (blocks : List Block) : ScopeStack :=
  blocks.foldr (fun block stack => stack.enter block) stack

theorem under_cons (stack : ScopeStack) (block : Block) (blocks : List Block) :
    stack.under (block :: blocks) = (stack.under blocks).enter block := rfl

theorem under_append (stack : ScopeStack) (inner outer : List Block) :
    stack.under (inner ++ outer) = (stack.under outer).under inner :=
  List.foldr_append

/-- The stack is as deep as blocks are open in the root, and a job finds the template of its type, the
wrapping template and its options as the blocks give them, or else as they are in the root. -/
structure IsLexical (root : Scope) (blocks : List Block) (stack : ScopeStack) : Prop where
  depth : stack.depth = 1 + blocks.length
  jobType : ∀ name, stack.jobType? name =
    (Block.innermost? (Declaration.jobType? name) blocks).or (root.jobTypes.find? name)
  wrapper : stack.current.jobTemplate =
    (Block.innermost? Declaration.wrapper? blocks).getD root.jobTemplate
  value : ∀ own name, (stack.resolver own).resolve name = (own.find? name).or
    ((Block.innermost? (Declaration.value? name) blocks).or (root.globals.find? name))

section Under

variable (root : Scope) (blocks : List Block)

theorem depth_under : (under ⟨root, []⟩ blocks).depth = 1 + blocks.length := by
  induction blocks with
  | nil => rfl
  | cons block blocks ih =>
    rw [under_cons, depth_enter, ih, List.length_cons]
    omega

/-- What a block takes over from the scope around it is as the innermost block has it. -/
theorem view_current_under {α : Type} {view : Scope → Option α} {gives : Declaration → Option α}
    (h : Scope.Heeds view gives) (hchild : ∀ scope : Scope, view scope.child = view scope) :
    view (under ⟨root, []⟩ blocks).current = (Block.innermost? gives blocks).or (view root) := by
  induction blocks with
  | nil => rfl
  | cons block blocks ih =>
    have hcurrent : (under ⟨root, []⟩ (block :: blocks)).current =
        (under ⟨root, []⟩ blocks).current.child.declareAll block := rfl
    rw [hcurrent, h.declareAll, hchild, ih, Block.innermost?_cons, Option.or_assoc]

/-- Options are not taken over. They are found in the scope of the block that sets them. -/
theorem findSome?_scopes_under (name : String) :
    ((under ⟨root, []⟩ blocks).current :: (under ⟨root, []⟩ blocks).outer).findSome?
        (·.globals.find? name) =
      (Block.innermost? (Declaration.value? name) blocks).or (root.globals.find? name) := by
  induction blocks with
  | nil =>
    change [root].findSome? (·.globals.find? name) = root.globals.find? name
    cases h : root.globals.find? name <;> simp [h]
  | cons block blocks ih =>
    have hblock := (Scope.heeds_value name).declareAll
      (under ⟨root, []⟩ blocks).current.child block
    have hchild : (under ⟨root, []⟩ blocks).current.child.globals.find? name = none := rfl
    rw [hchild, Option.or_none] at hblock
    rw [under_cons, enter, List.findSome?_cons, hblock, ih, Block.innermost?_cons, Option.or_assoc]
    cases Block.last? (Declaration.value? name) block <;> rfl

theorem isLexical_under : IsLexical root blocks (under ⟨root, []⟩ blocks) where
  depth := depth_under root blocks
  jobType name := view_current_under root blocks (Scope.heeds_jobType name) fun _ => rfl
  wrapper := by
    have h := view_current_under root blocks Scope.heeds_wrapper fun _ => rfl
    apply Option.some.inj
    rw [h]
    cases Block.innermost? Declaration.wrapper? blocks <;> rfl
  value own name := by
    rw [Resolver.resolve_eq_or, ← findSome?_scopes_under]
    congr 1
    rw [resolver, ← List.map_cons, List.findSome?_map]
    rfl

end Under

end ScopeStack

/-! ## Steps -/

/-- What happens to a stack of scopes. -/
inductive StackStep where
  | enter (block : Block)
  | leave
  | compose (job : Job)

/-- The blocks that are open after a step, the innermost one first. A step that closes a block needs
an open one. -/
def StackStep.blocks? (blocks : List Block) : StackStep → Option (List Block)
  | .enter block => some (block :: blocks)
  | .leave => if blocks.isEmpty then none else some blocks.tail
  | .compose _ => some blocks

/-- The blocks that are open after some steps, if every block was open when it was closed. -/
def openBlocks? (steps : List StackStep) : Option (List Block) :=
  steps.foldlM StackStep.blocks? []

/-- No step closes a block that these steps have not opened. -/
def WellNested (steps : List StackStep) : Prop := (openBlocks? steps).isSome = true

instance (steps : List StackStep) : Decidable (WellNested steps) :=
  inferInstanceAs (Decidable (_ = true))

theorem openBlocks?_append (steps steps' : List StackStep) :
    openBlocks? (steps ++ steps') = (openBlocks? steps).bind fun blocks =>
      steps'.foldlM StackStep.blocks? blocks := by
  rw [openBlocks?, List.foldlM_append]
  rfl

/-- Blocks that were open before stay open. -/
theorem foldlM_blocks?_append {steps : List StackStep} {blocks blocks' : List Block}
    (h : steps.foldlM StackStep.blocks? blocks = some blocks') (outer : List Block) :
    steps.foldlM StackStep.blocks? (blocks ++ outer) = some (blocks' ++ outer) := by
  induction steps generalizing blocks with
  | nil =>
    obtain rfl := Option.some.inj h
    rfl
  | cons step steps ih =>
    rw [List.foldlM_cons] at h ⊢
    obtain ⟨mid, hmid, h⟩ := Option.bind_eq_some_iff.1 h
    have hstep : step.blocks? (blocks ++ outer) = some (mid ++ outer) := by
      cases step with
      | enter block =>
        obtain rfl := Option.some.inj hmid
        rfl
      | leave =>
        cases blocks with
        | nil => cases hmid
        | cons block blocks =>
          obtain rfl := Option.some.inj hmid
          rfl
      | compose job =>
        obtain rfl := Option.some.inj hmid
        rfl
    rw [hstep]
    exact ih h

theorem WellNested.exists_openBlocks {steps before : List StackStep} (h : WellNested steps)
    (hbefore : before <+: steps) : ∃ blocks, openBlocks? before = some blocks := by
  obtain ⟨after, rfl⟩ := hbefore
  obtain ⟨blocks, hblocks⟩ := Option.isSome_iff_exists.1 h
  rw [openBlocks?_append] at hblocks
  obtain ⟨mid, hmid, -⟩ := Option.bind_eq_some_iff.1 hblocks
  exact ⟨mid, hmid⟩

/-- Rendering leaves the scopes as they were, also where it fails. -/
theorem Job.compose_snd (job : Job) (stack : ScopeStack) : (job.compose stack).2 = stack := by
  fun_induction Job.compose job stack with
  | case1 => rfl
  | case2 => rfl
  | case3 type task options halt block child stack command hcommand rest inner hchild ih =>
    have hinner : inner = stack.enter block := by rw [← ih, hchild]
    change inner.leave = stack
    rw [hinner, ScopeStack.leave_enter]
  | case4 => rfl

namespace ScopeStack

def after (stack : ScopeStack) : StackStep → ScopeStack
  | .enter block => stack.enter block
  | .leave => stack.leave
  | .compose job => (job.compose stack).2

def run (stack : ScopeStack) (steps : List StackStep) : ScopeStack := steps.foldl after stack

theorem run_append (stack : ScopeStack) (steps steps' : List StackStep) :
    stack.run (steps ++ steps') = (stack.run steps).run steps' :=
  List.foldl_append

/-- After a step, the stack has the blocks opened in it that are open then. -/
theorem after_under {stack : ScopeStack} {step : StackStep} {blocks blocks' : List Block}
    (h : step.blocks? blocks = some blocks') :
    (stack.under blocks).after step = stack.under blocks' := by
  cases step with
  | enter block =>
    obtain rfl := Option.some.inj h
    rfl
  | leave =>
    cases blocks with
    | nil => cases h
    | cons block blocks =>
      obtain rfl := Option.some.inj h
      exact leave_enter (stack.under blocks) block
  | compose job =>
    obtain rfl := Option.some.inj h
    exact job.compose_snd _

theorem run_under {stack : ScopeStack} {steps : List StackStep} {blocks blocks' : List Block}
    (h : steps.foldlM StackStep.blocks? blocks = some blocks') :
    (stack.under blocks).run steps = stack.under blocks' := by
  induction steps generalizing blocks with
  | nil =>
    obtain rfl := Option.some.inj h
    rfl
  | cons step steps ih =>
    rw [List.foldlM_cons] at h
    obtain ⟨mid, hmid, h⟩ := Option.bind_eq_some_iff.1 h
    calc (stack.under blocks).run (step :: steps)
        = ((stack.under blocks).after step).run steps := rfl
      _ = (stack.under mid).run steps := by rw [after_under hmid]
      _ = stack.under blocks' := ih h

/-- A stack after some steps is the stack with the blocks that they leave open. -/
theorem run_openBlocks {steps : List StackStep} {blocks : List Block}
    (h : openBlocks? steps = some blocks) (stack : ScopeStack) :
    stack.run steps = stack.under blocks :=
  run_under h

/-- Closing a block takes everything back that came since it was opened. -/
theorem run_block {inside : List StackStep} (h : openBlocks? inside = some [])
    (stack : ScopeStack) (block : Block) :
    stack.run (.enter block :: inside ++ [.leave]) = stack := by
  have hinside : (stack.enter block).run inside = stack.enter block := run_openBlocks h _
  calc stack.run (.enter block :: inside ++ [.leave])
      = ((stack.enter block).run inside).run [.leave] := run_append _ inside [.leave]
    _ = (stack.enter block).leave := by rw [hinside]; rfl
    _ = stack := leave_enter stack block

end ScopeStack

/-! ## Steps of rendering -/

/-- A stack of scopes with the steps that were taken on it, the first one first. -/
@[ext]
structure Recording where
  stack : ScopeStack
  steps : List StackStep := []

def Recording.take (recording : Recording) (step : StackStep) : Recording :=
  ⟨recording.stack.after step, recording.steps ++ [step]⟩

namespace Job

/-- Rendering as in `compose`, on a stack whose steps are recorded. -/
def record : Job → Recording → Except RenderError String × Recording
  | job@⟨_, _, _, _, _, []⟩, recording => (recording.stack.command job, recording)
  | job@⟨_, _, _, _, declarations, [child]⟩, recording =>
    match recording.stack.command job with
    | .error e => (.error e, recording)
    | .ok command =>
      let (rest, inner) := child.record (recording.take (.enter declarations))
      (rest.map (job.operator.join command), inner.take .leave)
  | job, recording => (recording.stack.command job >>= fun _ => .error (.parallel job), recording)

/-- The steps that are recorded when a job is rendered: the blocks that it opens and closes. -/
def steps (job : Job) (stack : ScopeStack) : List StackStep := (job.record ⟨stack, []⟩).2.steps

/-- The record changes neither the result of rendering nor the stack. -/
theorem compose_eq_record (job : Job) (recording : Recording) :
    job.compose recording.stack = ((job.record recording).1, (job.record recording).2.stack) := by
  fun_induction record job recording with
  | case1 => rfl
  | case2 => simp only [compose, *]
  | case3 type task options halt block child recording command hcommand rest inner hchild ih =>
    rw [hchild] at ih
    have hinner : child.compose (recording.stack.enter block) = (rest, inner.stack) := ih
    simp only [compose, hcommand, hinner]
    rfl
  | case4 => simp only [compose]

/-- The steps of a job come behind those that are recorded already. -/
theorem steps_record (job : Job) (stack : ScopeStack) (before : List StackStep) :
    (job.record ⟨stack, before⟩).2.steps = before ++ job.steps stack := by
  fun_induction compose job stack generalizing before with
  | case1 => simp [record, steps]
  | case2 => simp [record, steps, *]
  | case3 type task options halt block child stack command hcommand rest inner hchild ih =>
    simp only [steps, record, hcommand, Recording.take, ScopeStack.after]
    rw [ih, ih]
    simp
  | case4 => simp only [steps, record, List.append_nil]

theorem record_eq (job : Job) (stack : ScopeStack) :
    job.record ⟨stack, []⟩ = ((job.compose stack).1, ⟨stack, job.steps stack⟩) := by
  have hcompose := job.compose_eq_record ⟨stack, []⟩
  have hstack : (job.record ⟨stack, []⟩).2.stack = stack :=
    (congrArg Prod.snd hcompose).symm.trans (job.compose_snd stack)
  exact Prod.ext (congrArg Prod.fst hcompose).symm (Recording.ext hstack rfl)

/-- Rendering closes every block that it opens, and no other. -/
theorem openBlocks?_steps (job : Job) (stack : ScopeStack) :
    openBlocks? (job.steps stack) = some [] := by
  fun_induction compose job stack with
  | case1 => rfl
  | case2 => simp [steps, record, openBlocks?, *]
  | case3 type task options halt block child stack command hcommand rest inner hchild ih =>
    have hsteps : steps ⟨type, task, options, halt, block, [child]⟩ stack =
        .enter block :: child.steps (stack.enter block) ++ [.leave] := by
      simp only [steps, record, hcommand, Recording.take, ScopeStack.after]
      rw [steps_record]
      rfl
    have hinside : (child.steps (stack.enter block)).foldlM StackStep.blocks? [block] =
        some [block] := foldlM_blocks?_append ih [block]
    rw [hsteps]
    calc openBlocks? (.enter block :: child.steps (stack.enter block) ++ [.leave])
        = ((child.steps (stack.enter block)).foldlM StackStep.blocks? [block]).bind
            fun blocks => [StackStep.leave].foldlM StackStep.blocks? blocks :=
          openBlocks?_append (.enter block :: child.steps (stack.enter block)) [.leave]
      _ = some [] := by rw [hinside]; rfl
  | case4 => simp [steps, record, openBlocks?]

end Job

namespace ScopeStack

/-- Whatever happens to the scopes of a root, in any order in which blocks are nested: at every
moment the stack is the root with the blocks that are open, and gives a job what the innermost of
them give. A block that is closed again leaves the stack as it was. So does rendering a job, with a
command or with an error, and the blocks that it opens in between, as they are recorded, count like
any others. -/
theorem run_wellNested (root : Scope) {steps : List StackStep} (hsteps : WellNested steps) :
    ∀ before, before <+: steps → ∃ blocks, openBlocks? before = some blocks ∧
      let stack := run ⟨root, []⟩ before
      stack.IsLexical root blocks ∧
      (∀ block inside, openBlocks? inside = some [] →
        stack.run (.enter block :: inside ++ [.leave]) = stack) ∧
      ∀ job : Job, (job.compose stack).2 = stack ∧
        job.record ⟨stack, []⟩ = ((job.compose stack).1, ⟨stack, job.steps stack⟩) ∧
        stack.run (job.steps stack) = stack ∧
        ∀ inside, inside <+: job.steps stack → ∃ inner, openBlocks? inside = some inner ∧
          (stack.run inside).IsLexical root (inner ++ blocks) := by
  intro before hbefore
  obtain ⟨blocks, hblocks⟩ := hsteps.exists_openBlocks hbefore
  have hstack : run ⟨root, []⟩ before = under ⟨root, []⟩ blocks := run_openBlocks hblocks _
  refine ⟨blocks, hblocks, ?_, fun block inside hinside => run_block hinside _ block, fun job => ?_⟩
  · rw [hstack]
    exact isLexical_under root blocks
  · have hclosed := job.openBlocks?_steps (run ⟨root, []⟩ before)
    refine ⟨job.compose_snd _, job.record_eq _, run_openBlocks hclosed _, fun inside hinside => ?_⟩
    have hnested : WellNested (job.steps (run ⟨root, []⟩ before)) := by
      rw [WellNested, hclosed]
      rfl
    obtain ⟨inner, hinner⟩ := hnested.exists_openBlocks hinside
    refine ⟨inner, hinner, ?_⟩
    rw [run_openBlocks hinner, hstack, ← under_append]
    exact isLexical_under root (inner ++ blocks)

/-- A block that clears the wrapping template and defines a job type twice, in which a job is
rendered that branches inside its own block. -/
theorem run_wellNested_branching :
    let root : Scope :=
      { jobTemplate := some "|:job|", jobTypes := .ofList [("say", ":task"), ("run", ":x")],
        globals := .ofList [("x", "1")] }
    let leaf : Job := { type := "say", task := "c" }
    let branch : Job := { type := "say", task := "b", children := [leaf, leaf] }
    let job : Job :=
      { type := "say", task := "a", declarations := [.set "x" "3"], children := [branch] }
    let block : Block :=
      [.jobType ⟨"say", "first :task"⟩, .jobTemplate none, .jobType ⟨"say", ":x :task"⟩]
    let steps : List StackStep :=
      [.enter [.set "x" "2"], .enter [], .leave, .enter block, .compose job]
    let stack := run ⟨root, []⟩ steps
    WellNested steps ∧
      (job.compose stack).1 = .error (.parallelJobs "say" "b" 2) ∧ (job.compose stack).2 = stack ∧
      stack.depth = 3 ∧ stack.jobType? "say" = some ":x :task" ∧
      stack.jobType? "run" = some ":x" ∧ stack.current.jobTemplate = none ∧
      (stack.resolver ∅).resolve "x" = some "2" := by
  intro root leaf branch job block steps stack
  have hsteps : WellNested steps := by decide
  obtain ⟨blocks, hblocks, hlexical, -, hjobs⟩ :=
    run_wellNested root hsteps steps (List.prefix_refl steps)
  obtain rfl : [block, [.set "x" "2"]] = blocks := Option.some.inj hblocks
  refine ⟨hsteps, rfl, (hjobs job).1, hlexical.depth, ?_, ?_, ?_, ?_⟩
  · rw [hlexical.jobType]
    decide
  · rw [hlexical.jobType]
    decide
  · rw [hlexical.wrapper]
    rfl
  · rw [hlexical.value]
    decide

end ScopeStack

end CrontabRenderer

import Turtle.Proofs.BufferedRun
import Turtle.Proofs.Evaluation.Cursor
import Turtle.Proofs.Grammar.Levels
import Turtle.Proofs.Source.Coverage
import Mathlib.Logic.Relation

/-
This file runs the programs of a batch side by side on one canvas. Programs are read and evaluated
apart from the canvas, and then draw one segment at a time in any order among them. They share the
frame budget, which the first evaluation raises, so that a text may be read within one of two limits
of nesting. The results are always those of programs that run on their own within such a limit, and
each drawing reaches the canvas whole and in order.
-/

namespace Turtle

/-- The merged list takes all items of the lists, and those of each list in their order. -/
inductive Interleaves {α : Type} : List (List α) → List α → Prop
  | done {lists : List (List α)} (empty : ∀ list ∈ lists, list = []) : Interleaves lists []
  | take {before after : List (List α)} {item : α} {rest merged : List α}
      (more : Interleaves (before ++ rest :: after) merged) :
      Interleaves (before ++ (item :: rest) :: after) (item :: merged)

theorem Interleaves.perm {α : Type} {lists : List (List α)} {merged : List α}
    (interleaves : Interleaves lists merged) : merged.Perm lists.flatten := by
  induction interleaves with
  | done empty =>
      have none := List.flatten_eq_nil_iff.mpr empty
      rw [none]
  | @take before after item rest merged _ inductionHypothesis =>
      rw [List.flatten_append, List.flatten_cons] at inductionHypothesis ⊢
      have front := inductionHypothesis.cons item
      exact front.trans List.perm_middle.symm

namespace Canvas

end Canvas

/-- A job of a batch waits for a worker, has been read, has been evaluated and has segments left to
draw, or has its result. -/
inductive Job where
  | waiting (source : Source) (state : State)
  | ready (node : Node) (state : State)
  | drawing (left : List Segment) (final : State)
  | finished (result : Except RunError State)

namespace Interpreter

/-- The evaluation of a program fills a buffer of its own. -/
def evaluated (interpreter : Interpreter) (node : Node) (state : State) : Job :=
  let buffer := interpreter.runTree node .blank state
  match buffer.result with
  | .ok final => .drawing buffer.canvas.segments final
  | .error error => .finished (.error error)

/-- A job goes on by its reading within the frames of the moment, by its evaluation, which raises
the frames, by one segment or by giving its result. -/
def advance (interpreter : Interpreter) (frames : Nat) (canvas : Canvas) :
    Job → Job × Nat × Canvas
  | .waiting source state =>
      match source.read (levelsWithin frames) with
      | .ok node => (.ready node state, frames, canvas)
      | .error error => (.finished (.error (.reading error)), frames, canvas)
  | .ready node state =>
      (interpreter.evaluated node state, max frames interpreter.limits.frames, canvas)
  | .drawing [] final => (.finished (.ok final), frames, canvas)
  | .drawing (segment :: left) final =>
      match canvas.draw segment with
      | (.ok (), canvas) => (.drawing left final, frames, canvas)
      | (.error error, canvas) =>
          (.finished (.error (.failing (.canvas error))), frames, canvas)
  | .finished result => (.finished result, frames, canvas)

end Interpreter

/-- The jobs of a pool stand in the order of input, and share the frames and a canvas. -/
structure Pool where
  jobs : List Job
  frames : Nat
  canvas : Canvas

/-- Any one job of the pool goes on. No bound on the jobs at work is needed, so that every number of
workers and every order among them is covered. -/
inductive Pool.Step (interpreter : Interpreter) : Pool → Pool → Prop
  | advance (before : List Job) (job : Job) (after : List Job) (frames : Nat) (canvas : Canvas) :
      Step interpreter ⟨before ++ job :: after, frames, canvas⟩
        ⟨before ++ (interpreter.advance frames canvas job).1 :: after,
          (interpreter.advance frames canvas job).2.1, (interpreter.advance frames canvas job).2.2⟩

/-- The pool reaches another one by some steps. -/
def Pool.Reaches (interpreter : Interpreter) : Pool → Pool → Prop :=
  Relation.ReflTransGen (Pool.Step interpreter)

/-- A drawing ends with its state and all its segments, unless there are some and the canvas refuses
them. -/
def drawingEnd (refusal : Option CanvasError) (final : State) :
    List Segment → Except RunError State × List Segment
  | [] => (.ok final, [])
  | segment :: left =>
      match refusal with
      | none => (.ok final, segment :: left)
      | some error => (.error (.failing (.canvas error)), [])

theorem drawingEnd_accepted (final : State) (left : List Segment) :
    drawingEnd none final left = (.ok final, left) := by
  cases left <;> rfl

/-- What a job comes to is its result, together with the segments that it has still to add. A job
that waits is read within the given levels. -/
def Job.ending (interpreter : Interpreter) (refusal : Option CanvasError) (levels : Nat) :
    Job → Except RunError State × List Segment
  | .waiting source state =>
      match source.read levels with
      | .ok node => treeEnding node state
      | .error error => (.error (.reading error), [])
  | .ready node state => treeEnding node state
  | .drawing left final => drawingEnd refusal final left
  | .finished result => (result, [])
where
  treeEnding (node : Node) (state : State) : Except RunError State × List Segment :=
    let buffer := interpreter.runTree node .blank state
    match buffer.result with
    | .ok final => drawingEnd refusal final buffer.canvas.segments
    | .error error => (.error error, [])

/-- The segments that a job has buffered are drawable. -/
def Job.IsDrawable : Job → Prop
  | .drawing left _ => ∀ segment ∈ left, segment.IsDrawable
  | .waiting _ _ | .ready _ _ | .finished _ => True

namespace Interpreter

variable (interpreter : Interpreter)

theorem ending_evaluated (refusal : Option CanvasError) (levels : Nat) (node : Node)
    (state : State) :
    (interpreter.evaluated node state).ending interpreter refusal levels =
      (Job.ready node state).ending interpreter refusal levels := by
  simp only [evaluated, Job.ending, Job.ending.treeEnding]
  cases (interpreter.runTree node .blank state).result <;> rfl

theorem evaluated_isDrawable (node : Node) (state : State) :
    (interpreter.evaluated node state).IsDrawable := by
  rw [evaluated]
  cases interpreter.runTree_replays state node with
  | fails error failed =>
      rw [(failed .blank).1]
      trivial
  | draws final drawn drawable complete _ =>
      obtain ⟨result, segments⟩ := Replays.segments_blank complete
      rw [result, segments]
      exact drawable

/-- The job has taken at most the next of its segments to the canvas. -/
def Moves (canvas next : Canvas) (before after : Except RunError State × List Segment) : Prop :=
  after.1 = before.1 ∧
    (after.2 = before.2 ∧ next = canvas ∨
      ∃ segment, canvas.draw segment = (.ok (), next) ∧ before.2 = segment :: after.2)

theorem moves_of_eq {canvas : Canvas} {before after : Except RunError State × List Segment}
    (same : after = before) : Moves canvas canvas before after := by
  rw [same]
  exact ⟨rfl, .inl ⟨rfl, rfl⟩⟩

/-- A step of a job keeps what the job comes to, and takes at most the next of its segments to the
canvas. A job that waits comes to what it is when it is read within the frames of the moment. -/
theorem advance_ending {job : Job} (drawable : job.IsDrawable) (frames : Nat) (canvas : Canvas) :
    let next := interpreter.advance frames canvas job
    next.1.IsDrawable ∧ (next.2.1 = frames ∨ next.2.1 = max frames interpreter.limits.frames) ∧
      next.2.2.refusal = canvas.refusal ∧
      ∀ later, ∃ levels, (levels = later ∨ levels = levelsWithin frames) ∧
        Moves canvas next.2.2 (job.ending interpreter canvas.refusal levels)
          (next.1.ending interpreter canvas.refusal later) := by
  match job with
  | .waiting source state =>
      simp only [advance]
      cases read : source.read (levelsWithin frames) with
      | ok node =>
          refine ⟨trivial, .inl rfl, rfl, fun later => ⟨_, .inr rfl, moves_of_eq ?_⟩⟩
          simp only [Job.ending, read]
      | error error =>
          refine ⟨trivial, .inl rfl, rfl, fun later => ⟨_, .inr rfl, moves_of_eq ?_⟩⟩
          simp only [Job.ending, read]
  | .ready node state =>
      refine ⟨interpreter.evaluated_isDrawable node state, .inr rfl, rfl, fun later => ?_⟩
      exact ⟨later, .inl rfl,
        moves_of_eq (interpreter.ending_evaluated canvas.refusal later node state)⟩
  | .finished result =>
      exact ⟨trivial, .inl rfl, rfl, fun later => ⟨later, .inl rfl, moves_of_eq rfl⟩⟩
  | .drawing [] final =>
      exact ⟨trivial, .inl rfl, rfl, fun later => ⟨later, .inl rfl, moves_of_eq rfl⟩⟩
  | .drawing (segment :: left) final =>
      obtain ⟨first, others⟩ := List.forall_mem_cons.mp drawable
      cases refused : canvas.refusal with
      | some error =>
          have ended : interpreter.advance frames canvas (.drawing (segment :: left) final) =
              (.finished (.error (.failing (.canvas error))), frames, canvas) := by
            rw [advance, Canvas.draw_of_refusal refused]
          dsimp only
          rw [ended]
          exact ⟨trivial, .inl rfl, refused, fun later => ⟨later, .inl rfl, moves_of_eq rfl⟩⟩
      | none =>
          obtain ⟨next, drawn, accepts, -⟩ := Canvas.draw_of_drawable refused first
          have moved : interpreter.advance frames canvas (.drawing (segment :: left) final) =
              (.drawing left final, frames, next) := by
            rw [advance, drawn]
          dsimp only
          rw [moved]
          refine ⟨others, .inl rfl, accepts, fun later => ⟨later, .inl rfl, ?_⟩⟩
          rw [Job.ending, Job.ending, drawingEnd_accepted, drawingEnd_accepted]
          exact ⟨rfl, .inr ⟨segment, drawn, rfl⟩⟩

/-- Each text of a batch is read within the frames that were there first or the raised ones. -/
def Admits (frames : Nat) (levels : List Nat) (count : Nat) : Prop :=
  levels.length = count ∧ ∀ level ∈ levels, level = levelsWithin frames ∨
    level = levelsWithin (max frames interpreter.limits.frames)

variable {interpreter}

/-- Frames that may have been raised admit no other levels. -/
theorem Admits.of_raised {frames later count : Nat} {levels : List Nat}
    (admits : interpreter.Admits later levels count)
    (raised : later = frames ∨ later = max frames interpreter.limits.frames) :
    interpreter.Admits frames levels count := by
  refine ⟨admits.1, fun level member => ?_⟩
  rcases raised with rfl | rfl
  · exact admits.2 level member
  · rcases admits.2 level member with same | same
    · exact .inr same
    · exact .inr (by rw [same, Nat.max_assoc, Nat.max_self])

/-- One text may be read within the frames that were there first. -/
theorem Admits.change {frames level later count : Nat} {front back : List Nat}
    (admits : interpreter.Admits frames (front ++ later :: back) count)
    (chosen : level = later ∨ level = levelsWithin frames) :
    interpreter.Admits frames (front ++ level :: back) count := by
  obtain ⟨length, each⟩ := admits
  rw [List.forall_mem_append, List.forall_mem_cons] at each
  obtain ⟨early, here, late⟩ := each
  refine ⟨by simpa using length, ?_⟩
  rw [List.forall_mem_append, List.forall_mem_cons]
  rcases chosen with rfl | rfl
  · exact ⟨early, here, late⟩
  · exact ⟨early, .inl rfl, late⟩

end Interpreter

/-- What the jobs come to when each is read within its levels. -/
def Job.endings (interpreter : Interpreter) (refusal : Option CanvasError) (levels : List Nat)
    (jobs : List Job) : List (Except RunError State × List Segment) :=
  List.zipWith (Job.ending interpreter refusal) levels jobs

theorem exists_split_at {α : Type} {items : List α} {place : Nat} (inside : place < items.length) :
    ∃ front item back, items = front ++ item :: back ∧ front.length = place := by
  refine ⟨items.take place, items[place], items.drop (place + 1), ?_, ?_⟩
  · rw [← List.drop_eq_getElem_cons inside, List.take_append_drop]
  · exact List.length_take_of_le inside.le

theorem Job.endings_split {interpreter : Interpreter} {refusal : Option CanvasError}
    {front back : List Nat} {level : Nat} {before after : List Job} {job : Job}
    (length : front.length = before.length) :
    Job.endings interpreter refusal (front ++ level :: back) (before ++ job :: after) =
      Job.endings interpreter refusal front before ++
        job.ending interpreter refusal level :: Job.endings interpreter refusal back after := by
  rw [endings, List.zipWith_append length]
  rfl

/-- Whatever order the steps have, the jobs end with what they came to before within some of the
admitted levels, and the segments that they had to add reach the canvas in an interleaving. -/
theorem Pool.Reaches.endings {interpreter : Interpreter} {pool : Pool}
    {results : List (Except RunError State)} {last : Nat} {final : Canvas}
    (reaches : Pool.Reaches interpreter pool ⟨results.map .finished, last, final⟩)
    (drawable : ∀ job ∈ pool.jobs, job.IsDrawable) :
    ∃ levels, interpreter.Admits pool.frames levels pool.jobs.length ∧
      let endings := Job.endings interpreter pool.canvas.refusal levels pool.jobs
      results = endings.map Prod.fst ∧
        ∃ merged, Interleaves (endings.map Prod.snd) merged ∧
          pool.canvas.replay merged = (.ok (), final) := by
  induction reaches using Relation.ReflTransGen.head_induction_on with
  | refl =>
      refine ⟨List.replicate results.length (levelsWithin last), ⟨by simp, ?_⟩, ?_⟩
      · intro level member
        exact .inl (List.eq_of_mem_replicate member)
      · have ended : Job.endings interpreter final.refusal
            (List.replicate results.length (levelsWithin last)) (results.map .finished) =
              results.map fun result => (result, []) := by
          clear drawable
          induction results with
          | nil => rfl
          | cons result rest inductionHypothesis =>
              exact congrArg (List.cons (result, [])) inductionHypothesis
        dsimp only
        rw [ended]
        refine ⟨by simp [Function.comp_def], [], .done ?_, rfl⟩
        simp
  | head step _ inductionHypothesis =>
      obtain ⟨before, job, after, frames, canvas⟩ := step
      obtain ⟨early, others⟩ := List.forall_mem_append.mp drawable
      obtain ⟨here, late⟩ := List.forall_mem_cons.mp others
      obtain ⟨onward, raised, kept, moves⟩ := interpreter.advance_ending here frames canvas
      obtain ⟨levels, admits, all, merged, interleaves, replayed⟩ := inductionHypothesis
        (List.forall_mem_append.mpr ⟨early, List.forall_mem_cons.mpr ⟨onward, late⟩⟩)
      have inside : before.length < levels.length := by simp [admits.1]
      -- The levels of this job are chosen anew, and those of the others stay.
      obtain ⟨front, later, back, rfl, sized⟩ := exists_split_at inside
      obtain ⟨level, chosen, result, added⟩ := moves later
      simp only [kept, Job.endings_split sized, List.map_append, List.map_cons] at all interleaves
      refine ⟨front ++ level :: back, ?_, ?_⟩
      · have changed := (admits.of_raised raised).change chosen
        simpa using changed
      · simp only [Job.endings_split sized, List.map_append, List.map_cons]
        rw [result] at all
        refine ⟨all, ?_⟩
        rcases added with ⟨same, unchanged⟩ | ⟨segment, drawn, longer⟩
        · rw [same] at interleaves
          rw [unchanged] at replayed
          exact ⟨merged, interleaves, replayed⟩
        · refine ⟨segment :: merged, ?_, ?_⟩
          · rw [longer]
            exact .take interleaves
          · rw [Canvas.replay, drawn]
            exact replayed

namespace Interpreter

variable (interpreter : Interpreter)

end Interpreter

namespace Batch

end Batch

namespace Program

open Token

end Program

end Turtle

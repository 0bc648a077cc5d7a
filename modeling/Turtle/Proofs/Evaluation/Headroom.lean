import Turtle.Proofs.BufferedRun
import Turtle.Proofs.Evaluation.Kinds
import Turtle.Proofs.Evaluation.Limits
import Turtle.Proofs.Evaluation.Termination

/-
This file shows that the frame budget has room for all calls that the call limit admits. A shallow
body takes eight frames around each call, which is what the budget grows by, and the fixed part of
the budget covers the rest.
-/

namespace Turtle

/-- So many operators of an expression stand inside of one another. -/
def Node.operatorDepth : Node → Nat
  | .sub left right | .div left right => max left.operatorDepth right.operatorDepth + 1
  | _ => 0

/-- These are the expressions that the statement evaluates, without those of the bodies that it
defines. -/
def Node.expressions : Node → List Node
  | .forward operand | .rotate operand | .setHeading operand => [operand]
  | .seq first second => first.expressions ++ second.expressions
  | .loop times body => times :: body.expressions
  | .branch (.eq left right) body => left :: right :: body.expressions
  | .branch _ body => body.expressions
  | .call _ args => args
  | _ => []

/-- A sequence is one layer around all statements along its spine. -/
def Node.entryLayers : Node → Nat
  | .seq _ _ => 1
  | _ => 0

/-- At most so many sequences, repetitions and branches enclose a statement along the spine, without
the sequence of the spine itself. A body that is defined there is not inside of them. -/
def Node.spineLayers : Node → Nat
  | .seq first second => max (first.entryLayers + first.spineLayers) second.spineLayers
  | .loop _ body | .branch _ body => body.entryLayers + body.spineLayers + 1
  | _ => 0

/-- At most so many sequences, repetitions and branches enclose one statement. -/
def Node.layers (node : Node) : Nat :=
  node.entryLayers + node.spineLayers

/-- No statement lies in more than three layers, and no expression is nested more than a hundred
deep. -/
structure Node.IsShallow (node : Node) : Prop where
  layers : node.layers ≤ 3
  expressions : ∀ expression ∈ node.expressions, expression.operatorDepth ≤ 100

namespace Node

instance (node : Node) : Decidable node.IsShallow :=
  decidable_of_iff
    (node.layers ≤ 3 ∧ ∀ expression ∈ node.expressions, expression.operatorDepth ≤ 100)
    ⟨fun both => ⟨both.1, both.2⟩, fun shallow => ⟨shallow.layers, shallow.expressions⟩⟩

theorem levels_eq_operatorDepth (node : Node) : node.levels = node.operatorDepth + 1 := by
  fun_induction Node.operatorDepth node with
  | case1 left right leftHypothesis rightHypothesis
  | case2 left right leftHypothesis rightHypothesis =>
      rw [levels, leftHypothesis, rightHypothesis]
      omega
  | case3 node notSub notDiv => exact levels.eq_3 node notSub notDiv

theorem entryFrames_eq (node : Node) : node.entryFrames = 2 * node.entryLayers := by
  cases node <;> rfl

theorem comparisonLevels_le {condition body : Node} {most : Nat}
    (each : ∀ expression ∈ (branch condition body).expressions, expression.levels ≤ most) :
    condition.comparisonLevels ≤ most := by
  cases condition with
  | eq left right =>
      have first := each left (by simp [expressions])
      have second := each right (by simp [expressions])
      exact Nat.max_le.mpr ⟨first, second⟩
  | _ => exact Nat.zero_le most

theorem expressions_subset_branch (condition body : Node) :
    body.expressions ⊆ (branch condition body).expressions := by
  intro expression member
  cases condition with
  | eq left right => exact List.mem_cons_of_mem _ (List.mem_cons_of_mem _ member)
  | _ => exact member

theorem argumentLevels_le {args : List Node} {most : Nat}
    (each : ∀ expression ∈ args, expression.levels ≤ most) : argumentLevels args ≤ most := by
  induction args with
  | nil => exact Nat.zero_le most
  | cons arg rest inductionHypothesis =>
      obtain ⟨first, others⟩ := List.forall_mem_cons.mp each
      exact Nat.max_le.mpr ⟨first, inductionHypothesis others⟩

/-- Each layer takes two frames. The innermost statement takes two more, beside what its expressions
or the body that it calls take. -/
theorem spineFrames_le (called : Nat) {most : Nat} {node : Node}
    (each : ∀ expression ∈ node.expressions, expression.levels ≤ most) :
    node.spineFrames called ≤ 2 * node.spineLayers + max called most + 2 := by
  fun_induction Node.spineFrames called node with
  | case1 operand | case2 operand | case3 operand =>
      have expression := each operand List.mem_cons_self
      omega
  | case4 first second firstHypothesis secondHypothesis =>
      obtain ⟨before, behind⟩ := List.forall_mem_append.mp each
      have start := firstHypothesis before
      have rest := secondHypothesis behind
      rw [spineLayers, entryFrames_eq]
      omega
  | case5 times body bodyHypothesis =>
      obtain ⟨count, others⟩ := List.forall_mem_cons.mp each
      have round := bodyHypothesis others
      rw [spineLayers, entryFrames_eq]
      omega
  | case6 condition body bodyHypothesis =>
      have compared := comparisonLevels_le each
      have taken := bodyHypothesis fun expression member =>
        each expression (expressions_subset_branch condition body member)
      rw [spineLayers, entryFrames_eq]
      omega
  | case7 name args =>
      have values : argumentLevels args ≤ most := argumentLevels_le each
      omega
  | case8 => omega

/-- A shallow body takes eight frames around a call. -/
theorem IsShallow.frames_le {node : Node} (shallow : node.IsShallow) (called : Nat) :
    node.frames called ≤ max called 101 + 8 := by
  have layers := shallow.layers
  have levels : ∀ expression ∈ node.expressions, expression.levels ≤ 101 := by
    intro expression member
    rw [levels_eq_operatorDepth]
    exact Nat.succ_le_succ (shallow.expressions expression member)
  have inside := spineFrames_le called levels
  rw [Node.layers] at layers
  rw [frames, entryFrames_eq]
  omega

end Node

/-- This body calls its own procedure inside of a sequence in a repetition in a sequence. -/
def callsInThreeLayers : Node :=
  .seq (.rotate (.const (.whole 1)))
    (.loop (.const (.whole 2)) (.seq (.call "inner" []) (.rotate (.const (.whole 1)))))

/-- Three layers and the call in them need all of the eight frames. -/
example : callsInThreeLayers.IsShallow ∧ callsInThreeLayers.frames 101 = 101 + 8 := by decide

theorem room_le_of_shallow {bodies : List Node} (shallow : ∀ body ∈ bodies, body.IsShallow)
    (calls : Nat) : room Node.frames bodies calls ≤ 8 * calls + 101 := by
  induction calls with
  | zero => exact Nat.zero_le _
  | succ calls inductionHypothesis =>
      rw [room]
      cases greatest : (bodies.map (Node.frames (room Node.frames bodies calls))).max? with
      | none => exact Nat.zero_le _
      | some frames =>
          obtain ⟨body, member, rfl⟩ := List.mem_map.mp (List.max?_mem greatest)
          have taken := (shallow body member).frames_le (room Node.frames bodies calls)
          rw [Option.getD_some]
          omega

section

variable {limits : Limits} {node : Node} {state : State}

/-- A statement with shallow bodies never runs out of frames, if the greatest frame budget has room
for all calls. -/
theorem evaluate_finished_of_shallow (bounded : 8 * limits.maxCallDepth + 200 ≤ 20000)
    (shallow : ∀ body ∈ node :: (node.bodies ++ state.procedures.bodies), body.IsShallow)
    (progress : Progress) :
    Finished (evaluate limits limits.frames 0 node state progress).1 := by
  obtain ⟨main, others⟩ := List.forall_mem_cons.mp shallow
  let bodies := node.bodies ++ state.procedures.bodies
  have included : node.bodies ⊆ bodies := List.subset_append_left _ _
  have within : state.procedures.Within bodies :=
    Procedures.within_of_subset (List.subset_append_right _ _)
  obtain ⟨events, run, -⟩ := evaluate_logs limits limits.frames 0 node state progress
  refine run.finished included within ?_
  have called : room Node.frames bodies (limits.callsLeft 0) ≤ 8 * limits.callsLeft 0 + 101 :=
    room_le_of_shallow others (limits.callsLeft 0)
  have taken := main.frames_le (room Node.frames bodies (limits.callsLeft 0))
  have enough : 8 * limits.callsLeft 0 + 109 ≤ limits.frames := by
    simp only [Limits.callsLeft, Limits.frames, baseFrames]
    omega
  calc node.frames (room Node.frames bodies (limits.callsLeft 0))
      ≤ max (room Node.frames bodies (limits.callsLeft 0)) 101 + 8 := taken
    _ ≤ 8 * limits.callsLeft 0 + 109 := by omega
    _ ≤ limits.frames := enough

end

/-- Two runs are the same until the first one reports the given limit of open calls. -/
def Coupling.untilDepth (limit : Int) : Coupling where
  states := Eq
  progress := Eq
  excusesFirst failure := ∃ name node, failure = callRefusal limit name node
  excusesSecond _ := False

theorem Coupling.untilDepth_ends (limit : Int) (outcome : Outcome) :
    (Coupling.untilDepth limit).Ends outcome outcome := by
  obtain ⟨failure | state, progress⟩ := outcome
  · exact .failures failure rfl
  · exact .values rfl rfl

/-- Limits that differ in their calls alone keep two runs the same until the first limit of calls is
reported. -/
theorem Limits.keepsDepth (limits : Limits) {deeper : Int} (le : limits.maxCallDepth ≤ deeper) :
    (Coupling.untilDepth limits.maxCallDepth).Keeps limits
      { limits with maxCallDepth := deeper } :=
  have within : limits.Within { limits with maxCallDepth := deeper } := ⟨.same _, le⟩
  { patient := by
      refine ⟨?_, id⟩
      rintro ⟨name, node, same⟩
      have other := isShortage_callRefusal limits.maxCallDepth name node
      rw [← same] at other
      cases other
    bindings := within.keeps.bindings
    terminated := within.keeps.terminated
    marks := within.keeps.marks
    heads := within.keeps.heads
    defines := within.keeps.defines
    leaves := within.keeps.leaves
    starts := within.keeps.starts
    records := within.keeps.records
    turns := by
      rintro state _ degrees rfl
      exact .refl (fun _ => rfl) _
    moves := by
      rintro state _ pixels rfl earlier _ rfl
      exact Coupling.untilDepth_ends _ _
    counts := fun times node => .refl (fun _ => rfl) _
    prepares := by
      rintro state _ frames depth name args node rfl
      have excused : (Coupling.untilDepth limits.maxCallDepth).excusesFirst
          (callRefusal limits.maxCallDepth name node) := ⟨name, node, rfl⟩
      rw [prepareCall, prepareCall]
      split
      · exact .failures _
      · split
        · exact .firstExcused excused _
        · rw [if_neg (by dsimp only; omega)]
          exact .refl (fun _ => ⟨rfl, rfl⟩) _ }

/-- Under a greater limit of open calls and with some number of frames, the statement has more calls
open at once than its own limit admits. -/
def Limits.Exceeded (limits : Limits) (node : Node) (state : State) (canvas : Canvas) : Prop :=
  ∃ deeper frames before, limits.maxCallDepth ≤ deeper ∧
    before <+: (evaluate { limits with maxCallDepth := deeper } frames 0 node state
      ⟨canvas, #[]⟩).2.events.toList ∧
    max 0 limits.maxCallDepth < openCalls before

section

variable {limits : Limits} {node : Node} {state : State}

theorem openCalls_le_of_evaluate {frames : Nat} {canvas : Canvas} {before : List Event}
    (start : before <+: (evaluate limits frames 0 node state ⟨canvas, #[]⟩).2.events.toList) :
    openCalls before ≤ max 0 limits.maxCallDepth := by
  obtain ⟨events, run, added⟩ := evaluate_logs limits frames 0 node state ⟨canvas, #[]⟩
  rw [added, List.nil_append] at start
  have bounded := (run.nested.bounded before start).2
  simp only [Limits.callsLeft] at bounded
  omega

/-- Too many open calls are reported as such by an evaluation that does not run out of frames. -/
theorem evaluate_callDepth_of_exceeded {budget : Nat} {canvas : Canvas}
    (exceeded : limits.Exceeded node state canvas)
    (finished : Finished (evaluate limits budget 0 node state ⟨canvas, #[]⟩).1) :
    ∃ name call, (evaluate limits budget 0 node state ⟨canvas, #[]⟩).1 =
      .error (callRefusal limits.maxCallDepth name call) := by
  obtain ⟨deeper, frames, before, le, start, above⟩ := exceeded
  -- The two limits are compared within the frames of the deeper run, and only then are the frames
  -- of the report changed.
  have ends := (limits.keepsDepth le).evaluate frames 0 node (rfl : state = state)
    ⟨canvas, #[]⟩ ⟨canvas, #[]⟩ rfl
  rcases ran : evaluate limits frames 0 node state ⟨canvas, #[]⟩ with ⟨result, after⟩
  rcases went : evaluate { limits with maxCallDepth := deeper } frames 0 node state
    ⟨canvas, #[]⟩ with ⟨answer, behind⟩
  rw [ran, went] at ends
  have apart : after ≠ behind := by
    rintro rfl
    rw [went] at start
    have within : before <+: (evaluate limits frames 0 node state
        ⟨canvas, #[]⟩).2.events.toList := by rwa [ran]
    exact Int.not_lt.mpr (openCalls_le_of_evaluate within) above
  cases ends with
  | values _ along => exact absurd along apart
  | failures _ along => exact absurd along apart
  | secondExcused excused _ => exact excused.elim
  | firstExcused excused _ =>
      obtain ⟨name, call, rfl⟩ := excused
      have reported : Finished (evaluate limits frames 0 node state ⟨canvas, #[]⟩).1 := by
        rw [ran]
        exact finished_error.mpr (isShortage_callRefusal ..)
      refine ⟨name, call, ?_⟩
      rcases Nat.le_total frames budget with fewer | more
      · rw [evaluate_steady limits fewer 0 node state _ reported, ran]
      · rw [← evaluate_steady limits more 0 node state _ finished, ran]

end

namespace Interpreter

variable {interpreter : Interpreter} {node : Node} {state : State}

theorem nestingFailure_of_finished {failure : Failure} (other : failure.isShortage = false) :
    nestingFailure node failure = failure := by
  cases failure with
  | outOfFrames => cases other
  | runtime _ | arithmetic _ | canvas _ => rfl

/-- A run of a tree does not report a shortage of frames when its evaluation has enough of them. -/
theorem runTree_finished {canvas : Canvas} {failure : Failure}
    (finished : Finished (evaluate interpreter.limits interpreter.limits.frames 0 node state
      ⟨.blank, #[]⟩).1)
    (failed : (interpreter.runTree node canvas state).result = .error (.failing failure)) :
    failure.isShortage = false := by
  rcases runTree_error failed with ⟨inner, after, evaluated, rfl⟩ | ⟨error, rfl⟩
  · have other : inner.isShortage = false := finished inner (by rw [evaluated])
    rw [nestingFailure_of_finished other]
    exact other
  · rfl

theorem runTree_result_of_failed {failure : Failure} (canvas : Canvas)
    (failed : (evaluate interpreter.limits interpreter.limits.frames 0 node state
      ⟨.blank, #[]⟩).1 = .error failure) (other : failure.isShortage = false) :
    (interpreter.runTree node canvas state).result = .error (.failing failure) := by
  rcases ran : evaluate interpreter.limits interpreter.limits.frames 0 node state
    ⟨.blank, #[]⟩ with ⟨result, after⟩
  rw [ran] at failed
  cases failed
  simp only [runTree, ran, nestingFailure_of_finished other]

end Interpreter

/-- The calls that the limit admits fit into the frame budget, unless its upper bound cuts it short.
When no statement of the program, and none of a body taken by itself, lies in more than three
layers, and no expression is nested more than a hundred deep, the evaluation never runs out of
frames, and neither does a run of the program from its tree or its text. A recursion that would open
more calls than the limit admits is reported with that limit, as long as the limit has a text. -/
theorem call_depth_fits_frames {limits : Limits}
    (bounded : 8 * limits.maxCallDepth + 200 ≤ 20000) {node : Node} {state : State}
    (shallow : ∀ body ∈ node :: (node.bodies ++ state.procedures.bodies), body.IsShallow)
    (debug : Bool) (canvas : Canvas) :
    (∀ progress, Finished (evaluate limits limits.frames 0 node state progress).1) ∧
    (limits.maxCallDepth.natAbs < 10 ^ maxDigits → limits.Exceeded node state canvas →
      ∃ name call,
        ((Interpreter.mk limits debug).evaluateDirectly node canvas state).result =
          .error (.failing (.runtime (.callDepth limits.maxCallDepth name call)))) ∧
    ∀ (levels : Nat) (source : Source), source.read levels = .ok node →
      (∀ failure, ((Interpreter.mk limits debug).run levels source canvas state).result =
        .error (.failing failure) → failure.isShortage = false) ∧
      (limits.maxCallDepth.natAbs < 10 ^ maxDigits → limits.Exceeded node state .blank →
        ∃ name call,
          ((Interpreter.mk limits debug).run levels source canvas state).result =
            .error (.failing (.runtime (.callDepth limits.maxCallDepth name call))) ∧
          (RuntimeError.callDepth limits.maxCallDepth name call).message =
            s!"Maximum procedure call depth exceeded ({limits.maxCallDepth}) in {name}") := by
  have finished := evaluate_finished_of_shallow bounded shallow
  have report {surface : Canvas} (short : limits.maxCallDepth.natAbs < 10 ^ maxDigits)
      (exceeded : limits.Exceeded node state surface) :
      ∃ name call, (evaluate limits limits.frames 0 node state ⟨surface, #[]⟩).1 =
        .error (.runtime (.callDepth limits.maxCallDepth name call)) := by
    obtain ⟨name, call, reported⟩ := evaluate_callDepth_of_exceeded exceeded (finished _)
    have few := (Nat.length_toDigits_le_iff (by decide) (by decide)).mpr short
    rw [callRefusal_eq, if_neg (Nat.not_lt.mpr few)] at reported
    exact ⟨name, call, reported⟩
  refine ⟨finished, ?_, ?_⟩
  · intro short exceeded
    obtain ⟨name, call, reported⟩ := report short exceeded
    refine ⟨name, call, ?_⟩
    simp only [Interpreter.evaluateDirectly, Interpreter.evaluateWithin, reported,
      Except.mapError]
  · intro levels source read
    rw [((Interpreter.mk limits debug).run_of_read state read canvas).1]
    refine ⟨fun failure failed => Interpreter.runTree_finished (finished _) failed, ?_⟩
    intro short exceeded
    obtain ⟨name, call, reported⟩ := report short exceeded
    exact ⟨name, call, Interpreter.runTree_result_of_failed canvas reported rfl, rfl⟩

/-- The recursion has no end, and each call stands in three layers. -/
def endlessRecursion : Node :=
  .seq (.define "inner" [] callsInThreeLayers) (.call "inner" [])

theorem endlessRecursion_exceeded :
    (⟨.atMost 2, 10⟩ : Limits).Exceeded endlessRecursion .origin .blank := by
  refine ⟨11, 100, _, by decide, List.take_prefix 64 _, ?_⟩
  decide +kernel

theorem call_depth_fits_frames_endlessRecursion :
    8 * (⟨.atMost 2, 10⟩ : Limits).maxCallDepth + 200 ≤ 20000 ∧
    (∀ body ∈ endlessRecursion :: (endlessRecursion.bodies ++ State.origin.procedures.bodies),
      body.IsShallow) ∧
    ∃ name call,
      ((Interpreter.mk ⟨.atMost 2, 10⟩ false).run (levelsWithin baseFrames)
          (.tree endlessRecursion) .blank .origin).result =
        .error (.failing (.runtime (.callDepth 10 name call))) ∧
      (RuntimeError.callDepth 10 name call).message =
        s!"Maximum procedure call depth exceeded (10) in {name}" := by
  have bounded : 8 * (⟨.atMost 2, 10⟩ : Limits).maxCallDepth + 200 ≤ 20000 := by decide
  have shallow : ∀ body ∈ endlessRecursion ::
      (endlessRecursion.bodies ++ State.origin.procedures.bodies), body.IsShallow := by decide
  obtain ⟨-, -, runs⟩ := call_depth_fits_frames bounded shallow false .blank
  have short : (⟨.atMost 2, 10⟩ : Limits).maxCallDepth.natAbs < 10 ^ maxDigits := by
    calc (⟨.atMost 2, 10⟩ : Limits).maxCallDepth.natAbs < 10 ^ 2 := by decide
      _ ≤ 10 ^ maxDigits := Nat.pow_le_pow_right (by decide) (by decide)
  exact ⟨bounded, shallow, (runs _ (.tree endlessRecursion) rfl).2 short endlessRecursion_exceeded⟩

end Turtle

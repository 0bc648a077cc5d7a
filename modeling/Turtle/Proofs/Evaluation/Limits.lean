import Turtle.Proofs.Evaluation.Lockstep
import Turtle.Proofs.Repetition
import Turtle.Run

/-
This file shows that limits only cut programs off: a run that no limit ends is the same run within
all wider limits.
-/

namespace Turtle

/-- The failure reports a limit. A count over its limit may be too long to be reported, and so may
the limit. -/
def Failure.isLimit : Failure → Bool
  | .runtime (.repeatLimit _ _ _) | .runtime (.callDepth _ _ _) => true
  | .arithmetic .tooManyDigits => true
  | _ => false

/-- A limit or a shortage of frames ended the evaluation before its time. -/
def Failure.isCutOff (failure : Failure) : Bool :=
  failure.isLimit || failure.isShortage

/-- Every count within the first limit is within the second one. -/
inductive RepeatLimit.Within : RepeatLimit → RepeatLimit → Prop
  | same (limit : RepeatLimit) : Within limit limit
  | atMost {narrow wide : Int} (le : narrow ≤ wide) : Within (.atMost narrow) (.atMost wide)
  | unlimited (narrow : Int) : Within (.atMost narrow) .unlimited

/-- The second limits admit all that the first ones admit. -/
structure Limits.Within (narrow wide : Limits) : Prop where
  repeats : narrow.maxRepeat.Within wide.maxRepeat
  calls : narrow.maxCallDepth ≤ wide.maxCallDepth

theorem Number.checkedText_cases (value : Number) :
    value.checkedText = .ok value.text ∨ value.checkedText = .error .tooManyDigits := by
  cases value with
  | whole exact =>
      rw [Number.checkedText]
      split
      · exact .inr rfl
      · exact .inl rfl
  | _ => exact .inl rfl

section

variable {limits : Limits} {most : Int} {times : Number} (limited : limits.maxRepeat = .atMost most)

include limited

theorem repeatCount_of_within (node : Node) (below : times.exceeds most = false) :
    repeatCount limits times node = .ok times.countBelow := by
  simp [repeatCount, limited, below]

/-- A count over its limit is refused with both texts, or because one of them is missing. -/
theorem repeatCount_of_exceeds (node : Node) (above : times.exceeds most = true) :
    ∃ failure, repeatCount limits times node = .error failure ∧ failure.isLimit = true := by
  simp only [repeatCount, limited, above, if_true]
  rcases times.checkedText_cases with shown | shown <;> rw [shown]
  · rcases (Number.whole most).checkedText_cases with reported | reported <;> rw [reported] <;>
      exact ⟨_, rfl, rfl⟩
  · exact ⟨_, rfl, rfl⟩

end

/-- Two runs are the same until the first one reports a limit. -/
def Coupling.untilLimit : Coupling where
  states := Eq
  progress := Eq
  excusesFirst failure := failure.isLimit = true
  excusesSecond _ := False

theorem Coupling.untilLimit_ends (outcome : Outcome) :
    Coupling.untilLimit.Ends outcome outcome := by
  obtain ⟨failure | state, progress⟩ := outcome
  · exact .failures failure rfl
  · exact .values rfl rfl

namespace Limits.Within

variable {narrow wide : Limits} (within : narrow.Within wide)

include within

theorem frames_le : narrow.frames ≤ wide.frames := by
  have calls := within.calls
  simp only [Limits.frames]
  omega

/-- A count that the narrow limit refuses is excused, and any other count the wide limit admits. -/
theorem repeatCount_matches (times : Number) (node : Node) :
    Coupling.untilLimit.Matches Eq (repeatCount narrow times node)
      (repeatCount wide times node) := by
  have refused : ∀ {most : Int}, narrow.maxRepeat = .atMost most → times.exceeds most = true →
      Coupling.untilLimit.Matches Eq (repeatCount narrow times node)
        (repeatCount wide times node) := by
    intro most limited above
    obtain ⟨failure, failed, reported⟩ := repeatCount_of_exceeds limited node above
    rw [failed]
    exact .firstExcused reported _
  have repeats := within.repeats
  generalize narrowest : narrow.maxRepeat = first at repeats
  generalize widest : wide.maxRepeat = second at repeats
  cases repeats with
  | same limit =>
      rw [repeatCount, repeatCount, narrowest, widest]
      exact .refl (fun _ => rfl) _
  | @atMost most more le =>
      cases above : times.exceeds most with
      | true => exact refused narrowest above
      | false =>
          have below : times.exceeds more = false := by
            by_contra exceeded
            rw [Number.exceeds_mono le (by simpa using exceeded)] at above
            cases above
          rw [repeatCount_of_within narrowest node above, repeatCount_of_within widest node below]
          exact .values rfl
  | unlimited most =>
      cases above : times.exceeds most with
      | true => exact refused narrowest above
      | false =>
          rw [repeatCount_of_within narrowest node above, repeatCount, widest]
          exact .values rfl

theorem prepareCall_matches (frames depth : Nat) (name : String) (args : List Node) (node : Node)
    (state : State) :
    Coupling.untilLimit.Matches Coupling.untilLimit.Enters
      (prepareCall narrow frames depth name args node state)
      (prepareCall wide frames depth name args node state) := by
  have calls := within.calls
  rw [prepareCall, prepareCall]
  split
  · exact .failures _
  · split
    · refine .firstExcused ?_ _
      rcases callRefusal_cases narrow.maxCallDepth name node with refused | refused <;>
        rw [refused] <;> rfl
    · rw [if_neg (by omega)]
      exact .refl (fun _ => ⟨rfl, rfl⟩) _

theorem keeps : Coupling.untilLimit.Keeps narrow wide where
  patient := ⟨Bool.false_ne_true, id⟩
  bindings := by rintro state _ rfl; rfl
  terminated := by rintro state _ rfl; rfl
  marks := by rintro state _ mark rfl; rfl
  heads := by rintro state _ heading rfl; rfl
  defines := by rintro state _ name params body rfl; rfl
  leaves := by rintro caller _ called _ rfl rfl; rfl
  starts := by rintro state _ earlier _ node rfl rfl; rfl
  records := by rintro earlier _ event rfl; rfl
  turns := by rintro state _ degrees rfl; exact .refl (fun _ => rfl) _
  moves := by rintro state _ pixels rfl earlier _ rfl; exact Coupling.untilLimit_ends _
  counts := within.repeatCount_matches
  prepares := by
    rintro state _ frames depth name args node rfl
    exact within.prepareCall_matches frames depth name args node state

/-- An evaluation that is not cut off is the same within wider limits and more frames. -/
theorem evaluate_eq {frames more depth : Nat} {node : Node} {state : State}
    {progress after : Progress} {result : Except Failure State} (enough : frames ≤ more)
    (ran : evaluate narrow frames depth node state progress = (result, after))
    (complete : ∀ failure, result = .error failure → failure.isCutOff = false) :
    evaluate wide more depth node state progress = (result, after) := by
  have together : Coupling.untilLimit.states state state := rfl
  -- The coupling keeps the frames, so the limits are widened first and the frames after them.
  have sameFrames : evaluate wide frames depth node state progress = (result, after) := by
    have ends := within.keeps.evaluate frames depth node together progress progress rfl
    rw [ran] at ends
    generalize evaluate wide frames depth node state progress = outcome at ends ⊢
    cases ends with
    | values together along => rw [together, along]
    | failures failure along => rw [along]
    | @firstExcused failure _ excused _ =>
        have cut := complete failure rfl
        rw [Failure.isCutOff, excused] at cut
        cases cut
    | secondExcused excused _ => exact excused.elim
  have finished : Finished (evaluate wide frames depth node state progress).1 := by
    intro failure failed
    rw [sameFrames] at failed
    have cut := complete failure failed
    rw [Failure.isCutOff, Bool.or_eq_false_iff] at cut
    exact cut.2
  rw [evaluate_steady wide enough depth node state progress finished, sameFrames]

/-- A tree whose run is not cut off runs in the same way within wider limits. -/
theorem runTree_eq (debug : Bool) (node : Node) (canvas : Canvas) (state : State)
    (complete : ∀ failure,
      ((Interpreter.mk narrow debug).runTree node canvas state).result =
        .error (.failing failure) → failure.isCutOff = false) :
    (Interpreter.mk wide debug).runTree node canvas state =
      (Interpreter.mk narrow debug).runTree node canvas state := by
  rcases ran : evaluate narrow narrow.frames 0 node state ⟨.blank, #[]⟩ with ⟨result, after⟩
  have spared : ∀ failure, result = .error failure → failure.isCutOff = false := by
    rintro failure rfl
    have cut := complete (Interpreter.nestingFailure node failure) (by
      simp only [Interpreter.runTree, ran])
    cases failure with
    | outOfFrames => cases cut
    | runtime _ | arithmetic _ | canvas _ => exact cut
  have same := within.evaluate_eq within.frames_le ran spared
  simp only [Interpreter.runTree, ran, same, Interpreter.traced]

end Limits.Within

/-- Limits only cut programs off. When a run ends in a state, or in an error that reports neither a
limit nor a shortage of frames, it is the same run within all wider limits: it ends in the same
state or in the same error, and leaves the same canvas and the same trace. -/
theorem limits_only_cut_off {narrow wide : Limits} (within : narrow.Within wide) (debug : Bool)
    (levels : Nat) (source : Source) (canvas : Canvas) (state : State)
    (complete : ∀ failure,
      ((Interpreter.mk narrow debug).run levels source canvas state).result =
        .error (.failing failure) → failure.isCutOff = false) :
    (Interpreter.mk wide debug).run levels source canvas state =
      (Interpreter.mk narrow debug).run levels source canvas state := by
  cases source with
  | tree node => exact within.runTree_eq debug node canvas state complete
  | text content =>
      cases found : Program.read levels content Program.unnamed with
      | error error => simp only [Interpreter.run, Interpreter.withTree, found]
      | ok node =>
          simp only [Interpreter.run, Interpreter.withTree, found] at complete ⊢
          rw [within.runTree_eq debug node canvas state complete]
          rfl

/-- This program uses up a limit of two rounds and of one open call before it fails. -/
def turnsThenFails : Node :=
  .seq (.define "turn" ["angle"] (.rotate (.var "angle")))
    (.seq (.loop (.const (.whole 2)) (.call "turn" [.const (.whole 45)]))
      (.rotate (.div (.const (.whole 1)) (.const (.whole 0)))))

theorem limits_only_cut_off_turnsThenFails :
    (⟨.atMost 2, 1⟩ : Limits).Within ⟨.unlimited, 100000⟩ ∧
      ((Interpreter.mk ⟨.atMost 2, 1⟩ false).run (levelsWithin baseFrames) (.tree turnsThenFails)
          .blank .origin).result =
        .error (.failing (.runtime
          (.divisionByZero (.div (.const (.whole 1)) (.const (.whole 0)))))) ∧
      (Interpreter.mk ⟨.unlimited, 100000⟩ false).run (levelsWithin baseFrames)
          (.tree turnsThenFails) .blank .origin =
        (Interpreter.mk ⟨.atMost 2, 1⟩ false).run (levelsWithin baseFrames)
          (.tree turnsThenFails) .blank .origin := by
  have within : (⟨.atMost 2, 1⟩ : Limits).Within ⟨.unlimited, 100000⟩ := ⟨.unlimited 2, by decide⟩
  have failed :
      ((Interpreter.mk ⟨.atMost 2, 1⟩ false).run (levelsWithin baseFrames) (.tree turnsThenFails)
          .blank .origin).result =
        .error (.failing (.runtime
          (.divisionByZero (.div (.const (.whole 1)) (.const (.whole 0)))))) := by rfl
  refine ⟨within, failed, limits_only_cut_off within false _ _ _ _ ?_⟩
  intro failure same
  rw [failed] at same
  cases same
  rfl

end Turtle

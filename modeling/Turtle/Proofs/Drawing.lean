import Turtle.Run
import Turtle.Proofs.Fallible

/-
This file says what a canvas holds after segments have been drawn on it, and shows when a move
is made and that every segment that a move leaves behind can be drawn.
-/

namespace Turtle

/-- A segment is drawable when all its coordinates have a text. -/
def Segment.IsDrawable (segment : Segment) : Prop :=
  ∃ line, Surface.lineElement segment = .ok line

namespace Number

/-- A number has two places when it is not blank and a double lies near it. -/
theorem exists_twoPlaces {value : Number} {double : Float} (visible : value.isBlank = false)
    (near : value.toDouble = .ok double) : ∃ text, value.twoPlaces = .ok text := by
  rw [twoPlaces, visible, near]
  exact ⟨_, rfl⟩

/-- With a double on the right all numbers combine as doubles. -/
theorem combine_real {operation : Operation}
    {exact : Int → Int → Except ArithmeticError Number} {rounded : Float → Float → Float}
    {left : Number} (visible : left.isBlank = false) (right : Float) :
    combine operation exact rounded left (.real right) =
      left.toDouble >>= fun first => .ok (.real (rounded first right)) := by
  cases left with
  | blank => cases visible
  | _ => rfl

/-- A number that combines with a double to a number has two places, and so has the result. -/
theorem combine_real_ok {operation : Operation}
    {exact : Int → Int → Except ArithmeticError Number} {rounded : Float → Float → Float}
    {left result : Number} {right : Float}
    (found : combine operation exact rounded left (.real right) = .ok result) :
    (∃ text, left.twoPlaces = .ok text) ∧ ∃ text, result.twoPlaces = .ok text := by
  cases visible : left.isBlank with
  | true =>
      rw [combine, visible] at found
      cases found
  | false =>
      rw [combine_real visible] at found
      obtain ⟨first, near, same⟩ := Fallible.bind_eq_ok_iff.mp found
      cases same
      exact ⟨exists_twoPlaces visible near, exists_twoPlaces rfl rfl⟩

end Number

/-- A cursor that moves leaves a drawable segment. -/
theorem State.isDrawable_of_advance {state : State} {pixels : Number} {finish : Point}
    (moved : state.advance pixels = .ok finish) :
    Segment.IsDrawable ⟨state.position, finish⟩ := by
  rw [State.advance] at moved
  obtain ⟨heading, -, more⟩ := Fallible.bind_eq_ok_iff.mp moved
  dsimp only at more
  by_cases unbounded : (heading * degree).isInf = true
  · rw [if_pos unbounded] at more
    cases more
  · rw [if_neg unbounded] at more
    obtain ⟨distance, -, more⟩ := Fallible.bind_eq_ok_iff.mp more
    obtain ⟨x, across, more⟩ := Fallible.bind_eq_ok_iff.mp more
    obtain ⟨y, along, same⟩ := Fallible.bind_eq_ok_iff.mp more
    cases same
    obtain ⟨⟨startX, writtenX⟩, finishX, endX⟩ := Number.combine_real_ok across
    obtain ⟨⟨startY, writtenY⟩, finishY, endY⟩ := Number.combine_real_ok along
    rw [Segment.IsDrawable, Surface.lineElement, writtenX, writtenY, endX, endY]
    exact ⟨_, rfl⟩

namespace Canvas

/-- A recording or an image accepts every drawable segment. -/
def Accepts : Canvas → Prop
  | .direct (.recording _) | .direct (.svg _ _) => True
  | .direct .missing | .shared _ => False

/-- The canvas has the contents of an earlier one, followed by the drawings of the segments in
order. -/
def Follows (segments : List Segment) : Canvas → Canvas → Prop
  | .direct (.recording earlier), canvas =>
      canvas = .direct (.recording (earlier ++ segments.toArray))
  | .direct (.svg page earlier), canvas =>
      ∃ lines, segments.mapM Surface.lineElement = .ok lines ∧
        canvas = .direct (.svg page (earlier ++ lines.toArray))
  | .direct .missing, _ | .shared _, _ => False

theorem follows_nil {canvas : Canvas} (accepts : canvas.Accepts) : Follows [] canvas canvas := by
  match canvas, accepts with
  | .direct (.recording earlier), _ => simp [Follows]
  | .direct (.svg page earlier), _ => exact ⟨[], rfl, by simp⟩

theorem Follows.accepts {earlier canvas : Canvas} {segments : List Segment}
    (follows : Follows segments earlier canvas) : canvas.Accepts := by
  match earlier, follows with
  | .direct (.recording old), follows =>
      subst follows
      trivial
  | .direct (.svg page old), ⟨lines, texts, same⟩ =>
      subst same
      trivial

theorem Follows.trans {earlier middle canvas : Canvas} {first second : List Segment}
    (front : Follows first earlier middle) (back : Follows second middle canvas) :
    Follows (first ++ second) earlier canvas := by
  match earlier, front with
  | .direct (.recording old), front =>
      subst front
      simpa [Follows] using back
  | .direct (.svg page old), ⟨lines, texts, same⟩ =>
      subst same
      obtain ⟨more, others, same⟩ := back
      refine ⟨lines ++ more, ?_, by simp [same]⟩
      rw [List.mapM_append, texts, others]
      rfl

/-- Drawing one segment more extends the contents by one drawing. -/
theorem Follows.draw {earlier canvas : Canvas} {segments : List Segment} {segment : Segment}
    (follows : Follows segments earlier canvas) (drawable : segment.IsDrawable) :
    ∃ next, canvas.draw segment = (.ok (), next) ∧
      Follows (segments ++ [segment]) earlier next := by
  obtain ⟨line, written⟩ := drawable
  match earlier, follows with
  | .direct (.recording old), follows =>
      subst follows
      exact ⟨_, rfl, by simp [Follows]⟩
  | .direct (.svg page old), ⟨lines, texts, same⟩ =>
      subst same
      refine ⟨.direct (.svg page ((old ++ lines.toArray).push line)), ?_, lines ++ [line], ?_, ?_⟩
      · simp [Canvas.draw, Surface.draw, written]
      · simp [List.mapM_append, texts, written, bind, Except.bind, pure, Except.pure]
      · simp

/-- Drawable segments are replayed to the last. -/
theorem Follows.replay {earlier canvas : Canvas} {before segments : List Segment}
    (follows : Follows before earlier canvas)
    (drawable : ∀ segment ∈ segments, segment.IsDrawable) :
    ∃ next, canvas.replay segments = (.ok (), next) ∧
      Follows (before ++ segments) earlier next := by
  induction segments generalizing before canvas with
  | nil => exact ⟨canvas, rfl, by simpa using follows⟩
  | cons segment rest inductionHypothesis =>
      obtain ⟨first, others⟩ := List.forall_mem_cons.mp drawable
      obtain ⟨middle, drawn, longer⟩ := follows.draw first
      obtain ⟨next, replayed, all⟩ := inductionHypothesis longer others
      refine ⟨next, ?_, by simpa using all⟩
      rw [Canvas.replay, drawn]
      exact replayed

/-- A segment that is refused leaves the canvas as it was. -/
theorem draw_refused {canvas next : Canvas} {segment : Segment} {error : CanvasError}
    (refused : canvas.draw segment = (.error error, next)) : next = canvas := by
  match canvas with
  | .direct (.recording segments) => cases refused
  | .direct (.svg page lines) =>
      cases written : Surface.lineElement segment with
      | ok line => simp [Canvas.draw, Surface.draw, written] at refused
      | error cause =>
          simp only [Canvas.draw, Surface.draw, written, Prod.mk.injEq] at refused
          exact refused.2.symm
  | .direct .missing =>
      cases refused
      rfl
  | .shared ⟨surface, inbox, true⟩ => cases refused
  | .shared ⟨surface, inbox, false⟩ =>
      cases refused
      rfl

theorem replay_append {canvas middle : Canvas} {first : List Segment}
    (drawn : canvas.replay first = (.ok (), middle)) (second : List Segment) :
    canvas.replay (first ++ second) = middle.replay second := by
  induction first generalizing canvas with
  | nil =>
      cases drawn
      rfl
  | cons segment rest inductionHypothesis =>
      rw [Canvas.replay] at drawn
      rw [List.cons_append, Canvas.replay]
      generalize canvas.draw segment = answer at drawn ⊢
      obtain ⟨error | done, next⟩ := answer
      · cases drawn
      · exact inductionHypothesis drawn

/-- A recording takes every segment and keeps the order. -/
theorem replay_recording (earlier : Array Segment) (segments : List Segment) :
    (Canvas.direct (.recording earlier)).replay segments =
      (.ok (), .direct (.recording (earlier ++ segments.toArray))) := by
  induction segments generalizing earlier with
  | nil => simp [Canvas.replay]
  | cons segment rest inductionHypothesis =>
      have pushed := inductionHypothesis (earlier.push segment)
      simpa [Canvas.replay, Canvas.draw, Surface.draw] using pushed

end Canvas

end Turtle

import Turtle.Proofs.Drawing

/-
This file says what a surface answers when it is used directly, message by message, and shows that a
canvas answers in the same way whether it is a surface or has an actor between.
-/

namespace Turtle

/-- A client goes on after a draw, and waits for the answer to any other message. -/
def Message.isQuestion : Message → Bool
  | .draw _ => false
  | .persist | .incomplete | .other _ => true

def Message.segment? : Message → Option Segment
  | .draw segment => some segment
  | .persist | .incomplete | .other _ => none

/-- These messages stand for the operations that every canvas has. -/
def Message.isOperation : Message → Bool
  | .draw _ | .persist => true
  | .incomplete | .other _ => false

abbrev Answer : Type :=
  Except CanvasError (Option String)

namespace Surface

/-- What comes back for a message when nothing stands before it. -/
def reply (surface : Surface) : Message → Answer
  | .draw segment => (surface.draw segment).1.map fun _ => none
  | .persist => surface.persist.map some
  | .incomplete => .error .incompleteMessage
  | .other command => .error (.unknownCommand command)

/-- Only a draw changes the surface. -/
def after (surface : Surface) : Message → Surface
  | .draw segment => (surface.draw segment).2
  | .persist | .incomplete | .other _ => surface

/-- The surface does not fail to draw. -/
def Takes (surface : Surface) : Message → Prop
  | .draw segment => (surface.draw segment).1 = .ok ()
  | .persist | .incomplete | .other _ => True

/-- These are the answers to a client that uses the surface alone and directly. -/
def answers : Surface → List Message → List Answer
  | _, [] => []
  | surface, message :: rest =>
      let others := (surface.after message).answers rest
      if message.isQuestion then surface.reply message :: others else others

variable {surface : Surface}

/-- Whether a draw fails does not depend on what is drawn already. -/
theorem takes_after (earlier message : Message) :
    (surface.after earlier).Takes message ↔ surface.Takes message := by
  cases earlier with
  | persist | incomplete | other _ => rfl
  | draw segment =>
      cases message with
      | persist | incomplete | other _ => rfl
      | draw next =>
          cases surface with
          | recording segments | missing => rfl
          | svg page lines =>
              simp only [Takes, after, draw]
              cases lineElement segment with
              | error _ => rfl
              | ok line => cases lineElement next <;> simp

theorem takes_foldl_after (earlier : List Message) (message : Message) :
    (earlier.foldl after surface).Takes message ↔ surface.Takes message := by
  induction earlier generalizing surface with
  | nil => rfl
  | cons first rest inductionHypothesis =>
      exact inductionHypothesis.trans (takes_after first message)

theorem draw_of_takes {segment : Segment} (takes : surface.Takes (.draw segment)) :
    surface.draw segment = (.ok (), surface.after (.draw segment)) :=
  Prod.ext takes rfl

/-- The draws among the messages are drawn directly, and no other message leaves a trace. -/
theorem replay_of_takes {messages : List Message}
    (takes : ∀ message ∈ messages, surface.Takes message) :
    (Canvas.direct surface).replay (messages.filterMap Message.segment?) =
      (.ok (), .direct (messages.foldl after surface)) := by
  induction messages generalizing surface with
  | nil => rfl
  | cons message rest inductionHypothesis =>
      obtain ⟨first, others⟩ := List.forall_mem_cons.mp takes
      have onward := @inductionHypothesis (surface.after message) fun later member =>
        (takes_after message later).mpr (others later member)
      cases message with
      | persist | incomplete | other _ => exact onward
      | draw segment =>
          have listed : (Message.draw segment :: rest).filterMap Message.segment? =
              segment :: rest.filterMap Message.segment? := rfl
          rw [listed, Canvas.replay, Canvas.draw, draw_of_takes first]
          exact onward

theorem answers_append (first second : List Message) :
    surface.answers (first ++ second) =
      surface.answers first ++ (first.foldl after surface).answers second := by
  induction first generalizing surface with
  | nil => rfl
  | cons message rest inductionHypothesis =>
      simp only [List.cons_append, answers, inductionHypothesis, List.foldl_cons]
      split <;> rfl

/-- There is one answer for each question. -/
theorem length_answers (script : List Message) :
    (surface.answers script).length = script.countP Message.isQuestion := by
  induction script generalizing surface with
  | nil => rfl
  | cons message rest inductionHypothesis =>
      have onward := @inductionHypothesis (surface.after message)
      rw [answers, List.countP_cons]
      cases message.isQuestion <;> simp [onward]

end Surface

namespace Actor

variable {surface : Surface}

/-- An actor answers for the surface that its inbox leads to. -/
theorem ask_of_settle {actor : Actor} (settled : actor.settle = .start surface)
    (message : Message) :
    actor.ask message = (surface.reply message, .start (surface.after message)) := by
  simp only [ask, settled]
  cases message <;> rfl

theorem ask_start (surface : Surface) (message : Message) :
    (Actor.start surface).ask message = (surface.reply message, .start (surface.after message)) :=
  ask_of_settle rfl message

theorem apply_start {segment : Segment} (takes : surface.Takes (.draw segment)) :
    (Actor.start surface).apply segment = .start (surface.after (.draw segment)) := by
  simp only [apply, start, Surface.draw_of_takes takes]

/-- An actor whose draws do not fail may let them wait until it is asked. -/
theorem settle_of_takes {told : List Segment}
    (takes : ∀ segment ∈ told, surface.Takes (.draw segment)) :
    settle ⟨surface, told.toArray, true⟩ =
      .start ((told.map Message.draw).foldl Surface.after surface) := by
  rw [settle, List.foldl_toArray]
  change told.foldl apply (.start surface) = _
  induction told generalizing surface with
  | nil => rfl
  | cons segment rest inductionHypothesis =>
      obtain ⟨first, others⟩ := List.forall_mem_cons.mp takes
      rw [List.foldl_cons, apply_start first]
      exact inductionHypothesis fun later member =>
        (Surface.takes_after (.draw segment) (.draw later)).mpr (others later member)

end Actor

namespace Canvas

/-- A message to a canvas stands for one of its operations, or goes to its actor. -/
def perform (canvas : Canvas) : Message → Answer × Canvas
  | .draw segment => ((canvas.draw segment).1.map fun _ => none, (canvas.draw segment).2)
  | .persist => (canvas.persist.1.map some, canvas.persist.2)
  | .incomplete => canvas.ask .incomplete
  | .other command => canvas.ask (.other command)

/-- These are the answers to the only client of a canvas. -/
def answers : Canvas → List Message → List Answer
  | _, [] => []
  | canvas, message :: rest =>
      let others := (canvas.perform message).2.answers rest
      if message.isQuestion then (canvas.perform message).1 :: others else others

variable {surface : Surface} {script : List Message}

theorem perform_direct {message : Message} (operation : message.isOperation = true) :
    (Canvas.direct surface).perform message =
      (surface.reply message, .direct (surface.after message)) := by
  cases message with
  | draw _ | persist => rfl
  | incomplete | other _ => cases operation

theorem answers_direct (operations : ∀ message ∈ script, message.isOperation = true) :
    (Canvas.direct surface).answers script = surface.answers script := by
  induction script generalizing surface with
  | nil => rfl
  | cons message rest inductionHypothesis =>
      obtain ⟨first, others⟩ := List.forall_mem_cons.mp operations
      simp only [answers, perform_direct first, inductionHypothesis others, Surface.answers]

theorem perform_shared {actor : Actor} (settled : actor.settle = .start surface)
    {question : Message} (asks : question.isQuestion = true) :
    (Canvas.shared actor).perform question =
      (surface.reply question, .shared (.start (surface.after question))) := by
  have asked := Actor.ask_of_settle settled question
  cases question with
  | draw _ => cases asks
  | incomplete | other _ => simp only [perform, ask, asked]
  | persist =>
      simp only [perform, Canvas.persist, asked, Surface.reply]
      cases surface.persist <;> rfl

/-- An actor that lets its draws wait answers as if they had been drawn directly. -/
theorem answers_shared {told : List Segment}
    (draws : ∀ segment ∈ told, surface.Takes (.draw segment))
    (takes : ∀ message ∈ script, surface.Takes message) :
    (Canvas.shared ⟨surface, told.toArray, true⟩).answers script =
      ((told.map Message.draw).foldl Surface.after surface).answers script := by
  induction script generalizing surface told with
  | nil => rfl
  | cons message rest inductionHypothesis =>
      obtain ⟨first, others⟩ := List.forall_mem_cons.mp takes
      cases asks : message.isQuestion with
      | true =>
          let reached := (told.map Message.draw).foldl Surface.after surface
          have settled : Actor.settle ⟨surface, told.toArray, true⟩ = .start reached :=
            Actor.settle_of_takes draws
          have later : ∀ other ∈ rest, (reached.after message).Takes other := by
            intro other member
            rw [Surface.takes_after, Surface.takes_foldl_after]
            exact others other member
          have onward := @inductionHypothesis (reached.after message) [] nofun later
          simp only [answers, perform_shared settled asks, Surface.answers, asks, if_true]
          exact congrArg _ onward
      | false =>
          cases message with
          | persist | incomplete | other _ => cases asks
          | draw segment =>
              have longer : ∀ other ∈ told ++ [segment], surface.Takes (.draw other) :=
                List.forall_mem_append.mpr ⟨draws, List.forall_mem_singleton.mpr first⟩
              have waited := inductionHypothesis longer others
              rw [List.map_append, List.foldl_append, ← List.push_toArray] at waited
              exact waited

end Canvas

end Turtle

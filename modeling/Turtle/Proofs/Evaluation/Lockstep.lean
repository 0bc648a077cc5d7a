import Turtle.Proofs.Evaluation.Frames

/-
This file runs two evaluations side by side, within the same frames. When the single steps keep the
two coupled, whole evaluations do so, whatever the statement is.
-/

namespace Turtle

/-- A coupling says which states and which progress of two evaluations belong together. A failure
that it excuses on one side need not be met on the other side. -/
structure Coupling where
  states : State → State → Prop
  progress : Progress → Progress → Prop
  excusesFirst : Failure → Prop
  excusesSecond : Failure → Prop

namespace Coupling

/-- Two results are values that belong together or the same failure, or one of them is excused. -/
inductive Matches {α β : Type} (coupling : Coupling) (belong : α → β → Prop) :
    Except Failure α → Except Failure β → Prop
  | values {first : α} {second : β} (together : belong first second) :
      Matches coupling belong (.ok first) (.ok second)
  | failures (failure : Failure) : Matches coupling belong (.error failure) (.error failure)
  | firstExcused {failure : Failure} (excused : coupling.excusesFirst failure)
      (second : Except Failure β) : Matches coupling belong (.error failure) second
  | secondExcused {failure : Failure} (excused : coupling.excusesSecond failure)
      (first : Except Failure α) : Matches coupling belong first (.error failure)

/-- Two outcomes have results that match, and progress that belongs together unless a result is
excused. -/
inductive Ends (coupling : Coupling) : Outcome → Outcome → Prop
  | values {first second : State} {earlier other : Progress}
      (together : coupling.states first second) (along : coupling.progress earlier other) :
      Ends coupling (.ok first, earlier) (.ok second, other)
  | failures {earlier other : Progress} (failure : Failure)
      (along : coupling.progress earlier other) :
      Ends coupling (.error failure, earlier) (.error failure, other)
  | firstExcused {failure : Failure} {earlier : Progress}
      (excused : coupling.excusesFirst failure) (second : Outcome) :
      Ends coupling (.error failure, earlier) second
  | secondExcused {failure : Failure} {other : Progress}
      (excused : coupling.excusesSecond failure) (first : Outcome) :
      Ends coupling first (.error failure, other)

/-- From progress that belongs together the two steps end coupled. -/
def Steps (coupling : Coupling) (first second : Progress → Outcome) : Prop :=
  ∀ earlier other, coupling.progress earlier other → coupling.Ends (first earlier) (second other)

variable {coupling : Coupling} {first second : Progress → Outcome}

theorem Matches.refl {α : Type} {belong : α → α → Prop} (same : ∀ value, belong value value)
    (result : Except Failure α) : coupling.Matches belong result result := by
  cases result with
  | ok value => exact .values (same value)
  | error failure => exact .failures failure

/-- Both sides go on from the same first step. -/
theorem Matches.bind {α β γ : Type} {belong : α → β → Prop} {next : γ → Except Failure α}
    {other : γ → Except Failure β} (start : Except Failure γ)
    (follow : ∀ value, coupling.Matches belong (next value) (other value)) :
    coupling.Matches belong (start >>= next) (start >>= other) := by
  cases start with
  | ok value => exact follow value
  | error failure => exact .failures failure

namespace Steps

theorem still {result answer : Except Failure State}
    (matched : coupling.Matches coupling.states result answer) :
    coupling.Steps (fun progress => (result, progress)) fun progress => (answer, progress) := by
  intro earlier other along
  cases matched with
  | values together => exact .values together along
  | failures failure => exact .failures failure along
  | firstExcused excused second => exact .firstExcused excused _
  | secondExcused excused first => exact .secondExcused excused _

theorem record (steps : coupling.Steps first second) {event partner : Event}
    (keeps : ∀ {earlier other}, coupling.progress earlier other →
      coupling.progress (earlier.record event) (other.record partner)) :
    coupling.Steps (fun progress => first (progress.record event))
      fun progress => second (progress.record partner) :=
  fun _ _ along => steps _ _ (keeps along)

/-- Steps that start with a computation go on from values that belong together. -/
theorem proceed {α β : Type} {belong : α → β → Prop} {start : Except Failure α}
    {begin : Except Failure β} {next : α → Progress → Outcome} {follow : β → Progress → Outcome}
    (matched : coupling.Matches belong start begin)
    (steps : ∀ value answer, belong value answer → coupling.Steps (next value) (follow answer)) :
    coupling.Steps (Turtle.proceed next start) (Turtle.proceed follow begin) := by
  intro earlier other along
  cases matched with
  | values together => exact steps _ _ together earlier other along
  | failures failure => exact .failures failure along
  | firstExcused excused second => exact .firstExcused excused _
  | secondExcused excused first => exact .secondExcused excused _

/-- The next steps follow unless a stop is pending, on both sides or on none. -/
theorem andThen {next follow : State → Progress → Outcome} (steps : coupling.Steps first second)
    (mark : ∀ {state partner}, coupling.states state partner →
      state.terminated = partner.terminated)
    (more : ∀ state partner, coupling.states state partner →
      coupling.Steps (next state) (follow partner)) :
    coupling.Steps
      (fun progress =>
        match first progress with
        | (.ok state, progress) =>
            if state.terminated then (.ok state, progress) else next state progress
        | (.error failure, progress) => (.error failure, progress))
      fun progress =>
        match second progress with
        | (.ok state, progress) =>
            if state.terminated then (.ok state, progress) else follow state progress
        | (.error failure, progress) => (.error failure, progress) := by
  intro earlier other along
  have ends := steps earlier other along
  dsimp only
  generalize first earlier = before at ends ⊢
  generalize second other = behind at ends ⊢
  cases ends with
  | @values state partner _ _ together along =>
      dsimp only
      rw [mark together]
      cases partner.terminated with
      | true => exact .values together along
      | false => exact more state partner together _ _ along
  | failures failure along => exact .failures failure along
  | firstExcused excused second => exact .firstExcused excused _
  | secondExcused excused first => exact .secondExcused excused _

end Steps

/-- Two calls enter the same body in states that belong together. -/
def Enters (coupling : Coupling) (called partner : Definition × State) : Prop :=
  called.1 = partner.1 ∧ coupling.states called.2 partner.2

/-- The single steps of evaluations under two sets of limits keep the coupling. -/
structure Keeps (coupling : Coupling) (narrow wide : Limits) : Prop where
  patient : ¬ coupling.excusesFirst .outOfFrames ∧ ¬ coupling.excusesSecond .outOfFrames
  bindings : ∀ {state partner}, coupling.states state partner → state.bindings = partner.bindings
  terminated : ∀ {state partner}, coupling.states state partner →
    state.terminated = partner.terminated
  marks : ∀ {state partner} (mark : Bool), coupling.states state partner →
    coupling.states { state with terminated := mark } { partner with terminated := mark }
  heads : ∀ {state partner} (heading : Number), coupling.states state partner →
    coupling.states { state with heading := heading } { partner with heading := heading }
  defines : ∀ {state partner} (name : String) (params : List String) (body : Node),
    coupling.states state partner →
    coupling.states (state.define name params body) (partner.define name params body)
  leaves : ∀ {caller partner called other}, coupling.states caller partner →
    coupling.states called other → coupling.states (caller.leave called) (partner.leave other)
  starts : ∀ {state partner earlier other} (node : Node), coupling.states state partner →
    coupling.progress earlier other →
    coupling.progress (earlier.record (.evaluating node state))
      (other.record (.evaluating node partner))
  records : ∀ {earlier other} (event : Event), coupling.progress earlier other →
    coupling.progress (earlier.record event) (other.record event)
  turns : ∀ {state partner} (degrees : Number), coupling.states state partner →
    coupling.Matches coupling.states (turn state degrees) (turn partner degrees)
  moves : ∀ {state partner} (pixels : Number), coupling.states state partner →
    coupling.Steps (moveForward state pixels) (moveForward partner pixels)
  counts : ∀ (times : Number) (node : Node),
    coupling.Matches Eq (repeatCount narrow times node) (repeatCount wide times node)
  prepares : ∀ {state partner} (frames depth : Nat) (name : String) (args : List Node)
    (node : Node), coupling.states state partner →
    coupling.Matches coupling.Enters (prepareCall narrow frames depth name args node state)
      (prepareCall wide frames depth name args node partner)

end Coupling

namespace Coupling.Keeps

variable {coupling : Coupling} {narrow wide : Limits} (keeps : coupling.Keeps narrow wide)

include keeps

theorem finishCall {caller partner : State} {name : String} {node : Node}
    {first second : Progress → Outcome} (together : coupling.states caller partner)
    (steps : coupling.Steps first second) :
    coupling.Steps (fun progress => Turtle.finishCall caller name node (first progress))
      fun progress => Turtle.finishCall partner name node (second progress) := by
  intro earlier other along
  have ends := steps earlier other along
  dsimp only
  generalize first earlier = before at ends ⊢
  generalize second other = behind at ends ⊢
  cases ends with
  | values inner along => exact .values (keeps.leaves together inner) (keeps.records _ along)
  | failures failure along =>
      rw [Turtle.finishCall, Turtle.finishCall, callResult_error, callResult_error]
      exact .failures _ (keeps.records _ along)
  -- An excused failure is no shortage of frames, so that the call passes it on as it is.
  | firstExcused excused second =>
      rw [Turtle.finishCall, callResult_error, Failure.inCall_of_ne]
      · exact .firstExcused excused _
      · rintro rfl
        exact keeps.patient.1 excused
  | secondExcused excused first =>
      rw [Turtle.finishCall, Turtle.finishCall, callResult_error, Failure.inCall_of_ne]
      · exact .secondExcused excused _
      · rintro rfl
        exact keeps.patient.2 excused

theorem runSequence {step other : Node → State → Progress → Outcome}
    (steps : ∀ node state partner, coupling.states state partner →
      coupling.Steps (step node state) (other node partner))
    (node : Node) {state partner : State} (together : coupling.states state partner) :
    coupling.Steps (Turtle.runSequence step node state)
      (Turtle.runSequence other node partner) := by
  fun_induction Node.flatten node generalizing state partner with
  | case1 first second _ secondHypothesis =>
      refine (steps first state partner together).andThen keeps.terminated ?_
      intro next follow inner
      exact secondHypothesis inner
  | case2 node single =>
      rw [runSequence_of_single single, runSequence_of_single single]
      exact steps node state partner together

theorem runLoop {step other : State → Progress → Outcome}
    (steps : ∀ state partner, coupling.states state partner →
      coupling.Steps (step state) (other partner))
    (count : Nat) {state partner : State} (together : coupling.states state partner) :
    coupling.Steps (Turtle.runLoop step count state) (Turtle.runLoop other count partner) := by
  induction count generalizing state partner with
  | zero => exact .still (.values together)
  | succ count inductionHypothesis =>
      refine (steps state partner together).andThen keeps.terminated ?_
      intro next follow inner
      exact inductionHypothesis inner

/-- A statement is recorded on both sides before it is evaluated. -/
theorem evaluate_of_rest {frames depth : Nat} {node : Node} {state partner : State}
    {first second : Progress → Outcome} (together : coupling.states state partner)
    (steps : coupling.Steps first second)
    (sameFirst : ∀ progress, evaluate narrow (frames + 1) depth node state progress =
      first (progress.record (.evaluating node state)))
    (sameSecond : ∀ progress, evaluate wide (frames + 1) depth node partner progress =
      second (progress.record (.evaluating node partner))) :
    coupling.Steps (evaluate narrow (frames + 1) depth node state)
      (evaluate wide (frames + 1) depth node partner) := by
  rw [funext sameFirst, funext sameSecond]
  exact steps.record (keeps.starts node together)

/-- A statement stays coupled when all statements do within fewer frames. -/
theorem evaluate_step {frames depth : Nat}
    (inner : ∀ smaller < frames, ∀ depth node state partner, coupling.states state partner →
      coupling.Steps (evaluate narrow smaller depth node state)
        (evaluate wide smaller depth node partner))
    (node : Node) {state partner : State} (together : coupling.states state partner) :
    coupling.Steps (evaluate narrow (frames + 1) depth node state)
      (evaluate wide (frames + 1) depth node partner) := by
  have expression : ∀ frames node, evaluateExpression state.bindings frames node =
      evaluateExpression partner.bindings frames node := by
    intro frames node
    rw [keeps.bindings together]
  have short : coupling.Steps (fun progress => (.error .outOfFrames, progress))
      fun progress => (.error .outOfFrames, progress) := .still (.failures _)
  cases node with
  | forward pixels =>
      refine keeps.evaluate_of_rest together ?_ evaluate_forward_eq evaluate_forward_eq
      rw [expression]
      refine .proceed (.refl (fun _ => rfl) _) ?_
      rintro value _ rfl
      exact keeps.moves value together
  | rotate degrees =>
      refine keeps.evaluate_of_rest together (.still ?_) (fun _ => rfl) fun _ => rfl
      rw [expression]
      exact .bind _ fun value => keeps.turns value together
  | setHeading degrees =>
      refine keeps.evaluate_of_rest together (.still ?_) (fun _ => rfl) fun _ => rfl
      rw [expression]
      exact .bind _ fun value => .values (keeps.heads value together)
  | define name params body =>
      have defined := keeps.defines name params body together
      exact keeps.evaluate_of_rest together (.still (.values defined)) (fun _ => rfl) fun _ => rfl
  | stop =>
      have marked := keeps.marks true together
      exact keeps.evaluate_of_rest together (.still (.values marked)) (fun _ => rfl) fun _ => rfl
  | const value | var name | sub left right | div left right | eq left right =>
      exact keeps.evaluate_of_rest together (.still (.failures _)) (fun _ => rfl) fun _ => rfl
  | seq first second =>
      cases frames with
      | zero => exact keeps.evaluate_of_rest together short (fun _ => rfl) fun _ => rfl
      | succ frames =>
          have spine := keeps.runSequence (inner frames (by omega) depth) (.seq first second)
            together
          exact keeps.evaluate_of_rest together spine (fun _ => rfl) fun _ => rfl
  | loop times body =>
      cases frames with
      | zero => exact keeps.evaluate_of_rest together short (fun _ => rfl) fun _ => rfl
      | succ frames =>
          refine keeps.evaluate_of_rest together ?_ evaluate_loop_eq evaluate_loop_eq
          rw [expression]
          refine .proceed (.bind _ fun value => keeps.counts value _) ?_
          rintro count _ rfl
          exact keeps.runLoop (inner frames (by omega) depth body) count together
  | branch condition body =>
      cases frames with
      | zero => exact keeps.evaluate_of_rest together short (fun _ => rfl) fun _ => rfl
      | succ frames =>
          have compared : evaluateComparison state.bindings frames condition =
              evaluateComparison partner.bindings frames condition := by
            rw [keeps.bindings together]
          refine keeps.evaluate_of_rest together ?_ evaluate_branch_eq evaluate_branch_eq
          rw [compared]
          refine .proceed (.refl (fun _ => rfl) _) ?_
          rintro (_ | _) _ rfl
          · exact .still (.values (keeps.marks false together))
          · exact inner frames (by omega) depth body state partner together
  | call name args =>
      cases frames with
      | zero => exact keeps.evaluate_of_rest together short (fun _ => rfl) fun _ => rfl
      | succ frames =>
          refine keeps.evaluate_of_rest together ?_ evaluate_call_eq evaluate_call_eq
          refine .proceed (keeps.prepares frames depth name args _ together) ?_
          rintro ⟨definition, entered⟩ ⟨_, other⟩ ⟨rfl, inside⟩
          have body := inner frames (by omega) (depth + 1) definition.body entered other inside
          exact keeps.finishCall together (body.record (keeps.records _))

/-- Evaluations within the same frames stay coupled when their single steps do. -/
theorem evaluate (frames depth : Nat) (node : Node) {state partner : State}
    (together : coupling.states state partner) :
    coupling.Steps (Turtle.evaluate narrow frames depth node state)
      (Turtle.evaluate wide frames depth node partner) := by
  induction frames using Nat.strongRecOn generalizing depth node state partner with
  | _ frames inductionHypothesis =>
      cases frames with
      | zero => exact .still (.failures _)
      | succ frames =>
          refine keeps.evaluate_step (fun smaller below depth node state partner => ?_) node
            together
          exact inductionHypothesis smaller (by omega) depth node

end Coupling.Keeps

end Turtle

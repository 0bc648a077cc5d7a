import Turtle.Proofs.Evaluation.Rules

/-
This file shows that a stop ends the whole evaluation: it is the last statement to be started, and
nothing but a stop leaves its mark on the state.
-/

namespace Turtle

/-- The event is the start of a stop. -/
def Event.IsStop : Event → Prop
  | .evaluating .stop _ => True
  | _ => False

/-- No statement is started while a stop is pending. -/
def StartsRunning (events : List Event) : Prop :=
  ∀ node state, .evaluating node state ∈ events → state.terminated = false

theorem startsRunning_append {events more : List Event} :
    StartsRunning (events ++ more) ↔ StartsRunning events ∧ StartsRunning more := by
  simp only [StartsRunning, List.mem_append, or_imp, forall_and]

theorem startsRunning_cons {node : Node} {state : State} {events : List Event}
    (running : state.terminated = false) (others : StartsRunning events) :
    StartsRunning (.evaluating node state :: events) := by
  intro other found started
  rcases List.mem_cons.mp started with same | later
  · cases same
    exact running
  · exact others other found later

/-- The last statement of the events is their only stop. Behind it procedures end and nothing else
happens, and the cursor stays where the stop found it. -/
def StopsLast (events : List Event) (final : State) : Prop :=
  ∃ before found names,
    events = before ++ .evaluating .stop found :: List.map Event.finished names ∧
    (∀ event ∈ before, ¬ event.IsStop) ∧
    final.position = found.position ∧ final.heading = found.heading

/-- The mark of the final state tells whether the events end with a stop or have none. -/
def Unwinds (events : List Event) (final : State) : Prop :=
  final.terminated = true ∧ StopsLast events final ∨
    final.terminated = false ∧ ∀ event ∈ events, ¬ event.IsStop

namespace Unwinds

variable {events more : List Event} {final : State}

theorem quiet (unwinds : Unwinds events final) (running : final.terminated = false) :
    ∀ event ∈ events, ¬ event.IsStop := by
  rcases unwinds with ⟨stopped, -⟩ | ⟨-, none⟩
  · rw [running] at stopped
    cases stopped
  · exact none

/-- Events without a stop may come first. -/
theorem append (unwinds : Unwinds more final) (none : ∀ event ∈ events, ¬ event.IsStop) :
    Unwinds (events ++ more) final := by
  rcases unwinds with ⟨stopped, before, found, names, rfl, others, position, heading⟩ |
    ⟨running, others⟩
  · refine .inl ⟨stopped, events ++ before, found, names, by simp, ?_, position, heading⟩
    exact List.forall_mem_append.mpr ⟨none, others⟩
  · exact .inr ⟨running, List.forall_mem_append.mpr ⟨none, others⟩⟩

theorem cons {event : Event} (unwinds : Unwinds events final) (other : ¬ event.IsStop) :
    Unwinds (event :: events) final := by
  rw [← List.singleton_append]
  exact unwinds.append (by simpa using other)

/-- A procedure ends behind its body, and the caller takes over cursor and mark. -/
theorem leave (unwinds : Unwinds events final) (caller : State) (name : String) :
    Unwinds (events ++ [.finished name]) (caller.leave final) := by
  rcases unwinds with ⟨stopped, before, found, names, rfl, others, position, heading⟩ |
    ⟨running, others⟩
  · refine .inl ⟨stopped, before, found, names ++ [name], by simp, others, position, heading⟩
  · refine .inr ⟨running, List.forall_mem_append.mpr ⟨others, ?_⟩⟩
    simp [Event.IsStop]

end Unwinds

/-- A task that starts without a pending stop starts all its statements so, and its mark tells
whether it met a stop. -/
theorem Evaluates.unwinds {limits : Limits} {frames depth : Nat} {task : Task} {state : State}
    {events : List Event} {result : Except Failure State}
    (run : Evaluates limits frames depth task state events result)
    (running : state.terminated = false) :
    StartsRunning events ∧ ∀ final, result = .ok final → Unwinds events final := by
  have none : StartsRunning [] := fun _ _ started => absurd started List.not_mem_nil
  induction run with
  | outOfFrames => exact ⟨none, fun _ ended => nomatch ended⟩
  | refuses _ => exact ⟨startsRunning_cons running none, fun _ ended => nomatch ended⟩
  | blocked _ _ =>
      refine ⟨startsRunning_cons running ?_, fun _ ended => nomatch ended⟩
      simp [StartsRunning]
  | moves _ _ =>
      refine ⟨startsRunning_cons running (by simp [StartsRunning]), ?_⟩
      rintro final ⟨⟩
      exact .inr ⟨rfl, by simp [Event.IsStop]⟩
  | rotates _ _ | heads _ | defines =>
      refine ⟨startsRunning_cons running none, ?_⟩
      rintro final ⟨⟩
      exact .inr ⟨running, by simp [Event.IsStop]⟩
  | skips _ =>
      refine ⟨startsRunning_cons running none, ?_⟩
      rintro final ⟨⟩
      exact .inr ⟨rfl, by simp [Event.IsStop]⟩
  | @stops _ _ state =>
      refine ⟨startsRunning_cons running none, ?_⟩
      rintro final ⟨⟩
      exact .inl ⟨rfl, [], state, [], rfl, by simp, rfl, rfl⟩
  | sequence _ inductionHypothesis | repeats _ _ _ inductionHypothesis
  | branches _ _ inductionHypothesis =>
      obtain ⟨starts, ends⟩ := inductionHypothesis running
      refine ⟨startsRunning_cons running starts, ?_⟩
      intro final reached
      exact (ends final reached).cons (by simp [Event.IsStop])
  | @calls _ _ name _ state _ _ _ _ prepared _ inductionHypothesis =>
      obtain ⟨closure, values, -, -, -, -, rfl⟩ := prepareCall_ok prepared
      obtain ⟨starts, ends⟩ := inductionHypothesis running
      refine ⟨startsRunning_cons running ?_, ?_⟩
      · simpa [StartsRunning] using starts
      · intro final returned
        obtain ⟨called, reached, rfl⟩ := callResult_ok returned
        have left := (ends called reached).leave state name
        exact (left.cons (by simp [Event.IsStop])).cons (by simp [Event.IsStop])
  | last _ _ inductionHypothesis => exact inductionHypothesis running
  | spineHalts _ _ inductionHypothesis | roundHalts _ _ inductionHypothesis =>
      exact inductionHypothesis running
  | spineGoesOn _ onward _ firstHypothesis restHypothesis
  | roundGoesOn _ onward _ firstHypothesis restHypothesis =>
      obtain ⟨starts, ends⟩ := firstHypothesis running
      obtain ⟨startsMore, endsMore⟩ := restHypothesis onward
      have quiet := (ends _ rfl).quiet onward
      exact ⟨startsRunning_append.mpr ⟨starts, startsMore⟩, fun final reached =>
        (endsMore final reached).append quiet⟩
  | done =>
      refine ⟨none, ?_⟩
      rintro final ⟨⟩
      exact .inr ⟨running, by simp⟩

/-- A stop unwinds the whole program, and nothing else leaves the mark of a stop. When a statement
that starts without the mark ends in a state, this has the mark if and only if a stop was evaluated
on the way, at any depth. That stop is then the only one and the last statement of all, with nothing
but the ends of open procedures behind it. No statement at all is started while a stop is pending,
so that neither a move nor a branch ever clears one. -/
theorem evaluate_stop_unwinds {limits : Limits} {frames depth : Nat} {node : Node}
    {state final : State} {progress after : Progress} (running : state.terminated = false)
    (ended : evaluate limits frames depth node state progress = (.ok final, after)) :
    ∃ events, after.events.toList = progress.events.toList ++ events ∧
      (final.terminated = true ↔ ∃ event ∈ events, event.IsStop) ∧
      (final.terminated = true → StopsLast events final) ∧
      StartsRunning events := by
  obtain ⟨events, run, added⟩ := evaluates_of_evaluate ended
  obtain ⟨starts, ends⟩ := run.unwinds running
  refine ⟨events, added, ?_, ?_, starts⟩
  · rcases ends final rfl with ⟨stopped, before, found, names, rfl, -⟩ | ⟨onward, none⟩
    · exact iff_of_true stopped ⟨.evaluating .stop found, by simp, trivial⟩
    · rw [onward]
      exact iff_of_false Bool.false_ne_true fun ⟨event, member, stop⟩ => none event member stop
  · intro stopped
    rcases ends final rfl with ⟨-, last⟩ | ⟨onward, -⟩
    · exact last
    · rw [onward] at stopped
      cases stopped

/-- This program stops inside a procedure that it calls in a repetition. -/
def stopInCall : Node :=
  .seq (.define "halt" [] (.seq (.rotate (.const (.whole 90))) .stop))
    (.seq (.loop (.const (.whole 3)) (.seq (.call "halt" []) (.rotate (.const (.whole 1)))))
      (.rotate (.const (.whole 7))))

theorem evaluate_stop_unwinds_stopInCall :
    ∃ final after,
      State.origin.terminated = false ∧
      evaluate {} 20 0 stopInCall .origin ⟨.direct (.recording #[]), #[]⟩ = (.ok final, after) ∧
      final.terminated = true ∧ final.heading = .whole 90 ∧
      StopsLast after.events.toList final ∧ StartsRunning after.events.toList := by
  have running : State.origin.terminated = false := rfl
  obtain ⟨final, after, ended, stopped, heading⟩ : ∃ final after,
      evaluate {} 20 0 stopInCall .origin ⟨.direct (.recording #[]), #[]⟩ = (.ok final, after) ∧
        final.terminated = true ∧ final.heading = .whole 90 := ⟨_, _, rfl, rfl, rfl⟩
  obtain ⟨events, added, -, last, starts⟩ := evaluate_stop_unwinds running ended
  rw [List.nil_append] at added
  subst added
  exact ⟨final, after, running, ended, stopped, heading, last stopped, starts⟩

end Turtle

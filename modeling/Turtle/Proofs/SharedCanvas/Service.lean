import Turtle.Proofs.Batch
import Turtle.Proofs.SharedCanvas.Exchange

/-
This file shows that the clients of a shared canvas are served as by the canvas that it wraps.
Whatever the schedule is, the answers are those of a surface that is used directly, each client is
served in its own order, and no message is lost or taken twice.
-/

namespace Turtle

/-- These are the segments that the messages draw. -/
def drawings (history : List (Nat × Message)) : List Segment :=
  (history.map Prod.snd).filterMap Message.segment?

/-- The calls of a client are taken in the order of its script, none is lost and none is taken
twice. The answer to a question that the client waits for is that of a surface on which some of the
taken messages have been drawn directly, and among these are exactly those that the client sent
before the question. -/
structure Client.Served (surface : Surface) (history mailbox : List (Nat × Message))
    (place : Nat) (script : List Message) (client : Client) : Prop where
  calls : itemsOf place history ++ itemsOf place mailbox ++ client.left = script
  answered : client.answers.length =
    (itemsOf place history).countP Message.isQuestion + client.late
  faithful : ∀ before question behind answer, script = before ++ question :: behind →
    question.isQuestion = true →
    client.answers[before.countP Message.isQuestion]? = some (some answer) →
    ∃ earlier reached, earlier <+: history ∧ itemsOf place earlier = before ∧
      (Canvas.direct surface).replay (drawings earlier) = (.ok (), .direct reached) ∧
      answer = reached.reply question

theorem exists_split_of_itemsOf {α : Type} {place : Nat} {items : List (Nat × α)} {item : α}
    {before behind : List α} (split : itemsOf place items = before ++ item :: behind) :
    ∃ earlier later, items = earlier ++ (place, item) :: later ∧
      itemsOf place earlier = before := by
  obtain ⟨front, back, rfl, rfl, rest⟩ := List.filterMap_eq_append_iff.mp split
  obtain ⟨skipped, ⟨sender, found⟩, later, rfl, foreign, here, -⟩ :=
    List.filterMap_eq_cons_iff.mp rest
  refine ⟨front ++ skipped, later, ?_, ?_⟩
  · split at here
    · next same =>
        cases here
        cases same
        rw [List.append_assoc]
    · cases here
  · have none : itemsOf place skipped = [] := List.filterMap_eq_nil_iff.mpr foreign
    rw [itemsOf_append, none, List.append_nil]
    rfl

/-- A question is among the calls that were taken when more questions than those before it were
taken. -/
theorem prefix_of_countP_lt {before taken script : List Message} {question : Message}
    (whole : before ++ [question] <+: script) (part : taken <+: script)
    (counted : before.countP Message.isQuestion < taken.countP Message.isQuestion) :
    before ++ [question] <+: taken := by
  rcases List.prefix_or_prefix_of_prefix whole part with inside | short
  · exact inside
  · rcases List.prefix_concat_iff.mp short with same | earlier
    · exact ⟨[], by rw [List.append_nil, same]⟩
    · exact absurd earlier.sublist.countP_le (Nat.not_le.mpr counted)

namespace Exchange.Explained

variable {surface : Surface} {scripts : List (List Message)} {exchange : Exchange}
  {history : List (Nat × Message)}

theorem itemsOf_of_isDone (explained : exchange.Explained surface scripts history)
    (ended : exchange.IsDone) {place : Nat} {script : List Message}
    (here : scripts[place]? = some script) : itemsOf place history = script := by
  obtain ⟨client, found, known⟩ := explained.exists_client here
  have calls := known.calls
  rw [ended.1, ended.2 client (List.mem_of_getElem? found)] at calls
  simpa using calls

/-- When all is done, every question of a client has its answer or was given up. -/
theorem length_answers_of_isDone (explained : exchange.Explained surface scripts history)
    (ended : exchange.IsDone) {place : Nat} {script : List Message} {client : Client}
    (found : exchange.clients[place]? = some client) (here : scripts[place]? = some script) :
    client.answers.length = script.countP Message.isQuestion := by
  have known := explained.clients place client script found here
  have waits := known.waits
  rw [ended.1, itemsOf_nil, List.countP_nil] at waits
  have none : client.late = 0 := by omega
  rw [known.length, none, explained.itemsOf_of_isDone ended here, Nat.add_zero]

/-- The only client gets the answers of the surface used directly, as far as it waits for them. -/
theorem alone {script : List Message}
    (explained : exchange.Explained surface [script] history) :
    ∃ client, exchange.clients = [client] ∧ AsExpected client.answers (surface.answers script) ∧
      (none ∉ client.answers → client.answers <+: (surface.answers script).map some ∧
        (exchange.IsDone → client.answers = (surface.answers script).map some)) := by
  obtain ⟨client, only⟩ := List.length_eq_one_iff.mp explained.length
  have found : exchange.clients[0]? = some client := by rw [only]; rfl
  have known := explained.clients 0 client script found rfl
  have single : ∀ entry ∈ history, entry.1 = 0 := fun entry member =>
    Nat.lt_one_iff.mp (explained.senders entry (List.mem_append_left _ member))
  have expected : AsExpected client.answers (surface.answers script) := by
    have taken := known.expected
    rw [Surface.answersTo_of_single single, ← itemsOf_of_single single] at taken
    rw [← known.calls, List.append_assoc, Surface.answers_append]
    exact taken.extend _
  refine ⟨client, only, expected, fun complete => ?_⟩
  have part := expected.prefix_of_complete complete
  refine ⟨part, fun ended => part.eq_of_length ?_⟩
  rw [explained.length_answers_of_isDone ended found rfl, List.length_map,
    Surface.length_answers]

variable (explained : exchange.Explained surface scripts history)
  (takes : ∀ script ∈ scripts, ∀ message ∈ script, surface.Takes message)

include explained takes

theorem replay_drawings {earlier : List (Nat × Message)} (start : earlier <+: history) :
    (Canvas.direct surface).replay (drawings earlier) =
      (.ok (), .direct ((earlier.map Prod.snd).foldl Surface.after surface)) := by
  refine Surface.replay_of_takes fun message member => ?_
  obtain ⟨⟨sender, message⟩, taken, rfl⟩ := List.mem_map.mp member
  obtain ⟨script, here, listed⟩ :=
    explained.mem_script (List.mem_append_left _ (start.subset taken))
  exact takes script here message listed

theorem served {place : Nat} {script : List Message} {client : Client}
    (found : exchange.clients[place]? = some client) (here : scripts[place]? = some script) :
    client.Served surface history exchange.mailbox place script := by
  have known := explained.clients place client script found here
  refine ⟨known.calls, known.length, ?_⟩
  intro before question behind answer split asks came
  have replied := known.expected _ answer came
  have counted : before.countP Message.isQuestion <
      (itemsOf place history).countP Message.isQuestion := by
    rw [← Surface.length_answersTo history]
    exact (List.getElem?_eq_some_iff.mp replied).1
  have part : itemsOf place history <+: script := by
    rw [← known.calls, List.append_assoc]
    exact List.prefix_append _ _
  have whole : before ++ [question] <+: script := ⟨behind, by simp [split]⟩
  obtain ⟨rest, taken⟩ := prefix_of_countP_lt whole part counted
  obtain ⟨earlier, later, rfl, same⟩ :=
    exists_split_of_itemsOf (taken.symm.trans (List.append_assoc before [question] rest))
  have start : earlier <+: earlier ++ (place, question) :: later := List.prefix_append _ _
  refine ⟨earlier, _, start, same, explained.replay_drawings takes start, ?_⟩
  rw [Surface.answersTo_append, ← same, ← Surface.length_answersTo,
    List.getElem?_append_right (Nat.le_refl _), Nat.sub_self] at replied
  simp only [Surface.answersTo, asks, and_self, if_true, List.getElem?_cons_zero] at replied
  exact (Option.some.inj replied).symm

end Exchange.Explained

/-- A list of marked items interleaves the lists of all marks. -/
theorem interleaves_of_itemsOf {α : Type} {scripts : List (List α)} {items : List (Nat × α)}
    (inside : ∀ item ∈ items, item.1 < scripts.length)
    (whole : ∀ (place : Nat) (script : List α), scripts[place]? = some script →
      itemsOf place items = script) :
    Interleaves scripts (items.map Prod.snd) := by
  induction items generalizing scripts with
  | nil =>
      refine .done fun script member => ?_
      obtain ⟨place, here⟩ := List.mem_iff_getElem?.mp member
      exact (whole place script here).symm
  | cons entry rest inductionHypothesis =>
      obtain ⟨place, item⟩ := entry
      obtain ⟨first, others⟩ := List.forall_mem_cons.mp inside
      have taken : scripts[place] = item :: itemsOf place rest := by
        rw [← whole place _ (List.getElem?_eq_getElem first), itemsOf_cons_self]
      have shorter : Interleaves (scripts.set place (itemsOf place rest)) (rest.map Prod.snd) := by
        refine inductionHypothesis (by simpa using others) ?_
        intro other script found
        rcases getElem?_set_cases found with ⟨rfl, rfl⟩ | ⟨apart, here⟩
        · rfl
        · rw [← whole other script here, itemsOf_cons_of_ne apart]
      rw [List.set_eq_take_append_cons_drop, if_pos first] at shorter
      have listed : scripts = scripts.take place ++ (item :: itemsOf place rest) ::
          scripts.drop (place + 1) := by
        rw [← taken, ← List.drop_eq_getElem_cons first, List.take_append_drop]
      rw [listed]
      exact .take shorter

/-- A shared canvas cannot be told from the canvas that it wraps. Clients send draws and questions
to one actor, no draw fails, and the actor takes the messages in the order of arrival, whenever it
comes to it. A client may give up waiting at any time; then only that one answer is missing. The
surface is always that on which the messages taken so far have been drawn directly, and each client
is served in its own order. A single client gets the answers of the canvas used directly, all of
them when it never gives up. An unknown command is refused and changes nothing. As long as a message
is left, one can be sent or taken. The exchange ends under every schedule, and then every message of
every client has been taken exactly once and every question has been answered or given up. -/
theorem shared_canvas_indistinguishable {surface : Surface} {scripts : List (List Message)}
    (takes : ∀ script ∈ scripts, ∀ message ∈ script, surface.Takes message)
    {exchange : Exchange} (reaches : (Exchange.start surface scripts).Reaches exchange) :
    ∃ history reached,
      (Canvas.direct surface).replay (drawings history) = (.ok (), .direct reached) ∧
      exchange.actor = .start reached ∧
      (∀ (place : Nat) (script : List Message), scripts[place]? = some script → ∃ client,
        exchange.clients[place]? = some client ∧
        client.Served surface history exchange.mailbox place script ∧
        (exchange.IsDone → client.answers.length = script.countP Message.isQuestion)) ∧
      (∀ script, scripts = [script] → ∃ client, exchange.clients = [client] ∧
        AsExpected client.answers (surface.answers script) ∧
        (none ∉ client.answers → client.answers <+: (surface.answers script).map some ∧
          (exchange.IsDone → client.answers = (surface.answers script).map some)) ∧
        (Canvas.shared (.start surface)).answers script = surface.answers script ∧
        ((∀ message ∈ script, message.isOperation = true) →
          (Canvas.direct surface).answers script = surface.answers script)) ∧
      (∀ command, exchange.actor.ask (.other command) =
        (.error (.unknownCommand command), exchange.actor)) ∧
      (exchange.IsDone → Interleaves scripts (history.map Prod.snd) ∧
        (history.map Prod.snd).Perm scripts.flatten) ∧
      (exchange.IsDone ∨ ∃ next, exchange.Step next ∧ next.mailbox ≠ exchange.mailbox) ∧
      ∀ next, exchange.Step next → next.work < exchange.work := by
  obtain ⟨history, explained⟩ := reaches.explained takes
  refine ⟨history, _, explained.replay_drawings takes List.prefix_rfl, explained.actor, ?_, ?_, ?_,
    ?_, explained.isDone_or_step, fun next => Exchange.Step.work_lt⟩
  · intro place script here
    obtain ⟨client, found, -⟩ := explained.exists_client here
    have served := explained.served takes found here
    exact ⟨client, found, served, fun ended => explained.length_answers_of_isDone ended found here⟩
  · rintro script rfl
    obtain ⟨client, only, expected, complete⟩ := explained.alone
    have takesAll := takes script List.mem_cons_self
    have shared : (Canvas.shared (.start surface)).answers script = surface.answers script :=
      @Canvas.answers_shared surface script [] nofun takesAll
    exact ⟨client, only, expected, complete, shared, Canvas.answers_direct⟩
  · intro command
    rw [explained.actor, Actor.ask_start]
    rfl
  · intro ended
    have interleaves := interleaves_of_itemsOf
      (fun entry member => explained.senders entry (List.mem_append_left _ member))
      (fun place script here => explained.itemsOf_of_isDone ended here)
    exact ⟨interleaves, interleaves.perm⟩

/-- The segments of the two clients below differ in their distance from the page's left edge. -/
def uprightLine (distance : Int) : Segment :=
  ⟨⟨.whole distance, .whole 0⟩, ⟨.whole distance, .whole 1⟩⟩

/-- One client draws and persists twice, and the other one sends an unknown command between its
draws. -/
def twoScripts : List (List Message) :=
  [[.draw (uprightLine 0), .persist, .persist],
    [.draw (uprightLine 1), .other "clear", .draw (uprightLine 2)]]

/-- The first client has not waited for what it persisted first. The draw of the other client is in
what it has persisted then. -/
def twoClientsServed : Exchange :=
  ⟨[⟨[], false, 0, [none, some ((Surface.recording #[uprightLine 1, uprightLine 0]).reply
        .persist)]⟩,
      ⟨[], false, 0, [some (.error (.unknownCommand "clear"))]⟩],
    [], .start (.recording #[uprightLine 1, uprightLine 0, uprightLine 2])⟩

theorem twoScripts_reaches :
    (Exchange.start (.recording #[]) twoScripts).Reaches twoClientsServed := by
  have path : Relation.ReflTransGen Exchange.Step (Exchange.start (.recording #[]) twoScripts)
      twoClientsServed :=
    .head (.send 1 rfl rfl) <| .head (.send 0 rfl rfl) <| .head (.send 1 rfl rfl) <|
    .head (.draw rfl) <| .head (.send 0 rfl rfl) <| .head (.giveUp 0 rfl) <| .head (.draw rfl) <|
    .head (.answer rfl rfl rfl) <| .head (.send 0 rfl rfl) <| .head (.send 1 rfl rfl) <|
    .head (.answerLate rfl rfl rfl) <| .head (.answer rfl rfl rfl) <| .head (.draw rfl) .refl
  exact path

theorem shared_canvas_indistinguishable_twoClients :
    (∀ script ∈ twoScripts, ∀ message ∈ script, (Surface.recording #[]).Takes message) ∧
    (Exchange.start (.recording #[]) twoScripts).Reaches twoClientsServed ∧
    ∃ history : List (Nat × Message),
      Interleaves twoScripts (history.map Prod.snd) ∧
      (Canvas.direct (.recording #[])).replay (drawings history) =
        (.ok (), .direct (.recording #[uprightLine 1, uprightLine 0, uprightLine 2])) := by
  have takes : ∀ script ∈ twoScripts, ∀ message ∈ script,
      (Surface.recording #[]).Takes message := by
    intro script _ message _
    cases message with
    | draw segment => rfl
    | persist | incomplete | other _ => trivial
  obtain ⟨history, reached, drawn, actor, -, -, -, complete, -⟩ :=
    shared_canvas_indistinguishable takes twoScripts_reaches
  have done : twoClientsServed.IsDone := ⟨rfl, by simp [twoClientsServed]⟩
  cases actor
  exact ⟨takes, twoScripts_reaches, history, (complete done).1, drawn⟩

end Turtle

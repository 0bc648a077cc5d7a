import Turtle.Proofs.SharedCanvas.Answers
import Mathlib.Data.List.Basic
import Mathlib.Logic.Relation

/-
This file lets several clients use one actor. Their messages wait in one mailbox, and the actor
takes them from it one at a time, in the order of arrival and whenever it comes to it. A client may
give up waiting, and then its answer comes too late. Along every schedule the state of all clients
is explained by the messages that the actor has taken, and every schedule comes to an end.
-/

namespace Turtle

/-- These are the items of one client in their order. -/
def itemsOf {α : Type} (place : Nat) (items : List (Nat × α)) : List α :=
  items.filterMap fun item => if item.1 = place then some item.2 else none

/-- A client has calls left to make, may wait for an answer, and has the answers so far, of which
those are missing for which it did not wait. Some answers are late: they are still to come, and
nobody waits for them any more. -/
structure Client where
  left : List Message
  waiting : Bool
  late : Nat
  answers : List (Option Answer)

/-- The clients send their messages, marked with their places, to the mailbox of one actor. It holds
draws and questions alike, so that nothing waits in the inbox of the actor itself. -/
structure Exchange where
  clients : List Client
  mailbox : List (Nat × Message)
  actor : Actor

namespace Exchange

def start (surface : Surface) (scripts : List (List Message)) : Exchange :=
  ⟨scripts.map fun script => ⟨script, false, 0, []⟩, [], .start surface⟩

/-- Any client that does not wait sends its next message, one that waits may give up, or the actor
takes the first message from the mailbox. It answers in the order of the questions, so that a client
that waits gets its answer behind the late ones. No fairness is assumed and no clock, so that every
schedule is covered. -/
inductive Step : Exchange → Exchange → Prop
  | send {exchange : Exchange} (place : Nat) {message : Message} {left : List Message} {late : Nat}
      {answers : List (Option Answer)}
      (found : exchange.clients[place]? = some ⟨message :: left, false, late, answers⟩)
      (running : exchange.actor.running = true) :
      Step exchange
        { exchange with
          clients := exchange.clients.set place ⟨left, message.isQuestion, late, answers⟩
          mailbox := exchange.mailbox ++ [(place, message)] }
  | giveUp {exchange : Exchange} (place : Nat) {left : List Message} {late : Nat}
      {answers : List (Option Answer)}
      (found : exchange.clients[place]? = some ⟨left, true, late, answers⟩) :
      Step exchange
        { exchange with
          clients := exchange.clients.set place ⟨left, false, late + 1, answers ++ [none]⟩ }
  | draw {exchange : Exchange} {place : Nat} {segment : Segment} {rest : List (Nat × Message)}
      (first : exchange.mailbox = (place, .draw segment) :: rest) :
      Step exchange
        { exchange with mailbox := rest, actor := exchange.actor.apply segment }
  | answer {exchange : Exchange} {place : Nat} {question : Message} {rest : List (Nat × Message)}
      {left : List Message} {answers : List (Option Answer)}
      (first : exchange.mailbox = (place, question) :: rest)
      (asks : question.isQuestion = true)
      (found : exchange.clients[place]? = some ⟨left, true, 0, answers⟩) :
      Step exchange
        { clients := exchange.clients.set place
            ⟨left, false, 0, answers ++ [some (exchange.actor.ask question).1]⟩
          mailbox := rest
          actor := (exchange.actor.ask question).2 }
  | answerLate {exchange : Exchange} {place : Nat} {question : Message}
      {rest : List (Nat × Message)} {left : List Message} {waiting : Bool} {late : Nat}
      {answers : List (Option Answer)} (first : exchange.mailbox = (place, question) :: rest)
      (asks : question.isQuestion = true)
      (found : exchange.clients[place]? = some ⟨left, waiting, late + 1, answers⟩) :
      Step exchange
        { clients := exchange.clients.set place ⟨left, waiting, late, answers⟩
          mailbox := rest
          actor := (exchange.actor.ask question).2 }

/-- The exchange reaches another one by some steps. -/
def Reaches : Exchange → Exchange → Prop :=
  Relation.ReflTransGen Step

/-- All messages have been sent and taken. -/
def IsDone (exchange : Exchange) : Prop :=
  exchange.mailbox = [] ∧ ∀ client ∈ exchange.clients, client.left = []

/-- A message that is left has still to be sent and to be taken, and its sender may give up. -/
def workOf : List Client → Nat
  | [] => 0
  | client :: rest => 3 * client.left.length + client.waiting.toNat + workOf rest

def work (exchange : Exchange) : Nat :=
  workOf exchange.clients + exchange.mailbox.length

end Exchange

section

variable {α : Type} {place sender : Nat} {items more : List (Nat × α)} {item : α}

@[simp]
theorem itemsOf_nil : itemsOf place ([] : List (Nat × α)) = [] :=
  rfl

@[simp]
theorem itemsOf_append :
    itemsOf place (items ++ more) = itemsOf place items ++ itemsOf place more :=
  List.filterMap_append

@[simp]
theorem itemsOf_cons_self :
    itemsOf place ((place, item) :: items) = item :: itemsOf place items := by
  simp [itemsOf]

theorem itemsOf_cons_of_ne (other : sender ≠ place) :
    itemsOf place ((sender, item) :: items) = itemsOf place items := by
  simp [itemsOf, other]

theorem itemsOf_of_single (single : ∀ entry ∈ items, entry.1 = place) :
    itemsOf place items = items.map Prod.snd := by
  rw [itemsOf, ← List.filterMap_eq_map]
  exact List.filterMap_congr fun entry member => if_pos (single entry member)

theorem mem_itemsOf (member : (place, item) ∈ items) : item ∈ itemsOf place items :=
  List.mem_filterMap.mpr ⟨(place, item), member, if_pos rfl⟩

end

namespace Surface

/-- These are the answers to one of several clients whose messages reach the surface one after
another. -/
def answersTo (place : Nat) : Surface → List (Nat × Message) → List Answer
  | _, [] => []
  | surface, (sender, message) :: rest =>
      let others := (surface.after message).answersTo place rest
      if sender = place ∧ message.isQuestion then surface.reply message :: others else others

variable {surface : Surface}

theorem answersTo_append {place : Nat} (first second : List (Nat × Message)) :
    surface.answersTo place (first ++ second) = surface.answersTo place first ++
      ((first.map Prod.snd).foldl after surface).answersTo place second := by
  induction first generalizing surface with
  | nil => rfl
  | cons entry rest inductionHypothesis =>
      simp only [List.cons_append, answersTo, inductionHypothesis, List.map_cons, List.foldl_cons]
      split <;> rfl

theorem length_answersTo {place : Nat} (history : List (Nat × Message)) :
    (surface.answersTo place history).length =
      (itemsOf place history).countP Message.isQuestion := by
  induction history generalizing surface with
  | nil => rfl
  | cons entry rest inductionHypothesis =>
      obtain ⟨sender, message⟩ := entry
      have onward := @inductionHypothesis (surface.after message)
      rw [answersTo]
      by_cases same : sender = place
      · subst same
        rw [itemsOf_cons_self, List.countP_cons]
        cases message.isQuestion <;> simp [onward]
      · rw [itemsOf_cons_of_ne same]
        simp [same, onward]

/-- The only client is served as if it used the surface directly. -/
theorem answersTo_of_single {place : Nat} {history : List (Nat × Message)}
    (single : ∀ entry ∈ history, entry.1 = place) :
    surface.answersTo place history = surface.answers (history.map Prod.snd) := by
  induction history generalizing surface with
  | nil => rfl
  | cons entry rest inductionHypothesis =>
      obtain ⟨first, others⟩ := List.forall_mem_cons.mp single
      simp only [answersTo, List.map_cons, answers, first, true_and, inductionHypothesis others]

end Surface

/-- Every answer that has come is the expected one. The missing ones are left open. -/
def AsExpected (answers : List (Option Answer)) (expected : List Answer) : Prop :=
  ∀ (place : Nat) (answer : Answer), answers[place]? = some (some answer) →
    expected[place]? = some answer

namespace AsExpected

variable {answers : List (Option Answer)} {expected : List Answer}

theorem missing (agrees : AsExpected answers expected) :
    AsExpected (answers ++ [none]) expected := by
  intro place answer found
  refine agrees place answer ?_
  grind

theorem extend (agrees : AsExpected answers expected) (more : List Answer) :
    AsExpected answers (expected ++ more) := by
  intro place answer found
  have here := agrees place answer found
  rw [List.getElem?_append_left (List.getElem?_eq_some_iff.mp here).1, here]

theorem came (agrees : AsExpected answers expected) (lengths : answers.length = expected.length)
    (answer : Answer) : AsExpected (answers ++ [some answer]) (expected ++ [answer]) := by
  intro place other found
  by_cases earlier : place < answers.length
  · rw [List.getElem?_append_left earlier] at found
    exact agrees.extend [answer] place other found
  · grind

/-- A client that never gave up has its answers in order and without a gap. -/
theorem prefix_of_complete (agrees : AsExpected answers expected) (complete : none ∉ answers) :
    answers <+: expected.map some := by
  induction answers generalizing expected with
  | nil => exact List.nil_prefix
  | cons first rest inductionHypothesis =>
      obtain ⟨answer, rfl⟩ : ∃ answer, first = some answer := by
        rw [← Option.ne_none_iff_exists']
        rintro rfl
        exact complete List.mem_cons_self
      cases expected with
      | nil => cases agrees 0 answer rfl
      | cons head others =>
          cases agrees 0 answer rfl
          have onward := inductionHypothesis (fun place => agrees (place + 1))
            fun member => complete (List.mem_cons_of_mem _ member)
          rw [List.map_cons]
          exact (List.prefix_cons_inj _).mpr onward

end AsExpected

/-- What a client has sent has been taken or waits in the mailbox, in the order of its script. Its
questions in the mailbox are those for which it waits or no longer waits, and it has an outcome for
every other question. -/
structure Client.Explained (surface : Surface) (history mailbox : List (Nat × Message))
    (place : Nat) (script : List Message) (client : Client) : Prop where
  calls : itemsOf place history ++ itemsOf place mailbox ++ client.left = script
  expected : AsExpected client.answers (surface.answersTo place history)
  length : client.answers.length =
    (itemsOf place history).countP Message.isQuestion + client.late
  waits : (itemsOf place mailbox).countP Message.isQuestion =
    client.late + client.waiting.toNat

/-- The actor has taken the messages of the history, and all clients are explained by it. -/
structure Exchange.Explained (surface : Surface) (scripts : List (List Message))
    (exchange : Exchange) (history : List (Nat × Message)) : Prop where
  actor : exchange.actor = .start ((history.map Prod.snd).foldl Surface.after surface)
  length : exchange.clients.length = scripts.length
  senders : ∀ entry ∈ history ++ exchange.mailbox, entry.1 < scripts.length
  clients : ∀ (place : Nat) (client : Client) (script : List Message),
    exchange.clients[place]? = some client → scripts[place]? = some script →
      client.Explained surface history exchange.mailbox place script

namespace Client.Explained

variable {surface : Surface} {history mailbox : List (Nat × Message)} {place sender late : Nat}
  {script left : List Message} {message : Message} {waiting : Bool}
  {answers : List (Option Answer)} {client : Client}

theorem sent
    (explained : Client.Explained surface history mailbox place script
      ⟨message :: left, false, late, answers⟩) :
    Client.Explained surface history (mailbox ++ [(place, message)]) place script
      ⟨left, message.isQuestion, late, answers⟩ where
  calls := by simpa using explained.calls
  expected := explained.expected
  length := explained.length
  waits := by
    have before : (itemsOf place mailbox).countP Message.isQuestion = late := explained.waits
    rw [itemsOf_append, List.countP_append, before, itemsOf_cons_self, itemsOf_nil,
      List.countP_singleton]
    cases message.isQuestion <;> rfl

/-- The question of a client that gives up stays in the mailbox. -/
theorem gaveUp
    (explained : Client.Explained surface history mailbox place script
      ⟨left, true, late, answers⟩) :
    Client.Explained surface history mailbox place script
      ⟨left, false, late + 1, answers ++ [none]⟩ where
  calls := explained.calls
  expected := explained.expected.missing
  length := by
    have length : answers.length = _ + late := explained.length
    rw [List.length_append, length]
    rfl
  waits := explained.waits

theorem unsent (explained : client.Explained surface history mailbox place script)
    (other : sender ≠ place) :
    client.Explained surface history (mailbox ++ [(sender, message)]) place script := by
  have same : itemsOf place (mailbox ++ [(sender, message)]) = itemsOf place mailbox := by
    rw [itemsOf_append, itemsOf_cons_of_ne other, itemsOf_nil, List.append_nil]
  exact ⟨same ▸ explained.calls, explained.expected, explained.length, same ▸ explained.waits⟩

theorem calls_taken
    (explained : client.Explained surface history ((sender, message) :: mailbox) place script) :
    itemsOf place (history ++ [(sender, message)]) ++ itemsOf place mailbox ++ client.left =
      script := by
  have calls := explained.calls
  rw [← List.singleton_append, itemsOf_append] at calls
  rw [itemsOf_append, List.append_assoc (itemsOf place history)]
  exact calls

/-- A client gets no answer when the actor takes a message of another client or a draw. -/
theorem spared
    (explained : client.Explained surface history ((sender, message) :: mailbox) place script)
    (unasked : sender = place → message.isQuestion = false) :
    client.Explained surface (history ++ [(sender, message)]) mailbox place script := by
  have none : (itemsOf place [(sender, message)]).countP Message.isQuestion = 0 := by
    by_cases same : sender = place
    · subst same
      simp [unasked rfl]
    · simp [itemsOf_cons_of_ne same]
  refine ⟨explained.calls_taken, ?_, ?_, ?_⟩
  · rw [Surface.answersTo_append]
    exact explained.expected.extend _
  · rw [itemsOf_append, List.countP_append, none]
    exact explained.length
  · rw [← explained.waits, ← List.singleton_append, itemsOf_append, List.countP_append, none,
      Nat.zero_add]

section

variable (asks : message.isQuestion = true)

include asks

theorem answersTo_asked :
    surface.answersTo place (history ++ [(place, message)]) = surface.answersTo place history ++
      [((history.map Prod.snd).foldl Surface.after surface).reply message] := by
  rw [Surface.answersTo_append]
  simp [Surface.answersTo, asks]

theorem countP_asked :
    (itemsOf place (history ++ [(place, message)])).countP Message.isQuestion =
      (itemsOf place history).countP Message.isQuestion + 1 := by
  rw [itemsOf_append, List.countP_append, itemsOf_cons_self, itemsOf_nil, List.countP_singleton,
    if_pos asks]

/-- A client gets the answer that the surface gives after the history. -/
theorem answered
    (explained : Client.Explained surface history ((place, message) :: mailbox) place script
      ⟨left, true, 0, answers⟩) :
    Client.Explained surface (history ++ [(place, message)]) mailbox place script
      ⟨left, false, 0, answers ++
        [some (((history.map Prod.snd).foldl Surface.after surface).reply message)]⟩ := by
  have length : answers.length = (itemsOf place history).countP Message.isQuestion :=
    explained.length
  refine ⟨explained.calls_taken, ?_, ?_, ?_⟩
  · rw [answersTo_asked asks]
    exact explained.expected.came (length.trans (Surface.length_answersTo _).symm) _
  · rw [countP_asked asks, List.length_append, length]
    rfl
  · have one : (itemsOf place ((place, message) :: mailbox)).countP Message.isQuestion = 0 + 1 :=
      explained.waits
    rw [itemsOf_cons_self, List.countP_cons_of_pos asks] at one
    exact Nat.succ.inj one

/-- An answer that comes too late is lost. -/
theorem answeredLate
    (explained : Client.Explained surface history ((place, message) :: mailbox) place script
      ⟨left, waiting, late + 1, answers⟩) :
    Client.Explained surface (history ++ [(place, message)]) mailbox place script
      ⟨left, waiting, late, answers⟩ := by
  have length : answers.length = _ + (late + 1) := explained.length
  refine ⟨explained.calls_taken, ?_, ?_, ?_⟩
  · rw [answersTo_asked asks]
    exact explained.expected.extend _
  · rw [countP_asked asks]
    dsimp only
    omega
  · have waits : (itemsOf place ((place, message) :: mailbox)).countP Message.isQuestion =
        late + 1 + waiting.toNat := explained.waits
    rw [itemsOf_cons_self, List.countP_cons_of_pos asks] at waits
    dsimp only
    omega

end

end Client.Explained

theorem getElem?_set_cases {α : Type} {items : List α} {place other : Nat} {changed item : α}
    (found : (items.set place changed)[other]? = some item) :
    place = other ∧ item = changed ∨ place ≠ other ∧ items[other]? = some item := by
  rw [List.getElem?_set] at found
  split at found
  · next same =>
      split at found
      · exact .inl ⟨same, (Option.some.inj found).symm⟩
      · cases found
  · next apart => exact .inr ⟨apart, found⟩

namespace Exchange.Explained

variable {surface : Surface} {scripts : List (List Message)} {exchange next : Exchange}
  {history : List (Nat × Message)}

theorem start (surface : Surface) (scripts : List (List Message)) :
    (Exchange.start surface scripts).Explained surface scripts [] where
  actor := rfl
  length := List.length_map _
  senders := nofun
  clients := by
    intro place client script found here
    rw [Exchange.start, List.getElem?_map, here] at found
    cases found
    exact ⟨rfl, nofun, rfl, rfl⟩

variable (explained : exchange.Explained surface scripts history)

include explained

theorem exists_client {place : Nat} {script : List Message} (here : scripts[place]? = some script) :
    ∃ client, exchange.clients[place]? = some client ∧
      client.Explained surface history exchange.mailbox place script := by
  have inside : place < exchange.clients.length := by
    rw [explained.length]
    exact (List.getElem?_eq_some_iff.mp here).1
  have found := List.getElem?_eq_getElem inside
  exact ⟨_, found, explained.clients place _ script found here⟩

theorem exists_script {place : Nat} {client : Client}
    (found : exchange.clients[place]? = some client) :
    ∃ script, scripts[place]? = some script ∧
      client.Explained surface history exchange.mailbox place script := by
  have inside : place < scripts.length := by
    rw [← explained.length]
    exact (List.getElem?_eq_some_iff.mp found).1
  have here := List.getElem?_eq_getElem inside
  exact ⟨_, here, explained.clients place client _ found here⟩

/-- Every message that was sent stands in the script of its sender. -/
theorem mem_script {sender : Nat} {message : Message}
    (member : (sender, message) ∈ history ++ exchange.mailbox) :
    ∃ script ∈ scripts, message ∈ script := by
  have here := List.getElem?_eq_getElem (explained.senders _ member)
  obtain ⟨client, -, known⟩ := explained.exists_client here
  refine ⟨_, List.mem_of_getElem? here, ?_⟩
  rw [← known.calls, ← itemsOf_append]
  exact List.mem_append_left _ (mem_itemsOf member)

/-- A question that the actor takes leaves the surface as it is, and changes its sender only. -/
theorem asked {sender : Nat} {question : Message} {rest : List (Nat × Message)}
    {client changed : Client} (first : exchange.mailbox = (sender, question) :: rest)
    (found : exchange.clients[sender]? = some client)
    (known : ∀ script,
      client.Explained surface history ((sender, question) :: rest) sender script →
        changed.Explained surface (history ++ [(sender, question)]) rest sender script) :
    Exchange.Explained surface scripts
      ⟨exchange.clients.set sender changed, rest, (exchange.actor.ask question).2⟩
      (history ++ [(sender, question)]) := by
  obtain ⟨script, here, before⟩ := explained.exists_script found
  rw [first] at before
  rw [explained.actor, Actor.ask_start]
  refine ⟨by simp, by simp [explained.length], ?_, ?_⟩
  · rw [List.append_assoc, List.singleton_append, ← first]
    exact explained.senders
  · intro place other calls now there
    rcases getElem?_set_cases now with ⟨rfl, rfl⟩ | ⟨apart, unchanged⟩
    · rw [here] at there
      cases there
      exact known script before
    · have spared := explained.clients place other calls unchanged there
      rw [first] at spared
      exact spared.spared fun same => absurd same apart

/-- One step adds at most the message that the actor takes to the history. -/
theorem step (takes : ∀ script ∈ scripts, ∀ message ∈ script, surface.Takes message)
    (steps : exchange.Step next) : ∃ more, next.Explained surface scripts (history ++ more) := by
  cases steps with
  | @send sender message left late answers found _ =>
      refine ⟨[], ?_⟩
      rw [List.append_nil]
      obtain ⟨script, here, known⟩ := explained.exists_script found
      have inside : sender < scripts.length := (List.getElem?_eq_some_iff.mp here).1
      refine ⟨explained.actor, by simp [explained.length], ?_, ?_⟩
      · rw [← List.append_assoc]
        exact List.forall_mem_append.mpr
          ⟨explained.senders, List.forall_mem_singleton.mpr inside⟩
      · intro place client other changed there
        rcases getElem?_set_cases changed with ⟨rfl, rfl⟩ | ⟨apart, unchanged⟩
        · rw [here] at there
          cases there
          exact known.sent
        · exact (explained.clients place client other unchanged there).unsent apart
  | @giveUp waiter left late answers found =>
      refine ⟨[], ?_⟩
      rw [List.append_nil]
      obtain ⟨script, here, known⟩ := explained.exists_script found
      refine ⟨explained.actor, by simp [explained.length], explained.senders, ?_⟩
      intro place client other changed there
      rcases getElem?_set_cases changed with ⟨rfl, rfl⟩ | ⟨-, unchanged⟩
      · rw [here] at there
        cases there
        exact known.gaveUp
      · exact explained.clients place client other unchanged there
  | @draw sender segment rest first =>
      refine ⟨[(sender, .draw segment)], ?_⟩
      have member : (sender, .draw segment) ∈ history ++ exchange.mailbox := by simp [first]
      obtain ⟨script, here, message⟩ := explained.mem_script member
      have drawn : ((history.map Prod.snd).foldl Surface.after surface).Takes (.draw segment) :=
        (Surface.takes_foldl_after _ _).mpr (takes script here _ message)
      refine ⟨?_, explained.length, ?_, ?_⟩
      · rw [explained.actor, Actor.apply_start drawn]
        simp
      · rw [List.append_assoc, List.singleton_append, ← first]
        exact explained.senders
      · intro place client script found here
        have known := explained.clients place client script found here
        rw [first] at known
        exact known.spared fun _ => rfl
  | answer first asks found =>
      refine ⟨_, explained.asked first found fun script known => ?_⟩
      rw [explained.actor, Actor.ask_start]
      exact known.answered asks
  | answerLate first asks found =>
      exact ⟨_, explained.asked first found fun script known => known.answeredLate asks⟩

end Exchange.Explained

/-- Along every run the exchange stays explained by the messages that the actor has taken. -/
theorem Exchange.Reaches.explained {surface : Surface} {scripts : List (List Message)}
    {exchange : Exchange}
    (takes : ∀ script ∈ scripts, ∀ message ∈ script, surface.Takes message)
    (reaches : (Exchange.start surface scripts).Reaches exchange) :
    ∃ history, exchange.Explained surface scripts history := by
  induction reaches with
  | refl => exact ⟨[], .start surface scripts⟩
  | tail _ steps inductionHypothesis =>
      obtain ⟨history, known⟩ := inductionHypothesis
      obtain ⟨more, onward⟩ := known.step takes steps
      exact ⟨history ++ more, onward⟩

/-- As long as a message is left, a client can send one or the actor can take one, so that nobody
has to give up. -/
theorem Exchange.Explained.isDone_or_step {surface : Surface} {scripts : List (List Message)}
    {exchange : Exchange} {history : List (Nat × Message)}
    (explained : exchange.Explained surface scripts history) :
    exchange.IsDone ∨ ∃ next, exchange.Step next ∧ next.mailbox ≠ exchange.mailbox := by
  cases first : exchange.mailbox with
  | nil =>
      by_cases idle : ∀ client ∈ exchange.clients, client.left = []
      · exact .inl ⟨first, idle⟩
      · push Not at idle
        obtain ⟨⟨left, waiting, late, answers⟩, member, more⟩ := idle
        obtain ⟨place, found⟩ := List.mem_iff_getElem?.mp member
        obtain ⟨message, rest, rfl⟩ := List.exists_cons_of_ne_nil more
        obtain ⟨script, -, known⟩ := explained.exists_script found
        have waits := known.waits
        rw [first] at waits
        cases waiting with
        | true => cases waits
        | false =>
            refine .inr ⟨_, .send place found (by rw [explained.actor]; rfl), ?_⟩
            simp [first]
  | cons entry rest =>
      obtain ⟨sender, message⟩ := entry
      cases asks : message.isQuestion with
      | false =>
          cases message with
          | draw segment => exact .inr ⟨_, .draw first, (List.cons_ne_self _ _).symm⟩
          | persist | incomplete | other _ => cases asks
      | true =>
          -- Whoever sent the question still waits for its answer, or the answer comes too late.
          have sent : sender < scripts.length :=
            explained.senders (sender, message) (by simp [first])
          obtain ⟨⟨left, waiting, late, answers⟩, found, known⟩ :=
            explained.exists_client (List.getElem?_eq_getElem sent)
          have waits := known.waits
          rw [first, itemsOf_cons_self, List.countP_cons_of_pos asks] at waits
          match late, waiting with
          | late + 1, waiting =>
              exact .inr ⟨_, .answerLate first asks found, (List.cons_ne_self _ _).symm⟩
          | 0, true => exact .inr ⟨_, .answer first asks found, (List.cons_ne_self _ _).symm⟩
          | 0, false => cases waits

theorem Exchange.workOf_set {clients : List Client} {place : Nat} {client : Client}
    (found : clients[place]? = some client) (changed : Client) :
    workOf (clients.set place changed) + (3 * client.left.length + client.waiting.toNat) =
      workOf clients + (3 * changed.left.length + changed.waiting.toNat) := by
  induction clients generalizing place with
  | nil => cases found
  | cons head rest inductionHypothesis =>
      cases place with
      | zero =>
          cases found
          simp only [List.set_cons_zero, workOf]
          omega
      | succ place =>
          have tail := inductionHypothesis found
          simp only [List.set_cons_succ, workOf]
          omega

/-- Every step leaves less to do, so that every schedule comes to an end. -/
theorem Exchange.Step.work_lt {exchange next : Exchange} (steps : exchange.Step next) :
    next.work < exchange.work := by
  cases steps with
  | @send place message left late answers found _ =>
      have fewer := workOf_set found ⟨left, message.isQuestion, late, answers⟩
      have bounded := message.isQuestion.toNat_le
      simp only [work, List.length_append, List.length_cons, List.length_nil, Bool.toNat_false]
        at fewer ⊢
      omega
  | @giveUp place left late answers found =>
      have fewer := workOf_set found ⟨left, false, late + 1, answers ++ [none]⟩
      simp only [work, Bool.toNat_false, Bool.toNat_true] at fewer ⊢
      omega
  | draw first => simp [work, first]
  | @answer place question rest left answers first _ found =>
      have fewer := workOf_set found
        ⟨left, false, 0, answers ++ [some (exchange.actor.ask question).1]⟩
      simp only [work, first, List.length_cons, Bool.toNat_false, Bool.toNat_true] at fewer ⊢
      omega
  | @answerLate place question rest left waiting late answers first _ found =>
      have same := workOf_set found ⟨left, waiting, late, answers⟩
      simp only [work, first, List.length_cons] at same ⊢
      omega

end Turtle

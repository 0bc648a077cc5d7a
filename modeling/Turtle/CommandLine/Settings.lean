import Turtle.CommandLine.Flag
import Turtle.Evaluation

namespace Turtle.CommandLine

/-- The settings of a command line start from their defaults. The path of the output and the colour
of the lines are passed on unread. -/
structure Settings where
  script : Option String := none
  source : Option (Given String) := none
  output : Given HostText := .value (.ofString "out.svg")
  interactive : Bool := false
  parse : Bool := false
  width : Number := .whole 940
  height : Number := .whole 1060
  lineWidth : Number := .whole 10
  stroke : HostText := .ofString "black"
  startX : Option Number := none
  startY : Option Number := none
  heading : Number := .whole 0
  maxRepeat : RepeatLimit := .atMost 1000000
  maxCallDepth : Given Int := .value 1000
  debug : Bool := false

/-- A command line asks for the help text, the version or a run, or it is refused. -/
inductive Request where
  | help
  | version
  | run (settings : Settings)
  | refused (error : UsageError)

/-- A step of an option sets its flag. -/
structure Step where
  flag : Flag
  given : Given String

/-- The steps of an option are complete, or the last flag still awaits its value. -/
structure Steps where
  complete : List Step
  awaiting : Option Flag

def Steps.prepend (step : Step) (steps : Steps) : Steps :=
  { steps with complete := step :: steps.complete }

/-- A flag that takes no value is set by its name alone. -/
def Step.mark (flag : Flag) : Step :=
  ⟨flag, .value ""⟩

/-- A flag with nothing attached is complete or awaits the next argument. -/
def lone (flag : Flag) : Steps :=
  if flag.takesValue then ⟨[], some flag⟩ else ⟨[.mark flag], none⟩

/-- Short flags without values may be joined in one argument, and the last of them may touch its
value. -/
def joined (flag : Flag) : List Char → Except UsageError Steps
  | [] => .ok (lone flag)
  | char :: rest =>
      if flag.takesValue then .ok ⟨[⟨flag, .ofAttached (char :: rest)⟩], none⟩
      else match flagOf? (String.ofList ['-', char]) with
        | none => .error (ignoredValue flag (char :: rest))
        | some next => (joined next rest).map (Steps.prepend (.mark flag))

/-- The text attached to an option is its value or, behind a short option without one, names the
flags joined to it. -/
def optionSteps (flag : Flag) (short : Bool) : Option (List Char) → Except UsageError Steps
  | none => .ok (lone flag)
  | some text =>
      if flag.takesValue then .ok ⟨[⟨flag, .ofAttached text⟩], none⟩
      else if short && !text.isEmpty then joined flag text
      else .error (ignoredValue flag text)

def givenWhole (flag : Flag) : Given String → Except UsageError (Given Int)
  | .blank => .ok .blank
  | .value text =>
      match Numeral.readWhole text with
      | .ok number => .ok (.value number)
      | .error _ => .error (.ofFlag flag ("invalid int value: " ++ Text.quoted text))

def givenDouble (flag : Flag) : Given String → Except UsageError (Given Float)
  | .blank => .ok .blank
  | .value text =>
      match Numeral.readDouble? text with
      | some number => .ok (.value number)
      | none => .error (.ofFlag flag ("invalid float value: " ++ Text.quoted text))

def wholeNumber (flag : Flag) (given : Given String) : Except UsageError Number := do
  return (← givenWhole flag given).elim .blank .whole

def doubleNumber (flag : Flag) (given : Given String) : Except UsageError Number := do
  return (← givenDouble flag given).elim .blank .real

/-- A later option overrides an earlier one. -/
def Settings.apply (settings : Settings) (step : Step) : Except UsageError Settings := do
  let ⟨flag, given⟩ := step
  match flag with
  | .help | .version => return settings
  | .source => return { settings with source := some given }
  | .output => return { settings with output := given.map .ofString }
  | .interactive => return { settings with interactive := true }
  | .parse => return { settings with parse := true }
  | .width => return { settings with width := ← wholeNumber flag given }
  | .height => return { settings with height := ← wholeNumber flag given }
  | .lineWidth => return { settings with lineWidth := ← doubleNumber flag given }
  | .stroke => return { settings with stroke := .ofString (given.elim Number.blank.text id) }
  | .startX => return { settings with startX := some (← doubleNumber flag given) }
  | .startY => return { settings with startY := some (← doubleNumber flag given) }
  | .heading => return { settings with heading := ← doubleNumber flag given }
  | .maxRepeat =>
      let limit ← givenWhole flag given
      return { settings with maxRepeat := limit.elim .blank .atMost }
  | .maxCallDepth => return { settings with maxCallDepth := ← givenWhole flag given }
  | .debug => return { settings with debug := true }

/-- The reading of a command line keeps the settings so far, whether the script has been given,
and the arguments that nothing takes, last first. -/
structure Reading where
  settings : Settings
  scriptGiven : Bool
  extras : List String

def Reading.addExtra (reading : Reading) (text : String) : Reading :=
  { reading with extras := text :: reading.extras }

/-- The steps are taken in order, and the help text and the version end the reading. -/
def takeSteps (reading : Reading) : List Step → Except Request Reading
  | [] => .ok reading
  | ⟨.help, _⟩ :: _ => .error .help
  | ⟨.version, _⟩ :: _ => .error .version
  | step :: rest =>
      match reading.settings.apply step with
      | .ok settings => takeSteps { reading with settings := settings } rest
      | .error error => .error (.refused error)

/-- A flag that awaits its value is refused before the flags joined to it take effect. -/
def takeOption (reading : Reading) (steps : Steps) (value : Option String) :
    Except Request Reading :=
  match steps.awaiting, value with
  | none, _ => takeSteps reading steps.complete
  | some flag, some text => takeSteps reading (steps.complete ++ [⟨flag, .value text⟩])
  | some flag, none => .error (.refused (expectedValue flag))

/-- Arguments are taken from left to right. The first plain argument is the script, together with a
divider next to it. -/
def takeAll (reading : Reading) : List Argument → Except Request Reading
  | [] => .ok reading
  | .plain text :: rest =>
      if reading.scriptGiven then takeAll (reading.addExtra text) rest
      else
        let reading :=
          { reading with
            settings := { reading.settings with script := some text }
            scriptGiven := true }
        match rest with
        | .divider :: rest => takeAll reading rest
        | rest => takeAll reading rest
  | .divider :: rest =>
      if reading.scriptGiven then takeAll (reading.addExtra "--") rest
      else match rest with
        | .plain text :: rest =>
            takeAll
              { reading with
                settings := { reading.settings with script := some text }
                scriptGiven := true } rest
        | rest => takeAll { reading with scriptGiven := true } rest
  | .unknown text :: rest => takeAll (reading.addExtra text) rest
  | .option flag short attached :: rest =>
      match optionSteps flag short attached with
      | .error error => .error (.refused error)
      | .ok steps =>
          match steps.awaiting, rest with
          | some _, .plain text :: rest =>
              match takeOption reading steps (some text) with
              | .ok reading => takeAll reading rest
              | .error request => .error request
          | _, rest =>
              match takeOption reading steps none with
              | .ok reading => takeAll reading rest
              | .error request => .error request

/-- An ambiguous option is reported before anything else, and extra arguments last. -/
def read (arguments : List String) : Request :=
  match classifyAll arguments with
  | .error error => .refused error
  | .ok classified =>
      match takeAll ⟨{}, false, []⟩ classified with
      | .error request => request
      | .ok reading =>
          if reading.extras.isEmpty then .run reading.settings
          else .refused
            ⟨"unrecognized arguments: " ++ String.intercalate " " reading.extras.reverse⟩

end Turtle.CommandLine

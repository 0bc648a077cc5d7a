import Turtle.CommandLine.Repl

namespace Turtle.CommandLine

def pathText (names : List Bytes) : String :=
  "/" ++ String.intercalate "/" (names.map FileSystem.nameText)

def entryAt? (names : List Bytes) : IO (Option Entry) := do
  try
    let place ← IO.FS.realPath (pathText names)
    if ← place.isDir then return some .directory
    return some (.file (← IO.FS.readBinFile place).toList)
  catch _ =>
    return none

/-- Every entry on the way of the path is read. -/
def load (files : FileSystem) (path : Bytes) : IO FileSystem := do
  let mut here := files.start path
  let mut entries := files.entries
  for name in FileSystem.names path do
    here := FileSystem.descend here name
    if let some entry ← entryAt? here then
      entries := entries ++ [(here, entry)]
  return { files with entries := entries }

/-- The files that were created or changed are written. -/
def store (before after : FileSystem) : IO Unit := do
  for (names, entry) in after.entries do
    match entry, before.entries.lookup names with
    | .file bytes, some (.file old) =>
        if bytes != old then IO.FS.writeBinFile (pathText names) ⟨bytes.toArray⟩
    | .file bytes, _ => IO.FS.writeBinFile (pathText names) ⟨bytes.toArray⟩
    | .directory, _ => pure ()

def finish (before : FileSystem) (execution : Execution) : IO UInt32 := do
  store before execution.files
  IO.print execution.output
  IO.eprint execution.errorOutput
  match execution.ending with
  | .ok code => return code.toUInt32
  | .error escape =>
      IO.eprintln escape.message
      return 1

/-- A session reads one line behind each prompt. -/
partial def converse (settings : Settings) (session : Session) : IO UInt32 := do
  IO.print promptText
  (← IO.getStdout).flush
  let line ← (← IO.getStdin).getLine
  if line.isEmpty then
    IO.print farewellText
    return 0
  match takeLine settings session line.toList with
  | .prompt next output =>
      store session.files next.files
      IO.print output
      converse settings next
  | .finished => return 0
  | .escaped escape output files => finish session.files (.escape escape output files)

def openSession (settings : Settings) (files : FileSystem) : IO UInt32 := do
  IO.print bannerText
  match Session.begin settings baseFrames files with
  | .ok session => converse settings session
  | .error error => finish files (.escape (.arithmetic error) "" files)

def loadOutput (settings : Settings) (files : FileSystem) : IO FileSystem :=
  settings.output.elim (pure files) fun path =>
    match path.pathBytes with
    | .ok bytes => load files bytes
    | .error _ => pure files

def perform (arguments : List String) (files : FileSystem) : IO UInt32 := do
  match task arguments with
  | .session settings => openSession settings (← loadOutput settings files)
  | .script settings path =>
      let files ← load (← loadOutput settings files) (Text.Utf8.encode path)
      finish files (execute arguments files "")
  | .source settings _ =>
      let files ← loadOutput settings files
      finish files (execute arguments files "")
  | _ => finish files (execute arguments files "")

end Turtle.CommandLine

def main (arguments : List String) : IO UInt32 := do
  let directory ← IO.currentDir
  let start := Turtle.FileSystem.names (Turtle.Text.Utf8.encode directory.toString)
  Turtle.CommandLine.perform arguments ⟨start, [], none⟩

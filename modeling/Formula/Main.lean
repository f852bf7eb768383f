import Formula.Program

/-! The program itself: it reads the command line, the input and the lines of a session, and prints. -/
namespace Formula.Shell

/-- Why a call of the system failed. Of the two codes for a thing of the wrong type, 21 is that of a
folder; a code may come with a minus sign. -/
def faultOf : IO.Error → ReadFault
  | .noFileOrDirectory .. => .missing
  | .inappropriateType _ code _ => if code = 21 || code + 21 = 0 then .isFolder else .notFolder
  | .alreadyExists .. => .notFolder
  | error => .system (toString error)

/-- Try an action of the system. -/
def attempt {α : Type} (action : IO α) : IO (Except ReadFault α) := do
  try
    return .ok (← action)
  catch error =>
    return .error (faultOf error)

/-- Print what was said, each part where it belongs. -/
def present (transcript : Transcript) : IO Unit := do
  (← IO.getStdout).putStr transcript.out
  (← IO.getStdout).flush
  (← IO.getStderr).putStr transcript.err

/-- All that is left on a stream. -/
partial def readAll (stream : IO.FS.Stream) (bytes : ByteArray) : IO (List UInt8) := do
  let more ← stream.read 65536
  if more.isEmpty then return bytes.toList else readAll stream (bytes ++ more)

/-- The next line of a stream with its line feed, or nothing at the end. -/
partial def readLine (stream : IO.FS.Stream) (line : List UInt8) : IO (List UInt8) := do
  match (← stream.read 1).toList with
  | [] => return line.reverse
  | byte :: _ =>
    if byte = 10 then return (byte :: line).reverse else readLine stream (byte :: line)

/-- What a computation prints is presented as soon as the computation is done. -/
instance : MonadLift Console IO where
  monadLift action := do
    let (value,transcript) := action.run .empty
    present transcript
    return value

/-- Standard input, line by line. The lines that are not blank are kept, the last one first. -/
structure Keyboard where
  kept : IO.Ref (List String)

namespace Keyboard

/-- What comes of asking for the next line, if there is one. -/
def next? (keyboard : Keyboard) : IO (Option (Except ReadFault String)) := do
  let bytes ← attempt do readLine (← IO.getStdin) []
  if bytes.toOption.any List.isEmpty then
    return none
  let line := bytes >>= readText
  if let .ok text := line then
    unless text.toList.all isSpace do
      keyboard.kept.modify (text :: ·)
  return some line

/-- Go through the lines until they or the action have come to an end. -/
partial def forIn {β : Type} (keyboard : Keyboard) (state : β)
    (act : Except ReadFault String → β → IO (ForInStep β)) : IO β := do
  match ← keyboard.next? with
  | none => return state
  | some line =>
    match ← act line state with
    | .yield state => keyboard.forIn state act
    | .done state => return state

instance : ForIn IO Keyboard (Except ReadFault String) := ⟨Keyboard.forIn⟩

end Keyboard

/-- The folder of the program's own files, if the user has one. -/
def ownFolder : IO (Option String) := do
  match ← IO.getEnv "XDG_CONFIG_HOME", ← IO.getEnv "HOME" with
  | some folder, _ => return some (folder ++ "/parsegate/repl")
  | none, some home => return some (home ++ "/.config/parsegate/repl")
  | none, none => return none

def saveHistory (history : List String) : IO Unit := do
  match ← ownFolder with
  | none => return ()
  | some folder =>
    IO.FS.createDirAll folder
    IO.FS.writeFile (folder ++ "/history.txt") (String.join history.reverse)

/-- The system as a host. -/
def host : IO (Host IO Keyboard) := do
  let kept ← IO.mkRef []
  return {
    content := fun input => attempt <| if Program.isStandardInput input
      then do readAll (← IO.getStdin) .empty
      else return (← IO.FS.readBinFile input).toList
    lines := ⟨kept⟩
    saveHistory := attempt do saveHistory (← kept.get) }

def helpText : String :=
  "usage: parsegate [--no-color] [--debug] [--max-depth <levels>] (parse <input> | repl)\n"

/-- Answer a command line that names no task. -/
def explain : Usage → IO Unit
  | .displayHelp => IO.print helpText
  | .displayVersion => IO.println Session.versionLine
  | usage => IO.eprint ("error: " ++ usage.kind ++ "\n" ++ helpText)

end Formula.Shell

open Formula in
def main (args : List String) : IO UInt32 := do
  match CommandLine.read args with
  | .error usage =>
    Shell.explain usage
    return UInt32.ofNat usage.exitCode
  | .ok options => return UInt32.ofNat (← (← Shell.host).exit options)

import Formula.CommandLine.Basic
import Formula.CommandLine.Similarity
import Formula.Text.Digits

/-! Reading a command line from left to right. Options stand in front of the task. A word that cannot be
understood is refused where it stands; the values of the options are looked at when all is read. -/
namespace Formula.CommandLine

/-- The options that the program knows. -/
inductive Flag where
  | noColor | debug | maxDepth | help | version
  deriving DecidableEq, Repr

def Flag.ofName? : String → Option Flag
  | "no-color" => some .noColor
  | "debug" => some .debug
  | "max-depth" => some .maxDepth
  | "help" => some .help
  | "version" => some .version
  | _ => none

/-- The shapes a word can have. -/
inductive Word where
  /-- `--` alone: no options follow. -/
  | escape
  /-- `--name` or `--name=value`. -/
  | long (name : String) (value : Option String)
  /-- `-x`, with anything behind the letter. -/
  | short (letter : Char)
  /-- Every other word. A dash alone is one. -/
  | plain (text : String)
  deriving DecidableEq, Repr

/-- A text in front of its first equals sign and, if there is one, behind it. -/
def splitValue (text : List Char) : String × Option String :=
  (String.ofList (text.takeWhile (· ≠ '=')),
    match text.dropWhile (· ≠ '=') with
    | [] => none
    | _ :: value => some (String.ofList value))

def Word.ofText (text : String) : Word :=
  match text.toList with
  | ['-', '-'] => .escape
  | '-' :: '-' :: name => let (name,value) := splitValue name; .long name value
  | '-' :: letter :: _ => .short letter
  | _ => .plain text

/-- The options read so far. -/
structure Given where
  /-- The options, each as often as it was given, in order. -/
  flags : List Flag
  /-- The values for the depth, in order. -/
  depths : List String
  /-- The last option is still without its value. -/
  pending : Bool
  deriving DecidableEq, Repr

namespace Given

def none : Given := ⟨[],[],false⟩

def add (given : Given) (flag : Flag) (pending : Bool) : Given :=
  { given with flags := given.flags ++ [flag], pending := pending }

def addDepth (given : Given) (value : String) : Given :=
  { given with depths := given.depths ++ [value], pending := false }

end Given

/-- A number of levels: digits, maybe behind a plus sign, for a number below `2 ^ 64`. -/
def depthOf? (text : String) : Option Nat :=
  let digits := match text.toList with
    | '+' :: digits => digits
    | digits => digits
  if digits.isEmpty || !digits.all Char.isDigit then none
  else
    if digitsValue digits < 18446744073709551616 then some (digitsValue digits) else none

/-- The words that name a task, or ask for help on one. -/
def taskNames : List String := ["parse", "repl", "help"]

/-- What is wrong with a word that should name a task. -/
def strangeWord (word : String) : Usage :=
  if taskNames.any fun name => Similarity.close word.toList name.toList then .misspeltTask
  else .unknownWord

/-- Behind `help` there may be the name of one task. -/
def readTopics : List String → Usage
  | [] => .displayHelp
  | topic :: more =>
    if taskNames.contains topic && more.isEmpty then .displayHelp else .unknownTopic

/-- An option of a task: there is none but the one for help. -/
def taskOption : Word → Option Usage
  | .long "help" value => some (if value.isSome then .tooManyValues else .displayHelp)
  | .long _ _ => some .unknownWord
  | .short letter => some (if letter = 'h' then .displayHelp else .unknownWord)
  | _ => none

/-- The inputs of a task, at most `room` of them; behind `--` every word is one. -/
def readInputs : (room : Nat) → (escaped : Bool) → List String → Except Usage (List String)
  | _, _, [] => .ok []
  | room, escaped, text :: rest =>
    let word := if escaped then .plain text else Word.ofText text
    match taskOption word, word, room with
    | some usage, _, _ => .error usage
    | none, .escape, _ => readInputs room true rest
    | none, _, 0 => .error .unknownWord
    | none, _, room + 1 => do
      let more ← readInputs room escaped rest
      return text :: more

/-- A task and its words. -/
def readTask (name : String) (rest : List String) : Except Usage Task :=
  if name = "help" then .error (readTopics rest)
  else if name = "parse" then do
    match ← readInputs 1 false rest with
    | input :: _ => return .parse input
    | [] => throw .missingInput
  else do
    let _ ← readInputs 0 false rest
    return .repl

/-- An option in front of the task. -/
def readOption (given : Given) : Word → Except Usage Given
  | .long name value =>
    match Flag.ofName? name, value with
    | none, _ => .error .unknownWord
    | some .maxDepth, none => .ok (given.add .maxDepth true)
    | some .maxDepth, some text => .ok ((given.add .maxDepth false).addDepth text)
    | some _, some _ => .error .tooManyValues
    | some .help, none => .error .displayHelp
    | some .version, none => .error .displayVersion
    | some flag, none => .ok (given.add flag false)
  | .short letter =>
    .error (if letter = 'h' then .displayHelp else if letter = 'V' then .displayVersion
      else .unknownWord)
  | _ => .ok given

/-- Read all words: the options, and the task if there is one. -/
def readWords (given : Given) (escaped : Bool) : List String → Except Usage (Given × Option Task)
  | [] => .ok (given,.none)
  | text :: rest =>
    if escaped then
      .error (if taskNames.contains text then .unknownWord else strangeWord text)
    else match Word.ofText text with
      | .escape => readWords given true rest
      | .plain text =>
        if given.pending then readWords (given.addDepth text) false rest
        else if taskNames.contains text then do
          let task ← readTask text rest
          return (given,some task)
        else .error (strangeWord text)
      | word => do
        let given ← readOption given word
        readWords given false rest

/-- What is wrong with the values of an option, or with how often it was given. -/
def Given.check (given : Given) (flag : Flag) : Except Usage Unit := do
  if flag = .maxDepth && given.depths.isEmpty then throw .emptyValue
  if flag = .maxDepth && given.depths.any fun text => (depthOf? text).isNone then throw .badValue
  if 1 < given.flags.count flag then throw .repeatedOption

/-- The options and the task of a command line, given without the name of the program. -/
def read (args : List String) : Except Usage Options := do
  let (given,task) ← readWords .none false args
  if given.pending && given.depths.isEmpty then throw .emptyValue
  match task with
  | none => throw .missingTask
  | some task =>
    given.flags.forM given.check
    return {
      noColor := given.flags.contains .noColor
      debug := given.flags.contains .debug
      maxDepth := (given.depths.head?.bind depthOf?).getD Limit.standardLevels
      task := task }

end Formula.CommandLine

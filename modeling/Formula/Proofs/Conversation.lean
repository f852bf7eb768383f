import Formula.Proofs.Lines
import Formula.Proofs.Halting
import Formula.Proofs.Transcripts

/-! What a session says: to each line what this line asks for, under the settings that the lines before it
have left, up to the line that ends it. -/
namespace Formula.Session
open Console

/-- The line has no word. -/
def isWhite (line : String) : Bool := line.toList.all isSpace

/-- What a line asks for, if its first word starts with a colon. -/
def command? (line : String) : Option (Except CommandError Command) :=
  if Command.isCommand (words line) then some (Command.ofWords (words line)) else none

def quits (line : String) : Bool := words line = [":quit"] || words line = [":q"]

/-- The setting that a line switches on or off, if it does. -/
def switch? (line : String) : Option (Setting × Bool) :=
  match words line with
  | [":set", word] => match Command.ofSwitch word with
    | .ok (.set setting enabled) => some (setting,enabled)
    | _ => none
  | _ => none

/-- The settings that a line leaves. -/
def leaves (settings : Settings) (line : String) : Settings :=
  match switch? line with
  | some (setting,enabled) => settings.set setting enabled
  | none => settings

/-- The settings behind some lines. -/
def inForce (initial : Settings) (lines : List String) : Settings := lines.foldl leaves initial

section Lines

variable {line : String}

/-- White space in front of a text holds no word of it. -/
lemma wordsFrom_white_append {space : List Char} (h : space.all isSpace = true) (text : List Char) :
    wordsFrom [] (space ++ text) = wordsFrom [] text := by
  induction space with
  | nil => rfl
  | cons c space ih =>
    simp only [List.all_cons,Bool.and_eq_true] at h
    simp [wordsFrom,h.1,ih h.2]

lemma command?_of_isWhite (h : isWhite line = true) : command? line = none := by
  have hwords := wordsFrom_white_append h []
  rw [List.append_nil] at hwords
  simp [command?,words,hwords,wordsFrom,Command.isCommand]

lemma isWhite_of_command? {asked : Except CommandError Command} (h : command? line = some asked) :
    isWhite line = false := by
  by_contra hw
  rw [command?_of_isWhite (eq_true_of_ne_false hw)] at h
  cases h

lemma exists_of_ofSwitch {word : String} {command : Command} (h : Command.ofSwitch word = .ok command) :
    ∃ setting enabled, command = .set setting enabled := by
  have signed (enabled : Bool) (name : List Char) (h : Command.ofSwitch.signed enabled name = .ok command) :
      ∃ setting enabled, command = .set setting enabled := by
    rw [Command.ofSwitch.signed] at h
    split at h
    · exact ⟨_,enabled,(Except.ok.inj h).symm⟩
    · cases h
  rw [Command.ofSwitch] at h
  split at h
  · exact signed true _ h
  · exact signed false _ h
  · cases h

/-- The words that end a session are those of the command for it. -/
lemma quits_iff : quits line = true ↔ command? line = some (.ok .quit) := by
  simp only [quits,command?,Bool.or_eq_true,decide_eq_true_eq]
  constructor
  · rintro (h | h)
    · simp [h,Command.isCommand,Command.ofWords]
    · simp [h,Command.isCommand,Command.ofWords]
  · intro h
    split at h
    · rw [Option.some.injEq,Command.ofWords.eq_def] at h
      split at h
      case h_2 word hword =>
        obtain ⟨setting,enabled,hset⟩ := exists_of_ofSwitch h
        cases hset
      all_goals simp_all
    · cases h

lemma switch?_eq_some_iff {setting : Setting} {enabled : Bool} :
    switch? line = some (setting,enabled) ↔ command? line = some (.ok (.set setting enabled)) := by
  constructor
  · intro h
    rw [switch?] at h
    split at h
    · next word hwords =>
      have hasked : command? line = some (Command.ofSwitch word) := by
        simp [command?,hwords,Command.isCommand,Command.ofWords]
      split at h
      · next hswitch =>
        cases h
        rw [hasked,hswitch]
      · cases h
    · cases h
  · intro h
    rw [command?] at h
    split at h
    · rw [Option.some.injEq,Command.ofWords.eq_def] at h
      split at h
      case h_2 word hwords => simp [switch?,hwords,h]
      all_goals cases h
    · cases h

end Lines

section Step

variable {limit : Limit} {settings : Settings} {line : String}

lemma dispatch_eq (settings : Settings) (line : String) :
    settings.dispatch line = match command? line with
      | none => ⟨.ok .source,"",settings⟩
      | some (.ok command) => ⟨.ok command.dispatch,command.output settings,command.apply settings⟩
      | some (.error error) => ⟨.error error,"",settings⟩ := by
  unfold Settings.dispatch command?
  split
  · split <;> simp_all
  · rfl

lemma dispatch_eq_quit_iff : (settings.dispatch line).result = .ok .quit ↔ command? line = some (.ok .quit) := by
  rw [dispatch_eq]
  cases command? line with
  | none => simp
  | some asked =>
    cases asked with
    | error error => simp
    | ok command => cases command <;> simp [Command.dispatch]

lemma command?_of_dispatch_error {error : CommandError} (h : (settings.dispatch line).result = .error error) :
    command? line = some (.error error) := by
  rw [dispatch_eq] at h
  split at h <;> simp_all

lemma command?_of_dispatch_source (h : (settings.dispatch line).result = .ok .source) : command? line = none := by
  rw [dispatch_eq] at h
  split at h
  · assumption
  · next command hc => cases command <;> simp [Command.dispatch] at h
  · cases h

/-- Only a switch changes the settings. -/
theorem settings_dispatch (settings : Settings) (line : String) :
    (settings.dispatch line).settings = leaves settings line := by
  have keeps (h : ∀ setting enabled, command? line ≠ some (.ok (.set setting enabled))) :
      leaves settings line = settings := by
    rw [leaves]
    split
    · next setting enabled hswitch => exact absurd (switch?_eq_some_iff.mp hswitch) (h setting enabled)
    · rfl
  rw [dispatch_eq]
  cases hc : command? line with
  | none => exact (keeps (by simp [hc])).symm
  | some asked =>
    cases asked with
    | error error => exact (keeps (by simp [hc])).symm
    | ok command =>
      cases command with
      | set setting enabled => simp [leaves,switch?_eq_some_iff.mpr hc,Command.apply]
      | help | settings | quit => exact (keeps (by simp [hc])).symm

lemma step_of_isWhite (h : isWhite line = true) :
    step limit settings line = saying .empty (some settings) := by
  rw [isWhite] at h
  rw [step,if_pos h,pure_eq_saying]

lemma step_of_source (hw : isWhite line = false) (hc : command? line = none) :
    step limit settings line = saying (shown limit settings sourceName line) (some settings) := by
  rw [isWhite] at hw
  rw [step,if_neg (by simp [hw]),dispatch_eq,hc]
  simp only [print_eq_saying,readAndShow_eq,pure_eq_saying,saying_bind,Transcript.append_empty]
  rw [← Transcript.empty,Transcript.empty_append]

lemma step_of_failed {error : CommandError} (hc : command? line = some (.error error)) :
    step limit settings line = saying ⟨"",error.message ++ "\n"⟩ (some settings) := by
  have hw := isWhite_of_command? hc
  rw [isWhite] at hw
  rw [step,if_neg (by simp [hw]),dispatch_eq,hc]
  simp only [print_eq_saying,complain_eq_saying,pure_eq_saying,saying_bind,Transcript.append_empty]
  rw [← Transcript.empty,Transcript.empty_append]

lemma step_of_command {command : Command} (hc : command? line = some (.ok command)) :
    step limit settings line = saying ⟨command.output settings,""⟩
      (if command = .quit then none else some (leaves settings line)) := by
  have hw := isWhite_of_command? hc
  rw [isWhite] at hw
  rw [step,if_neg (by simp [hw]),← settings_dispatch,dispatch_eq,hc]
  simp only [print_eq_saying,pure_eq_saying]
  cases command <;> simp [Command.dispatch,saying_bind]

/-- One line: it is answered, and the session goes on with the settings that it leaves unless it quits. -/
theorem step_eq (limit : Limit) (settings : Settings) (line : String) :
    step limit settings line = saying (said (step limit settings line))
      (if quits line then none else some (leaves settings line)) := by
  have goesOn (h : command? line ≠ some (.ok .quit)) : quits line = false := by
    rwa [Ne,← quits_iff,Bool.not_eq_true] at h
  have hleaves := settings_dispatch settings line
  rw [dispatch_eq] at hleaves
  cases hc : command? line with
  | none =>
    have hstep : step limit settings line = saying (said (step limit settings line)) (some settings) := by
      cases hw : isWhite line with
      | true => rw [step_of_isWhite hw,said_saying]
      | false => rw [step_of_source hw hc,said_saying]
    rw [hc] at hleaves
    rw [hstep,said_saying,goesOn (by simp [hc]),← hleaves]
    rfl
  | some asked =>
    cases asked with
    | error error =>
      rw [hc] at hleaves
      rw [step_of_failed hc,said_saying,goesOn (by simp [hc]),← hleaves]
      rfl
    | ok command =>
      rw [step_of_command hc,said_saying]
      by_cases hq : command = .quit
      · rw [if_pos hq,if_pos (quits_iff.mpr (hq ▸ hc))]
      · rw [if_neg hq,goesOn (by simp [hc,hq])]
        rfl

end Step

section Run

/-- What a session says to its lines, up to the one that ends it. -/
def responses (limit : Limit) (initial : Settings) (lines : List String) : List Transcript :=
  (lines.takeWhile (!quits ·)).mapIdx fun i line => said (step limit (inForce initial (lines.take i)) line)

/-- What is said when the lines have come to their end, and not the session. -/
def ending (lines : List String) : Transcript := if lines.any quits then .empty else ⟨farewell,""⟩

variable (limit : Limit) (initial : Settings)

/-- Carry out lines that are at hand. -/
def runLines (lines : List (Except ReadFault String)) : Console Unit := converse limit initial lines

/-- Behind a line the session goes on with the settings that it leaves, unless it has come to its end. -/
lemma runLines_cons (line : Except ReadFault String) (more : List (Except ReadFault String)) :
    runLines limit initial (line :: more) = round limit initial line >>= fun next =>
      match next with
      | some settings => runLines limit settings more
      | none => pure () := by
  simp only [runLines,converse,List.forIn_cons,bind_assoc]
  refine bind_congr ?_
  rintro (_ | settings)
  · simp
  · simp

lemma responses_cons {line : String} (h : quits line = false) (more : List String) :
    responses limit initial (line :: more) =
      said (step limit initial line) :: responses limit (leaves initial line) more := by
  simp [responses,h,inForce]

/-- The lines of a session are answered in order, each under the settings that the lines before it leave. -/
theorem runLines_eq (lines : List String) :
    runLines limit initial (lines.map .ok) =
      saying (Transcript.join (responses limit initial lines) ++ ending lines) () := by
  -- The settings stay general: every line hands those that it leaves to the lines behind it.
  induction lines generalizing initial with
  | nil => exact print_eq_saying farewell
  | cons line more ih =>
    rw [List.map_cons,runLines_cons,round,step_eq]
    cases hq : quits line with
    | true =>
      have hsilent : said (step limit initial line) = .empty := by
        rw [step_of_command (quits_iff.mp hq),said_saying]
        rfl
      refine (saying_bind_of_eq (pure_eq_saying ())).trans ?_
      simp [hsilent,responses,ending,hq]
    | false =>
      refine (saying_bind_of_eq (ih (leaves initial line))).trans ?_
      rw [responses_cons limit initial hq]
      simp [Transcript.append_assoc,ending,hq]

lemma run_eq_greeting (lines : List (Except ReadFault String)) :
    run limit initial lines = print greeting >>= fun _ => runLines limit initial lines := rfl

theorem run_eq (lines : List String) :
    run limit initial (lines.map .ok) =
      saying (⟨greeting,""⟩ ++ (Transcript.join (responses limit initial lines) ++ ending lines)) () := by
  rw [run_eq_greeting,print_eq_saying]
  exact saying_bind_of_eq (runLines_eq limit initial lines)

/-- Behind a line, a session goes on as it would from the settings that the line leaves. -/
lemma runLines_cons_congr {more more' : List (Except ReadFault String)}
    (h : ∀ settings, runLines limit settings more = runLines limit settings more') (line : String) :
    runLines limit initial (.ok line :: more) = runLines limit initial (.ok line :: more') := by
  rw [runLines_cons,runLines_cons]
  refine bind_congr ?_
  rintro (_ | next)
  · rfl
  · exact h next

/-- A session without its white lines is the same. -/
lemma runLines_filter_isWhite (lines : List String) :
    runLines limit initial (lines.map .ok) = runLines limit initial ((lines.filter (!isWhite ·)).map .ok) := by
  induction lines generalizing initial with
  | nil => rfl
  | cons line more ih =>
    cases hw : isWhite line with
    | true =>
      rw [List.map_cons,runLines_cons,round,step_of_isWhite hw,← pure_eq_saying,pure_bind,List.filter_cons_of_neg (by simp [hw])]
      exact ih initial
    | false =>
      rw [List.filter_cons_of_pos (by simp [hw]),List.map_cons,List.map_cons]
      exact runLines_cons_congr limit initial ih line

/-- What stands behind a line that quits is not read. -/
lemma runLines_quits {line : String} (hq : quits line = true) (front back : List String) :
    runLines limit initial ((front ++ line :: back).map .ok) =
      runLines limit initial ((front ++ [line]).map .ok) := by
  induction front generalizing initial with
  | nil =>
    have hquit (back : List String) :
        runLines limit initial ((line :: back).map .ok) = saying (said (step limit initial line) ++ .empty) () := by
      rw [List.map_cons,runLines_cons,round,step_eq,hq]
      exact saying_bind_of_eq (pure_eq_saying ())
    exact (hquit back).trans (hquit []).symm
  | cons first front ih =>
    rw [List.cons_append,List.cons_append,List.map_cons,List.map_cons]
    exact runLines_cons_congr limit initial ih first

end Run

/-- In a text of one line that is not white, a failure lies on the first line, and is not that the text is
empty. -/
lemma rejection_of_line {limit : Limit} {line : String} {rejection : Rejection} (hplain : '\n' ∉ line.toList)
    (hw : isWhite line = false) (h : parse limit line = .error rejection) :
    rejection.position.line = 1 ∧ rejection.cause ≠ .emptyInput := by
  have first (before rest : List Char) (hline : line.toList = before ++ rest) :
      (Position.first.past before).line = 1 := by
    have hbefore : '\n' ∉ before := fun hc => hplain (by simp [hline,hc])
    rw [Row.past_chars ⟨before,hbefore⟩]
    rfl
  rcases Grammar.parseText_error_cases h with ⟨hblank,-⟩ | ⟨-,rfl⟩ | ⟨before,c,rest,deep,hline,-,rfl⟩
  · have hwhite : isWhite line = true := by
      rw [isWhite,List.all_eq_true]
      intro c hc
      exact isSpace_of_isBlank (List.all_eq_true.mp hblank c hc)
    rw [hwhite] at hw
    cases hw
  · exact ⟨first line.toList [] (by simp),by simp⟩
  · exact ⟨first before (c :: rest) hline,by cases deep <;> simp⟩

/-- A session answers its lines in order, each under the initial settings as the switches before it have
changed them, and stops where a line is dispatched as its end. White lines might as well be missing, and
so might all lines behind the end. A command that fails is answered with its message and leaves the
settings alone. A line that is no command is answered as if it were the content of a file: with its tree,
or with one diagnostic, which is about something on the first line. -/
theorem run_answers_lines (limit : Limit) (initial : Settings) (lines : List String)
    (hplain : ∀ line ∈ lines, '\n' ∉ line.toList) :
    said (run limit initial (lines.map .ok)) =
      ⟨greeting,""⟩ ++ (Transcript.join (responses limit initial lines) ++ ending lines) ∧
    run limit initial (lines.map .ok) = run limit initial ((lines.filter (!isWhite ·)).map .ok) ∧
    (∀ front line back, lines = front ++ line :: back → quits line = true →
      run limit initial (lines.map .ok) = run limit initial ((front ++ [line]).map .ok)) ∧
    ∀ line ∈ lines, ∀ settings : Settings,
      (quits line = true ↔ (settings.dispatch line).result = .ok .quit) ∧
      (settings.dispatch line).settings = leaves settings line ∧
      (∀ error, (settings.dispatch line).result = .error error →
        said (step limit settings line) = ⟨"",error.message ++ "\n"⟩ ∧ leaves settings line = settings) ∧
      (isWhite line = false → (settings.dispatch line).result = .ok .source →
        (∀ around : Surroundings, around.read sourceName = .ok (bytesOf line) →
          said (step limit settings line) = said (Program.parse around limit settings sourceName)) ∧
        ((∃ tree, parse limit line = .ok tree ∧
            said (step limit settings line) =
              ⟨(if settings.isEnabled .debug then tree.outline else tree.compact) ++ "\n",""⟩) ∨
          ∃ rejection, parse limit line = .error rejection ∧
            said (step limit settings line) =
              ⟨"",Source.render ⟨sourceName,line⟩ (settings.isEnabled .color) rejection.failure⟩ ∧
            rejection.position.line = 1 ∧ rejection.cause ≠ .emptyInput)) := by
  refine ⟨?_,?_,?_,?_⟩
  · rw [run_eq,said_saying]
  · rw [run_eq_greeting,runLines_filter_isWhite,run_eq_greeting]
  · rintro front line back rfl hq
    rw [run_eq_greeting,runLines_quits limit initial hq,run_eq_greeting]
  intro line hline settings
  refine ⟨quits_iff.trans dispatch_eq_quit_iff.symm,settings_dispatch settings line,?_,?_⟩
  · intro error herror
    have hc := command?_of_dispatch_error herror
    refine ⟨by rw [step_of_failed hc,said_saying],?_⟩
    rw [← settings_dispatch,dispatch_eq,hc]
  · intro hw hsource
    have hc := command?_of_dispatch_source hsource
    rw [step_of_source hw hc,said_saying]
    constructor
    · intro around hfile
      have hcontent : Program.content around sourceName = .ok (bytesOf line) := hfile
      rw [Program.parse_of_text hcontent,said_saying]
      rfl
    · cases hparse : parse limit line with
      | ok tree => exact Or.inl ⟨tree,rfl,by simp [shown,hparse,Expr.present]⟩
      | error rejection =>
        exact Or.inr ⟨rejection,rfl,by simp [shown,hparse],rejection_of_line (hplain line hline) hw hparse⟩

/-- A failure without color behind a switch, an expression, and a line behind the end. -/
theorem run_answers_lines_until_quit :
    said (run .standard .standard ([":set -Color","1 +"," ","1*x",":q","2"].map .ok)) =
      ⟨"parsegate 0.1.0 (type :help for commands)\n\n(* 1 x)\n",
        "error[E001]: unexpected end of input\n  ┌─ repl:1:4\n  │\n1 │ 1 +\n  │    ^ line 1, column 4\n\n"⟩ := by
  have hplain : ∀ line ∈ [":set -Color","1 +"," ","1*x",":q","2"], '\n' ∉ line.toList := by decide
  obtain ⟨hsaid,-,-,hlines⟩ := run_answers_lines .standard .standard _ hplain
  have hset : said (step .standard .standard ":set -Color") = .empty := by
    rw [step_of_command (show command? ":set -Color" = some (.ok (.set .color false)) by decide),said_saying]
    rfl
  have hspace (settings : Settings) : said (step .standard settings " ") = .empty := by
    rw [step_of_isWhite (by decide),said_saying]
  have hfailure : said (step .standard ⟨some false,some false⟩ "1 +") =
      ⟨"",Source.render ⟨"repl","1 +"⟩ false (Rejection.failure ⟨.endOfInput,⟨1,4⟩⟩)⟩ := by
    have hend : parse .standard "1 +" = .error ⟨.endOfInput,⟨1,4⟩⟩ := by decide +kernel
    obtain ⟨-,-,-,hsource⟩ := hlines "1 +" (by simp) ⟨some false,some false⟩
    obtain ⟨-,⟨tree,htree,-⟩ | ⟨rejection,hrejection,hanswer,-⟩⟩ := hsource (by decide) rfl
    · rw [hend] at htree
      cases htree
    · rw [hend] at hrejection
      cases hrejection
      exact hanswer
  have htree : said (step .standard ⟨some false,some false⟩ "1*x") = ⟨"(* 1 x)\n",""⟩ := by
    have hparse : parse .standard "1*x" = .ok (.binary .mul (.number (.ofDigits ['1'] []) ⟨1,1⟩)
        (.identifier "x" ⟨1,3⟩) ⟨1,1⟩) := by decide +kernel
    obtain ⟨-,-,-,hsource⟩ := hlines "1*x" (by simp) ⟨some false,some false⟩
    obtain ⟨-,⟨tree,htree,hanswer⟩ | ⟨rejection,hrejection,-⟩⟩ := hsource (by decide) rfl
    · rw [hparse] at htree
      cases htree
      exact hanswer.trans (congrArg (Transcript.mk · "") (by decide +kernel))
    · rw [hparse] at hrejection
      cases hrejection
  have hanswered : [":set -Color","1 +"," ","1*x",":q","2"].takeWhile (!quits ·) =
      [":set -Color","1 +"," ","1*x"] := by decide
  have hending : ending [":set -Color","1 +"," ","1*x",":q","2"] = .empty := by decide
  have hcolor : inForce .standard [":set -Color"] = ⟨some false,some false⟩ := by decide
  have hcolor' : inForce .standard [":set -Color","1 +"," "] = ⟨some false,some false⟩ := by decide
  rw [hsaid,hending,Transcript.append_empty,responses,hanswered]
  simp only [List.mapIdx_cons,List.mapIdx_nil,List.take_zero,List.take_succ_cons,hcolor,hcolor',hspace,hfailure,
    htree,show inForce .standard [] = .standard from rfl,hset,Transcript.join_cons,Transcript.join_nil,
    Transcript.empty_append,Transcript.append_empty]
  exact Transcript.ext (by decide +kernel) (by decide +kernel)

end Formula.Session

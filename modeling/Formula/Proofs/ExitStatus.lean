import Formula.Proofs.Halting
import Formula.Proofs.Locus
import Formula.Proofs.Transcripts

/-! How reading one input ends: with a tree, with a diagnostic, or with a complaint about the input. The
exit code tells which, for every content of the input. -/
namespace Formula.Program
open Grammar Console

/-- The text is an expression, and nests no deeper than so many levels. -/
def IsExpression (levels : Nat) (text : String) : Prop :=
  ∃ sentence : Sentence, sentence.text = text.toList ∧ sentence.nesting ≤ levels

lemma parse_of_sentence {limit : Limit} {text : String} {sentence : Sentence} (ht : sentence.text = text.toList)
    (hn : sentence.nesting ≤ limit.levels) : Formula.parse limit text = .ok (sentence.body.tree .first) := by
  rw [Formula.parse,← ht]
  exact parseText_of_sentence sentence hn

lemma exists_rejection (limit : Limit) {text : String} (h : ¬IsExpression limit.levels text) :
    ∃ rejection, Formula.parse limit text = .error rejection := by
  rcases parseText_cases limit text.toList with
    ⟨sentence,ht,hn,-⟩ | ⟨-,herr⟩ | ⟨before,rest,deep,-,-,-,herr⟩
  · exact absurd ⟨sentence,ht.symm,hn⟩ h
  · exact ⟨_,herr⟩
  · exact ⟨_,herr⟩

section Exit

variable {around : Surroundings} {noColor debug : Bool} {maxDepth : Nat} {input : String}

/-- The outcome of the task decides on the exit code, and on what is said last. -/
lemma exit_of_saying {text : Transcript} {answer : Except ProgramError Bool}
    (h : parse around (.ofRequest maxDepth) ⟨some !noColor,some debug⟩ input = saying text answer) :
    exit around ⟨noColor,debug,maxDepth,.parse input⟩ =
      (text ++ ⟨"",(conclude answer).1⟩,(conclude answer).2) := by
  have hexit : (host around).exit ⟨noColor,debug,maxDepth,.parse input⟩ =
      saying (text ++ ⟨"",(conclude answer).1⟩) (conclude answer).2 := by
    have hexecute : (host around).execute ⟨noColor,debug,maxDepth,.parse input⟩ = saying text answer := h
    rw [Host.exit,hexecute]
    refine saying_bind_of_eq ?_
    generalize conclude answer = last
    obtain ⟨complaint,code⟩ := last
    change complain complaint >>= (fun _ => pure code) = saying ⟨"",complaint⟩ code
    rw [complain_eq_saying,pure_eq_saying,saying_bind,Transcript.append_empty]
  rw [exit,hexit]
  exact Prod.ext (Transcript.empty_append _) rfl

lemma exit_of_text {text : String} (h : content around input = .ok (bytesOf text)) :
    exit around ⟨noColor,debug,maxDepth,.parse input⟩ =
      (shown (.ofRequest maxDepth) ⟨some !noColor,some debug⟩ (sourceName input) text,
        if (Formula.parse (.ofRequest maxDepth) text).toBool then 0 else 1) := by
  rw [exit_of_saying (parse_of_text h)]
  cases (Formula.parse (.ofRequest maxDepth) text).toBool with
  | true => exact Prod.ext (Transcript.append_empty _) rfl
  | false => exact Prod.ext (Transcript.append_empty _) rfl

/-- Behind an input that holds an expression, its tree has been printed, and the exit code is zero. -/
lemma exit_of_sentence {text : String} (h : content around input = .ok (bytesOf text)) {sentence : Sentence}
    (ht : sentence.text = text.toList) (hn : sentence.nesting ≤ min maxDepth 128) :
    exit around ⟨noColor,debug,maxDepth,.parse input⟩ =
      (⟨(if debug then (sentence.body.tree .first).outline else (sentence.body.tree .first).compact) ++ "\n",""⟩,0) := by
  have hparse : Formula.parse (.ofRequest maxDepth) text = .ok (sentence.body.tree .first) :=
    parse_of_sentence ht hn
  rw [exit_of_text h,shown,hparse]
  rfl

lemma exit_of_rejection {text : String} (h : content around input = .ok (bytesOf text)) {rejection : Rejection}
    (hr : Formula.parse (.ofRequest maxDepth) text = .error rejection) :
    exit around ⟨noColor,debug,maxDepth,.parse input⟩ =
      (⟨"",Source.render ⟨sourceName input,text⟩ (!noColor) rejection.failure⟩,1) := by
  rw [exit_of_text h,shown,hr]
  rfl

lemma exit_of_fault {fault : ReadFault} (h : content around input >>= readText = .error fault) :
    exit around ⟨noColor,debug,maxDepth,.parse input⟩ =
      (⟨"","Error: failed to read " ++ inputName input ++ ": " ++ fault.message ++ "\n"⟩,2) := by
  have hjoin (name reason : String) : "Error: " ++ ("failed to read " ++ name ++ ": " ++ reason) ++ "\n" =
      "Error: " ++ "failed to read " ++ name ++ ": " ++ reason ++ "\n" := by
    simp only [String.append_assoc]
  rw [exit_of_saying (parse_of_fault h),Transcript.empty_append]
  exact Prod.ext (Transcript.ext rfl (hjoin (inputName input) fault.message)) rfl

end Exit

/-- An input without a text cannot be read, or its bytes are none. -/
lemma exists_fault {around : Surroundings} {input : String} (h : ∀ text, content around input ≠ .ok (bytesOf text)) :
    ∃ fault, content around input >>= readText = .error fault ∧ (content around input = .error fault ∨
      fault = .notText ∧ ∃ bytes, content around input = .ok bytes) := by
  cases hcontent : content around input with
  | error fault => exact ⟨fault,rfl,Or.inl rfl⟩
  | ok bytes =>
    refine ⟨.notText,?_,Or.inr ⟨rfl,bytes,rfl⟩⟩
    cases htext : textOf? bytes with
    | none => simp [Except.bind,bind,readText,htext]
    | some text =>
      have hread : readText bytes = .ok text := by rw [readText,htext]
      rw [readText_eq_ok_iff.mp hread] at hcontent
      exact absurd hcontent (h text)

/-- Of three cases, each with an exit code of its own, one is at hand: the code tells which. -/
lemma code_iff (code : Nat) {a b c : Prop} (h : a ∨ b ∨ c) (ha : a → code = 0) (hb : b → code = 1)
    (hc : c → code = 2) : (code = 0 ↔ a) ∧ (code = 1 ↔ b) ∧ (code = 2 ↔ c) := by
  refine ⟨⟨?_,ha⟩,⟨?_,hb⟩,⟨?_,hc⟩⟩
  all_goals
    rintro rfl
    rcases h with h | h | h
  · exact h
  · cases hb h
  · cases hc h
  · cases ha h
  · exact h
  · cases hc h
  · cases ha h
  · cases hb h
  · exact h

/-- Reading one input ends in one of three ways. The exit code is zero for an expression that keeps to the
limit, with its tree on standard output; it is one for any other text, with one diagnostic on standard
error, which begins with the message under the name of the input and ends with the position; and it is two
where there is no text, with a complaint about that. -/
theorem exit_of_parse (around : Surroundings) (noColor debug : Bool) (maxDepth : Nat) (input : String) :
    ((exit around ⟨noColor,debug,maxDepth,.parse input⟩).2 = 0 ↔
      ∃ text, content around input = .ok (bytesOf text) ∧ IsExpression (min maxDepth 128) text) ∧
    ((exit around ⟨noColor,debug,maxDepth,.parse input⟩).2 = 1 ↔
      ∃ text, content around input = .ok (bytesOf text) ∧ ¬IsExpression (min maxDepth 128) text) ∧
    ((exit around ⟨noColor,debug,maxDepth,.parse input⟩).2 = 2 ↔
      ∀ text, content around input ≠ .ok (bytesOf text)) ∧
    (∀ text, content around input = .ok (bytesOf text) →
      (∀ sentence : Sentence, sentence.text = text.toList → sentence.nesting ≤ min maxDepth 128 →
        (exit around ⟨noColor,debug,maxDepth,.parse input⟩).1 =
          ⟨(if debug then (sentence.body.tree .first).outline else (sentence.body.tree .first).compact) ++ "\n",
            ""⟩) ∧
      (¬IsExpression (min maxDepth 128) text →
        ∃ (rejection : Rejection) (place : Position) (body : String),
          Formula.parse (.ofRequest maxDepth) text = .error rejection ∧
          (exit around ⟨noColor,debug,maxDepth,.parse input⟩).1 =
            ⟨"",Source.render ⟨if input = "-" then "<stdin>" else input,text⟩ (!noColor) rejection.failure⟩ ∧
          (exit around ⟨noColor,debug,maxDepth,.parse input⟩).1.err =
            Diagnostic.opening (!noColor) (if input = "-" then "<stdin>" else input) rejection.cause.message place ++
              (body ++ Diagnostic.closing (!noColor) rejection.position) ∧
          place.line = rejection.position.line ∧ place.column ≤ rejection.position.column ∧
          (text.toList.getLast? ≠ some '\r' → place = rejection.position))) ∧
    ((∀ text, content around input ≠ .ok (bytesOf text)) →
      ∃ cause, (content around input = .error cause ∨ cause = .notText ∧ ∃ bytes, content around input = .ok bytes) ∧
        (exit around ⟨noColor,debug,maxDepth,.parse input⟩).1 =
          ⟨"","Error: failed to read " ++ (if input = "-" then "stdin" else input) ++ ": " ++ cause.message ++ "\n"⟩) := by
  have hall : (∃ text, content around input = .ok (bytesOf text) ∧ IsExpression (min maxDepth 128) text) ∨
      (∃ text, content around input = .ok (bytesOf text) ∧ ¬IsExpression (min maxDepth 128) text) ∨
      ∀ text, content around input ≠ .ok (bytesOf text) := by
    by_cases hlegible : ∃ text, content around input = .ok (bytesOf text)
    · obtain ⟨text,htext⟩ := hlegible
      by_cases hexpression : IsExpression (min maxDepth 128) text
      · exact Or.inl ⟨text,htext,hexpression⟩
      · exact Or.inr (Or.inl ⟨text,htext,hexpression⟩)
    · exact Or.inr (Or.inr (not_exists.mp hlegible))
  have hcode := code_iff (exit around ⟨noColor,debug,maxDepth,.parse input⟩).2 hall ?_ ?_ ?_
  refine ⟨hcode.1,hcode.2.1,hcode.2.2,?_,?_⟩
  · intro text htext
    constructor
    · intro sentence ht hn
      rw [exit_of_sentence htext ht hn]
    · intro hnone
      obtain ⟨rejection,hr⟩ := exists_rejection (.ofRequest maxDepth) hnone
      have hname : sourceName input = if input = "-" then "<stdin>" else input := by
        simp [sourceName,isStandardInput]
      let source : Source := ⟨if input = "-" then "<stdin>" else input,text⟩
      obtain ⟨place,body,hrender,hplace⟩ := source.render_of_rejected hr (!noColor)
      rw [exit_of_rejection htext hr,hname]
      exact ⟨rejection,place,body,hr,rfl,hrender,hplace⟩
  · intro h
    obtain ⟨fault,hfault,hcause⟩ := exists_fault h
    refine ⟨fault,hcause,?_⟩
    rw [exit_of_fault hfault]
    simp [inputName,isStandardInput]
  · rintro ⟨text,htext,sentence,ht,hn⟩
    rw [exit_of_sentence htext ht hn]
  · rintro ⟨text,htext,hnone⟩
    obtain ⟨rejection,hr⟩ := exists_rejection (.ofRequest maxDepth) hnone
    rw [exit_of_rejection htext hr]
  · intro h
    obtain ⟨fault,hfault,-⟩ := exists_fault h
    rw [exit_of_fault hfault]

/-- A number on standard input, as a tree and as an outline, an open parenthesis there, and a file that does
not exist. -/
theorem exit_of_parse_standard_input :
    exit ⟨.ok (bytesOf "1"),fun _ => .error .missing,.ok ()⟩ ⟨true,false,64,.parse "-"⟩ = (⟨"1\n",""⟩,0) ∧
    exit ⟨.ok (bytesOf "1"),fun _ => .error .missing,.ok ()⟩ ⟨true,true,64,.parse "-"⟩ =
      (⟨"Number(\n    1.0,\n    Position \x7b\n        line: 1,\n        column: 1,\n    \x7d,\n)\n",""⟩,0) ∧
    exit ⟨.ok (bytesOf "("),fun _ => .error .missing,.ok ()⟩ ⟨true,false,64,.parse "-"⟩ =
      (⟨"","error[E001]: unexpected end of input\n  ┌─ <stdin>:1:2\n  │\n1 │ (\n  │  ^ line 1, column 2\n\n"⟩,1) ∧
    exit ⟨.ok [],fun _ => .error .missing,.ok ()⟩ ⟨true,false,64,.parse "file"⟩ =
      (⟨"","Error: failed to read file: No such file or directory (os error 2)\n"⟩,2) := by
  have hone : (Sentence.mk (.single (.single (.number .none .one))) .none).text = "1".toList := rfl
  have hnumber (debug : Bool) {shown : String}
      (hshown : (if debug then (Expr.number (.ofDigits ['1'] []) ⟨1,1⟩).outline
        else (Expr.number (.ofDigits ['1'] []) ⟨1,1⟩).compact) ++ "\n" = shown) :
      exit ⟨.ok (bytesOf "1"),fun _ => .error .missing,.ok ()⟩ ⟨true,debug,64,.parse "-"⟩ = (⟨shown,""⟩,0) := by
    have h := exit_of_parse ⟨.ok (bytesOf "1"),fun _ => .error .missing,.ok ()⟩ true debug 64 "-"
    have htree := (h.2.2.2.1 "1" rfl).1 _ hone (by decide)
    exact Prod.ext (htree.trans (congrArg (Transcript.mk · "") hshown)) (h.1.mpr ⟨"1",rfl,_,hone,by decide⟩)
  refine ⟨hnumber false (by decide +kernel),hnumber true (by decide +kernel),?_,?_⟩
  · have hopen : Formula.parse (.ofRequest 64) "(" = .error ⟨.endOfInput,⟨1,2⟩⟩ := by decide +kernel
    have hnone : ¬IsExpression (min 64 128) "(" := by
      rintro ⟨sentence,ht,hn⟩
      rw [parse_of_sentence ht hn] at hopen
      cases hopen
    have h := exit_of_parse ⟨.ok (bytesOf "("),fun _ => .error .missing,.ok ()⟩ true false 64 "-"
    obtain ⟨rejection,place,body,hr,htranscript,-⟩ := (h.2.2.2.1 "(" rfl).2 hnone
    obtain rfl : (⟨.endOfInput,⟨1,2⟩⟩ : Rejection) = rejection := Except.error.inj (hopen.symm.trans hr)
    refine Prod.ext (htranscript.trans ?_) (h.2.1.mpr ⟨"(",rfl,hnone⟩)
    exact congrArg (Transcript.mk "") (by decide +kernel)
  · have h := exit_of_parse ⟨.ok [],fun _ => .error .missing,.ok ()⟩ true false 64 "file"
    have hmissing : ∀ text, content ⟨.ok [],fun _ => .error .missing,.ok ()⟩ "file" ≠ .ok (bytesOf text) := by
      intro text htext
      cases htext
    obtain ⟨cause,hcause | ⟨-,bytes,hbytes⟩,htranscript⟩ := h.2.2.2.2 hmissing
    · cases hcause
      exact Prod.ext htranscript (h.2.2.1.mpr hmissing)
    · cases hbytes

end Formula.Program

import Mathlib.Tactic.Common
import Formula.Program

/-! What is printed. Actions that only print put some text behind the transcript they find and answer with
a value; one after the other, they do the same. -/
namespace Formula

attribute [ext] Transcript

namespace Transcript

variable (a b c : Transcript)

@[simp] theorem out_append : (a ++ b).out = a.out ++ b.out := rfl
@[simp] theorem err_append : (a ++ b).err = a.err ++ b.err := rfl

@[simp] theorem empty_append : empty ++ a = a := by ext1 <;> simp [empty]

@[simp] theorem append_empty : a ++ empty = a := by ext1 <;> simp [empty]

theorem append_assoc : a ++ b ++ c = a ++ (b ++ c) := by ext1 <;> simp [String.append_assoc]

/-- Transcripts one behind the other. -/
def join (transcripts : List Transcript) : Transcript := transcripts.foldr (· ++ ·) empty

@[simp] theorem join_nil : join [] = empty := rfl

@[simp] theorem join_cons (transcripts : List Transcript) : join (a :: transcripts) = a ++ join transcripts :=
  rfl

end Transcript

namespace Console

variable {α β : Type}

/-- Print a text and answer with a value. -/
def saying (text : Transcript) (value : α) : Console α := fun transcript => (value,transcript ++ text)

/-- What an action prints. -/
def said (action : Console α) : Transcript := (action.run .empty).2

@[simp] theorem said_saying (text : Transcript) (value : α) : said (saying text value) = text :=
  Transcript.empty_append text

lemma pure_eq_saying (value : α) : (pure value : Console α) = saying .empty value := by
  funext transcript
  exact Prod.ext rfl (Transcript.append_empty transcript).symm

lemma print_eq_saying (text : String) : print text = saying ⟨text,""⟩ () := by
  funext transcript
  exact Prod.ext rfl (Transcript.ext rfl (String.append_empty).symm)

lemma complain_eq_saying (text : String) : complain text = saying ⟨"",text⟩ () := by
  funext transcript
  exact Prod.ext rfl (Transcript.ext (String.append_empty).symm rfl)

lemma saying_bind_of_eq {text more : Transcript} {value : α} {answer : β} {next : α → Console β}
    (h : next value = saying more answer) : saying text value >>= next = saying (text ++ more) answer := by
  funext transcript
  have hnext : (saying text value >>= next) transcript = next value (transcript ++ text) := rfl
  rw [hnext,h]
  exact Prod.ext rfl (Transcript.append_assoc _ _ _)

lemma saying_bind (text more : Transcript) (value : α) (answer : β) :
    (saying text value >>= fun _ => saying more answer) = saying (text ++ more) answer :=
  saying_bind_of_eq rfl

end Console

/-- The engine for expressions never breaks down: there is a tree, or its one rejection is reported. -/
lemma Front.parse_arithmetic {m : Type → Type} [Monad m] [LawfulMonad m] (limit : Limit)
    (reporter : String → m (Failure → m Unit)) (text : String) :
    Front.parse ⟨arithmetic limit,reporter⟩ text = match Formula.parse limit text with
      | .ok tree => pure (some tree)
      | .error rejection => reporter text >>= fun report => report rejection.failure >>= fun _ => pure none := by
  simp only [Front.parse,arithmetic,pure_bind]
  cases Formula.parse limit text with
  | ok tree => rfl
  | error rejection => rfl

/-- What comes of reading a text: its tree, or the diagnostic of its failure. -/
def shown (limit : Limit) (settings : Settings) (name text : String) : Transcript :=
  match parse limit text with
  | .ok tree => ⟨tree.present settings ++ "\n",""⟩
  | .error rejection => ⟨"",Source.render ⟨name,text⟩ (settings.isEnabled .color) rejection.failure⟩

/-- Reading a text prints what comes of it, and answers whether that is a tree. -/
theorem readAndShow_eq (limit : Limit) (settings : Settings) (name text : String) :
    readAndShow limit settings name text =
      Console.saying (shown limit settings name text) (parse limit text).toBool := by
  simp only [readAndShow,Front.parse_arithmetic,shown,consoleReporter,pure_bind]
  cases parse limit text with
  | ok tree =>
    simp only [pure_bind,Console.print_eq_saying,Console.pure_eq_saying true,Console.saying_bind,
      Transcript.append_empty]
    rfl
  | error rejection =>
    simp only [bind_assoc,pure_bind,Console.complain_eq_saying,Console.pure_eq_saying false,
      Console.saying_bind,Transcript.append_empty]
    rfl

section Bytes

lemma toList_loop_eq (bytes : ByteArray) (i : Nat) (done : List UInt8) :
    ByteArray.toList.loop bytes i done = done.reverse ++ bytes.data.toList.drop i := by
  fun_induction ByteArray.toList.loop bytes i done with
  | case1 i done hi ih =>
    have hi' : i < bytes.data.toList.length := by simpa using hi
    have hget : bytes.get! i = bytes.data.toList[i] := by
      simp [ByteArray.get!,getElem!_pos,hi]
    rw [ih,hget,List.drop_eq_getElem_cons hi']
    simp
  | case2 i done hi =>
    rw [List.drop_eq_nil_of_le (by simpa using hi),List.append_nil]

lemma bytesOf_eq (text : String) : bytesOf text = text.toByteArray.data.toList := by
  simp [bytesOf,ByteArray.toList,toList_loop_eq]

@[simp] theorem bytesOf_empty : bytesOf "" = [] := by simp [bytesOf_eq]

@[simp] theorem bytesOf_append (a b : String) : bytesOf (a ++ b) = bytesOf a ++ bytesOf b := by
  simp [bytesOf_eq]

/-- Bytes are a text if they are the bytes of this text. -/
theorem readText_eq_ok_iff {bytes : List UInt8} {text : String} :
    readText bytes = .ok text ↔ bytes = bytesOf text := by
  have hbytes := bytesOf_eq text
  rw [readText,textOf?,String.fromUTF8?]
  by_cases hvalid : (ByteArray.mk bytes.toArray).IsValidUTF8
  · have hsame : String.fromUTF8 ⟨bytes.toArray⟩ hvalid = text ↔ ⟨bytes.toArray⟩ = text.toByteArray :=
      String.toByteArray_inj.symm
    have harray : ByteArray.mk bytes.toArray = text.toByteArray ↔ bytes = text.toByteArray.data.toList := by
      rw [ByteArray.ext_iff,← Array.toList_inj]
    simp [hvalid,hsame,hbytes,harray]
  · have hne : bytes ≠ bytesOf text := by
      rintro rfl
      apply hvalid
      rw [hbytes,Array.toArray_toList]
      exact text.isValidUTF8
    simp [hvalid,hne]

end Bytes

namespace Program

variable {around : Surroundings} {limit : Limit} {settings : Settings} {input : String}

/-- Surroundings give the bytes of an input without a further effect. -/
lemma parse_eq (around : Surroundings) (limit : Limit) (settings : Settings) (input : String) :
    parse around limit settings input = match readInput input (content around input) with
      | .error error => pure (.error error)
      | .ok text => do return .ok (← readAndShow limit settings (sourceName input) text) := rfl

/-- An input that holds a text is read as this text, under the name of the input. -/
lemma parse_of_text {text : String} (h : content around input = .ok (bytesOf text)) :
    parse around limit settings input = Console.saying (shown limit settings (sourceName input) text)
      (.ok (Formula.parse limit text).toBool) := by
  have hinput : readInput input (content around input) = .ok text := by
    have htext : content around input >>= readText = .ok text := by
      rw [h]
      exact readText_eq_ok_iff.mpr rfl
    rw [readInput,htext]
  rw [parse_eq,hinput]
  simp only [readAndShow_eq,Console.pure_eq_saying]
  refine (Console.saying_bind_of_eq rfl).trans ?_
  rw [Transcript.append_empty]

/-- Of an input that holds no text, nothing is printed. -/
lemma parse_of_fault {fault : ReadFault} (h : content around input >>= readText = .error fault) :
    parse around limit settings input = Console.saying .empty (.error (.unreadable (inputName input) fault)) := by
  have hinput : readInput input (content around input) = .error (.unreadable (inputName input) fault) := by
    rw [readInput,h]
  rw [parse_eq,hinput]
  exact Console.pure_eq_saying _

end Program
end Formula

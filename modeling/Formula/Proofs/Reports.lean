import Mathlib.Tactic.Common
import Formula.Front

/-! Behind a front. The engine is given every text once, and each failure and each crash makes one report,
on a reporter that is opened for its text; whatever has happened before makes no difference. -/
namespace Formula

/-- The text that an engine has thrown, if it was one. -/
def Payload.text? : Payload → Option String
  | fixed text => some text
  | built text => some text
  | other => none

/-- A crash is told by what was thrown, as far as that is a text. -/
lemma Payload.message_eq (payload : Payload) :
    payload.message = "parser engine panicked" ++ (payload.text?.elim "" (": " ++ ·)) := by
  cases payload with
  | fixed text | built text =>
    change "parser engine panicked: " ++ text = "parser engine panicked" ++ (": " ++ text)
    rw [← String.append_assoc]
    rfl
  | other => rfl

namespace Front

/-- What is done on behalf of a front. -/
inductive Event where
  /-- The engine is given a text. -/
  | seen (source : String)
  /-- A reporter is opened for a text. -/
  | opened (source : String)
  /-- A failure is reported on the reporter of a text. -/
  | reported (source : String) (failure : Failure)
  deriving DecidableEq, Repr

/-- The text that the engine is given. -/
def Event.seen? : Event → Option String
  | seen source => some source
  | _ => none

/-- A computation that keeps a log. -/
abbrev Logging := StateM (List Event)

def record (event : Event) : Logging Unit := modify (· ++ [event])

variable {τ : Type}

/-- An engine that is told by its answers, and that logs every text it is given. -/
def watched (answer : String → Answer τ) (source : String) : Logging (Answer τ) := do
  record (.seen source)
  return answer source

/-- Log that a reporter is opened, and every report on it. -/
def watchedReporter (source : String) : Logging (Failure → Logging Unit) := do
  record (.opened source)
  return fun failure => record (.reported source failure)

/-- A front over an engine that is held in some way, with a log. -/
def logged (holders : List Holder) (answer : String → Answer τ) : Front Logging τ :=
  ⟨held holders (watched answer),watchedReporter⟩

/-- Read texts one after the other: the results, and the log of it all. -/
def readAll (front : Front Logging τ) (sources : List String) : List (Option τ) × List Event :=
  (sources.mapM front.parse).run []

lemma held_eq {m : Type → Type} (holders : List Holder) (engine : String → m (Answer τ)) :
    held holders engine = engine := by
  induction holders with
  | nil => rfl
  | cons holder holders ih =>
    funext source
    change held holders engine source = engine source
    rw [ih]

/-- The events that reading a text leads to, with a tree or with a failure. -/
def eventsOf (source : String) : Except Failure τ → List Event
  | .ok _ => [.seen source]
  | .error failure => [.seen source,.opened source,.reported source failure]

lemma seen_eventsOf (source : String) (outcome : Except Failure τ) :
    (eventsOf source outcome).filterMap Event.seen? = [source] := by
  cases outcome <;> rfl

section Runs

variable (holders : List Holder) (answer : String → Answer τ)

/-- One call: the answer of the engine decides on the result and on what goes to the end of the log. -/
theorem run_parse (source : String) (log : List Event) :
    ((logged holders answer).parse source).run log =
      ((answer source).result.toOption,log ++ eventsOf source (answer source).result) := by
  unfold logged
  rw [held_eq]
  simp only [parse,watched,record,bind_assoc,pure_bind]
  cases (answer source).result with
  | ok tree => rfl
  | error failure =>
    have hlog : log ++ [.seen source] ++ [.opened source] ++ [.reported source failure] =
        log ++ [.seen source,.opened source,.reported source failure] := by simp
    exact Prod.ext rfl hlog

/-- Any number of calls, behind any log. -/
theorem run_mapM_parse (sources : List String) (log : List Event) :
    (sources.mapM (logged holders answer).parse).run log =
      (sources.map fun source => (answer source).result.toOption,
        log ++ sources.flatMap fun source => eventsOf source (answer source).result) := by
  induction sources generalizing log with
  | nil => exact Prod.ext rfl (List.append_nil log).symm
  | cons source sources ih =>
    rw [List.mapM_cons]
    change (let called := ((logged holders answer).parse source).run log
      let more := (sources.mapM (logged holders answer).parse).run called.2
      (called.1 :: more.1,more.2)) = _
    simp only [run_parse,ih,List.map_cons,List.flatMap_cons,List.append_assoc]

lemma readAll_eq (sources : List String) :
    readAll (logged holders answer) sources = (sources.map fun source => (answer source).result.toOption,
      sources.flatMap fun source => eventsOf source (answer source).result) :=
  run_mapM_parse holders answer sources []

/-- The engine sees every text once, in order. -/
lemma seen_readAll (sources : List String) :
    (readAll (logged holders answer) sources).2.filterMap Event.seen? = sources := by
  rw [readAll_eq]
  induction sources with
  | nil => rfl
  | cons source sources ih =>
    simp only [List.flatMap_cons,List.filterMap_append,seen_eventsOf] at ih ⊢
    rw [ih,List.singleton_append]

end Runs

/-- Reading any number of texts through one front. The engine is given them once each and in order. There
is a tree where the engine has given it, and then nothing is reported; else a reporter is opened for this
very text, and one report is made on it, of what the engine has said or of its crash. Each call does what
it would have done if it had been the first. -/
theorem readAll_reports_each_failure (holders : List Holder) (answer : String → Answer τ)
    (sources : List String) :
    (readAll (logged holders answer) sources).2.filterMap Event.seen? = sources ∧
    (readAll (logged holders answer) sources).1.length = sources.length ∧
    ∀ i source, sources[i]? = some source → ∃ (result : Option τ) (events : List Event),
      (readAll (logged holders answer) sources).1[i]? = some result ∧
      (readAll (logged holders answer) (sources.take (i+1))).2 =
        (readAll (logged holders answer) (sources.take i)).2 ++ events ∧
      ((logged holders answer).parse source).run [] = (result,events) ∧
      (∀ tree, result = some tree ↔ answer source = .tree tree) ∧
      (∀ tree, answer source = .tree tree → events = [.seen source]) ∧
      (∀ complaint, answer source = .failed complaint → events = [.seen source,.opened source,
        .reported source ⟨complaint.message,complaint.line.getD 0,complaint.column.getD 0⟩]) ∧
      (∀ payload, answer source = .crashed payload → events = [.seen source,.opened source,
        .reported source ⟨"parser engine panicked" ++ payload.text?.elim "" (": " ++ ·),0,0⟩]) := by
  refine ⟨seen_readAll holders answer sources,by simp [readAll_eq],?_⟩
  intro i source hsource
  refine ⟨(answer source).result.toOption,eventsOf source (answer source).result,?_,?_,?_,?_,?_,?_,?_⟩
  · simp [readAll_eq,hsource]
  · simp [readAll_eq,List.take_add_one,hsource]
  · exact run_parse holders answer source []
  · intro tree
    cases answer source with
    | tree value => simp [Answer.result,Except.toOption]
    | failed complaint => simp [Answer.result,Except.toOption]
    | crashed payload => simp [Answer.result,Except.toOption]
  · intro tree h
    rw [h]
    rfl
  · intro complaint h
    rw [h]
    rfl
  · intro payload h
    rw [h,← payload.message_eq]
    rfl

/-- An engine with one answer of each kind. -/
def scripted : String → Answer Nat
  | "tree" => .tree 1
  | "failure" => .failed ⟨"half a position",some 7,none⟩
  | _ => .crashed (.built "code 3")

/-- A crash, a failure of which only the line is known, and then a tree. -/
theorem readAll_reports_each_failure_of_three :
    (readAll (logged [.reference,.box] scripted) ["crash"]).2 = [.seen "crash",.opened "crash",
      .reported "crash" ⟨"parser engine panicked: code 3",0,0⟩] ∧
    (readAll (logged [.reference,.box] scripted) ["crash","failure"]).2 =
      (readAll (logged [.reference,.box] scripted) ["crash"]).2 ++
        [.seen "failure",.opened "failure",.reported "failure" ⟨"half a position",7,0⟩] ∧
    (readAll (logged [.reference,.box] scripted) ["crash","failure","tree"]).2 =
      (readAll (logged [.reference,.box] scripted) ["crash","failure"]).2 ++ [.seen "tree"] ∧
    (readAll (logged [.reference,.box] scripted) ["crash","failure","tree"]).1[2]? = some (some 1) := by
  obtain ⟨-,-,hcalls⟩ :=
    readAll_reports_each_failure [.reference,.box] scripted ["crash","failure","tree"]
  obtain ⟨-,crash,-,hcrash,-,-,-,-,hthrown⟩ := hcalls 0 "crash" rfl
  obtain ⟨-,failure,-,hfailure,-,-,-,hsaid,-⟩ := hcalls 1 "failure" rfl
  obtain ⟨result,tree,hresult,htree,-,hgiven,hquiet,-,-⟩ := hcalls 2 "tree" rfl
  refine ⟨hcrash.trans (hthrown _ rfl),?_,?_,?_⟩
  · rw [hsaid _ rfl] at hfailure
    exact hfailure
  · rw [hquiet _ rfl] at htree
    exact htree
  · rw [hresult,(hgiven 1).mpr rfl]

end Front
end Formula

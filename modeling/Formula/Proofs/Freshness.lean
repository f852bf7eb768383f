import Mathlib.Data.List.Induction
import Mathlib.Tactic.Common
import Formula.Context

/-! A context in use. Whatever is asked of it, and however the position is moved in between, the line and
the column are read once for every coordinate that is handed out, at the moment it is handed out, and the
kind of error is settled when the context is made. -/
namespace Formula
namespace Context

/-- What a context is able to call. -/
inductive Call where
  | line
  | column
  | factory
  deriving DecidableEq, Repr

/-- A state, and the calls that have been made so far. -/
structure World (σ : Type) where
  state : σ
  calls : List Call

/-- Where the kind of error of a context comes from. -/
inductive Origin (σ κ : Type) where
  | given (kind : κ)
  | made (factory : StateM σ κ)

/-- All that a context is made from. Each call may look at the state and change it. -/
structure Blueprint (σ π κ : Type) where
  parser : π
  line : StateM σ Nat
  column : StateM σ Nat
  origin : Origin σ κ

/-- What may happen while a context is in use. -/
inductive Request (σ : Type) where
  | line
  | column
  | error (message : String)
  | kind
  | parser
  | normalize {α : Type} [Matchable α] (value : α)
  | summary
  /-- The state is changed from outside. -/
  | move (change : σ → σ)

/-- What comes back from a request. -/
inductive Response (π κ ε : Type) where
  | coordinate (value : Nat)
  | error (value : ε)
  | kind (value : κ)
  | parser (value : π)
  | text (value : String)
  | moved
  deriving DecidableEq, Repr

variable {σ π κ ε α : Type}

/-- The same action, and a note that it has been called. -/
def watched (call : Call) (action : StateM σ α) : StateM (World σ) α := fun world =>
  ((action.run world.state).1,⟨(action.run world.state).2,world.calls ++ [call]⟩)

section Use

variable [ErrorKind κ ε] [Summary κ]

/-- Do what is requested. -/
def serve (context : Context (StateM (World σ)) π κ) : Request σ → StateM (World σ) (Response π κ ε)
  | .line => .coordinate <$> context.lineNumber
  | .column => .coordinate <$> context.columnNumber
  | .error message => .error <$> context.error message
  | .kind => return .kind context.errorKind
  | .parser => return .parser context.parser
  | @Request.normalize _ _ _ value => return .text (context.normalize value)
  | .summary => return .text context.summary
  | .move change => do
    modify fun world => ⟨change world.state,world.calls⟩
    return .moved

namespace Blueprint

/-- The context over watched calls, with a kind of error that is known. -/
def built (blueprint : Blueprint σ π κ) (kind : κ) : Context (StateM (World σ)) π κ :=
  ⟨blueprint.parser,watched .line blueprint.line,watched .column blueprint.column,kind⟩

/-- Make the context, with a watch on all that it is able to call. -/
def build (blueprint : Blueprint σ π κ) : StateM (World σ) (Context (StateM (World σ)) π κ) :=
  match blueprint.origin with
  | .given kind => return blueprint.built kind
  | .made factory => withFactory blueprint.parser (watched .line blueprint.line)
      (watched .column blueprint.column) (watched .factory factory)

/-- Make the context in a state where nothing has been called, and put requests to it. -/
def converse (blueprint : Blueprint σ π κ) (requests : List (Request σ)) (start : σ) :
    List (Response π κ ε) × World σ :=
  (do let context ← blueprint.build
      requests.mapM context.serve : StateM (World σ) (List (Response π κ ε))).run ⟨start,[]⟩

end Blueprint
end Use

/-- The calls that a request leads to, in order. -/
def Request.calls : Request σ → List Call
  | line => [.line]
  | column => [.column]
  | error _ => [.line,.column]
  | _ => []

/-- A coordinate is asked for by its own requests, and by those for an error. -/
def Request.asks : Call → Request σ → Bool
  | .line, .line => true
  | .column, .column => true
  | .line, .error _ => true
  | .column, .error _ => true
  | _, _ => false

namespace Origin

/-- The kind of error that a context has if it is made in a state. -/
def kind (origin : Origin σ κ) (start : σ) : κ :=
  match origin with
  | given kind => kind
  | made factory => (factory.run start).1

/-- The world as it is when the context has been made. -/
def world (origin : Origin σ κ) (start : σ) : World σ :=
  match origin with
  | given _ => ⟨start,[]⟩
  | made factory => ⟨(factory.run start).2,[.factory]⟩

end Origin

/-- What a request must give in a state, and the state it leaves. -/
inductive Served [ErrorKind κ ε] [Summary κ] (blueprint : Blueprint σ π κ) (kind : κ) :
    Request σ → σ → Response π κ ε → σ → Prop
  | line {s t l} (hline : blueprint.line.run s = (l,t)) : Served blueprint kind .line s (.coordinate l) t
  | column {s t c} (hcolumn : blueprint.column.run s = (c,t)) :
      Served blueprint kind .column s (.coordinate c) t
  | error {message s t u l c} (hline : blueprint.line.run s = (l,t))
      (hcolumn : blueprint.column.run t = (c,u)) :
      Served blueprint kind (.error message) s (.error (ErrorKind.construct kind message ⟨l,c⟩)) u
  | kind {s} : Served blueprint kind .kind s (.kind kind) s
  | parser {s} : Served blueprint kind .parser s (.parser blueprint.parser) s
  | normalize {α s} [Matchable α] {value : α} :
      Served blueprint kind (.normalize value) s (.text (matched value).text) s
  | summary {s} : Served blueprint kind .summary s
      (.text ("GrammarContext \x7b error_kind: " ++ Summary.summary kind ++ ", .. \x7d")) s
  | move {change s} : Served blueprint kind (.move change) s .moved (change s)

namespace Blueprint

variable (blueprint : Blueprint σ π κ)

/-- Making the context calls the factory, if there is one, and nothing else. -/
lemma run_build (start : σ) : blueprint.build.run ⟨start,[]⟩ =
    (blueprint.built (blueprint.origin.kind start),blueprint.origin.world start) := by
  obtain ⟨parser,line,column,origin⟩ := blueprint
  cases origin <;> rfl

variable [ErrorKind κ ε] [Summary κ]

/-- One request is served out of the state of the moment. -/
theorem served_serve (kind : κ) (request : Request σ) (world : World σ) :
    Served blueprint kind request world.state (((blueprint.built kind).serve request).run world).1
      (((blueprint.built kind).serve request).run world).2.state := by
  cases request with
  | line => exact .line rfl
  | column => exact .column rfl
  | error message => exact .error rfl rfl
  | kind => exact .kind
  | parser => exact .parser
  | normalize value => exact .normalize
  | summary => exact .summary
  | move change => exact .move

/-- One request leads to the calls it needs and to no others. -/
theorem calls_serve (kind : κ) (request : Request σ) (world : World σ) :
    (((blueprint.built kind).serve request).run world).2.calls = world.calls ++ request.calls := by
  cases request with
  | line | column => rfl
  | error message => exact List.append_assoc world.calls [.line] [.column]
  | kind | parser | normalize | summary | move => exact (List.append_nil world.calls).symm

variable (start : σ)

lemma converse_eq (requests : List (Request σ)) : blueprint.converse requests start =
    (requests.mapM (blueprint.built (blueprint.origin.kind start)).serve).run
      (blueprint.origin.world start) := by
  unfold converse
  rw [StateT.run_bind,run_build]
  rfl

/-- One more request finds the world that the earlier ones have left. -/
lemma converse_concat (requests : List (Request σ)) (request : Request σ) :
    blueprint.converse (requests ++ [request]) start =
      ((blueprint.converse requests start).1 ++
        [(((blueprint.built (blueprint.origin.kind start)).serve request).run
          (blueprint.converse requests start).2).1],
      (((blueprint.built (blueprint.origin.kind start)).serve request).run
        (blueprint.converse requests start).2).2) := by
  rw [converse_eq,converse_eq,List.mapM_append]
  rfl

/-- Later requests leave the responses as they are. -/
lemma converse_prefix (earlier later : List (Request σ)) :
    (blueprint.converse earlier start).1 <+: (blueprint.converse (earlier ++ later) start).1 := by
  rw [converse_eq,converse_eq,List.mapM_append]
  exact List.prefix_append _ _

/-- Every request gets one response. -/
lemma length_converse (requests : List (Request σ)) :
    (blueprint.converse requests start).1.length = requests.length := by
  induction requests using List.reverseRecOn with
  | nil => rw [converse_eq]; rfl
  | append_singleton requests request ih =>
    rw [converse_concat,List.length_append,List.length_append,ih]
    rfl

/-- The log of a whole conversation, request by request. -/
theorem calls_converse (requests : List (Request σ)) :
    (blueprint.converse requests start).2.calls =
      (blueprint.origin.world start).calls ++ requests.flatMap Request.calls := by
  induction requests using List.reverseRecOn with
  | nil => rw [converse_eq,List.flatMap_nil,List.append_nil]; rfl
  | append_singleton requests request ih =>
    rw [converse_concat,List.flatMap_append,List.flatMap_singleton,← List.append_assoc,← ih]
    exact calls_serve blueprint _ request _

/-- A request among others is served in the world that the requests before it have left. -/
theorem served_converse (earlier later : List (Request σ)) (request : Request σ) : ∃ response,
    (blueprint.converse (earlier ++ [request] ++ later) start).1[earlier.length]? = some response ∧
    Served blueprint (blueprint.origin.kind start) request (blueprint.converse earlier start).2.state
      response (blueprint.converse (earlier ++ [request]) start).2.state ∧
    (blueprint.converse (earlier ++ [request]) start).2.calls =
      (blueprint.converse earlier start).2.calls ++ request.calls := by
  obtain ⟨more,hmore⟩ := blueprint.converse_prefix start (earlier ++ [request]) later
  have hlength := blueprint.length_converse start earlier
  rw [converse_concat] at hmore ⊢
  refine ⟨_,?_,served_serve blueprint _ request _,calls_serve blueprint _ request _⟩
  rw [← hmore,List.append_assoc,List.getElem?_append_right (Nat.le_of_eq hlength),hlength,Nat.sub_self]
  rfl

end Blueprint

/-- Each call of a conversation stands for one request that asks for it. -/
lemma Request.count_calls (call : Call) (requests : List (Request σ)) :
    (requests.flatMap calls).count call = requests.countP (asks call) := by
  induction requests with
  | nil => rfl
  | cons request requests ih =>
    rw [List.flatMap_cons,List.count_append,List.countP_cons,ih,Nat.add_comm]
    cases request <;> cases call <;> rfl

lemma Request.countP_factory (requests : List (Request σ)) :
    requests.countP (asks .factory) = 0 := by
  rw [List.countP_eq_zero]
  intro request _
  cases request <;> exact Bool.false_ne_true

lemma Blueprint.count_converse [ErrorKind κ ε] [Summary κ] (blueprint : Blueprint σ π κ)
    (requests : List (Request σ)) (start : σ) (call : Call) :
    (blueprint.converse requests start).2.calls.count call =
      (blueprint.origin.world start).calls.count call + requests.countP (Request.asks call) := by
  rw [calls_converse,List.count_append,Request.count_calls]

/-- A context in use, over calls that read and change a state of any kind, with changes of the state from
outside at any point. Each coordinate is read once for each request of its own and once for each error,
and otherwise never; what is handed out is what the call tells in the state of that moment. The kind of
error is the one given, or the one that the factory makes in the one call it gets, before any request. -/
theorem Blueprint.converse_reads_on_demand [ErrorKind κ ε] [Summary κ] (blueprint : Blueprint σ π κ)
    (requests : List (Request σ)) (start : σ) :
    (blueprint.converse requests start).2.calls.count .line = requests.countP (Request.asks .line) ∧
    (blueprint.converse requests start).2.calls.count .column =
      requests.countP (Request.asks .column) ∧
    (blueprint.converse requests start).2.calls.count .factory =
      (match blueprint.origin with | .given _ => 0 | .made _ => 1) ∧
    blueprint.converse [] start = ([],blueprint.origin.world start) ∧
    (blueprint.converse requests start).1.length = requests.length ∧
    ∀ i request, requests[i]? = some request → ∃ response,
      (blueprint.converse requests start).1[i]? = some response ∧
      Served blueprint (blueprint.origin.kind start) request
        (blueprint.converse (requests.take i) start).2.state response
        (blueprint.converse (requests.take (i+1)) start).2.state ∧
      (blueprint.converse (requests.take (i+1)) start).2.calls =
        (blueprint.converse (requests.take i) start).2.calls ++ request.calls := by
  refine ⟨?_,?_,?_,?_,blueprint.length_converse start requests,?_⟩
  · rw [count_converse]
    cases blueprint.origin <;> exact Nat.zero_add _
  · rw [count_converse]
    cases blueprint.origin <;> exact Nat.zero_add _
  · rw [count_converse,Request.countP_factory]
    cases blueprint.origin <;> rfl
  · rw [converse_eq]
    rfl
  · intro i request hrequest
    have hi : i < requests.length := (List.getElem?_eq_some_iff.mp hrequest).1
    have hlength : (requests.take i).length = i := List.length_take_of_le (Nat.le_of_lt hi)
    have hnext : requests.take (i+1) = requests.take i ++ [request] := by
      rw [List.take_add_one,hrequest]
      rfl
    have hserved := blueprint.served_converse start (requests.take i) (requests.drop (i+1)) request
    rw [← hnext,List.take_append_drop,hlength] at hserved
    exact hserved

/-- A kind of error whose errors keep a tag. -/
structure Tagged where
  tag : String
  deriving DecidableEq, Repr

instance : ErrorKind Tagged (String × Failure) where
  construct kind message position := (kind.tag,⟨message,position⟩)

instance : Summary Tagged := ⟨Tagged.tag⟩

/-- The line goes up whenever it is read, and the column is where it has been moved to. -/
def ticking : Blueprint (Nat × Nat) String Tagged where
  parser := "ticking"
  line := fun (line,column) => (line+1,line+1,column)
  column := fun (line,column) => (column,line,column)
  origin := .made fun position => (⟨"late"⟩,position)

/-- The column is moved between a line and an error. -/
def movedBetween : List (Request (Nat × Nat)) :=
  [.line,.move fun (line,_) => (line,9),.summary,.error "unexpected",.line]

theorem Blueprint.converse_reads_on_demand_moved :
    (ticking.converse movedBetween (0,1)).2.calls.count .line = 3 ∧
    (ticking.converse movedBetween (0,1)).2.calls.count .column = 1 ∧
    (ticking.converse movedBetween (0,1)).2.calls.count .factory = 1 ∧
    (ticking.converse movedBetween (0,1)).1[3]? =
      some (.error ("late",⟨"unexpected",2,9⟩)) := by
  obtain ⟨hline,hcolumn,hfactory,-,-,hserved⟩ := ticking.converse_reads_on_demand movedBetween (0,1)
  obtain ⟨response,hresponse,herror,-⟩ := hserved 3 (.error "unexpected") rfl
  refine ⟨hline,hcolumn,hfactory,?_⟩
  cases herror with
  | error hl hc =>
    cases hl
    cases hc
    exact hresponse

end Context
end Formula

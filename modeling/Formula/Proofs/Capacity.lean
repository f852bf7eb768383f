import Formula.Proofs.Spans
import Formula.Proofs.Transcripts

/-! Reports on a medium that has room for so many bytes. A drawing is a long row of small writes, and each of
them may be the one that fails; still, what gets through is the front of what there was to write, over all
reports, and no report stands in the way of the next. -/
namespace Formula

/-- Write some bytes by as many calls as it takes: the bytes taken, the room left, and whether all were taken.
By the room it has, a writer decides how many bytes it takes at a call, one at least; without room it fails. -/
def writeAll (appetite : Nat → Nat) (room : Nat) (bytes : List UInt8) : List UInt8 × Nat × Bool :=
  if bytes = [] then ([],room,true)
  else if room = 0 then ([],room,false)
  else
    let size := min bytes.length (min room (max 1 (appetite room)))
    let (taken,left,done) := writeAll appetite (room-size) (bytes.drop size)
    (bytes.take size ++ taken,left,done)
termination_by room
decreasing_by
  have hlength := List.length_pos_of_ne_nil ‹bytes ≠ []›
  omega

/-- In whatever pieces the bytes are taken, the first ones are, as far as there is room. -/
lemma writeAll_eq (appetite : Nat → Nat) (room : Nat) (bytes : List UInt8) :
    writeAll appetite room bytes = (bytes.take room,room - bytes.length,decide (bytes.length ≤ room)) := by
  fun_induction writeAll appetite room bytes with
  | case1 room => simp
  | case2 bytes hne => simp [hne]
  | case3 room bytes hne hroom size taken left done hwrite ih =>
    rw [hwrite,List.length_drop] at ih
    have hsize : size ≤ room := by omega
    have hlength : size ≤ bytes.length := by omega
    have hleft : room - size - (bytes.length - size) = room - bytes.length := by omega
    have hdone : bytes.length - size ≤ room - size ↔ bytes.length ≤ room := by omega
    simp only [hleft,hdone,Prod.mk.injEq] at ih
    obtain ⟨rfl,rfl,rfl⟩ := ih
    rw [← List.take_add,Nat.add_sub_cancel' hsize]

namespace Sink

/-- What a sink takes of some bytes. -/
def accepted (sink : Sink) (bytes : List UInt8) : List UInt8 := sink.room.elim bytes fun room => bytes.take room

/-- The sink behind so many bytes. -/
def filled (sink : Sink) (size : Nat) : Sink := { sink with room := sink.room.map (· - size) }

/-- Every byte that shows on the sink takes room. -/
def Counts (sink : Sink) (colored : Bool) : Prop := sink.freeInk = false ∨ colored = false

variable (sink : Sink) {colored : Bool}

@[simp] theorem accepted_nil : sink.accepted [] = [] := by
  rw [accepted]
  cases sink.room <;> simp

@[simp] theorem filled_zero : sink.filled 0 = sink := by
  obtain ⟨room,freeInk⟩ := sink
  cases room <;> rfl

lemma filled_filled (a b : Nat) : (sink.filled a).filled b = sink.filled (a+b) := by
  obtain ⟨room,freeInk⟩ := sink
  cases room with
  | none => rfl
  | some room => simp [filled,Nat.sub_sub]

/-- Of two rows of bytes, the second gets what room the first has left. -/
lemma accepted_append (a b : List UInt8) :
    sink.accepted (a ++ b) = sink.accepted a ++ (sink.filled a.length).accepted b := by
  obtain ⟨room,freeInk⟩ := sink
  cases room with
  | none => rfl
  | some room => exact List.take_append

lemma counts_filled {size : Nat} (h : sink.Counts colored) : (sink.filled size).Counts colored := h

/-- Bytes that are not all taken leave no room for others. -/
lemma write_eq (bytes : List UInt8) : ∃ fits : Bool,
    sink.write bytes = (sink.accepted bytes,sink.filled bytes.length,fits) ∧
      (fits = false → (sink.filled bytes.length).room = some 0) := by
  obtain ⟨room,freeInk⟩ := sink
  cases room with
  | none => exact ⟨true,rfl,by simp⟩
  | some room =>
    refine ⟨decide (bytes.length ≤ room),rfl,?_⟩
    intro hfull
    simp only [decide_eq_false_iff_not] at hfull
    simp only [filled,Option.map_some,Option.some.injEq]
    omega

lemma accepted_of_full (h : sink.room = some 0) (bytes : List UInt8) : sink.accepted bytes = [] := by
  rw [accepted,h,Option.elim_some,List.take_zero]

lemma filled_of_full (h : sink.room = some 0) (size : Nat) : sink.filled size = sink := by
  obtain ⟨room,freeInk⟩ := sink
  obtain rfl : room = some 0 := h
  simp [filled]

/-- A change of ink that is free leaves nothing without colors. -/
lemma stroke_eq (h : sink.Counts colored) (stroke : Stroke) :
    sink.stroke colored stroke = sink.write (bytesOf (stroke.shown colored)) := by
  rcases h with hcharged | rfl
  · simp [Sink.stroke,hcharged]
  · have hnothing : sink.write [] = ([],sink,true) := by
      obtain ⟨room,freeInk⟩ := sink
      cases room <;> simp [write]
    cases stroke with
    | write text => simp [Sink.stroke,Stroke.isText]
    | dip ink => simp [Sink.stroke,Stroke.shown,hnothing]
    | wipe => simp [Sink.stroke,Stroke.shown,hnothing]

/-- Stroke by stroke, a sink takes of a drawing what it would take of it in one piece. -/
theorem draw_eq (h : sink.Counts colored) (sheet : Sheet) :
    sink.draw colored sheet = (sink.accepted (bytesOf (sheet.shown colored)),
      sink.filled (bytesOf (sheet.shown colored)).length) := by
  -- The sink stays general, as every stroke hands on what is left of it.
  induction sheet generalizing sink with
  | nil => simp [draw,Sheet.shown]
  | cons stroke more ih =>
    have hshown : bytesOf (Sheet.shown colored (stroke :: more)) =
        bytesOf (stroke.shown colored) ++ bytesOf (Sheet.shown colored more) := by
      simp [Sheet.shown]
    obtain ⟨fits,hwrite,hfull⟩ := sink.write_eq (bytesOf (stroke.shown colored))
    rw [draw,sink.stroke_eq h,hwrite,hshown,accepted_append,List.length_append,← filled_filled]
    cases fits with
    | true => simp only [ih _ (sink.counts_filled h)]
    | false => simp only [accepted_of_full _ (hfull rfl),filled_of_full _ (hfull rfl),List.append_nil]

end Sink

namespace Source

variable (source : Source) {colored : Bool}

/-- The bytes of a whole report. -/
def fullReport (colored : Bool) (failure : Failure) : List UInt8 := bytesOf (source.render colored failure)

lemma report_eq {sink : Sink} (h : sink.Counts colored) (failure : Failure) :
    source.report colored failure sink = (sink.accepted (source.fullReport colored failure),
      sink.filled (source.fullReport colored failure).length) :=
  sink.draw_eq h (source.sheet failure)

lemma length_reportAll (failures : List Failure) (sink : Sink) :
    (source.reportAll colored failures sink).length = failures.length := by
  induction failures generalizing sink with
  | nil => rfl
  | cons failure failures ih => simp only [reportAll,List.length_cons,ih]

/-- Report by report, a sink takes what it would take of all reports in one piece. -/
theorem flatten_reportAll {sink : Sink} (h : sink.Counts colored) (failures : List Failure) :
    (source.reportAll colored failures sink).flatten =
      sink.accepted (failures.flatMap (source.fullReport colored)) := by
  induction failures generalizing sink with
  | nil => simp [reportAll]
  | cons failure failures ih =>
    rw [reportAll,source.report_eq h,List.flatten_cons,ih (sink.counts_filled h),List.flatMap_cons,
      Sink.accepted_append]

/-- Without a limit, each report is there as a whole. -/
lemma reportAll_unlimited {free : Bool} (h : (Sink.mk none free).Counts colored) (failures : List Failure) :
    source.reportAll colored failures ⟨none,free⟩ = failures.map (source.fullReport colored) := by
  induction failures with
  | nil => rfl
  | cons failure failures ih =>
    rw [reportAll,source.report_eq h]
    exact congrArg _ ih

/-- On a medium with room for so many bytes, in whatever pieces it takes them, every report comes to its end,
and the bytes that get through are the first ones of all the reports, one behind the other, as they are on a
medium without limit. There, and without color, each report is the failure as it is rendered, whatever was
reported before. Where changes of ink need no room, the same is true without color. -/
theorem reportAll_fills_room (colored : Bool) (room : Nat) (failures : List Failure) :
    (∀ position, source.checkedSpan position = .ok (source.span position)) ∧
    (∀ appetite left bytes free, (Sink.mk (some left) free).write bytes =
      ((writeAll appetite left bytes).1,⟨some (writeAll appetite left bytes).2.1,free⟩,
        (writeAll appetite left bytes).2.2)) ∧
    (source.reportAll colored failures ⟨some room,false⟩).length = failures.length ∧
    (source.reportAll colored failures ⟨some room,false⟩).flatten =
      (failures.flatMap fun failure => (source.report colored failure ⟨none,false⟩).1).take room ∧
    ∀ free, source.reportAll false failures ⟨none,free⟩ =
        failures.map (fun failure => bytesOf (source.render false failure)) ∧
      (source.reportAll false failures ⟨some room,free⟩).flatten =
        (failures.flatMap fun failure => (source.report false failure ⟨none,free⟩).1).take room := by
  have hfull (colored free : Bool) (h : (Sink.mk none free).Counts colored) :
      (fun failure => (source.report colored failure ⟨none,free⟩).1) = source.fullReport colored := by
    funext failure
    rw [source.report_eq h]
    rfl
  refine ⟨source.checkedSpan_eq,?_,source.length_reportAll failures _,?_,?_⟩
  · intro appetite left bytes free
    rw [writeAll_eq]
    rfl
  · rw [hfull colored false (Or.inl rfl)]
    exact source.flatten_reportAll (Or.inl rfl) failures
  · intro free
    rw [hfull false free (Or.inr rfl)]
    exact ⟨source.reportAll_unlimited (Or.inr rfl) failures,source.flatten_reportAll (Or.inr rfl) failures⟩

example : (Source.reportAll ⟨"input","1 + )"⟩ false [⟨"unexpected token",⟨1,5⟩⟩,⟨"again",⟨0,0⟩⟩]
    ⟨some 12,false⟩).map readable = ["error[E001]:",""] := by decide +kernel

end Source
end Formula

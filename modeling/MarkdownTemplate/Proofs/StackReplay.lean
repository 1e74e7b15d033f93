import MarkdownTemplate.Proofs.Rules

/-!
# The inclusion stack along a run

This file fixes

* `Stack.replay_cite`, `Stack.replay_leave`, ... -- what one event does to the stack;
* `Setting.Expands.replay_eq` -- a run that nothing stops leaves the stack as it found it;
* `Stack.Throughout` -- a property that the stack has at every moment of a run, with one law for
  each way that events are put together.
-/

namespace MarkdownTemplate

namespace Stack

@[simp] theorem dropLast_push (stack : Stack) (f : Frame) : (stack.push f).dropLast = stack := by
  simp [push]

/-! ## 1. Events one after another -/

@[simp] theorem replay_nil (stack : Stack) : stack.replay [] = stack := rfl

@[simp] theorem replay_cite (stack : Stack) (f : Frame) (es : List Event) :
    stack.replay (.cite f :: es) = (stack.push f).replay es := rfl

@[simp] theorem replay_enter (stack : Stack) (p : Path) (t : Treatment) (es : List Event) :
    stack.replay (.enter p t :: es) = stack.replay es := rfl

@[simp] theorem replay_line (stack : Stack) (l : Line) (es : List Event) :
    stack.replay (.line l :: es) = stack.replay es := rfl

@[simp] theorem replay_leave (stack : Stack) (p : Path) (es : List Event) :
    stack.replay (.leave p :: es) = replay (List.dropLast stack) es := rfl

@[simp] theorem replay_append (stack : Stack) (es es' : List Event) :
    stack.replay (es ++ es') = (stack.replay es).replay es' :=
  List.foldl_append ..

/-- Lines leave the stack alone. -/
@[simp] theorem replay_lines (stack : Stack) (ls : List Line) :
    stack.replay (ls.map Event.line) = stack := by
  induction ls with
  | nil => rfl
  | cons l rest ih => exact ih

/-- An inclusion leaves the stack as it found it if its content does. -/
theorem replay_inclusion {stack : Stack} {f : Frame} {es : List Event}
    (h : (stack.push f).replay es = stack.push f) (p q : Path) (t : Treatment) :
    stack.replay (.cite f :: .enter p t :: es ++ [.leave q]) = stack := by
  simp only [List.cons_append, replay_cite, replay_enter, replay_append, h, replay_leave,
    replay_nil, dropLast_push]

/-- Quoting leaves the stack alone. -/
theorem replay_quote (stack : Stack) (d : Directive) (depth : Int) (content : Text) :
    stack.replay (Setting.quote d depth content).events = stack := by
  rw [Setting.quote_events, replay_lines]

end Stack

/-- **A run that nothing stops leaves the stack as it found it.** -/
theorem Setting.Expands.replay_eq {s : Setting} {stack : Stack} {template : Path} {depth : Int}
    {number : Nat} {lines : List Text} {r : Run}
    (h : Expands s stack template depth number lines r) (hok : r.failure = none) :
    stack.replay r.events = stack := by
  induction h, hok using Expands.ok_induction with
  | done => rfl
  | copied _ _ _ ih => exact ih
  | marked _ _ _ _ ih => exact ih
  | quoted _ _ _ _ _ _ _ ih =>
      rw [Run.after_events, Stack.replay_append, Stack.replay_inclusion (Stack.replay_quote ..)]
      exact ih
  | nested _ _ _ _ _ _ _ _ _ ihBody ihRest =>
      rw [Run.after_events, Stack.replay_append, Stack.replay_inclusion ihBody]
      exact ihRest

namespace Stack

/-! ## 2. Every moment of a run -/

/-- `Q` holds of the stack at every moment while events happen to it, before the first and after
    the last included. -/
def Throughout (Q : Stack → Prop) (stack : Stack) (events : List Event) : Prop :=
  ∀ es, es <+: events → Q (stack.replay es)

variable {Q : Stack → Prop} {stack : Stack}

theorem Throughout.start {events : List Event} (h : Throughout Q stack events) : Q stack :=
  h [] (List.nil_prefix ..)

@[simp] theorem throughout_nil : Throughout Q stack [] ↔ Q stack := by
  simp [Throughout]

theorem throughout_cons {e : Event} {es : List Event} :
    Throughout Q stack (e :: es) ↔ Q stack ∧ Throughout Q (stack.replay [e]) es := by
  constructor
  · intro h
    refine ⟨h.start, fun ps hps => ?_⟩
    rw [← replay_append]
    exact h _ ((List.prefix_cons_inj e).mpr hps)
  · intro h ps hps
    obtain ⟨hstart, h⟩ := h
    rcases List.prefix_cons_iff.mp hps with rfl | ⟨ps', rfl, hps'⟩
    · exact hstart
    · rw [← List.singleton_append, replay_append]
      exact h ps' hps'

theorem throughout_append {es es' : List Event} :
    Throughout Q stack (es ++ es') ↔
      Throughout Q stack es ∧ Throughout Q (stack.replay es) es' := by
  induction es generalizing stack with
  | nil => exact ⟨fun h => ⟨throughout_nil.mpr h.start, h⟩, fun h => h.2⟩
  | cons e es ih =>
      rw [List.cons_append, throughout_cons, throughout_cons, ih, and_assoc, ← replay_append,
        List.singleton_append]

/-- While lines are written only one stack is to be looked at. -/
@[simp] theorem throughout_lines {ls : List Line} :
    Throughout Q stack (ls.map Event.line) ↔ Q stack := by
  induction ls with
  | nil => exact throughout_nil
  | cons l rest ih => exact throughout_cons.trans (by simpa using fun h => ih.mpr h)

end Stack

end MarkdownTemplate

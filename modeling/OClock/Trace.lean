import Mathlib.Data.List.Basic

/-!
Programs that emit events. A program reads its own state once and answers with the
events of its run, which also say how that state moves; what surrounds a program is
driven by the same events. A fact can be followed through every moment of a run.
-/

namespace OClock.Trace

universe u v w

variable {State : Type u} {Event : Type v} {World : Type w}

def final (act : State → Event → State) (state : State) (events : List Event) : State :=
  events.foldl act state

/-- Holds before, between and after the events. -/
def Throughout (act : State → Event → State) (holds : State → Prop) :
    State → List Event → Prop
  | state, [] => holds state
  | state, event :: rest => holds state ∧ Throughout act holds (act state event) rest

@[simp] theorem final_nil (act : State → Event → State) (state : State) :
    final act state [] = state := rfl

@[simp] theorem final_cons (act : State → Event → State) (state : State) (event : Event)
    (rest : List Event) : final act state (event :: rest) = final act (act state event) rest := rfl

@[simp] theorem final_append (act : State → Event → State) (state : State)
    (first second : List Event) :
    final act state (first ++ second) = final act (final act state first) second :=
  List.foldl_append

theorem throughout_start {act : State → Event → State} {holds : State → Prop} {state : State}
    {events : List Event} (through : Throughout act holds state events) : holds state := by
  cases events with
  | nil => exact through
  | cons event rest => exact through.1

theorem throughout_end {act : State → Event → State} {holds : State → Prop} {state : State}
    {events : List Event} (through : Throughout act holds state events) :
    holds (final act state events) := by
  induction events generalizing state with
  | nil => exact through
  | cons event rest ih => exact ih through.2

theorem throughout_append {act : State → Event → State} {holds : State → Prop} {state : State}
    {first second : List Event} (before : Throughout act holds state first)
    (after : Throughout act holds (final act state first) second) :
    Throughout act holds state (first ++ second) := by
  induction first generalizing state with
  | nil => exact after
  | cons event rest ih => exact ⟨before.1, ih before.2 after⟩

theorem throughout_mono {act : State → Event → State} {holds wider : State → Prop}
    (implies : ∀ state, holds state → wider state) {state : State} {events : List Event}
    (through : Throughout act holds state events) : Throughout act wider state events := by
  induction events generalizing state with
  | nil => exact implies state through
  | cons event rest ih => exact ⟨implies state through.1, ih through.2⟩

/-- Every moment of a run is the end of a part of it. -/
theorem throughout_moment {act : State → Event → State} {holds : State → Prop} {state : State}
    {before after : List Event} (through : Throughout act holds state (before ++ after)) :
    holds (final act state before) := by
  induction before generalizing state with
  | nil => exact throughout_start through
  | cons event rest ih => exact ih through.2

/-! ### Programs -/

abbrev Program (State : Type u) (Event : Type v) := State → List Event

/-- The second program starts in the state the first one ends in. -/
def andThen (act : State → Event → State) (first second : Program State Event) :
    Program State Event :=
  fun state => first state ++ second (final act state (first state))

/-- One program for each element, in their order. -/
def each (act : State → Event → State) {Index : Type} (body : Index → Program State Event) :
    List Index → Program State Event
  | [] => fun _ => []
  | index :: rest => andThen act (body index) (each act body rest)

/-- Where a sequence of programs ends, as a fold over the ends of its members. -/
theorem final_each (act : State → Event → State) {Index : Type}
    (body : Index → Program State Event) (indices : List Index) (state : State) :
    final act state (each act body indices state) =
      indices.foldl (fun state index => final act state (body index state)) state := by
  induction indices generalizing state with
  | nil => rfl
  | cons index rest ih => rw [each, andThen, final_append, ih, List.foldl_cons]

/-- The world after a program. -/
def outcome (inside : World → State) (act : World → Event → World)
    (program : Program State Event) (world : World) : World :=
  final act world (program (inside world))

/-- What a program promises in the world it drives: from a good world, a fact that holds
at every moment of its run, and a good world at the end. -/
def Keeps (inside : World → State) (act : World → Event → World) (good always : World → Prop)
    (program : Program State Event) : Prop :=
  ∀ world, good world → Throughout act always world (program (inside world)) ∧
    good (outcome inside act program world)

section Rules

variable {inside : World → State} {act : World → Event → World} {own : State → Event → State}
  {good always : World → Prop}

theorem inside_final (agrees : ∀ world event, inside (act world event) = own (inside world) event)
    (world : World) (events : List Event) :
    inside (final act world events) = final own (inside world) events := by
  induction events generalizing world with
  | nil => rfl
  | cons event rest ih => rw [final_cons, final_cons, ih, agrees]

theorem outcome_andThen
    (agrees : ∀ world event, inside (act world event) = own (inside world) event)
    (first second : Program State Event) (world : World) :
    outcome inside act (andThen own first second) world =
      outcome inside act second (outcome inside act first world) := by
  simp only [outcome, andThen, final_append, inside_final agrees]

theorem throughout_andThen
    (agrees : ∀ world event, inside (act world event) = own (inside world) event)
    {holds : World → Prop} {first second : Program State Event} {world : World}
    (early : Throughout act holds world (first (inside world)))
    (late : Throughout act holds (outcome inside act first world)
      (second (inside (outcome inside act first world)))) :
    Throughout act holds world (andThen own first second (inside world)) := by
  apply throughout_append early
  rwa [← inside_final agrees]

theorem keeps_andThen
    (agrees : ∀ world event, inside (act world event) = own (inside world) event)
    {first second : Program State Event} (before : Keeps inside act good always first)
    (after : Keeps inside act good always second) :
    Keeps inside act good always (andThen own first second) := by
  intro world start
  obtain ⟨early, middle⟩ := before world start
  obtain ⟨late, finish⟩ := after _ middle
  rw [outcome_andThen agrees]
  exact ⟨throughout_andThen agrees early late, finish⟩

theorem keeps_nothing (implies : ∀ world, good world → always world) :
    Keeps inside act good always (fun _ => []) :=
  fun world start => ⟨implies world start, start⟩

theorem keeps_each
    (agrees : ∀ world event, inside (act world event) = own (inside world) event)
    (implies : ∀ world, good world → always world) {Index : Type}
    {body : Index → Program State Event} (indices : List Index)
    (keeps : ∀ index ∈ indices, Keeps inside act good always (body index)) :
    Keeps inside act good always (each own body indices) := by
  induction indices with
  | nil => exact keeps_nothing implies
  | cons index rest ih =>
      exact keeps_andThen agrees (keeps index List.mem_cons_self)
        (ih fun other member => keeps other (List.mem_cons_of_mem index member))

end Rules

end OClock.Trace

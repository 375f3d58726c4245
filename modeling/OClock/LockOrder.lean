import Mathlib.Data.List.Basic
import Mathlib.Logic.Function.Basic
import Mathlib.Logic.Relation
import OClock.LabelledRun

/-!
Locks that are taken in scopes, by threads that run side by side. A discipline ranks the
locks; a script keeps it when no lock is taken under one that ranks as high, unless it is the
thread's own and recursive. Threads whose scripts keep a discipline never block each other
for good.
-/

namespace OClock.LockOrder
open LabelledRun

universe u v

variable {Mutex : Type u} {Thread : Type v}

/-- What a piece of code does with its locks. Which branch is taken, how often a loop goes
round and which statement throws is left open. -/
inductive Script (Mutex : Type u) where
  | skip
  /-- Until a condition variable, a join or another thread's notice. -/
  | sleep
  | seq (first next : Script Mutex)
  | either (left right : Script Mutex)
  | loop (body : Script Mutex)
  /-- A scope that opens with a lock guard. -/
  | guarded (mutex : Mutex) (body : Script Mutex)
  /-- A block whose exceptions are caught. -/
  | attempt (body : Script Mutex)

namespace Script

def inOrder (scripts : List (Script Mutex)) : Script Mutex := scripts.foldr seq skip

/-- One of them, or none. -/
def anyOf (scripts : List (Script Mutex)) : Script Mutex := scripts.foldr either skip

/-- Whether the code runs on its own, with no lock and no notice to wait for. -/
def runs : Script Mutex → Bool
  | .guarded .. | .sleep => false
  | _ => true

end Script

/-- What a thread has still to do, the next thing first. -/
inductive Task (Mutex : Type u) where
  | run (script : Script Mutex)
  | release (mutex : Mutex)
  | handler

abbrev Stack (Mutex : Type u) := List (Task Mutex)

def Task.lock? : Task Mutex → Option Mutex
  | .release mutex => some mutex
  | _ => none

/-- The locks that a thread holds are those that it has still to release. -/
def held (stack : Stack Mutex) : List Mutex := stack.filterMap Task.lock?

@[simp] theorem held_nil : held ([] : Stack Mutex) = [] := rfl

@[simp] theorem held_run (script : Script Mutex) (rest : Stack Mutex) :
    held (.run script :: rest) = held rest := rfl

@[simp] theorem held_handler (rest : Stack Mutex) : held (.handler :: rest) = held rest := rfl

@[simp] theorem held_release (mutex : Mutex) (rest : Stack Mutex) :
    held (.release mutex :: rest) = mutex :: held rest := rfl

theorem held_append (above below : Stack Mutex) : held (above ++ below) = held above ++ held below :=
  List.filterMap_append

/-- What unwinding leaves of the tasks above a handler: the ends of the scopes. -/
def unwound (above : Stack Mutex) : Stack Mutex := above.filter fun task => task.lock?.isSome

theorem held_unwound (above : Stack Mutex) : held (unwound above) = held above := by
  induction above with
  | nil => rfl
  | cons task rest ih =>
      cases task with
      | run script => exact ih
      | release mutex => exact congrArg (mutex :: ·) ih
      | handler => exact ih

/-- One step of one thread, while other threads have `taken` their locks. -/
inductive Move (recursive : Mutex → Bool) (taken : Mutex → Prop) :
    Stack Mutex → Stack Mutex → Prop
  | skip {rest : Stack Mutex} : Move recursive taken (.run .skip :: rest) rest
  | wake {rest : Stack Mutex} : Move recursive taken (.run .sleep :: rest) rest
  | seq {first next : Script Mutex} {rest : Stack Mutex} :
      Move recursive taken (.run (.seq first next) :: rest) (.run first :: .run next :: rest)
  | left {left right : Script Mutex} {rest : Stack Mutex} :
      Move recursive taken (.run (.either left right) :: rest) (.run left :: rest)
  | right {left right : Script Mutex} {rest : Stack Mutex} :
      Move recursive taken (.run (.either left right) :: rest) (.run right :: rest)
  | again {body : Script Mutex} {rest : Stack Mutex} :
      Move recursive taken (.run (.loop body) :: rest) (.run body :: .run (.loop body) :: rest)
  | leave {body : Script Mutex} {rest : Stack Mutex} :
      Move recursive taken (.run (.loop body) :: rest) rest
  | acquire {mutex : Mutex} {body : Script Mutex} {rest : Stack Mutex} (free : ¬ taken mutex)
      (once : mutex ∈ held rest → recursive mutex = true) :
      Move recursive taken (.run (.guarded mutex body) :: rest)
        (.run body :: .release mutex :: rest)
  | release {mutex : Mutex} {rest : Stack Mutex} :
      Move recursive taken (.release mutex :: rest) rest
  | attempt {body : Script Mutex} {rest : Stack Mutex} :
      Move recursive taken (.run (.attempt body) :: rest) (.run body :: .handler :: rest)
  | passed {rest : Stack Mutex} : Move recursive taken (.handler :: rest) rest
  /-- Code that throws goes to its nearest handler and ends the scopes on the way. -/
  | throw {script : Script Mutex} {above rest : Stack Mutex} (running : script.runs = true)
      (nearest : .handler ∉ above) :
      Move recursive taken (.run script :: (above ++ .handler :: rest)) (unwound above ++ rest)

abbrev System (Mutex : Type u) (Thread : Type v) := Thread → Stack Mutex

def TakenByOthers (system : System Mutex Thread) (thread : Thread) (mutex : Mutex) : Prop :=
  ∃ other, other ≠ thread ∧ mutex ∈ held (system other)

/-- Any thread may take the next step; the label tells which one did. -/
inductive Step [DecidableEq Thread] (recursive : Mutex → Bool) :
    System Mutex Thread → Thread → System Mutex Thread → Prop
  | move {system : System Mutex Thread} {thread : Thread} {stack : Stack Mutex}
      (move : Move recursive (TakenByOthers system thread) (system thread) stack) :
      Step recursive system thread (Function.update system thread stack)

def Asleep (stack : Stack Mutex) : Prop := ∃ rest, stack = .run .sleep :: rest

structure Discipline (Mutex : Type u) where
  rank : Mutex → Nat
  recursive : Mutex → Bool

namespace Discipline

variable [DecidableEq Mutex] (discipline : Discipline Mutex)

def admits (holding : List Mutex) (mutex : Mutex) : Bool :=
  (discipline.recursive mutex && holding.contains mutex) ||
    holding.all fun other => discipline.rank other < discipline.rank mutex

/-- Whether a script keeps the discipline when it is entered with some locks held. Nothing is
held over a sleep. -/
def keeps : List Mutex → Script Mutex → Bool
  | _, .skip => true
  | holding, .sleep => holding.isEmpty
  | holding, .seq first next => keeps holding first && keeps holding next
  | holding, .either left right => keeps holding left && keeps holding right
  | holding, .loop body => keeps holding body
  | holding, .guarded mutex body =>
      discipline.admits holding mutex && keeps (mutex :: holding) body
  | holding, .attempt body => keeps holding body

/-- Every script that waits in a stack keeps the discipline under the locks held below it. -/
def Sound : Stack Mutex → Prop
  | [] => True
  | .run script :: rest => discipline.keeps (held rest) script = true ∧ Sound rest
  | _ :: rest => Sound rest

variable {discipline}

theorem sound_append {above below : Stack Mutex} (sound : discipline.Sound (above ++ below)) :
    discipline.Sound below := by
  induction above with
  | nil => exact sound
  | cons task rest ih =>
      cases task with
      | run script => exact ih sound.2
      | release mutex => exact ih sound
      | handler => exact ih sound

theorem sound_unwound {above below : Stack Mutex} (sound : discipline.Sound below) :
    discipline.Sound (unwound above ++ below) := by
  induction above with
  | nil => exact sound
  | cons task rest ih => cases task <;> exact ih

theorem move_sound {taken : Mutex → Prop} {before after : Stack Mutex}
    (move : Move discipline.recursive taken before after) (sound : discipline.Sound before) :
    discipline.Sound after := by
  cases move with
  | skip | wake | left | right | again | leave | seq | acquire | attempt =>
      simp_all [Sound, keeps]
  | release | passed => exact sound
  | @throw script above rest _ _ =>
      have caught : discipline.Sound (above ++ [.handler] ++ rest) := by simpa using sound.2
      exact sound_unwound (sound_append caught)

end Discipline

/-- A move takes no lock that another thread holds. -/
theorem move_held {recursive : Mutex → Bool} {taken : Mutex → Prop} {before after : Stack Mutex}
    (move : Move recursive taken before after) {mutex : Mutex} (holds : mutex ∈ held after) :
    mutex ∈ held before ∨ ¬ taken mutex := by
  cases move with
  | @acquire owned body rest free once =>
      rcases List.mem_cons.mp holds with rfl | earlier
      · exact Or.inr free
      · exact Or.inl earlier
  | release => exact Or.inl (List.mem_cons_of_mem _ holds)
  | throw running nearest =>
      left
      simpa [held_append, held_unwound] using holds
  | _ => exact Or.inl holds

def Exclusive (system : System Mutex Thread) : Prop :=
  ∀ mutex first second, mutex ∈ held (system first) → mutex ∈ held (system second) →
    first = second

variable [DecidableEq Thread]

theorem step_exclusive {recursive : Mutex → Bool} {system next : System Mutex Thread}
    {thread : Thread} (exclusive : Exclusive system) (step : Step recursive system thread next) :
    Exclusive next := by
  cases step with
  | @move stack move =>
      -- A lock held after the step by the thread that moved is held by no other thread.
      have own : ∀ mutex other, other ≠ thread → mutex ∈ held stack →
          mutex ∉ held (system other) := by
        intro mutex other apart holds elsewhere
        rcases move_held move holds with before | free
        · exact apart (exclusive mutex other thread elsewhere before)
        · exact free ⟨other, apart, elsewhere⟩
      intro mutex first second left right
      by_cases firstHit : first = thread <;> by_cases secondHit : second = thread
      · rw [firstHit, secondHit]
      · subst firstHit
        rw [Function.update_self] at left
        rw [Function.update_of_ne secondHit] at right
        exact absurd right (own mutex second secondHit left)
      · subst secondHit
        rw [Function.update_of_ne firstHit] at left
        rw [Function.update_self] at right
        exact absurd left (own mutex first firstHit right)
      · rw [Function.update_of_ne firstHit] at left
        rw [Function.update_of_ne secondHit] at right
        exact exclusive mutex first second left right

variable [DecidableEq Mutex] {discipline : Discipline Mutex}

structure Disciplined (discipline : Discipline Mutex) (system : System Mutex Thread) : Prop where
  exclusive : Exclusive system
  sound : ∀ thread, discipline.Sound (system thread)

theorem step_disciplined {system next : System Mutex Thread} {thread : Thread}
    (holds : Disciplined discipline system) (step : Step discipline.recursive system thread next) :
    Disciplined discipline next := by
  refine ⟨step_exclusive holds.exclusive step, ?_⟩
  cases step with
  | @move stack move =>
      intro other
      by_cases hit : other = thread
      · subst hit
        rw [Function.update_self]
        exact Discipline.move_sound move (holds.sound other)
      · rw [Function.update_of_ne hit]
        exact holds.sound other

/-- Every thread at the start of its script, with nothing held. -/
def launch (code : Thread → Script Mutex) : System Mutex Thread := fun thread => [.run (code thread)]

omit [DecidableEq Thread] in
theorem launch_disciplined {code : Thread → Script Mutex}
    (kept : ∀ thread, discipline.keeps [] (code thread) = true) :
    Disciplined discipline (launch code) :=
  ⟨fun _ _ _ holds => absurd holds List.not_mem_nil, fun thread => ⟨kept thread, trivial⟩⟩

theorem run_disciplined {code : Thread → Script Mutex}
    (kept : ∀ thread, discipline.keeps [] (code thread) = true) {schedule : List Thread}
    {system : System Mutex Thread}
    (run : Run (Step discipline.recursive) (launch code) schedule system) :
    Disciplined discipline system :=
  run.invariant (fun _ => Disciplined discipline) (launch_disciplined kept)
    fun _ _ _ _ _ step holds => step_disciplined holds step

theorem asleep_holds_nothing {stack : Stack Mutex} (sound : discipline.Sound stack)
    (asleep : Asleep stack) : held stack = [] := by
  obtain ⟨rest, rfl⟩ := asleep
  exact List.isEmpty_iff.mp sound.1

/-- The stack asks for a lock next. -/
def Wants (stack : Stack Mutex) (mutex : Mutex) : Prop :=
  ∃ body rest, stack = .run (.guarded mutex body) :: rest

/-- A thread that is neither done nor asleep takes a step, or asks for a lock of another
thread that ranks above all that it holds itself. -/
theorem moves_or_blocked {taken : Mutex → Prop} {stack : Stack Mutex}
    (sound : discipline.Sound stack) (unfinished : stack ≠ []) (awake : ¬ Asleep stack)
    (own : ∀ mutex ∈ held stack, ¬ taken mutex) :
    (∃ after, Move discipline.recursive taken stack after) ∨
      ∃ mutex, Wants stack mutex ∧ taken mutex ∧
        ∀ other ∈ held stack, discipline.rank other < discipline.rank mutex := by
  match stack, unfinished with
  | .release mutex :: rest, _ => exact Or.inl ⟨_, .release⟩
  | .handler :: rest, _ => exact Or.inl ⟨_, .passed⟩
  | .run script :: rest, _ =>
      cases script with
      | skip => exact Or.inl ⟨_, .skip⟩
      | sleep => exact absurd ⟨rest, rfl⟩ awake
      | seq first next => exact Or.inl ⟨_, .seq⟩
      | either left right => exact Or.inl ⟨_, .left⟩
      | loop body => exact Or.inl ⟨_, .leave⟩
      | attempt body => exact Or.inl ⟨_, .attempt⟩
      | guarded mutex body =>
          have admitted : discipline.admits (held rest) mutex = true := by
            have kept := sound.1
            rw [Discipline.keeps, Bool.and_eq_true] at kept
            exact kept.1
          simp only [Discipline.admits, Bool.or_eq_true, Bool.and_eq_true, List.contains_iff_mem,
            List.all_eq_true, decide_eq_true_eq] at admitted
          rcases admitted with ⟨again, mine⟩ | above
          · exact Or.inl ⟨_, .acquire (own mutex mine) fun _ => again⟩
          · by_cases busy : taken mutex
            · exact Or.inr ⟨mutex, ⟨body, rest, rfl⟩, busy, above⟩
            · exact Or.inl ⟨_, .acquire busy fun mine => absurd (above mutex mine) (Nat.lt_irrefl _)⟩

/-- Whether a thread can take a step now, without a notice to wake it. -/
def Active (discipline : Discipline Mutex) (system : System Mutex Thread) (thread : Thread) : Prop :=
  ¬ Asleep (system thread) ∧ ∃ next, Step discipline.recursive system thread next

/-- A thread asks for a lock that another one holds. -/
def WaitsFor (system : System Mutex Thread) (thread owner : Thread) : Prop :=
  owner ≠ thread ∧ ∃ mutex, Wants (system thread) mutex ∧ mutex ∈ held (system owner)

/-- A thread that is neither done nor asleep is active, or waits for another such thread that
holds a lock above all its own. -/
theorem active_or_waits {system : System Mutex Thread} (holds : Disciplined discipline system)
    {thread : Thread} (unfinished : system thread ≠ []) (awake : ¬ Asleep (system thread)) :
    Active discipline system thread ∨
      ∃ owner mutex, WaitsFor system thread owner ∧ system owner ≠ [] ∧
        ¬ Asleep (system owner) ∧ mutex ∈ held (system owner) ∧
        ∀ other ∈ held (system thread), discipline.rank other < discipline.rank mutex := by
  have own : ∀ mutex ∈ held (system thread), ¬ TakenByOthers system thread mutex := by
    rintro mutex mine ⟨other, apart, theirs⟩
    exact apart (holds.exclusive mutex other thread theirs mine)
  rcases moves_or_blocked (holds.sound thread) unfinished awake own with
    ⟨after, move⟩ | ⟨mutex, wanted, ⟨owner, apart, owned⟩, above⟩
  · exact Or.inl ⟨awake, _, .move move⟩
  · refine Or.inr ⟨owner, mutex, ⟨apart, mutex, wanted, owned⟩, ?_, ?_, owned, above⟩
    · intro done
      rw [done] at owned
      exact absurd owned List.not_mem_nil
    · intro asleep
      rw [asleep_holds_nothing (holds.sound owner) asleep] at owned
      exact absurd owned List.not_mem_nil

/-- Every chain of waiting threads ends at one that can run: it goes up in rank, and ranks are
bounded. -/
theorem disciplined_progress {system : System Mutex Thread} (holds : Disciplined discipline system)
    {bound : Nat} (ranked : ∀ mutex, discipline.rank mutex ≤ bound) {thread : Thread}
    (unfinished : system thread ≠ []) (awake : ¬ Asleep (system thread)) :
    ∃ active, Relation.ReflTransGen (WaitsFor system) thread active ∧
      Active discipline system active := by
  -- The induction is on the room between the bound and a lock that the thread holds.
  have climbs : ∀ (room : Nat) (thread : Thread) (mutex : Mutex), system thread ≠ [] →
      ¬ Asleep (system thread) → mutex ∈ held (system thread) →
        bound ≤ discipline.rank mutex + room →
          ∃ active, Relation.ReflTransGen (WaitsFor system) thread active ∧
            Active discipline system active := by
    intro room
    induction room with
    | zero =>
        intro thread mutex unfinished awake mine high
        rcases active_or_waits holds unfinished awake with active | ⟨_, wanted, _, _, _, _, above⟩
        · exact ⟨thread, .refl, active⟩
        · exact absurd (ranked wanted) (Nat.not_le.mpr (Nat.lt_of_le_of_lt high (above mutex mine)))
    | succ room ih =>
        intro thread mutex unfinished awake mine high
        rcases active_or_waits holds unfinished awake with
          active | ⟨owner, wanted, waits, going, up, owned, above⟩
        · exact ⟨thread, .refl, active⟩
        · have higher := above mutex mine
          obtain ⟨last, chain, active⟩ := ih owner wanted going up owned (by omega)
          exact ⟨last, .head waits chain, active⟩
  rcases active_or_waits holds unfinished awake with
    active | ⟨owner, mutex, waits, going, up, owned, _⟩
  · exact ⟨thread, .refl, active⟩
  · obtain ⟨last, chain, active⟩ := climbs bound owner mutex going up owned (Nat.le_add_left _ _)
    exact ⟨last, .head waits chain, active⟩

end OClock.LockOrder

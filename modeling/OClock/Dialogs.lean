import Mathlib.Data.List.Basic
import OClock.LabelledRun

/-!
Dialogs with a system: a program asks, and goes on with what is answered, whatever that is. An
environment says which requests are allowed in which world and what may be answered. The
weakest precondition of a dialog is that it asks only what is allowed and ends as wanted.
-/

namespace OClock

/-- A dialog. `retry` asks the same again for as long as the answer says so. -/
inductive Dialog {Request : Type} (Answer : Request → Type) (α : Type) where
  | done (value : α)
  | ask (request : Request) (next : Answer request → Dialog Answer α)
  | retry (request : Request) (again : Answer request → Bool)
      (next : Answer request → Dialog Answer α)

namespace Dialog
open LabelledRun

variable {Request : Type} {Answer : Request → Type} {α β : Type}

def bind : Dialog Answer α → (α → Dialog Answer β) → Dialog Answer β
  | .done value, after => after value
  | .ask request next, after => .ask request fun answer => (next answer).bind after
  | .retry request again next, after =>
      .retry request again fun answer => (next answer).bind after

instance : Monad (Dialog Answer) where
  pure := .done
  bind := bind

/-- One request, for its answer. -/
def request (request : Request) : Dialog Answer (Answer request) := .ask request .done

/-- The answer that ends the asking. -/
def retrying (request : Request) (again : Answer request → Bool) :
    Dialog Answer (Answer request) := .retry request again .done

end Dialog

structure Environment {Request : Type} (Answer : Request → Type) where
  World : Type
  allowed : World → Request → Prop
  answers : World → (request : Request) → Answer request → World → Prop

namespace Dialog
open LabelledRun

variable {Request : Type} {Answer : Request → Type} {α β : Type}

section Meaning

variable (environment : Environment Answer)

abbrev Exchange (Answer : Request → Type) := Σ request, Answer request

/-- One exchange with the system, from what is left of the dialog. -/
inductive Step : Dialog Answer α × environment.World → Exchange Answer →
    Dialog Answer α × environment.World → Prop
  | ask {world after : environment.World} {request : Request}
      {next : Answer request → Dialog Answer α} {answer : Answer request}
      (answered : environment.answers world request answer after) :
      Step (.ask request next, world) ⟨request, answer⟩ (next answer, after)
  | again {world after : environment.World} {request : Request} {again : Answer request → Bool}
      {next : Answer request → Dialog Answer α} {answer : Answer request}
      (answered : environment.answers world request answer after)
      (more : again answer = true) :
      Step (.retry request again next, world) ⟨request, answer⟩
        (.retry request again next, after)
  | last {world after : environment.World} {request : Request} {again : Answer request → Bool}
      {next : Answer request → Dialog Answer α} {answer : Answer request}
      (answered : environment.answers world request answer after)
      (enough : again answer = false) :
      Step (.retry request again next, world) ⟨request, answer⟩ (next answer, after)

/-- A retry needs a fact about the world that every answer keeps for which it goes round. -/
def wp (post : α → environment.World → Prop) : Dialog Answer α → environment.World → Prop
  | .done value, world => post value world
  | .ask request next, world =>
      environment.allowed world request ∧
        ∀ answer after, environment.answers world request answer after →
          wp post (next answer) after
  | .retry request again next, world =>
      ∃ stays : environment.World → Prop, stays world ∧
        ∀ now, stays now → environment.allowed now request ∧
          ∀ answer after, environment.answers now request answer after →
            (again answer = true → stays after) ∧
              (again answer = false → wp post (next answer) after)

/-- What a dialog asks next. -/
def asking : Dialog Answer α → Option Request
  | .done _ => none
  | .ask request _ | .retry request _ _ => some request

end Meaning

variable {environment : Environment Answer} {post : α → environment.World → Prop}

theorem wp_allowed {dialog : Dialog Answer α} {world : environment.World} {request : Request}
    (holds : wp environment post dialog world) (next : dialog.asking = some request) :
    environment.allowed world request := by
  cases dialog with
  | done value => cases next
  | ask asked after =>
      cases next
      exact holds.1
  | retry asked again after =>
      cases next
      obtain ⟨stays, now, kept⟩ := holds
      exact (kept world now).1

theorem wp_step {before after : Dialog Answer α × environment.World}
    {exchange : Exchange Answer} (holds : wp environment post before.1 before.2)
    (step : Step environment before exchange after) : wp environment post after.1 after.2 := by
  cases step with
  | ask answered => exact holds.2 _ _ answered
  | again answered more =>
      obtain ⟨stays, now, kept⟩ := holds
      exact ⟨stays, ((kept _ now).2 _ _ answered).1 more, kept⟩
  | last answered enough =>
      obtain ⟨stays, now, kept⟩ := holds
      exact ((kept _ now).2 _ _ answered).2 enough

/-- In every run, however far it gets and whatever is answered, the next request is allowed;
a dialog that is done ended as wanted. -/
theorem wp_sound {dialog rest : Dialog Answer α} {world after : environment.World}
    {exchanges : List (Exchange Answer)} (holds : wp environment post dialog world)
    (run : Run (Step environment) (dialog, world) exchanges (rest, after)) :
    (∀ request, rest.asking = some request → environment.allowed after request) ∧
      (∀ value, rest = .done value → post value after) := by
  have kept : wp environment post rest after :=
    run.invariant (fun _ now => wp environment post now.1 now.2) holds
      fun _ _ _ _ _ step holds => wp_step holds step
  refine ⟨fun request next => wp_allowed kept next, ?_⟩
  rintro value rfl
  exact kept

/-- A run from its first exchange on. -/
theorem run_ask {request : Request} {next : Answer request → Dialog Answer α}
    {answer : Answer request} {world middle : environment.World}
    {exchanges : List (Exchange Answer)} {last : Dialog Answer α × environment.World}
    (answered : environment.answers world request answer middle)
    (later : Run (Step environment) (next answer, middle) exchanges last) :
    Run (Step environment) (.ask request next, world) (⟨request, answer⟩ :: exchanges) last :=
  (Run.one (.ask answered)).append later

theorem run_again {request : Request} {again : Answer request → Bool}
    {next : Answer request → Dialog Answer α} {answer : Answer request}
    {world middle : environment.World} {exchanges : List (Exchange Answer)}
    {last : Dialog Answer α × environment.World}
    (answered : environment.answers world request answer middle) (more : again answer = true)
    (later : Run (Step environment) (.retry request again next, middle) exchanges last) :
    Run (Step environment) (.retry request again next, world) (⟨request, answer⟩ :: exchanges)
      last := (Run.one (.again answered more)).append later

theorem run_last {request : Request} {again : Answer request → Bool}
    {next : Answer request → Dialog Answer α} {answer : Answer request}
    {world middle : environment.World} {exchanges : List (Exchange Answer)}
    {last : Dialog Answer α × environment.World}
    (answered : environment.answers world request answer middle) (enough : again answer = false)
    (later : Run (Step environment) (next answer, middle) exchanges last) :
    Run (Step environment) (.retry request again next, world) (⟨request, answer⟩ :: exchanges)
      last := (Run.one (.last answered enough)).append later

/-! ### Rules -/

theorem wp_mono {wanted : α → environment.World → Prop} {dialog : Dialog Answer α}
    {world : environment.World} (holds : wp environment post dialog world)
    (weaker : ∀ value after, post value after → wanted value after) :
    wp environment wanted dialog world := by
  induction dialog generalizing world with
  | done value => exact weaker value world holds
  | ask request next ih =>
      exact ⟨holds.1, fun answer after answered => ih answer (holds.2 answer after answered)⟩
  | retry request again next ih =>
      obtain ⟨stays, now, kept⟩ := holds
      refine ⟨stays, now, fun world held => ⟨(kept world held).1, fun answer after answered => ?_⟩⟩
      have further := (kept world held).2 answer after answered
      exact ⟨further.1, fun enough => ih answer (further.2 enough)⟩

@[simp] theorem wp_pure (value : α) (world : environment.World) :
    wp environment post (pure value) world = post value world := rfl

@[simp] theorem wp_request {request : Request}
    {wanted : Answer request → environment.World → Prop} (world : environment.World) :
    wp environment wanted (Dialog.request request) world =
      (environment.allowed world request ∧
        ∀ answer after, environment.answers world request answer after → wanted answer after) :=
  rfl

/-- The rule of the loop: what stays while the request is asked again. -/
theorem wp_retrying {request : Request} {again : Answer request → Bool}
    {wanted : Answer request → environment.World → Prop} (stays : environment.World → Prop)
    {world : environment.World} (start : stays world)
    (kept : ∀ now, stays now → environment.allowed now request ∧
      ∀ answer after, environment.answers now request answer after →
        (again answer = true → stays after) ∧ (again answer = false → wanted answer after)) :
    wp environment wanted (Dialog.retrying request again) world := ⟨stays, start, kept⟩

theorem wp_bind {wanted : β → environment.World → Prop} {first : Dialog Answer α}
    {next : α → Dialog Answer β} {world : environment.World} :
    wp environment wanted (first >>= next) world ↔
      wp environment (fun value after => wp environment wanted (next value) after) first world := by
  change wp environment wanted (first.bind next) world ↔ _
  induction first generalizing world with
  | done value => rfl
  | ask request after ih => simp only [bind, wp, ih]
  | retry request again after ih => simp only [bind, wp, ih]

/-- The rule of composition. -/
theorem wp_seq {middle : α → environment.World → Prop} {wanted : β → environment.World → Prop}
    {first : Dialog Answer α} {next : α → Dialog Answer β} {world : environment.World}
    (before : wp environment middle first world)
    (goes : ∀ value after, middle value after → wp environment wanted (next value) after) :
    wp environment wanted (first >>= next) world := wp_bind.mpr (wp_mono before goes)

/-- A sequence of calls, each of which keeps an invariant. -/
theorem wp_foldlM {σ : Type} {call : σ → β → Dialog Answer σ}
    (holds : σ → environment.World → Prop)
    (kept : ∀ state input world, holds state world →
      wp environment holds (call state input) world)
    (inputs : List β) {state : σ} {world : environment.World} (start : holds state world) :
    wp environment holds (inputs.foldlM call state) world := by
  induction inputs generalizing state world with
  | nil => exact start
  | cons input rest ih =>
      rw [List.foldlM_cons, wp_bind]
      exact wp_mono (kept state input world start) fun value after held => ih held

/-! ### Programs that throw -/

variable {ε : Type}

theorem wp_run_bind {wanted : Except ε β → environment.World → Prop}
    {first : ExceptT ε (Dialog Answer) α} {next : α → ExceptT ε (Dialog Answer) β}
    {world : environment.World} :
    wp environment wanted (first >>= next).run world ↔
      wp environment (fun result after =>
        match result with
        | .ok value => wp environment wanted (next value).run after
        | .error error => wanted (.error error) after) first.run world := by
  change wp environment wanted (first.run >>= _) world ↔ _
  rw [wp_bind]
  constructor <;> refine fun holds => wp_mono holds fun result after held => ?_
  all_goals cases result <;> exact held

theorem wp_run_seq {middle : Except ε α → environment.World → Prop}
    {wanted : Except ε β → environment.World → Prop} {first : ExceptT ε (Dialog Answer) α}
    {next : α → ExceptT ε (Dialog Answer) β} {world : environment.World}
    (before : wp environment middle first.run world)
    (throws : ∀ error after, middle (.error error) after → wanted (.error error) after)
    (goes : ∀ value after, middle (.ok value) after → wp environment wanted (next value).run after) :
    wp environment wanted (first >>= next).run world := by
  rw [wp_run_bind]
  refine wp_mono before fun result after held => ?_
  cases result with
  | ok value => exact goes value after held
  | error error => exact throws error after held

@[simp] theorem wp_run_pure {wanted : Except ε α → environment.World → Prop} (value : α)
    (world : environment.World) :
    wp environment wanted (pure value : ExceptT ε (Dialog Answer) α).run world =
      wanted (.ok value) world := rfl

@[simp] theorem wp_run_throw {wanted : Except ε α → environment.World → Prop} (error : ε)
    (world : environment.World) :
    wp environment wanted (throw error : ExceptT ε (Dialog Answer) α).run world =
      wanted (.error error) world := rfl

theorem wp_run_lift {wanted : Except ε α → environment.World → Prop}
    {dialog : Dialog Answer α} {world : environment.World} :
    wp environment wanted (dialog : ExceptT ε (Dialog Answer) α).run world ↔
      wp environment (fun value after => wanted (.ok value) after) dialog world := by
  change wp environment wanted (dialog >>= _) world ↔ _
  rw [wp_bind]
  rfl

/-- What an ordinary dialog leaves for the dialog that follows it. -/
theorem wp_run_after {wanted : Except ε β → environment.World → Prop}
    {first : Dialog Answer α} {next : α → ExceptT ε (Dialog Answer) β}
    {world : environment.World} :
    wp environment wanted ((first : ExceptT ε (Dialog Answer) α) >>= next).run world ↔
      wp environment (fun value after => wp environment wanted (next value).run after) first
        world := wp_run_bind.trans wp_run_lift

end Dialog

end OClock

import OClock.WebServer

/-!
What the POSTs hand to the threads of the display and of the strip while the workers run at the
same time.
-/

namespace OClock.PostedTodos
open Text DictionaryStore DictionaryInvariant PostDecoding PostAcceptance WebHandlerInternal
open WebServer LabelledRun
open DisplayInternal (DisplayTodo)
open PostParser (parsePost PostResult maxPostBodyLen)

/-! ### The queues -/

variable {Worker : Type}

def displayEnqueued (event : Event Worker) : Option DisplayTodo :=
  match event.2 with
  | .enqueueDisplayTodo displayTodo => some displayTodo
  | _ => none

def displayTaken (event : Event Worker) : Option DisplayTodo :=
  match event.2 with
  | .takeDisplayTodo displayTodo => some displayTodo
  | _ => none

def ledStripEnqueued (event : Event Worker) : Option StringMap :=
  match event.2 with
  | .enqueueLedStripTodo postValues => some postValues
  | _ => none

def ledStripTaken (event : Event Worker) : Option StringMap :=
  match event.2 with
  | .takeLedStripTodo postValues => some postValues
  | _ => none

/-- A queue is what came less what went. -/
def Queued {Todo : Type} (came went : Event Worker → Option Todo) (start : List Todo)
    (history : List (Event Worker)) (todos : List Todo) : Prop :=
  start ++ history.filterMap came = history.filterMap went ++ todos

section

variable {Todo : Type} {came went : Event Worker → Option Todo} {start todos after : List Todo}
  {history : List (Event Worker)} {event : Event Worker}

/-- One event of the queue. -/
def Moves (came went : Event Worker → Option Todo) (todos : List Todo) (event : Event Worker)
    (after : List Todo) : Prop :=
  todos ++ (came event).toList = (went event).toList ++ after

theorem moves_idle (came_none : came event = none) (went_none : went event = none) :
    Moves came went todos event todos := by
  rw [Moves, came_none, went_none, Option.toList_none, List.append_nil, List.nil_append]

theorem filterMap_concat (pick : Event Worker → Option Todo) :
    (history ++ [event]).filterMap pick = history.filterMap pick ++ (pick event).toList := by
  rw [List.filterMap_append]
  cases picked : pick event with
  | none => rw [List.filterMap_cons_none picked]; rfl
  | some todo => rw [List.filterMap_cons_some picked]; rfl

theorem queued_event (queued : Queued came went start history todos)
    (moves : Moves came went todos event after) :
    Queued came went start (history ++ [event]) after := by
  rw [Queued, filterMap_concat, filterMap_concat, ← List.append_assoc, queued, List.append_assoc,
    moves, List.append_assoc]

end

variable [DecidableEq Worker] {world next : World Worker} {event : Event Worker}

theorem head_taken {Todo : Type} {todos : List Todo} {todo : Todo}
    (head : todos.head? = some todo) : todos ++ [] = [todo] ++ todos.tail := by
  obtain ⟨rest, rfl⟩ := List.head?_eq_some_iff.mp head
  simp

theorem step_queues (step : Step world event next) :
    Moves displayEnqueued displayTaken world.server.displayTodos event next.server.displayTodos ∧
      Moves ledStripEnqueued ledStripTaken world.server.ledStripTodos event
        next.server.ledStripTodos := by
  cases step with
  | @request worker request free =>
      have kept : (world.move worker (.request request) (arrive world.server request).1).server =
        (arrive world.server request).2 := rfl
      obtain ⟨hits, same⟩ := arrive_keeps world.server request
      rw [kept, same]
      exact ⟨moves_idle rfl rfl, moves_idle rfl rfl⟩
  | @work worker outside label later proceeds =>
      have works := (proceed_working proceeds).label
      cases label with
      | enqueueDisplayTodo displayTodo => exact ⟨rfl, moves_idle rfl rfl⟩
      | enqueueLedStripTodo postValues => exact ⟨moves_idle rfl rfl, rfl⟩
      | request _ | reply _ | dictionary _ | takeDisplayTodo _ | takeLedStripTodo _ => cases works
      | _ => exact ⟨moves_idle rfl rfl, moves_idle rfl rfl⟩
  | reply ready => exact ⟨moves_idle rfl rfl, moves_idle rfl rfl⟩
  | @others label outside =>
      cases label with
      | dictionary op => exact ⟨moves_idle rfl rfl, moves_idle rfl rfl⟩
      | takeDisplayTodo displayTodo => exact ⟨head_taken outside, moves_idle rfl rfl⟩
      | takeLedStripTodo postValues => exact ⟨moves_idle rfl rfl, head_taken outside⟩
      | _ => cases outside

/-! ### The workers -/

/-- What an accepted POST hands to a thread. -/
def todoOf : Handler → Option (StringMap → Label)
  | .msgModePost => some fun postValues => .enqueueDisplayTodo (.handleMsgModePost postValues)
  | .imgBackgroundPost =>
      some fun postValues => .enqueueDisplayTodo (.handleImgBackgroundPost postValues)
  | .msgBackgroundPost =>
      some fun postValues => .enqueueDisplayTodo (.handleMsgBackgroundPost postValues)
  | .ledStripPost => some .enqueueLedStripTodo
  | _ => none

/-- The values of a POST that is not refused. -/
def accepted (request : RequestInfo) : Option StringMap :=
  ((parsePost request.requestBody ∅).filter fun result => result.reply = .replyOk).map
    PostResult.postValues

def handsOver : Label → Bool
  | .enqueueDisplayTodo _ | .enqueueLedStripTodo _ => true
  | _ => false

/-- What a worker hands over in a stretch of history. -/
def handedBy (worker : Worker) (history : List (Event Worker)) : List Label :=
  (history.filter fun event => decide (event.1 = some worker) && handsOver event.2).map Prod.snd

/-- What is handed over on behalf of a request. -/
def wanted (request : RequestInfo) : List Label :=
  ((todoOf (handlerFor request)).bind fun todo => (accepted request).map todo).toList

variable {worker : Worker} {history : List (Event Worker)}

theorem handedBy_concat (event : Event Worker) :
    handedBy worker (history ++ [event]) = handedBy worker history ++
      if event.1 = some worker ∧ handsOver event.2 = true then [event.2] else [] := by
  rw [handedBy, List.filter_append, List.map_append, List.filter_singleton]
  by_cases hands : event.1 = some worker ∧ handsOver event.2 = true
  · have both : (decide (event.1 = some worker) && handsOver event.2) = true := by simpa using hands
    rw [if_pos hands, both]
    rfl
  · have neither : (decide (event.1 = some worker) && handsOver event.2) = false := by
      simpa using hands
    rw [if_neg hands, neither]
    rfl

theorem handedBy_other (other : event.1 ≠ some worker) :
    handedBy worker (history ++ [event]) = handedBy worker history := by
  rw [handedBy_concat, if_neg fun hands => other hands.1, List.append_nil]

theorem handedBy_own (label : Label) :
    handedBy worker (history ++ [(some worker, label)]) =
      handedBy worker history ++ if handsOver label then [label] else [] := by
  rw [handedBy_concat]
  simp

/-- A POST for a thread is answered for what becomes of it. -/
def Told (request : RequestInfo) (answer : Answer) : Prop :=
  (todoOf (handlerFor request)).isSome → (answer.reply = replyNoContent ↔ (accepted request).isSome)

/-- The worker has handed over nothing yet, or all that it will. -/
inductive Handing (request : RequestInfo) : List Label → Stage → Prop where
  | serving : Handing request [] (.serving request (handlerFor request))
  | replying {answer : Answer} (told : Told request answer) :
      Handing request (wanted request) (.replying answer)
  | otherwise {stage : Stage} (nothing : todoOf (handlerFor request) = none)
      (chosen : ∀ request handler, stage ≠ .serving request handler) : Handing request [] stage

theorem todoOf_hands {handler : Handler} {todo : StringMap → Label}
    (hands : todoOf handler = some todo) (postValues : StringMap) :
    handsOver (todo postValues) = true := by
  cases handler <;> cases hands <;> rfl

theorem serve_todoOf {handler : Handler} {todo : StringMap → Label}
    (hands : todoOf handler = some todo) (outside : Outside) (request : RequestInfo) :
    serve outside request handler = WebServer.enqueue request todo := by
  cases handler <;> cases hands <;> rfl

/-- A step that hands over nothing, to a stage where the handler has been chosen. -/
structure Otherwise (turn : Label × Stage) : Prop where
  nothing : handsOver turn.1 = false
  chosen : ∀ request handler, turn.2 ≠ .serving request handler

theorem serve_otherwise {outside : Outside} {request : RequestInfo} {handler : Handler}
    {turn : Label × Stage} (nothing : todoOf handler = none)
    (serves : serve outside request handler = some turn) : Otherwise turn := by
  cases handler with
  | msgModePost | imgBackgroundPost | msgBackgroundPost | ledStripPost => cases nothing
  | dictionaryPost =>
      rw [serve_dictionary] at serves
      obtain ⟨result, _, ⟨_, rfl⟩ | ⟨_, rfl⟩⟩ := accept_cases serves
      · exact ⟨rfl, nofun⟩
      · unfold modifyDictionary
        cases readRequest result.postValues <;> exact ⟨rfl, nofun⟩
  | _ =>
      cases serves
      exact ⟨rfl, nofun⟩

theorem proceed_otherwise {outside : Outside} {server : Server} {stage : Stage}
    {turn : Label × Stage} (chosen : ∀ request handler, stage ≠ .serving request handler)
    (proceeds : proceed outside server stage = some turn) : Otherwise turn := by
  cases stage with
  | idle | replying answer => cases proceeds
  | serving request handler => exact absurd rfl (chosen request handler)
  | adding request =>
      cases proceeds
      exact ⟨rfl, nofun⟩
  | gathering page reading snapshot =>
      cases proceeds
      cases reading with
      | entries currKey =>
          refine ⟨rfl, ?_⟩
          unfold gathered
          dsimp only
          split <;> nofun
      | _ => exact ⟨rfl, nofun⟩

theorem enqueue_hands {request : RequestInfo} {todo : StringMap → Label} {turn : Label × Stage}
    (hands : todoOf (handlerFor request) = some todo)
    (turns : WebServer.enqueue request todo = some turn) :
    Handing request (if handsOver turn.1 then [turn.1] else []) turn.2 := by
  obtain ⟨result, parsed, ⟨reply, rfl⟩ | ⟨reply, rfl⟩⟩ := accept_cases turns
  · have refused : accepted request = none := by simp [accepted, parsed, reply]
    have nothing : wanted request = [] := by simp [wanted, hands, refused]
    have told : Told request (.error result.body) := by
      intro _
      rw [refused]
      exact ⟨nofun, nofun⟩
    have handing := Handing.replying told
    rw [nothing] at handing
    exact handing
  · have values : accepted request = some result.postValues := by simp [accepted, parsed, reply]
    have one : wanted request = [todo result.postValues] := by simp [wanted, hands, values]
    have told : Told request noContentAnswer := by
      intro _
      rw [values]
      exact ⟨fun _ => rfl, fun _ => rfl⟩
    have handing := Handing.replying told
    rw [one] at handing
    rw [if_pos (todoOf_hands hands result.postValues)]
    exact handing

theorem handing_step {request : RequestInfo} {outside : Outside} {server : Server}
    {stage later : Stage} {label : Label} {handed : List Label}
    (handing : Handing request handed stage)
    (proceeds : proceed outside server stage = some (label, later)) :
    Handing request (handed ++ if handsOver label then [label] else []) later := by
  have other : todoOf (handlerFor request) = none → Otherwise (label, later) →
      Handing request ([] ++ if handsOver label then [label] else []) later := by
    rintro none ⟨nothing, chosen⟩
    rw [if_neg (ne_true_of_eq_false nothing), List.append_nil]
    exact .otherwise none chosen
  cases handing with
  | serving =>
      cases hands : todoOf (handlerFor request) with
      | none => exact other hands (serve_otherwise hands proceeds)
      | some todo =>
          rw [proceed, serve_todoOf hands] at proceeds
          exact enqueue_hands hands proceeds
  | replying told => cases proceeds
  | otherwise nothing chosen => exact other nothing (proceed_otherwise chosen proceeds)

theorem handing_reply {request : RequestInfo} {answer : Answer} {handed : List Label}
    (handing : Handing request handed (.replying answer)) :
    handed = wanted request ∧ Told request answer := by
  cases handing with
  | replying told => exact ⟨rfl, told⟩
  | otherwise nothing _ =>
      refine ⟨by rw [wanted, nothing]; rfl, fun some => ?_⟩
      rw [nothing] at some
      cases some

theorem session_hands {request : RequestInfo} {start : World Worker} {during : List (Event Worker)}
    (stage : start.stage worker = .serving request (handlerFor request))
    (run : Run Step start during world)
    (unanswered : ∀ answer, (some worker, .reply answer) ∉ during) :
    Handing request (handedBy worker during) (world.stage worker) := by
  refine (session_invariant worker
    (fun during _ stage => Handing request (handedBy worker during) stage) (fun _ => True) ?_ ?_
    (stage ▸ .serving) (by rw [stage]; nofun) run (fun _ _ _ => trivial) unanswered).1
  · intro during server stage event other _ handing
    rw [handedBy_other other]
    exact handing
  · intro during outside server stage label later proceeds handing
    rw [handedBy_own]
    exact handing_step handing proceeds

/-! ### Nobody waits for ever -/

theorem parsePost_ends (requestBody : Option Bytes) (postValues : StringMap) :
    ∃ result, parsePost requestBody postValues = some result := by
  cases requestBody with
  | none => exact ⟨_, rfl⟩
  | some body =>
      by_cases refused : maxPostBodyLen ≤ body.length ∨ body.length < 1
      · exact ⟨_, if_pos refused⟩
      · have enough : body.length ≤ 0 + body.length := Nat.le_add_left ..
        simp only [parsePost, if_neg refused]
        rcases loop_accepts (start_sound body postValues) (clear_zero body) (Nat.zero_le _) with
          ⟨final, stored, ends, kept, _⟩ | ⟨final, ends, _⟩
        · simp only [ends _ enough, kept, Option.map_some]
          exact ⟨_, rfl⟩
        · simp only [ends _ enough]
          exact ⟨_, rfl⟩

theorem accept_ends (request : RequestInfo) (turn : StringMap → Label × Stage) :
    ∃ first, accept request turn = some first := by
  obtain ⟨result, parsed⟩ := parsePost_ends request.requestBody ∅
  rw [accept, parsed]
  exact ⟨_, rfl⟩

theorem worker_moves (busy : world.stage worker ≠ .idle) :
    ∃ label next, Step world (some worker, label) next := by
  have works : (∃ turn, proceed quietOutside world.server (world.stage worker) = some turn) →
      ∃ label next, Step world (some worker, label) next := by
    rintro ⟨⟨label, later⟩, proceeds⟩
    exact ⟨label, _, .work quietOutside proceeds⟩
  cases stage : world.stage worker with
  | idle => exact absurd stage busy
  | replying answer => exact ⟨_, _, .reply stage⟩
  | serving request handler =>
      apply works
      rw [stage, proceed]
      cases handler with
      | msgModePost | imgBackgroundPost | msgBackgroundPost | ledStripPost =>
          rw [serve]
          exact accept_ends request _
      | dictionaryPost => exact accept_ends request modifyDictionary
      | _ => exact ⟨_, rfl⟩
  | adding request => exact works ⟨_, by rw [stage, proceed]⟩
  | gathering page reading snapshot => exact works ⟨_, by rw [stage, proceed]⟩

/-- From the start on, whatever the order of the steps: the threads of the display and of the
strip get what was handed over, in that order and each once; between a request and its reply a
worker hands over what an accepted POST asks for and nothing else, and the reply says whether
it was accepted; and a worker with a request can always go on. -/
theorem posts_handed_over_once {start : World Worker} (launched : Launched start)
    (run : Run Step start history world) :
    Queued displayEnqueued displayTaken start.server.displayTodos history
        world.server.displayTodos ∧
      Queued ledStripEnqueued ledStripTaken start.server.ledStripTodos history
        world.server.ledStripTodos ∧
      (∀ worker before request during answer after,
        history = before ++ (some worker, .request request) ::
          (during ++ (some worker, .reply answer) :: after) →
        (∀ answer, (some worker, .reply answer) ∉ during) →
        handedBy worker during = wanted request ∧ Told request answer) ∧
      ∀ worker, world.stage worker ≠ .idle → ∃ label next, Step world (some worker, label) next := by
  have queues : Queued displayEnqueued displayTaken start.server.displayTodos history
      world.server.displayTodos ∧ Queued ledStripEnqueued ledStripTaken
        start.server.ledStripTodos history world.server.ledStripTodos := by
    refine run.invariant (fun history world => Queued displayEnqueued displayTaken
      start.server.displayTodos history world.server.displayTodos ∧ Queued ledStripEnqueued
        ledStripTaken start.server.ledStripTodos history world.server.ledStripTodos) ?_ ?_
    · exact ⟨List.append_nil _, List.append_nil _⟩
    · rintro _ _ _ _ _ moves ⟨display, ledStrip⟩
      exact ⟨queued_event display (step_queues moves).1,
        queued_event ledStrip (step_queues moves).2⟩
  refine ⟨queues.1, queues.2, ?_, fun worker busy => worker_moves busy⟩
  rintro worker before request during answer after rfl unanswered
  obtain ⟨early, served, first, asked, second⟩ := run.around
  obtain ⟨late, _, middle, replied, _⟩ := second.around
  have stage := (step_request asked).2
  rw [arrive_started (run_table launched.table first)] at stage
  have handing := session_hands stage middle unanswered
  rw [step_reply replied] at handing
  exact handing_reply handing

/-- Messages of one word. -/
def messagePost : RequestInfo := ⟨evhttpReqPost, bytes "/msgMode", some (bytes "msg=hi")⟩
def otherPost : RequestInfo := ⟨evhttpReqPost, bytes "/msgMode", some (bytes "msg=ho")⟩

theorem asks_message (request : RequestInfo) (table : world.server.webHandlers = some started)
    (own : handlerFor request = .msgModePost) (free : world.stage worker = .idle) :
    ∃ next, Step world (some worker, .request request) next ∧
      next.stage worker = .serving request .msgModePost := by
  have asked := Step.request request free
  refine ⟨_, asked, (step_request asked).2.trans ?_⟩
  rw [arrive_started table, own]

theorem hands_message {request : RequestInfo} {result : PostResult}
    (stage : world.stage worker = .serving request .msgModePost)
    (parsed : parsePost request.requestBody ∅ = some result) (ok : result.reply = .replyOk) :
    ∃ next, Step world (some worker, .enqueueDisplayTodo (.handleMsgModePost result.postValues))
      next ∧ next.stage worker = .replying noContentAnswer := by
  have turned : proceed quietOutside world.server (world.stage worker) =
      some (.enqueueDisplayTodo (.handleMsgModePost result.postValues),
        .replying noContentAnswer) := by
    rw [stage, proceed, serve, enqueue, accept, parsed, Option.map_some, ok]
  exact ⟨_, .work quietOutside turned, move_stage ..⟩

theorem takes_message {displayTodo : DisplayTodo}
    (waits : world.server.displayTodos = [displayTodo]) :
    ∃ next, Step world (none, .takeDisplayTodo displayTodo) next ∧ next.stage = world.stage := by
  have head : Surrounding world.server (.takeDisplayTodo displayTodo) := by
    rw [Surrounding, waits]
    rfl
  exact ⟨_, .others head, rfl⟩

theorem answers {answer : Answer} (ready : world.stage worker = .replying answer) :
    ∃ next, Step world (some worker, .reply answer) next := ⟨_, .reply ready⟩

theorem parses_ok {request : RequestInfo}
    (ok : (parsePost request.requestBody ∅).any (fun result => result.reply = .replyOk) = true) :
    ∃ result, parsePost request.requestBody ∅ = some result ∧ result.reply = .replyOk := by
  obtain ⟨result, parsed, reply⟩ := (Option.any_eq_true _ _).mp ok
  exact ⟨result, parsed, of_decide_eq_true reply⟩

theorem step_other {world next : World Bool} {worker : Bool} {label : Label}
    (step : Step world (some worker, label) next) :
    next.stage (!worker) = world.stage (!worker) :=
  step_elsewhere step (by cases worker <;> exact nofun)

/-- Two workers hand over their messages, the second one first, and the thread of the display takes
that one before the other comes. -/
theorem posts_handed_over_once_sample : ∃ first second : DisplayTodo, ∃ world : World Bool,
    let during := [(some true, .request otherPost), (some true, .enqueueDisplayTodo second),
      (none, .takeDisplayTodo second), (some false, .enqueueDisplayTodo first),
      (some true, .reply noContentAnswer)]
    Run Step launch ((some false, .request messagePost) ::
        (during ++ (some false, .reply noContentAnswer) :: [])) world ∧
      handedBy false during = wanted messagePost ∧
      wanted messagePost = [.enqueueDisplayTodo first] ∧
      Told messagePost noContentAnswer ∧ world.server.displayTodos = [first] := by
  obtain ⟨hi, parsed, ok⟩ := @parses_ok messagePost (by decide +kernel)
  obtain ⟨ho, parsed', ok'⟩ := @parses_ok otherPost (by decide +kernel)
  obtain ⟨one, asks, stage⟩ :=
    asks_message messagePost launched_launch.table rfl (launched_launch.free false)
  have begun := Run.one asks
  obtain ⟨two, asks', stage'⟩ := asks_message otherPost (run_table launched_launch.table begun) rfl
    ((step_other asks).trans (launched_launch.free true))
  obtain ⟨three, hands', ready'⟩ := hands_message stage' parsed' ok'
  have given := (begun.step asks').step hands'
  have waits : [.handleMsgModePost ho.postValues] = three.server.displayTodos :=
    (posts_handed_over_once launched_launch given).1
  -- The first worker has been at its handler all the time.
  obtain ⟨four, takes, same⟩ := takes_message waits.symm
  have stays : four.stage false = .serving messagePost .msgModePost :=
    same ▸ (step_other hands').trans ((step_other asks').trans stage)
  obtain ⟨five, hands, ready⟩ := hands_message stays parsed ok
  have waits' : five.stage true = .replying noContentAnswer :=
    (step_other hands).trans (same ▸ ready')
  obtain ⟨six, replies'⟩ := answers waits'
  obtain ⟨seven, replies⟩ := answers ((step_other replies').trans ready)
  have whole := (((given.step takes).step hands).step replies').step replies
  obtain ⟨queue, -, sessions, -⟩ := posts_handed_over_once launched_launch whole
  have own : accepted messagePost = some hi.postValues := by
    simp [accepted, parsed, ok]
  obtain ⟨handed, told⟩ := sessions false [] messagePost _ noContentAnswer [] rfl (by simp)
  have wants : wanted messagePost = [.enqueueDisplayTodo (.handleMsgModePost hi.postValues)] := by
    rw [wanted, own]
    rfl
  have left : [.handleMsgModePost ho.postValues, .handleMsgModePost hi.postValues] =
      .handleMsgModePost ho.postValues :: seven.server.displayTodos := queue
  exact ⟨_, _, seven, whole, handed, wants, told, (List.cons.inj left).2.symm⟩

end OClock.PostedTodos

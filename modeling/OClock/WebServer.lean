import OClock.LabelledRun
import OClock.PostAcceptance
import OClock.WebHandlerInternal

/-!
The workers of the web server over what they share. What a worker does under one lock is one
step; between its steps the other workers, the timer and the threads of the display and of the
strip do what they like.
-/

namespace OClock.WebServer
open Text DictionaryStore DictionaryInvariant StatusReport StatusText StatusGather
open WebHandlerInternal LabelledRun
open DisplayInternal (DisplayTodo)
open PostParser (parsePost returnError)

/-! ### One worker -/

inductive Page where
  | text
  | json

def Page.answer (snapshot : StatusSnapshot) : Page → Answer
  | .text => ⟨replyOk, textType, CommonUtils.cText (renderStatusText snapshot)⟩
  | .json => ⟨replyOk, jsonType, CommonUtils.cText (renderStatusJson snapshot)⟩

/-- What `gatherStatusSnapshot` reads next. -/
inductive Reading where
  | handlerHits
  | singletons
  | dictionaryStatus
  | dictionarySize
  | entries (currKey : Bytes)

inductive Stage where
  | idle
  | serving (request : RequestInfo) (handler : Handler)
  | adding (request : Request)
  | gathering (page : Page) (reading : Reading) (snapshot : StatusSnapshot)
  | replying (answer : Answer)

/-- A quiet step leaves what is shared as it is. -/
inductive Label where
  | request (request : RequestInfo)
  | quiet
  | removeForRequest (request : Request)
  | addForRequest (request : Request)
  | getNext (key : Bytes)
  | enqueueDisplayTodo (displayTodo : DisplayTodo)
  | enqueueLedStripTodo (postValues : StringMap)
  | serverStop
  | reply (answer : Answer)
  | dictionary (op : DictionaryRun.Op)
  | takeDisplayTodo (displayTodo : DisplayTodo)
  | takeLedStripTodo (postValues : StringMap)

/-- `handleRequest` up to the handler. -/
def arrive (server : Server) (request : RequestInfo) : Stage × Server :=
  match server.webHandlers with
  | none => (.replying (.html replyServerUnavail []), server)
  | some handlers =>
      match chooseHandler handlers request server with
      | (none, server) => (.replying (.html replyNotFound []), server)
      | (some handler, server) => (.serving request handler, server)

def effect (server : Server) : Label → Server
  | .request request => (arrive server request).2
  | .removeForRequest request =>
      { server with dictionary := removeForRequest server.dictionary request }
  | .addForRequest request =>
      { server with dictionary := (addForRequest server.dictionary request).2 }
  | .getNext key => { server with dictionary := (getNext server.dictionary key).2 }
  | .enqueueDisplayTodo displayTodo => enqueueDisplayTodo server displayTodo
  | .enqueueLedStripTodo postValues =>
      { server with ledStripTodos := server.ledStripTodos ++ [postValues] }
  | .serverStop => { server with stops := server.stops + 1 }
  | .dictionary op => { server with dictionary := (DictionaryRun.step server.dictionary op).2 }
  | .takeDisplayTodo _ => { server with displayTodos := server.displayTodos.tail }
  | .takeLedStripTodo _ => { server with ledStripTodos := server.ledStripTodos.tail }
  | .quiet | .reply _ => server

def noContentAnswer : Answer := .html replyNoContent []

def dictionaryError : Answer :=
  .error (returnError 761 (bytes "Was unable to parse request on dictionary") ∅).body

def accept (request : RequestInfo) (accepted : StringMap → Label × Stage) :
    Option (Label × Stage) :=
  (parsePost request.requestBody ∅).map fun result =>
    match result.reply with
    | .replyInternalError => (.quiet, .replying (.error result.body))
    | .replyOk => accepted result.postValues

def enqueue (request : RequestInfo) (todo : StringMap → Label) : Option (Label × Stage) :=
  accept request fun postValues => (todo postValues, .replying noContentAnswer)

def modifyDictionary (postValues : StringMap) : Label × Stage :=
  match readRequest postValues with
  | none => (.quiet, .replying dictionaryError)
  | some request => (.removeForRequest request, .adding request)

def serve (outside : Outside) (request : RequestInfo) : Handler → Option (Label × Stage)
  | .notFound => some (.quiet, .replying (.html replyNotFound (notFoundPage request.uriPath)))
  | .headRoot => some (.quiet, .replying noContentAnswer)
  | .status => some (.quiet, .gathering .text .handlerHits default)
  | .statusJson => some (.quiet, .gathering .json .handlerHits default)
  | .msgModePost => enqueue request fun postValues =>
      .enqueueDisplayTodo (.handleMsgModePost postValues)
  | .imgBackgroundPost => enqueue request fun postValues =>
      .enqueueDisplayTodo (.handleImgBackgroundPost postValues)
  | .msgBackgroundPost => enqueue request fun postValues =>
      .enqueueDisplayTodo (.handleMsgBackgroundPost postValues)
  | .ledStripPost => enqueue request .enqueueLedStripTodo
  | .dictionaryPost => accept request modifyDictionary
  | .stop | .stopPost =>
      some (.serverStop, .replying
        (if outside.pthreadKill = 0 then noContentAnswer else .html replyInternalError []))
  | handler => some (.quiet, .replying (.html replyOk (outside.page handler)))

def listing (snapshot : StatusSnapshot) (entries : List (Bytes × Bytes)) : StatusSnapshot :=
  { snapshot with dictionaryEntries := snapshot.dictionaryEntries ++ entries }

def gathered (outside : Outside) (server : Server) (page : Page) (snapshot : StatusSnapshot) :
    Reading → Label × Stage
  | .handlerHits => (.quiet, .gathering page .singletons { snapshot with
      webHandlerAvailable := (getHandlerHits server).isSome
      handlerHits := (getHandlerHits server).getD [] })
  | .singletons => (.quiet, .gathering page .dictionaryStatus { snapshot with
      motion := outside.application.motion
      lightValue := outside.application.lightValue
      displayMode := outside.application.displayMode
      displayDimmed := outside.application.displayDimmed
      ledStripMode := outside.application.ledStripMode
      mqtt := outside.application.mqtt
      mqttBrokerIp := outside.application.mqttBrokerIp.getD []
      mqttLastLoopRcStr := outside.application.getStrError outside.application.mqtt.lastLoopRc
      system := outside.application.system })
  | .dictionaryStatus => (.quiet, .gathering page .dictionarySize { snapshot with
      dictionaryStatus := getDictionaryStatus server.dictionary })
  | .dictionarySize => (.quiet, .gathering page (.entries []) { snapshot with
      dictionarySize := UInt64.ofNat (size server.dictionary) })
  | .entries currKey =>
      let next := (getNext server.dictionary currKey).1
      (.getNext currKey,
        if next.found then .gathering page (.entries next.key) (listing snapshot [(next.key, next.data)])
        else .replying (page.answer snapshot))

def proceed (outside : Outside) (server : Server) : Stage → Option (Label × Stage)
  | .serving request handler => serve outside request handler
  | .adding request =>
      some (.addForRequest request, .replying
        (if (addForRequest server.dictionary request).1 then noContentAnswer else dictionaryError))
  | .gathering page reading snapshot => some (gathered outside server page snapshot reading)
  | .idle | .replying _ => none

/-! ### All of them -/

section

variable {Worker : Type}

/-- Whose step it is, if not that of the surroundings. -/
abbrev Event (Worker : Type) := Option Worker × Label

structure World (Worker : Type) where
  server : Server
  stage : Worker → Stage

/-- The timer, and the threads that take what waits for them. -/
def Surrounding (server : Server) : Label → Prop
  | .dictionary _ => True
  | .takeDisplayTodo displayTodo => server.displayTodos.head? = some displayTodo
  | .takeLedStripTodo postValues => server.ledStripTodos.head? = some postValues
  | _ => False

variable [DecidableEq Worker]

def World.move (world : World Worker) (worker : Worker) (label : Label) (next : Stage) :
    World Worker :=
  ⟨effect world.server label, Function.update world.stage worker next⟩

inductive Step : World Worker → Event Worker → World Worker → Prop where
  | request {world : World Worker} {worker : Worker} (request : RequestInfo)
      (free : world.stage worker = .idle) :
      Step world (some worker, .request request)
        (world.move worker (.request request) (arrive world.server request).1)
  | work {world : World Worker} {worker : Worker} (outside : Outside) {label : Label}
      {next : Stage}
      (proceeds : proceed outside world.server (world.stage worker) = some (label, next)) :
      Step world (some worker, label) (world.move worker label next)
  | reply {world : World Worker} {worker : Worker} {answer : Answer}
      (ready : world.stage worker = .replying answer) :
      Step world (some worker, .reply answer) (world.move worker (.reply answer) .idle)
  | others {world : World Worker} {label : Label} (outside : Surrounding world.server label) :
      Step world (none, label) { world with server := effect world.server label }

variable {world next : World Worker} {event : Event Worker} {worker : Worker}

/-- The table is there, and nobody has asked yet. -/
structure Launched (world : World Worker) : Prop where
  table : world.server.webHandlers = some started
  hits : world.server.hits = fun _ => 0
  reached : DictionaryRun.Reachable world.server.dictionary
  free : ∀ worker, world.stage worker = .idle

theorem step_server (step : Step world event next) :
    next.server = effect world.server event.2 := by
  cases step <;> rfl

theorem step_elsewhere (step : Step world event next) (other : event.1 ≠ some worker) :
    next.stage worker = world.stage worker := by
  cases step with
  | others _ => rfl
  | _ => exact Function.update_of_ne (fun same => other (congrArg some same.symm)) _ _

theorem accept_cases {request : RequestInfo} {accepted : StringMap → Label × Stage}
    {turn : Label × Stage} (accepts : accept request accepted = some turn) :
    ∃ result, parsePost request.requestBody ∅ = some result ∧
      ((result.reply = .replyInternalError ∧
          turn = (.quiet, .replying (.error result.body))) ∨
        (result.reply = .replyOk ∧ turn = accepted result.postValues)) := by
  obtain ⟨result, parsed, same⟩ := Option.map_eq_some_iff.mp accepts
  refine ⟨result, parsed, ?_⟩
  cases reply : result.reply with
  | replyInternalError => exact .inl ⟨rfl, by simpa [reply] using same.symm⟩
  | replyOk => exact .inr ⟨rfl, by simpa [reply] using same.symm⟩

/-- The steps that a worker takes between a request and its reply. -/
def Label.working : Label → Bool
  | .quiet | .removeForRequest _ | .addForRequest _ | .getNext _ | .enqueueDisplayTodo _
  | .enqueueLedStripTodo _ | .serverStop => true
  | _ => false

structure Working (turn : Label × Stage) : Prop where
  label : turn.1.working = true
  stage : turn.2 ≠ .idle

theorem accept_working {request : RequestInfo} {accepted : StringMap → Label × Stage}
    {turn : Label × Stage} (accepts : accept request accepted = some turn)
    (works : ∀ postValues, Working (accepted postValues)) : Working turn := by
  obtain ⟨result, _, ⟨_, rfl⟩ | ⟨_, rfl⟩⟩ := accept_cases accepts
  · exact ⟨rfl, nofun⟩
  · exact works result.postValues

theorem serve_working {outside : Outside} {request : RequestInfo} {handler : Handler}
    {turn : Label × Stage} (serves : serve outside request handler = some turn) :
    Working turn := by
  cases handler with
  | msgModePost | imgBackgroundPost | msgBackgroundPost | ledStripPost =>
      rw [serve] at serves
      exact accept_working serves fun _ => ⟨rfl, nofun⟩
  | dictionaryPost =>
      rw [serve] at serves
      refine accept_working serves fun postValues => ?_
      unfold modifyDictionary
      cases readRequest postValues <;> exact ⟨rfl, nofun⟩
  | _ =>
      cases serves
      exact ⟨rfl, nofun⟩

theorem proceed_working {outside : Outside} {server : Server} {stage : Stage}
    {turn : Label × Stage} (proceeds : proceed outside server stage = some turn) :
    Working turn := by
  cases stage with
  | idle | replying answer => cases proceeds
  | serving request handler => exact serve_working proceeds
  | adding request =>
      cases proceeds
      exact ⟨rfl, nofun⟩
  | gathering page reading snapshot =>
      cases proceeds
      cases reading with
      | entries currKey =>
          refine ⟨rfl, ?_⟩
          unfold gathered
          dsimp only
          split <;> nofun
      | _ => exact ⟨rfl, nofun⟩

theorem step_request {request : RequestInfo}
    (step : Step world (some worker, .request request) next) :
    world.stage worker = .idle ∧ next.stage worker = (arrive world.server request).1 := by
  cases step with
  | request _ free => exact ⟨free, Function.update_self ..⟩
  | work outside proceeds => cases (proceed_working proceeds).label

theorem step_reply {answer : Answer} (step : Step world (some worker, .reply answer) next) :
    world.stage worker = .replying answer := by
  cases step with
  | work outside proceeds => cases (proceed_working proceeds).label
  | reply ready => exact ready

/-! ### What a request changes -/

theorem findWebHandler_keeps (handlers : WebHandlers) (server : Server) (key : WebHandlerKey) :
    ∃ hits, (findWebHandler handlers server key).2 = { server with hits := hits } := by
  unfold findWebHandler
  cases handlers[key]? with
  | none => exact ⟨server.hits, rfl⟩
  | some handler => exact ⟨_, rfl⟩

theorem chooseHandler_keeps (handlers : WebHandlers) (request : RequestInfo) (server : Server) :
    ∃ hits, (chooseHandler handlers request server).2 = { server with hits := hits } := by
  obtain ⟨hits, own⟩ :=
    findWebHandler_keeps handlers server ⟨request.method, request.uriPath⟩
  obtain ⟨headHits, head⟩ := findWebHandler_keeps handlers { server with hits := hits } uriHead
  unfold chooseHandler
  generalize findWebHandler handlers server ⟨request.method, request.uriPath⟩ = found at own ⊢
  obtain ⟨handler, after⟩ := found
  cases own
  cases handler with
  | some handler => exact ⟨hits, rfl⟩
  | none =>
      by_cases method : request.method = evhttpReqHead
      · simp only [if_pos method]
        generalize findWebHandler handlers { server with hits := hits } uriHead = second at head ⊢
        obtain ⟨handler, after⟩ := second
        cases head
        cases handler with
        | some handler => exact ⟨headHits, rfl⟩
        | none => exact findWebHandler_keeps handlers { server with hits := headHits } uriNotFound
      · simp only [if_neg method]
        exact findWebHandler_keeps handlers { server with hits := hits } uriNotFound

/-- It is only counted. -/
theorem arrive_keeps (server : Server) (request : RequestInfo) :
    ∃ hits, (arrive server request).2 = { server with hits := hits } := by
  unfold arrive
  split
  · exact ⟨server.hits, rfl⟩
  · next handlers _ =>
      obtain ⟨hits, kept⟩ := chooseHandler_keeps handlers request server
      refine ⟨hits, ?_⟩
      rw [← kept]
      rcases chooseHandler handlers request server with ⟨none | handler, after⟩ <;> rfl

theorem arrive_started {server : Server} (up : server.webHandlers = some started)
    (request : RequestInfo) :
    arrive server request =
      (.serving request (handlerFor request), bumpHits server (handlerFor request)) := by
  rw [arrive, up]
  dsimp only
  rw [chooseHandler_started]

theorem effect_table (server : Server) (label : Label) :
    (effect server label).webHandlers = server.webHandlers := by
  cases label with
  | request request =>
      obtain ⟨hits, kept⟩ := arrive_keeps server request
      rw [effect, kept]
  | _ => rfl

theorem run_table {start : World Worker} (up : start.server.webHandlers = some started)
    {history : List (Event Worker)} (run : Run Step start history world) :
    world.server.webHandlers = some started := by
  refine run.invariant (fun _ world => world.server.webHandlers = some started) up ?_
  intro _ middle event next _ moves table
  rw [step_server moves, effect_table, table]

/-! ### The steps of one request -/

variable (worker) in
/-- What the worker's own steps and the admitted steps of all others keep, from the request to
before the reply. -/
theorem session_invariant (holds : List (Event Worker) → Server → Stage → Prop)
    (admitted : Event Worker → Prop)
    (others : ∀ history server stage event, event.1 ≠ some worker → admitted event →
      holds history server stage → holds (history ++ [event]) (effect server event.2) stage)
    (own : ∀ history outside server stage label later,
      proceed outside server stage = some (label, later) → holds history server stage →
      holds (history ++ [(some worker, label)]) (effect server label) later)
    {start : World Worker} (initial : holds [] start.server (start.stage worker))
    (busy : start.stage worker ≠ .idle) {history : List (Event Worker)}
    (run : Run Step start history world)
    (alone : ∀ event ∈ history, event.1 ≠ some worker → admitted event)
    (unanswered : ∀ answer, (some worker, .reply answer) ∉ history) :
    holds history world.server (world.stage worker) ∧ world.stage worker ≠ .idle := by
  induction run with
  | start => exact ⟨initial, busy⟩
  | @step history middle event later _ moves ih =>
      obtain ⟨held, working⟩ := ih (fun event there => alone event (List.mem_append_left _ there))
        fun answer there => unanswered answer (List.mem_append_left _ there)
      have last : event ∈ history ++ [event] := List.mem_append_right _ (List.mem_singleton_self _)
      rw [step_server moves]
      by_cases mine : event.1 = some worker
      · cases moves with
        | request request free =>
            cases mine
            exact absurd free working
        | @work mover outside label stage proceeds =>
            cases mine
            have moved : (middle.move worker label stage).stage worker = stage :=
              Function.update_self ..
            rw [moved]
            exact ⟨own _ _ _ _ _ _ proceeds held, (proceed_working proceeds).stage⟩
        | @reply mover answer ready =>
            cases mine
            exact absurd last (unanswered answer)
        | others _ => cases mine
      · rw [step_elsewhere moves mine]
        exact ⟨others _ _ _ _ mine (alone event last mine) held, working⟩

/-! ### A request that nobody interrupts -/

/-- By itself the worker gets to the reply and leaves this behind. -/
def Alone (world : World Worker) (worker : Worker) (answer : Answer) (server : Server) : Prop :=
  ∃ labels : List Label, (∀ label ∈ labels, label.working = true) ∧
    Run Step world (labels.map fun label => (some worker, label))
      ⟨server, Function.update world.stage worker (.replying answer)⟩

variable {answer : Answer} {server : Server}

theorem alone_ready (ready : world.stage worker = .replying answer) :
    Alone world worker answer world.server := by
  refine ⟨[], List.forall_mem_nil _, ?_⟩
  rw [← ready, Function.update_eq_self]
  exact .start

theorem alone_step (outside : Outside) {label : Label} {later : Stage}
    (proceeds : proceed outside world.server (world.stage worker) = some (label, later))
    (alone : Alone (world.move worker label later) worker answer server) :
    Alone world worker answer server := by
  obtain ⟨labels, works, run⟩ := alone
  refine ⟨label :: labels, List.forall_mem_cons.mpr ⟨(proceed_working proceeds).label, works⟩, ?_⟩
  rw [World.move, Function.update_idem] at run
  exact (Run.one (.work outside proceeds)).append run

@[simp] theorem move_stage (label : Label) (later : Stage) :
    (world.move worker label later).stage worker = later := Function.update_self ..

theorem listing_nil (snapshot : StatusSnapshot) : listing snapshot [] = snapshot := by
  rw [listing, List.append_nil]

theorem listing_cons (snapshot : StatusSnapshot) (entry : Bytes × Bytes)
    (rest : List (Bytes × Bytes)) :
    listing snapshot (entry :: rest) = listing (listing snapshot [entry]) rest := by
  simp [listing]

theorem entries_alone (outside : Outside) (page : Page) (fuel : Nat) {world : World Worker}
    {key : Bytes} {snapshot : StatusSnapshot} {listed : List (Bytes × Bytes)}
    {after : Dictionary} (walked : visitAll fuel world.server.dictionary key = some (listed, after))
    (stage : world.stage worker = .gathering page (.entries key) snapshot) :
    Alone world worker (page.answer (listing snapshot listed))
      { world.server with dictionary := after } := by
  induction fuel generalizing world key snapshot listed with
  | zero => cases walked
  | succ fuel ih =>
      simp only [visitAll] at walked
      refine alone_step outside (by rw [stage, proceed, gathered]) ?_
      by_cases found : (getNext world.server.dictionary key).1.found = true
      · rw [if_pos found] at walked ⊢
        obtain ⟨⟨rest, final⟩, onwards, same⟩ := Option.map_eq_some_iff.mp walked
        cases same
        rw [listing_cons snapshot _ rest]
        exact ih onwards (move_stage ..)
      · rw [if_neg found] at walked ⊢
        cases walked
        rw [listing_nil]
        exact alone_ready (move_stage ..)

theorem reading_alone (outside : Outside) {page : Page} {reading : Reading}
    {snapshot : StatusSnapshot} (stage : world.stage worker = .gathering page reading snapshot)
    (alone : Alone (world.move worker (gathered outside world.server page snapshot reading).1
      (gathered outside world.server page snapshot reading).2) worker answer server) :
    Alone world worker answer server :=
  alone_step outside (by rw [stage, proceed]) alone

theorem gather_alone (outside : Outside) (page : Page) (valid : Consistent world.server.dictionary)
    (stage : world.stage worker = .gathering page .handlerHits default) :
    Alone world worker (page.answer (gather outside world.server).1)
      (gather outside world.server).2 := by
  obtain ⟨listed, walked⟩ := DictionaryTraversal.purge_ends valid
  have reads : readEntries world.server.dictionary =
      (listed, purgeExpiredDictionaryEntries world.server.dictionary) := by
    rw [readEntries, walked]
    rfl
  refine reading_alone outside stage ?_
  refine reading_alone outside (move_stage ..) ?_
  refine reading_alone outside (move_stage ..) ?_
  refine reading_alone outside (move_stage ..) ?_
  rw [gather, gatherStatusSnapshot, reads]
  refine cast (congrArg₂ (Alone _ worker) ?_ ?_)
    (entries_alone outside page _ walked (move_stage ..))
  · rfl
  · rfl

theorem alone_once (outside : Outside) {label : Label}
    (proceeds : proceed outside world.server (world.stage worker) =
      some (label, .replying answer)) : Alone world worker answer (effect world.server label) :=
  alone_step outside proceeds (alone_ready (move_stage ..))

theorem withPost_cases {request : RequestInfo} {accepted : StringMap → Answer × Server}
    {served : Answer × Server} (posts : withPost request server accepted = some served) :
    ∃ result, parsePost request.requestBody ∅ = some result ∧
      ((result.reply = .replyInternalError ∧ served = (.error result.body, server)) ∨
        (result.reply = .replyOk ∧ served = accepted result.postValues)) := by
  obtain ⟨result, parsed, same⟩ := Option.map_eq_some_iff.mp posts
  refine ⟨result, parsed, ?_⟩
  cases reply : result.reply with
  | replyInternalError => exact .inl ⟨rfl, by simpa [reply] using same.symm⟩
  | replyOk => exact .inr ⟨rfl, by simpa [reply] using same.symm⟩

theorem accept_alone {outside : Outside} {request : RequestInfo} {handler : Handler}
    {turn : StringMap → Label × Stage} {accepted : StringMap → Answer × Server}
    (stage : world.stage worker = .serving request handler)
    (serves : serve outside request handler = accept request turn)
    (posts : withPost request world.server accepted = some (answer, server))
    (follows : ∀ postValues,
      Alone (world.move worker (turn postValues).1 (turn postValues).2) worker
        (accepted postValues).1 (accepted postValues).2) :
    Alone world worker answer server := by
  obtain ⟨result, parsed, ⟨reply, same⟩ | ⟨reply, same⟩⟩ := withPost_cases posts
  · cases same
    have turned : proceed outside world.server (world.stage worker) =
        some (.quiet, .replying (.error result.body)) := by
      rw [stage, proceed, serves, accept, parsed, Option.map_some, reply]
    exact alone_once outside turned
  · have turned : proceed outside world.server (world.stage worker) =
        some (turn result.postValues) := by
      rw [stage, proceed, serves, accept, parsed, Option.map_some, reply]
    have alone := follows result.postValues
    rw [← same] at alone
    exact alone_step outside turned alone

theorem serve_dictionary (outside : Outside) (request : RequestInfo) :
    serve outside request .dictionaryPost = accept request modifyDictionary := rfl

/-- The worker does as `process` says when nobody comes between its steps. -/
theorem process_alone {outside : Outside} {request : RequestInfo} {handler : Handler}
    (valid : Consistent world.server.dictionary)
    (stage : world.stage worker = .serving request handler)
    (processed : WebHandlerInternal.process outside request world.server handler =
      some (answer, server)) : Alone world worker answer server := by
  cases handler with
  | msgModePost | imgBackgroundPost | msgBackgroundPost | ledStripPost =>
      rw [WebHandlerInternal.process] at processed
      exact accept_alone stage (serve.eq_def outside request _) processed
        fun postValues => alone_ready (move_stage ..)
  | dictionaryPost =>
      rw [WebHandlerInternal.process] at processed
      refine accept_alone stage (serve_dictionary outside request) processed fun postValues => ?_
      unfold modifyDictionary parsePostRequest
      cases readRequest postValues with
      | none => exact alone_ready (move_stage ..)
      | some wanted =>
          have added := @alone_once Worker _ (world.move worker (.removeForRequest wanted)
            (.adding wanted)) worker _ outside _ (by rw [move_stage, proceed])
          change Alone _ worker (if (addForRequest (removeForRequest world.server.dictionary wanted)
            wanted).1 then noContentAnswer else dictionaryError) _ at added
          dsimp only
          split at added
          · next done => rw [if_pos done]; exact added
          · next refused => rw [if_neg refused]; exact added
  | status =>
      cases processed
      have first : proceed outside world.server (world.stage worker) =
          some (.quiet, .gathering .text .handlerHits default) := by rw [stage, proceed, serve]
      exact alone_step outside first (gather_alone outside .text valid (move_stage ..))
  | statusJson =>
      cases processed
      have first : proceed outside world.server (world.stage worker) =
          some (.quiet, .gathering .json .handlerHits default) := by rw [stage, proceed, serve]
      exact alone_step outside first (gather_alone outside .json valid (move_stage ..))
  | stop | stopPost =>
      have stops := @alone_once Worker _ world worker _ outside _ (by rw [stage, proceed, serve])
      rw [WebHandlerInternal.process] at processed
      split at processed
      · next killed =>
          cases processed
          rw [if_pos killed] at stops
          exact stops
      · next failed =>
          cases processed
          rw [if_neg failed] at stops
          exact stops
  | _ =>
      cases processed
      refine @alone_once Worker _ world worker _ outside .quiet ?_
      rw [stage]
      rfl

theorem handleRequest_arrive (outside : Outside) (request : RequestInfo) (server : Server) :
    (∃ handler, (arrive server request).1 = .serving request handler ∧
        handleRequest outside request server =
          WebHandlerInternal.process outside request (arrive server request).2 handler) ∨
      ∃ answer, (arrive server request).1 = .replying answer ∧
        handleRequest outside request server = some (answer, (arrive server request).2) := by
  unfold handleRequest arrive
  cases server.webHandlers with
  | none => exact .inr ⟨_, rfl, rfl⟩
  | some handlers =>
      dsimp only
      rcases chooseHandler handlers request server with ⟨none | handler, after⟩
      · exact .inr ⟨_, rfl, rfl⟩
      · exact .inl ⟨handler, rfl, rfl⟩

variable (worker) in
/-- Between a request and its reply a worker that is left to itself does what `handleRequest`
does. -/
theorem request_alone {outside : Outside} {request : RequestInfo}
    (valid : Consistent world.server.dictionary)
    (served : handleRequest outside request world.server = some (answer, server)) :
    Alone (world.move worker (.request request) (arrive world.server request).1) worker answer
      server := by
  have kept : (arrive world.server request).2.dictionary = world.server.dictionary := by
    obtain ⟨hits, kept⟩ := arrive_keeps world.server request
    rw [kept]
  rcases handleRequest_arrive outside request world.server with
    ⟨handler, stage, same⟩ | ⟨reply, stage, same⟩
  · rw [same] at served
    rw [stage]
    exact process_alone (kept.symm ▸ valid) (move_stage ..) served
  · rw [same] at served
    cases served
    rw [stage]
    exact alone_ready (move_stage ..)

/-- The run of that worker, with the reply. -/
theorem alone_replies (alone : Alone world worker answer server) :
    ∃ during, (∀ event ∈ during, event.1 = some worker) ∧
      (∀ answer, (some worker, .reply answer) ∉ during) ∧
      Run Step world (during ++ [(some worker, .reply answer)])
        ⟨server, Function.update world.stage worker .idle⟩ := by
  obtain ⟨labels, works, run⟩ := alone
  refine ⟨labels.map fun label => (some worker, label), ?_, ?_, ?_⟩
  · intro event inside
    obtain ⟨label, _, rfl⟩ := List.mem_map.mp inside
    rfl
  · intro other inside
    obtain ⟨label, there, same⟩ := List.mem_map.mp inside
    cases same
    cases works _ there
  · have ready : (⟨server, Function.update world.stage worker (.replying answer)⟩ :
        World Worker).stage worker = .replying answer := Function.update_self ..
    have replied := Step.reply ready
    rw [World.move, Function.update_idem] at replied
    exact run.append (Run.one replied)

end

def quietOutside : Outside := ⟨quietApplication, fun _ => [], 0⟩

def launch : World Bool where
  server := ⟨some started, fun _ => 0, [], [], .new, 0⟩
  stage := fun _ => .idle

theorem launched_launch : Launched launch := ⟨rfl, rfl, ⟨[], rfl⟩, fun _ => rfl⟩

end OClock.WebServer

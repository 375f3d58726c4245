import OClock.StatusRequests

/-!
The hit counts of the status page among requests that are served at the same time.
-/

namespace OClock.ReportedHits
open Text JsonGrammar DictionaryInvariant StatusReport StatusDocument StatusText StatusGather
open WebHandlerInternal WebServer StatusRequests LabelledRun

/-! ### Reading the page -/

theorem follow_hits (snapshot : StatusSnapshot) (label : Bytes) :
    follow [bytes "handlers", bytes "hits", label] (statusDocument snapshot) =
      memberOf label (hitsDocument snapshot) := by
  have outer : memberOf (bytes "handlers") (statusDocument snapshot) =
      some (.obj [(bytes "hits", hitsDocument snapshot)]) := rfl
  have inner : memberOf (bytes "hits") (.obj [(bytes "hits", hitsDocument snapshot)]) =
      some (hitsDocument snapshot) := rfl
  simp only [follow, outer, inner, Option.bind_some]
  cases memberOf label (hitsDocument snapshot) <;> rfl

/-! ### The counters -/

variable {Worker : Type}

def asked (event : Event Worker) : Option RequestInfo :=
  match event.2 with
  | .request request => some request
  | _ => none

def requests (history : List (Event Worker)) : List RequestInfo := history.filterMap asked

def requestsFor (handler : Handler) (history : List (Event Worker)) : Nat :=
  (requests history).countP fun request => handlerFor request = handler

structure Counted (history : List (Event Worker)) (server : Server) : Prop where
  table : server.webHandlers = some started
  hits : ∀ handler, server.hits handler = UInt32.ofNat (requestsFor handler history)

theorem requestsFor_concat (handler : Handler) (history : List (Event Worker))
    (event : Event Worker) :
    requestsFor handler (history ++ [event]) = requestsFor handler history +
      (asked event).toList.countP fun request => handlerFor request = handler := by
  unfold requestsFor requests
  rw [List.filterMap_append, List.countP_append]
  cases asks : asked event with
  | none => rw [List.filterMap_cons_none asks]; rfl
  | some request => rw [List.filterMap_cons_some asks]; rfl

theorem counted_event {history : List (Event Worker)} {server : Server}
    (counted : Counted history server) (event : Event Worker) :
    Counted (history ++ [event]) (effect server event.2) := by
  obtain ⟨table, hits⟩ := counted
  have quiet : asked event = none → ∀ handler,
      server.hits handler = UInt32.ofNat (requestsFor handler (history ++ [event])) := by
    intro none handler
    rw [requestsFor_concat, none]
    exact hits handler
  obtain ⟨mover, label⟩ := event
  cases label with
  | request request =>
      simp only [effect, arrive_started table]
      refine ⟨table, fun handler => ?_⟩
      rw [requestsFor_concat, UInt32.ofNat_add, ← hits]
      by_cases hit : handler = handlerFor request
      · subst hit
        simp [bumpHits, asked]
      · simp [bumpHits, asked, hit, Ne.symm hit]
  | _ => exact ⟨table, quiet rfl⟩

/-! ### The page -/

/-- What the table holds after these requests. -/
def hitsAfter (history : List (Event Worker)) : List (Bytes × UInt32) :=
  started.toList.map fun entry =>
    (entry.1.label, UInt32.ofNat (requestsFor entry.2 history))

theorem counted_reading {history : List (Event Worker)} {server : Server}
    (counted : Counted history server) : getHandlerHits server = some (hitsAfter history) := by
  rw [getHandlerHits, counted.table, Option.map_some, hitsAfter]
  exact congrArg some (List.map_congr_left fun entry _ => by rw [counted.hits])

/-- The counters are those of a moment between the request and the reply. -/
def Reported (before during : List (Event Worker)) (snapshot : StatusSnapshot) : Prop :=
  ∃ earlier, earlier <+: during ∧ snapshot.webHandlerAvailable = true ∧
    snapshot.handlerHits = hitsAfter (before ++ earlier)

theorem reported_later {before during : List (Event Worker)} {snapshot : StatusSnapshot}
    (reported : Reported before during snapshot) (event : Event Worker) :
    Reported before (during ++ [event]) snapshot := by
  obtain ⟨earlier, passed, found⟩ := reported
  exact ⟨earlier, passed.trans (List.prefix_append ..), found⟩

def Awaited (before during : List (Event Worker)) (reading : Reading)
    (snapshot : StatusSnapshot) : Prop :=
  reading ≠ .handlerHits → Reported before during snapshot

theorem gathered_reports {before during : List (Event Worker)} {server : Server}
    (counted : Counted (before ++ during) server) (outside : Outside) (reading : Reading)
    (snapshot : StatusSnapshot) (awaited : Awaited before during reading snapshot) :
    Collecting (Awaited before during) (Reported before during)
      (gathered outside server .json snapshot reading).2 := by
  cases reading with
  | handlerHits =>
      refine .gathering fun _ => ⟨during, List.prefix_rfl, ?_, ?_⟩
      · rw [counted_reading counted]
        rfl
      · rw [counted_reading counted]
        rfl
  | entries currKey =>
      have reported := awaited nofun
      unfold gathered
      dsimp only
      split
      · exact .gathering fun _ => reported
      · exact .replying reported
  | _ => exact .gathering fun _ => awaited nofun

theorem labels_distinct : (routes.map fun route => route.1.label).Nodup := by decide

theorem started_routes : started.toList.Perm routes := by
  have listed : started.toList.Nodup :=
    (Std.ExtTreeMap.distinct_keys_toList (t := started)).imp fun other same => other (by
      rw [same]
      exact Std.ReflOrd.compare_self)
  refine (List.perm_ext_iff_of_nodup listed (List.Nodup.of_map _ routes_distinct)).mpr ?_
  rintro ⟨key, handler⟩
  rw [Std.ExtTreeMap.mem_toList_iff_getElem?_eq_some, started_lookup,
    found_iff_mem routes_distinct]

theorem follow_reported {history : List (Event Worker)} {snapshot : StatusSnapshot}
    (available : snapshot.webHandlerAvailable = true)
    (reported : snapshot.handlerHits = hitsAfter history) {key : WebHandlerKey}
    {handler : Handler} (route : (key, handler) ∈ routes) :
    follow [bytes "handlers", bytes "hits", key.label] (statusDocument snapshot) =
      some (counterDocument (UInt32.ofNat (requestsFor handler history))) := by
  rw [follow_hits, hitsDocument, if_pos available, reported]
  apply memberOf_mem
  · refine List.mem_map_of_mem (List.mem_map.mpr ⟨(key, handler), ?_, rfl⟩)
    exact started_routes.mem_iff.mpr route
  · have names := (started_routes.map fun route => route.1.label).nodup_iff.mpr labels_distinct
    rw [hitsAfter, List.map_map, List.map_map]
    exact names

variable [DecidableEq Worker] {start world : World Worker} {worker : Worker}

theorem session_reports {before during : List (Event Worker)}
    (counted : Counted before start.server)
    (serving : Collecting (Awaited before []) (Reported before []) (start.stage worker))
    (busy : start.stage worker ≠ .idle) (run : Run Step start during world)
    (unanswered : ∀ answer, (some worker, .reply answer) ∉ during) :
    Collecting (Awaited before during) (Reported before during) (world.stage worker) := by
  have later : ∀ during event stage,
      Collecting (Awaited before during) (Reported before during) stage →
      Collecting (Awaited before (during ++ [event]))
        (Reported before (during ++ [event])) stage := fun during event stage collecting =>
    collecting.imp (fun _ _ awaited more => reported_later (awaited more) event)
      fun _ reported => reported_later reported event
  refine (session_invariant worker (fun during server stage =>
    Counted (before ++ during) server ∧
      Collecting (Awaited before during) (Reported before during) stage)
    (fun _ => True) ?_ ?_ ⟨by simpa using counted, serving⟩ busy run (fun _ _ _ => trivial)
    unanswered).1.2
  · rintro during server stage event _ _ ⟨counted, collecting⟩
    rw [← List.append_assoc]
    exact ⟨counted_event counted event, later during event stage collecting⟩
  · rintro during outside server stage label next proceeds ⟨counted, collecting⟩
    rw [← List.append_assoc]
    refine ⟨counted_event counted _, later during _ next ?_⟩
    exact collecting.proceed proceeds (fun _ more => absurd rfl more)
      (gathered_reports counted outside)

/-- The page says of every handler how many requests were made for it up to some moment. -/
def TellsHits (before during : List (Event Worker)) (answer : Answer) : Prop :=
  ∃ document, JsonDecoder.decode answer.replyBody = some document ∧
    ∃ earlier, earlier <+: during ∧ ∀ key handler, (key, handler) ∈ routes →
      follow [bytes "handlers", bytes "hits", key.label] document =
        some (counterDocument (UInt32.ofNat (requestsFor handler (before ++ earlier))))

/-- From the start on: a request for the status page is answered with the hits of a moment
between that request and the reply, whatever the other workers and threads do meanwhile. -/
theorem page_reports_hits {before during after : List (Event Worker)} {request : RequestInfo}
    {answer : Answer} (launched : Launched start)
    (run : Run Step start (before ++ (some worker, .request request) ::
      (during ++ (some worker, .reply answer) :: after)) world)
    (asks : (⟨request.method, request.uriPath⟩ : WebHandlerKey) = getKey "/status.json")
    (unanswered : ∀ answer, (some worker, .reply answer) ∉ during) :
    answer.reply = replyOk ∧ answer.contentType = jsonType ∧
      TellsHits (before ++ [(some worker, .request request)]) during answer := by
  obtain ⟨early, busy, first, asked, second⟩ := run.around
  obtain ⟨late, last, served, replied, _⟩ := second.around
  have counted : Counted before early.server := by
    refine first.invariant (fun history world => Counted history world.server) ?_ ?_
    · exact ⟨launched.table, fun _ => congrFun launched.hits _⟩
    · intro history middle event next _ moves counted
      rw [step_server moves]
      exact counted_event counted event
  have own : handlerFor request = .statusJson := by
    rw [handlerFor, asks]
    rfl
  have stage := (step_request asked).2
  rw [arrive_started counted.table, own] at stage
  have counts : Counted (before ++ [(some worker, .request request)]) busy.server := by
    rw [step_server asked]
    exact counted_event counted _
  have serving : Collecting (Awaited (before ++ [(some worker, .request request)]) [])
      (Reported (before ++ [(some worker, .request request)]) []) (busy.stage worker) :=
    stage ▸ .serving _ fun more => absurd rfl more
  have collected := session_reports counts serving (by rw [stage]; nofun) served unanswered
  rw [step_reply replied] at collected
  cases collected with
  | @replying snapshot reported =>
      obtain ⟨earlier, passed, available, hits⟩ := reported
      exact ⟨rfl, rfl, _, page_decodes snapshot, earlier, passed,
        fun key handler route => follow_reported available hits route⟩

def mainPage : RequestInfo := ⟨evhttpReqGet, bytes "/", none⟩

def statusPage : RequestInfo := ⟨evhttpReqGet, bytes "/status.json", none⟩

/-- One worker has been asked for the main page while the other one answers for the status. -/
theorem page_reports_hits_sample : ∃ world during answer,
    Run Step launch ([(some true, .request mainPage)] ++ (some false, .request statusPage) ::
      (during ++ [(some false, .reply answer)])) world ∧
      TellsHits [(some true, .request mainPage), (some false, .request statusPage)] during
        answer := by
  let busy := launch.move true (.request mainPage) (arrive launch.server mainPage).1
  have moved : busy.server = bumpHits launch.server (handlerFor mainPage) :=
    congrArg Prod.snd (arrive_started launched_launch.table mainPage)
  have first : Step launch (some true, .request mainPage) busy := .request mainPage rfl
  have second : Step busy (some false, .request statusPage) _ := .request statusPage rfl
  obtain ⟨⟨answer, server⟩, served⟩ : ∃ result,
      handleRequest quietOutside statusPage busy.server = some result := by
    rw [moved, handleRequest_started (by rfl)]
    exact ⟨_, rfl⟩
  have valid : Consistent busy.server.dictionary := by
    rw [moved]
    exact new_consistent
  obtain ⟨during, _, unanswered, run⟩ := alone_replies (request_alone false valid served)
  have whole := (Run.one first).append ((Run.one second).append run)
  exact ⟨_, during, answer, whole,
    (page_reports_hits launched_launch whole rfl unanswered).2.2⟩

end OClock.ReportedHits

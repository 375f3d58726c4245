import OClock.ConcurrentTraversal
import OClock.DictionaryReadBack
import OClock.StatusRequests

/-!
From the form that stores an entry to the page that shows it, with other workers, the timer and
the other threads at work all the time.
-/

namespace OClock.ServedEntries
open Text Buffer TimerTable DictionaryStore DictionaryInvariant DictionaryLive DictionaryTraversal
open DictionaryReadBack ExpiringMap JsonGrammar StatusReport StatusDocument StatusText
open FormEncoding PostDecoding PostParser WebHandlerInternal WebServer StatusRequests LabelledRun

/-! ### An entry that lasts -/

/-- The entry outlives so many more ticks. -/
def Lasts (key data : Bytes) (ticks : Nat) (dictionary : Dictionary) : Prop :=
  ∃ lease, live dictionary key = some lease ∧ lease.value = data ∧
    ∀ left, lease.left = some left → ticks < left

section

variable {key data : Bytes} {ticks : Nat} {dictionary after : Dictionary}

theorem lasts_same (lasts : Lasts key data ticks dictionary)
    (same : live after key = live dictionary key) : Lasts key data ticks after := by
  obtain ⟨lease, here, value, left⟩ := lasts
  exact ⟨lease, same.trans here, value, left⟩

theorem lasts_present (lasts : Lasts key data ticks dictionary) :
    present dictionary key = some data := by
  obtain ⟨lease, here, value, _⟩ := lasts
  rw [present, here, Option.map_some, value]

theorem lasts_tick (valid : Consistent dictionary) (lasts : Lasts key data (ticks + 1) dictionary) :
    Lasts key data ticks (timerTick dictionary) := by
  obtain ⟨lease, here, value, bound⟩ := lasts
  rw [Lasts, timerTick_live valid.1]
  simp only [here, Option.bind_some, Lease.age]
  cases left : lease.left with
  | none => exact ⟨lease, rfl, value, fun _ some => by rw [left] at some; cases some⟩
  | some ticksLeft =>
      have further := bound ticksLeft left
      have more : 1 < ticksLeft := by omega
      refine ⟨_, if_pos more, value, ?_⟩
      rintro _ ⟨⟩
      omega

/-- The lifetime is over -1 or not before so many ticks. -/
def Admits (expiration : Int) (ticks : Nat) : Prop :=
  -1 ≤ expiration ∧ (expiration = -1 ∨ ticks < ticksFor expiration)

theorem lasts_new {expiration : Int} (fresh : live dictionary key = newLease data expiration)
    (admits : Admits expiration ticks) : Lasts key data ticks dictionary := by
  obtain ⟨bound, lifetime⟩ := admits
  rw [Lasts, fresh, newLease, noExpiration]
  by_cases lasting : expiration = -1
  · rw [if_pos lasting]
    refine ⟨_, rfl, rfl, ?_⟩
    intro left timed
    cases timed
  · have timed : 0 ≤ expiration := by omega
    rw [if_neg lasting, if_pos timed]
    refine ⟨_, rfl, rfl, ?_⟩
    intro left same
    cases same
    exact lifetime.resolve_left lasting

end

/-- A step of someone else that does nothing to the key. -/
def Spares (key : Bytes) : Label → Prop
  | .removeForRequest request => request.key ≠ key ∧ ¬ (request.isDel = true ∧ request.key = [])
  | .addForRequest request => request.key ≠ key
  | .dictionary op => op = .tick ∨ Elsewhere key op
  | _ => True

def isTick : Label → Bool
  | .dictionary .tick => true
  | _ => false

theorem effect_consistent {server : Server} (valid : Consistent server.dictionary) (label : Label) :
    Consistent (effect server label).dictionary := by
  cases label with
  | request request =>
      obtain ⟨hits, kept⟩ := arrive_keeps server request
      rw [effect, kept]
      exact valid
  | removeForRequest request => exact removeForRequest_consistent valid request
  | addForRequest request => exact addForRequest_consistent valid request
  | getNext key => exact getNext_consistent valid key
  | dictionary op => exact DictionaryRun.step_consistent _ op valid
  | _ => exact valid

theorem effect_lasts {server : Server} (valid : Consistent server.dictionary) {key data : Bytes}
    {label : Label} (spares : Spares key label) {ticks : Nat}
    (lasts : Lasts key data (ticks + (isTick label).toNat) server.dictionary) :
    Lasts key data ticks (effect server label).dictionary := by
  cases label with
  | request request =>
      obtain ⟨hits, kept⟩ := arrive_keeps server request
      rw [effect, kept]
      exact lasts
  | removeForRequest request =>
      exact lasts_same lasts (removeForRequest_other valid spares.1 spares.2)
  | addForRequest request => exact lasts_same lasts (addForRequest_other valid spares)
  | getNext other => exact lasts_same lasts (congrFun (getNext_live valid other) key)
  | dictionary op =>
      rcases spares with rfl | elsewhere
      · exact lasts_tick valid lasts
      · have still : isTick (.dictionary op) = false := by
          cases op with
          | tick => cases elsewhere
          | _ => rfl
        rw [still] at lasts
        exact lasts_same lasts (step_elsewhere valid elsewhere)
  | _ => exact lasts

variable {Worker : Type}

def ticks (history : List (Event Worker)) : Nat := history.countP fun event => isTick event.2

theorem ticks_append (first second : List (Event Worker)) :
    ticks (first ++ second) = ticks first + ticks second := List.countP_append

theorem ticks_single (event : Event Worker) : ticks [event] = (isTick event.2).toNat := by
  rw [ticks, List.countP_singleton]
  cases isTick event.2 <;> rfl

variable {worker : Worker} {key data : Bytes}

/-! ### Storing -/

/-- A form that asks for the entry to be stored. -/
structure Stores (pairs : List (Bytes × Bytes)) (key data : Bytes) (expiration : Int) : Prop where
  operation : lastValue pairs dictionaryParamOperation ≠ some dictionaryParamOperationDel
  key : lastValue pairs dictionaryParamKey = some key
  data : lastValue pairs dictionaryParamData = some data
  timeout : stoi ((lastValue pairs dictionaryParamTimeout).getD noExpirationText) = some expiration

/-- The request of the dictionary that the form is. -/
structure Asked (request : Request) (key data : Bytes) (expiration : Int) : Prop where
  adds : request.isDel = false
  key : request.key = key
  data : request.data = data
  timeout : stoi request.intervalStr = some expiration

theorem form_parsed {pairs : List (Bytes × Bytes)} {body : Bytes}
    (encoded : EncodesPairs pairs body) (named : ∀ pair ∈ pairs, pair.1 ≠ [])
    (clean : ∀ pair ∈ pairs, 0 ∉ pair.1 ∧ 0 ∉ pair.2)
    (fits : 1 ≤ body.length ∧ body.length ≤ 4095) :
    ∃ result, parsePost (some body) ∅ = some result ∧ result.reply = .replyOk ∧
      ∀ name, getParamValue result.postValues name = lastValue pairs name := by
  have start : Filled body 0 ⟨List.replicate (body.length + 1) 0, 0, none, false, ∅⟩ [] :=
    ⟨List.length_replicate, rfl, Nat.le_refl _, holds_nil _⟩
  obtain ⟨final, stored, ends, kept, values⟩ := pairs_lead encoded named clean rfl start
  have looped := ends body.length (Nat.le_add_left ..)
  have accepted : ¬ (maxPostBodyLen ≤ body.length ∨ body.length < 1) := by
    rw [maxPostBodyLen]
    omega
  refine ⟨⟨.replyOk, [], stored.postValues⟩, ?_, rfl, fun name => ?_⟩
  · simp only [parsePost, if_neg accepted, looped, kept, Option.map_some]
  · rw [getParamValue, values, OrderedMap.lookup_insert_all, lastValue]
    simp

theorem stores_asked {pairs : List (Bytes × Bytes)} {expiration : Int}
    (stores : Stores pairs key data expiration) {postValues : StringMap}
    (values : ∀ name, getParamValue postValues name = lastValue pairs name) :
    Asked (requestOf postValues) key data expiration := by
  refine ⟨?_, ?_, ?_, ?_⟩
  · have other := stores.operation
    simp only [Request.isDel, requestOf, values]
    cases operation : lastValue pairs dictionaryParamOperation with
    | none => rfl
    | some name =>
        rw [operation] at other
        simpa using other
  · simp only [requestOf, values, stores.key, Option.getD_some]
  · simp only [requestOf, values, stores.data, Option.getD_some]
  · simp only [requestOf, values, stores.timeout]

theorem added_lasts {dictionary : Dictionary} (valid : Consistent dictionary) {request : Request}
    {expiration : Int} (asked : Asked request key data expiration)
    (added : (addForRequest dictionary request).1 = true) {left : Nat}
    (admits : Admits expiration left) :
    Lasts key data left (addForRequest dictionary request).2 := by
  have answer := (add_live valid request.key request.data expiration).1
  rw [addForRequest_eq valid, asked.adds] at added ⊢
  simp only [Bool.false_eq_true, if_false, asked.timeout, Option.elim_some] at added ⊢
  refine lasts_new ?_ admits
  rw [← asked.key, ← asked.data]
  apply add_lease valid
  rw [answer] at added ⊢
  exact congrArg Except.ok added

/-- What holds of the worker that stores the entry: once it is to reply that it has, the entry
lasts for what is left of its lifetime. -/
structure Storing (post : RequestInfo) (asked : Request) (key data : Bytes) (expiration : Int)
    (posting : List (Event Worker)) (server : Server) (stage : Stage) : Prop where
  valid : Consistent server.dictionary
  serving : ∀ request handler, stage = .serving request handler →
    request = post ∧ handler = .dictionaryPost
  adding : ∀ request, stage = .adding request → request = asked
  others : ∀ page reading snapshot, stage ≠ .gathering page reading snapshot
  stored : ∀ answer left, stage = .replying answer → answer.reply = replyNoContent →
    Admits expiration (left + ticks posting) → Lasts key data left server.dictionary

section

variable {post : RequestInfo} {asked : Request} {expiration : Int} {posting : List (Event Worker)}
  {server : Server}

theorem storing_answer (valid : Consistent server.dictionary) {answer : Answer}
    (stored : ∀ left, answer.reply = replyNoContent → Admits expiration (left + ticks posting) →
      Lasts key data left server.dictionary) :
    Storing post asked key data expiration posting server (.replying answer) :=
  { valid := valid
    serving := fun _ _ same => by cases same
    adding := fun _ same => by cases same
    others := fun _ _ _ same => by cases same
    stored := fun other left same => by cases same; exact stored left }

theorem storing_adding (valid : Consistent server.dictionary) :
    Storing post asked key data expiration posting server (.adding asked) :=
  { valid := valid
    serving := fun _ _ same => by cases same
    adding := fun _ same => by cases same; rfl
    others := fun _ _ _ same => by cases same
    stored := fun _ _ same => by cases same }

theorem storing_start (valid : Consistent server.dictionary) :
    Storing post asked key data expiration posting server (.serving post .dictionaryPost) :=
  { valid := valid
    serving := fun _ _ same => by cases same; exact ⟨rfl, rfl⟩
    adding := fun _ same => by cases same
    others := fun _ _ _ same => by cases same
    stored := fun _ _ same => by cases same }

theorem storing_elsewhere {stage : Stage}
    (storing : Storing post asked key data expiration posting server stage)
    {event : Event Worker} (spares : Spares key event.2) :
    Storing post asked key data expiration (posting ++ [event]) (effect server event.2) stage := by
  refine ⟨effect_consistent storing.valid _, storing.serving, storing.adding, storing.others, ?_⟩
  intro answer left replying accepted admits
  refine effect_lasts storing.valid spares (storing.stored answer _ replying accepted ?_)
  rw [ticks_append, ticks_single, Nat.add_comm (ticks posting), ← Nat.add_assoc] at admits
  exact admits

theorem error_refused (buffer : Bytes) : (Answer.error buffer).reply ≠ replyNoContent := by
  intro same
  have code : (500 : Nat) = 204 := congrArg HandleRequestReply.code same
  omega

theorem storing_own {result : PostResult} (parsed : parsePost post.requestBody ∅ = some result)
    (asks : requestOf result.postValues = asked) (wanted : Asked asked key data expiration)
    {outside : Outside} {stage later : Stage} {label : Label}
    (proceeds : proceed outside server stage = some (label, later))
    (storing : Storing post asked key data expiration posting server stage) :
    Storing post asked key data expiration (posting ++ [(some worker, label)])
      (effect server label) later := by
  have valid := storing.valid
  cases stage with
  | idle | replying answer => cases proceeds
  | gathering page reading snapshot => exact absurd rfl (storing.others page reading snapshot)
  | adding request =>
      cases storing.adding request rfl
      cases proceeds
      refine storing_answer (effect_consistent valid _) fun left accepted admits => ?_
      rw [ticks_append, ticks_single] at admits
      have lifetime : Admits expiration left :=
        ⟨admits.1, admits.2.imp_right fun enough => by omega⟩
      split at accepted
      · next added => exact added_lasts valid wanted added lifetime
      · exact absurd accepted (error_refused _)
  | serving request handler =>
      obtain ⟨rfl, rfl⟩ := storing.serving request handler rfl
      obtain ⟨other, again, ⟨_, same⟩ | ⟨_, same⟩⟩ := accept_cases proceeds
      · cases same
        exact storing_answer valid fun _ accepted => absurd accepted (error_refused _)
      · rw [parsed] at again
        cases again
        rw [modifyDictionary, readRequest_eq, asks] at same
        cases complete : isComplete result.postValues with
        | true =>
            rw [if_pos complete] at same
            obtain ⟨rfl, rfl⟩ := Prod.mk.inj same
            exact storing_adding (effect_consistent valid _)
        | false =>
            rw [if_neg (ne_true_of_eq_false complete)] at same
            obtain ⟨rfl, rfl⟩ := Prod.mk.inj same
            exact storing_answer valid fun _ accepted => absurd accepted (error_refused _)

end

/-! ### Showing -/

/-- The entries listed so far go up to the cursor; the entry is among them once the cursor has
reached its key. -/
structure Listed (key data cursor : Bytes) (entries : List (Bytes × Bytes)) : Prop where
  ascending : (entries.map Prod.fst).Pairwise fun before after => compare before after = .lt
  below : ∀ entry ∈ entries, compare entry.1 cursor ≠ .gt
  reached : compare cursor key ≠ .lt → (key, data) ∈ entries

theorem listed_start (named : compare ([] : Bytes) key = .lt) : Listed key data [] [] :=
  ⟨.nil, List.forall_mem_nil _, fun above => absurd named above⟩

theorem listed_next {dictionary : Dictionary} (here : present dictionary key = some data)
    {cursor next found : Bytes} {entries : List (Bytes × Bytes)}
    (listed : Listed key data cursor entries)
    (step : IsNext (present dictionary) cursor next found) :
    Listed key data next (entries ++ [(next, found)]) := by
  obtain ⟨ascending, below, reached⟩ := listed
  have lower : ∀ entry ∈ entries, compare entry.1 next = .lt := by
    intro entry inside
    cases order : compare entry.1 cursor with
    | gt => exact absurd order (below entry inside)
    | eq => rw [Std.LawfulEqOrd.eq_of_compare order]; exact step.above
    | lt => exact Std.TransCmp.lt_trans order step.above
  refine ⟨?_, ?_, ?_⟩
  · rw [List.map_append, List.pairwise_append]
    refine ⟨ascending, List.pairwise_singleton _ _, ?_⟩
    intro before inside after last
    obtain ⟨entry, there, rfl⟩ := List.mem_map.mp inside
    cases List.mem_singleton.mp last
    exact lower entry there
  · intro entry inside
    rcases List.mem_append.mp inside with there | last
    · rw [lower entry there]
      decide
    · cases List.mem_singleton.mp last
      rw [Std.ReflOrd.compare_self]
      decide
  · intro above
    rw [List.mem_append]
    cases order : compare cursor key with
    | lt =>
        -- The key found is the least one above the cursor, so it is this one.
        have least := step.least key data here order
        cases same : compare next key with
        | lt => exact absurd same above
        | gt => exact absurd (Std.OrientedCmp.lt_of_gt same) least
        | eq =>
            cases Std.LawfulEqOrd.eq_of_compare same
            have value := step.here
            rw [here] at value
            cases value
            exact .inr (List.mem_singleton_self _)
    | _ => exact .inl (reached (by rw [order]; decide))

/-- The snapshot lists the entry, and no key twice. -/
structure Shows (key data : Bytes) (snapshot : StatusSnapshot) : Prop where
  member : (key, data) ∈ snapshot.dictionaryEntries
  distinct : (snapshot.dictionaryEntries.map Prod.fst).Nodup

theorem listed_last {dictionary : Dictionary} (here : present dictionary key = some data)
    {cursor : Bytes} {snapshot : StatusSnapshot}
    (listed : Listed key data cursor snapshot.dictionaryEntries)
    (last : IsLast (present dictionary) cursor) : Shows key data snapshot := by
  refine ⟨listed.reached (last key data here), listed.ascending.imp ?_⟩
  rintro before _ lower rfl
  rw [Std.ReflOrd.compare_self] at lower
  cases lower

def Reads (key data : Bytes) (reading : Reading) (snapshot : StatusSnapshot) : Prop :=
  match reading with
  | .entries cursor => Listed key data cursor snapshot.dictionaryEntries
  | _ => snapshot.dictionaryEntries = []

theorem gathered_shows {server : Server} (valid : Consistent server.dictionary)
    (here : present server.dictionary key = some data) (outside : Outside) (reading : Reading)
    (snapshot : StatusSnapshot) (reads : Reads key data reading snapshot) :
    Collecting (Reads key data) (Shows key data)
      (gathered outside server .json snapshot reading).2 := by
  cases reading with
  | handlerHits | singletons | dictionaryStatus => exact .gathering reads
  | dictionarySize =>
      refine .gathering ?_
      have empty : snapshot.dictionaryEntries = [] := reads
      rw [Reads]
      change Listed key data [] snapshot.dictionaryEntries
      rw [empty]
      exact listed_start (ConcurrentTraversal.present_nonempty valid (here ▸ rfl))
  | entries cursor =>
      unfold gathered
      dsimp only
      rcases (getNext_ends valid cursor).2 with ⟨found, next⟩ | ⟨ends, _, last⟩
      · rw [if_pos found]
        exact .gathering (listed_next here reads next)
      · rw [if_neg (ne_true_of_eq_false ends)]
        exact .replying (listed_last here reads last)

theorem follow_entries {snapshot : StatusSnapshot} (complete : Shows key data snapshot) :
    follow [bytes "dictionary", bytes "entries", key] (statusDocument snapshot) =
      some (.str data) := by
  have outer : memberOf (bytes "dictionary") (statusDocument snapshot) =
      some (dictionaryDocument snapshot) := rfl
  have inner : memberOf (bytes "entries") (dictionaryDocument snapshot) =
      some (entriesDocument snapshot.dictionaryEntries) := rfl
  have own : memberOf key (entriesDocument snapshot.dictionaryEntries) = some (.str data) := by
    apply memberOf_mem
    · exact List.mem_map.mpr ⟨(key, data), complete.member, rfl⟩
    · rw [List.map_map]
      exact complete.distinct
  simp only [follow, outer, inner, own, Option.bind_some]

/-! ### From one to the other -/

variable [DecidableEq Worker] {start world : World Worker} {worker : Worker}
  {history : List (Event Worker)} {key data : Bytes}

theorem run_consistent (valid : Consistent start.server.dictionary)
    (run : Run Step start history world) : Consistent world.server.dictionary := by
  refine run.invariant (fun _ world => Consistent world.server.dictionary) valid ?_
  intro _ middle event next _ moves valid
  rw [step_server moves]
  exact effect_consistent valid event.2

theorem run_lasts (valid : Consistent start.server.dictionary) (run : Run Step start history world)
    (spared : ∀ event ∈ history, Spares key event.2) {left : Nat}
    (lasts : Lasts key data (left + ticks history) start.server.dictionary) :
    Lasts key data left world.server.dictionary := by
  induction run generalizing left with
  | start => exact lasts
  | @step history middle event next earlier moves ih =>
      rw [ticks_append, ticks_single, Nat.add_comm (ticks history), ← Nat.add_assoc] at lasts
      have still := ih (fun event there => spared event (List.mem_append_left _ there)) lasts
      rw [step_server moves]
      exact effect_lasts (run_consistent valid earlier)
        (spared event (List.mem_append_right _ (List.mem_singleton_self _))) still

theorem session_stores {post : RequestInfo} {asked : Request} {expiration : Int}
    {result : PostResult} {posting : List (Event Worker)}
    (parsed : parsePost post.requestBody ∅ = some result)
    (asks : requestOf result.postValues = asked) (wanted : Asked asked key data expiration)
    (valid : Consistent start.server.dictionary)
    (stage : start.stage worker = .serving post .dictionaryPost)
    (run : Run Step start posting world)
    (spared : ∀ event ∈ posting, event.1 ≠ some worker → Spares key event.2)
    (unanswered : ∀ answer, (some worker, .reply answer) ∉ posting) :
    Storing post asked key data expiration posting world.server (world.stage worker) := by
  refine (session_invariant worker (Storing post asked key data expiration)
    (fun event => Spares key event.2) ?_ ?_ ?_ (by rw [stage]; nofun) run spared unanswered).1
  · intro _ _ _ _ _ spares storing
    exact storing_elsewhere storing spares
  · intro _ _ _ _ _ _ proceeds storing
    exact storing_own parsed asks wanted proceeds storing
  · rw [stage]
    exact storing_start valid

theorem working_quiet {label : Label} (works : label.working = true) : isTick label = false := by
  cases label with
  | dictionary op => cases works
  | _ => rfl

theorem session_shows {page : RequestInfo} {reading : List (Event Worker)}
    (valid : Consistent start.server.dictionary)
    (lasts : Lasts key data (ticks reading) start.server.dictionary)
    (stage : start.stage worker = .serving page .statusJson) (run : Run Step start reading world)
    (spared : ∀ event ∈ reading, event.1 ≠ some worker → Spares key event.2)
    (unanswered : ∀ answer, (some worker, .reply answer) ∉ reading) :
    Collecting (Reads key data) (Shows key data) (world.stage worker) := by
  refine ((session_invariant worker (fun passed server stage =>
    Consistent server.dictionary ∧ ∀ left, ticks passed + left = ticks reading →
      Lasts key data left server.dictionary ∧
        Collecting (Reads key data) (Shows key data) stage)
    (fun event => Spares key event.2) ?_ ?_ ?_ (by rw [stage]; nofun) run spared
    unanswered).1.2 0 (Nat.add_zero _)).2
  · rintro passed server stage event _ spares ⟨valid, holds⟩
    refine ⟨effect_consistent valid _, fun left whole => ?_⟩
    rw [ticks_append, ticks_single, Nat.add_assoc, Nat.add_comm (isTick event.2).toNat] at whole
    obtain ⟨lasts, collecting⟩ := holds _ whole
    exact ⟨effect_lasts valid spares lasts, collecting⟩
  · rintro passed outside server stage label later proceeds ⟨valid, holds⟩
    have quiet := working_quiet (proceed_working proceeds).label
    refine ⟨effect_consistent valid _, fun left whole => ?_⟩
    rw [ticks_append, ticks_single, quiet] at whole
    obtain ⟨lasts, collecting⟩ := holds left whole
    have spares : Spares key label := by
      rcases collecting.label proceeds with rfl | ⟨other, rfl⟩ <;> trivial
    refine ⟨effect_lasts valid spares (by rw [quiet]; exact lasts), ?_⟩
    exact collecting.proceed proceeds id
      (gathered_shows valid (lasts_present lasts) outside)
  · rw [stage]
    exact ⟨valid, fun left whole => ⟨by rwa [← (Nat.zero_add left).symm.trans whole] at lasts, .serving page rfl⟩⟩

/-- A form posted to the dictionary, in any encoding. -/
structure Form (post : RequestInfo) (pairs : List (Bytes × Bytes)) (key data : Bytes)
    (expiration : Int) : Prop where
  path : (⟨post.method, post.uriPath⟩ : WebHandlerKey) = postKey "/dictionary"
  body : ∃ body, post.requestBody = some body ∧ EncodesPairs pairs body ∧
    1 ≤ body.length ∧ body.length ≤ 4095
  named : ∀ pair ∈ pairs, pair.1 ≠ []
  clean : ∀ pair ∈ pairs, 0 ∉ pair.1 ∧ 0 ∉ pair.2
  stores : Stores pairs key data expiration

/-- From the start on: an entry that a form has stored is on every status page that is asked for
later, as long as its lifetime lasts and no other request works on its key. -/
theorem stored_entry_served {before posting between reading after : List (Event Worker)}
    {poster reader : Worker} {post page : RequestInfo} {stored shown : Answer}
    {pairs : List (Bytes × Bytes)} {expiration : Int} (launched : Launched start)
    (run : Run Step start (before ++ (some poster, .request post) ::
      (posting ++ (some poster, .reply stored) ::
        (between ++ (some reader, .request page) ::
          (reading ++ (some reader, .reply shown) :: after)))) world)
    (form : Form post pairs key data expiration) (accepted : stored.reply = replyNoContent)
    (asks : (⟨page.method, page.uriPath⟩ : WebHandlerKey) = getKey "/status.json")
    (unanswered : (∀ answer, (some poster, .reply answer) ∉ posting) ∧
      ∀ answer, (some reader, .reply answer) ∉ reading)
    (spared : (∀ event ∈ posting, event.1 ≠ some poster → Spares key event.2) ∧
      (∀ event ∈ between, Spares key event.2) ∧
      ∀ event ∈ reading, event.1 ≠ some reader → Spares key event.2)
    (admits : Admits expiration (ticks between + ticks reading + ticks posting)) :
    shown.reply = replyOk ∧ ∃ document, JsonDecoder.decode shown.replyBody = some document ∧
      follow [bytes "dictionary", bytes "entries", key] document = some (.str data) := by
  obtain ⟨early, posted, first, post_step, rest⟩ := run.around
  obtain ⟨adding, added, posting_run, store_step, rest⟩ := rest.around
  obtain ⟨waiting, asked, between_run, page_step, rest⟩ := rest.around
  obtain ⟨listing, _, reading_run, show_step, _⟩ := rest.around
  have start_valid := DictionaryRun.reachable_consistent launched.reached
  have early_valid := run_consistent start_valid first
  have posted_valid : Consistent posted.server.dictionary := by
    rw [step_server post_step]
    exact effect_consistent early_valid _
  obtain ⟨body, sends, encoded, fits⟩ := form.body
  obtain ⟨result, parsed, _, values⟩ := form_parsed encoded form.named form.clean fits
  have post_stage := (step_request post_step).2
  have post_own : handlerFor post = .dictionaryPost := by
    rw [handlerFor, form.path]
    rfl
  rw [arrive_started (run_table launched.table first), post_own] at post_stage
  have storing := session_stores (sends ▸ parsed) rfl (stores_asked form.stores values) posted_valid
    post_stage posting_run spared.1 unanswered.1
  have lasts := storing.stored stored _ (step_reply store_step) accepted admits
  have added_server : added.server = adding.server := step_server store_step
  have waiting_lasts : Lasts key data (ticks reading) waiting.server.dictionary := by
    refine run_lasts (added_server ▸ storing.valid) between_run spared.2.1 ?_
    rw [added_server, Nat.add_comm]
    exact lasts
  have waiting_valid := run_consistent (added_server ▸ storing.valid) between_run
  have asked_valid : Consistent asked.server.dictionary := by
    rw [step_server page_step]
    exact effect_consistent waiting_valid _
  have asked_lasts : Lasts key data (ticks reading) asked.server.dictionary := by
    rw [step_server page_step]
    have spares : Spares key (.request page) := trivial
    exact effect_lasts waiting_valid spares waiting_lasts
  have page_stage := (step_request page_step).2
  have page_own : handlerFor page = .statusJson := by
    rw [handlerFor, asks]
    rfl
  have waiting_table : waiting.server.webHandlers = some started := by
    refine run_table ?_ between_run
    rw [added_server]
    refine run_table ?_ posting_run
    rw [step_server post_step, effect_table]
    exact run_table launched.table first
  rw [arrive_started waiting_table, page_own] at page_stage
  have collected := session_shows asked_valid asked_lasts page_stage reading_run spared.2.2
    unanswered.2
  rw [step_reply show_step] at collected
  cases collected with
  | @replying snapshot complete =>
      exact ⟨rfl, _, page_decodes snapshot, follow_entries complete⟩

/-- An entry that is to stay, with an escape in its data. -/
def entryForm : Bytes := bytes "dictionaryKey=k&dictionaryData=%22"

def entryPost : RequestInfo := ⟨evhttpReqPost, bytes "/dictionary", some entryForm⟩

def statusPage : RequestInfo := ⟨evhttpReqGet, bytes "/status.json", none⟩

theorem literal_encodes {text : Bytes}
    (plain : ∀ c ∈ text, c ≠ 43 ∧ c ≠ 61 ∧ c ≠ 38 ∧ c ≠ 37) : EncodesText text text := by
  induction text with
  | nil => exact .nil
  | cons c rest ih =>
      obtain ⟨head, tail⟩ := List.forall_mem_cons.mp plain
      exact .cons (.literal c head) (ih tail)

theorem entryForm_form : Form entryPost [(bytes "dictionaryKey", bytes "k"),
    (bytes "dictionaryData", [34])] (bytes "k") [34] (-1) where
  path := rfl
  body := by
    have quote : EncodesText [34] (bytes "%22") := .cons (.escaped 50 50 (by decide)) .nil
    have asks : EncodesText (bytes "dictionaryKey") (bytes "dictionaryKey") :=
      literal_encodes (by decide +kernel)
    have names : EncodesText (bytes "dictionaryData") (bytes "dictionaryData") :=
      literal_encodes (by decide +kernel)
    have values : EncodesText (bytes "k") (bytes "k") := literal_encodes (by decide +kernel)
    exact ⟨entryForm, rfl, .more asks values (.last names quote), by decide +kernel⟩
  named := by decide
  clean := by decide
  stores := ⟨by decide, by decide, by decide, by decide⟩

theorem entryPost_accepted :
    (handleRequest quietOutside entryPost launch.server).any
      (fun served => served.1.reply = replyNoContent) = true := by
  decide +kernel

theorem stored_entry_served_sample : ∃ posting stored reading shown world,
    Run Step launch ([] ++ (some false, .request entryPost) ::
      (posting ++ (some false, .reply stored) :: ([] ++ (some true, .request statusPage) ::
        (reading ++ (some true, .reply shown) :: [])))) world ∧
      ∃ document, JsonDecoder.decode shown.replyBody = some document ∧
        follow [bytes "dictionary", bytes "entries", bytes "k"] document = some (.str [34]) := by
  obtain ⟨⟨stored, server⟩, served, accepted⟩ := (Option.any_eq_true _ _).mp entryPost_accepted
  obtain ⟨posting, own, posted, first⟩ :=
    alone_replies (request_alone false new_consistent served)
  have asked : Step launch (some false, .request entryPost) _ := .request entryPost rfl
  have early := (Run.one asked).append first
  generalize middle_eq : (⟨server, _⟩ : World Bool) = middle at early
  have free : middle.stage true = .idle := by
    rw [← middle_eq]
    rfl
  have table := run_table launched_launch.table early
  have valid := run_consistent new_consistent early
  obtain ⟨⟨shown, later⟩, answered⟩ : ∃ result,
      handleRequest quietOutside statusPage middle.server = some result := by
    rw [handleRequest_started table]
    exact ⟨_, rfl⟩
  obtain ⟨reading, alone, read, second⟩ := alone_replies (request_alone true valid answered)
  have page := Step.request statusPage free
  have whole := early.append ((Run.one page).append second)
  have shape : ∀ tail : List (Event Bool), [(some false, Label.request entryPost)] ++
      (posting ++ [(some false, .reply stored)]) ++ tail =
        [] ++ (some false, .request entryPost) :: (posting ++ (some false, .reply stored) ::
          ([] ++ tail)) := by simp
  rw [shape] at whole
  refine ⟨posting, stored, reading, shown, _, whole, ?_⟩
  refine (stored_entry_served launched_launch whole entryForm_form (of_decide_eq_true accepted) rfl
    ⟨posted, read⟩ ⟨?_, List.forall_mem_nil _, ?_⟩ ⟨by decide, .inl rfl⟩).2
  · exact fun event inside other => absurd (own event inside) other
  · exact fun event inside other => absurd (alone event inside) other

end OClock.ServedEntries

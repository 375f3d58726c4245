import OClock.DictionaryRefinement

/-!
What a request leaves behind when it is refused, and what happens when two
workers run requests at the same time: `parsePostRequest` takes the lock once for
the removal and once more for the insertion.
-/

namespace OClock.DictionaryRequests
open Text TimerTable DictionaryStore DictionaryInvariant DictionaryLive DictionaryTraversal
open DictionaryRun ExpiringMap

/-! ### One request alone -/

theorem live_empty_key {dictionary : Dictionary} (linked : Linked dictionary) :
    live dictionary [] = none := live_absent linked.named

theorem same_answers {left right : Dictionary} (one : Linked left) (two : Linked right)
    (same : live left = live right) (key : Bytes) :
    (DictionaryStore.get left key).1 = (DictionaryStore.get right key).1 := by
  rw [(get_live one key).1, (get_live two key).1, same]

/-- A `set` on a live key whose timeout text does not hold a number. -/
def Clobbers (dictionary : Dictionary) (postValues : StringMap) : Prop :=
  isComplete postValues = true ∧ (requestOf postValues).isSet = true ∧
    (DictionaryStore.get dictionary (requestOf postValues).key).1.found = true ∧
    stoi (requestOf postValues).intervalStr = none

theorem set_not_del {request : Request} (set : request.isSet = true) : request.isDel = false := by
  rw [Request.isDel, (isSet_iff request).mp set]
  decide

/-- A refused insertion leaves every lease as the removal left it. -/
theorem addForRequest_refused {dictionary : Dictionary} (valid : Consistent dictionary)
    {request : Request} (refused : (addForRequest dictionary request).1 = false) :
    live (addForRequest dictionary request).2 = live dictionary ∧
      (stoi request.intervalStr = none ∨ request.key = [] ∨
        (live dictionary request.key).isSome = true) := by
  rw [addForRequest_eq valid] at refused ⊢
  cases del : request.isDel with
  | true => simp [del] at refused
  | false =>
      simp only [del, Bool.false_eq_true, if_false] at refused ⊢
      cases read : stoi request.intervalStr with
      | none => exact ⟨rfl, Or.inl rfl⟩
      | some expiration =>
          obtain ⟨answer, leases⟩ := add_live valid request.key request.data expiration
          simp only [read, Option.elim_some, answer, Except.toOption, Option.getD_some] at refused
          rw [refused] at leases
          refine ⟨leases, Or.inr ?_⟩
          rw [Bool.and_eq_false_iff] at refused
          rcases refused with empty | held
          · exact Or.inl (by simpa using empty)
          · exact Or.inr (Option.isNone_eq_false_iff.mp held)

theorem refused_keeps {dictionary : Dictionary} (valid : Consistent dictionary)
    {postValues : StringMap} (safe : ¬ Clobbers dictionary postValues)
    (refused : (parsePostRequest dictionary postValues).1 = false) :
    live (parsePostRequest dictionary postValues).2 = live dictionary := by
  unfold parsePostRequest at refused ⊢
  rw [readRequest_eq] at refused ⊢
  cases complete : isComplete postValues with
  | false => simp
  | true =>
      simp only [complete, if_true] at refused ⊢
      have removed := removeForRequest_consistent valid (requestOf postValues)
      obtain ⟨kept, cause⟩ := addForRequest_refused removed refused
      rw [kept, removeForRequest_live valid]
      cases del : (requestOf postValues).isDel with
      | true => simp [addForRequest, del] at refused
      | false =>
          cases set : (requestOf postValues).isSet with
          | false => rfl
          | true =>
              simp only [Bool.false_and, Bool.false_eq_true, if_false, Bool.false_or, if_true]
              apply Function.update_eq_self_iff.mpr
              have start := removeForRequest_live valid (requestOf postValues)
              simp only [del, set, Bool.false_and, Bool.false_eq_true, if_false, Bool.false_or,
                if_true] at start
              rcases cause with unread | empty | held
              · have found := get_found valid.1 (requestOf postValues).key
                have missed : ¬ (DictionaryStore.get dictionary
                    (requestOf postValues).key).1.found = true :=
                  fun hit => safe ⟨complete, set, hit, unread⟩
                rw [found, Option.not_isSome_iff_eq_none] at missed
                exact missed.symm
              · rw [empty]
                exact (live_empty_key valid.1).symm
              · rw [start, Function.update_self] at held
                cases held

theorem clobbers_changes {dictionary : Dictionary} (valid : Consistent dictionary)
    {postValues : StringMap} (clobbers : Clobbers dictionary postValues) :
    (parsePostRequest dictionary postValues).1 = false ∧
      (DictionaryStore.get (parsePostRequest dictionary postValues).2
        (requestOf postValues).key).1.found = false := by
  obtain ⟨complete, set, _, unread⟩ := clobbers
  have other := set_not_del set
  have ends : parsePostRequest dictionary postValues =
      (false, removeForRequest dictionary (requestOf postValues)) := by
    simp [parsePostRequest, readRequest_eq, complete, addForRequest, other, unread]
  rw [ends]
  refine ⟨rfl, ?_⟩
  rw [get_found (removeForRequest_consistent valid (requestOf postValues)).1,
    removeForRequest_live valid]
  simp [other, set]

/-- A refused request changes what `get` answers for some key exactly if it is a
`set` that has removed a live key before its timeout turned out not to be a number. -/
theorem refused_request_changes_nothing (dictionary : Dictionary)
    (reached : DictionaryRun.Reachable dictionary) (postValues : StringMap) :
    ((parsePostRequest dictionary postValues).1 = false → ∀ key,
      (DictionaryStore.get (parsePostRequest dictionary postValues).2 key).1 =
        (DictionaryStore.get dictionary key).1) ↔ ¬ Clobbers dictionary postValues := by
  have valid := reachable_consistent reached
  constructor
  · intro keeps clobbers
    obtain ⟨refused, lost⟩ := clobbers_changes valid clobbers
    have same := keeps refused (requestOf postValues).key
    rw [same] at lost
    rw [clobbers.2.2.1] at lost
    cases lost
  · intro safe refused key
    exact same_answers (parsePostRequest_consistent valid postValues).1 valid.1
      (refused_keeps valid safe refused) key

/-- The dictionary after `key=old` was added without a timeout. -/
def oneEntry : Dictionary :=
  (Machine.run DictionaryRun.step Dictionary.new [.add (bytes "key") (bytes "old") (-1)]).2

def badTimeout : StringMap := setRequest (bytes "key") (bytes "new") (bytes "not-a-number")

theorem refused_request_changes_nothing_sample :
    ((parsePostRequest oneEntry badTimeout).1 = false → ∀ key,
      (DictionaryStore.get (parsePostRequest oneEntry badTimeout).2 key).1 =
        (DictionaryStore.get oneEntry key).1) ↔ ¬ Clobbers oneEntry badTimeout :=
  refused_request_changes_nothing oneEntry ⟨_, rfl⟩ badTimeout

theorem refused_request_removes_entry :
    ¬ ∀ dictionary, DictionaryRun.Reachable dictionary → ∀ postValues,
      (parsePostRequest dictionary postValues).1 = false → ∀ key,
        (DictionaryStore.get (parsePostRequest dictionary postValues).2 key).1 =
          (DictionaryStore.get dictionary key).1 := by
  intro claimed
  have kept := claimed oneEntry ⟨_, rfl⟩ badTimeout (by decide) (bytes "key")
  revert kept
  decide

/-! ### Two requests at the same time -/

/-- How far a worker has come with its request. -/
inductive Phase where
  | removing
  | adding
  | returned (result : Bool)
  deriving DecidableEq

/-- The next atomic step of a worker. -/
def work (request : Request) (dictionary : Dictionary) : Phase → Phase × Dictionary
  | .removing => (.adding, removeForRequest dictionary request)
  | .adding =>
      let result := addForRequest dictionary request
      (.returned result.1, result.2)
  | .returned result => (.returned result, dictionary)

structure Workers where
  dictionary : Dictionary
  first : Phase
  second : Phase

inductive Worker where
  | first
  | second
  deriving DecidableEq

def turn (one two : Request) (workers : Workers) : Worker → Workers
  | .first =>
      let worked := work one workers.dictionary workers.first
      { workers with dictionary := worked.2, first := worked.1 }
  | .second =>
      let worked := work two workers.dictionary workers.second
      { workers with dictionary := worked.2, second := worked.1 }

def runWorkers (one two : Request) (dictionary : Dictionary) (schedule : List Worker) : Workers :=
  schedule.foldl (turn one two) ⟨dictionary, .removing, .removing⟩

/-- Two turns of a worker alone are its whole request. -/
theorem runWorkers_alone (one two : Request) (dictionary : Dictionary)
    (postValues : StringMap) (read : readRequest postValues = some one) :
    runWorkers one two dictionary [.first, .first] =
      ⟨(parsePostRequest dictionary postValues).2,
        .returned (parsePostRequest dictionary postValues).1, .removing⟩ := by
  simp [runWorkers, turn, work, parsePostRequest, read]

/-- Every order of the turns that keeps each worker's own. -/
inductive Interleaves {α : Type} : List α → List α → List α → Prop where
  | nil : Interleaves [] [] []
  | left {head : α} {one two whole : List α} :
      Interleaves one two whole → Interleaves (head :: one) two (head :: whole)
  | right {head : α} {one two whole : List α} :
      Interleaves one two whole → Interleaves one (head :: two) (head :: whole)

/-- One worker is done before the other one starts. -/
def Serial (schedule : List Worker) : Prop :=
  schedule = [.first, .first, .second, .second] ∨ schedule = [.second, .second, .first, .first]

instance (schedule : List Worker) : Decidable (Serial schedule) := by
  unfold Serial
  infer_instance

theorem interleaves_nil_left {α : Type} (one two whole : List α) (ended : one = [])
    (order : Interleaves one two whole) : whole = two := by
  induction order with
  | nil => rfl
  | left _ _ => cases ended
  | right _ ih => rw [ih ended]

theorem interleaves_nil_right {α : Type} (one two whole : List α) (ended : two = [])
    (order : Interleaves one two whole) : whole = one := by
  induction order with
  | nil => rfl
  | left _ ih => rw [ih ended]
  | right _ _ => cases ended

theorem interleaves_cases {schedule : List Worker}
    (order : Interleaves [.first, .first] [.second, .second] schedule) :
    Serial schedule ∨
      schedule = [.first, .second, .first, .second] ∨
      schedule = [.first, .second, .second, .first] ∨
      schedule = [.second, .first, .first, .second] ∨
      schedule = [.second, .first, .second, .first] := by
  -- Once a worker has run both of its steps, only the other one is left.
  cases order with
  | left order =>
      cases order with
      | left order =>
          rw [interleaves_nil_left _ _ _ rfl order]
          decide
      | right order =>
          cases order with
          | left order =>
              rw [interleaves_nil_left _ _ _ rfl order]
              decide
          | right order =>
              rw [interleaves_nil_right _ _ _ rfl order]
              decide
  | right order =>
      cases order with
      | right order =>
          rw [interleaves_nil_right _ _ _ rfl order]
          decide
      | left order =>
          cases order with
          | left order =>
              rw [interleaves_nil_left _ _ _ rfl order]
              decide
          | right order =>
              rw [interleaves_nil_right _ _ _ rfl order]
              decide

/-- A complete request to set `key` with a valid timeout. -/
structure Sets (key : Bytes) (postValues : StringMap) : Prop where
  complete : isComplete postValues = true
  set : (requestOf postValues).isSet = true
  named : (requestOf postValues).key = key
  timeout : ∃ expiration, -1 ≤ expiration ∧
    stoi (requestOf postValues).intervalStr = some expiration

theorem removing {dictionary : Dictionary} (valid : Consistent dictionary) {key : Bytes}
    {postValues : StringMap} (sets : Sets key postValues) :
    Consistent (removeForRequest dictionary (requestOf postValues)) ∧
      live (removeForRequest dictionary (requestOf postValues)) key = none := by
  refine ⟨removeForRequest_consistent valid _, ?_⟩
  rw [removeForRequest_live valid]
  simp [set_not_del sets.set, sets.set, sets.named]

/-- The insertion of a `set` succeeds exactly if the key is not live by then. -/
theorem adding {dictionary : Dictionary} (valid : Consistent dictionary) {key : Bytes}
    (nonempty : key ≠ []) {postValues : StringMap} (sets : Sets key postValues) :
    (addForRequest dictionary (requestOf postValues)).1 = (live dictionary key).isNone ∧
      Consistent (addForRequest dictionary (requestOf postValues)).2 ∧
      ((live dictionary key).isNone = true →
        present (addForRequest dictionary (requestOf postValues)).2 key =
          some (requestOf postValues).data) ∧
      (live (addForRequest dictionary (requestOf postValues)).2 key).isSome = true := by
  obtain ⟨expiration, bound, read⟩ := sets.timeout
  have consistent := addForRequest_consistent valid (requestOf postValues)
  rw [addForRequest_eq valid] at consistent ⊢
  obtain ⟨answer, leases⟩ := add_live valid key (requestOf postValues).data expiration
  simp only [set_not_del sets.set, Bool.false_eq_true, if_false, read, Option.elim_some,
    sets.named, answer] at consistent ⊢
  have accepted : (decide (key ≠ []) && (live dictionary key).isNone) =
      (live dictionary key).isNone := by simp [nonempty]
  rw [accepted] at leases ⊢
  refine ⟨rfl, consistent, ?_, ?_⟩
  · intro free
    rw [present, leases, free, if_pos rfl, Function.update_self,
      DictionaryRefinement.newLease_lifetime _ bound]
    rfl
  · rw [leases]
    split
    · rw [Function.update_self, DictionaryRefinement.newLease_lifetime _ bound]
      rfl
    · rename_i held
      exact Option.isNone_eq_false_iff.mp (Bool.eq_false_of_not_eq_true held)

theorem get_of_present {dictionary : Dictionary} (valid : Consistent dictionary)
    {key data : Bytes} (here : present dictionary key = some data) :
    (DictionaryStore.get dictionary key).1 = ⟨true, data⟩ := by
  rw [get_present valid.1, here]
  rfl

/-- Both requests succeed, and the value of one of them is left. -/
def BothSet (one two : Request) (key : Bytes) (workers : Workers) : Prop :=
  workers.first = .returned true ∧ workers.second = .returned true ∧
    ((DictionaryStore.get workers.dictionary key).1 = ⟨true, one.data⟩ ∨
      (DictionaryStore.get workers.dictionary key).1 = ⟨true, two.data⟩)

/-- Once both removals are done, only the first insertion succeeds. -/
theorem second_insertion_fails {dictionary : Dictionary} (valid : Consistent dictionary)
    {key : Bytes} (nonempty : key ≠ []) {early late : StringMap} (first : Sets key early)
    (second : Sets key late) :
    (addForRequest (addForRequest dictionary (requestOf early)).2 (requestOf late)).1 = false := by
  obtain ⟨_, between, _, taken⟩ := adding valid nonempty first
  rw [(adding between nonempty second).1]
  exact Option.isNone_eq_false_iff.mpr taken

/-- One request after the other succeeds, and leaves the later value. -/
theorem serial_requests_succeed {dictionary : Dictionary} (valid : Consistent dictionary)
    {key : Bytes} (nonempty : key ≠ []) {postValues : StringMap} (sets : Sets key postValues) :
    let removed := removeForRequest dictionary (requestOf postValues)
    (addForRequest removed (requestOf postValues)).1 = true ∧
      Consistent (addForRequest removed (requestOf postValues)).2 ∧
      (DictionaryStore.get (addForRequest removed (requestOf postValues)).2 key).1 =
        ⟨true, (requestOf postValues).data⟩ := by
  obtain ⟨start, gone⟩ := removing valid sets
  obtain ⟨succeeds, consistent, stored, _⟩ := adding start nonempty sets
  refine ⟨by rw [succeeds, gone]; rfl, consistent, ?_⟩
  exact get_of_present consistent (stored (by rw [gone]; rfl))

/-- Two workers that set one key both succeed exactly if they do not overlap. -/
theorem concurrent_sets_succeed (dictionary : Dictionary)
    (reached : DictionaryRun.Reachable dictionary) (key : Bytes) (nonempty : key ≠ [])
    (one two : StringMap) (first : Sets key one) (second : Sets key two)
    (schedule : List Worker)
    (order : Interleaves [.first, .first] [.second, .second] schedule) :
    BothSet (requestOf one) (requestOf two) key
      (runWorkers (requestOf one) (requestOf two) dictionary schedule) ↔ Serial schedule := by
  have valid := reachable_consistent reached
  constructor
  · rintro ⟨oneDone, twoDone, _⟩
    have oneRemoved := removing valid first
    have twoRemoved := removing valid second
    have early := removing twoRemoved.1 first
    have late := removing oneRemoved.1 second
    rcases interleaves_cases order with serial | rfl | rfl | rfl | rfl
    · exact serial
    · have fails := second_insertion_fails late.1 nonempty first second
      simp [runWorkers, turn, work, fails] at twoDone
    · have fails := second_insertion_fails late.1 nonempty second first
      simp [runWorkers, turn, work, fails] at oneDone
    · have fails := second_insertion_fails early.1 nonempty first second
      simp [runWorkers, turn, work, fails] at twoDone
    · have fails := second_insertion_fails early.1 nonempty second first
      simp [runWorkers, turn, work, fails] at oneDone
  · rintro (rfl | rfl)
    · obtain ⟨oneDone, between, _⟩ := serial_requests_succeed valid nonempty first
      obtain ⟨twoDone, _, left⟩ := serial_requests_succeed between nonempty second
      refine ⟨?_, ?_, Or.inr ?_⟩ <;> simp [runWorkers, turn, work, oneDone, twoDone, left]
    · obtain ⟨twoDone, between, _⟩ := serial_requests_succeed valid nonempty second
      obtain ⟨oneDone, _, left⟩ := serial_requests_succeed between nonempty first
      refine ⟨?_, ?_, Or.inl ?_⟩ <;> simp [runWorkers, turn, work, oneDone, twoDone, left]

theorem sets_sample :
    Sets (bytes "key") (setRequest (bytes "key") (bytes "new") (bytes "-1")) :=
  ⟨by decide, by decide, by decide, -1, by decide, by decide⟩

theorem concurrent_sets_succeed_sample :
    let request := setRequest (bytes "key") (bytes "new") (bytes "-1")
    BothSet (requestOf request) (requestOf request) (bytes "key")
      (runWorkers (requestOf request) (requestOf request) oneEntry
        [.first, .second, .first, .second]) ↔
      Serial [.first, .second, .first, .second] :=
  concurrent_sets_succeed oneEntry ⟨_, rfl⟩ (bytes "key") (by decide) _ _ sets_sample sets_sample _
    (.left (.right (.left (.right .nil))))

theorem concurrent_set_fails :
    ¬ ∀ dictionary, DictionaryRun.Reachable dictionary → ∀ key, key ≠ [] → ∀ one two,
      Sets key one → Sets key two → ∀ schedule,
        Interleaves [.first, .first] [.second, .second] schedule →
        BothSet (requestOf one) (requestOf two) key
          (runWorkers (requestOf one) (requestOf two) dictionary schedule) := by
  intro claimed
  have both := claimed oneEntry ⟨_, rfl⟩ (bytes "key") (by decide) _ _ sets_sample sets_sample
    [.first, .second, .first, .second] (.left (.right (.left (.right .nil))))
  have fails := both.2.1
  revert fails
  decide

end OClock.DictionaryRequests

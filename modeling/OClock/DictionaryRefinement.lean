import OClock.DictionaryRun
import OClock.DictionaryTraversal

/-!
The dictionary refines a map whose entries vanish by themselves. Expired entries
may stay stored until some operation happens to touch them, but no answer tells.
-/

namespace OClock.DictionaryRefinement
open Text TimerTable DictionaryStore DictionaryInvariant DictionaryLive DictionaryTraversal
open DictionaryRun ExpiringMap

/-! ### What the dictionary is for -/

abbrev Contents := TimedMap Bytes Bytes

/-- The tick, counted from the addition, at which an entry vanishes. -/
def lifetime (expirationInMilliseconds : Int) : Option Nat :=
  if expirationInMilliseconds = -1 then none
  else some (1 + expirationInMilliseconds.toNat / 12)

/-- An empty or a live key is refused. -/
def specAdd (contents : Contents) (key data : Bytes) (expirationInMilliseconds : Int) :
    Bool × Contents :=
  if key = [] ∨ (lookup contents key).isSome then (false, contents)
  else (true, insert contents key data (lifetime expirationInMilliseconds))

def specGet (contents : Contents) (key : Bytes) : Lookup :=
  match lookup contents key with
  | none => ⟨false, []⟩
  | some data => ⟨true, data⟩

noncomputable def specNext (contents : Contents) (key : Bytes) : Answer :=
  match next (lookup contents) key with
  | none => .visited none []
  | some (found, data) => .visited (some found) data

/-- `add` adds, `set` replaces, and `del` removes one key or all of them. -/
def specPost (contents : Contents) (postValues : StringMap) : Bool × Contents :=
  let operation := (postValues[bytes "dictionaryOperation"]?).getD (bytes "set")
  let key := postValues[bytes "dictionaryKey"]?
  let data := postValues[bytes "dictionaryData"]?
  let timeout := stoi ((postValues[bytes "dictionaryTimeout"]?).getD (bytes "-1"))
  if operation = bytes "del" then
    match key with
    | none => (true, clear contents)
    | some [] => (true, clear contents)
    | some key => (true, erase contents key)
  else
    match key, data, timeout with
    | some key, some data, some expiration =>
        if operation = bytes "add" then specAdd contents key data expiration
        else if operation = bytes "set" then specAdd (erase contents key) key data expiration
        else (false, contents)
    | _, _, _ => (false, contents)

noncomputable def specStep (contents : Contents) : Op → Answer × Contents
  | .add key data expiration =>
      let result := specAdd contents key data expiration
      (.added (.ok result.1), result.2)
  | .get key => (.got (specGet contents key), contents)
  | .remove key => (.done, erase contents key)
  | .clear => (.done, ExpiringMap.clear contents)
  | .getFirst => (specNext contents [], contents)
  | .getNext key => (specNext contents key, contents)
  | .purge => (.done, contents)
  | .post postValues =>
      let result := specPost contents postValues
      (.posted result.1, result.2)
  | .tick => (.done, advance contents)

/-- Timeouts are -1 or not negative, and requests name one of the operations. -/
def Admitted : Op → Prop
  | .add _ _ expiration => -1 ≤ expiration
  | .post postValues =>
      (postValues[bytes "dictionaryOperation"]?).getD (bytes "set") ∈
        [bytes "add", bytes "set", bytes "del"] ∧
      ∃ expiration, -1 ≤ expiration ∧
        stoi ((postValues[bytes "dictionaryTimeout"]?).getD (bytes "-1")) = some expiration
  | _ => True

/-! ### The simulation -/

/-- Both sides hold the same lease for every key. -/
structure Related (dictionary : Dictionary) (contents : Contents) : Prop where
  valid : Consistent dictionary
  leases : live dictionary = lease contents

theorem Related.present {dictionary : Dictionary} {contents : Contents}
    (related : Related dictionary contents) :
    DictionaryLive.present dictionary = lookup contents := by
  funext key
  rw [DictionaryLive.present, related.leases]
  rfl

theorem newLease_lifetime (data : Bytes) {expiration : Int} (admitted : -1 ≤ expiration) :
    newLease data expiration = some ⟨data, lifetime expiration⟩ := by
  unfold newLease lifetime
  by_cases lasting : expiration = -1
  · simp [lasting, noExpiration]
  · have timed : 0 ≤ expiration := by omega
    have quotient : (expiration / millisPerTick).toNat = expiration.toNat / 12 := by
      simp only [millisPerTick]
      omega
    simp [lasting, noExpiration, timed, ticksFor, quotient]

theorem lifetime_positive {expiration : Int} (ticks : Nat)
    (timed : lifetime expiration = some ticks) : 0 < ticks := by
  unfold lifetime at timed
  split at timed
  · cases timed
  · cases timed
    omega

theorem add_simulates {dictionary : Dictionary} {contents : Contents}
    (related : Related dictionary contents) (key data : Bytes) {expiration : Int}
    (admitted : -1 ≤ expiration) :
    (add dictionary key data expiration).1 = .ok (specAdd contents key data expiration).1 ∧
      Related (add dictionary key data expiration).2
        (specAdd contents key data expiration).2 := by
  obtain ⟨answer, leases⟩ := add_live related.valid key data expiration
  have valid := add_consistent related.valid key data expiration
  have taken : (lookup contents key).isSome = (live dictionary key).isSome := by
    rw [lookup, related.leases, Option.isSome_map]
  by_cases refused : key = [] ∨ (lookup contents key).isSome
  · have unaccepted : (decide (key ≠ []) && (live dictionary key).isNone) = false := by
      rcases refused with empty | held
      · simp [empty]
      · rw [taken] at held
        simp [Option.isNone_eq_false_iff.mpr held]
    rw [unaccepted] at answer leases
    simp only [specAdd, if_pos refused]
    exact ⟨answer, valid, leases.trans related.leases⟩
  · have accepted : (decide (key ≠ []) && (live dictionary key).isNone) = true := by
      rw [taken, not_or] at refused
      simp only [Bool.not_eq_true, Option.isSome_eq_false_iff] at refused
      simp [refused.1, refused.2]
    rw [accepted] at answer leases
    simp only [specAdd, if_neg refused]
    refine ⟨answer, valid, ?_⟩
    rw [leases, if_pos rfl, lease_insert _ _ _ _ lifetime_positive, related.leases,
      newLease_lifetime data admitted]

theorem get_simulates {dictionary : Dictionary} {contents : Contents}
    (related : Related dictionary contents) (key : Bytes) :
    (DictionaryStore.get dictionary key).1 = specGet contents key ∧
      Related (DictionaryStore.get dictionary key).2 contents := by
  refine ⟨?_, get_consistent related.valid key, ?_⟩
  · rw [get_present related.valid.1, related.present, specGet]
    cases lookup contents key <;> rfl
  · exact (get_live related.valid.1 key).2.trans related.leases

theorem remove_simulates {dictionary : Dictionary} {contents : Contents}
    (related : Related dictionary contents) (key : Bytes) :
    Related (remove dictionary key).2 (erase contents key) :=
  ⟨remove_consistent related.valid key, by
    rw [remove_live related.valid.1, lease_erase, related.leases]⟩

theorem clear_simulates {dictionary : Dictionary} {contents : Contents}
    (related : Related dictionary contents) :
    Related (DictionaryStore.clear dictionary) (ExpiringMap.clear contents) :=
  ⟨clear_consistent related.valid, (clear_live related.valid).trans (lease_clear contents).symm⟩

theorem getNext_simulates {dictionary : Dictionary} {contents : Contents}
    (related : Related dictionary contents) (key : Bytes) :
    visit (getNext dictionary key).1 = specNext contents key ∧
      Related (getNext dictionary key).2 contents := by
  refine ⟨?_, getNext_consistent related.valid key,
    (getNext_live related.valid key).trans related.leases⟩
  have answers := (getNext_ends related.valid key).2
  rw [Answers, related.present] at answers
  rcases answers with ⟨found, step⟩ | ⟨ends, nothing, last⟩
  · rw [specNext, next_of_isNext step]
    simp [visit, found]
  · rw [specNext, next_of_isLast last]
    simp [visit, ends, nothing, noData]

theorem timerTick_simulates {dictionary : Dictionary} {contents : Contents}
    (related : Related dictionary contents) :
    Related (timerTick dictionary) (advance contents) :=
  ⟨timerTick_consistent related.valid, by
    rw [timerTick_live related.valid.1, lease_advance, related.leases]⟩

theorem addForRequest_simulates {dictionary : Dictionary} {contents : Contents}
    (related : Related dictionary contents) {request : Request} {expiration : Int}
    (kind : request.isDel = false) (read : stoi request.intervalStr = some expiration)
    (admitted : -1 ≤ expiration) :
    (addForRequest dictionary request).1 =
        (specAdd contents request.key request.data expiration).1 ∧
      Related (addForRequest dictionary request).2
        (specAdd contents request.key request.data expiration).2 := by
  obtain ⟨answer, later⟩ := add_simulates related request.key request.data admitted
  rw [addForRequest_eq related.valid]
  simp only [kind, Bool.false_eq_true, if_false, read, Option.elim_some, answer]
  exact ⟨rfl, later⟩

theorem del_simulates {dictionary : Dictionary} {contents : Contents}
    (related : Related dictionary contents) {postValues : StringMap}
    (del : (requestOf postValues).operation = bytes "del") :
    (parsePostRequest dictionary postValues).1 = (specPost contents postValues).1 ∧
      Related (parsePostRequest dictionary postValues).2 (specPost contents postValues).2 := by
  have kind : (requestOf postValues).isDel = true := (isDel_iff _).mpr del
  have ends : parsePostRequest dictionary postValues =
      (true, removeForRequest dictionary (requestOf postValues)) := by
    simp [parsePostRequest, readRequest_eq, isComplete, kind, addForRequest]
  have named : (postValues[bytes "dictionaryOperation"]?).getD (bytes "set") = bytes "del" := del
  have asked : (requestOf postValues).key =
      (postValues[bytes "dictionaryKey"]?).getD [] := rfl
  rw [ends]
  simp only [specPost, named, if_true, removeForRequest, kind, Bool.true_or, Bool.true_and, asked]
  cases postValues[bytes "dictionaryKey"]? with
  | none => exact ⟨rfl, clear_simulates related⟩
  | some key =>
      cases key with
      | nil => exact ⟨rfl, clear_simulates related⟩
      | cons head tail => exact ⟨rfl, remove_simulates related (head :: tail)⟩

theorem post_simulates {dictionary : Dictionary} {contents : Contents}
    (related : Related dictionary contents) {postValues : StringMap}
    (admitted : Admitted (.post postValues)) :
    (parsePostRequest dictionary postValues).1 = (specPost contents postValues).1 ∧
      Related (parsePostRequest dictionary postValues).2 (specPost contents postValues).2 := by
  obtain ⟨operation, expiration, bound, read⟩ := admitted
  by_cases del : (requestOf postValues).operation = bytes "del"
  · exact del_simulates related del
  have other : (requestOf postValues).isDel = false := by
    rw [← Bool.not_eq_true, isDel_iff]
    exact del
  have timeout : stoi (requestOf postValues).intervalStr = some expiration := read
  have named : (postValues[bytes "dictionaryOperation"]?).getD (bytes "set") =
      (requestOf postValues).operation := rfl
  have sameKey : postValues[bytes "dictionaryKey"]? =
      getParamValue postValues dictionaryParamKey := rfl
  have sameData : postValues[bytes "dictionaryData"]? =
      getParamValue postValues dictionaryParamData := rfl
  rw [named] at operation
  simp only [specPost, named, if_neg del, sameKey, sameData, read]
  cases keyed : getParamValue postValues dictionaryParamKey with
  | none =>
      -- Without a key the request changes nothing, and likewise without data.
      have refused : isComplete postValues = false := by simp [isComplete, other, keyed]
      simp only [parsePostRequest, readRequest_eq, refused]
      exact ⟨rfl, related⟩
  | some key =>
      cases filled : getParamValue postValues dictionaryParamData with
      | none =>
          have refused : isComplete postValues = false := by simp [isComplete, other, filled]
          simp only [parsePostRequest, readRequest_eq, refused]
          exact ⟨rfl, related⟩
      | some data =>
          have key_eq : (requestOf postValues).key = key := by simp [requestOf, keyed]
          have data_eq : (requestOf postValues).data = data := by simp [requestOf, filled]
          simp only [List.mem_cons, List.not_mem_nil, or_false, del] at operation
          -- An add keeps the old entry and may fail on it; a set removes it first.
          rcases operation with add | set
          · have kind : (requestOf postValues).isAdd = true := (isAdd_iff _).mpr add
            have unset : (requestOf postValues).isSet = false := by
              rw [Request.isSet, add]
              decide
            have accepted : isComplete postValues = true := by
              simp [isComplete, keyed, filled, kind]
            have start : removeForRequest dictionary (requestOf postValues) = dictionary := by
              simp [removeForRequest, other, unset]
            have added := addForRequest_simulates related other timeout bound
            rw [key_eq, data_eq] at added
            simp only [parsePostRequest, readRequest_eq, accepted, if_true, start, add]
            exact added
          · have kind : (requestOf postValues).isSet = true := (isSet_iff _).mpr set
            have accepted : isComplete postValues = true := by
              simp [isComplete, keyed, filled, kind]
            have start : removeForRequest dictionary (requestOf postValues) =
                (remove dictionary key).2 := by
              simp [removeForRequest, other, kind, key_eq]
            have different : ¬ bytes "set" = bytes "add" := by decide
            have added := addForRequest_simulates (remove_simulates related key) other timeout bound
            rw [key_eq, data_eq] at added
            simp only [parsePostRequest, readRequest_eq, accepted, if_true, start, set, different,
              if_false]
            exact added

theorem step_simulates (dictionary : Dictionary) (contents : Contents) (op : Op)
    (admitted : Admitted op) (related : Related dictionary contents) :
    (DictionaryRun.step dictionary op).1 = (specStep contents op).1 ∧
      Related (DictionaryRun.step dictionary op).2 (specStep contents op).2 := by
  cases op with
  | add key data expiration =>
      obtain ⟨answer, later⟩ := add_simulates related key data admitted
      exact ⟨congrArg Answer.added answer, later⟩
  | get key =>
      obtain ⟨answer, later⟩ := get_simulates related key
      exact ⟨congrArg Answer.got answer, later⟩
  | remove key => exact ⟨rfl, remove_simulates related key⟩
  | clear => exact ⟨rfl, clear_simulates related⟩
  | getFirst => exact getNext_simulates related []
  | getNext key => exact getNext_simulates related key
  | purge =>
      exact ⟨rfl, purge_consistent related.valid, (purge_live related.valid).trans related.leases⟩
  | post postValues =>
      obtain ⟨answer, later⟩ := post_simulates related admitted
      exact ⟨congrArg Answer.posted answer, later⟩
  | tick => exact ⟨rfl, timerTick_simulates related⟩

theorem new_related : Related Dictionary.new empty :=
  ⟨new_consistent, by
    funext key
    rw [lease_empty]
    exact live_absent (by simp [Dictionary.new])⟩

theorem run_related (ops : List Op) (admitted : ∀ op ∈ ops, Admitted op) :
    (Machine.run DictionaryRun.step Dictionary.new ops).1 =
        (Machine.run specStep empty ops).1 ∧
      Related (Machine.run DictionaryRun.step Dictionary.new ops).2
        (Machine.run specStep empty ops).2 :=
  Machine.run_simulates DictionaryRun.step specStep Related Admitted step_simulates
    Dictionary.new empty ops admitted new_related

/-- No run can tell the dictionary from a map whose entries vanish at the end of
their lifetime by themselves. -/
theorem lazy_expiry_unobservable (ops : List Op) (admitted : ∀ op ∈ ops, Admitted op) :
    (Machine.run DictionaryRun.step Dictionary.new ops).1 =
      (Machine.run specStep empty ops).1 :=
  (run_related ops admitted).1

theorem lazy_expiry_unobservable_sample :
    let ops : List Op :=
      [.add (bytes "a") (bytes "x") 24, .post (setRequest (bytes "b") (bytes "y") (bytes "30")),
        .tick, .tick, .getFirst, .tick, .add (bytes "a") [] (-1), .getNext (bytes "a"),
        .get (bytes "a")]
    (Machine.run DictionaryRun.step Dictionary.new ops).1 =
      (Machine.run specStep empty ops).1 := by
  apply lazy_expiry_unobservable _
  simp only [List.forall_mem_cons, List.not_mem_nil, false_implies, implies_true, Admitted,
    and_true, true_and]
  exact ⟨by decide, ⟨by decide, 30, by decide, by decide⟩, by decide⟩

/-! ### How long an entry lasts -/

theorem ticks_related {dictionary : Dictionary} {contents : Contents}
    (related : Related dictionary contents) (ticks : Nat) :
    Related (timerTick^[ticks] dictionary) (advances contents ticks) := by
  induction ticks with
  | zero => exact related
  | succ ticks ih =>
      rw [Function.iterate_succ_apply', advances]
      exact timerTick_simulates ih

/-- An entry that nobody touches is found for its lifetime and not a tick longer. -/
theorem added_entry_lasts (ops : List Op) (allowed : ∀ op ∈ ops, Admitted op) (key data : Bytes)
    (expiration : Int) (bound : -1 ≤ expiration) (ticks : Nat) :
    let added := add (Machine.run DictionaryRun.step Dictionary.new ops).2 key data expiration
    added.1 = .ok true →
      (DictionaryStore.get (timerTick^[ticks] added.2) key).1 =
        if ∀ last, lifetime expiration = some last → ticks < last then ⟨true, data⟩
        else ⟨false, noData⟩ := by
  intro added accepted
  obtain ⟨answer, later⟩ := add_simulates (run_related ops allowed).2 key data bound
  have taken := answer.symm.trans accepted
  rw [(get_simulates (ticks_related later ticks) key).1]
  unfold specAdd at taken ⊢
  split at taken
  · cases taken
  · rename_i free
    rw [if_neg free, specGet]
    cases timed : lifetime expiration with
    | none => simp [lookup_for_ever]
    | some last =>
        rw [lookup_later]
        by_cases still : ticks < last <;> simp [still, noData]

end OClock.DictionaryRefinement

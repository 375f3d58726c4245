import OClock.DictionaryRun
import OClock.DictionaryTraversal

/-!
What was added can be read back: a fresh entry stays as it is while other keys are worked on,
and it is there from the start unless its timeout is negative without being the one for ever.
-/

namespace OClock.DictionaryReadBack
open Text DictionaryStore DictionaryInvariant DictionaryLive DictionaryTraversal DictionaryRun

/-- No tick, and nothing done to the key: a walk over the dictionary may pass by it. -/
def Elsewhere (key : Bytes) : Op → Prop
  | .add other _ _ | .get other | .remove other => other ≠ key
  | .clear | .tick => False
  | .getFirst | .getNext _ | .purge => True
  | .post postValues => (requestOf postValues).key ≠ key ∧
      ¬ ((requestOf postValues).isDel = true ∧ (requestOf postValues).key = [])

/-- A `get` of the key before the next tick finds the data. -/
def ReadBack (dictionary : Dictionary) (key data : Bytes) : Prop :=
  ∀ ops : List Op, (∀ op ∈ ops, Elsewhere key op) →
    (DictionaryStore.get (Machine.run step dictionary ops).2 key).1 = ⟨true, data⟩

theorem add_other {dictionary : Dictionary} (valid : Consistent dictionary) {key other : Bytes}
    (apart : other ≠ key) (data : Bytes) (expiration : Int) :
    live (add dictionary other data expiration).2 key = live dictionary key := by
  have leases := (add_live valid other data expiration).2
  rw [leases]
  split
  · exact Function.update_of_ne (Ne.symm apart) ..
  · rfl

theorem remove_other {dictionary : Dictionary} (valid : Consistent dictionary) {key other : Bytes}
    (apart : other ≠ key) : live (remove dictionary other).2 key = live dictionary key := by
  rw [remove_live valid.1]
  exact Function.update_of_ne (Ne.symm apart) ..

theorem removeForRequest_other {dictionary : Dictionary} (valid : Consistent dictionary)
    {key : Bytes} {request : Request} (apart : request.key ≠ key)
    (one : ¬ (request.isDel = true ∧ request.key = [])) :
    live (removeForRequest dictionary request) key = live dictionary key := by
  rw [removeForRequest_live valid]
  split
  · next cleared => exact absurd (by simpa using cleared) one
  · split
    · exact Function.update_of_ne (Ne.symm apart) ..
    · rfl

theorem addForRequest_other {dictionary : Dictionary} (valid : Consistent dictionary)
    {key : Bytes} {request : Request} (apart : request.key ≠ key) :
    live (addForRequest dictionary request).2 key = live dictionary key := by
  rw [addForRequest_eq valid]
  split
  · rfl
  · cases stoi request.intervalStr with
    | none => rfl
    | some expiration => exact add_other valid apart request.data expiration

theorem post_other {dictionary : Dictionary} (valid : Consistent dictionary) {key : Bytes}
    {postValues : StringMap} (apart : (requestOf postValues).key ≠ key)
    (one : ¬ ((requestOf postValues).isDel = true ∧ (requestOf postValues).key = [])) :
    live (parsePostRequest dictionary postValues).2 key = live dictionary key := by
  unfold parsePostRequest
  rw [readRequest_eq]
  by_cases complete : isComplete postValues = true
  · rw [if_pos complete]
    have removed := removeForRequest_consistent valid (requestOf postValues)
    exact (addForRequest_other removed apart).trans (removeForRequest_other valid apart one)
  · rw [if_neg complete]

theorem step_elsewhere {dictionary : Dictionary} (valid : Consistent dictionary) {key : Bytes}
    {op : Op} (elsewhere : Elsewhere key op) :
    live (step dictionary op).2 key = live dictionary key := by
  cases op with
  | add other data expiration => exact add_other valid elsewhere data expiration
  | get other => exact congrFun (get_live valid.1 other).2 key
  | remove other => exact remove_other valid elsewhere
  | clear => cases elsewhere
  | getFirst => exact congrFun (getNext_live valid []) key
  | getNext other => exact congrFun (getNext_live valid other) key
  | purge => exact congrFun (purge_live valid) key
  | post postValues => exact post_other valid elsewhere.1 elsewhere.2
  | tick => cases elsewhere

theorem run_elsewhere {dictionary : Dictionary} (valid : Consistent dictionary) {key : Bytes}
    {ops : List Op} (elsewhere : ∀ op ∈ ops, Elsewhere key op) :
    Consistent (Machine.run step dictionary ops).2 ∧
      live (Machine.run step dictionary ops).2 key = live dictionary key := by
  induction ops generalizing dictionary with
  | nil => exact ⟨valid, rfl⟩
  | cons op rest ih =>
      have one := step_elsewhere valid (elsewhere op List.mem_cons_self)
      obtain ⟨kept, same⟩ := ih (step_consistent dictionary op valid)
        fun other inside => elsewhere other (List.mem_cons_of_mem op inside)
      exact ⟨kept, same.trans one⟩

/-- What can be read back is decided by the lease that the key was given. -/
theorem readBack_lease {dictionary : Dictionary} (valid : Consistent dictionary)
    {key data : Bytes} {expiration : Int}
    (lease : live dictionary key = newLease data expiration) :
    ReadBack dictionary key data ↔ -1 ≤ expiration := by
  have looked : ∀ ops : List Op, (∀ op ∈ ops, Elsewhere key op) →
      (DictionaryStore.get (Machine.run step dictionary ops).2 key).1 =
        lookupOf (newLease data expiration) := by
    intro ops elsewhere
    obtain ⟨kept, same⟩ := run_elsewhere valid elsewhere
    rw [(get_live kept.1 key).1, same, lease]
  -- A number below the sentinel gets no timer, and is not exempt from expiring either.
  have found : lookupOf (newLease data expiration) = ⟨true, data⟩ ↔ -1 ≤ expiration := by
    unfold newLease noExpiration
    by_cases lasting : expiration = -1
    · simp [lasting, lookupOf]
    · by_cases timed : 0 ≤ expiration
      · simp [lasting, timed, lookupOf]
        omega
      · simp [lasting, timed, lookupOf]
        omega
  constructor
  · intro reads
    exact found.mp ((looked [] (by simp)).symm.trans (reads [] (by simp)))
  · intro admitted ops elsewhere
    exact (looked ops elsewhere).trans (found.mpr admitted)

theorem add_lease {dictionary : Dictionary} (valid : Consistent dictionary) {key data : Bytes}
    {expiration : Int} (added : (add dictionary key data expiration).1 = .ok true) :
    live (add dictionary key data expiration).2 key = newLease data expiration := by
  obtain ⟨answer, leases⟩ := add_live valid key data expiration
  rw [added] at answer
  rw [leases, if_pos (Except.ok.inj answer).symm]
  exact Function.update_self ..

/-- A request that is not a removal adds with the timeout it reads. -/
theorem post_lease {dictionary : Dictionary} (valid : Consistent dictionary)
    {postValues : StringMap} (adds : (requestOf postValues).isDel = false)
    (posted : (parsePostRequest dictionary postValues).1 = true) :
    ∃ expiration, stoi (requestOf postValues).intervalStr = some expiration ∧
      live (parsePostRequest dictionary postValues).2 (requestOf postValues).key =
        newLease (requestOf postValues).data expiration := by
  unfold parsePostRequest at posted ⊢
  rw [readRequest_eq] at posted ⊢
  by_cases complete : isComplete postValues = true
  · rw [if_pos complete] at posted ⊢
    have removed := removeForRequest_consistent valid (requestOf postValues)
    dsimp only at posted ⊢
    rw [addForRequest_eq removed, adds] at posted ⊢
    cases read : stoi (requestOf postValues).intervalStr with
    | none => simp [read] at posted
    | some expiration =>
        refine ⟨expiration, rfl, add_lease removed ?_⟩
        simp only [Bool.false_eq_true, if_false, read, Option.elim_some] at posted
        have answer := (add_live removed (requestOf postValues).key (requestOf postValues).data
          expiration).1
        rw [answer] at posted ⊢
        exact congrArg Except.ok posted
  · rw [if_neg complete] at posted
    cases posted

/-- In every state, what was just added can be read back exactly when its timeout is not below
the one for ever; and so can what a request has added. -/
theorem added_readable_iff {dictionary : Dictionary} (reached : Reachable dictionary) :
    (∀ (key data : Bytes) (expiration : Int),
      (add dictionary key data expiration).1 = .ok true →
      (ReadBack (add dictionary key data expiration).2 key data ↔ -1 ≤ expiration)) ∧
    (∀ postValues : StringMap, (requestOf postValues).isDel = false →
      (parsePostRequest dictionary postValues).1 = true →
      ∃ expiration, stoi (requestOf postValues).intervalStr = some expiration ∧
        (ReadBack (parsePostRequest dictionary postValues).2 (requestOf postValues).key
          (requestOf postValues).data ↔ -1 ≤ expiration)) := by
  have valid := reachable_consistent reached
  constructor
  · intro key data expiration added
    exact readBack_lease (add_consistent valid key data expiration) (add_lease valid added)
  · intro postValues adds posted
    obtain ⟨expiration, read, lease⟩ := post_lease valid adds posted
    exact ⟨expiration, read,
      readBack_lease (parsePostRequest_consistent valid postValues) lease⟩

/-- An entry without a timeout, added directly and by a request. -/
theorem added_readable_sample :
    (ReadBack (add .new (bytes "key") (bytes "data") (-1)).2 (bytes "key") (bytes "data") ↔
        (-1 : Int) ≤ -1) ∧
      ∃ expiration, stoi (requestOf (setRequest (bytes "key") (bytes "data")
            (bytes "12"))).intervalStr = some expiration ∧
        (ReadBack (parsePostRequest .new (setRequest (bytes "key") (bytes "data") (bytes "12"))).2
          (requestOf (setRequest (bytes "key") (bytes "data") (bytes "12"))).key
          (requestOf (setRequest (bytes "key") (bytes "data") (bytes "12"))).data ↔
            -1 ≤ expiration) :=
  ⟨(added_readable_iff ⟨[], rfl⟩).1 _ _ _ rfl,
    (added_readable_iff ⟨[], rfl⟩).2 _ (by decide +kernel) (by decide +kernel)⟩

/-- An entry that is added with a timeout of -2 is gone at once. -/
theorem negative_timeout_lost :
    (add .new (bytes "key") (bytes "data") (-2)).1 = .ok true ∧
      ¬ ReadBack (add .new (bytes "key") (bytes "data") (-2)).2 (bytes "key") (bytes "data") := by
  refine ⟨rfl, fun reads => ?_⟩
  have lease := @add_lease .new new_consistent (bytes "key") (bytes "data") (-2) rfl
  have admitted := (readBack_lease (add_consistent new_consistent _ _ _) lease).mp reads
  revert admitted
  decide

end OClock.DictionaryReadBack

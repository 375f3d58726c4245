import OClock.DictionaryRun
import OClock.DictionaryTraversal

/-!
One thread walks over the dictionary with `getFirst` and `getNext` while other
threads do what they like between its calls. The cursor is only a key, so it
survives the removal, the expiry and the return of the entry it names.
-/

namespace OClock.ConcurrentTraversal
open Text DictionaryStore DictionaryInvariant DictionaryLive DictionaryTraversal
open DictionaryRun ExpiringMap

/-- A pair returned by one call, and the dictionary the call found. -/
structure Returned where
  key : Bytes
  data : Bytes
  moment : Dictionary

/-- What a traversal returned, every state from its start on, and whether its
last call found nothing. -/
structure Trace where
  returned : List Returned
  moments : List Dictionary
  ended : Bool

/-- The calls of `getNext` with one key variable. Before each call the other
threads take the steps of the next gap. -/
def walk (dictionary : Dictionary) (key : Bytes) : List (List Op) → Trace
  | [] => ⟨[], [dictionary], false⟩
  | gap :: rest =>
      let passed := Machine.trail step dictionary gap
      let now := (Machine.run step dictionary gap).2
      let next := getNext now key
      if next.1.found then
        let later := walk next.2 next.1.key rest
        ⟨⟨next.1.key, next.1.data, now⟩ :: later.returned, passed ++ later.moments, later.ended⟩
      else ⟨[], passed ++ [next.2], true⟩

/-- `getFirst` at once, then `getNext` after each gap until nothing is found. -/
def traverse (dictionary : Dictionary) (gaps : List (List Op)) : Trace :=
  walk dictionary [] ([] :: gaps)

theorem traverse_first (dictionary : Dictionary) (gaps : List (List Op)) :
    traverse dictionary gaps =
      if (getFirst dictionary).1.found then
        let later := walk (getFirst dictionary).2 (getFirst dictionary).1.key gaps
        ⟨⟨(getFirst dictionary).1.key, (getFirst dictionary).1.data, dictionary⟩ :: later.returned,
          dictionary :: later.moments, later.ended⟩
      else ⟨[], [dictionary, (getFirst dictionary).2], true⟩ := rfl

/-- A call either returns the least live key above its own, or ends the traversal. -/
theorem walk_cons {dictionary : Dictionary} (valid : Consistent dictionary) (key : Bytes)
    (gap : List Op) (rest : List (List Op)) :
    let now := (Machine.run step dictionary gap).2
    let passed := Machine.trail step dictionary gap
    (∃ next data after, Consistent after ∧ IsNext (present now) key next data ∧
      walk dictionary key (gap :: rest) =
        ⟨⟨next, data, now⟩ :: (walk after next rest).returned,
          passed ++ (walk after next rest).moments, (walk after next rest).ended⟩) ∨
    (∃ after, Consistent after ∧ IsLast (present now) key ∧
      walk dictionary key (gap :: rest) = ⟨[], passed ++ [after], true⟩) := by
  intro now passed
  have held : Consistent now :=
    Machine.run_invariant step Consistent step_consistent dictionary gap valid
  have kept := getNext_consistent held key
  rcases (getNext_ends held key).2 with ⟨found, step⟩ | ⟨ends, _, last⟩
  · exact Or.inl ⟨_, _, _, kept, step, by simp only [walk, now, found, if_true]; rfl⟩
  · exact Or.inr ⟨_, kept, last, by simp only [walk, now, ends, Bool.false_eq_true, if_false]; rfl⟩

theorem walk_consistent {dictionary : Dictionary} (valid : Consistent dictionary) (key : Bytes)
    (gaps : List (List Op)) : ∀ moment ∈ (walk dictionary key gaps).moments, Consistent moment := by
  induction gaps generalizing dictionary key with
  | nil => simpa [walk] using valid
  | cons gap rest ih =>
      have passed := Machine.trail_invariant step Consistent step_consistent dictionary gap valid
      rcases walk_cons valid key gap rest with
        ⟨next, _, after, kept, _, same⟩ | ⟨after, kept, _, same⟩
      · rw [same]
        intro moment member
        rcases List.mem_append.mp member with early | late
        · exact passed moment early
        · exact ih kept next moment late
      · rw [same]
        intro moment member
        rcases List.mem_append.mp member with early | late
        · exact passed moment early
        · rw [List.mem_singleton.mp late]
          exact kept

/-- The keys go up, whatever the other threads do. -/
theorem walk_ascends {dictionary : Dictionary} (valid : Consistent dictionary) (key : Bytes)
    (gaps : List (List Op)) :
    (key :: (walk dictionary key gaps).returned.map Returned.key).Pairwise
      fun left right => compare left right = .lt := by
  induction gaps generalizing dictionary key with
  | nil => simp [walk]
  | cons gap rest ih =>
      rcases walk_cons valid key gap rest with
        ⟨next, _, after, kept, step, same⟩ | ⟨_, _, _, same⟩
      · rw [same]
        have higher := ih kept next
        refine List.pairwise_cons.mpr ⟨?_, higher⟩
        intro other member
        rcases List.mem_cons.mp member with here | later
        · rw [here]
          exact step.above
        · exact Std.TransCmp.lt_trans step.above ((List.pairwise_cons.mp higher).1 other later)
      · simp [same]

theorem walk_returns_live {dictionary : Dictionary} (valid : Consistent dictionary) (key : Bytes)
    (gaps : List (List Op)) :
    ∀ pair ∈ (walk dictionary key gaps).returned,
      present pair.moment pair.key = some pair.data ∧
        pair.moment ∈ (walk dictionary key gaps).moments := by
  induction gaps generalizing dictionary key with
  | nil => simp [walk]
  | cons gap rest ih =>
      rcases walk_cons valid key gap rest with
        ⟨next, _, after, kept, step, same⟩ | ⟨_, _, _, same⟩
      · rw [same]
        intro pair member
        rcases List.mem_cons.mp member with here | later
        · rw [here]
          exact ⟨step.here, List.mem_append_left _ (Machine.trail_end ..)⟩
        · obtain ⟨live, moment⟩ := ih kept next pair later
          exact ⟨live, List.mem_append_right _ moment⟩
      · simp [same]

/-- A key above the cursor that stays live is met before the walk ends. -/
theorem walk_meets {dictionary : Dictionary} (valid : Consistent dictionary) (key : Bytes)
    (gaps : List (List Op)) (ended : (walk dictionary key gaps).ended = true) (target : Bytes)
    (above : compare key target = .lt)
    (stays : ∀ moment ∈ (walk dictionary key gaps).moments,
      (present moment target).isSome = true) :
    target ∈ (walk dictionary key gaps).returned.map Returned.key := by
  induction gaps generalizing dictionary key with
  | nil => simp [walk] at ended
  | cons gap rest ih =>
      rcases walk_cons valid key gap rest with
        ⟨next, _, after, kept, step, same⟩ | ⟨_, _, last, same⟩
      · rw [same] at ended stays ⊢
        obtain ⟨stored, here⟩ := Option.isSome_iff_exists.mp
          (stays _ (List.mem_append_left _ (Machine.trail_end ..)))
        rw [List.map_cons, List.mem_cons]
        cases order : compare next target with
        | eq => exact Or.inl (Std.LawfulEqOrd.eq_of_compare order).symm
        | gt =>
            exact absurd (Std.OrientedCmp.lt_of_gt order) (step.least target stored here above)
        | lt =>
            exact Or.inr (ih kept next ended order fun moment member =>
              stays moment (List.mem_append_right _ member))
      · rw [same] at stays
        obtain ⟨stored, here⟩ := Option.isSome_iff_exists.mp
          (stays _ (List.mem_append_left _ (Machine.trail_end ..)))
        exact absurd above (last target stored here)

theorem present_nonempty {dictionary : Dictionary} (valid : Consistent dictionary) {key : Bytes}
    (here : (present dictionary key).isSome = true) : compare ([] : Bytes) key = .lt := by
  cases key with
  | nil => simp [present, live_absent valid.1.named] at here
  | cons head tail => rfl

/-- Whatever the other threads do between its calls, a traversal returns keys in
strictly increasing order, each with data that was live at that moment, and exactly
once every key that stays live until it ends; and each of its calls ends. -/
theorem traversal_consistent (dictionary : Dictionary)
    (reached : DictionaryRun.Reachable dictionary) (gaps : List (List Op)) :
    let trace := traverse dictionary gaps
    (trace.returned.map Returned.key).Pairwise (fun left right => compare left right = .lt) ∧
    (∀ pair ∈ trace.returned, present pair.moment pair.key = some pair.data ∧
      pair.moment ∈ trace.moments) ∧
    (trace.ended = true → ∀ key,
      (∀ moment ∈ trace.moments, (present moment key).isSome = true) →
        (trace.returned.map Returned.key).count key = 1) ∧
    (∀ moment ∈ trace.moments, ∀ key,
      getNextLoop (size moment + 1) moment key = some (getNext moment key)) := by
  intro trace
  have valid := reachable_consistent reached
  have ascends := (List.pairwise_cons.mp (walk_ascends valid [] ([] :: gaps))).2
  refine ⟨ascends, walk_returns_live valid [] ([] :: gaps), ?_, ?_⟩
  · intro ended key stays
    have start : dictionary ∈ trace.moments := by
      simp only [trace, traverse_first]
      split <;> exact List.mem_cons_self
    have met := walk_meets valid [] ([] :: gaps) ended key
      (present_nonempty valid (stays dictionary start)) stays
    have distinct : (trace.returned.map Returned.key).Nodup := by
      apply List.Pairwise.imp _ ascends
      intro left right lower same
      rw [same, Std.ReflOrd.compare_self] at lower
      cases lower
    exact List.count_eq_one_of_mem distinct met
  · intro moment member key
    exact (getNext_ends (walk_consistent valid [] ([] :: gaps) moment member) key).1

/-- Between the calls an entry goes, another comes, and one stays. -/
theorem traversal_consistent_sample :
    let dictionary := (Machine.run step Dictionary.new
      [.add (bytes "a") (bytes "1") (-1), .add (bytes "b") (bytes "2") 24]).2
    let trace := traverse dictionary [[.tick, .remove (bytes "a")], [.add (bytes "c") [] 2], [], []]
    trace.ended = true ∧ trace.returned.map Returned.key = [bytes "a", bytes "b", bytes "c"] ∧
      (trace.returned.map Returned.key).Pairwise
        (fun left right => compare left right = .lt) ∧
      (trace.returned.map Returned.key).count (bytes "b") = 1 := by
  intro dictionary trace
  have ended : trace.ended = true := by decide +kernel
  obtain ⟨ascends, -, once, -⟩ := traversal_consistent dictionary ⟨_, rfl⟩
    [[.tick, .remove (bytes "a")], [.add (bytes "c") [] 2], [], []]
  exact ⟨ended, by decide +kernel, ascends, once ended (bytes "b") (by decide +kernel)⟩

end OClock.ConcurrentTraversal

import OClock.DictionaryLive

/-!
`getNext` finds the least live key above the one it is given. Its loop ends
because every turn but the last one removes an entry, and so does the walk over
the whole dictionary because the key only moves up.
-/

namespace OClock.DictionaryTraversal
open Text DictionaryStore DictionaryInvariant DictionaryLive ExpiringMap

/-- What `getNext` may answer. -/
def Answers (dictionary : Dictionary) (key : Bytes) (next : Next) : Prop :=
  (next.found = true ∧ IsNext (present dictionary) key next.key next.data) ∨
    (next.found = false ∧ next.data = noData ∧ IsLast (present dictionary) key)

theorem present_stored {dictionary : Dictionary} {key data : Bytes}
    (here : present dictionary key = some data) :
    ∃ entry, dictionary.dictionaryEntries[key]? = some entry := by
  cases found : dictionary.dictionaryEntries[key]? with
  | none => simp [present, live_absent found] at here
  | some entry => exact ⟨entry, rfl⟩

theorem get_present {dictionary : Dictionary} (linked : Linked dictionary) (key : Bytes) :
    (DictionaryStore.get dictionary key).1 =
      ((present dictionary key).elim ⟨false, noData⟩ fun data => ⟨true, data⟩) := by
  rw [(get_live linked key).1, present]
  cases live dictionary key <;> rfl

/-- A miss on a stored key takes its entry out. -/
theorem get_shrinks {dictionary : Dictionary} {key : Bytes} {entry : DictionaryData}
    (found : dictionary.dictionaryEntries[key]? = some entry)
    (missed : (DictionaryStore.get dictionary key).1.found = false) :
    size (DictionaryStore.get dictionary key).2 + 1 = size dictionary := by
  rcases get_cases dictionary key with ⟨absent, _⟩ | ⟨other, second, ⟨_, same⟩ | ⟨_, same⟩⟩
  · rw [absent] at found
    cases found
  · rw [same]
    exact OrderedMap.size_erase_present dictionary.dictionaryEntries second
  · rw [same] at missed
    cases missed

/-- Skipping a stored key that is not live does not change what comes next. -/
theorem answers_skip {dictionary after : Dictionary} {key above : Bytes} {next : Next}
    (same : live after = live dictionary) (up : compare key above = .lt)
    (absent : present dictionary above = none)
    (least : ∀ other entry, dictionary.dictionaryEntries[other]? = some entry →
      compare key other = .lt → compare other above ≠ .lt)
    (answers : Answers after above next) : Answers dictionary key next := by
  have alike : present after = present dictionary := by
    unfold present
    rw [same]
  have higher : ∀ other data, present dictionary other = some data →
      compare key other = .lt → compare above other = .lt := by
    intro other data here beyond
    obtain ⟨entry, stored⟩ := present_stored here
    cases order : compare above other with
    | lt => rfl
    | eq =>
        rw [Std.LawfulEqOrd.eq_of_compare order, here] at absent
        cases absent
    | gt => exact absurd (Std.OrientedCmp.lt_of_gt order) (least other entry stored beyond)
  rw [Answers, alike] at answers
  rcases answers with ⟨found, step⟩ | ⟨ends, nothing, last⟩
  · refine Or.inl ⟨found, step.here, Std.TransCmp.lt_trans up step.above, ?_⟩
    intro other data here beyond
    exact step.least other data here (higher other data here beyond)
  · refine Or.inr ⟨ends, nothing, ?_⟩
    intro other data here beyond
    exact last other data here (higher other data here beyond)

/-- With one turn more than there are entries the loop comes to its end. -/
theorem getNextLoop_ends (fuel : Nat) {dictionary : Dictionary} (valid : Consistent dictionary)
    (key : Bytes) (enough : size dictionary < fuel) :
    ∃ result, getNextLoop fuel dictionary key = some result ∧ Answers dictionary key result.1 := by
  induction fuel generalizing dictionary key with
  | zero => omega
  | succ fuel ih =>
      cases bound : dictionary.dictionaryEntries.upperBound key with
      | none =>
          refine ⟨(⟨false, key, noData⟩, dictionary), by simp [getNextLoop, bound], ?_⟩
          refine Or.inr ⟨rfl, rfl, ?_⟩
          intro other data here
          obtain ⟨entry, stored⟩ := present_stored here
          exact (OrderedMap.upperBound_none _ _).mp bound other entry stored
      | some entry =>
          obtain ⟨above, value⟩ := entry
          obtain ⟨stored, up, least⟩ := OrderedMap.upperBound_some _ bound
          have looked := get_present valid.1 above
          cases here : present dictionary above with
          | some data =>
              rw [here] at looked
              refine ⟨(⟨true, above, data⟩, (DictionaryStore.get dictionary above).2),
                by simp [getNextLoop, bound, looked], ?_⟩
              refine Or.inl ⟨rfl, here, up, ?_⟩
              intro other found there beyond
              obtain ⟨twin, second⟩ := present_stored there
              exact least other twin second beyond
          | none =>
              rw [here] at looked
              have missed : (DictionaryStore.get dictionary above).1.found = false := by
                rw [looked]
                rfl
              have shrinks := get_shrinks stored missed
              have kept := get_consistent valid above
              obtain ⟨result, ended, answers⟩ := ih kept above (by omega)
              refine ⟨result, by simp [getNextLoop, bound, missed, ended], ?_⟩
              exact answers_skip (get_live valid.1 above).2 up here least answers

theorem getNext_ends {dictionary : Dictionary} (valid : Consistent dictionary) (key : Bytes) :
    getNextLoop (size dictionary + 1) dictionary key = some (getNext dictionary key) ∧
      Answers dictionary key (getNext dictionary key).1 := by
  obtain ⟨result, ended, answers⟩ :=
    getNextLoop_ends (size dictionary + 1) valid key (Nat.lt_succ_self _)
  have same : getNext dictionary key = result := by
    rw [getNext, ended]
    rfl
  rw [same]
  exact ⟨ended, answers⟩

theorem getNext_live {dictionary : Dictionary} (valid : Consistent dictionary) (key : Bytes) :
    live (getNext dictionary key).2 = live dictionary := by
  have kept := @getNext_keeps
    (fun after => Consistent after ∧ live after = live dictionary)
    (fun after other held => ⟨get_consistent held.1 other,
      (get_live held.1.1 other).2.trans held.2⟩) dictionary key ⟨valid, rfl⟩
  exact kept.2

theorem purge_live {dictionary : Dictionary} (valid : Consistent dictionary) :
    live (purgeExpiredDictionaryEntries dictionary) = live dictionary := by
  have kept := @purge_keeps
    (fun after => Consistent after ∧ live after = live dictionary)
    (fun after other held => ⟨get_consistent held.1 other,
      (get_live held.1.1 other).2.trans held.2⟩) dictionary ⟨valid, rfl⟩
  exact kept.2

/-- A lookup never brings an entry into the map. -/
theorem get_stored {dictionary : Dictionary} {key other : Bytes} {entry : DictionaryData}
    (stored : (DictionaryStore.get dictionary key).2.dictionaryEntries[other]? = some entry) :
    dictionary.dictionaryEntries[other]? = some entry := by
  rcases get_cases dictionary key with ⟨_, same⟩ | ⟨_, _, ⟨_, same⟩ | ⟨_, same⟩⟩
  · rwa [same] at stored
  · rw [same] at stored
    have erased : (dictionary.dictionaryEntries.erase key)[other]? = some entry := stored
    exact (OrderedMap.lookup_erase_some erased).2
  · rwa [same] at stored

theorem getNext_stored {dictionary : Dictionary} {key other : Bytes} {entry : DictionaryData}
    (stored : (getNext dictionary key).2.dictionaryEntries[other]? = some entry) :
    dictionary.dictionaryEntries[other]? = some entry := by
  have kept := @getNext_keeps
    (fun after => ∀ (other : Bytes) (entry : DictionaryData),
      after.dictionaryEntries[other]? = some entry →
        dictionary.dictionaryEntries[other]? = some entry)
    (fun after asked held other entry found => held other entry (get_stored found))
    dictionary key (fun other entry found => found)
  exact kept other entry stored

/-- A walk needs no more turns than there are stored keys above its own, and one. -/
theorem visitAll_ends (fuel : Nat) {dictionary : Dictionary} (valid : Consistent dictionary)
    (key : Bytes) (above : List Bytes)
    (lists : ∀ (other : Bytes) (entry : DictionaryData),
      dictionary.dictionaryEntries[other]? = some entry →
        compare key other = .lt → other ∈ above)
    (enough : above.length < fuel) : ∃ result, visitAll fuel dictionary key = some result := by
  induction fuel generalizing dictionary key above with
  | zero => omega
  | succ fuel ih =>
      rcases (getNext_ends valid key).2 with ⟨found, step⟩ | ⟨ends, _, _⟩
      · obtain ⟨entry, stored⟩ := present_stored step.here
        have member := lists _ entry stored step.above
        have shorter := List.length_erase_of_mem member
        have filled : 0 < above.length := List.length_pos_of_mem member
        have later : ∀ (other : Bytes) (entry : DictionaryData),
            (getNext dictionary key).2.dictionaryEntries[other]? = some entry →
            compare (getNext dictionary key).1.key other = .lt →
            other ∈ above.erase (getNext dictionary key).1.key := by
          intro other twin second beyond
          have different : other ≠ (getNext dictionary key).1.key := by
            intro same
            rw [same, Std.ReflOrd.compare_self] at beyond
            cases beyond
          exact (List.mem_erase_of_ne different).mpr (lists other twin (getNext_stored second)
            (Std.TransCmp.lt_trans step.above beyond))
        obtain ⟨result, ended⟩ := ih (getNext_consistent valid key) _ _ later (by omega)
        exact Option.isSome_iff_exists.mp (by simp [visitAll, found, ended])
      · exact Option.isSome_iff_exists.mp (by simp [visitAll, ends])

theorem purge_ends {dictionary : Dictionary} (valid : Consistent dictionary) :
    ∃ visited, visitAll (size dictionary + 1) dictionary [] =
      some (visited, purgeExpiredDictionaryEntries dictionary) := by
  obtain ⟨result, ended⟩ := visitAll_ends (size dictionary + 1) valid []
    dictionary.dictionaryEntries.keys
    (fun other entry found _ => by
      rw [Std.ExtTreeMap.mem_keys, Std.ExtTreeMap.mem_iff_isSome_getElem?, found]
      rfl)
    (by rw [Std.ExtTreeMap.length_keys]; exact Nat.lt_succ_self _)
  exact ⟨result.1, by rw [purgeExpiredDictionaryEntries, ended]; rfl⟩

end OClock.DictionaryTraversal

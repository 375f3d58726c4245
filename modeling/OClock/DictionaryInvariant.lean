import OClock.DictionaryStore

/-!
What holds in every state of the dictionary: entries and timer services stay in
one-to-one correspondence, and the counters balance. Each operation is first
described by one lemma, then shown to keep the correspondence.
-/

namespace OClock.DictionaryInvariant
open Text TimerTable DictionaryStore

/-- The service of an entry is one-shot, and registered exactly if the
expiration is not negative. -/
def EntryService (service : TimerTickService) : Prop :=
  service.periodic = false ∧ (0 ≤ service.interval ↔ service.cookie ≠ nullCookie)

structure Linked (dictionary : Dictionary) : Prop where
  timers : WellFormed dictionary.timerTick
  named : dictionary.dictionaryEntries[([] : Bytes)]? = none
  alive : ∀ (key : Bytes) (entry : DictionaryData),
    dictionary.dictionaryEntries[key]? = some entry →
    ∃ service, dictionary.timerTick.memory entry.timerTickServiceBool = some service ∧
      EntryService service
  apart : ∀ (key other : Bytes) (entry twin : DictionaryData),
    dictionary.dictionaryEntries[key]? = some entry →
    dictionary.dictionaryEntries[other]? = some twin →
    entry.timerTickServiceBool = twin.timerTickServiceBool → key = other
  owned : ∀ ref service, dictionary.timerTick.memory ref = some service →
    ∃ (key : Bytes) (entry : DictionaryData),
      dictionary.dictionaryEntries[key]? = some entry ∧ entry.timerTickServiceBool = ref
  unused : ∀ ref, dictionary.nextRef ≤ ref → dictionary.timerTick.memory ref = none

/-- The counters, counted without wrap. -/
structure Balanced (dictionary : Dictionary) : Prop where
  added : dictionary.dictionaryStatus.entriesAdded =
    dictionary.dictionaryStatus.entriesRemoved + dictionary.dictionaryEntries.size
  expired : dictionary.dictionaryStatus.entriesExpired ≤
    dictionary.dictionaryStatus.entriesRemoved

def Consistent (dictionary : Dictionary) : Prop := Linked dictionary ∧ Balanced dictionary

theorem new_consistent : Consistent Dictionary.new := by
  refine ⟨⟨?_, ?_, ?_, ?_, ?_, ?_⟩, ⟨rfl, Nat.le_refl _⟩⟩
  · exact new_wellformed _ fun ref service present => by cases present
  · simp [Dictionary.new]
  · intro key entry found
    simp [Dictionary.new] at found
  · intro key other entry twin found
    simp [Dictionary.new] at found
  · intro ref service present
    cases present
  · intro ref beyond
    rfl

/-! ### What the operations do -/

theorem removeEntry_eq {dictionary : Dictionary} (valid : WellFormed dictionary.timerTick)
    (key : Bytes) {entry : DictionaryData} {service : TimerTickService}
    (present : dictionary.timerTick.memory entry.timerTickServiceBool = some service) :
    removeEntry dictionary key entry = { dictionary with
      dictionaryEntries := dictionary.dictionaryEntries.erase key
      dictionaryStatus := { dictionary.dictionaryStatus with
        entriesRemoved := dictionary.dictionaryStatus.entriesRemoved + 1 }
      timerTick := released dictionary.timerTick entry.timerTickServiceBool service } := by
  simp only [removeEntry, deleteDictionaryData, present, Option.elim_some]
  rw [unregister_free valid present]

/-- The timer table with the service of a new entry at `ref`. -/
def constructed (timerTick : TimerTick) (ref : ServiceRef) (expiration : Int) : TimerTick :=
  if 0 ≤ expiration then
    registered (timerTick.write ref (.new expiration false)) ref (.new expiration false) true
  else timerTick.write ref (.new expiration false)

theorem newDictionaryData_eq {dictionary : Dictionary} (linked : Linked dictionary)
    (data : Bytes) (expiration : Int) :
    newDictionaryData dictionary data expiration = (.ok ⟨data, dictionary.nextRef⟩,
      { dictionary with
        timerTick := constructed dictionary.timerTick dictionary.nextRef expiration
        nextRef := dictionary.nextRef + 1 }) := by
  have free := linked.unused dictionary.nextRef (Nat.le_refl _)
  have valid := allocate_wellformed linked.timers free expiration false
  by_cases timed : 0 ≤ expiration
  · simp only [newDictionaryData, constructed, if_pos timed,
      register_accepts valid true (write_same ..) rfl]
  · simp only [newDictionaryData, constructed, if_neg timed]

theorem constructed_same (timerTick : TimerTick) (ref : ServiceRef) (expiration : Int)
    (counting : nullCookie < timerTick.nextTimerTickId) :
    ∃ service, (constructed timerTick ref expiration).memory ref = some service ∧
      EntryService service ∧ service.interval = expiration ∧
      service.ticksLeft = if 0 ≤ expiration then ticksFor expiration else 0 := by
  by_cases timed : 0 ≤ expiration
  · refine ⟨_, by simp only [constructed, if_pos timed]; exact Function.update_self .., ?_⟩
    have real : timerTick.nextTimerTickId ≠ nullCookie := Nat.ne_of_gt counting
    simp [EntryService, TimerTickService.new, timed, real]
  · refine ⟨_, by simp only [constructed, if_neg timed]; exact write_same .., ?_⟩
    simp only [EntryService, TimerTickService.new, if_neg timed, and_true, true_and]
    simpa using timed

theorem constructed_other (timerTick : TimerTick) (ref : ServiceRef) (expiration : Int)
    {other : ServiceRef} (different : other ≠ ref) :
    (constructed timerTick ref expiration).memory other = timerTick.memory other := by
  unfold constructed
  split
  · exact (Function.update_of_ne different ..).trans (write_other _ _ _ different)
  · exact write_other _ _ _ different

theorem constructed_wellformed {timerTick : TimerTick} (valid : WellFormed timerTick)
    {ref : ServiceRef} (free : timerTick.memory ref = none) (expiration : Int) :
    WellFormed (constructed timerTick ref expiration) := by
  have allocated := allocate_wellformed valid free expiration false
  unfold constructed
  split
  · exact registered_wellformed allocated true (write_same ..) rfl
  · exact allocated

/-- The dictionary after an entry has been added under a new key. -/
def inserted (dictionary : Dictionary) (key data : Bytes) (expiration : Int) : Dictionary where
  dictionaryEntries :=
    dictionary.dictionaryEntries.insert key ⟨data, dictionary.nextRef⟩
  dictionaryStatus := { dictionary.dictionaryStatus with
    entriesAdded := dictionary.dictionaryStatus.entriesAdded + 1 }
  timerTick := constructed dictionary.timerTick dictionary.nextRef expiration
  nextRef := dictionary.nextRef + 1

/-! ### The operations keep the correspondence -/

theorem entry_below {dictionary : Dictionary} (linked : Linked dictionary) {key : Bytes}
    {entry : DictionaryData} (found : dictionary.dictionaryEntries[key]? = some entry) :
    entry.timerTickServiceBool < dictionary.nextRef := by
  obtain ⟨service, present, _⟩ := linked.alive key entry found
  by_contra beyond
  rw [linked.unused _ (Nat.le_of_not_lt beyond)] at present
  cases present

theorem inserted_linked {dictionary : Dictionary} (linked : Linked dictionary) {key : Bytes}
    (data : Bytes) (expiration : Int) (nonempty : key ≠ [])
    (absent : dictionary.dictionaryEntries[key]? = none) :
    Linked (inserted dictionary key data expiration) where
  timers := constructed_wellformed linked.timers (linked.unused _ (Nat.le_refl _)) expiration
  named := by
    rw [inserted, OrderedMap.lookup_insert_of_ne _ _ nonempty]
    exact linked.named
  alive other entry found := by
    simp only [inserted, OrderedMap.lookup_insert] at found ⊢
    split at found
    · cases found
      obtain ⟨service, present, kind, _⟩ := constructed_same dictionary.timerTick
        dictionary.nextRef expiration linked.timers.counting
      exact ⟨service, present, kind⟩
    · obtain ⟨service, present, kind⟩ := linked.alive other entry found
      have elsewhere := Nat.ne_of_lt (entry_below linked found)
      exact ⟨service, (constructed_other _ _ _ elsewhere).trans present, kind⟩
  -- The new object has a reference that no entry carries yet.
  apart left right entry twin found second same := by
    simp only [inserted, OrderedMap.lookup_insert] at found second
    split at found
    · rename_i isLeft
      cases found
      split at second
      · rename_i isRight
        exact isLeft.symm.trans isRight
      · exact absurd same (Nat.ne_of_gt (entry_below linked second))
    · split at second
      · cases second
        exact absurd same (Nat.ne_of_lt (entry_below linked found))
      · exact linked.apart left right entry twin found second same
  owned ref service present := by
    by_cases hit : ref = dictionary.nextRef
    · exact ⟨key, ⟨data, dictionary.nextRef⟩, OrderedMap.lookup_insert_self .., hit.symm⟩
    · rw [inserted, constructed_other _ _ _ hit] at present
      obtain ⟨other, entry, found, same⟩ := linked.owned ref service present
      have different : key ≠ other := by
        rintro rfl
        rw [absent] at found
        cases found
      exact ⟨other, entry, (OrderedMap.lookup_insert_of_ne _ _ different).trans found, same⟩
  unused ref beyond := by
    have above : dictionary.nextRef < ref := beyond
    exact (constructed_other _ _ _ (Nat.ne_of_gt above)).trans
      (linked.unused ref (Nat.le_of_lt above))

theorem removeEntry_linked {dictionary : Dictionary} (linked : Linked dictionary)
    {key : Bytes} {entry : DictionaryData}
    (found : dictionary.dictionaryEntries[key]? = some entry) :
    Linked (removeEntry dictionary key entry) := by
  obtain ⟨service, present, _⟩ := linked.alive key entry found
  rw [removeEntry_eq linked.timers key present]
  -- No other entry carries the reference that is given back.
  have elsewhere : ∀ (other : Bytes) (twin : DictionaryData), key ≠ other →
      dictionary.dictionaryEntries[other]? = some twin →
      twin.timerTickServiceBool ≠ entry.timerTickServiceBool :=
    fun other twin different second same =>
      different (linked.apart key other entry twin found second same.symm)
  constructor
  · exact released_wellformed linked.timers present
  · rw [OrderedMap.lookup_erase]
    split
    · rfl
    · exact linked.named
  · intro other twin second
    obtain ⟨different, before⟩ := OrderedMap.lookup_erase_some second
    obtain ⟨held, stored, kind⟩ := linked.alive other twin before
    exact ⟨held, (Function.update_of_ne (elsewhere other twin different before) ..).trans stored,
      kind⟩
  · intro left right first twin one two same
    exact linked.apart left right first twin (OrderedMap.lookup_erase_some one).2
      (OrderedMap.lookup_erase_some two).2 same
  · intro ref held stored
    by_cases hit : ref = entry.timerTickServiceBool
    · subst hit
      simp only [released, Function.update_self] at stored
      cases stored
    · simp only [released, Function.update_of_ne hit] at stored
      obtain ⟨other, twin, second, same⟩ := linked.owned ref held stored
      have different : key ≠ other := by
        rintro rfl
        rw [found] at second
        cases second
        exact hit same.symm
      exact ⟨other, twin, (OrderedMap.lookup_erase_of_ne _ different).trans second, same⟩
  · intro ref beyond
    by_cases hit : ref = entry.timerTickServiceBool
    · subst hit
      exact Function.update_self ..
    · exact (Function.update_of_ne hit ..).trans (linked.unused ref beyond)

theorem countExpired_linked {dictionary : Dictionary} (linked : Linked dictionary) :
    Linked (countExpired dictionary) :=
  ⟨linked.timers, linked.named, linked.alive, linked.apart, linked.owned, linked.unused⟩

theorem inserted_consistent {dictionary : Dictionary} (valid : Consistent dictionary)
    {key : Bytes} (data : Bytes) (expiration : Int) (nonempty : key ≠ [])
    (absent : dictionary.dictionaryEntries[key]? = none) :
    Consistent (inserted dictionary key data expiration) := by
  refine ⟨inserted_linked valid.1 data expiration nonempty absent, ?_, valid.2.expired⟩
  have added := valid.2.added
  simp only [inserted, OrderedMap.size_insert_new _ _ absent]
  omega

theorem removeEntry_consistent {dictionary : Dictionary} (valid : Consistent dictionary)
    {key : Bytes} {entry : DictionaryData}
    (found : dictionary.dictionaryEntries[key]? = some entry) :
    Consistent (removeEntry dictionary key entry) ∧
      Consistent (removeEntry (countExpired dictionary) key entry) := by
  have linked := countExpired_linked valid.1
  have size := OrderedMap.size_erase_present dictionary.dictionaryEntries found
  have added := valid.2.added
  have expired := valid.2.expired
  refine ⟨⟨removeEntry_linked valid.1 found, ?_⟩, removeEntry_linked linked found, ?_⟩
  · constructor <;> simp only [removeEntry, deleteDictionaryData] <;> omega
  · constructor <;> simp only [removeEntry, deleteDictionaryData, countExpired] <;> omega

theorem get_cases (dictionary : Dictionary) (key : Bytes) :
    (dictionary.dictionaryEntries[key]? = none ∧
      DictionaryStore.get dictionary key = (⟨false, noData⟩, dictionary)) ∨
    ∃ entry, dictionary.dictionaryEntries[key]? = some entry ∧
      ((getIsExpired dictionary entry = true ∧ DictionaryStore.get dictionary key =
          (⟨false, noData⟩, removeEntry (countExpired dictionary) key entry)) ∨
        (getIsExpired dictionary entry = false ∧ DictionaryStore.get dictionary key =
          (⟨true, entry.data⟩, dictionary))) := by
  unfold DictionaryStore.get
  cases found : dictionary.dictionaryEntries[key]? with
  | none => exact Or.inl ⟨rfl, rfl⟩
  | some entry =>
      refine Or.inr ⟨entry, rfl, ?_⟩
      cases expired : getIsExpired dictionary entry with
      | true => exact Or.inl ⟨rfl, by simp [expired]⟩
      | false => exact Or.inr ⟨rfl, by simp [expired]⟩

theorem get_consistent {dictionary : Dictionary} (valid : Consistent dictionary)
    (key : Bytes) : Consistent (DictionaryStore.get dictionary key).2 := by
  rcases get_cases dictionary key with ⟨_, same⟩ | ⟨entry, found, ⟨_, same⟩ | ⟨_, same⟩⟩
  · rw [same]
    exact valid
  · rw [same]
    exact (removeEntry_consistent valid found).2
  · rw [same]
    exact valid

/-- A key that `get` does not find is no longer in the map. -/
theorem get_misses (dictionary : Dictionary) (key : Bytes)
    (missed : (DictionaryStore.get dictionary key).1.found = false) :
    (DictionaryStore.get dictionary key).2.dictionaryEntries[key]? = none := by
  rcases get_cases dictionary key with ⟨absent, same⟩ | ⟨entry, found, ⟨_, same⟩ | ⟨_, same⟩⟩
  · rw [same]
    exact absent
  · rw [same]
    exact OrderedMap.lookup_erase_self ..
  · rw [same] at missed
    cases missed

/-- `add` refuses an empty or a found key, and inserts any other. -/
theorem add_cases {dictionary : Dictionary} (valid : Consistent dictionary)
    (key data : Bytes) (expiration : Int) :
    (key = [] ∧ add dictionary key data expiration = (.ok false, dictionary)) ∨
    (key ≠ [] ∧ (get dictionary key).1.found = true ∧
      add dictionary key data expiration = (.ok false, (get dictionary key).2)) ∨
    (key ≠ [] ∧ (get dictionary key).1.found = false ∧
      add dictionary key data expiration =
        (.ok true, inserted (get dictionary key).2 key data expiration)) := by
  by_cases empty : key = []
  · exact Or.inl ⟨empty, by simp [add, empty]⟩
  · have named : key.isEmpty = false := by simpa using empty
    cases looked : (get dictionary key).1.found with
    | true => exact Or.inr (Or.inl ⟨empty, rfl, by simp [add, named, looked]⟩)
    | false =>
        refine Or.inr (Or.inr ⟨empty, rfl, ?_⟩)
        have absent := get_misses dictionary key looked
        have linked := (get_consistent valid key).1
        have outside :
            (get dictionary key).2.dictionaryEntries.contains key = false := by
          rw [OrderedMap.contains_lookup, absent]
          rfl
        simp [add, named, looked, newDictionaryData_eq linked, outside, inserted]

theorem add_consistent {dictionary : Dictionary} (valid : Consistent dictionary)
    (key data : Bytes) (expiration : Int) :
    Consistent (add dictionary key data expiration).2 := by
  rcases add_cases valid key data expiration with
    ⟨_, refused⟩ | ⟨_, _, refused⟩ | ⟨nonempty, missed, accepted⟩
  · rw [refused]
    exact valid
  · rw [refused]
    exact get_consistent valid key
  · rw [accepted]
    exact inserted_consistent (get_consistent valid key) data expiration nonempty
      (get_misses dictionary key missed)

theorem remove_consistent {dictionary : Dictionary} (valid : Consistent dictionary)
    (key : Bytes) : Consistent (remove dictionary key).2 := by
  unfold remove
  cases found : dictionary.dictionaryEntries[key]? with
  | none => exact valid
  | some entry => exact (removeEntry_consistent valid found).1

/-- Deleting one object after another empties exactly their references. -/
theorem delete_all (entries : List (Bytes × DictionaryData)) (dictionary : Dictionary)
    (valid : WellFormed dictionary.timerTick)
    (alive : ∀ entry ∈ entries, ∃ service,
      dictionary.timerTick.memory entry.2.timerTickServiceBool = some service)
    (apart : (entries.map fun entry => entry.2.timerTickServiceBool).Nodup) :
    let deleted := entries.foldl
      (fun dictionary entry => deleteDictionaryData dictionary entry.2) dictionary
    WellFormed deleted.timerTick ∧
      deleted.dictionaryStatus = dictionary.dictionaryStatus ∧
      deleted.nextRef = dictionary.nextRef ∧
      ∀ ref, deleted.timerTick.memory ref =
        if ref ∈ entries.map (fun entry => entry.2.timerTickServiceBool) then none
        else dictionary.timerTick.memory ref := by
  induction entries generalizing dictionary with
  | nil => exact ⟨valid, rfl, rfl, fun ref => rfl⟩
  | cons entry rest ih =>
      obtain ⟨service, present⟩ := alive entry List.mem_cons_self
      obtain ⟨unseen, apart⟩ := List.nodup_cons.mp apart
      have freed : deleteDictionaryData dictionary entry.2 = { dictionary with
          timerTick := released dictionary.timerTick entry.2.timerTickServiceBool service } := by
        simp only [deleteDictionaryData, present, Option.elim_some]
        rw [unregister_free valid present]
      -- The references differ, so what is deleted first leaves the rest alive.
      have still : ∀ other ∈ rest, ∃ service,
          (deleteDictionaryData dictionary entry.2).timerTick.memory
            other.2.timerTickServiceBool = some service := by
        intro other member
        obtain ⟨held, stored⟩ := alive other (List.mem_cons_of_mem entry member)
        have different : other.2.timerTickServiceBool ≠ entry.2.timerTickServiceBool := by
          intro same
          exact unseen (List.mem_map.mpr ⟨other, member, same⟩)
        rw [freed]
        exact ⟨held, (Function.update_of_ne different ..).trans stored⟩
      have nextValid : WellFormed (deleteDictionaryData dictionary entry.2).timerTick := by
        rw [freed]
        exact released_wellformed valid present
      obtain ⟨after, status, next, memory⟩ := ih _ nextValid still apart
      refine ⟨after, ?_, ?_, ?_⟩
      · rw [List.foldl_cons, status, freed]
      · rw [List.foldl_cons, next, freed]
      · intro ref
        rw [List.foldl_cons, memory ref, freed]
        by_cases here : ref = entry.2.timerTickServiceBool
        · simp [here, released]
        · simp only [released, Function.update_of_ne here, List.map_cons, List.mem_cons, here,
            false_or]

theorem clear_empties {dictionary : Dictionary} (valid : Consistent dictionary) :
    (clear dictionary).dictionaryEntries = ∅ ∧
      (∀ ref, (clear dictionary).timerTick.memory ref = none) ∧
      WellFormed (clear dictionary).timerTick ∧
      (clear dictionary).nextRef = dictionary.nextRef ∧
      (clear dictionary).dictionaryStatus = { dictionary.dictionaryStatus with
        entriesRemoved := dictionary.dictionaryStatus.entriesRemoved +
          dictionary.dictionaryEntries.size } := by
  have listed : ∀ entry ∈ dictionary.dictionaryEntries.toList,
      dictionary.dictionaryEntries[entry.1]? = some entry.2 := fun entry member =>
    Std.ExtTreeMap.mem_toList_iff_getElem?_eq_some.mp member
  have alive : ∀ entry ∈ dictionary.dictionaryEntries.toList, ∃ service,
      dictionary.timerTick.memory entry.2.timerTickServiceBool = some service := by
    intro entry member
    obtain ⟨service, present, _⟩ := valid.1.alive entry.1 entry.2 (listed entry member)
    exact ⟨service, present⟩
  have apart : (dictionary.dictionaryEntries.toList.map
      fun entry => entry.2.timerTickServiceBool).Nodup := by
    apply List.pairwise_map.mpr
    apply List.Pairwise.imp_of_mem _ Std.ExtTreeMap.distinct_keys_toList
    intro left right inLeft inRight different same
    apply different
    rw [valid.1.apart left.1 right.1 left.2 right.2 (listed left inLeft) (listed right inRight)
      same]
    exact Std.ReflOrd.compare_self
  obtain ⟨after, status, next, memory⟩ :=
    delete_all _ dictionary valid.1.timers alive apart
  refine ⟨rfl, ?_, after, next, ?_⟩
  · intro ref
    simp only [clear]
    rw [memory ref]
    split
    · rfl
    · rename_i unlisted
      cases stored : dictionary.timerTick.memory ref with
      | none => rfl
      | some service =>
          obtain ⟨key, entry, found, same⟩ := valid.1.owned ref service stored
          have member : (key, entry) ∈ dictionary.dictionaryEntries.toList :=
            Std.ExtTreeMap.mem_toList_iff_getElem?_eq_some.mpr found
          exact absurd (List.mem_map.mpr ⟨_, member, same⟩) unlisted
  · simp only [clear]
    rw [status]

theorem clear_consistent {dictionary : Dictionary} (valid : Consistent dictionary) :
    Consistent (clear dictionary) := by
  obtain ⟨entries, memory, timers, next, status⟩ := clear_empties valid
  have added := valid.2.added
  have expired := valid.2.expired
  refine ⟨⟨timers, ?_, ?_, ?_, ?_, fun ref _ => memory ref⟩, ?_, ?_⟩
  · simp [entries]
  · intro key entry found
    simp [entries] at found
  · intro key other entry twin found
    simp [entries] at found
  · intro ref service present
    rw [memory ref] at present
    cases present
  · rw [status, entries, added]
    rfl
  · rw [status]
    exact Nat.le_trans expired (Nat.le_add_right ..)

/-! ### What `get` keeps, every traversal keeps -/

section Traversal
variable {invariant : Dictionary → Prop}
  (keeps : ∀ (dictionary : Dictionary) (key : Bytes), invariant dictionary →
    invariant (DictionaryStore.get dictionary key).2)

include keeps

theorem getNextLoop_keeps (fuel : Nat) {dictionary : Dictionary} (key : Bytes)
    {result : Next × Dictionary} (held : invariant dictionary)
    (ended : getNextLoop fuel dictionary key = some result) : invariant result.2 := by
  induction fuel generalizing dictionary key with
  | zero => cases ended
  | succ fuel ih =>
      simp only [getNextLoop] at ended
      split at ended
      · cases ended
        exact held
      · rename_i above _ _
        split at ended
        · cases ended
          exact keeps dictionary above held
        · exact ih above (keeps dictionary above held) ended

theorem getNext_keeps {dictionary : Dictionary} (key : Bytes) (held : invariant dictionary) :
    invariant (getNext dictionary key).2 := by
  unfold getNext
  cases ended : getNextLoop (size dictionary + 1) dictionary key with
  | none => exact held
  | some result => exact getNextLoop_keeps keeps _ key held ended

theorem visitAll_keeps (fuel : Nat) {dictionary : Dictionary} (key : Bytes)
    {result : List (Bytes × Bytes) × Dictionary} (held : invariant dictionary)
    (ended : visitAll fuel dictionary key = some result) : invariant result.2 := by
  induction fuel generalizing dictionary key result with
  | zero => cases ended
  | succ fuel ih =>
      have kept := getNext_keeps keeps key held
      simp only [visitAll] at ended
      split at ended
      · obtain ⟨rest, later, rfl⟩ := Option.map_eq_some_iff.mp ended
        have last := ih _ kept later
        exact last
      · cases ended
        exact kept

theorem purge_keeps {dictionary : Dictionary} (held : invariant dictionary) :
    invariant (purgeExpiredDictionaryEntries dictionary) := by
  unfold purgeExpiredDictionaryEntries
  cases ended : visitAll (size dictionary + 1) dictionary [] with
  | none => exact held
  | some result => exact visitAll_keeps keeps _ [] held ended

end Traversal

theorem getNext_consistent {dictionary : Dictionary} (valid : Consistent dictionary)
    (key : Bytes) : Consistent (getNext dictionary key).2 :=
  @getNext_keeps Consistent (fun _ other held => get_consistent held other) _ key valid

theorem purge_consistent {dictionary : Dictionary} (valid : Consistent dictionary) :
    Consistent (purgeExpiredDictionaryEntries dictionary) :=
  @purge_keeps Consistent (fun _ key held => get_consistent held key) _ valid

/-! ### Requests and ticks -/

theorem removeForRequest_consistent {dictionary : Dictionary} (valid : Consistent dictionary)
    (request : Request) : Consistent (removeForRequest dictionary request) := by
  unfold removeForRequest
  split
  · split
    · exact clear_consistent valid
    · exact remove_consistent valid request.key
  · exact valid

/-- `add` never throws once the tables correspond, so a request ends as `add` does. -/
theorem addForRequest_eq {dictionary : Dictionary} (valid : Consistent dictionary)
    (request : Request) :
    addForRequest dictionary request =
      if request.isDel then (true, dictionary)
      else (stoi request.intervalStr).elim (false, dictionary) fun expiration =>
        (((add dictionary request.key request.data expiration).1.toOption).getD false,
          (add dictionary request.key request.data expiration).2) := by
  unfold addForRequest
  split
  · rfl
  · cases stoi request.intervalStr with
    | none => rfl
    | some expiration =>
        rcases add_cases valid request.key request.data expiration with
          ⟨_, same⟩ | ⟨_, _, same⟩ | ⟨_, _, same⟩ <;> simp [same, Except.toOption]

theorem addForRequest_consistent {dictionary : Dictionary} (valid : Consistent dictionary)
    (request : Request) : Consistent (addForRequest dictionary request).2 := by
  rw [addForRequest_eq valid]
  split
  · exact valid
  · cases stoi request.intervalStr with
    | none => exact valid
    | some expiration => exact add_consistent valid request.key request.data expiration

theorem parsePostRequest_consistent {dictionary : Dictionary} (valid : Consistent dictionary)
    (postValues : StringMap) : Consistent (parsePostRequest dictionary postValues).2 := by
  unfold parsePostRequest
  split
  · exact valid
  · exact addForRequest_consistent (removeForRequest_consistent valid _) _

theorem timerTick_memory {dictionary : Dictionary} (valid : WellFormed dictionary.timerTick)
    (ref : ServiceRef) :
    (timerTick dictionary).timerTick.memory ref =
      (dictionary.timerTick.memory ref).map fun service => service.tick.2 :=
  tick_memory valid (List.Perm.refl _) ref

theorem tick_entryService {service : TimerTickService} (kind : EntryService service) :
    EntryService service.tick.2 := by
  have cookie := service_tick_cookie service
  have fixed := service_tick_fixed service
  exact ⟨fixed.2.trans kind.1, by rw [fixed.1, cookie]; exact kind.2⟩

theorem timerTick_consistent {dictionary : Dictionary} (valid : Consistent dictionary) :
    Consistent (timerTick dictionary) := by
  have memory := timerTick_memory valid.1.timers
  refine ⟨⟨?_, valid.1.named, ?_, valid.1.apart, ?_, ?_⟩, valid.2.added, valid.2.expired⟩
  · exact tick_wellformed valid.1.timers (List.Perm.refl _)
  · intro key entry found
    obtain ⟨service, present, kind⟩ := valid.1.alive key entry found
    exact ⟨service.tick.2, by rw [memory, present]; rfl, tick_entryService kind⟩
  · intro ref service present
    rw [memory] at present
    obtain ⟨before, stored, _⟩ := Option.map_eq_some_iff.mp present
    exact valid.1.owned ref before stored
  · intro ref beyond
    rw [memory, valid.1.unused ref beyond]
    rfl

end OClock.DictionaryInvariant

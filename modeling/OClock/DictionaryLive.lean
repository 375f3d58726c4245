import OClock.DictionaryInvariant
import OClock.ExpiringMap

/-!
The dictionary as its callers see it: the lease of every key that is present and
has not expired. Each operation answers from the leases alone and changes them
the way the map of `ExpiringMap` does, whatever expired entries are still stored.
-/

namespace OClock.DictionaryLive
open Text TimerTable DictionaryStore DictionaryInvariant ExpiringMap

/-- What is left of an entry with this service. -/
def leaseOf (data : Bytes) (service : TimerTickService) : Option (Lease Bytes) :=
  if service.interval = noExpiration then some ⟨data, none⟩
  else if service.getIsExpired then none
  else some ⟨data, some service.ticksLeft⟩

def live (dictionary : Dictionary) (key : Bytes) : Option (Lease Bytes) :=
  (dictionary.dictionaryEntries[key]?).bind fun entry =>
    (dictionary.timerTick.memory entry.timerTickServiceBool).bind (leaseOf entry.data)

/-- The data of every key that is present and has not expired. -/
def present (dictionary : Dictionary) (key : Bytes) : Option Bytes :=
  (live dictionary key).map Lease.value

theorem live_absent {dictionary : Dictionary} {key : Bytes}
    (absent : dictionary.dictionaryEntries[key]? = none) : live dictionary key = none := by
  simp [live, absent]

theorem live_entry {dictionary : Dictionary} {key : Bytes} {entry : DictionaryData}
    {service : TimerTickService} (found : dictionary.dictionaryEntries[key]? = some entry)
    (stored : dictionary.timerTick.memory entry.timerTickServiceBool = some service) :
    live dictionary key = leaseOf entry.data service := by
  simp [live, found, stored]

theorem isExpired_lease {dictionary : Dictionary} {entry : DictionaryData}
    {service : TimerTickService}
    (stored : dictionary.timerTick.memory entry.timerTickServiceBool = some service) :
    getIsExpired dictionary entry = (leaseOf entry.data service).isNone := by
  by_cases lasting : service.interval = noExpiration
  · simp [getIsExpired, stored, leaseOf, lasting]
  · cases expired : service.getIsExpired <;>
      simp [getIsExpired, stored, leaseOf, lasting, expired]

theorem leaseOf_value {data : Bytes} {service : TimerTickService} {lease : Lease Bytes}
    (left : leaseOf data service = some lease) : lease.value = data := by
  unfold leaseOf at left
  split at left
  · cases left
    rfl
  · split at left
    · cases left
    · cases left
      rfl

/-! ### Removal -/

theorem removeEntry_live {dictionary : Dictionary} (linked : Linked dictionary) {key : Bytes}
    {entry : DictionaryData} (found : dictionary.dictionaryEntries[key]? = some entry) :
    live (removeEntry dictionary key entry) = Function.update (live dictionary) key none := by
  obtain ⟨service, stored, _⟩ := linked.alive key entry found
  rw [removeEntry_eq linked.timers key stored]
  funext other
  by_cases hit : other = key
  · subst hit
    rw [Function.update_self]
    exact live_absent (OrderedMap.lookup_erase_self ..)
  · rw [Function.update_of_ne hit]
    simp only [live, OrderedMap.lookup_erase_of_ne _ (Ne.symm hit)]
    cases second : dictionary.dictionaryEntries[other]? with
    | none => rfl
    | some twin =>
        have elsewhere : twin.timerTickServiceBool ≠ entry.timerTickServiceBool :=
          fun same => hit (linked.apart other key twin entry second found same)
        simp only [Option.bind_some, released, Function.update_of_ne elsewhere]

theorem remove_live {dictionary : Dictionary} (linked : Linked dictionary) (key : Bytes) :
    live (remove dictionary key).2 = Function.update (live dictionary) key none := by
  unfold remove
  cases found : dictionary.dictionaryEntries[key]? with
  | none => exact (Function.update_eq_self_iff.mpr (live_absent found).symm).symm
  | some entry => exact removeEntry_live linked found

theorem clear_live {dictionary : Dictionary} (valid : Consistent dictionary) :
    live (clear dictionary) = fun _ => none := by
  funext key
  apply live_absent
  rw [(clear_empties valid).1]
  simp

/-! ### Lookup -/

def lookupOf : Option (Lease Bytes) → Lookup
  | none => ⟨false, noData⟩
  | some lease => ⟨true, lease.value⟩

/-- `get` answers from the lease and leaves every lease as it was. -/
theorem get_live {dictionary : Dictionary} (linked : Linked dictionary) (key : Bytes) :
    (DictionaryStore.get dictionary key).1 = lookupOf (live dictionary key) ∧
      live (DictionaryStore.get dictionary key).2 = live dictionary := by
  rcases get_cases dictionary key with ⟨absent, same⟩ | ⟨entry, found, ends⟩
  · rw [same, live_absent absent]
    exact ⟨rfl, rfl⟩
  · obtain ⟨service, stored, _⟩ := linked.alive key entry found
    have lease := live_entry found stored
    have expires := isExpired_lease stored
    rcases ends with ⟨expired, same⟩ | ⟨fresh, same⟩
    · rw [expired, eq_comm, Option.isNone_iff_eq_none] at expires
      rw [same, lease, expires]
      refine ⟨rfl, ?_⟩
      rw [removeEntry_live (countExpired_linked linked) found]
      exact Function.update_eq_self_iff.mpr (lease.trans expires).symm
    · rw [fresh, eq_comm, Option.isNone_eq_false_iff, Option.isSome_iff_exists] at expires
      obtain ⟨left, held⟩ := expires
      rw [same, lease, held, lookupOf, leaseOf_value held]
      exact ⟨rfl, rfl⟩

theorem get_found {dictionary : Dictionary} (linked : Linked dictionary) (key : Bytes) :
    (DictionaryStore.get dictionary key).1.found = (live dictionary key).isSome := by
  rw [(get_live linked key).1]
  cases live dictionary key <;> rfl

/-! ### Insertion -/

/-- The lease that an added entry starts with. A timeout below -1 is over at once. -/
def newLease (data : Bytes) (expirationInMilliseconds : Int) : Option (Lease Bytes) :=
  if expirationInMilliseconds = noExpiration then some ⟨data, none⟩
  else if 0 ≤ expirationInMilliseconds then
    some ⟨data, some (ticksFor expirationInMilliseconds)⟩
  else none

theorem inserted_live {dictionary : Dictionary} (linked : Linked dictionary)
    (key data : Bytes) (expiration : Int) :
    live (inserted dictionary key data expiration) =
      Function.update (live dictionary) key (newLease data expiration) := by
  funext other
  by_cases hit : other = key
  · subst hit
    obtain ⟨service, stored, _, interval, ticks⟩ := constructed_same dictionary.timerTick
      dictionary.nextRef expiration linked.timers.counting
    have found : (inserted dictionary other data expiration).dictionaryEntries[other]? =
        some ⟨data, dictionary.nextRef⟩ := OrderedMap.lookup_insert_self ..
    rw [Function.update_self, live_entry found stored, leaseOf, newLease, interval]
    by_cases lasting : expiration = noExpiration
    · rw [if_pos lasting, if_pos lasting]
    · rw [if_neg lasting, if_neg lasting]
      by_cases timed : 0 ≤ expiration
      · have running : ticksFor expiration ≠ 0 := Nat.ne_of_gt (ticksFor_positive expiration)
        rw [if_pos timed] at ticks ⊢
        simp [TimerTickService.getIsExpired, ticks, running]
      · rw [if_neg timed] at ticks ⊢
        simp [TimerTickService.getIsExpired, ticks]
  · rw [Function.update_of_ne hit]
    simp only [live, inserted, OrderedMap.lookup_insert_of_ne _ _ (Ne.symm hit)]
    cases second : dictionary.dictionaryEntries[other]? with
    | none => rfl
    | some twin =>
        have elsewhere := Nat.ne_of_lt (entry_below linked second)
        simp only [Option.bind_some, constructed_other _ _ _ elsewhere]

/-- `add` refuses an empty or a live key, and gives any other a fresh lease. -/
theorem add_live {dictionary : Dictionary} (valid : Consistent dictionary)
    (key data : Bytes) (expiration : Int) :
    let accepted := decide (key ≠ []) && (live dictionary key).isNone
    (add dictionary key data expiration).1 = .ok accepted ∧
      live (add dictionary key data expiration).2 =
        if accepted then Function.update (live dictionary) key (newLease data expiration)
        else live dictionary := by
  have found := get_found valid.1 key
  have kept := (get_live valid.1 key).2
  rcases add_cases valid key data expiration with
    ⟨empty, same⟩ | ⟨nonempty, taken, same⟩ | ⟨nonempty, free, same⟩
  · rw [same]
    simp [empty]
  · rw [found] at taken
    rw [same]
    simp [Option.isNone_eq_false_iff.mpr taken, kept]
  · rw [found, Option.isSome_eq_false_iff] at free
    rw [same]
    simp only [inserted_live (get_consistent valid key).1, kept, free, nonempty, ne_eq,
      not_false_iff, decide_true, Bool.and_self, if_true, and_self]

/-! ### Ticks -/

theorem tick_lease {timerTick : TimerTick} (valid : WellFormed timerTick) {ref : ServiceRef}
    {service : TimerTickService} (stored : timerTick.memory ref = some service)
    (kind : EntryService service) (data : Bytes) :
    leaseOf data service.tick.2 = (leaseOf data service).bind Lease.age := by
  have fixed := (service_tick_fixed service).1
  by_cases lasting : service.interval = noExpiration
  · simp [leaseOf, fixed, lasting, Lease.age]
  · by_cases spent : service.ticksLeft = 0
    · simp [idle_service_tick spent, leaseOf, lasting, TimerTickService.getIsExpired, spent]
    · have registered : service.cookie ≠ nullCookie :=
        fun out => spent (valid.idle ref service stored out)
      rw [service_tick_left service registered, kind.1, Countdown.one_shot_tick]
      simp only [leaseOf, lasting, if_false, TimerTickService.getIsExpired, beq_iff_eq, spent,
        Option.bind_some, Lease.age]
      by_cases more : 1 < service.ticksLeft
      · have left : service.ticksLeft - 1 ≠ 0 := by omega
        simp [more, left]
      · have lastTick : service.ticksLeft - 1 = 0 := by omega
        simp [more, lastTick]

theorem timerTick_live {dictionary : Dictionary} (linked : Linked dictionary) :
    live (timerTick dictionary) = fun key => (live dictionary key).bind Lease.age := by
  funext key
  cases found : dictionary.dictionaryEntries[key]? with
  | none =>
      have gone : (timerTick dictionary).dictionaryEntries[key]? = none := found
      rw [live_absent found, live_absent gone]
      rfl
  | some entry =>
      obtain ⟨service, stored, kind⟩ := linked.alive key entry found
      have still : (timerTick dictionary).dictionaryEntries[key]? = some entry := found
      have ticked := timerTick_memory linked.timers entry.timerTickServiceBool
      rw [stored] at ticked
      rw [live_entry found stored, live_entry still ticked]
      exact tick_lease linked.timers stored kind entry.data

/-! ### Requests -/

theorem isDel_iff (request : Request) :
    request.isDel = true ↔ request.operation = dictionaryParamOperationDel := by
  simp [Request.isDel]

theorem isSet_iff (request : Request) :
    request.isSet = true ↔ request.operation = dictionaryParamOperationSet := by
  simp [Request.isSet]

theorem isAdd_iff (request : Request) :
    request.isAdd = true ↔ request.operation = dictionaryParamOperationAdd := by
  simp [Request.isAdd]

/-- Only `del` may leave out the key and the data. -/
def isComplete (postValues : StringMap) : Bool :=
  (requestOf postValues).isDel ||
    ((getParamValue postValues dictionaryParamKey).isSome &&
      (getParamValue postValues dictionaryParamData).isSome &&
      ((requestOf postValues).isSet || (requestOf postValues).isAdd))

theorem readRequest_eq (postValues : StringMap) :
    readRequest postValues =
      if isComplete postValues then some (requestOf postValues) else none := by
  unfold readRequest isComplete
  by_cases del : (requestOf postValues).isDel = true
  · simp [del]
  · by_cases keyed : (getParamValue postValues dictionaryParamKey).isSome = true
    · by_cases filled : (getParamValue postValues dictionaryParamData).isSome = true
      · by_cases set : (requestOf postValues).isSet = true
        · simp [del, ← Option.not_isSome, keyed, filled, set]
        · by_cases added : (requestOf postValues).isAdd = true <;>
            simp [del, ← Option.not_isSome, keyed, filled, set, added]
      · simp [del, ← Option.not_isSome, keyed, filled]
    · simp [del, ← Option.not_isSome, keyed]

theorem removeForRequest_live {dictionary : Dictionary} (valid : Consistent dictionary)
    (request : Request) :
    live (removeForRequest dictionary request) =
      if request.isDel && request.key.isEmpty then fun _ => none
      else if request.isDel || request.isSet then
        Function.update (live dictionary) request.key none
      else live dictionary := by
  unfold removeForRequest
  cases del : request.isDel with
  | true =>
      cases request.key.isEmpty with
      | true => exact clear_live valid
      | false => exact remove_live valid.1 request.key
  | false =>
      cases request.isSet with
      | true => exact remove_live valid.1 request.key
      | false => rfl

end OClock.DictionaryLive

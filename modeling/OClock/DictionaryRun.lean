import OClock.DictionaryInvariant

/-!
Runs of the dictionary: every lock-protected method, every request and every
tick of the timer thread is one step. An answer holds what a caller can read of
the result; the key variable of `getNext` counts only when something was found.
-/

namespace OClock.DictionaryRun
open Text TimerTable DictionaryStore DictionaryInvariant

inductive Op where
  | add (key data : Bytes) (expirationInMilliseconds : Int)
  | get (key : Bytes)
  | remove (key : Bytes)
  | clear
  | getFirst
  | getNext (key : Bytes)
  | purge
  | post (postValues : StringMap)
  | tick

inductive Answer where
  | added (result : Except Bytes Bool)
  | got (looked : Lookup)
  | visited (key : Option Bytes) (data : Bytes)
  | posted (result : Bool)
  | done

def visit (next : Next) : Answer := .visited (if next.found then some next.key else none) next.data

def step (dictionary : Dictionary) : Op → Answer × Dictionary
  | .add key data expiration =>
      let result := add dictionary key data expiration
      (.added result.1, result.2)
  | .get key =>
      let result := DictionaryStore.get dictionary key
      (.got result.1, result.2)
  | .remove key => (.done, (remove dictionary key).2)
  | .clear => (.done, clear dictionary)
  | .getFirst =>
      let result := getFirst dictionary
      (visit result.1, result.2)
  | .getNext key =>
      let result := getNext dictionary key
      (visit result.1, result.2)
  | .purge => (.done, purgeExpiredDictionaryEntries dictionary)
  | .post postValues =>
      let result := parsePostRequest dictionary postValues
      (.posted result.1, result.2)
  | .tick => (.done, timerTick dictionary)

def Reachable (dictionary : Dictionary) : Prop :=
  Machine.Reachable step Dictionary.new dictionary

theorem step_consistent (dictionary : Dictionary) (op : Op) (valid : Consistent dictionary) :
    Consistent (step dictionary op).2 := by
  cases op with
  | add key data expiration => exact add_consistent valid key data expiration
  | get key => exact get_consistent valid key
  | remove key => exact remove_consistent valid key
  | clear => exact clear_consistent valid
  | getFirst => exact getNext_consistent valid []
  | getNext key => exact getNext_consistent valid key
  | purge => exact purge_consistent valid
  | post postValues => exact parsePostRequest_consistent valid postValues
  | tick => exact timerTick_consistent valid

theorem reachable_consistent {dictionary : Dictionary} (reached : Reachable dictionary) :
    Consistent dictionary :=
  Machine.reachable_invariant step Consistent step_consistent new_consistent reached

/-! ### Entries and services -/

/-- The service of an entry is in the table once if it was registered, and
otherwise not at all. -/
theorem entry_service {dictionary : Dictionary} (linked : Linked dictionary) {key : Bytes}
    {entry : DictionaryData} (found : dictionary.dictionaryEntries[key]? = some entry) :
    ∃ service, dictionary.timerTick.memory entry.timerTickServiceBool = some service ∧
      (0 ≤ service.interval → ∃! cookie : TimerTickId,
        dictionary.timerTick.timerTickServices[cookie]? = some entry.timerTickServiceBool) ∧
      (service.interval < 0 → ∀ cookie : TimerTickId,
        dictionary.timerTick.timerTickServices[cookie]? ≠ some entry.timerTickServiceBool) := by
  obtain ⟨service, present, kind⟩ := linked.alive key entry found
  have carries : ∀ cookie : TimerTickId,
      dictionary.timerTick.timerTickServices[cookie]? = some entry.timerTickServiceBool →
      service.cookie = cookie ∧ cookie ≠ nullCookie := by
    intro cookie listed
    obtain ⟨other, stored, same⟩ := linked.timers.points cookie _ listed
    rw [present] at stored
    cases stored
    exact ⟨same, (linked.timers.issued cookie _ listed).1⟩
  refine ⟨service, present, ?_, ?_⟩
  · intro timed
    have registered := kind.2.mp timed
    exact ⟨service.cookie, linked.timers.carried _ service present registered,
      fun cookie listed => (carries cookie listed).1.symm⟩
  · intro untimed cookie listed
    obtain ⟨same, registered⟩ := carries cookie listed
    have timed := kind.2.mpr (same ▸ registered)
    omega

/-- Every service in the table is that of one entry still in the map. -/
theorem service_entry {dictionary : Dictionary} (linked : Linked dictionary)
    {cookie : TimerTickId} {ref : ServiceRef}
    (listed : dictionary.timerTick.timerTickServices[cookie]? = some ref) :
    ∃! key : Bytes, ∃ entry : DictionaryData,
      dictionary.dictionaryEntries[key]? = some entry ∧ entry.timerTickServiceBool = ref := by
  obtain ⟨service, present, _⟩ := linked.timers.points cookie ref listed
  obtain ⟨key, entry, found, same⟩ := linked.owned ref service present
  refine ⟨key, ⟨entry, found, same⟩, ?_⟩
  rintro other ⟨twin, second, alike⟩
  exact linked.apart other key twin entry second found (alike.trans same.symm)

/-- After every run the entries with a timeout and the services of the timer
table are in one-to-one correspondence, and the counters balance. -/
theorem entries_match_services (ops : List Op) :
    let dictionary := (Machine.run step Dictionary.new ops).2
    dictionary.dictionaryEntries[([] : Bytes)]? = none ∧
    (∀ (key : Bytes) (entry : DictionaryData),
      dictionary.dictionaryEntries[key]? = some entry →
      ∃ service, dictionary.timerTick.memory entry.timerTickServiceBool = some service ∧
        (0 ≤ service.interval → ∃! cookie : TimerTickId,
          dictionary.timerTick.timerTickServices[cookie]? = some entry.timerTickServiceBool) ∧
        (service.interval < 0 → ∀ cookie : TimerTickId,
          dictionary.timerTick.timerTickServices[cookie]? ≠ some entry.timerTickServiceBool)) ∧
    (∀ (cookie : TimerTickId) (ref : ServiceRef),
      dictionary.timerTick.timerTickServices[cookie]? = some ref →
      ∃! key : Bytes, ∃ entry : DictionaryData,
        dictionary.dictionaryEntries[key]? = some entry ∧ entry.timerTickServiceBool = ref) ∧
    (getDictionaryStatus dictionary).entriesAdded =
      (getDictionaryStatus dictionary).entriesRemoved + UInt32.ofNat (size dictionary) ∧
    dictionary.dictionaryStatus.entriesExpired ≤ dictionary.dictionaryStatus.entriesRemoved := by
  intro dictionary
  have valid : Consistent dictionary :=
    Machine.run_invariant step Consistent step_consistent Dictionary.new ops new_consistent
  refine ⟨valid.1.named, fun key entry found => entry_service valid.1 found,
    fun cookie ref listed => service_entry valid.1 listed, ?_, valid.2.expired⟩
  simp only [getDictionaryStatus, size, valid.2.added, UInt32.ofNat_add]

end OClock.DictionaryRun

import OClock.DictionaryRun
import OClock.DictionaryTraversal
import OClock.StatusReport

/-!
The snapshot as statusReportGather.cpp fills it. What the other singletons answer is
given; the dictionary is read by three calls, and the last one takes the expired entries
it meets out of the map.
-/

namespace OClock.StatusGather
open Text DictionaryStore DictionaryInvariant DictionaryLive DictionaryTraversal StatusReport
open ExpiringMap

/-- What everything but the dictionary answers. A web handler that is not up and a null
`mqttBrokerIp` are `none`. -/
structure Application where
  handlerHits : Option (List (Bytes × UInt32))
  motion : MotionInfo
  lightValue : UInt32
  displayMode : Bytes
  displayDimmed : Bool
  ledStripMode : Bytes
  mqtt : MqttClientInfo
  mqttBrokerIp : Option Bytes
  getStrError : Int32 → Bytes
  system : SystemStatus

/-- The loop over `getFirst` and `getNext`. -/
def readEntries (dictionary : Dictionary) : List (Bytes × Bytes) × Dictionary :=
  (visitAll (size dictionary + 1) dictionary []).getD ([], dictionary)

def gatherStatusSnapshot (application : Application) (dictionary : Dictionary) :
    StatusSnapshot × Dictionary :=
  let entries := readEntries dictionary
  ({ webHandlerAvailable := application.handlerHits.isSome
     handlerHits := application.handlerHits.getD []
     motion := application.motion
     lightValue := application.lightValue
     displayMode := application.displayMode
     displayDimmed := application.displayDimmed
     ledStripMode := application.ledStripMode
     mqtt := application.mqtt
     mqttBrokerIp := application.mqttBrokerIp.getD []
     mqttLastLoopRcStr := application.getStrError application.mqtt.lastLoopRc
     dictionaryStatus := getDictionaryStatus dictionary
     dictionarySize := UInt64.ofNat (size dictionary)
     dictionaryEntries := entries.1
     system := application.system }, entries.2)

/-! ### What the loop lists -/

def Ascending (entries : List (Bytes × Bytes)) : Prop :=
  entries.Pairwise fun before after => compare before.1 after.1 = .lt

theorem visitAll_lists (fuel : Nat) {dictionary : Dictionary} (valid : Consistent dictionary)
    (key : Bytes) {listed : List (Bytes × Bytes)} {after : Dictionary}
    (ended : visitAll fuel dictionary key = some (listed, after)) :
    Ascending listed ∧ ∀ other data, (other, data) ∈ listed ↔
      present dictionary other = some data ∧ compare key other = .lt := by
  induction fuel generalizing dictionary key listed with
  | zero => cases ended
  | succ fuel ih =>
      rcases (getNext_ends valid key).2 with ⟨found, next⟩ | ⟨ends, _, last⟩
      · simp only [visitAll, found, if_true, Option.map_eq_some_iff] at ended
        obtain ⟨⟨rest, final⟩, walked, same⟩ := ended
        cases same
        have still : present (getNext dictionary key).2 = present dictionary := by
          unfold present
          rw [getNext_live valid]
        obtain ⟨ascending, members⟩ := ih (getNext_consistent valid key) _ walked
        rw [still] at members
        refine ⟨List.pairwise_cons.mpr ⟨fun entry inside => ?_, ascending⟩, ?_⟩
        · exact ((members entry.1 entry.2).mp inside).2
        · intro other data
          rw [List.mem_cons, members, Prod.mk.injEq]
          constructor
          · rintro (⟨rfl, rfl⟩ | ⟨here, beyond⟩)
            · exact ⟨next.here, next.above⟩
            · exact ⟨here, Std.TransCmp.lt_trans next.above beyond⟩
          · rintro ⟨here, beyond⟩
            -- The key found is the least one, so every other one is it or lies above it.
            cases order : compare (getNext dictionary key).1.key other with
            | lt => exact .inr ⟨here, rfl⟩
            | eq =>
                have same := Std.LawfulEqOrd.eq_of_compare order
                have held := next.here
                rw [same, here] at held
                exact .inl ⟨same.symm, Option.some.inj held⟩
            | gt =>
                exact absurd (Std.OrientedCmp.lt_of_gt order) (next.least other data here beyond)
      · simp only [visitAll, ends, Bool.false_eq_true, if_false] at ended
        cases ended
        refine ⟨List.Pairwise.nil, fun other data => ?_⟩
        constructor
        · intro inside
          cases inside
        · rintro ⟨here, beyond⟩
          exact absurd beyond (last other data here)

theorem readEntries_lists {dictionary : Dictionary} (valid : Consistent dictionary) :
    Ascending (readEntries dictionary).1 ∧ ∀ key data,
      (key, data) ∈ (readEntries dictionary).1 ↔ present dictionary key = some data := by
  obtain ⟨visited, ended⟩ := purge_ends valid
  obtain ⟨ascending, members⟩ := visitAll_lists _ valid [] ended
  have same : readEntries dictionary = (visited, purgeExpiredDictionaryEntries dictionary) := by
    rw [readEntries, ended]
    rfl
  rw [same]
  refine ⟨ascending, fun key data => ?_⟩
  rw [members]
  constructor
  · exact And.left
  · intro here
    refine ⟨here, ?_⟩
    cases key with
    | nil =>
        obtain ⟨entry, stored⟩ := present_stored here
        rw [valid.1.named] at stored
        cases stored
    | cons => rfl

/-! ### Entries and their number -/

def expiredEntries (dictionary : Dictionary) : List (Bytes × DictionaryData) :=
  dictionary.dictionaryEntries.toList.filter fun entry => getIsExpired dictionary entry.2

def liveEntries (dictionary : Dictionary) : List (Bytes × Bytes) :=
  (dictionary.dictionaryEntries.toList.filter fun entry => !getIsExpired dictionary entry.2).map
    fun entry => (entry.1, entry.2.data)

theorem liveEntries_members {dictionary : Dictionary} (linked : Linked dictionary)
    (key data : Bytes) :
    (key, data) ∈ liveEntries dictionary ↔ present dictionary key = some data := by
  simp only [liveEntries, List.mem_map, List.mem_filter, Prod.exists, Prod.mk.injEq,
    Std.ExtTreeMap.mem_toList_iff_getElem?_eq_some]
  constructor
  · rintro ⟨key, entry, ⟨stored, fresh⟩, rfl, rfl⟩
    obtain ⟨service, held, _⟩ := linked.alive key entry stored
    rw [isExpired_lease held] at fresh
    rw [present, live_entry stored held]
    cases left : leaseOf entry.data service with
    | none => simp [left] at fresh
    | some lease => rw [Option.map_some, leaseOf_value left]
  · intro here
    obtain ⟨entry, stored⟩ := present_stored here
    obtain ⟨service, held, _⟩ := linked.alive key entry stored
    rw [present, live_entry stored held] at here
    obtain ⟨lease, left, value⟩ := Option.map_eq_some_iff.mp here
    refine ⟨key, entry, ⟨stored, ?_⟩, rfl, (leaseOf_value left).symm.trans value⟩
    rw [isExpired_lease held, left]
    rfl

theorem ascending_nodup {entries : List (Bytes × Bytes)} (ascending : Ascending entries) :
    entries.Nodup := by
  refine List.Pairwise.imp ?_ ascending
  rintro before _ below rfl
  rw [Std.ReflOrd.compare_self] at below
  cases below

theorem liveEntries_ascending (dictionary : Dictionary) : Ascending (liveEntries dictionary) := by
  have sorted := Std.ExtTreeMap.ordered_keys_toList (t := dictionary.dictionaryEntries)
  exact List.pairwise_map.mpr (sorted.filter _)

/-- The loop lists what has not expired. -/
theorem readEntries_length {dictionary : Dictionary} (valid : Consistent dictionary) :
    (readEntries dictionary).1.length + (expiredEntries dictionary).length = size dictionary := by
  obtain ⟨ascending, members⟩ := readEntries_lists valid
  have same : (readEntries dictionary).1.Perm (liveEntries dictionary) := by
    refine (List.perm_ext_iff_of_nodup (ascending_nodup ascending)
      (ascending_nodup (liveEntries_ascending dictionary))).mpr ?_
    rintro ⟨key, data⟩
    rw [members, liveEntries_members valid.1]
  have split := List.length_eq_length_filter_add (l := dictionary.dictionaryEntries.toList)
    fun entry => getIsExpired dictionary entry.2
  rw [same.length_eq, liveEntries, List.length_map, expiredEntries, size,
    ← Std.ExtTreeMap.length_toList, split, Nat.add_comm]

/-! ### The snapshot -/

/-- The size, the entries and the counters of a snapshot agree. -/
def Agrees (snapshot : StatusSnapshot) : Prop :=
  snapshot.dictionarySize = UInt64.ofNat snapshot.dictionaryEntries.length ∧
    UInt32.ofNat snapshot.dictionarySize.toNat =
      snapshot.dictionaryStatus.entriesAdded - snapshot.dictionaryStatus.entriesRemoved ∧
    UInt32.ofNat snapshot.dictionaryEntries.length =
      snapshot.dictionaryStatus.entriesAdded - snapshot.dictionaryStatus.entriesRemoved

theorem counters_size {dictionary : Dictionary} (balanced : Balanced dictionary) :
    (getDictionaryStatus dictionary).entriesAdded -
        (getDictionaryStatus dictionary).entriesRemoved =
      UInt32.ofNat (size dictionary) := by
  rw [getDictionaryStatus, balanced.added, UInt32.ofNat_add, UInt32.add_comm,
    UInt32.add_sub_cancel, size]

/-- A `size_t` is cut to 32 bits. -/
theorem ofNat_size (number : Nat) :
    UInt32.ofNat (UInt64.ofNat number).toNat = UInt32.ofNat number := by
  apply UInt32.toNat_inj.mp
  simp only [UInt32.toNat_ofNat', UInt64.toNat_ofNat']
  omega

/-- Entries that were not listed are missed unless their number is cut off. -/
theorem missed_none (listed missed : Nat) :
    UInt64.ofNat (listed + missed) = UInt64.ofNat listed ↔ UInt64.ofNat missed = 0 := by
  have zero : (0 : UInt64).toNat = 0 := rfl
  rw [← UInt64.toNat_inj, ← UInt64.toNat_inj, UInt64.toNat_ofNat', UInt64.toNat_ofNat',
    UInt64.toNat_ofNat', zero]
  omega

/-- A snapshot agrees with itself exactly when the number of expired entries that are still in
the map is zero as a `size_t`. -/
theorem snapshot_agrees_iff (application : Application) (dictionary : Dictionary)
    (reached : DictionaryRun.Reachable dictionary) :
    Agrees (gatherStatusSnapshot application dictionary).1 ↔
      UInt64.ofNat (expiredEntries dictionary).length = 0 := by
  have valid := DictionaryRun.reachable_consistent reached
  have counted := readEntries_length valid
  have counters := counters_size valid.2
  have sizes : (gatherStatusSnapshot application dictionary).1.dictionarySize =
      UInt64.ofNat ((readEntries dictionary).1.length + (expiredEntries dictionary).length) := by
    rw [counted]
    rfl
  have entries : (gatherStatusSnapshot application dictionary).1.dictionaryEntries =
      (readEntries dictionary).1 := rfl
  have status : (gatherStatusSnapshot application dictionary).1.dictionaryStatus =
      getDictionaryStatus dictionary := rfl
  rw [Agrees, entries, status, counters, sizes, ofNat_size, counted, ← counted, missed_none]
  constructor
  · exact And.left
  · intro none
    refine ⟨none, rfl, ?_⟩
    rw [← ofNat_size (_ + _), (missed_none ..).mpr none, ofNat_size]

/-- An application that has just been started. -/
def quietApplication : Application where
  handlerHits := some []
  motion := ⟨false, 0, 0, 0⟩
  lightValue := 0
  displayMode := bytes "message"
  displayDimmed := false
  ledStripMode := bytes "rainbow"
  mqtt := ⟨1883, 182, false, 0, 0, 0, 0, 0, 0, 0, 0, 0, 0⟩
  mqttBrokerIp := none
  getStrError := fun _ => []
  system := ⟨false, 0, 0, 0, false, 0, 0, 0⟩

/-- One entry without a lifetime, before and after the tick that ends it. -/
def briefEntry : List DictionaryRun.Op := [.add (bytes "key") (bytes "data") 0]

theorem snapshot_agrees_sample :
    let dictionary := (Machine.run DictionaryRun.step Dictionary.new briefEntry).2
    Agrees (gatherStatusSnapshot quietApplication dictionary).1 ↔
      UInt64.ofNat (expiredEntries dictionary).length = 0 :=
  snapshot_agrees_iff quietApplication _ ⟨briefEntry, rfl⟩

theorem snapshot_counts_expired :
    ¬ ∀ application dictionary, DictionaryRun.Reachable dictionary →
      Agrees (gatherStatusSnapshot application dictionary).1 := by
  intro claimed
  have agrees := (claimed quietApplication _ ⟨briefEntry ++ [.tick], rfl⟩).1
  revert agrees
  decide

end OClock.StatusGather

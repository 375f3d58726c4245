import OClock.Machine
import OClock.OrderedMap
import OClock.Text
import OClock.TimerTable

/-!
The dictionary of dictionary.cpp together with the timer table it registers its
entries in. `DictionaryData` objects are allocated at references that are never
given out twice. The counters of the status are kept without wrap and read as
`Int32U`.
-/

namespace OClock.DictionaryStore
open Text TimerTable

def dictionaryParamOperation : Bytes := bytes "dictionaryOperation"
def dictionaryParamOperationSet : Bytes := bytes "set"
def dictionaryParamOperationAdd : Bytes := bytes "add"
def dictionaryParamOperationDel : Bytes := bytes "del"
def dictionaryParamKey : Bytes := bytes "dictionaryKey"
def dictionaryParamData : Bytes := bytes "dictionaryData"
def dictionaryParamTimeout : Bytes := bytes "dictionaryTimeout"

def noExpiration : Int := -1
def noExpirationText : Bytes := bytes "-1"
def noData : Bytes := []

structure DictionaryData where
  data : Bytes
  timerTickServiceBool : ServiceRef
  deriving DecidableEq

structure DictionaryStatus (Count : Type) where
  ticks : Count
  entriesAdded : Count
  entriesRemoved : Count
  entriesExpired : Count
  deriving Inhabited

structure Dictionary where
  dictionaryEntries : OrderedMap Bytes DictionaryData
  dictionaryStatus : DictionaryStatus Nat
  timerTick : TimerTick
  nextRef : ServiceRef

def Dictionary.new : Dictionary where
  dictionaryEntries := ∅
  dictionaryStatus := ⟨0, 0, 0, 0⟩
  timerTick := TimerTick.new fun _ => none
  nextRef := 0

def getDictionaryStatus (dictionary : Dictionary) : DictionaryStatus UInt32 where
  ticks := UInt32.ofNat dictionary.dictionaryStatus.ticks
  entriesAdded := UInt32.ofNat dictionary.dictionaryStatus.entriesAdded
  entriesRemoved := UInt32.ofNat dictionary.dictionaryStatus.entriesRemoved
  entriesExpired := UInt32.ofNat dictionary.dictionaryStatus.entriesExpired

def empty (dictionary : Dictionary) : Bool := dictionary.dictionaryEntries.isEmpty

def size (dictionary : Dictionary) : Nat := dictionary.dictionaryEntries.size

/-! ### class DictionaryData -/

/-- The constructor. A registration that throws leaves no object behind. -/
def newDictionaryData (dictionary : Dictionary) (data : Bytes)
    (expirationInMilliseconds : Int) : Except Bytes DictionaryData × Dictionary :=
  let ref := dictionary.nextRef
  let service := TimerTickService.new expirationInMilliseconds false
  let constructed :=
    { dictionary with timerTick := dictionary.timerTick.write ref service, nextRef := ref + 1 }
  if 0 ≤ expirationInMilliseconds then
    match registerTimerTickService constructed.timerTick ref true with
    | (.ok _, timerTick) => (.ok ⟨data, ref⟩, { constructed with timerTick := timerTick })
    | (.error what, timerTick) =>
        (.error what, { constructed with timerTick := timerTick.free ref })
  else (.ok ⟨data, ref⟩, constructed)

def getIsExpired (dictionary : Dictionary) (dictionaryData : DictionaryData) : Bool :=
  match dictionary.timerTick.memory dictionaryData.timerTickServiceBool with
  | none => false
  | some service =>
      if service.interval = noExpiration then false else service.getIsExpired

/-- The destructor, which unregisters whatever the cookie is, and the object gone. -/
def deleteDictionaryData (dictionary : Dictionary) (dictionaryData : DictionaryData) :
    Dictionary :=
  let ref := dictionaryData.timerTickServiceBool
  let cookie := (dictionary.timerTick.memory ref).elim nullCookie TimerTickService.cookie
  { dictionary with
    timerTick := (unregisterTimerTickService dictionary.timerTick cookie).free ref }

/-! ### class Dictionary -/

structure Lookup where
  found : Bool
  data : Bytes
  deriving DecidableEq, Repr

/-- `_remove` -/
def removeEntry (dictionary : Dictionary) (key : Bytes) (dictionaryData : DictionaryData) :
    Dictionary :=
  let erased :=
    { dictionary with dictionaryEntries := dictionary.dictionaryEntries.erase key }
  let deleted := deleteDictionaryData erased dictionaryData
  { deleted with dictionaryStatus :=
    { deleted.dictionaryStatus with
      entriesRemoved := deleted.dictionaryStatus.entriesRemoved + 1 } }

def countExpired (dictionary : Dictionary) : Dictionary :=
  { dictionary with dictionaryStatus :=
    { dictionary.dictionaryStatus with
      entriesExpired := dictionary.dictionaryStatus.entriesExpired + 1 } }

def get (dictionary : Dictionary) (key : Bytes) : Lookup × Dictionary :=
  match dictionary.dictionaryEntries[key]? with
  | none => (⟨false, noData⟩, dictionary)
  | some dictionaryData =>
      if getIsExpired dictionary dictionaryData then
        (⟨false, noData⟩, removeEntry (countExpired dictionary) key dictionaryData)
      else (⟨true, dictionaryData.data⟩, dictionary)

def add (dictionary : Dictionary) (key data : Bytes) (expirationInMilliseconds : Int) :
    Except Bytes Bool × Dictionary :=
  if key.isEmpty then (.ok false, dictionary)
  else
    let looked := get dictionary key
    if looked.1.found then (.ok false, looked.2)
    else
      match newDictionaryData looked.2 data expirationInMilliseconds with
      | (.error what, dictionary) => (.error what, dictionary)
      | (.ok dictionaryData, dictionary) =>
          if dictionary.dictionaryEntries.contains key then
            (.error (bytes "could not insert DictionaryEntry for: " ++ key), dictionary)
          else
            (.ok true, { dictionary with
              dictionaryEntries := dictionary.dictionaryEntries.insert key dictionaryData
              dictionaryStatus := { dictionary.dictionaryStatus with
                entriesAdded := dictionary.dictionaryStatus.entriesAdded + 1 } })

def remove (dictionary : Dictionary) (key : Bytes) : Bool × Dictionary :=
  match dictionary.dictionaryEntries[key]? with
  | none => (false, dictionary)
  | some dictionaryData => (true, removeEntry dictionary key dictionaryData)

def clear (dictionary : Dictionary) : Dictionary :=
  let entriesRemoved := dictionary.dictionaryEntries.size
  let deleted := dictionary.dictionaryEntries.toList.foldl
    (fun dictionary entry => deleteDictionaryData dictionary entry.2) dictionary
  { deleted with
    dictionaryEntries := ∅
    dictionaryStatus := { deleted.dictionaryStatus with
      entriesRemoved := deleted.dictionaryStatus.entriesRemoved + entriesRemoved } }

/-- What `getNext` leaves in its reference parameter, its flag and its result. -/
structure Next where
  found : Bool
  key : Bytes
  data : Bytes
  deriving DecidableEq, Repr

/-- The loop of `getNext`. `none` is a loop that has not come to its end yet. -/
def getNextLoop : Nat → Dictionary → Bytes → Option (Next × Dictionary)
  | 0, _, _ => none
  | fuel + 1, dictionary, key =>
      match dictionary.dictionaryEntries.upperBound key with
      | none => some (⟨false, key, noData⟩, dictionary)
      | some (key, _) =>
          let looked := get dictionary key
          if looked.1.found then some (⟨true, key, looked.1.data⟩, looked.2)
          else getNextLoop fuel looked.2 key

/-- Every turn of the loop but the last one removes an entry. -/
def getNext (dictionary : Dictionary) (key : Bytes) : Next × Dictionary :=
  (getNextLoop (size dictionary + 1) dictionary key).getD (⟨false, key, noData⟩, dictionary)

def getFirst (dictionary : Dictionary) : Next × Dictionary := getNext dictionary []

/-- `getNext` again and again until nothing is found; the pairs it found. -/
def visitAll : Nat → Dictionary → Bytes → Option (List (Bytes × Bytes) × Dictionary)
  | 0, _, _ => none
  | fuel + 1, dictionary, key =>
      let next := getNext dictionary key
      if next.1.found then
        (visitAll fuel next.2 next.1.key).map fun rest =>
          ((next.1.key, next.1.data) :: rest.1, rest.2)
      else some ([], next.2)

def purgeExpiredDictionaryEntries (dictionary : Dictionary) : Dictionary :=
  ((visitAll (size dictionary + 1) dictionary []).getD ([], dictionary)).2

/-! ### parsePostRequest -/

structure Request where
  operation : Bytes
  key : Bytes
  data : Bytes
  intervalStr : Bytes

def Request.isDel (request : Request) : Bool := request.operation == dictionaryParamOperationDel

def Request.isSet (request : Request) : Bool := request.operation == dictionaryParamOperationSet

def Request.isAdd (request : Request) : Bool := request.operation == dictionaryParamOperationAdd

/-- The parameters, with the defaults of those that are missing. -/
def requestOf (postValues : StringMap) : Request where
  operation := (getParamValue postValues dictionaryParamOperation).getD dictionaryParamOperationSet
  key := (getParamValue postValues dictionaryParamKey).getD []
  data := (getParamValue postValues dictionaryParamData).getD noData
  intervalStr := (getParamValue postValues dictionaryParamTimeout).getD noExpirationText

/-- `none` where the request is refused before the dictionary has been touched. -/
def readRequest (postValues : StringMap) : Option Request :=
  let request := requestOf postValues
  if (getParamValue postValues dictionaryParamKey).isNone && !request.isDel then none
  else if (getParamValue postValues dictionaryParamData).isNone && !request.isDel then none
  else if !request.isDel && !request.isSet && !request.isAdd then none
  else some request

/-- The removal that comes first for `del` and `set`. -/
def removeForRequest (dictionary : Dictionary) (request : Request) : Dictionary :=
  if request.isDel || request.isSet then
    if request.isDel && request.key.isEmpty then clear dictionary
    else (remove dictionary request.key).2
  else dictionary

/-- The insertion for `set` and `add`, with every exception turned into `false`. -/
def addForRequest (dictionary : Dictionary) (request : Request) : Bool × Dictionary :=
  if request.isDel then (true, dictionary)
  else
    match stoi request.intervalStr with
    | none => (false, dictionary)
    | some expiration =>
        match add dictionary request.key request.data expiration with
        | (.ok added, dictionary) => (added, dictionary)
        | (.error _, dictionary) => (false, dictionary)

def parsePostRequest (dictionary : Dictionary) (postValues : StringMap) : Bool × Dictionary :=
  match readRequest postValues with
  | none => (false, dictionary)
  | some request => addForRequest (removeForRequest dictionary request) request

/-- The parameters that ask for `key=data` to be set, with a timeout in milliseconds. -/
def setRequest (key data timeout : Bytes) : StringMap :=
  ((∅ : StringMap).insert dictionaryParamKey key |>.insert dictionaryParamData data).insert
    dictionaryParamTimeout timeout

/-- One tick of the timer thread; the iteration order is immaterial
(`TimerTable.tick_order_irrelevant`). -/
def timerTick (dictionary : Dictionary) : Dictionary :=
  { dictionary with timerTick :=
    (tick dictionary.timerTick dictionary.timerTick.timerTickServices.keys).2 }

end OClock.DictionaryStore

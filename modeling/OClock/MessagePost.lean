import OClock.DisplayInternal
import OClock.LastWrite

/-!
What a posted form makes of the message: each key is taken for the first word of the handler
that it begins, and the last key for a field decides it.
-/

namespace OClock.MessagePost
open Text CommonUtils Fonts Fortunes DisplayInternal LastWrite

inductive Field where
  | msg | x | y | font | alternateFont | confetti | bounce | noScroll | blink | color | repeats
  | timeout
  deriving DecidableEq

/-- The words in the order of the tests. -/
def words : List (String × Field) := [
  ("msg", .msg), ("x", .x), ("y", .y), ("font", .font), ("alternateFont", .alternateFont),
  ("confetti", .confetti), ("bounce", .bounce), ("noScroll", .noScroll), ("blink", .blink),
  ("color", .color), ("repeats", .repeats), ("timeout", .timeout)]

def fieldOf (key : Bytes) : Option Field :=
  (words.find? fun entry => names key entry.1).map Prod.snd

/-- A value read in each of the ways of the fields. -/
structure Reading where
  number : Int
  scaled : Int
  unsigned : UInt32
  truth : Bool

def readingOf (value : Bytes) : Reading where
  number := int32 (strtoul value)
  scaled := int32 (strtoul value * incrementYScale)
  unsigned := UInt32.ofNat (strtoul value)
  truth := parseBooleanValue value

/-- What a field other than the text does with its value. -/
def setField (reading : Reading) (data : ModeMessageData) : Field → ModeMessageData
  | .msg => data
  | .x => { data with currX := reading.number }
  | .y => { data with currYFactor := reading.scaled }
  | .font => { data with font := reading.unsigned }
  | .alternateFont => { data with alternateFont := reading.truth }
  | .confetti => { data with confetti := reading.number }
  | .bounce => { data with incrementY := if reading.truth then incrementYValue else 0 }
  | .noScroll => { data with incrementX := !reading.truth }
  | .blink => { data with blink := reading.truth }
  | .color => { data with displayColor := reading.unsigned }
  | .repeats => { data with repeats := reading.number }
  | .timeout => { data with timeout := reading.unsigned }

theorem postParam_eq {key : Bytes} (other : names key "msg" = false) (value : Bytes)
    (data : ModeMessageData) :
    postParam key value data = (fieldOf key).elim data (setField (readingOf value) data) := by
  unfold fieldOf words postParam readingOf
  simp only [List.find?_cons, other]
  generalize int32 (strtoul value) = number
  generalize int32 (strtoul value * incrementYScale) = scaled
  generalize UInt32.ofNat (strtoul value) = unsigned
  generalize parseBooleanValue value = truth
  cases names key "x"
  case true => rfl
  cases names key "y"
  case true => rfl
  cases names key "font"
  case true => rfl
  cases names key "alternateFont"
  case true => rfl
  cases names key "confetti"
  case true => rfl
  cases names key "bounce"
  case true => rfl
  cases names key "noScroll"
  case true => rfl
  cases names key "blink"
  case true => rfl
  cases names key "color"
  case true => rfl
  cases names key "repeats"
  case true => rfl
  cases names key "timeout" <;> rfl

theorem fieldOf_msg (key : Bytes) : fieldOf key = some .msg ↔ names key "msg" = true := by
  constructor
  · intro found
    by_contra other
    rw [Bool.not_eq_true] at other
    unfold fieldOf at found
    rw [Option.map_eq_some_iff] at found
    obtain ⟨entry, first, text⟩ := found
    have named := List.find?_some first
    have member := List.mem_of_find?_eq_some first
    simp only [words, List.mem_cons, List.not_mem_nil, or_false] at member
    rcases member with rfl | rfl | rfl | rfl | rfl | rfl | rfl | rfl | rfl | rfl | rfl | rfl
    · rw [other] at named
      cases named
    all_goals cases text
  · intro named
    unfold fieldOf words
    rw [List.find?_cons, named]
    rfl

/-- The field of a pair of the form, with its value. -/
def written (field : Field) (kvp : Bytes × Bytes) : Option Bytes :=
  if fieldOf (cText kvp.1) = some field then some (cText kvp.2) else none

/-- The value that a form gives a field. -/
def postedValue (postValues : StringMap) (field : Field) : Option Bytes :=
  lastWrite (written field) postValues.toList

def postedReading (postValues : StringMap) (field : Field) : Option Reading :=
  (postedValue postValues field).map readingOf

/-- What the fields of a form make of the data of the message. -/
def posted (postValues : StringMap) (surroundings : Surroundings) (data : ModeMessageData) :
    ModeMessageData :=
  (postValues.toList.foldl (postPair surroundings) (data, surroundings.random)).1

variable {Value : Type*} {get : ModeMessageData → Value} {read : Reading → Value} {field : Field}

/-- The part of the data that a field sets, and that no other field touches. -/
structure Owns (field : Field) (get : ModeMessageData → Value) (read : Reading → Value) :
    Prop where
  sets : ∀ reading data, get (setField reading data field) = read reading
  keeps : ∀ other reading data, other ≠ field → get (setField reading data other) = get data
  text : ∀ surroundings value data random,
    get (postMsg surroundings value data random).1 = get data

theorem postPair_owned (owns : Owns field get read) (notText : field ≠ .msg)
    (surroundings : Surroundings) (before : ModeMessageData × Random) (kvp : Bytes × Bytes) :
    get (postPair surroundings before kvp).1 =
      ((written field kvp).map fun value => read (readingOf value)).getD (get before.1) := by
  unfold postPair written
  dsimp only
  cases text : names (cText kvp.1) "msg" with
  | true =>
      rw [(fieldOf_msg _).mpr text, if_neg (fun same => notText (Option.some.inj same).symm)]
      exact owns.text ..
  | false =>
      rw [if_neg Bool.false_ne_true, postParam_eq text]
      cases fieldOf (cText kvp.1) with
      | none => rfl
      | some other =>
          by_cases same : other = field
          · rw [if_pos (congrArg some same), same]
            exact owns.sets ..
          · rw [if_neg (fun equal => same (Option.some.inj equal))]
            exact owns.keeps _ _ _ same

/-- The last key for a field decides what it sets. -/
theorem posted_owned (owns : Owns field get read) (notText : field ≠ .msg)
    (postValues : StringMap) (surroundings : Surroundings) (data : ModeMessageData) :
    get (posted postValues surroundings data) =
      ((postedReading postValues field).map read).getD (get data) := by
  rw [postedReading, Option.map_map, postedValue, ← lastWrite_map]
  exact foldl_lastWrite (fun before : ModeMessageData × Random => get before.1)
    (postPair_owned owns notText surroundings) postValues.toList (data, surroundings.random)

/-! ### The fields -/

theorem postMsg_text (surroundings : Surroundings) (value : Bytes) (data : ModeMessageData)
    (random : Random) : ∃ msg modeMsgsIndex, (postMsg surroundings value data random).1 =
      { data with msg := msg, modeMsgsIndex := modeMsgsIndex } := by
  unfold postMsg
  dsimp only
  split
  · split
    · exact ⟨_, _, rfl⟩
    · exact ⟨_, _, rfl⟩
  · split
    · exact ⟨_, _, rfl⟩
    · exact ⟨_, _, rfl⟩

theorem Owns.of (sets : ∀ reading data, get (setField reading data field) = read reading)
    (keeps : ∀ other reading data, other ≠ field → get (setField reading data other) = get data)
    (apart : ∀ (data : ModeMessageData) msg modeMsgsIndex,
      get { data with msg := msg, modeMsgsIndex := modeMsgsIndex } = get data) :
    Owns field get read where
  sets := sets
  keeps := keeps
  text surroundings value data random := by
    obtain ⟨msg, modeMsgsIndex, same⟩ := postMsg_text surroundings value data random
    rw [same]
    exact apart data msg modeMsgsIndex

theorem timeout_owned : Owns .timeout ModeMessageData.timeout Reading.unsigned :=
  .of (fun _ _ => rfl)
    (fun other _ _ different => by cases other <;> first | exact absurd rfl different | rfl)
    (fun _ _ _ => rfl)

theorem x_owned : Owns .x ModeMessageData.currX Reading.number :=
  .of (fun _ _ => rfl)
    (fun other _ _ different => by cases other <;> first | exact absurd rfl different | rfl)
    (fun _ _ _ => rfl)

theorem noScroll_owned : Owns .noScroll ModeMessageData.incrementX fun reading => !reading.truth :=
  .of (fun _ _ => rfl)
    (fun other _ _ different => by cases other <;> first | exact absurd rfl different | rfl)
    (fun _ _ _ => rfl)

theorem blink_owned : Owns .blink ModeMessageData.blink Reading.truth :=
  .of (fun _ _ => rfl)
    (fun other _ _ different => by cases other <;> first | exact absurd rfl different | rfl)
    (fun _ _ _ => rfl)

theorem repeats_owned : Owns .repeats ModeMessageData.repeats Reading.number :=
  .of (fun _ _ => rfl)
    (fun other _ _ different => by cases other <;> first | exact absurd rfl different | rfl)
    (fun _ _ _ => rfl)

/-- What no field sets stays as it was. -/
theorem posted_unowned (get : ModeMessageData → Value)
    (keeps : ∀ other reading data, get (setField reading data other) = get data)
    (text : ∀ surroundings value data random,
      get (postMsg surroundings value data random).1 = get data)
    (postValues : StringMap) (surroundings : Surroundings) (data : ModeMessageData) :
    get (posted postValues surroundings data) = get data := by
  have kept : ∀ (before : ModeMessageData × Random) (kvp : Bytes × Bytes),
      get (postPair surroundings before kvp).1 = (none : Option Value).getD (get before.1) := by
    intro before kvp
    unfold postPair
    dsimp only
    cases other : names (cText kvp.1) "msg" with
    | true => exact text ..
    | false =>
        rw [if_neg Bool.false_ne_true, postParam_eq other]
        cases fieldOf (cText kvp.1) with
        | none => rfl
        | some field => exact keeps ..
  have folded := foldl_lastWrite (fun before : ModeMessageData × Random => get before.1) kept
    postValues.toList (data, surroundings.random)
  rwa [lastWrite_none.mpr fun _ _ => rfl] at folded

theorem printMsg_clean (text : Bytes) : 0 ∉ printMsg text := by
  intro inside
  have ended := List.mem_takeWhile_imp (List.mem_of_mem_take inside)
  exact absurd rfl (of_decide_eq_true ended)

theorem setField_msg (reading : Reading) (data : ModeMessageData) (field : Field) :
    (setField reading data field).msg = data.msg := by cases field <;> rfl

theorem postMsg_clean (surroundings : Surroundings) (value : Bytes) {data : ModeMessageData}
    (random : Random) (clean : 0 ∉ data.msg) :
    0 ∉ (postMsg surroundings value data random).1.msg := by
  unfold postMsg
  dsimp only
  split
  · split
    · exact clean
    · exact clean
  · split
    · exact printMsg_clean _
    · exact printMsg_clean _

theorem postPair_clean (surroundings : Surroundings) {before : ModeMessageData × Random}
    (kvp : Bytes × Bytes) (clean : 0 ∉ before.1.msg) :
    0 ∉ (postPair surroundings before kvp).1.msg := by
  unfold postPair
  dsimp only
  cases text : names (cText kvp.1) "msg" with
  | true => exact postMsg_clean surroundings _ _ clean
  | false =>
      rw [if_neg Bool.false_ne_true, postParam_eq text]
      cases fieldOf (cText kvp.1) with
      | none => exact clean
      | some field =>
          rw [Option.elim_some, setField_msg]
          exact clean

/-- Whatever is posted, the text has no terminator in it. -/
theorem posted_clean (postValues : StringMap) (surroundings : Surroundings)
    {data : ModeMessageData} (clean : 0 ∉ data.msg) :
    0 ∉ (posted postValues surroundings data).msg := by
  unfold posted
  induction postValues.toList using List.reverseRecOn with
  | nil => exact clean
  | append_singleton pairs kvp ih =>
      rw [List.foldl_append]
      exact postPair_clean surroundings kvp ih

/-! ### The message that is shown -/

/-- What `doHandleMsgModePost` starts from. -/
def fresh (display : Display) : ModeMessageData :=
  (initModeMessageData 0 5 true false 0 false font5x4 60 display).modeMessageData

/-- The data once the mode has been entered: the text of a cookie is filled in, and the text
is measured. -/
def settled (data : ModeMessageData) : ModeMessageData :=
  let named :=
    if data.modeMsgsIndex < modeMsgsIndexLast then
      { data with msg := printMsg (modeMessageMsgs[data.modeMsgsIndex.toNat]?.getD []) }
    else data
  { named with wd := textWidth named }

theorem post_data (postValues : StringMap) (surroundings : Surroundings) (scene : Scene) :
    (doHandleMsgModePost postValues surroundings scene).display.modeMessageData =
      settled (posted postValues surroundings (fresh scene.display)) := rfl

theorem post_mode (postValues : StringMap) (surroundings : Surroundings) (scene : Scene) :
    getDisplayMode (doHandleMsgModePost postValues surroundings scene).display = .message := rfl

theorem settled_apart (get : ModeMessageData → Value) (apart : ∀ (data : ModeMessageData) msg wd,
    get { data with msg := msg, wd := wd } = get data) (data : ModeMessageData) :
    get (settled data) = get data := by
  unfold settled
  dsimp only
  split
  · exact apart data _ _
  · exact apart data data.msg _

end OClock.MessagePost

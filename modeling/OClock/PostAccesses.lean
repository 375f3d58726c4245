import OClock.LoggedSteps
import OClock.PostAcceptance

/-!
The accesses of `parsePost`, logged in the order in which they are made. Without its log the
loop is the one of `PostParser`; with it, every access can be checked against its array.
-/

namespace OClock.PostAccesses
open Text Buffer PostParser PostDecoding PostAcceptance LoggedSteps

inductive Access where
  /-- A turn of the loop begins. -/
  | turn (i : Nat)
  | data (index : Nat)
  | tmpBuffer (index : Nat)
  /-- A C string is read from a place of an array on. -/
  | text (array : Bytes) (start : Nat)

/-- The access stays in its array, where the body is that long. -/
def Access.InBounds (bodyLen : Nat) : Access → Prop
  | .turn i => i < bodyLen
  | .data index => index < bodyLen
  | .tmpBuffer index => index ≤ bodyLen
  | .text array start => ∃ stop, start ≤ stop ∧ array[stop]? = some 0

def isTurn : Access → Bool
  | .turn _ => true
  | .data _ | .tmpBuffer _ | .text _ _ => false

def readData (data : Bytes) (index : Nat) : LoggedSteps Access UInt8 :=
  did (.data index) (peek data index)

def readTmp (tmpBuffer : Bytes) (index : Nat) : LoggedSteps Access UInt8 :=
  did (.tmpBuffer index) (peek tmpBuffer index)

def writeTmp (tmpBuffer : Bytes) (index : Nat) (byte : UInt8) : LoggedSteps Access Bytes :=
  did (.tmpBuffer index) (poke tmpBuffer index byte)

def readText (array : Bytes) (start : Nat) : LoggedSteps Access Bytes :=
  did (.text array start) (cString array start)

/-! ### The functions of the parser with their accesses -/

def currValueTextLogged (state : ParseState) : LoggedSteps Access Bytes :=
  match state.currValue with
  | none => readText [0] 0
  | some offset => readText state.tmpBuffer offset

def storePairLogged (state : ParseState) : LoggedSteps Access ParseState :=
  if state.gettingValuePortion then do
    if (← readTmp state.tmpBuffer 0) = 0 then return state
    let state := { state with tmpBuffer := ← writeTmp state.tmpBuffer state.tmpBufferOffset 0 }
    let key ← readText state.tmpBuffer 0
    let value ← currValueTextLogged state
    return { state with postValues := state.postValues.insert key value }
  else return state

def startValueLogged (state : ParseState) : LoggedSteps Access ParseState := do
  let tmpBuffer ← writeTmp state.tmpBuffer state.tmpBufferOffset 0
  let tmpBufferOffset := state.tmpBufferOffset + 1
  return { state with
    tmpBuffer := ← writeTmp tmpBuffer tmpBufferOffset 0
    tmpBufferOffset := tmpBufferOffset
    currValue := some tmpBufferOffset
    gettingValuePortion := true }

def startPairLogged (state : ParseState) : LoggedSteps Access ParseState := do
  return { state with
    tmpBuffer := ← writeTmp state.tmpBuffer 0 0
    tmpBufferOffset := 0
    currValue := none
    gettingValuePortion := false }

def appendLogged (state : ParseState) (ch : UInt8) : LoggedSteps Access ParseState := do
  return { state with
    tmpBuffer := ← writeTmp state.tmpBuffer state.tmpBufferOffset ch
    tmpBufferOffset := state.tmpBufferOffset + 1 }

/-- `hex` is an array of the two digits and a terminator, which `strtoul` reads. -/
def readHex (high low : UInt8) : LoggedSteps Access UInt8 :=
  did (.text [high, low, 0] 0) (some (hexByte high low))

def turnLogged (data : Bytes) (i : Nat) (state : ParseState) : LoggedSteps Access Turn := do
  let ch ← readData data i
  let ch := if ch = plus then space else ch
  if ch = equals then
    return .next (i + 1) (← startValueLogged state)
  else if ch = ampersand then
    return .next (i + 1) (← startPairLogged (← storePairLogged state))
  else if ch = percent then
    if (data.length : Int) - 2 ≤ i then
      return .stop { state with tmpBuffer := ← writeTmp state.tmpBuffer state.tmpBufferOffset 0 }
    else
      let high ← readData data (i + 1)
      let low ← readData data (i + 2)
      if !isXDigit high || !isXDigit low then return .invalid state
      else return .next (i + 3) (← appendLogged state (← readHex high low))
  else
    return .next (i + 1) (← appendLogged state ch)

def loopLogged (data : Bytes) : Nat → Nat → ParseState → LoggedSteps Access Outcome
  | 0, i, state => if i < data.length then ⟨[], none⟩ else return .parsed state
  | turns + 1, i, state =>
      if i < data.length then do
        did (.turn i) (some ())
        match ← turnLogged data i state with
        | .next i state => loopLogged data turns i state
        | .stop state => return .parsed state
        | .invalid state => return .invalid state
      else return .parsed state

/-- What follows the check of the length. -/
def parseLogged (data : Bytes) (postValues : StringMap) : LoggedSteps Access PostResult := do
  let tmpBuffer := List.replicate (data.length + 1) (0 : UInt8)
  match ← loopLogged data data.length 0 ⟨tmpBuffer, 0, none, false, postValues⟩ with
  | .invalid state =>
      return returnError 625 (bytes "invalid percent encoding") state.postValues
  | .parsed state => return ⟨.replyOk, [], (← storePairLogged state).postValues⟩

/-! ### Without the log -/

theorem currValueText_result (state : ParseState) :
    (currValueTextLogged state).result = currValueText state := by
  unfold currValueTextLogged currValueText
  cases state.currValue <;> rfl

theorem storePair_result (state : ParseState) :
    (storePairLogged state).result = storePair state := by
  unfold storePairLogged storePair
  by_cases getting : state.gettingValuePortion = true
  · simp only [getting, if_true, bind_result, readTmp, writeTmp, readText, did_result,
      apply_ite LoggedSteps.result, pure_result, currValueText_result]
    rfl
  · simp only [getting]
    rfl

theorem startValue_result (state : ParseState) :
    (startValueLogged state).result = startValue state := by
  simp only [startValueLogged, startValue, bind_result, writeTmp, did_result, pure_result]
  rfl

theorem startPair_result (state : ParseState) :
    (startPairLogged state).result = startPair state := by
  simp only [startPairLogged, startPair, bind_result, writeTmp, did_result, pure_result]
  rfl

theorem append_result (state : ParseState) (ch : UInt8) :
    (appendLogged state ch).result = append state ch := by
  simp only [appendLogged, append, bind_result, writeTmp, did_result, pure_result]
  rfl

theorem turn_result (data : Bytes) (i : Nat) (state : ParseState) :
    (turnLogged data i state).result = turn data i state := by
  simp only [turnLogged, turn, bind_result, readData, writeTmp, readHex, did_result,
    apply_ite LoggedSteps.result, pure_result, startValue_result, startPair_result, append_result,
    storePair_result]
  rfl

theorem loop_result (data : Bytes) (turns i : Nat) (state : ParseState) :
    (loopLogged data turns i state).result = loop data turns i state := by
  induction turns generalizing i state with
  | zero =>
      rw [loopLogged, loop, apply_ite LoggedSteps.result]
      rfl
  | succ turns ih =>
      rw [loopLogged, loop]
      split
      · rw [bind_result, did_result, Option.bind_some, bind_result, turn_result]
        cases turn data i state with
        | none => rfl
        | some taken =>
            cases taken with
            | next i state => exact ih i state
            | stop state => rfl
            | invalid state => rfl
      · rfl

theorem parse_result (body : Bytes) (postValues : StringMap)
    (fits : 1 ≤ body.length ∧ body.length ≤ 4095) :
    (parseLogged body postValues).result = parsePost (some body) postValues := by
  have accepted : ¬ (maxPostBodyLen ≤ body.length ∨ body.length < 1) := by
    rw [maxPostBodyLen]
    omega
  simp only [parseLogged, parsePost, if_neg accepted]
  rw [bind_result, loop_result]
  generalize loop body body.length 0 _ = looped
  cases looped with
  | none => rfl
  | some outcome =>
      cases outcome with
      | invalid state => rfl
      | parsed state =>
          simp only [Option.bind_some, bind_result, storePair_result, pure_result]
          cases storePair state <;> rfl

/-! ### Inside the arrays -/

/-- An access of a turn, in its array. -/
def Inside (bodyLen : Nat) (access : Access) : Prop :=
  access.InBounds bodyLen ∧ isTurn access = false

theorem poke_written {buffer after : Bytes} {index : Nat} {byte : UInt8}
    (poked : poke buffer index byte = some after) : after[index]? = some byte := by
  unfold poke at poked
  split at poked
  · next inside =>
    cases poked
    simp [inside]
  · cases poked

variable {data : Bytes} {i : Nat} {state : ParseState}

theorem offset_le (sound : Sound data i state) : state.tmpBufferOffset ≤ i := by
  obtain ⟨written, filled⟩ := sound.filled
  rw [filled.offset]
  exact filled.within

theorem storePair_inside (sound : Sound data i state) (inside : i ≤ data.length) :
    All (Inside data.length) (storePairLogged state) := by
  have offset := offset_le sound
  unfold storePairLogged
  split
  · refine all_bind (all_did _ ⟨Nat.zero_le _, rfl⟩) fun first _ => ?_
    split
    · exact all_pure _
    · refine all_bind (all_did _ ⟨Nat.le_trans offset inside, rfl⟩) fun buffer poked => ?_
      -- The terminator that was just written ends the key and the value.
      have terminated := poke_written poked
      refine all_bind (all_did _ ⟨⟨_, Nat.zero_le _, terminated⟩, rfl⟩) fun key _ => ?_
      refine all_bind ?_ fun value _ => all_pure _
      unfold currValueTextLogged
      cases pointer : state.currValue with
      | none => exact all_did _ ⟨⟨0, Nat.le_refl _, rfl⟩, rfl⟩
      | some start => exact all_did _ ⟨⟨_, sound.value start pointer, terminated⟩, rfl⟩
  · exact all_pure _

theorem startValue_inside (sound : Sound data i state) (inside : i < data.length) :
    All (Inside data.length) (startValueLogged state) := by
  have offset := offset_le sound
  refine all_bind (all_did _ ⟨?_, rfl⟩) fun buffer _ => all_bind (all_did _ ⟨?_, rfl⟩)
    fun _ _ => all_pure _
  · exact Nat.le_trans offset (Nat.le_of_lt inside)
  · exact Nat.lt_of_le_of_lt offset inside

theorem startPair_inside (bodyLen : Nat) (state : ParseState) :
    All (Inside bodyLen) (startPairLogged state) :=
  all_bind (all_did _ ⟨Nat.zero_le _, rfl⟩) fun _ _ => all_pure _

theorem append_inside (sound : Sound data i state) (inside : i < data.length) (ch : UInt8) :
    All (Inside data.length) (appendLogged state ch) :=
  all_bind (all_did _ ⟨Nat.le_trans (offset_le sound) (Nat.le_of_lt inside), rfl⟩)
    fun _ _ => all_pure _

theorem turn_inside (sound : Sound data i state) (inside : i < data.length) :
    All (Inside data.length) (turnLogged data i state) := by
  refine all_bind (all_did _ ⟨inside, rfl⟩) fun ch _ => ?_
  dsimp only
  generalize (if ch = plus then space else ch) = ch
  split
  · exact all_bind (startValue_inside sound inside) fun _ _ => all_pure _
  split
  · exact all_bind (storePair_inside sound (Nat.le_of_lt inside)) fun stored _ =>
      all_bind (startPair_inside _ stored) fun _ _ => all_pure _
  split
  · split
    · exact all_bind (all_did _ ⟨Nat.le_trans (offset_le sound) (Nat.le_of_lt inside), rfl⟩)
        fun _ _ => all_pure _
    · next far =>
      -- Both digits of the escape are in the body.
      have second : i + 2 < data.length := by omega
      refine all_bind (all_did _ ⟨Nat.lt_of_succ_lt second, rfl⟩) fun high _ =>
        all_bind (all_did _ ⟨second, rfl⟩) fun low _ => ?_
      split
      · exact all_pure _
      · exact all_bind (all_did _ ⟨⟨2, Nat.zero_le _, rfl⟩, rfl⟩) fun _ _ =>
          all_bind (append_inside sound inside _) fun _ _ => all_pure _
  · exact all_bind (append_inside sound inside ch) fun _ _ => all_pure _

/-- What a turn leaves for the next one, or for the end. -/
def Leaves (data : Bytes) (i : Nat) : Turn → Prop
  | .next j after => (i < j ∧ j ≤ data.length) ∧ Sound data j after
  | .stop after => Sound data i after
  | .invalid _ => True

theorem turn_leaves (sound : Sound data i state) (inside : i < data.length) :
    ∃ taken, turn data i state = some taken ∧ Leaves data i taken := by
  have here := List.getElem?_eq_getElem inside
  by_cases plain : data[i] = 37
  · rw [plain] at here
    rcases turn_percent sound here with
      ⟨high, low, _, second, read⟩ | ⟨_, after, turned, still⟩
    · have length := (List.getElem?_eq_some_iff.mp second).1
      rcases read with ⟨_, after, turned, more⟩ | ⟨_, turned⟩
      · exact ⟨_, turned, ⟨by omega, length⟩, more⟩
      · exact ⟨_, turned, trivial⟩
    · exact ⟨_, turned, still⟩
  · obtain ⟨after, turned, more⟩ := turn_plain sound here plain
    exact ⟨_, turned, ⟨Nat.lt_succ_self i, inside⟩, more⟩

/-- The loop from place `i` on: its accesses, its turns, and the state it ends in. -/
theorem loop_inside (turns : Nat) (sound : Sound data i state) (inside : i ≤ data.length)
    (enough : data.length ≤ i + turns) :
    All (Access.InBounds data.length) (loopLogged data turns i state) ∧
      (loopLogged data turns i state).log.countP isTurn ≤ turns ∧
      ∃ outcome, (loopLogged data turns i state).result = some outcome ∧
        ∀ final, outcome = .parsed final → ∃ j ≤ data.length, Sound data j final := by
  induction turns generalizing i state with
  | zero =>
      have ended : ¬ i < data.length := by omega
      rw [loopLogged, if_neg ended]
      refine ⟨all_pure _, Nat.le_refl _, _, rfl, ?_⟩
      rintro final same
      cases same
      exact ⟨i, inside, sound⟩
  | succ turns ih =>
      rw [loopLogged]
      split
      · next within =>
        obtain ⟨taken, turned, left⟩ := turn_leaves sound within
        have accesses := turn_inside sound within
        have result := (turn_result data i state).trans turned
        -- Only the loop logs turns: what a turn reads and writes adds none.
        have none : (turnLogged data i state).log.countP isTurn = 0 :=
          List.countP_eq_zero.mpr fun access logged =>
            Bool.not_eq_true _ ▸ (accesses access logged).2
        have begins : All (Access.InBounds data.length) (did (Access.turn i) (some ())) :=
          all_did _ within
        have first : All (Access.InBounds data.length) (turnLogged data i state) :=
          fun access logged => (accesses access logged).1
        simp only [count_bind, bind_result, did_result, result, Option.elim_some, Option.bind_some,
          none]
        have one : (did (Access.turn i) (some ())).log.countP isTurn = 1 := rfl
        rw [one]
        have onwards : ∀ {next : Turn → LoggedSteps Access Outcome},
            All (Access.InBounds data.length) (next taken) →
            All (Access.InBounds data.length)
              (did (Access.turn i) (some ()) >>= fun _ => turnLogged data i state >>= next) := by
          intro next last
          refine all_bind begins fun _ _ => all_bind first fun value same => ?_
          rw [result] at same
          cases same
          exact last
        cases taken with
        | next j after =>
            obtain ⟨⟨moves, stays⟩, more⟩ := left
            obtain ⟨all, count, ends⟩ := ih more stays (by omega)
            refine ⟨onwards all, ?_, ends⟩
            change 1 + (0 + (loopLogged data turns j after).log.countP isTurn) ≤ turns + 1
            omega
        | stop after =>
            refine ⟨onwards (all_pure _), by simp [pure], _, rfl, ?_⟩
            rintro final same
            cases same
            exact ⟨i, inside, left⟩
        | invalid after =>
            exact ⟨onwards (all_pure _), by simp [pure], _, rfl,
              fun final same => by cases same⟩
      · refine ⟨all_pure _, Nat.zero_le _, _, rfl, ?_⟩
        rintro final same
        cases same
        exact ⟨i, inside, sound⟩

/-- Whatever the body, every access of `parsePost` stays in its array, every string it reads
has a terminator there, and its loop ends after no more turns than the body has bytes. -/
theorem parsePost_in_bounds (body : Bytes) (postValues : StringMap)
    (fits : 1 ≤ body.length ∧ body.length ≤ 4095) :
    (∀ access ∈ (parseLogged body postValues).log, access.InBounds body.length) ∧
      (parseLogged body postValues).log.countP isTurn ≤ body.length ∧
      ∃ result, (parseLogged body postValues).result = some result ∧
        parsePost (some body) postValues = some result := by
  obtain ⟨all, count, outcome, ends, parsed⟩ := loop_inside body.length
    (start_sound body postValues) (Nat.zero_le _) (Nat.le_add_left ..)
  rw [← parse_result body postValues fits]
  unfold parseLogged
  simp only [count_bind, bind_result, ends, Option.elim_some, Option.bind_some]
  cases outcome with
  | invalid final =>
      refine ⟨all_bind all fun other same => ?_, count, _, rfl, rfl⟩
      rw [ends] at same
      cases same
      exact all_pure _
  | parsed final =>
      obtain ⟨j, inside, sound⟩ := parsed final rfl
      have accesses := storePair_inside sound inside
      obtain ⟨stored, kept, _⟩ := storePair_sound sound inside
      have result := (storePair_result final).trans kept
      have none : (storePairLogged final).log.countP isTurn = 0 :=
        List.countP_eq_zero.mpr fun access logged =>
          Bool.not_eq_true _ ▸ (accesses access logged).2
      refine ⟨all_bind all fun other same => ?_, ?_, ?_⟩
      · rw [ends] at same
        cases same
        exact all_bind (fun access logged => (accesses access logged).1) fun _ _ => all_pure _
      · simpa [count_bind, none, result, pure] using count
      · exact ⟨_, by rw [bind_result, result, Option.bind_some, pure_result],
          by rw [bind_result, result, Option.bind_some, pure_result]⟩

/-- A body that ends within an escape. -/
theorem cut_escape_in_bounds :
    (∀ access ∈ (parseLogged (bytes "k=%4") ∅).log, access.InBounds 4) ∧
      (parseLogged (bytes "k=%4") ∅).log.countP isTurn ≤ 4 ∧
      ∃ result, (parseLogged (bytes "k=%4") ∅).result = some result ∧
        parsePost (some (bytes "k=%4")) ∅ = some result :=
  parsePost_in_bounds (bytes "k=%4") ∅ (by decide)

end OClock.PostAccesses

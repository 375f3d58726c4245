import OClock.Buffer
import OClock.Text

/-!
`WebHandler::parsePost` of webHandlerInternal.cpp. One buffer is used again for
every pair: the key stands at its start, the value behind the terminator of the
key. `none` is an access outside an array, or a loop that has not ended.
-/

namespace OClock.PostParser
open Text Buffer

inductive HandleRequestReply where
  | replyOk
  | replyInternalError
  deriving DecidableEq, Repr

def maxPostBodyLen : Nat := 4096

def plus : UInt8 := 43
def space : UInt8 := 32
def equals : UInt8 := 61
def ampersand : UInt8 := 38
def percent : UInt8 := 37

/-- `currValue` is an offset in `tmpBuffer`, or `none` for the literal `""`. -/
structure ParseState where
  tmpBuffer : Bytes
  tmpBufferOffset : Nat
  currValue : Option Nat
  gettingValuePortion : Bool
  postValues : StringMap

inductive Turn where
  | next (i : Nat) (state : ParseState)
  | stop (state : ParseState)
  | invalid (state : ParseState)

def currValueText (state : ParseState) : Option Bytes :=
  match state.currValue with
  | none => some []
  | some offset => cString state.tmpBuffer offset

/-- `postValues[ currKey ] = currValue`, unless there is no pair yet or its key is empty. -/
def storePair (state : ParseState) : Option ParseState :=
  if state.gettingValuePortion then do
    if (← peek state.tmpBuffer 0) = 0 then return state
    let state := { state with tmpBuffer := ← poke state.tmpBuffer state.tmpBufferOffset 0 }
    let key ← cString state.tmpBuffer 0
    let value ← currValueText state
    return { state with postValues := state.postValues.insert key value }
  else some state

def startValue (state : ParseState) : Option ParseState := do
  let tmpBuffer ← poke state.tmpBuffer state.tmpBufferOffset 0
  let tmpBufferOffset := state.tmpBufferOffset + 1
  return { state with
    tmpBuffer := ← poke tmpBuffer tmpBufferOffset 0
    tmpBufferOffset := tmpBufferOffset
    currValue := some tmpBufferOffset
    gettingValuePortion := true }

def startPair (state : ParseState) : Option ParseState := do
  return { state with
    tmpBuffer := ← poke state.tmpBuffer 0 0
    tmpBufferOffset := 0
    currValue := none
    gettingValuePortion := false }

def append (state : ParseState) (ch : UInt8) : Option ParseState := do
  return { state with
    tmpBuffer := ← poke state.tmpBuffer state.tmpBufferOffset ch
    tmpBufferOffset := state.tmpBufferOffset + 1 }

/-- The body of the loop over `data`, with `i` as the next turn finds it. -/
def turn (data : Bytes) (i : Nat) (state : ParseState) : Option Turn := do
  let ch ← peek data i
  let ch := if ch = plus then space else ch
  if ch = equals then
    return .next (i + 1) (← startValue state)
  else if ch = ampersand then
    return .next (i + 1) (← startPair (← storePair state))
  else if ch = percent then
    if (data.length : Int) - 2 ≤ i then
      return .stop { state with tmpBuffer := ← poke state.tmpBuffer state.tmpBufferOffset 0 }
    else
      let high ← peek data (i + 1)
      let low ← peek data (i + 2)
      if !isXDigit high || !isXDigit low then return .invalid state
      else return .next (i + 3) (← append state (hexByte high low))
  else
    return .next (i + 1) (← append state ch)

inductive Outcome where
  | parsed (state : ParseState)
  | invalid (state : ParseState)

/-- `for (int i=0; i < (int) bodyLen; ++i)`, for at most the given number of turns. -/
def loop (data : Bytes) : Nat → Nat → ParseState → Option Outcome
  | 0, i, state => if i < data.length then none else some (.parsed state)
  | turns + 1, i, state =>
      if i < data.length then
        match turn data i state with
        | none => none
        | some (.next i state) => loop data turns i state
        | some (.stop state) => some (.parsed state)
        | some (.invalid state) => some (.invalid state)
      else some (.parsed state)

/-- What the caller gets: the reply, what was added to the body of the answer, and
the map as it was left. -/
structure PostResult where
  reply : HandleRequestReply
  body : Bytes
  postValues : StringMap

/-- `RETURN_ERROR` at a line of the source. -/
def returnError (line : Nat) (message : Bytes) (postValues : StringMap) : PostResult where
  reply := .replyInternalError
  body := bytes ("Error in " ++ toString line ++ ": ") ++ message
  postValues := postValues

def parsePost (requestBody : Option Bytes) (postValues : StringMap) : Option PostResult :=
  match requestBody with
  | none => some (returnError 560 (bytes "no body in post request") postValues)
  | some data =>
      let bodyLen := data.length
      if maxPostBodyLen ≤ bodyLen ∨ bodyLen < 1 then
        some (returnError 566 (bytes ("body len in post is bad (got:" ++
          toString (int32 bodyLen) ++ " max:" ++ toString (int32 maxPostBodyLen) ++ ")"))
          postValues)
      else
        let tmpBuffer := List.replicate (bodyLen + 1) (0 : UInt8)
        match loop data bodyLen 0 ⟨tmpBuffer, 0, none, false, postValues⟩ with
        | none => none
        | some (.invalid state) =>
            some (returnError 625 (bytes "invalid percent encoding") state.postValues)
        | some (.parsed state) =>
            (storePair state).map fun state => ⟨.replyOk, [], state.postValues⟩

end OClock.PostParser

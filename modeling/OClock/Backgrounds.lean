import OClock.Buffer
import OClock.DrawCalls
import OClock.Slots

/-!
The images and the messages behind the text of displayInternal.cpp: the tables, the posts that
fill them, the tickers of the animations and the loops that draw. `none` is an access outside
an array or a division by zero.
-/

namespace OClock.Backgrounds
open Text CommonUtils Fonts Images DisplayInternal DrawCalls Slots

abbrev backgroundImgCount : Nat := 100
abbrev backgroundMessageCount : Nat := 100
abbrev backgroundMessageMsgSize : Nat := 120

structure Animation where
  animationStep : UInt32
  animationStepPhase : UInt8
  animationStepPhaseValue : UInt8

/-- What an image and a message of the background have in common. -/
structure Background where
  enabled : Bool
  displayColor : UInt32
  x : Int
  y : Int
  animation : Animation

structure BackgroundImg extends Background where
  imgArt : ImgArt

structure BackgroundMessage extends Background where
  font : Font
  msg : Vector UInt8 backgroundMessageMsgSize

/-! A record of zeroes, as statics start and as `memset` leaves it. -/

def Background.zero : Background := ⟨false, 0, 0, 0, ⟨0, 0, 0⟩⟩
def BackgroundImg.zero : BackgroundImg := ⟨.zero, 0⟩
def BackgroundMessage.zero : BackgroundMessage := ⟨.zero, 0, Vector.replicate _ 0⟩

abbrev ImgTable := Vector BackgroundImg backgroundImgCount
abbrev MessageTable := Vector BackgroundMessage backgroundMessageCount

/-- The two tables. -/
structure Tables where
  backgroundMessage : MessageTable
  backgroundImg : ImgTable

/-- The animation of a slot is left as it was. -/
def resetImg (img : BackgroundImg) : BackgroundImg :=
  { img with enabled := false, displayColor := displayColorYellow, imgArt := imgArtLast, x := 0, y := 0 }

def resetMessage (message : BackgroundMessage) : BackgroundMessage :=
  { message with
    enabled := false
    font := font5x4
    displayColor := displayColorYellow
    msg := Vector.replicate _ 0
    x := 0
    y := 0 }

def initBackgroundImg (offset : Int) (table : ImgTable) : ImgTable := update resetImg offset table

def initBackgroundMessage (offset : Int) (table : MessageTable) : MessageTable :=
  update resetMessage offset table

/-! ### The posts -/

/-- What a pair of a form does. -/
inductive Effect (Item : Type) where
  | select (index : Int)
  | clearAll
  | edit (change : Item → Item)

/-- The slot that a form selects, the record it fills in, and the table. -/
structure Posting (Item : Type) (count : Nat) where
  index : Int
  item : Item
  table : Vector Item count

variable {Item : Type} {count : Nat}

def perform (reset : Item → Item) (posting : Posting Item count) :
    Effect Item → Posting Item count
  | .select index => { posting with index := index }
  | .clearAll => { posting with table := updateAll reset posting.table }
  | .edit change => { posting with item := change posting.item }

/-- A handler: the pairs in their order, and then the record is stored. -/
def handlePost (reset : Item → Item) (zero : Item) (effect : Bytes → Bytes → Effect Item)
    (postValues : StringMap) (table : Vector Item count) : Option (Vector Item count) :=
  let posting := postValues.toList.foldl
    (fun posting kvp => perform reset posting (effect (cText kvp.1) (cText kvp.2)))
    ⟨0, zero, table⟩
  store posting.table posting.index posting.item

def postedIndex (count : Nat) (value : Bytes) : Int :=
  let index := int32 (strtoul value)
  if index < 0 ∨ count ≤ index then 0 else index

def postedClear (value : Bytes) : Effect Item :=
  if parseBooleanValue value then .clearAll else .edit id

/-- The keys that come last in both handlers. -/
def place (key value : Bytes) (background : Background) : Background :=
  let number := strtoul value
  let animation := background.animation
  if names key "x" then { background with x := int32 number }
  else if names key "y" then { background with y := int32 number }
  else if names key "color" then { background with displayColor := UInt32.ofNat number }
  else if names key "animationStep" then
    { background with animation := { animation with animationStep := UInt32.ofNat number } }
  else if names key "animationPhase" then
    { background with animation := { animation with animationStepPhase := UInt8.ofNat number } }
  else if names key "animationPhaseValue" then
    { background with
      animation := { animation with animationStepPhaseValue := UInt8.ofNat number } }
  else background

def postedImgArt (value : Bytes) : ImgArt :=
  let imgArt := UInt32.ofNat (strtoul value)
  if imgArt < 0 ∨ imgArtLast ≤ imgArt then 0 else imgArt

def imgEffect (key value : Bytes) : Effect BackgroundImg :=
  if names key "index" then .select (postedIndex backgroundImgCount value)
  else if names key "enabled" then
    .edit fun img => { img with enabled := parseBooleanValue value }
  else if names key "clearAll" then postedClear value
  else if names key "imgArt" then .edit fun img => { img with imgArt := postedImgArt value }
  else .edit fun img => { img with toBackground := place key value img.toBackground }

def doHandleImgBackgroundPost (postValues : StringMap) : ImgTable → Option ImgTable :=
  handlePost resetImg .zero imgEffect postValues

/-- `snprintf` of a C string into a buffer, which keeps its other bytes. -/
def printInto {size : Nat} (text : Bytes) (buffer : Vector UInt8 size) : Vector UInt8 size :=
  let printed := (cText text).take (size - 1) ++ [0]
  .ofFn fun i => printed[i.val]?.getD (buffer.get i)

def postedText (surroundings : Surroundings) (value : Bytes) : Bytes :=
  let dictKey := value.drop msgDictPrefix.length
  if beginsCaseless value msgDictPrefix ∧ dictKey ≠ [] then surroundings.dictionary dictKey
  else value

def messageEffect (surroundings : Surroundings) (key value : Bytes) : Effect BackgroundMessage :=
  if names key "index" then .select (postedIndex backgroundMessageCount value)
  else if names key "msg" then
    .edit fun message => { message with msg := printInto (postedText surroundings value) message.msg }
  else if names key "enabled" then
    .edit fun message => { message with enabled := parseBooleanValue value }
  else if names key "clearAll" then postedClear value
  else if names key "font" then
    .edit fun message => { message with font := UInt32.ofNat (strtoul value) }
  else .edit fun message => { message with toBackground := place key value message.toBackground }

def doHandleMsgBackgroundPost (surroundings : Surroundings) (postValues : StringMap) :
    MessageTable → Option MessageTable :=
  handlePost resetMessage .zero (messageEffect surroundings) postValues

/-! ### The animations -/

/-- The tickers of the seven cadences. -/
structure Tickers where
  fast : UInt8
  ms100 : UInt8
  ms250 : UInt8
  ms500 : UInt8
  sec1 : UInt8
  sec5 : UInt8
  sec10 : UInt8

def Tickers.zero : Tickers := ⟨0, 0, 0, 0, 0, 0, 0⟩

/-- The ticker of a step, for the seven that have one. -/
def Tickers.ofStep (tickers : Tickers) (animationStep : UInt32) : Option UInt8 :=
  if animationStep = 1 then some tickers.fast
  else if animationStep = 2 then some tickers.ms100
  else if animationStep = 3 then some tickers.ms250
  else if animationStep = 4 then some tickers.ms500
  else if animationStep = 5 then some tickers.sec1
  else if animationStep = 6 then some tickers.sec5
  else if animationStep = 7 then some tickers.sec10
  else none

/-- `%`, which has no result for zero. -/
def remainder (dividend divisor : UInt8) : Option UInt8 :=
  if divisor = 0 then none else some (dividend % divisor)

def willAnimate (tickers : Tickers) (animation : Animation) : Option Bool :=
  if animation.animationStepPhase = 0 then some true
  else
    match tickers.ofStep animation.animationStep with
    | none => some true
    | some ticker => do
        return (← remainder ticker animation.animationStepPhase) == animation.animationStepPhaseValue

/-! ### The drawing -/

/-- A turn of a loop that draws: what is not enabled or not animated is passed over. -/
def drawBackground (tickers : Tickers) (background : Background) (call : Option DrawCall) :
    Option (List DrawCall) :=
  if background.enabled = false then some []
  else do
    if (← willAnimate tickers background.animation) = false then return []
    else return onBoards background.displayColor (← call)

def imgCall (img : BackgroundImg) : DrawCall :=
  .drawImage (getImgArtInfo img.imgArt) img.x img.y

def messageCall (message : BackgroundMessage) : Option DrawCall := do
  return .drawText (← Buffer.cString message.msg.toList 0) message.x message.y message.font

def drawImg (tickers : Tickers) (img : BackgroundImg) : Option (List DrawCall) :=
  drawBackground tickers img.toBackground (imgCall img)

def drawMessage (tickers : Tickers) (message : BackgroundMessage) : Option (List DrawCall) :=
  drawBackground tickers message.toBackground (messageCall message)

/-- One turn for each slot. -/
def eachSlot (turn : Item → Option (List DrawCall)) (table : Vector Item count) :
    Option (List DrawCall) := do
  let drawn ← (List.range count).mapM fun i => do turn (← table[i]?)
  return drawn.flatten

def drawBackgroundImgs (tickers : Tickers) (table : ImgTable) : Option (List DrawCall) :=
  eachSlot (drawImg tickers) table

def drawBackgroundMessages (tickers : Tickers) (table : MessageTable) : Option (List DrawCall) :=
  eachSlot (drawMessage tickers) table

theorem willAnimate_some (tickers : Tickers) (animation : Animation) :
    ∃ animated, willAnimate tickers animation = some animated := by
  unfold willAnimate
  split
  · exact ⟨true, rfl⟩
  · next phase =>
    cases tickers.ofStep animation.animationStep with
    | none => exact ⟨true, rfl⟩
    | some ticker =>
        refine ⟨ticker % animation.animationStepPhase == animation.animationStepPhaseValue, ?_⟩
        dsimp only
        rw [remainder, if_neg phase]
        rfl

/-- A record is drawn when it is enabled and its animation says so. -/
theorem drawBackground_eq {tickers : Tickers} {background : Background} {animated : Bool}
    (animates : willAnimate tickers background.animation = some animated) (call : DrawCall) :
    drawBackground tickers background (some call) =
      some (if background.enabled && animated then onBoards background.displayColor call
        else []) := by
  unfold drawBackground
  rw [animates]
  cases background.enabled <;> cases animated <;> rfl

/-- What `initDisplay` makes of the tables. -/
def Tables.initial : Tables where
  backgroundMessage := updateAll resetMessage (Vector.replicate _ .zero)
  backgroundImg := updateAll resetImg (Vector.replicate _ .zero)

end OClock.Backgrounds

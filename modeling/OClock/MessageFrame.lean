import OClock.BackgroundTables

/-!
The frame that modeMessageFast draws before it moves the message on.
-/

namespace OClock.MessageFrame
open CommonUtils Fonts DisplayInternal DrawCalls Backgrounds BackgroundTables

/-- A text that bounces is kept on the screen. -/
def getAdjustedTextY (font : Font) (wantedY : Int) : Int :=
  if wantedY < 0 then 0
  else
    let fontHeight := getFontHeight font
    if comSize ≤ fontHeight + wantedY then comSize - fontHeight else wantedY

def textX (data : ModeMessageData) : Int :=
  if data.incrementX then outSize - data.currX else data.currX

def textY (data : ModeMessageData) : Int :=
  let wantedY := data.currYFactor.tdiv incrementYScale
  if data.incrementY ≠ 0 then getAdjustedTextY data.font wantedY else wantedY

/-- The board of a turn of the loop over the boards. -/
def textBoard (displayColor : UInt32) (currColorEffect i : Int) : Int :=
  if displayColor = displayColorGreen then 0
  else if displayColor = displayColorRed then 1
  else if displayColor = displayColorYellow then i
  else if currColorEffect = 2 then i
  else currColorEffect

/-- There is a second turn for yellow, also when it is its turn in the alternation. -/
def textBoards (displayColor : UInt32) (currColorEffect : Int) : List Int :=
  if (displayColor = displayColorAlternate ∧ currColorEffect = 2) ∨
      displayColor = displayColorYellow then
    [textBoard displayColor currColorEffect 0, textBoard displayColor currColorEffect 1]
  else [textBoard displayColor currColorEffect 0]

def textCall (data : ModeMessageData) : DrawCall :=
  .drawText data.msg (textX data) (textY data) data.font

/-- The text, on its boards; nothing while it is blanked. -/
def textCalls (modeMessageDataColorEffect : Int) (data : ModeMessageData) : List DrawCall :=
  if data.blinkBlankInEffect then []
  else (textBoards data.displayColor (modeMessageDataColorEffect.tmod 3)).flatMap fun boardId =>
    [.drawTarget boardId, textCall data]

def confettiPixels : Nat → Random → List DrawCall × Random
  | 0, random => ([], random)
  | turns + 1, random =>
      let x := getRandomNumber random 128
      let y := getRandomNumber x.2 16
      let more := confettiPixels turns y.2
      (.setPixel x.1.toNat y.1.toNat :: more.1, more.2)

def confettiBoard (confetti boardId : Int) (random : Random) : List DrawCall × Random :=
  let yy := getRandomNumber random (UInt32.ofInt confetti)
  let pixels := confettiPixels (yy.1.toNat + 1) yy.2
  (.drawTarget boardId :: pixels.1, pixels.2)

def confettiCalls (confetti : Int) (random : Random) : List DrawCall :=
  if 0 < confetti then
    let green := confettiBoard confetti 0 random
    green.1 ++ (confettiBoard confetti 1 green.2).1
  else []

/-- All that is drawn at a tick, from `clearAll` to `renderAll`. -/
def messageFrame (tickers : Tickers) (tables : Tables) (random : Random) (display : Display) :
    Option (List DrawCall) := do
  let data := display.modeMessageData
  let messages ← drawBackgroundMessages tickers tables.backgroundMessage
  let images ← drawBackgroundImgs tickers tables.backgroundImg
  return .clearAll :: textCalls display.modeMessageDataColorEffect data ++ messages ++ images ++
    confettiCalls data.confetti random ++ [.renderAll]

theorem messageFrame_some (tickers : Tickers) {tables : Tables} (wellFormed : WellFormed tables)
    (random : Random) (display : Display) :
    ∃ calls, messageFrame tickers tables random display = some calls := by
  obtain ⟨messages, written, _⟩ := messages_some tickers wellFormed.texts
  obtain ⟨images, painted, _⟩ := images_some tickers tables.backgroundImg
  unfold messageFrame
  rw [written, painted]
  exact ⟨_, rfl⟩

end OClock.MessageFrame

import OClock.DisplayPanel
import OClock.DrawRange

/-!
The sums of `int` that a fast tick of the message evaluates: in modeMessageFast itself, in
getAdjustedTextY, and in all that the frame draws.
-/

namespace OClock.MessageSums
open Text CommonUtils Fonts DisplayInternal DrawCalls Backgrounds MessageFrame MessageRun
open TextBounds (fontTables)
open DisplayPanel ExactSums DrawSums

/-- `getAdjustedTextY` -/
def adjustedSums (font : Font) (wantedY : Int) : List Int :=
  if wantedY < 0 then []
  else
    (getFontHeight font + wantedY) ::
      if comSize ≤ getFontHeight font + wantedY then [comSize - getFontHeight font] else []

/-- What the driver of the matrix evaluates for a call. -/
def callSums (arrays : FontArrays) : DrawCall → List Int
  | .drawText text x y font => textSums (fontTables arrays font).plain (text ++ [0]) x y 1
  | .drawImage imgArtInfo x y => imageSums (imgArtInfo.source x y).image
  | .clearAll | .drawTarget _ | .setPixel .. | .renderAll => []

/-- `BUFFER_BOARD(boardId+1)` -/
def boardSums (boardId : Int) : List Int := [boardId + 1, boardId + 1 - 1]

/-- One turn of the loop over the boards. -/
def textTurnSums (arrays : FontArrays) (data : ModeMessageData) (boardId : Int) : List Int :=
  boardSums boardId ++
    (if data.incrementY ≠ 0 then
      adjustedSums data.font (data.currYFactor.tdiv incrementYScale)
    else []) ++
    (if data.incrementX then [outSize - data.currX] else []) ++ callSums arrays (textCall data)

/-- The loop counts its turns unless the first one leaves it. -/
def textLoopSums (arrays : FontArrays) (modeMessageDataColorEffect : Int)
    (data : ModeMessageData) : List Int :=
  if data.blinkBlankInEffect then []
  else
    let boards := textBoards data.displayColor (modeMessageDataColorEffect.tmod 3)
    boards.flatMap (textTurnSums arrays data) ++ if boards.length = 2 then [1, 2] else []

def confettiBoardSums (confetti boardId : Int) (random : Random) : List Int :=
  let yy := getRandomNumber random (UInt32.ofInt confetti)
  boardSums boardId ++ (List.range (yy.1.toNat + 1)).map (fun (xx : Nat) => (xx : Int) + 1) ++
    [boardId + 1]

def confettiSums (confetti : Int) (random : Random) : List Int :=
  if 0 < confetti then
    confettiBoardSums confetti 0 random ++
      confettiBoardSums confetti 1 (confettiBoard confetti 0 random).2
  else []

/-- The calls of the backgrounds. The tables are always well formed, so that there are some. -/
def backgroundCalls (tickers : Tickers) (tables : Tables) : List DrawCall :=
  (drawBackgroundMessages tickers tables.backgroundMessage).getD [] ++
    (drawBackgroundImgs tickers tables.backgroundImg).getD []

/-- `if (incrementX && ++currX >= (wd + OUT_SIZE))`, and what it guards. -/
def scrollSums (display : Display) : List Int :=
  let data := display.modeMessageData
  if data.incrementX then
    (data.currX + 1) :: (data.wd + outSize) ::
      if data.wd + outSize ≤ data.currX + 1 then
        (display.modeMessageDataColorEffect + 1) ::
          (if data.alternateFont then
            widthSums (getFontWidth (getNextFont data.font)) 1 data.msg 0
          else []) ++
          if data.repeats ≠ repeatForever then [data.repeats - 1] else []
      else []
  else []

def bounceSums (display : Display) : List Int :=
  let data := display.modeMessageData
  if data.incrementY ≠ 0 then
    let currYFactor := data.currYFactor + data.incrementY
    let maxY := comSize - getFontHeight data.font
    currYFactor :: maxY ::
      if data.incrementY < 0 ∧ currYFactor < 0 then [-data.incrementY]
      else if 0 < data.incrementY then
        (maxY * incrementYScale) ::
          if maxY * incrementYScale ≤ currYFactor then
            (-data.incrementY) ::
              if data.incrementX then [] else [display.modeMessageDataColorEffect + 1]
          else []
      else []
  else []

/-- `modeMessageFast`, which does not bounce once the callback has been called. -/
def fastSums (arrays : FontArrays) (tickers : Tickers) (tables : Tables) (random : Random)
    (display : Display) : List Int :=
  let data := display.modeMessageData
  let scrolled := scroll display
  textLoopSums arrays display.modeMessageDataColorEffect data ++
    (backgroundCalls tickers tables).flatMap (callSums arrays) ++
    confettiSums data.confetti random ++ scrollSums display ++
    if scrolled.1 && scrolled.2.modeMessageData.completedCallback.isSome then []
    else bounceSums scrolled.2

/-- What a tick evaluates for the message. -/
def tickSums (arrays : FontArrays) (panel : Panel) (tick : Tick) : List Int :=
  if tick.1 = .fast ∧ getDisplayMode panel.scene.display = .message then
    fastSums arrays (countTick panel.tickers .fast) panel.tables tick.2.random panel.scene.display
  else []

/-- What measuring the text evaluates when the message is entered. -/
def initSums (data : ModeMessageData) : List Int :=
  widthSums (getFontWidth data.font) 1 data.msg 0

end OClock.MessageSums

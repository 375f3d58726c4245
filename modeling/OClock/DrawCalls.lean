import OClock.DisplayInternal
import OClock.Images

/-!
The calls of the matrix driver that draw a frame of the display, and the same calls with every
access checked.
-/

namespace OClock.DrawCalls
open Ht1632 Images TextBounds Trace
open DisplayInternal (displayColorYellow)

/-- A text is a C string, given without its NUL. -/
inductive DrawCall where
  | clearAll
  | drawTarget (targetBuffer : Int)
  | drawText (text : List UInt8) (x y : Int) (font : Fonts.Font)
  | drawImage (imgArtInfo : ImgArtInfo) (x y : Int)
  | setPixel (locX locY : Int)
  | renderAll

def DrawCall.method (arrays : Fonts.FontArrays) : DrawCall → Method
  | .clearAll => Ht1632.clearAll
  | .drawTarget targetBuffer => Ht1632.drawTarget targetBuffer
  | .drawText text x y font =>
      Ht1632.drawText (text ++ [0]) x y (fontTables arrays font).plain 1
  | .drawImage imgArtInfo x y => Ht1632.drawImage (imgArtInfo.source x y).image
  | .setPixel locX locY => Ht1632.setPixel locX locY true
  | .renderAll => Ht1632.renderAll

/-- What a call leaves on the boards. -/
def DrawCall.draw (arrays : Fonts.FontArrays) (call : DrawCall) (display : Display) : Display :=
  final observe display (call.method arrays display)

/-- A call whose texts and images are read and drawn with checked accesses. -/
def DrawCall.drawAt (arrays : Fonts.FontArrays) (call : DrawCall) (display : Display) :
    Option Display :=
  match call with
  | .drawText text x y font => drawTextAt (fontTables arrays font) (text ++ [0]) x y 1 display
  | .drawImage imgArtInfo x y => drawImageAt (imgArtInfo.source x y) display
  | other => some (other.draw arrays display)

def drawAll (arrays : Fonts.FontArrays) (calls : List DrawCall) (display : Display) : Display :=
  calls.foldl (fun display call => call.draw arrays display) display

def drawAllAt (arrays : Fonts.FontArrays) (calls : List DrawCall) (display : Display) :
    Option Display :=
  calls.foldlM (fun display call => call.drawAt arrays display) display

/-- Only images that the display knows are drawn, and only boards are selected. -/
def DrawCall.Proper : DrawCall → Prop
  | .drawImage imgArtInfo _ _ => imgArtInfo ∈ imgArts
  | .drawTarget targetBuffer => targetBuffer = 0 ∨ targetBuffer = 1
  | .clearAll | .drawText .. | .setPixel .. | .renderAll => True

/-- A proper call accesses every array inside its bounds. -/
theorem drawAt_some (arrays : Fonts.FontArrays) {call : DrawCall} (proper : call.Proper)
    (display : Display) : call.drawAt arrays display = some (call.draw arrays display) := by
  cases call with
  | drawText text x y font =>
      exact drawTextAt_some (fontTables_complete arrays font) (text ++ [0]) x display
  | drawImage imgArtInfo x y => exact drawImageAt_some (member_fits proper x y) display
  | clearAll => rfl
  | drawTarget targetBuffer => rfl
  | setPixel locX locY => rfl
  | renderAll => rfl

theorem drawAllAt_some (arrays : Fonts.FontArrays) {calls : List DrawCall}
    (proper : ∀ call ∈ calls, call.Proper) (display : Display) :
    drawAllAt arrays calls display = some (drawAll arrays calls display) :=
  foldlM_some calls (fun display call inside => drawAt_some arrays (proper call inside) display)
    display

/-! ### Boards -/

def displayColorGreen : UInt32 := 0
def displayColorRed : UInt32 := 1

/-- The board of a turn of the loop over the boards in the background. -/
def boardId (displayColor : UInt32) (j : Int) : Int :=
  if displayColor = displayColorGreen then 0
  else if displayColor = displayColorRed then 1
  else j

/-- The boards that the loop selects: it goes on to the second turn for yellow only. -/
def boards (displayColor : UInt32) : List Int :=
  if displayColor ≠ displayColorYellow then [boardId displayColor 0]
  else [boardId displayColor 0, boardId displayColor 1]

/-- A call made on each board of a color. -/
def onBoards (displayColor : UInt32) (call : DrawCall) : List DrawCall :=
  (boards displayColor).flatMap fun boardId => [.drawTarget boardId, call]

theorem onBoards_proper (displayColor : UInt32) {call : DrawCall} (proper : call.Proper) :
    ∀ other ∈ onBoards displayColor call, other.Proper := by
  have selected : ∀ board ∈ boards displayColor, board = 0 ∨ board = 1 := by
    intro board inside
    unfold boards boardId at inside
    split at inside
    · split at inside
      · exact Or.inl (List.mem_singleton.mp inside)
      · split at inside
        · exact Or.inr (List.mem_singleton.mp inside)
        · exact Or.inl (List.mem_singleton.mp inside)
    · next yellow =>
      rw [not_not] at yellow
      rw [yellow] at inside
      simpa [displayColorYellow, displayColorGreen, displayColorRed] using inside
  intro other inside
  obtain ⟨board, member, listed⟩ := List.mem_flatMap.mp inside
  rcases List.mem_pair.mp listed with rfl | rfl
  · exact selected board member
  · exact proper

theorem onBoards_nonempty (displayColor : UInt32) (call : DrawCall) :
    onBoards displayColor call ≠ [] := by
  unfold onBoards boards
  split <;> exact List.cons_ne_nil _ _

end OClock.DrawCalls

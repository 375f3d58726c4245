import OClock.TextBounds

/-!
The images of images.h that the display can show, and how getImgArtInfo selects them. An
`ImgArt` is any number that fits the enumeration's type; one outside it selects the first image.
-/

namespace OClock.Images
open Ht1632 TextBounds

def imgMail : List UInt8 := [
  0b1111, 0b1111, 0b0011, 0b1000, 0b0101, 0b1000, 0b1001, 0b1000, 0b0001, 0b1001, 0b0001, 0b1010,
  0b0001, 0b1010, 0b0001, 0b1001, 0b1001, 0b1000, 0b0101, 0b1000, 0b0011, 0b1000, 0b1111, 0b1111]

def imgMusic : List UInt8 := [
  0b0000, 0b0100, 0b0000, 0b1110, 0b1111, 0b0111, 0b0011, 0b0000, 0b0011, 0b0000, 0b0011, 0b0010,
  0b0011, 0b0111, 0b1111, 0b0011]

def imgMusicnote : List UInt8 := [
  0b0000, 0b0010, 0b0000, 0b0111, 0b1111, 0b0011, 0b0010, 0b0000]

def imgHeart : List UInt8 := [
  0b1110, 0b0000, 0b1111, 0b0001, 0b1111, 0b0011, 0b1111, 0b0111, 0b1110, 0b1111, 0b1111, 0b0111,
  0b1111, 0b0011, 0b1111, 0b0001, 0b1110, 0b0000]

def imgSpeakerA : List UInt8 := [
  0b1000, 0b0001, 0b1000, 0b0001, 0b1100, 0b0011, 0b0010, 0b0100, 0b0101, 0b1010, 0b1000, 0b0001]

def imgSpeakerB : List UInt8 := [
  0b1000, 0b0001, 0b1000, 0b0001, 0b1100, 0b0011, 0b0010, 0b0100, 0b1101, 0b1011, 0b0000, 0b0000]

def imgSmiley : List UInt8 := [
  0b1100, 0b1111, 0b0000, 0b0010, 0b0000, 0b0001, 0b0001, 0b0100, 0b0010, 0b1101, 0b1001, 0b0010,
  0b0001, 0b1000, 0b0010, 0b1101, 0b1001, 0b0010, 0b0001, 0b0100, 0b0010, 0b0010, 0b0000, 0b0001,
  0b1100, 0b1111, 0b0000]

def imgWink : List UInt8 := [
  0b1100, 0b1111, 0b0000, 0b0010, 0b0000, 0b0001, 0b0001, 0b0000, 0b0010, 0b1101, 0b0001, 0b0010,
  0b0001, 0b1000, 0b0010, 0b0001, 0b0001, 0b0010, 0b0001, 0b0001, 0b0010, 0b0010, 0b0000, 0b0001,
  0b1100, 0b1111, 0b0000]

def imgBigHeart : List UInt8 := [
  0b1100, 0b0001, 0b0000, 0b1110, 0b0011, 0b0000, 0b1111, 0b0111, 0b0000, 0b1111, 0b1111, 0b0000,
  0b1110, 0b1111, 0b0001, 0b1111, 0b1111, 0b0000, 0b1111, 0b0111, 0b0000, 0b1110, 0b0011, 0b0000,
  0b1100, 0b0001, 0b0000]

def imgCat : List UInt8 := [
  0b1111, 0b1111, 0b0000, 0b0110, 0b0000, 0b0001, 0b0010, 0b0001, 0b0010, 0b0010, 0b1000, 0b0010,
  0b0010, 0b1100, 0b0010, 0b0010, 0b1000, 0b0010, 0b0010, 0b0001, 0b0010, 0b0110, 0b0000, 0b0001,
  0b1111, 0b1111, 0b0000, 0b0000, 0b0000, 0b0000]

def imgOwls : List UInt8 := [
  0b0000, 0b1100, 0b0000, 0b1111, 0b1101, 0b0000, 0b0010, 0b1110, 0b0000, 0b1010, 0b1110, 0b0000,
  0b0010, 0b1110, 0b0000, 0b1111, 0b1101, 0b0000, 0b0000, 0b1100, 0b0000, 0b1111, 0b1101, 0b0000,
  0b0010, 0b1110, 0b0000, 0b1010, 0b1110, 0b0000, 0b0010, 0b1110, 0b0000, 0b1111, 0b1101, 0b0000,
  0b0000, 0b1100, 0b0000, 0b1111, 0b1101, 0b0000, 0b0010, 0b1110, 0b0000, 0b1010, 0b1110, 0b0000,
  0b0010, 0b1110, 0b0000, 0b1111, 0b1101, 0b0000, 0b0000, 0b1100, 0b0000]

def img8x8 : List UInt8 := [
  0b1111, 0b1111, 0b1111, 0b1111, 0b1111, 0b1111, 0b1111, 0b1111, 0b1111, 0b1111, 0b1111, 0b1111,
  0b1111, 0b1111, 0b1111, 0b1111]

def imgStickman1 : List UInt8 := [
  0b0000, 0b0000, 0b0000, 0b0000, 0b0000, 0b0010, 0b0000, 0b0000, 0b0000, 0b0100, 0b0000, 0b0000,
  0b0000, 0b1000, 0b0000, 0b1000, 0b1110, 0b1000, 0b0000, 0b1110, 0b0101, 0b1001, 0b0000, 0b0001,
  0b0001, 0b1111, 0b1111, 0b0000, 0b0101, 0b1001, 0b0000, 0b0001, 0b1110, 0b0000, 0b0001, 0b1110,
  0b0000, 0b0000, 0b0101, 0b1000, 0b0000, 0b0000, 0b0110, 0b0000, 0b0000, 0b0000, 0b0000, 0b0000]

def imgStickman2 : List UInt8 := [
  0b0000, 0b0100, 0b0000, 0b0000, 0b0000, 0b1000, 0b0000, 0b0000, 0b0000, 0b1000, 0b0000, 0b0000,
  0b0000, 0b1000, 0b0000, 0b1000, 0b1110, 0b1000, 0b0000, 0b1110, 0b0101, 0b1001, 0b0000, 0b0001,
  0b0001, 0b1111, 0b1111, 0b0000, 0b0101, 0b1001, 0b0000, 0b0001, 0b1110, 0b0000, 0b0001, 0b1110,
  0b0000, 0b0000, 0b0001, 0b1000, 0b0000, 0b0000, 0b0010, 0b0000, 0b0000, 0b0000, 0b0110, 0b0000]

def imgStickman3 : List UInt8 := [
  0b0000, 0b0000, 0b0000, 0b0000, 0b0000, 0b0000, 0b0110, 0b0000, 0b0000, 0b0000, 0b0101, 0b0000,
  0b0000, 0b1000, 0b0000, 0b1000, 0b1110, 0b1000, 0b0000, 0b1110, 0b0101, 0b1001, 0b0000, 0b0001,
  0b0001, 0b1111, 0b1111, 0b0000, 0b0101, 0b1001, 0b0000, 0b1111, 0b1110, 0b0000, 0b0001, 0b1000,
  0b0000, 0b0000, 0b0001, 0b0000, 0b0000, 0b1000, 0b0000, 0b0000, 0b0000, 0b0100, 0b0000, 0b0000]

def imgStickman4 : List UInt8 := [
  0b0000, 0b0000, 0b0000, 0b0000, 0b0000, 0b0000, 0b0000, 0b0000, 0b0000, 0b0000, 0b0100, 0b0000,
  0b0000, 0b0000, 0b0110, 0b0000, 0b1110, 0b1000, 0b0001, 0b1000, 0b0101, 0b1001, 0b0000, 0b1111,
  0b0001, 0b1111, 0b1111, 0b0000, 0b0101, 0b1001, 0b0000, 0b1111, 0b1110, 0b0000, 0b0001, 0b1000,
  0b0000, 0b0000, 0b0001, 0b0000, 0b0000, 0b1110, 0b0000, 0b0000, 0b0000, 0b0000, 0b0000, 0b0000]

def imgWave1 : List UInt8 := [
  0b0000, 0b0000, 0b0100, 0b0000, 0b0000, 0b0000, 0b0010, 0b0000, 0b1110, 0b0000, 0b0001, 0b0000,
  0b0001, 0b1001, 0b1000, 0b1111, 0b0001, 0b1111, 0b0111, 0b0000, 0b0001, 0b1001, 0b1000, 0b1111,
  0b1110, 0b1000, 0b0000, 0b0000, 0b0000, 0b1000, 0b0000, 0b0000, 0b0000, 0b1000, 0b0000, 0b0000]

def imgWave2 : List UInt8 := [
  0b0000, 0b0000, 0b0100, 0b0000, 0b0000, 0b0000, 0b0010, 0b0000, 0b1110, 0b0000, 0b0001, 0b0000,
  0b0001, 0b1001, 0b1000, 0b1111, 0b0001, 0b1111, 0b0111, 0b0000, 0b0001, 0b1001, 0b1000, 0b1111,
  0b1110, 0b1000, 0b0000, 0b0000, 0b0000, 0b0100, 0b0000, 0b0000, 0b0000, 0b0100, 0b0000, 0b0000]

def imgWave3 : List UInt8 := [
  0b0000, 0b0000, 0b0100, 0b0000, 0b0000, 0b0000, 0b0010, 0b0000, 0b1110, 0b0000, 0b0001, 0b0000,
  0b0001, 0b1001, 0b1000, 0b1111, 0b0001, 0b1111, 0b0111, 0b0000, 0b0001, 0b1001, 0b1000, 0b1111,
  0b1110, 0b0100, 0b0000, 0b0000, 0b0000, 0b0100, 0b0000, 0b0000, 0b0000, 0b0010, 0b0000, 0b0000]

def imgWave4 : List UInt8 := [
  0b0000, 0b0000, 0b0100, 0b0000, 0b0000, 0b0000, 0b0010, 0b0000, 0b1110, 0b0000, 0b0001, 0b0000,
  0b0001, 0b1001, 0b1000, 0b1111, 0b0001, 0b1111, 0b0111, 0b0000, 0b0001, 0b1001, 0b1000, 0b1111,
  0b1110, 0b0100, 0b0000, 0b0000, 0b0000, 0b0010, 0b0000, 0b0000, 0b0000, 0b0001, 0b0000, 0b0000]

def imgJump1 : List UInt8 := [
  0b0000, 0b0000, 0b0100, 0b0000, 0b0000, 0b0000, 0b0010, 0b0000, 0b1110, 0b0000, 0b0001, 0b0000,
  0b0001, 0b1001, 0b1000, 0b1111, 0b0001, 0b1111, 0b0111, 0b0000, 0b0001, 0b1001, 0b1000, 0b1111,
  0b1110, 0b0000, 0b0001, 0b0000, 0b0000, 0b0000, 0b0010, 0b0000, 0b0000, 0b0000, 0b0100, 0b0000]

def imgJump2 : List UInt8 := [
  0b0000, 0b0000, 0b0010, 0b0000, 0b0000, 0b0000, 0b0001, 0b0000, 0b1110, 0b1000, 0b0000, 0b1110,
  0b0001, 0b1001, 0b1000, 0b0001, 0b0001, 0b1111, 0b0111, 0b0000, 0b0001, 0b1001, 0b1000, 0b0001,
  0b1110, 0b1000, 0b0000, 0b1110, 0b0000, 0b0000, 0b0001, 0b0000, 0b0000, 0b0000, 0b0010, 0b0000]

def imgJump3 : List UInt8 := [
  0b0000, 0b1000, 0b0000, 0b1000, 0b0000, 0b1000, 0b0000, 0b0100, 0b1110, 0b1000, 0b0000, 0b0010,
  0b0001, 0b1001, 0b1000, 0b0001, 0b0001, 0b1111, 0b0111, 0b0000, 0b0001, 0b1001, 0b1000, 0b0001,
  0b1110, 0b1000, 0b0000, 0b0010, 0b0000, 0b1000, 0b0000, 0b0100, 0b0000, 0b1000, 0b0000, 0b1000]

def imgJump4 : List UInt8 := [
  0b0000, 0b0001, 0b0000, 0b0000, 0b0000, 0b0010, 0b0000, 0b0001, 0b1110, 0b0100, 0b0000, 0b0010,
  0b0001, 0b1001, 0b1000, 0b0011, 0b0001, 0b1111, 0b0111, 0b0000, 0b0001, 0b1001, 0b1000, 0b0011,
  0b1110, 0b0100, 0b0000, 0b0010, 0b0000, 0b0010, 0b0000, 0b0001, 0b0000, 0b0001, 0b0000, 0b0000]

def imgUp : List UInt8 := [
  0b0100, 0b0010, 0b0001, 0b0010, 0b0100]

def imgDown : List UInt8 := [
  0b0001, 0b0010, 0b0100, 0b0010, 0b0001]

def imgArrowUp1 : List UInt8 := [
  0b0001, 0b0001, 0b1000, 0b0000, 0b0100, 0b0000, 0b0010, 0b0000, 0b0100, 0b0000, 0b1000, 0b0000,
  0b0001, 0b0001]

def imgArrowUp2 : List UInt8 := [
  0b1000, 0b0000, 0b0100, 0b0000, 0b0010, 0b0000, 0b0001, 0b0001, 0b0010, 0b0000, 0b0100, 0b0000,
  0b1000, 0b0000]

def imgArrowUp3 : List UInt8 := [
  0b0100, 0b0000, 0b0010, 0b0000, 0b0001, 0b0001, 0b1000, 0b0000, 0b0001, 0b0001, 0b0010, 0b0000,
  0b0100, 0b0000]

def imgArrowUp4 : List UInt8 := [
  0b0010, 0b0000, 0b0001, 0b0001, 0b1000, 0b0000, 0b0100, 0b0000, 0b1000, 0b0000, 0b0001, 0b0001,
  0b0010, 0b0000]

def imgArrowDown1 : List UInt8 := [
  0b0001, 0b0001, 0b0010, 0b0000, 0b0100, 0b0000, 0b1000, 0b0000, 0b0100, 0b0000, 0b0010, 0b0000,
  0b0001, 0b0001]

def imgArrowDown2 : List UInt8 := [
  0b0010, 0b0000, 0b0100, 0b0000, 0b1000, 0b0000, 0b0001, 0b0001, 0b1000, 0b0000, 0b0100, 0b0000,
  0b0010, 0b0000]

def imgArrowDown3 : List UInt8 := [
  0b0100, 0b0000, 0b1000, 0b0000, 0b0001, 0b0001, 0b0010, 0b0000, 0b0001, 0b0001, 0b1000, 0b0000,
  0b0100, 0b0000]

def imgArrowDown4 : List UInt8 := [
  0b1000, 0b0000, 0b0001, 0b0001, 0b0010, 0b0000, 0b0100, 0b0000, 0b0010, 0b0000, 0b0001, 0b0001,
  0b1000, 0b0000]

def imgArrow2Up1 : List UInt8 := [
  0b0001, 0b0001, 0b1000, 0b0000, 0b0100, 0b0000, 0b1000, 0b0000, 0b0001, 0b0001]

def imgArrow2Up2 : List UInt8 := [
  0b1000, 0b0000, 0b0100, 0b0000, 0b0010, 0b0000, 0b0100, 0b0000, 0b1000, 0b0000]

def imgArrow2Up3 : List UInt8 := [
  0b0100, 0b0000, 0b0010, 0b0000, 0b0001, 0b0001, 0b0010, 0b0000, 0b0100, 0b0000]

def imgArrow2Up4 : List UInt8 := [
  0b0010, 0b0000, 0b0001, 0b0001, 0b1000, 0b0000, 0b0001, 0b0001, 0b0010, 0b0000]

def imgArrow2Down1 : List UInt8 := [
  0b0001, 0b0001, 0b0010, 0b0000, 0b0100, 0b0000, 0b0010, 0b0000, 0b0001, 0b0001]

def imgArrow2Down2 : List UInt8 := [
  0b0010, 0b0000, 0b0100, 0b0000, 0b1000, 0b0000, 0b0100, 0b0000, 0b0010, 0b0000]

def imgArrow2Down3 : List UInt8 := [
  0b0100, 0b0000, 0b1000, 0b0000, 0b0001, 0b0001, 0b1000, 0b0000, 0b0100, 0b0000]

def imgArrow2Down4 : List UInt8 := [
  0b1000, 0b0000, 0b0001, 0b0001, 0b0010, 0b0000, 0b0001, 0b0001, 0b1000, 0b0000]

def imgCar1 : List UInt8 := [
  0b0000, 0b0011, 0b1000, 0b0011, 0b1000, 0b0100, 0b1100, 0b1010, 0b1010, 0b0100, 0b1001, 0b0011,
  0b1001, 0b0011, 0b1111, 0b0011, 0b1001, 0b0011, 0b1001, 0b0100, 0b1001, 0b1010, 0b1011, 0b0100,
  0b1110, 0b0011, 0b0000, 0b0011]

def imgCar2 : List UInt8 := [
  0b0000, 0b0110, 0b0000, 0b0111, 0b0000, 0b0101, 0b1000, 0b1011, 0b0100, 0b0101, 0b0010, 0b0111,
  0b0010, 0b0111, 0b1110, 0b0111, 0b0010, 0b0111, 0b0010, 0b0101, 0b0010, 0b1011, 0b0110, 0b0101,
  0b1100, 0b0111, 0b0000, 0b0110]

def imgBlank : List UInt8 := [
  0b0000, 0b0000, 0b0000, 0b0000, 0b0000, 0b0000, 0b0000, 0b0000, 0b0000, 0b0000, 0b0000, 0b0000,
  0b0000, 0b0000, 0b0000, 0b0000, 0b0000, 0b0000, 0b0000, 0b0000, 0b0000, 0b0000, 0b0000, 0b0000,
  0b0000, 0b0000, 0b0000, 0b0000, 0b0000, 0b0000, 0b0000, 0b0000, 0b0000, 0b0000, 0b0000, 0b0000,
  0b0000, 0b0000, 0b0000, 0b0000, 0b0000, 0b0000, 0b0000, 0b0000, 0b0000, 0b0000, 0b0000, 0b0000,
  0b0000, 0b0000, 0b0000, 0b0000, 0b0000, 0b0000, 0b0000, 0b0000, 0b0000, 0b0000, 0b0000, 0b0000,
  0b0000, 0b0000, 0b0000, 0b0000]

/-- What `getImgArtInfo` tells of an image. -/
structure ImgArtInfo where
  img : List UInt8
  width : UInt8
  height : UInt8

abbrev ImgArt := UInt32

def imgArtUp21 : ImgArt := 34
def imgArtDown21 : ImgArt := 38
def imgArtCar1 : ImgArt := 42
def imgArtBlank : ImgArt := 44
def imgArtLast : ImgArt := 45

/-- The image of each number below `imgArtLast`, in the order of the enumeration. -/
def imgArts : List ImgArtInfo := [
  ⟨imgSmiley, 9, 10⟩,
  ⟨imgWink, 9, 10⟩,
  ⟨imgBigHeart, 9, 10⟩,
  ⟨imgCat, 9, 10⟩,
  ⟨imgOwls, 19, 9⟩,
  ⟨imgMail, 12, 8⟩,
  ⟨imgMusic, 8, 8⟩,
  ⟨imgMusicnote, 4, 7⟩,
  ⟨imgHeart, 9, 8⟩,
  ⟨imgSpeakerA, 6, 8⟩,
  ⟨imgSpeakerB, 6, 8⟩,
  ⟨img8x8, 8, 8⟩,
  ⟨imgStickman1, 12, 16⟩,
  ⟨imgStickman2, 12, 16⟩,
  ⟨imgStickman3, 12, 16⟩,
  ⟨imgStickman4, 12, 16⟩,
  ⟨imgWave1, 9, 16⟩,
  ⟨imgWave2, 9, 16⟩,
  ⟨imgWave3, 9, 16⟩,
  ⟨imgWave4, 9, 16⟩,
  ⟨imgJump1, 9, 16⟩,
  ⟨imgJump2, 9, 16⟩,
  ⟨imgJump3, 9, 16⟩,
  ⟨imgJump4, 9, 16⟩,
  ⟨imgUp, 5, 4⟩,
  ⟨imgDown, 5, 4⟩,
  ⟨imgArrowUp1, 7, 5⟩,
  ⟨imgArrowUp2, 7, 5⟩,
  ⟨imgArrowUp3, 7, 5⟩,
  ⟨imgArrowUp4, 7, 5⟩,
  ⟨imgArrowDown1, 7, 5⟩,
  ⟨imgArrowDown2, 7, 5⟩,
  ⟨imgArrowDown3, 7, 5⟩,
  ⟨imgArrowDown4, 7, 5⟩,
  ⟨imgArrow2Up1, 5, 5⟩,
  ⟨imgArrow2Up2, 5, 5⟩,
  ⟨imgArrow2Up3, 5, 5⟩,
  ⟨imgArrow2Up4, 5, 5⟩,
  ⟨imgArrow2Down1, 5, 5⟩,
  ⟨imgArrow2Down2, 5, 5⟩,
  ⟨imgArrow2Down3, 5, 5⟩,
  ⟨imgArrow2Down4, 5, 5⟩,
  ⟨imgCar1, 14, 8⟩,
  ⟨imgCar2, 14, 8⟩,
  ⟨imgBlank, 16, 16⟩]

def getImgArtInfo (imgArt : ImgArt) : ImgArtInfo :=
  imgArts[imgArt.toNat]?.getD ⟨imgSmiley, 9, 10⟩

/-- What `drawImage` gets of an image. -/
def ImgArtInfo.source (imgArtInfo : ImgArtInfo) (x y : Int) : Source where
  data := imgArtInfo.img
  width := imgArtInfo.width.toNat
  height := imgArtInfo.height.toNat
  x := x
  y := y
  offset := 0

theorem getImgArtInfo_member (imgArt : ImgArt) : getImgArtInfo imgArt ∈ imgArts := by
  unfold getImgArtInfo
  cases found : imgArts[imgArt.toNat]? with
  | none => exact List.mem_cons_self
  | some imgArtInfo => exact List.mem_of_getElem? found

/-- The array of an image holds its width and height. -/
theorem member_fits {imgArtInfo : ImgArtInfo} (inside : imgArtInfo ∈ imgArts) (x y : Int) :
    Fits (imgArtInfo.source x y) := by
  have sizes : ∀ imgArtInfo ∈ imgArts,
      cellsPerColumn imgArtInfo.height.toNat * imgArtInfo.width.toNat ≤ imgArtInfo.img.length ∧
        (imgArtInfo.height.toNat : Int) ≤ 4 * cellsPerColumn imgArtInfo.height.toNat := by
    decide
  obtain ⟨words, rows⟩ := sizes _ inside
  exact ⟨Int.le_refl 0, by rw [ImgArtInfo.source, Int.add_zero]; exact words, rows⟩

end OClock.Images

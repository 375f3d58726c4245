import Mathlib.Algebra.Group.Nat.Defs
import OClock.StripTransport

/-!
What the strip's pixels read back. The setters and one of the getters take the offset of a pixel
as an `int`; the getter of the packed colour takes it in 16 bits, and from pixel 21846 on it
looks at other bytes.
-/

namespace OClock.StripReadBack
open Lpd8806
open StripTransport (stored stored_low set_triple)

/-! ### Channels -/

/-- The 7 bits that a byte of the strip shows. -/
def shown (strip : Strip) (place : Nat) : UInt8 := strip.pixels.getD place 0 &&& 0x7f

/-- The packed value of three channels, in the order of the strip. -/
def pack (first second third : UInt8) : UInt32 :=
  (first.toUInt32 <<< 16) ||| (second.toUInt32 <<< 8) ||| third.toUInt32

theorem or_low (high low width : Nat) (small : low < 2 ^ width) :
    high * 2 ^ width ||| low = high * 2 ^ width + low := by
  rw [Nat.mul_comm, Nat.two_pow_add_eq_or_of_lt small]

theorem pack_value (first second third : UInt8) :
    (pack first second third).toNat =
      (first.toNat * 2 ^ 8 + second.toNat) * 2 ^ 8 + third.toNat := by
  have low := third.toNat_lt
  have middle := second.toNat_lt
  have high := first.toNat_lt
  have whole : first.toNat * 2 ^ 16 % 2 ^ 32 = first.toNat * 2 ^ 16 :=
    Nat.mod_eq_of_lt (by omega)
  have wholeMiddle : second.toNat * 2 ^ 8 % 2 ^ 32 = second.toNat * 2 ^ 8 :=
    Nat.mod_eq_of_lt (by omega)
  have room : second.toNat * 2 ^ 8 < 2 ^ 16 := by omega
  have joined : first.toNat * 2 ^ 16 + second.toNat * 2 ^ 8 =
      (first.toNat * 2 ^ 8 + second.toNat) * 2 ^ 8 := by omega
  simp only [pack, UInt32.toNat_or, UInt32.toNat_shiftLeft, UInt8.toNat_toUInt32,
    UInt32.reduceToNat, Nat.reduceMod, Nat.shiftLeft_eq]
  rw [whole, wholeMiddle, or_low _ _ 16 room, joined, or_low _ _ 8 low]

theorem pack_inj {first second third first' second' third' : UInt8} :
    pack first second third = pack first' second' third' ↔
      first = first' ∧ second = second' ∧ third = third' := by
  constructor
  · intro same
    have values := congrArg UInt32.toNat same
    rw [pack_value, pack_value] at values
    have low := third.toNat_lt
    have low' := third'.toNat_lt
    have middle := second.toNat_lt
    have middle' := second'.toNat_lt
    refine ⟨UInt8.toNat_inj.mp ?_, UInt8.toNat_inj.mp ?_, UInt8.toNat_inj.mp ?_⟩ <;> omega
  · rintro ⟨rfl, rfl, rfl⟩
    rfl

theorem pack_iff (one other : Nat → UInt8) :
    pack (one 0) (one 1) (one 2) = pack (other 0) (other 1) (other 2) ↔
      ∀ k < 3, one k = other k := by
  rw [pack_inj]
  constructor
  · rintro ⟨first, second, third⟩ k bound
    have cases : k = 0 ∨ k = 1 ∨ k = 2 := by omega
    rcases cases with rfl | rfl | rfl
    · exact first
    · exact second
    · exact third
  · intro all
    exact ⟨all 0 (by decide), all 1 (by decide), all 2 (by decide)⟩

/-! ### What the getters look at -/

theorem getPixelColor_shown {strip : Strip} {n : UInt16} (inside : n < strip.numLEDs) :
    getPixelColor strip n = pack (shown strip (n.toNat * 3 % 65536))
      (shown strip (n.toNat * 3 % 65536 + 1)) (shown strip (n.toNat * 3 % 65536 + 2)) := by
  have offset : (n * 3).toNat = n.toNat * 3 % 65536 := UInt16.toNat_mul n 3
  rw [getPixelColor, if_pos inside, offset]
  rfl

theorem getPixelChannels_shown {strip : Strip} {n : UInt16} (inside : n < strip.numLEDs) :
    getPixelChannels strip n = (shown strip (n.toNat * 3 + 1), shown strip (n.toNat * 3),
      shown strip (n.toNat * 3 + 2)) := by
  rw [getPixelChannels, if_pos inside]
  rfl

/-- A colour in the order of the strip. -/
def ordered (r g b : UInt8) : Nat → UInt8
  | 0 => g
  | 1 => r
  | _ => b

section Write
variable {strip : Strip} (sized : strip.pixels.length = strip.numLEDs.toNat * 3) {i : UInt16}
  (inside : i < strip.numLEDs) (r g b : UInt8)
include sized inside

theorem written_byte (place : Nat) :
    (setPixelColor strip i r g b).pixels[place]? =
      if place = i.toNat * 3 then some (stored g) else if place = i.toNat * 3 + 1 then some (stored r)
      else if place = i.toNat * 3 + 2 then some (stored b) else strip.pixels[place]? := by
  have room : i.toNat * 3 + 2 < strip.pixels.length := by
    have below := UInt16.lt_iff_toNat_lt.mp inside
    rw [sized]
    omega
  rw [setPixelColor, storePixel, if_pos inside]
  exact set_triple room (stored g) (stored r) (stored b) place

theorem shown_written {k : Nat} (third : k < 3) :
    shown (setPixelColor strip i r g b) (i.toNat * 3 + k) = ordered r g b k &&& 0x7f := by
  have cases : k = 0 ∨ k = 1 ∨ k = 2 := by omega
  rw [shown, List.getD_eq_getElem?_getD, written_byte sized inside]
  rcases cases with rfl | rfl | rfl
  · simp [ordered, stored_low]
  · simp [ordered, stored_low]
  · simp [ordered, stored_low]

theorem shown_other {place : Nat} (apart : ∀ k < 3, place ≠ i.toNat * 3 + k) :
    shown (setPixelColor strip i r g b) place = shown strip place := by
  have first : place ≠ i.toNat * 3 := apart 0 (by decide)
  have second := apart 1 (by decide)
  have third := apart 2 (by decide)
  rw [shown, List.getD_eq_getElem?_getD, written_byte sized inside, if_neg first, if_neg second,
    if_neg third, ← List.getD_eq_getElem?_getD]
  rfl

end Write

/-- The overload for a packed colour with the same channels stores the same bytes. -/
theorem setPackedColor_same (strip : Strip) (i : UInt16) {r g b : UInt8} {c : UInt32}
    (green : (c >>> 16).toUInt8 &&& 0x7f = g &&& 0x7f)
    (red : (c >>> 8).toUInt8 &&& 0x7f = r &&& 0x7f) (blue : c.toUInt8 &&& 0x7f = b &&& 0x7f) :
    setPackedColor strip i c = setPixelColor strip i r g b := by
  have high : ∀ (word : UInt32) (channel : UInt8), word.toUInt8 &&& 0x7f = channel &&& 0x7f →
      (word ||| 0x80).toUInt8 = channel ||| 0x80 := by
    intro word channel same
    have marked : ∀ byte : UInt8, byte ||| 0x80 = (byte &&& 0x7f) ||| 0x80 := by
      intro byte
      exact (by decide : ∀ bits : BitVec 8, UInt8.ofBitVec bits ||| 0x80 =
        (UInt8.ofBitVec bits &&& 0x7f) ||| 0x80) byte.toBitVec
    rw [UInt32.toUInt8_or, marked channel, ← same, ← marked]
    rfl
  rw [setPackedColor, setPixelColor, high _ _ green, high _ _ red, high _ _ blue]

/-! ### Reading back -/

/-- Pixel `i` reads what was written, in 7 bits, and every other pixel what it read before. -/
structure ReadsBack (before after : Strip) (i : UInt16) (r g b : UInt8) : Prop where
  packed : getPixelColor after i = pack (g &&& 0x7f) (r &&& 0x7f) (b &&& 0x7f)
  channels : getPixelChannels after i = (r &&& 0x7f, g &&& 0x7f, b &&& 0x7f)
  others : ∀ j, j ≠ i → getPixelColor after j = getPixelColor before j ∧
    getPixelChannels after j = getPixelChannels before j

/-- Both setters do. -/
def BothReadBack (strip : Strip) (i : UInt16) (r g b : UInt8) : Prop :=
  ReadsBack strip (setPixelColor strip i r g b) i r g b ∧
    ∀ c : UInt32, (c >>> 16).toUInt8 &&& 0x7f = g &&& 0x7f →
      (c >>> 8).toUInt8 &&& 0x7f = r &&& 0x7f → c.toUInt8 &&& 0x7f = b &&& 0x7f →
      ReadsBack strip (setPackedColor strip i c) i r g b

theorem written_numLEDs (strip : Strip) (i : UInt16) (r g b : UInt8) :
    (setPixelColor strip i r g b).numLEDs = strip.numLEDs :=
  (StripTransport.step_numLEDs strip (.setPixelColor i r g b)).1

/-- The bytes at the wrapped offset of pixel `j` show already what they have to show after a write
of `written` to pixel `i`: the colour of `i` if `j` is that pixel, and otherwise, where they are
bytes of pixel `i`, the byte that is written there. -/
def Fits (strip : Strip) (i : Nat) (written : Nat → UInt8) (j : Nat) : Prop :=
  ∀ k < 3,
    (j = i → shown strip (j * 3 % 65536 + k) = written k &&& 0x7f) ∧
    (j ≠ i → ∀ m < 3, j * 3 % 65536 + k = i * 3 + m →
      shown strip (j * 3 % 65536 + k) = written m &&& 0x7f)

theorem both_iff (strip : Strip) (i : UInt16) (r g b : UInt8) : BothReadBack strip i r g b ↔
    ReadsBack strip (setPixelColor strip i r g b) i r g b := by
  constructor
  · exact And.left
  · intro back
    refine ⟨back, fun c green red blue => ?_⟩
    rw [setPackedColor_same strip i green red blue]
    exact back

/-- What the getter of the packed colour reads of pixel `i`. -/
theorem packed_iff {strip : Strip} {i : UInt16} (inside : i < strip.numLEDs) (r g b : UInt8) :
    getPixelColor (setPixelColor strip i r g b) i =
      pack (g &&& 0x7f) (r &&& 0x7f) (b &&& 0x7f) ↔
    ∀ k < 3, shown (setPixelColor strip i r g b) (i.toNat * 3 % 65536 + k) =
      ordered r g b k &&& 0x7f := by
  rw [getPixelColor_shown (by rwa [written_numLEDs])]
  exact pack_iff (fun k => shown (setPixelColor strip i r g b) (i.toNat * 3 % 65536 + k))
    fun k => ordered r g b k &&& 0x7f

theorem others_iff {strip : Strip} {j : UInt16} (below : j < strip.numLEDs) (i : UInt16)
    (r g b : UInt8) :
    getPixelColor (setPixelColor strip i r g b) j = getPixelColor strip j ↔
      ∀ k < 3, shown (setPixelColor strip i r g b) (j.toNat * 3 % 65536 + k) =
        shown strip (j.toNat * 3 % 65536 + k) := by
  rw [getPixelColor_shown (by rwa [written_numLEDs]), getPixelColor_shown below]
  exact pack_iff (fun k => shown (setPixelColor strip i r g b) (j.toNat * 3 % 65536 + k))
    fun k => shown strip (j.toNat * 3 % 65536 + k)

section Write
variable {strip : Strip} (sized : strip.pixels.length = strip.numLEDs.toNat * 3) {i : UInt16}
  (inside : i < strip.numLEDs) (r g b : UInt8)
include sized inside

theorem channels_written :
    getPixelChannels (setPixelColor strip i r g b) i =
      (r &&& 0x7f, g &&& 0x7f, b &&& 0x7f) := by
  have first := shown_written sized inside r g b (k := 0) (by decide)
  rw [getPixelChannels_shown (by rwa [written_numLEDs]),
    shown_written sized inside r g b (by decide), shown_written sized inside r g b (by decide)]
  rw [Nat.add_zero] at first
  rw [first]
  rfl

theorem channels_other {j : UInt16} (other : j ≠ i) :
    getPixelChannels (setPixelColor strip i r g b) j = getPixelChannels strip j := by
  have apart : j.toNat ≠ i.toNat := fun same => other (UInt16.toNat_inj.mp same)
  by_cases below : j < strip.numLEDs
  · rw [getPixelChannels_shown (by rwa [written_numLEDs]),
      getPixelChannels_shown below]
    rw [shown_other sized inside, shown_other sized inside, shown_other sized inside]
    all_goals omega
  · rw [getPixelChannels, getPixelChannels, written_numLEDs, if_neg below,
      if_neg below]

/-- No byte of a pixel from 21846 on is at its wrapped offset. -/
theorem wrapped_apart (high : 21846 ≤ i.toNat) {k : Nat} :
    k < 3 → shown (setPixelColor strip i r g b) (i.toNat * 3 % 65536 + k) =
      shown strip (i.toNat * 3 % 65536 + k) := by
  intro third
  apply shown_other sized inside
  intro m _
  omega

theorem own_iff : getPixelColor (setPixelColor strip i r g b) i =
      pack (g &&& 0x7f) (r &&& 0x7f) (b &&& 0x7f) ↔
    (21846 ≤ i.toNat → ∀ k < 3,
      shown strip (i.toNat * 3 % 65536 + k) = ordered r g b k &&& 0x7f) := by
  rw [packed_iff inside r g b]
  by_cases high : 21846 ≤ i.toNat
  · constructor
    · intro all _ k third
      rw [← wrapped_apart sized inside r g b high third]
      exact all k third
    · intro all k third
      rw [wrapped_apart sized inside r g b high third]
      exact all high k third
  · have whole : i.toNat * 3 % 65536 = i.toNat * 3 := Nat.mod_eq_of_lt (by omega)
    constructor
    · intro _ wrong
      exact absurd wrong high
    · intro _ k third
      rw [whole]
      exact shown_written sized inside r g b third

theorem other_iff {j : UInt16} (below : j < strip.numLEDs) (other : j ≠ i) :
    getPixelColor (setPixelColor strip i r g b) j = getPixelColor strip j ↔
      (21846 ≤ j.toNat → ∀ k < 3, ∀ m < 3, j.toNat * 3 % 65536 + k = i.toNat * 3 + m →
        shown strip (j.toNat * 3 % 65536 + k) = ordered r g b m &&& 0x7f) := by
  have apart : j.toNat ≠ i.toNat := fun same => other (UInt16.toNat_inj.mp same)
  rw [others_iff below i r g b]
  constructor
  · intro all _ k third m fits place
    rw [← all k third, place]
    exact shown_written sized inside r g b fits
  · intro all k third
    by_cases hit : ∃ m < 3, j.toNat * 3 % 65536 + k = i.toNat * 3 + m
    · obtain ⟨m, fits, place⟩ := hit
      -- A pixel before 21846 has its own three bytes.
      have high : 21846 ≤ j.toNat := by
        by_contra low
        have whole : j.toNat * 3 % 65536 = j.toNat * 3 := Nat.mod_eq_of_lt (by omega)
        omega
      rw [all high k third m fits place, place]
      exact shown_written sized inside r g b fits
    · apply shown_other sized inside
      intro m fits place
      exact hit ⟨m, fits, place⟩

/-- What is written reads back if and only if the pixels from 21846 on, which the getter of the
packed colour takes from other bytes, happen to find there what they have to show. -/
theorem readsBack_iff : BothReadBack strip i r g b ↔
    ∀ j < strip.numLEDs.toNat, 21846 ≤ j → Fits strip i.toNat (ordered r g b) j := by
  rw [both_iff]
  constructor
  · rintro ⟨packed, _, others⟩ j below high k third
    have small : (UInt16.ofNat j).toNat = j := UInt16.toNat_ofNat_of_lt' (by
      have bound := strip.numLEDs.toNat_lt
      unfold UInt16.size
      omega)
    constructor
    · rintro rfl
      exact (own_iff sized inside r g b).mp packed high k third
    · intro apart m fits place
      have other : UInt16.ofNat j ≠ i := by
        rintro rfl
        exact apart small.symm
      have kept := (other_iff sized inside r g b
        (UInt16.lt_iff_toNat_lt.mpr (by rwa [small])) other).mp (others _ other).1
      rw [small] at kept
      exact kept high k third m fits place
  · intro fits
    refine ⟨(own_iff sized inside r g b).mpr ?_, channels_written sized inside r g b, ?_⟩
    · intro high k third
      exact (fits i.toNat (UInt16.lt_iff_toNat_lt.mp inside) high k third).1 rfl
    · intro j other
      refine ⟨?_, channels_other sized inside r g b other⟩
      by_cases below : j < strip.numLEDs
      · apply (other_iff sized inside r g b below other).mpr
        intro high k third m inner place
        have apart : j.toNat ≠ i.toNat := fun same => other (UInt16.toNat_inj.mp same)
        exact (fits j.toNat (UInt16.lt_iff_toNat_lt.mp below) high k third).2 apart m inner place
      · rw [getPixelColor, getPixelColor, written_numLEDs, if_neg below, if_neg below]

end Write

/-! ### Every content -/

theorem new_sized (transport : Transport) (n : UInt16) :
    (Strip.new transport n).pixels.length = (Strip.new transport n).numLEDs.toNat * 3 :=
  (StripTransport.new_holds transport n).length

/-- A strip that is off shows nothing anywhere. -/
theorem new_shows (transport : Transport) (n : UInt16) (place : Nat) :
    shown (Strip.new transport n) place = 0 := by
  have off : (0x80 : UInt8) &&& 0x7f = 0 := by decide
  rw [shown, Strip.new, updateLength]
  by_cases some : 0 < n
  · rw [if_pos some]
    dsimp only
    rw [List.getD_eq_getElem?_getD, List.getElem?_replicate]
    by_cases inside : place < n.toNat * bytesPerLed
    · rw [if_pos inside]
      exact off
    · rw [if_neg inside]
      rfl
  · rw [if_neg some]
    simp

/-- On a strip that is off, some pixel misreads a colour that is not. -/
theorem misread {n i : Nat} (long : 21846 < n) (early : 21846 ≤ i ∨ i + 21846 ≤ n) (inside : i < n)
    (transport : Transport) (length : UInt16) (written : Nat → UInt8)
    (lit : ∀ k < 3, written k &&& 0x7f ≠ 0) :
    ∃ j < n, 21846 ≤ j ∧ ¬ Fits (Strip.new transport length) i written j := by
  by_cases high : 21846 ≤ i
  · refine ⟨i, inside, high, fun fits => ?_⟩
    have same := (fits 0 (by decide)).1 rfl
    rw [new_shows] at same
    exact lit 0 (by decide) same.symm
  · by_cases first : i = 0
    · -- Pixel 21846 looks at the last byte of pixel 0.
      refine ⟨21846, long, Nat.le_refl _, fun fits => ?_⟩
      have same := (fits 0 (by decide)).2 (by omega) 2 (by decide) (by omega)
      rw [new_shows] at same
      exact lit 2 (by decide) same.symm
    · refine ⟨i + 21845, by omega, by omega, fun fits => ?_⟩
      have same := (fits 1 (by decide)).2 (by omega) 0 (by decide) (by omega)
      rw [new_shows] at same
      exact lit 0 (by decide) same.symm

/-- No wrapped offset reaches the bytes of pixel `i`. -/
theorem fits_away {n i : Nat} (away : n ≤ 21846 ∨ i ≤ 21845 ∧ n < i + 21846) (inside : i < n)
    (strip : Strip) (written : Nat → UInt8) :
    ∀ j < n, 21846 ≤ j → Fits strip i written j := by
  intro j below high k third
  constructor
  · intro same
    omega
  · intro _ m fits place
    have wraps : j * 3 % 65536 = j * 3 - 65536 := by
      rw [Nat.mod_eq_sub_mod (by omega), Nat.mod_eq_of_lt (by omega)]
    omega

/-- A strip of `n` pixels reads back a write to pixel `i` if and only if the pixels from 21846 on
find at their wrapped offsets what they have to show; and it does so whatever it holds and whatever
is written if and only if no wrapped offset reaches the bytes of pixel `i`. -/
theorem pixels_read_back (n i : UInt16) (inside : i < n) :
    (∀ strip : Strip, strip.numLEDs = n → strip.pixels.length = n.toNat * 3 → ∀ r g b,
      BothReadBack strip i r g b ↔
        ∀ j < n.toNat, 21846 ≤ j → Fits strip i.toNat (ordered r g b) j) ∧
    ((∀ strip : Strip, strip.numLEDs = n → strip.pixels.length = n.toNat * 3 → ∀ r g b,
      BothReadBack strip i r g b) ↔
        n.toNat ≤ 21846 ∨ i.toNat ≤ 21845 ∧ n.toNat < i.toNat + 21846) := by
  have below := UInt16.lt_iff_toNat_lt.mp inside
  constructor
  · rintro strip rfl sized r g b
    exact readsBack_iff sized inside r g b
  · constructor
    · intro all
      by_contra reached
      obtain ⟨j, bound, high, wrong⟩ := misread (by omega) (by omega) below .gpio n
        (ordered 1 1 1) (by decide)
      have count := StripTransport.new_numLEDs .gpio n
      have sized := new_sized .gpio n
      have back := all _ count (by rw [sized, count]) 1 1 1
      have fits := (readsBack_iff sized (by rwa [count]) 1 1 1).mp back
      exact wrong (fits j (by rwa [count]) high)
    · rintro away strip rfl sized r g b
      exact (readsBack_iff sized inside r g b).mpr (fits_away away below strip _)

theorem pixels_read_back_sample :
    (21845 : UInt16) < 30000 ∧ ∀ strip : Strip, strip.numLEDs = 30000 →
      strip.pixels.length = 90000 → ∀ r g b, BothReadBack strip 21845 r g b := by
  have inside : (21845 : UInt16) < 30000 := by decide
  exact ⟨inside, (pixels_read_back 30000 21845 inside).2.mpr (Or.inr (by decide))⟩

/-- The first pixel that the getter of the packed colour does not find. -/
theorem pixel_21846_misread : ¬ BothReadBack (Strip.new .gpio 21847) 21846 1 2 3 := by
  have sized := new_sized .gpio 21847
  have inside : (21846 : UInt16) < (Strip.new .gpio 21847).numLEDs := by
    rw [StripTransport.new_numLEDs]
    decide
  intro back
  have same := (own_iff sized inside 1 2 3).mp back.1.packed (by decide) 0 (by decide)
  rw [new_shows] at same
  exact absurd same (by decide)

end OClock.StripReadBack

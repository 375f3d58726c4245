import OClock.MessageRun

/-!
The timeout of a posted message, counted down every second.
-/

namespace OClock.MessageTimeout
open Text DisplayInternal DisplayChanges MessagePost MessageRun

/-- The timeout of a form; a minute where it gives none. -/
def postedTimeout (postValues : StringMap) : UInt32 :=
  ((postedReading postValues .timeout).map Reading.unsigned).getD 60

def isSecond (tick : Tick) : Bool := tick.1 = .sec1

/-- The message is shown, and so many seconds are left. -/
structure Counting (left : UInt32) (scene : Scene) : Prop where
  mode : getDisplayMode scene.display = .message
  timeout : scene.display.modeMessageData.timeout = left
  callback : scene.display.modeMessageData.completedCallback = some .changeDisplayModeBasicClock

theorem post_counting (postValues : StringMap) (surroundings : Surroundings) (scene : Scene) :
    Counting (postedTimeout postValues) (doHandleMsgModePost postValues surroundings scene) := by
  refine ⟨post_mode .., ?_, ?_⟩
  · rw [post_data, settled_apart ModeMessageData.timeout fun _ _ _ => rfl,
      posted_owned timeout_owned (by decide)]
    rfl
  · rw [post_data, settled_apart ModeMessageData.completedCallback fun _ _ _ => rfl,
      posted_unowned ModeMessageData.completedCallback]
    · rfl
    · intro other reading data
      cases other <;> rfl
    · intro surroundings value data random
      obtain ⟨msg, modeMsgsIndex, same⟩ := postMsg_text surroundings value data random
      rw [same]

theorem fast_counting {left : UInt32} {scene : Scene} (counting : Counting left scene) :
    getDisplayMode (modeMessageFast scene).display ≠ .message ∨
      Counting left (modeMessageFast scene) := by
  obtain ⟨mode, timeout, callback⟩ := counting
  have kept := scroll_keeps (fun data => (data.timeout, data.completedCallback))
    (fun _ _ _ _ _ => rfl) scene.display
  have index := (scroll_state scene.display).1
  unfold modeMessageFast
  dsimp only
  generalize scroll scene.display = scrolled at kept index
  obtain ⟨ended, display⟩ := scrolled
  obtain ⟨sameTimeout, sameCallback⟩ := Prod.mk.inj kept
  dsimp only at sameTimeout sameCallback index
  rw [sameCallback, callback]
  -- The last repeat may end the message before its seconds do.
  cases ended with
  | true => exact Or.inl (callback_leaves _ _ _)
  | false =>
      have bounced := bounce_keeps (fun data => (data.timeout, data.completedCallback))
        (fun _ _ _ _ => rfl) display
      obtain ⟨bouncedTimeout, bouncedCallback⟩ := Prod.mk.inj bounced
      refine Or.inr ⟨?_, ?_, ?_⟩
      · rw [← mode]
        exact congrArg (fun index => (modeAt index).displayMode)
          ((bounce_state display).1.trans index)
      · exact bouncedTimeout.trans (sameTimeout.trans timeout)
      · exact bouncedCallback.trans (sameCallback.trans callback)

/-- The last second ends the message; one more is taken from any other number, also from zero. -/
theorem second_counting {left : UInt32} {scene : Scene} (counting : Counting left scene)
    (limited : left ≠ forever) :
    (left = 1 → getDisplayMode (modeMessageCheckTimeout scene).display ≠ .message) ∧
      (left ≠ 1 → Counting (left - 1) (modeMessageCheckTimeout scene)) := by
  obtain ⟨mode, timeout, callback⟩ := counting
  unfold modeMessageCheckTimeout
  dsimp only
  rw [timeout, if_pos limited]
  constructor
  · rintro rfl
    rw [if_pos (by decide), callback]
    exact callback_leaves _ _ _
  · intro more
    have later : ¬ left - 1 ≤ 0 := by
      intro none
      apply more
      rw [← UInt32.sub_add_cancel left 1, UInt32.le_zero_iff.mp none]
      rfl
    rw [if_neg later]
    exact ⟨mode, rfl, callback⟩

theorem blink_counting {left : UInt32} {scene : Scene} (counting : Counting left scene) :
    Counting left (modeMessageCheckBlink scene) := by
  unfold modeMessageCheckBlink
  dsimp only
  split
  · exact ⟨counting.mode, counting.timeout, counting.callback⟩
  · exact counting

/-- A second is taken off at every second, unless the message is left. -/
theorem tick_counting {left : UInt32} {scene : Scene} (counting : Counting left scene)
    (limited : left ≠ forever) (tick : Tick) :
    getDisplayMode (tickOf tick scene).display ≠ .message ∨
      Counting (if isSecond tick then left - 1 else left) (tickOf tick scene) ∧
        (isSecond tick = true → left ≠ 1) := by
  have handled : displayTick tick.1 tick.2 scene =
      handlerTick tick.2 tick.1 .message scene := by rw [displayTick, counting.mode]
  have same : ∀ {left}, Counting left (handlerTick tick.2 tick.1 .message scene) →
      Counting left (tickOf tick scene) := by
    intro left counted
    obtain ⟨_, data, _⟩ := tickOf_display tick scene
    rw [← handled] at counted
    exact ⟨(tickOf_mode tick scene).trans counted.mode, by rw [data]; exact counted.timeout,
      by rw [data]; exact counted.callback⟩
  rw [tickOf_mode, handled]
  obtain ⟨cadence, surroundings⟩ := tick
  cases cadence
  case fast =>
    rcases fast_counting counting with gone | still
    · exact Or.inl gone
    · exact Or.inr ⟨same still, fun second => by cases second⟩
  case sec1 =>
    obtain ⟨last, more⟩ := second_counting counting limited
    by_cases one : left = 1
    · exact Or.inl (last one)
    · exact Or.inr ⟨same (more one), fun _ => one⟩
  case ms250 => exact Or.inr ⟨same (blink_counting counting), fun second => by cases second⟩
  all_goals exact Or.inr ⟨same counting, fun second => by cases second⟩

/-- Seconds counted from a number that is neither zero nor the one for ever. -/
theorem run_counting {timeout : UInt32} {scene : Scene} (counting : Counting timeout scene)
    (some : timeout ≠ 0) (limited : timeout ≠ forever) (ticks : List Tick) :
    getDisplayMode (runTicks ticks scene).display ≠ .message ∨
      ∃ left, Counting left (runTicks ticks scene) ∧ left ≠ 0 ∧
        left.toNat + ticks.countP isSecond = timeout.toNat := by
  induction ticks using List.reverseRecOn with
  | nil => exact Or.inr ⟨timeout, counting, some, rfl⟩
  | append_singleton ticks tick ih =>
      rw [runTicks_concat]
      rcases ih with gone | ⟨left, still, positive, counted⟩
      · exact Or.inl (left_stays tick gone)
      · have top : forever.toNat = 4294967295 := rfl
        -- No more is left than was posted, so it has not become the one for ever.
        have finite : left ≠ forever := by
          rintro rfl
          have below := timeout.toNat_lt
          exact limited (UInt32.toNat_inj.mp (by omega))
        refine (tick_counting still finite tick).imp_right fun ⟨next, more⟩ => ?_
        refine ⟨_, next, ?_⟩
        rw [List.countP_append, List.countP_singleton]
        cases second : isSecond tick with
        | false => exact ⟨positive, by simpa using counted⟩
        | true =>
            have notZero := mt UInt32.toNat_inj.mp positive
            have notOne := mt UInt32.toNat_inj.mp (more second)
            change left.toNat ≠ 0 at notZero
            change left.toNat ≠ 1 at notOne
            have taken : (left - 1).toNat = left.toNat - 1 :=
              UInt32.toNat_sub_of_le left 1 (UInt32.le_iff_toNat_le.mpr (by change 1 ≤ _; omega))
            rw [if_pos rfl, if_pos rfl, taken]
            refine ⟨fun none => ?_, by omega⟩
            rw [none] at taken
            change 0 = _ at taken
            omega

/-- Whatever surrounds the ticks, the message has been left by the last of its seconds. -/
def LeftInTime (postValues : StringMap) : Prop :=
  ∀ (surroundings : Surroundings) (scene : Scene) (ticks : List Tick),
    max 1 (postedTimeout postValues).toNat ≤ ticks.countP isSecond →
      getDisplayMode (runTicks ticks
        (doHandleMsgModePost postValues surroundings scene)).display ≠ .message

theorem positive_leaves {postValues : StringMap} (some : postedTimeout postValues ≠ 0)
    (limited : postedTimeout postValues ≠ forever) : LeftInTime postValues := by
  intro surroundings scene ticks enough
  rcases run_counting (post_counting postValues surroundings scene) some limited ticks with
    gone | ⟨left, _, positive, counted⟩
  · exact gone
  · have more := mt UInt32.toNat_inj.mp positive
    change left.toNat ≠ 0 at more
    omega

/-- One second after the post a timeout of zero has become the one for ever. -/
theorem zero_stays {postValues : StringMap} (none : postedTimeout postValues = 0) :
    ¬ LeftInTime postValues := by
  intro leaves
  let surroundings : Surroundings := ⟨default, 0, fun _ => [], fun _ => 0⟩
  have counting := post_counting postValues surroundings ⟨.static, InboxRegistry.createInboxes, []⟩
  rw [none] at counting
  have left := leaves surroundings ⟨.static, InboxRegistry.createInboxes, []⟩
    [(.sec1, surroundings)] (by rw [none]; exact Nat.le_refl 1)
  have still := (second_counting counting (by decide)).2 (by decide)
  apply left
  rw [runTicks, List.foldl_cons, List.foldl_nil, tickOf_mode, displayTick, counting.mode]
  exact still.mode

/-- A message outlives its timeout exactly when that is zero. -/
theorem timeout_honoured_iff (postValues : StringMap)
    (limited : postedTimeout postValues ≠ forever) :
    LeftInTime postValues ↔ postedTimeout postValues ≠ 0 :=
  ⟨fun leaves none => zero_stays none leaves, fun some => positive_leaves some limited⟩

/-- A post for five seconds. -/
def fiveSeconds : StringMap := (∅ : StringMap).insert (bytes "timeout") (bytes "5")

theorem timeout_honoured_fiveSeconds : postedTimeout fiveSeconds = 5 ∧ LeftInTime fiveSeconds := by
  have five : postedTimeout fiveSeconds = 5 := by decide +kernel
  refine ⟨five, (timeout_honoured_iff fiveSeconds ?_).mpr ?_⟩
  · rw [five]
    decide
  · rw [five]
    decide

/-- A post with a timeout of zero. -/
def zeroTimeout : StringMap := (∅ : StringMap).insert (bytes "timeout") (bytes "0")

theorem zero_outlives : ¬ LeftInTime zeroTimeout := zero_stays (by decide +kernel)

end OClock.MessageTimeout

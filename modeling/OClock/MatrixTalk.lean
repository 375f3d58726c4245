import OClock.MatrixRefresh
import OClock.SelectLog

/-!
What the chips of the matrix hear. Every method of the driver is a talk of sessions, each
of them commands or words for one board, and the last PWM command of every chip is the one
for the brightness the driver stores.
-/

namespace OClock.MatrixTalk
open SerialLine SelectChain Trace SelectLog MatrixChip Ht1632 MatrixPanel MatrixRefresh

/-! ### Transactions -/

/-- 100 and commands of nine bits, or 101, seven bits of an address and words of four bits
that stay inside a board. -/
inductive WellFormed : List Bool → Prop where
  | commands (commands : List (List Bool)) (some : commands ≠ [])
      (nine : ∀ command ∈ commands, command.length = 9) :
      WellFormed ([true, false, false] ++ commands.flatten)
  | words (t : Fin 3) (address : List Bool) (words : List (List Bool))
      (board : t ≠ bufferSecondary) (seven : address.length = 7) (some : words ≠ [])
      (four : ∀ word ∈ words, word.length = 4) (first : t * 32 ≤ number address)
      (last : number address + words.length ≤ t * 32 + 32) :
      WellFormed ([true, false, true] ++ address ++ words.flatten)

/-- The complete groups of nine bits. -/
def nineBits : List Bool → List (List Bool)
  | a :: b :: c :: d :: e :: f :: g :: h :: i :: rest =>
      [a, b, c, d, e, f, g, h, i] :: nineBits rest
  | _ => []

def commandsOf : List Bool → List (List Bool)
  | true :: false :: false :: rest => nineBits rest
  | _ => []

/-- The level in a PWM command, 101x-PPPP-x. -/
def pwmOf : List Bool → Option Nat
  | [true, false, true, _, a, b, c, d, _] => some (number [a, b, c, d])
  | _ => none

/-- The level of the last PWM command of some transactions. -/
def lastPwm (transactions : List (List Bool)) : Option Nat :=
  ((transactions.flatMap commandsOf).filterMap pwmOf).getLast?

/-- The level that stands for a brightness. -/
def pwmLevel (brightness : Int) : Option Nat := some (brightness - 1).toNat

theorem lastPwm_append (first second : List (List Bool)) :
    lastPwm (first ++ second) = (lastPwm second).or (lastPwm first) := by
  unfold lastPwm
  rw [List.flatMap_append, List.filterMap_append, List.getLast?_append]

theorem nineBits_flatten {commands : List (List Bool)}
    (nine : ∀ command ∈ commands, command.length = 9) : nineBits commands.flatten = commands := by
  induction commands with
  | nil => rfl
  | cons command rest ih =>
      obtain ⟨here, later⟩ := List.forall_mem_cons.mp nine
      match command, here with
      | [a, b, c, d, e, f, g, h, i], _ =>
          exact congrArg ([a, b, c, d, e, f, g, h, i] :: ·) (ih later)

/-! ### Events of the driver -/

def pinsOf (events : List Event) : List (Write Line) :=
  events.filterMap fun event =>
    match event with
    | .pin write => some write
    | .set _ | .delay _ => none

theorem pinsOf_append (first second : List Event) :
    pinsOf (first ++ second) = pinsOf first ++ pinsOf second := List.filterMap_append

theorem pinsOf_pins (writes : List (Write Line)) (display : Display) :
    pinsOf (pins writes display) = writes := by
  unfold pinsOf pins
  rw [List.filterMap_map]
  exact List.filterMap_some

theorem observe_pins (writes : List (Write Line)) (display seen : Display) :
    final observe seen (pins writes display) = seen := by
  induction writes with
  | nil => rfl
  | cons write rest ih => exact ih

def InLevels (display : Display) : Prop := 1 ≤ display.brightness ∧ display.brightness ≤ 16

/-- Items for chips that exist, in transactions that are well formed, and no chip is left
selected. -/
structure Proper (items : List Item) : Prop where
  within : Within numActiveChips items
  formed : ∀ c bits, some (c, bits) ∈ items → WellFormed bits
  closed : items = [] ∨ Closed items

theorem proper_nil : Proper [] := ⟨nofun, nofun, .inl rfl⟩

theorem proper_append {first second : List Item} (early : Proper first) (late : Proper second) :
    Proper (first ++ second) := by
  refine ⟨fun c bits member => ?_, fun c bits member => ?_, ?_⟩
  · exact (List.mem_append.mp member).elim (early.within c bits) (late.within c bits)
  · exact (List.mem_append.mp member).elim (early.formed c bits) (late.formed c bits)
  · rcases late.closed with rfl | closed
    · rw [List.append_nil]
      exact early.closed
    · exact .inr (closed_append closed)

theorem proper_silence : Proper [none] := by
  refine ⟨?_, ?_, .inr ⟨[], rfl⟩⟩
  · intro c bits member
    cases List.mem_singleton.mp member
  · intro c bits member
    cases List.mem_singleton.mp member

/-- What some events of a display tell the chips. -/
structure Tells (display : Display) (events : List Event) (items : List Item) : Prop where
  pins : pinsOf events = talk numActiveChips items
  proper : Proper items
  level : InLevels (final observe display events)
  pwm : ∀ c < numActiveChips, (lastPwm (heard c items)).or (pwmLevel display.brightness) =
    pwmLevel (final observe display events).brightness

/-- A method is a talk, and keeps the chips at the stored brightness. -/
def Speaks (method : Method) : Prop :=
  ∀ display, InLevels display → ∃ items, Tells display (method display) items

theorem tells_nothing {display moved : Display} {events : List Event} (quiet : pinsOf events = [])
    (seen : final observe display events = moved) (same : moved.brightness = display.brightness)
    (level : InLevels display) : Tells display events [] := by
  subst seen
  refine ⟨quiet, proper_nil, ?_, fun c _ => ?_⟩
  · unfold InLevels
    rw [same]
    exact level
  · rw [same]
    rfl

theorem speaks_nothing : Speaks fun _ => [] :=
  fun _ level => ⟨[], tells_nothing rfl rfl rfl level⟩

theorem speaks_pause (milliseconds : Int) : Speaks (pause milliseconds) :=
  fun _ level => ⟨[], tells_nothing rfl rfl rfl level⟩

theorem speaks_change {moved : Display → Display}
    (same : ∀ display, (moved display).brightness = display.brightness) : Speaks (change moved) :=
  fun display level => ⟨[], tells_nothing rfl rfl (same display) level⟩

theorem tells_append {display : Display} {first second : List Event} {items more : List Item}
    (early : Tells display first items)
    (late : Tells (final observe display first) second more) :
    Tells display (first ++ second) (items ++ more) := by
  refine ⟨?_, proper_append early.proper late.proper, ?_, fun c chip => ?_⟩
  · rw [pinsOf_append, early.pins, late.pins, talk_append]
  · rw [final_append]
    exact late.level
  · rw [heard_append, lastPwm_append, Option.or_assoc, early.pwm c chip, late.pwm c chip,
      final_append]

theorem speaks_andThen {first second : Method} (early : Speaks first) (late : Speaks second) :
    Speaks (andThen observe first second) := by
  intro display level
  obtain ⟨items, before⟩ := early display level
  obtain ⟨more, after⟩ := late _ before.level
  exact ⟨items ++ more, tells_append before after⟩

theorem speaks_each {Index : Type} {body : Index → Method} {indices : List Index}
    (speaks : ∀ index ∈ indices, Speaks (body index)) : Speaks (each observe body indices) := by
  induction indices with
  | nil => exact speaks_nothing
  | cons index rest ih =>
      obtain ⟨here, later⟩ := List.forall_mem_cons.mp speaks
      exact speaks_andThen here (ih later)

theorem speaks_block {statements : List Method}
    (speaks : ∀ statement ∈ statements, Speaks statement) : Speaks (block statements) :=
  speaks_each speaks

theorem speaks_silence : Speaks (pins (select 0)) := by
  intro display level
  refine ⟨[none], ?_, proper_silence, ?_, fun c _ => ?_⟩
  · rw [pinsOf_pins, select_none]
    exact (List.append_nil _).symm
  · rw [observe_pins]
    exact level
  · rw [observe_pins]
    rfl

/-! ### Sessions with every chip -/

theorem strobes_append (first second : List Bool) :
    strobes (first ++ second) = strobes first ++ strobes second := List.flatMap_append

def commandBits (data : Nat) : List Bool := highBits data cmdLen ++ [false]

theorem writeCommand_strobes (data : Nat) : writeCommand data = strobes (commandBits data) := by
  unfold writeCommand commandBits
  rw [writeData_strobes, strobes_append]
  rfl

def transactionBits (commands : List Nat) : List Bool :=
  [true, false, false] ++ (commands.map commandBits).flatten

theorem commands_strobes (commands : List Nat) :
    writeData idCmd idLen ++ commands.flatMap writeCommand =
      strobes (transactionBits commands) := by
  have each : commands.flatMap writeCommand = strobes (commands.map commandBits).flatten := by
    induction commands with
    | nil => rfl
    | cons data rest ih =>
        rw [List.flatMap_cons, ih, List.map_cons, List.flatten_cons, strobes_append,
          writeCommand_strobes]
  unfold transactionBits
  rw [strobes_append, each, writeData_strobes]
  rfl

theorem commandBits_nine (commands : List Nat) :
    ∀ command ∈ commands.map commandBits, command.length = 9 := by
  intro command member
  obtain ⟨data, _, rfl⟩ := List.mem_map.mp member
  unfold commandBits
  rw [List.length_append, highBits_length]
  rfl

theorem transactionBits_formed {commands : List Nat} (some : commands ≠ []) :
    WellFormed (transactionBits commands) :=
  .commands _ (fun none => some (List.map_eq_nil_iff.mp none)) (commandBits_nine commands)

theorem commandsOf_transaction (commands : List Nat) :
    commandsOf (transactionBits commands) = commands.map commandBits :=
  nineBits_flatten (commandBits_nine commands)

/-- The same bits for every chip, with what follows each of them. -/
def sessions (bits : List Bool) (tail : List Item) : List Item :=
  (List.range numActiveChips).flatMap fun (c : Nat) => some (c, bits) :: tail

theorem eachChip_talk (bits : List Bool) (tail : List Item) :
    eachChip (strobes bits ++ talk numActiveChips tail) =
      talk numActiveChips (sessions bits tail) := by
  unfold eachChip sessions talk
  rw [List.flatMap_assoc]
  congr 1
  funext c
  rw [select_chip, List.flatMap_cons, spoken, List.append_assoc, List.append_assoc,
    List.append_assoc]

theorem mem_sessions {bits given : List Bool} {tail : List Item} (silent : ∀ item ∈ tail, item = none)
    {c : Nat} (member : some (c, given) ∈ sessions bits tail) :
    c < numActiveChips ∧ given = bits := by
  obtain ⟨chip, inside, here⟩ := List.mem_flatMap.mp member
  rcases List.mem_cons.mp here with same | later
  · cases same
    exact ⟨List.mem_range.mp inside, rfl⟩
  · cases silent _ later

theorem heard_silent {tail : List Item} (silent : ∀ item ∈ tail, item = none) (c : Nat) :
    heard c tail = [] := by
  induction tail with
  | nil => rfl
  | cons item rest ih =>
      obtain ⟨rfl, later⟩ := List.forall_mem_cons.mp silent
      exact ih later

/-- Every chip hears the bits once. -/
theorem heard_sessions {bits : List Bool} (some : bits ≠ []) {tail : List Item}
    (silent : ∀ item ∈ tail, item = none) {c : Nat} (chip : c < numActiveChips) :
    heard c (sessions bits tail) = [bits] := by
  have upTo : ∀ chips, heard c ((List.range chips).flatMap fun (other : Nat) =>
      Option.some (other, bits) :: tail) = if c < chips then [bits] else [] := by
    intro chips
    induction chips with
    | zero => rfl
    | succ chips ih =>
        have last : heard c (Option.some (chips, bits) :: tail) =
            if chips = c then [bits] else [] := by
          unfold heard
          rw [List.flatMap_cons, ← heard, heard_silent silent, List.append_nil, heardIn]
          simp only [some, ne_eq, not_false_eq_true, and_true]
        rw [List.range_succ, List.flatMap_append, heard_append, ih, List.flatMap_singleton, last]
        rcases Nat.lt_trichotomy c chips with before | rfl | after
        · rw [if_pos before, if_neg (by omega), if_pos (by omega)]
          rfl
        · rw [if_neg (Nat.lt_irrefl c), if_pos rfl, if_pos (Nat.lt_succ_self c)]
          rfl
        · rw [if_neg (by omega), if_neg (by omega), if_neg (by omega)]
          rfl
  exact (upTo numActiveChips).trans (if_pos chip)

/-- What the chips take from a transaction of commands. -/
theorem lastPwm_sessions (commands : List Nat) {tail : List Item}
    (silent : ∀ item ∈ tail, item = none) {c : Nat} (chip : c < numActiveChips) :
    lastPwm (heard c (sessions (transactionBits commands) tail)) =
      ((commands.map commandBits).filterMap pwmOf).getLast? := by
  have bits : transactionBits commands ≠ [] := List.cons_ne_nil _ _
  unfold lastPwm
  rw [heard_sessions bits silent chip, List.flatMap_singleton, commandsOf_transaction]

theorem pwmOf_cmdPwm : ∀ level < 16, pwmOf (commandBits (0xA0 ||| level)) = some level := by
  decide

theorem pwmOf_brightness {brightness : Int} (low : 1 ≤ brightness) (high : brightness ≤ 16) :
    pwmOf (commandBits (cmdPwm brightness)) = pwmLevel brightness :=
  pwmOf_cmdPwm (brightness - 1).toNat (by omega)

theorem sessions_formed {commands : List Nat} (some : commands ≠ []) {tail : List Item}
    (silent : ∀ item ∈ tail, item = none) :
    Within numActiveChips (sessions (transactionBits commands) tail) ∧
      ∀ c bits, Option.some (c, bits) ∈ sessions (transactionBits commands) tail →
        WellFormed bits := by
  refine ⟨fun c bits member => (mem_sessions silent member).1, fun c bits member => ?_⟩
  rw [(mem_sessions silent member).2]
  exact transactionBits_formed some

theorem talk_silence : talk numActiveChips [none] = select 0 := List.append_nil _

theorem none_silent : ∀ item ∈ [(none : Item)], item = none := fun _ => List.mem_singleton.mp

theorem sessions_closed (bits : List Bool) : Closed (sessions bits [none]) := by
  have split : sessions bits [none] =
      ((List.range 15).flatMap fun (c : Nat) => [some (c, bits), none]) ++
        [some (15, bits), none] := by
    unfold sessions numActiveChips
    rw [List.range_succ, List.flatMap_append, List.flatMap_singleton]
  rw [split]
  exact closed_append ⟨[some (15, bits)], rfl⟩

/-- The commands that `initialize` sends. -/
def startList (brightness : Int) : List Nat :=
  [cmdSysdis, cmdComs00, cmdRcclk, cmdSysen, cmdLedon, cmdPwm brightness, cmdBloff]

theorem startCommands_strobes (display : Display) :
    startCommands display =
      strobes (transactionBits (startList display.brightness)) ++ talk numActiveChips [none] := by
  rw [← commands_strobes, talk_silence]
  simp only [startCommands, startList, List.flatMap_cons, List.flatMap_nil, List.append_nil,
    List.append_assoc]

theorem lastPwm_start {brightness : Int} (low : 1 ≤ brightness) (high : brightness ≤ 16) :
    (((startList brightness).map commandBits).filterMap pwmOf).getLast? =
      pwmLevel brightness := by
  have pwm := pwmOf_brightness low high
  have others : [cmdSysdis, cmdComs00, cmdRcclk, cmdSysen, cmdLedon, cmdBloff].map
      (fun data => pwmOf (commandBits data)) = [none, none, none, none, none, none] := by
    decide
  simp only [List.map_cons, List.map_nil, List.cons.injEq, and_true] at others
  obtain ⟨sysdis, coms, rcclk, sysen, ledon, bloff⟩ := others
  simp only [startList, List.map_cons, List.map_nil, List.filterMap_cons, List.filterMap_nil,
    sysdis, coms, rcclk, sysen, ledon, bloff, pwm, pwmLevel]
  rfl

/-- Items that tell every chip the brightness. -/
def Loud (brightness : Int) (items : List Item) : Prop :=
  ∀ c < numActiveChips, lastPwm (heard c items) = pwmLevel brightness

theorem loud_or {brightness : Int} {items : List Item} (loud : Loud brightness items)
    (before : Option Nat) {c : Nat} (chip : c < numActiveChips) :
    (lastPwm (heard c items)).or before = pwmLevel brightness := by
  rw [loud c chip]
  rfl

/-- After `initialize` the chips have the stored brightness, whatever they had before. -/
theorem initializeChips_tells {display : Display} (level : InLevels display) :
    ∃ items, Tells display (initializeChips display) items ∧ items ≠ [] ∧
      Loud display.brightness items := by
  let commands := startList display.brightness
  let start := sessions (transactionBits commands) [none]
  have loud : Loud display.brightness start := fun c chip =>
    (lastPwm_sessions commands none_silent chip).trans (lastPwm_start level.1 level.2)
  obtain ⟨within, formed⟩ := sessions_formed (List.cons_ne_nil _ _ : commands ≠ []) none_silent
  have talks : eachChip (startCommands display) = talk numActiveChips start := by
    rw [startCommands_strobes]
    exact eachChip_talk _ _
  have seen : ∀ seen : Display, final observe seen (pins (select 0) seen) = seen :=
    fun seen => observe_pins (select 0) seen seen
  have first : Tells display (pins (eachChip (startCommands display)) display) start := by
    refine ⟨?_, ⟨within, formed, .inr (sessions_closed _)⟩, ?_, fun c chip => ?_⟩
    · rw [pinsOf_pins, talks]
    · rw [observe_pins]
      exact level
    · rw [observe_pins]
      exact loud_or loud _ chip
  have marked : Tells display [.set { display with globalNeedsRewriting := fun _ => true }] [] :=
    tells_nothing rfl rfl rfl level
  obtain ⟨quiet, silence⟩ := speaks_silence display level
  have rest : Tells display (pins (eachChip (startCommands display)) display ++
      [.set { display with globalNeedsRewriting := fun _ => true }]) (start ++ []) := by
    apply tells_append first
    rw [observe_pins]
    exact marked
  have events : initializeChips display = pins (select 0) display ++
      (pins (eachChip (startCommands display)) display ++
        [.set { display with globalNeedsRewriting := fun _ => true }]) := by
    unfold initializeChips block
    simp only [each, andThen, seen, observe_pins, change, id, List.append_nil]
  refine ⟨quiet ++ (start ++ []), ?_, ?_, ?_⟩
  · rw [events]
    apply tells_append silence
    rw [seen]
    exact rest
  · rw [List.append_nil]
    exact List.append_ne_nil_of_right_ne_nil _ (List.cons_ne_nil _ _)
  · intro c chip
    rw [List.append_nil, heard_append, lastPwm_append]
    exact loud_or loud _ chip

theorem initializeChips_speaks : Speaks initializeChips := by
  intro display level
  obtain ⟨items, tells, _, _⟩ := initializeChips_tells level
  exact ⟨items, tells⟩

theorem blank_speaks : Speaks blank := by
  apply speaks_block
  simp only [List.forall_mem_cons]
  refine ⟨speaks_silence, fun display level => ?_, List.forall_mem_nil _⟩
  obtain ⟨within, formed⟩ := sessions_formed (List.cons_ne_nil _ _ : [cmdLedoff] ≠ []) none_silent
  have session : writeData idCmd idLen ++ writeCommand cmdLedoff ++ select 0 =
      strobes (transactionBits [cmdLedoff]) ++ talk numActiveChips [none] := by
    rw [← commands_strobes, talk_silence, List.flatMap_singleton]
  refine ⟨sessions (transactionBits [cmdLedoff]) [none], ?_,
    ⟨within, formed, .inr (sessions_closed _)⟩, ?_, fun c chip => ?_⟩
  · rw [pinsOf_pins, session]
    exact eachChip_talk _ _
  · rw [observe_pins]
    exact level
  · rw [observe_pins, lastPwm_sessions _ none_silent chip]
    rfl

theorem setBrightness_speaks (brightnessParam : Int) : Speaks (setBrightness brightnessParam) := by
  unfold setBrightness
  split
  · exact speaks_nothing
  · rename_i allowed
    rw [not_or] at allowed
    have bounds : 1 ≤ brightnessParam ∧ brightnessParam ≤ 16 := by omega
    intro display level
    let told : Display := { display with brightness := brightnessParam }
    let commands := [cmdPwm brightnessParam]
    let items := sessions (transactionBits commands) [] ++ [none]
    have silent : ∀ item ∈ ([] : List Item), item = none := List.forall_mem_nil _
    obtain ⟨within, formed⟩ := sessions_formed (List.cons_ne_nil _ _ : commands ≠ []) silent
    have session : writeData idCmd idLen ++ writeCommand (cmdPwm brightnessParam) =
        strobes (transactionBits commands) ++ talk numActiveChips [] := by
      rw [← commands_strobes, List.flatMap_singleton]
      exact (List.append_nil _).symm
    have talks : eachChip (writeData idCmd idLen ++ writeCommand (cmdPwm brightnessParam)) ++
        select 0 = talk numActiveChips items := by
      rw [session, eachChip_talk, talk_append, talk_silence]
    -- The one command of the session is the level, so every chip heard it last.
    have loud : Loud brightnessParam items := by
      intro c chip
      have pwm := pwmOf_brightness bounds.1 bounds.2
      rw [heard_append, heard_silent none_silent, List.append_nil,
        lastPwm_sessions commands silent chip]
      simp only [commands, List.map_cons, List.map_nil, List.filterMap_cons, pwm, pwmLevel,
        List.filterMap_nil]
      rfl
    have events : block [change fun display => { display with brightness := brightnessParam },
        fun display => pins (eachChip (writeData idCmd idLen ++
          writeCommand (cmdPwm display.brightness))) display, pins (select 0)] display =
        .set told :: pins (talk numActiveChips items) told := by
      unfold block
      rw [← talks]
      simp only [each, andThen, change, id, List.append_nil, observe_pins]
      simp only [final_cons, final_nil, observe, told]
      rw [List.singleton_append]
      unfold pins
      rw [List.map_append]
    refine ⟨items, ?_, ⟨?_, ?_, .inr ⟨_, rfl⟩⟩, ?_, fun c chip => ?_⟩
    · rw [events]
      exact pinsOf_pins _ _
    · intro c bits member
      rcases List.mem_append.mp member with early | late
      · exact within c bits early
      · cases List.mem_singleton.mp late
    · intro c bits member
      rcases List.mem_append.mp member with early | late
      · exact formed c bits early
      · cases List.mem_singleton.mp late
    · rw [events, final_cons, observe_pins]
      exact bounds
    · rw [events, final_cons, observe_pins]
      exact loud_or loud _ chip

/-! ### render -/

/-- Proper items without a command. -/
structure WordsOnly (items : List Item) : Prop where
  proper : Proper items
  mute : ∀ c bits, some (c, bits) ∈ items → commandsOf bits = []

theorem words_nil : WordsOnly [] := ⟨proper_nil, nofun⟩

theorem words_silence {items : List Item} (words : WordsOnly items) : WordsOnly (none :: items) := by
  refine ⟨@proper_append [none] items proper_silence words.proper, fun c bits member => ?_⟩
  rcases List.mem_cons.mp member with same | later
  · cases same
  · exact words.mute c bits later

/-- What the loop of `render` sends from a cell on: words for an open chip, then a talk. -/
def Continues (i : Nat) : Option Nat → List (Write Line) → Prop
  | none, writes => ∃ items, writes = talk numActiveChips items ∧ WordsOnly items
  | some nChip, writes => ∃ (words : List (List Bool)) (items : List Item),
      writes = strobes words.flatten ++ talk numActiveChips items ∧
        (∀ word ∈ words, word.length = 4) ∧ words.length + i ≤ nChip * 32 ∧ WordsOnly items ∧
        Closed items

theorem lowBits_length (data : Nat) : (lowBits data).length = 4 := rfl

theorem header_session {t : Fin 3} (board : t ≠ bufferSecondary) {i : Nat}
    (inside : i < addrSpaceSize) {words : List (List Bool)} (some : words ≠ [])
    (four : ∀ word ∈ words, word.length = 4) (room : words.length + i ≤ (i / 32 + 1) * 32) :
    ∃ bits, WellFormed bits ∧ commandsOf bits = [] ∧ i / 32 < numActiveChips ∧
      header t i ++ strobes words.flatten = spoken numActiveChips (Option.some (i / 32, bits)) := by
  have chips : i / 32 < numActiveChips := by
    unfold addrSpaceSize at inside
    unfold numActiveChips
    omega
  have shown : t.val ≠ 2 := fun same => board (Fin.ext same)
  have value := highBits_number (i % 32 + t * 32) (by omega)
  refine ⟨[true, false, true] ++ highBits (i % 32 + t * 32) addrLen ++ words.flatten, ?_, rfl, chips,
    ?_⟩
  · refine .words t _ words board (highBits_length _ _) some four ?_ ?_
    · rw [value]
      omega
    · rw [value]
      omega
  · unfold header spoken
    rw [List.append_assoc (select _), header_strobes, select_chip]
    simp only [List.append_assoc, strobes_append]

theorem words_cons {c : Nat} {bits : List Bool} {items : List Item} (chip : c < numActiveChips)
    (formed : WellFormed bits) (mute : commandsOf bits = []) (words : WordsOnly items)
    (closed : Closed items) :
    WordsOnly (some (c, bits) :: items) ∧ Closed (some (c, bits) :: items) := by
  have ends : Closed (some (c, bits) :: items) := @closed_append [some (c, bits)] items closed
  refine ⟨⟨⟨fun other given member => ?_, fun other given member => ?_, .inr ends⟩,
    fun other given member => ?_⟩, ends⟩
  · rcases List.mem_cons.mp member with same | later
    · cases same
      exact chip
    · exact words.proper.within other given later
  · rcases List.mem_cons.mp member with same | later
    · cases same
      exact formed
    · exact words.proper.formed other given later
  · rcases List.mem_cons.mp member with same | later
    · cases same
      exact mute
    · exact words.mute other given later

/-- A cell that is rewritten begins a session unless its chip is open. -/
theorem renderCell_opens {t : Fin 3} (board : t ≠ bufferSecondary) {i : Nat}
    (inside : i < addrSpaceSize) (cell : UInt8) {rest : List (Write Line)}
    (later : Continues (i + 1) (some (i / 32 + 1)) rest) :
    ∃ items, header t i ++ writeDataRev cell.toNat wordLen ++ rest = talk numActiveChips items ∧
      WordsOnly items ∧ Closed items := by
  obtain ⟨words, items, rfl, four, room, only, closed⟩ := later
  have longer : ∀ word ∈ lowBits cell.toNat :: words, word.length = 4 :=
    List.forall_mem_cons.mpr ⟨lowBits_length _, four⟩
  obtain ⟨bits, formed, mute, chip, same⟩ := header_session board inside
    (List.cons_ne_nil (lowBits cell.toNat) words) longer (by rw [List.length_cons]; omega)
  obtain ⟨whole, ends⟩ := words_cons chip formed mute only closed
  refine ⟨some (i / 32, bits) :: items, ?_, whole, ends⟩
  have cons : talk numActiveChips (some (i / 32, bits) :: items) =
      spoken numActiveChips (some (i / 32, bits)) ++ talk numActiveChips items :=
    List.flatMap_cons
  rw [cons, ← same, List.flatten_cons, strobes_append, writeDataRev_strobes]
  simp only [List.append_assoc]

theorem renderCell_continues {t : Fin 3} (board : t ≠ bufferSecondary) {needs : Bool}
    {cells : Cells} {i : Nat} (inside : i < addrSpaceSize) {nChipOpen : Option Nat}
    (bound : ∀ nChip, nChipOpen = some nChip → i ≤ nChip * 32) {rest : List (Write Line)}
    (later : Continues (i + 1) (renderCell t needs cells i nChipOpen).2 rest) :
    Continues i nChipOpen ((renderCell t needs cells i nChipOpen).1 ++ rest) := by
  by_cases rewrite : needsRewriting needs (load cells i) = true
  · simp only [renderCell, if_pos rewrite] at later ⊢
    -- The word goes on in the open session, or a header opens the one of its chip.
    by_cases same : nChipOpen = some (i / 32 + 1)
    · subst same
      obtain ⟨words, items, rfl, four, room, only, closed⟩ := later
      rw [if_pos rfl, List.nil_append]
      refine ⟨lowBits (load cells i).toNat :: words, items, ?_, ?_, ?_, only, closed⟩
      · rw [List.flatten_cons, strobes_append, writeDataRev_strobes, List.append_assoc]
      · exact List.forall_mem_cons.mpr ⟨lowBits_length _, four⟩
      · rw [List.length_cons]
        omega
    · rw [if_neg same]
      obtain ⟨items, talks, only, closed⟩ := renderCell_opens board inside (load cells i) later
      have writes : select ((i / 32 + 1 : Nat) : Int) = select ((i / 32 : Nat) + 1) := by
        rw [Int.natCast_add]
        rfl
      unfold header at talks
      rw [← writes] at talks
      cases nChipOpen with
      | none => exact ⟨items, talks, only⟩
      | some nChip =>
          refine ⟨[], items, talks, List.forall_mem_nil _, ?_, only, closed⟩
          rw [List.length_nil]
          have := bound nChip rfl
          omega
  · simp only [renderCell, if_neg rewrite] at later ⊢
    obtain ⟨items, rfl, only⟩ := later
    cases nChipOpen with
    | none => exact ⟨items, rfl, only⟩
    | some nChip =>
        have closed : Closed (none :: items) := by
          rcases only.proper.closed with rfl | closed
          · exact ⟨[], rfl⟩
          · exact @closed_append [none] items closed
        refine ⟨[], none :: items, ?_, List.forall_mem_nil _, ?_, words_silence only, closed⟩
        · rw [if_neg (Option.some_ne_none nChip)]
          rfl
        · rw [List.length_nil]
          have := bound nChip rfl
          omega

theorem renderCell_bound (t : Fin 3) (needs : Bool) (cells : Cells) (i : Nat)
    (nChipOpen : Option Nat) :
    ∀ nChip, (renderCell t needs cells i nChipOpen).2 = some nChip → i + 1 ≤ nChip * 32 := by
  intro nChip opened
  unfold renderCell at opened
  split at opened
  · cases opened
    omega
  · cases opened

/-- Whatever cells are rewritten, the loop ends with no chip selected. -/
theorem renderFrom_continues {t : Fin 3} (board : t ≠ bufferSecondary) (needs : Bool)
    (cells : Cells) (count i : Nat) (whole : i + count = addrSpaceSize) (nChipOpen : Option Nat)
    (bound : ∀ nChip, nChipOpen = some nChip → i ≤ nChip * 32) :
    Continues i nChipOpen (renderFrom t needs cells count i nChipOpen) := by
  induction count generalizing i nChipOpen with
  | zero =>
      cases nChipOpen with
      | none => exact ⟨[], rfl, words_nil⟩
      | some nChip =>
          refine ⟨[], [none], ?_, List.forall_mem_nil _, ?_, words_silence words_nil, ⟨[], rfl⟩⟩
          · rw [talk_silence]
            rfl
          · rw [List.length_nil]
            have := bound nChip rfl
            omega
  | succ count ih =>
      exact renderCell_continues board (by omega) bound
        (ih (i + 1) (by omega) _ (renderCell_bound t needs cells i nChipOpen))

theorem lastPwm_words {items : List Item} (words : WordsOnly items) (c : Nat) :
    lastPwm (heard c items) = none := by
  have quiet : (heard c items).flatMap commandsOf = [] := by
    refine List.flatMap_eq_nil_iff.mpr fun bits member => ?_
    obtain ⟨item, inside, here⟩ := List.mem_flatMap.mp member
    cases item with
    | none => cases here
    | some session =>
        obtain ⟨other, given⟩ := session
        simp only [heardIn] at here
        split at here
        · rw [List.mem_singleton.mp here]
          exact words.mute other given inside
        · cases here
  unfold lastPwm
  rw [quiet]
  rfl

theorem speaks_words {writes : List (Write Line)} {items : List Item}
    (talks : writes = talk numActiveChips items) (words : WordsOnly items) :
    Speaks (pins writes) := by
  intro display level
  refine ⟨items, ?_, words.proper, ?_, fun c _ => ?_⟩
  · rw [pinsOf_pins, talks]
  · rw [observe_pins]
    exact level
  · rw [observe_pins, lastPwm_words words]
    rfl

theorem render_speaks : Speaks render := by
  intro display level
  unfold render
  cases target : display.tgtBuffer with
  | none => exact speaks_nothing display level
  | some t =>
      dsimp only
      split
      · exact speaks_nothing display level
      · rename_i board
        obtain ⟨items, talks, words⟩ := renderFrom_continues board
          (display.globalNeedsRewriting t) (display.mem t) addrSpaceSize 0 (Nat.zero_add _) none
          nofun
        have whole : select 0 ++ renderFrom t (display.globalNeedsRewriting t) (display.mem t)
            addrSpaceSize 0 none = talk numActiveChips (none :: items) := by
          rw [talks, ← talk_silence, ← talk_append]
          rfl
        refine speaks_block ?_ display level
        simp only [List.forall_mem_cons]
        exact ⟨speaks_words whole (words_silence words), speaks_change fun _ => rfl,
          List.forall_mem_nil _⟩

/-! ### Drawing leaves the brightness alone -/

theorem setTarget_brightness (targetBuffer : Int) (display : Display) :
    (setTarget targetBuffer display).brightness = display.brightness := by
  unfold setTarget
  split <;> rfl

theorem paintPixel_brightness (x y : Int) (datum : Bool) (display : Display) :
    (paintPixel x y datum display).brightness = display.brightness := by
  unfold paintPixel
  split
  · rfl
  · split <;> rfl

theorem copyImage_brightness (image : Image) (display : Display) :
    (copyImage image display).brightness = display.brightness := by
  unfold copyImage
  split
  · rfl
  · split <;> rfl

theorem copyChar_brightness (font : Font) (currX y gutterSpace currchar : Int)
    (display : Display) :
    (copyChar font currX y gutterSpace currchar display).brightness = display.brightness := by
  have columns : ∀ (gutter : List Nat) (image : Nat → Image) (start : Display),
      (gutter.foldl (fun display j => copyImage (image j) display) start).brightness =
        start.brightness := by
    intro gutter image start
    induction gutter generalizing start with
    | nil => rfl
    | cons j rest ih => rw [List.foldl_cons, ih, copyImage_brightness]
  unfold copyChar
  rw [columns, copyImage_brightness]

theorem copyText_brightness (font : Font) (y gutterSpace : Int) (text : List UInt8)
    (currX : Int) (display : Display) :
    (copyText font y gutterSpace text currX display).brightness = display.brightness := by
  induction text generalizing currX display with
  | nil => rfl
  | cons c rest ih =>
      unfold copyText
      split
      · rfl
      · split
        · exact ih currX display
        · split
          · rfl
          · rw [ih]
            split
            · exact copyChar_brightness ..
            · rfl

theorem drawText_brightness (text : List UInt8) (x y : Int) (font : Font) (gutterSpace : Int)
    (display : Display) :
    (if y + font.fontHeight < 0 ∨ y ≥ comSize then display
      else copyText font y gutterSpace text x display).brightness = display.brightness := by
  split
  · rfl
  · exact copyText_brightness ..

theorem clearTarget_brightness (display : Display) :
    (clearTarget display).brightness = display.brightness := by
  unfold clearTarget
  split <;> rfl

theorem transitionCells_brightness (mode : Int) (t : Fin 3) (display : Display) :
    (transitionCells mode t display).brightness = display.brightness := by
  unfold transitionCells
  repeat' split
  all_goals rfl

/-! ### Operations -/

theorem drawTarget_speaks (targetBuffer : Int) : Speaks (drawTarget targetBuffer) :=
  speaks_change (setTarget_brightness targetBuffer)

theorem clear_speaks : Speaks clear := speaks_change clearTarget_brightness

theorem restoreTarget_speaks (saveTarget : Option (Fin 3)) : Speaks (restoreTarget saveTarget) := by
  cases saveTarget with
  | none => exact speaks_nothing
  | some saveTarget => exact drawTarget_speaks saveTarget

theorem eachBoard_speaks {body : Method} (speaks : Speaks body) : Speaks (eachBoard body) := by
  intro display level
  have boards : Speaks (each observe (fun i : Int => block [drawTarget i, body]) [0, 1, 2]) := by
    refine speaks_each fun i _ => speaks_block ?_
    simp only [List.forall_mem_cons]
    exact ⟨drawTarget_speaks i, speaks, List.forall_mem_nil _⟩
  unfold eachBoard
  refine speaks_block ?_ display level
  simp only [List.forall_mem_cons]
  exact ⟨boards, restoreTarget_speaks display.tgtBuffer, List.forall_mem_nil _⟩

theorem fade_speaks (t : Fin 3) (time brightnessSave : Int) :
    Speaks (fade t time brightnessSave) := by
  have dims : ∀ levels : List Int, Speaks (each observe
      (fun i => block [setBrightness i, pause (time.tdiv 32)]) levels) := by
    refine fun levels => speaks_each fun i _ => speaks_block ?_
    simp only [List.forall_mem_cons]
    exact ⟨setBrightness_speaks i, speaks_pause _, List.forall_mem_nil _⟩
  apply speaks_block
  simp only [List.forall_mem_cons]
  exact ⟨dims _, clear_speaks, render_speaks, speaks_pause _, speaks_change fun _ => rfl,
    render_speaks, speaks_pause _, dims _, setBrightness_speaks brightnessSave,
    List.forall_mem_nil _⟩

theorem transition_speaks (mode time : Int) : Speaks (transition mode time) := by
  intro display level
  unfold transition
  cases display.tgtBuffer with
  | none => exact speaks_nothing display level
  | some t =>
      dsimp only
      split
      · exact speaks_nothing display level
      · split
        · exact fade_speaks t time _ display level
        · exact speaks_change (transitionCells_brightness mode t) display level

theorem reinit_speaks : Speaks reinit := by
  apply speaks_block
  simp only [List.forall_mem_cons]
  exact ⟨initializeChips_speaks, eachBoard_speaks render_speaks, List.forall_mem_nil _⟩

theorem perform_speaks (op : Op) : Speaks (perform op) := by
  cases op with
  | setPixel x y datum => exact speaks_change (paintPixel_brightness x y datum)
  | drawImage image => exact speaks_change (copyImage_brightness image)
  | drawText text x y font gutterSpace =>
      exact speaks_change (drawText_brightness text x y font gutterSpace)
  | clear => exact clear_speaks
  | clearAll => exact eachBoard_speaks clear_speaks
  | drawTarget targetBuffer => exact drawTarget_speaks targetBuffer
  | transition mode time => exact transition_speaks mode time
  | setBrightness brightnessParam => exact setBrightness_speaks brightnessParam
  | blank => exact blank_speaks
  | render => exact render_speaks
  | renderAll => exact eachBoard_speaks render_speaks
  | reinit => exact reinit_speaks

end OClock.MatrixTalk

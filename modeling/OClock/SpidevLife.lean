import OClock.LinuxSpidev

/-!
A life of the SPI transport, from its constructor to its destructor, over whatever the kernel
answers: no descriptor is used after it was closed or closed twice, none is left open, and
nothing is sent on a device whose configuration was not read back.
-/

namespace OClock.SpidevLife
open Text LinuxSpidev LabelledRun Dialog

/-- The descriptors that are open, the buffers of `glob` that are not freed, what was last
read back of each setting, and the payloads that the driver took whole. -/
structure World where
  opened : List Fd
  globs : Nat
  readBack : Setting → Option UInt32
  sent : List Bytes

def World.start : World := ⟨[], 0, fun _ => none, []⟩

def World.verified (world : World) : Prop :=
  ∀ setting, world.readBack setting = some (wanted setting)

def allowed (world : World) : Syscall → Prop
  | .globfree => 0 < world.globs
  | .openDevice _ => world.opened = []
  | .close fd | .writeSetting fd .. | .readSetting fd _ => fd ∈ world.opened
  | .message fd _ => fd ∈ world.opened ∧ world.verified
  | .glob _ | .realpath _ | .stat _ | .printError _ => True

def intMax : Nat := 2147483647

/-- A descriptor that `open` gives is not open; the result of a message is an `int`. -/
def answers (world : World) : (syscall : Syscall) → Answer syscall → World → Prop
  | .glob _, _, after => after = { world with globs := world.globs + 1 }
  | .globfree, _, after => after = { world with globs := world.globs - 1 }
  | .openDevice _, .ok fd, after =>
      fd ∉ world.opened ∧
        after = { world with opened := fd :: world.opened, readBack := fun _ => none }
  | .close fd, _, after => after = { world with opened := world.opened.erase fd }
  | .writeSetting _ setting _, _, after =>
      after = { world with readBack := Function.update world.readBack setting none }
  | .readSetting _ setting, .ok value, after =>
      after = { world with readBack := Function.update world.readBack setting (some value) }
  | .message _ data, .ok taken, after =>
      taken ≤ intMax ∧
        after = { world with
          sent := if taken = data.length then world.sent ++ [data] else world.sent }
  | .openDevice _, .error _, after | .readSetting .., .error _, after
  | .message .., .error _, after | .realpath _, _, after | .stat _, _, after
  | .printError _, _, after => after = world

abbrev kernel : Environment Answer := ⟨World, allowed, answers⟩

/-- The descriptor of the object is the one that is open, and it was verified. -/
structure Owns (output : LinuxSpidevOutput) (world : World) : Prop where
  opened : world.opened = output.fd.toList
  globs : world.globs = 0
  verified : output.fd.isSome = true → world.verified

/-- What a transfer that answers so has handed to the driver. -/
def sentBy : Buffer → Except SpiError Unit → List Bytes
  | .holding data, .ok () => if data = [] then [] else [data]
  | _, _ => []

def sentFor : Call → Reply → List Bytes
  | .transfer buffer, .transferred result => sentBy buffer result
  | _, _ => []

/-- The payloads of the transfers that returned. -/
def delivered (calls : List Call) (replies : List Reply) : List Bytes :=
  (List.zipWith sentFor calls replies).flatten

/-! ### Single calls -/

section Calls

variable {world : World}

theorem wp_glob {pattern : Bytes} {wanted : Except Int (List Bytes) → World → Prop}
    (held : ∀ result, wanted result { world with globs := world.globs + 1 }) :
    wp kernel wanted (glob pattern) world := by
  refine ⟨trivial, ?_⟩
  rintro result _ rfl
  exact held result

theorem wp_globfree {wanted : Unit → World → Prop} (owed : 0 < world.globs)
    (held : wanted () { world with globs := world.globs - 1 }) :
    wp kernel wanted globfree world := by
  refine ⟨owed, ?_⟩
  rintro _ _ rfl
  exact held

theorem wp_realpath {path : Bytes} {wanted : Except Int Bytes → World → Prop}
    (held : ∀ result, wanted result world) : wp kernel wanted (realpath path) world := by
  refine ⟨trivial, ?_⟩
  rintro result _ rfl
  exact held result

theorem wp_stat {path : Bytes} {wanted : Except Int Bool → World → Prop}
    (held : ∀ result, wanted result world) : wp kernel wanted (stat path) world := by
  refine ⟨trivial, ?_⟩
  rintro result _ rfl
  exact held result

theorem wp_printError {error : SpiError} {wanted : Unit → World → Prop}
    (held : wanted () world) : wp kernel wanted (printError error) world := by
  refine ⟨trivial, ?_⟩
  rintro _ _ rfl
  exact held

theorem wp_openDevice {path : Bytes} {wanted : Except Int Fd → World → Prop}
    (none : world.opened = []) (failed : ∀ errno, wanted (.error errno) world)
    (given : ∀ fd, wanted (.ok fd) { world with opened := [fd], readBack := fun _ => .none }) :
    wp kernel wanted (openDevice path) world := by
  refine ⟨none, fun result after answered => ?_⟩
  cases result with
  | error errno =>
      obtain rfl : after = world := answered
      exact failed errno
  | ok fd =>
      obtain ⟨-, rfl⟩ := answered
      rw [none]
      exact given fd

theorem wp_close {fd : Fd} {wanted : Unit → World → Prop} (mine : world.opened = [fd])
    (held : wanted () { world with opened := [] }) : wp kernel wanted (close fd) world := by
  refine ⟨by simp [allowed, mine], ?_⟩
  rintro _ _ rfl
  rw [mine, List.erase_cons_head]
  exact held

theorem wp_writeSetting {fd : Fd} {setting : Setting} {value : UInt32}
    {wanted : Except Int Unit → World → Prop} (mine : fd ∈ world.opened)
    (held : ∀ result,
      wanted result { world with readBack := Function.update world.readBack setting none }) :
    wp kernel wanted (writeSetting fd setting value) world := by
  refine ⟨mine, ?_⟩
  rintro result _ rfl
  exact held result

theorem wp_readSetting {fd : Fd} {setting : Setting}
    {wanted : Except Int UInt32 → World → Prop} (mine : fd ∈ world.opened)
    (failed : ∀ errno, wanted (.error errno) world)
    (read : ∀ value, wanted (.ok value)
      { world with readBack := Function.update world.readBack setting (some value) }) :
    wp kernel wanted (readSetting fd setting) world := by
  refine ⟨mine, fun result after answered => ?_⟩
  cases result with
  | error errno =>
      obtain rfl : after = world := answered
      exact failed errno
  | ok value =>
      obtain rfl := answered
      exact read value

/-- Nothing is sent by a call that a signal interrupts, so that the loop stays where it is. -/
theorem wp_sendMessage {fd : Fd} {data : Bytes} {wanted : Except Int Nat → World → Prop}
    (mine : fd ∈ world.opened) (verified : world.verified)
    (failed : ∀ errno, wanted (.error errno) world)
    (took : ∀ taken, taken ≤ intMax → wanted (.ok taken)
      { world with sent := if taken = data.length then world.sent ++ [data] else world.sent }) :
    wp kernel wanted (sendMessage fd data) world := by
  refine wp_retrying (fun now => now = world) rfl ?_
  rintro _ rfl
  refine ⟨⟨mine, verified⟩, fun result after answered => ?_⟩
  cases result with
  | error errno =>
      obtain rfl : after = _ := answered
      exact ⟨fun _ => rfl, fun _ => failed errno⟩
  | ok taken =>
      obtain ⟨bounded, rfl⟩ := answered
      exact ⟨nofun, fun _ => took taken bounded⟩

theorem wp_orThrow {α : Type} {wanted : Except SpiError α → World → Prop} {operation path : Bytes}
    {call : Asks (Except Int α)}
    (holds : wp kernel (fun result after =>
      wanted (result.mapError fun errno => ⟨operation, path, errno⟩) after) call world) :
    wp kernel wanted (orThrow operation path call).run world := by
  unfold orThrow
  refine wp_run_after.mpr (wp_mono holds fun result after held => ?_)
  cases result with
  | ok value => exact held
  | error errno => exact held

end Calls

/-! ### The search for the device -/

theorem matchChild_same (found : List Bytes) (child : Bytes) (world : World) :
    wp kernel (fun _ after => after = world) (matchChild found child) world := by
  unfold matchChild
  have resolved : wp kernel (fun _ after => after = world)
      (resolvedPath (child ++ bytes "/of_node")).run world :=
    wp_orThrow (wp_realpath fun _ => rfl)
  refine wp_seq resolved fun result after same => ?_
  cases result with
  | ok resolved => exact same
  | error error => exact same

theorem discoverStripDevice_same (world : World) :
    wp kernel (fun _ after => after = world) discoverStripDevice.run world := by
  unfold discoverStripDevice
  -- Whatever the search finds, the buffer of `glob` is freed once.
  refine wp_run_after.mpr (wp_glob fun answer => ?_)
  have owed : 0 < world.globs + 1 := Nat.succ_pos _
  cases answer with
  | error result => exact wp_run_after.mpr (wp_globfree owed rfl)
  | ok paths =>
      have searched : wp kernel (fun _ after => after = { world with globs := world.globs + 1 })
          (paths.foldlM matchChild []) { world with globs := world.globs + 1 } := by
        refine wp_foldlM _ ?_ paths rfl
        rintro found child _ rfl
        exact matchChild_same found child _
      refine wp_run_after.mpr (wp_mono searched ?_)
      rintro found _ rfl
      refine wp_run_after.mpr (wp_globfree owed ?_)
      dsimp only
      split
      · split <;> rfl
      · rfl

/-! ### The configuration -/

def World.reading (world : World) (readBack : Setting → Option UInt32) : World :=
  { world with readBack := readBack }

section Configuration

variable {world : World} {fd : Fd} {devicePath : Bytes} {readBefore : Setting → Option UInt32}

theorem writeWanted_reading {setting : Setting} {operation : Bytes} (mine : world.opened = [fd]) :
    wp kernel (fun _ after => ∃ readAfter, after = world.reading readAfter)
      (writeWanted fd devicePath setting operation).run (world.reading readBefore) :=
  wp_orThrow (wp_writeSetting (by simp [World.reading, mine]) fun _ => ⟨_, rfl⟩)

theorem readBack_reading {setting : Setting} (mine : world.opened = [fd]) :
    wp kernel (fun result after =>
      match result with
      | .ok value =>
          after = world.reading (Function.update readBefore setting (some value))
      | .error _ => after = world.reading readBefore)
      (LinuxSpidev.readBack fd devicePath setting).run (world.reading readBefore) :=
  wp_orThrow (wp_readSetting (by simp [World.reading, mine]) (fun _ => rfl) fun _ => rfl)

/-- Only what was read back changes, and the configuration returns on a verified device. -/
def Configures (world : World) (program : Throws Unit) : Prop :=
  ∀ readBefore, wp kernel (fun result after =>
    (∃ readAfter, after = world.reading readAfter) ∧ (result = .ok () → after.verified))
    program.run (world.reading readBefore)

theorem Configures.start {program : Throws Unit} (configures : Configures world program) :
    wp kernel (fun result after =>
      (∃ readAfter, after = world.reading readAfter) ∧ (result = .ok () → after.verified))
      program.run world := configures world.readBack

theorem configures_write {setting : Setting} {operation : Bytes} {next : Throws Unit}
    (mine : world.opened = [fd]) (goes : Configures world next) :
    Configures world (writeWanted fd devicePath setting operation >>= fun _ => next) := by
  refine fun _ => wp_run_seq (writeWanted_reading mine) (fun _ _ same => ⟨same, nofun⟩) ?_
  rintro _ _ ⟨readAfter, rfl⟩
  exact goes readAfter

theorem configure_verified (mine : world.opened = [fd]) :
    Configures world (configure fd devicePath) := by
  refine configures_write mine (configures_write mine (configures_write mine
    (configures_write mine fun _ => ?_)))
  -- Every setting is read after the last one was written.
  refine wp_run_seq (readBack_reading mine) (fun _ _ same => ⟨⟨_, same⟩, nofun⟩) ?_
  rintro actualMode _ rfl
  refine wp_run_seq (readBack_reading mine) (fun _ _ same => ⟨⟨_, same⟩, nofun⟩) ?_
  rintro actualBits _ rfl
  refine wp_run_seq (readBack_reading mine) (fun _ _ same => ⟨⟨_, same⟩, nofun⟩) ?_
  rintro actualLsbFirst _ rfl
  refine wp_run_seq (readBack_reading mine) (fun _ _ same => ⟨⟨_, same⟩, nofun⟩) ?_
  rintro actualSpeed _ rfl
  by_cases unexpected : actualMode ≠ wanted .mode32 ∨ actualBits ≠ wanted .bitsPerWord ∨
      actualLsbFirst ≠ wanted .lsbFirst ∨ actualSpeed ≠ wanted .maxSpeedHz
  · rw [if_pos unexpected]
    exact ⟨⟨_, rfl⟩, nofun⟩
  · rw [if_neg unexpected]
    refine ⟨⟨_, rfl⟩, fun _ setting => ?_⟩
    push Not at unexpected
    obtain ⟨rfl, rfl, rfl, rfl⟩ := unexpected
    cases setting <;> simp [World.reading, Function.update]

end Configuration

/-! ### The calls of the object -/

section Output

variable {world : World} {output : LinuxSpidevOutput}

theorem lookUp_same (world : World) :
    wp kernel (fun _ after => after = world) lookUp.run world := by
  unfold lookUp
  refine wp_run_seq (discoverStripDevice_same world) (fun _ _ same => same) ?_
  rintro devicePath world rfl
  have looked : wp kernel (fun _ after => after = world)
      (orThrow (bytes "device lookup") devicePath (stat devicePath)).run world :=
    wp_orThrow (wp_stat fun _ => rfl)
  refine wp_run_seq looked (fun _ _ same => same) ?_
  rintro isCharacterDevice _ rfl
  cases isCharacterDevice with
  | false => rfl
  | true => rfl

def OwnsOnly (sent : List Bytes) (output : LinuxSpidevOutput) (world : World) : Prop :=
  Owns output world ∧ world.sent = sent

/-- A failure gives back the descriptor that it was reached with. -/
theorem giveUp_owns {fd : Option Fd} (error : SpiError) (mine : world.opened = fd.toList)
    (freed : world.globs = 0) :
    wp kernel (fun result after => OwnsOnly world.sent result.2 after) (giveUp fd error) world := by
  unfold giveUp
  refine wp_bind.mpr (wp_printError ?_)
  cases fd with
  | none => exact ⟨⟨mine, freed, nofun⟩, rfl⟩
  | some fd => exact wp_bind.mpr (wp_close mine ⟨⟨rfl, freed, nofun⟩, rfl⟩)

theorem openOutput_owns (none : world.opened = []) (freed : world.globs = 0) :
    wp kernel (fun result after => OwnsOnly world.sent result.2 after) openOutput world := by
  unfold openOutput
  refine wp_seq (lookUp_same world) ?_
  rintro looked world rfl
  cases looked with
  | error error => exact giveUp_owns error none freed
  | ok devicePath =>
      refine wp_bind.mpr (wp_openDevice none (fun _ => giveUp_owns _ none freed) fun fd => ?_)
      refine wp_seq (configure_verified rfl).start ?_
      rintro configured _ ⟨⟨readAfter, rfl⟩, verified⟩
      cases configured with
      | error error => exact giveUp_owns error rfl freed
      | ok done => exact ⟨⟨rfl, freed, fun _ => verified rfl⟩, rfl⟩

theorem initializeOutput_owns (owns : Owns output world) :
    wp kernel (fun result after => OwnsOnly world.sent result.2 after) (initializeOutput output)
      world := by
  unfold initializeOutput
  cases opened : output.fd with
  | none =>
      have none : world.opened = [] := by
        rw [owns.opened, opened]
        rfl
      exact openOutput_owns none owns.globs
  | some fd => exact ⟨owns, rfl⟩

/-- A payload of more than `INT_MAX` bytes is never taken for sent. -/
theorem taken_eq_int32 {taken length : Nat} (bounded : taken ≤ intMax)
    (fits : length ≤ uint32Max) : (taken : Int) = int32 length ↔ taken = length := by
  unfold intMax at bounded
  unfold uint32Max at fits
  unfold int32
  rw [Int.bmod_def]
  split <;> omega

theorem sendPayload_sent {fd : Fd} {data : Bytes} (devicePath : Bytes) (mine : fd ∈ world.opened)
    (verified : world.verified) (fits : data.length ≤ uint32Max) (some : data ≠ []) :
    wp kernel (fun result after =>
      after = { world with sent := world.sent ++ sentBy (.holding data) result })
      (sendPayload fd devicePath data).run world := by
  have unsent : world = { world with sent := world.sent ++ [] } := by rw [List.append_nil]
  unfold sendPayload
  refine wp_run_bind.mpr (wp_orThrow (wp_sendMessage mine verified (fun errno => unsent)
    fun taken bounded => ?_))
  dsimp only [Except.mapError]
  rw [ite_not]
  simp only [taken_eq_int32 bounded fits]
  by_cases whole : taken = data.length
  · rw [if_pos whole, if_pos whole]
    exact congrArg (fun sent => { world with sent := world.sent ++ sent }) (if_neg some).symm
  · rw [if_neg whole, if_neg whole]
    exact unsent

theorem transfer_owns {buffer : Buffer} (owns : Owns output world) :
    wp kernel (fun result after =>
      OwnsOnly (world.sent ++ sentBy buffer result) output after) (transfer output buffer).run
      world := by
  have unsent {sent : List Bytes} (nothing : sent = []) :
      OwnsOnly (world.sent ++ sent) output world := by
    rw [nothing, List.append_nil]
    exact ⟨owns, rfl⟩
  unfold transfer
  cases opened : output.fd with
  | none => cases buffer <;> exact unsent rfl
  | some fd =>
      cases buffer with
      | null length =>
          dsimp only
          split <;> exact unsent rfl
      | holding data =>
          dsimp only
          by_cases large : uint32Max < data.length
          · rw [if_pos large]
            exact unsent rfl
          rw [if_neg large]
          by_cases empty : data = []
          · rw [if_pos empty]
            exact unsent (if_pos empty)
          rw [if_neg empty]
          have mine : fd ∈ world.opened := by simp [owns.opened, opened]
          have verified := owns.verified (by simp [opened])
          have sent := sendPayload_sent output.devicePath mine verified (Nat.le_of_not_lt large) empty
          refine wp_mono sent ?_
          rintro result _ rfl
          exact ⟨⟨owns.opened, owns.globs, owns.verified⟩, rfl⟩

/-- One call. The list of calls that were made goes with the replies. -/
theorem perform_owns {made : List Call} {state : List Reply × LinuxSpidevOutput} (call : Call)
    (owns : OwnsOnly (delivered made state.1) state.2 world) (answered : made.length = state.1.length) :
    wp kernel (fun after world => after.1.length = made.length + 1 ∧
      OwnsOnly (delivered (made ++ [call]) after.1) after.2 world) (perform state call) world := by
  have one (reply : Reply) : delivered (made ++ [call]) (state.1 ++ [reply]) =
      delivered made state.1 ++ sentFor call reply := by
    simp [delivered, List.zipWith_append answered]
  cases call with
  | initializeOutput =>
      refine wp_seq (initializeOutput_owns owns.1) ?_
      rintro result after ⟨kept, same⟩
      refine ⟨by simp [answered], kept, ?_⟩
      rw [one, same, owns.2]
      simp [sentFor]
  | transfer buffer =>
      refine wp_seq (transfer_owns owns.1) ?_
      rintro result after ⟨kept, same⟩
      refine ⟨by simp [answered], kept, ?_⟩
      rw [one, same, owns.2]
      rfl

theorem performs_owns (calls made : List Call) {state : List Reply × LinuxSpidevOutput}
    (owns : OwnsOnly (delivered made state.1) state.2 world)
    (answered : made.length = state.1.length) :
    wp kernel (fun after world => after.1.length = made.length + calls.length ∧
      OwnsOnly (delivered (made ++ calls) after.1) after.2 world)
      (calls.foldlM perform state) world := by
  induction calls generalizing made state world with
  | nil => exact ⟨answered.symm, by rwa [List.append_nil]⟩
  | cons call rest ih =>
      rw [List.foldlM_cons]
      refine wp_seq (perform_owns call owns answered) ?_
      rintro after now ⟨further, kept⟩
      refine wp_mono (ih (made ++ [call]) kept (by simp [further])) ?_
      rintro last world ⟨all, owns⟩
      rw [List.length_append, List.length_singleton] at all
      rw [List.append_assoc] at owns
      exact ⟨by rw [all, List.length_cons]; omega, owns⟩

theorem destroy_closes (owns : Owns output world) :
    wp kernel (fun _ after => after = { world with opened := [] }) (destroy output) world := by
  unfold destroy
  cases opened : output.fd with
  | none =>
      have none : world.opened = [] := by
        rw [owns.opened, opened]
        rfl
      change world = _
      rw [← none]
  | some fd =>
      have mine : world.opened = [fd] := by
        rw [owns.opened, opened]
        rfl
      exact wp_close mine rfl

end Output

theorem life_kept (calls : List Call) :
    wp kernel (fun replies after => replies.length = calls.length ∧ after.opened = [] ∧
      after.globs = 0 ∧ after.sent = delivered calls replies) (life calls) World.start := by
  have start : OwnsOnly (delivered [] []) .new World.start := ⟨⟨rfl, rfl, nofun⟩, rfl⟩
  refine wp_seq (performs_owns calls [] start rfl) ?_
  rintro state after ⟨answered, owns, sent⟩
  refine wp_seq (destroy_closes owns) ?_
  rintro _ _ rfl
  exact ⟨answered.trans (Nat.zero_add _), rfl, owns.globs, sent⟩

/-- Whatever the kernel answers and wherever the run stands, the next request is one that may be
made; and a life that ended has left nothing open, has freed what `glob` gave it, and has sent
the payloads of the transfers that returned, in their order, and no other. -/
theorem spidev_life (calls : List Call) {rest : Asks (List Reply)} {world : World}
    {exchanges : List (Exchange Answer)}
    (run : Run (Step kernel) (life calls, World.start) exchanges (rest, world)) :
    (∀ syscall, rest.asking = some syscall → allowed world syscall) ∧
      ∀ replies, rest = .done replies → replies.length = calls.length ∧
        world.opened = [] ∧ world.globs = 0 ∧ world.sent = delivered calls replies :=
  wp_sound (life_kept calls) run

def stripChild : Bytes := bytes "/sys/bus/spi/devices/spi3.0"
def stripNode : Bytes := stripChild ++ bytes "/of_node"
def stripDevice : Bytes := bytes "/dev/spidev3.0"

def writes (setting : Setting) : Exchange Answer :=
  ⟨.writeSetting 7 setting (wanted setting), .ok ()⟩

def reads (setting : Setting) : Exchange Answer :=
  ⟨.readSetting 7 setting, .ok (wanted setting)⟩

/-- The strip is found and configured, and takes a payload after an interrupted call. -/
def sentExchanges : List (Exchange Answer) :=
  [⟨.glob spiDevicesPattern, .ok [stripChild]⟩, ⟨.realpath stripNode, .ok stripDeviceTreeSuffix⟩,
    ⟨.globfree, ()⟩, ⟨.stat stripDevice, .ok true⟩, ⟨.openDevice stripDevice, .ok 7⟩,
    writes .mode32, writes .bitsPerWord, writes .lsbFirst, writes .maxSpeedHz,
    reads .mode32, reads .bitsPerWord, reads .lsbFirst, reads .maxSpeedHz,
    ⟨.message 7 [170, 85], .error eintr⟩, ⟨.message 7 [170, 85], .ok 2⟩, ⟨.close 7, ()⟩]

theorem spidev_life_sent : ∃ world : World,
    Run (Step kernel) (life [.initializeOutput, .transfer (.holding [170, 85])], World.start)
      sentExchanges (.done [.initialized true, .transferred (.ok ())], world) ∧
    world.opened = [] ∧ world.sent = [[170, 85]] := by
  have run : ∃ world, Run (Step kernel)
      (life [.initializeOutput, .transfer (.holding [170, 85])], World.start) sentExchanges
      (.done [.initialized true, .transferred (.ok ())], world) :=
    ⟨_, run_ask rfl (run_ask rfl (run_ask rfl (run_ask rfl (run_ask ⟨List.not_mem_nil, rfl⟩
      (run_ask rfl (run_ask rfl (run_ask rfl (run_ask rfl
      (run_ask rfl (run_ask rfl (run_ask rfl (run_ask rfl
      (run_again rfl rfl (run_last ⟨by decide, rfl⟩ rfl (run_ask rfl .start)))))))))))))))⟩
  obtain ⟨world, run⟩ := run
  obtain ⟨-, opened, -, sent⟩ := (spidev_life _ run).2 _ rfl
  exact ⟨world, run, opened, sent⟩

end OClock.SpidevLife

import DragonOS.Boot.MouseChip

/-!
# Starting the mouse

The driver empties the output, switches the mouse on, rewrites the mode byte and asks the mouse
to report. `Sits` is what it knows about the controller at rest, `Pending` what it knows before
a byte has been taken. It fails only when the controller keeps it waiting.
-/

namespace DragonOS.Boot

open Lib Lib.Dialogue

namespace Chip

def stream (chip : Chip) : List UInt8 :=
  (match chip.output with
    | some (byte, true) => [byte]
    | _ => []) ++ chip.outbox

/-- The mouse has sent `unread` and then its packets. -/
structure Sits (awaited : Option Awaited) (mode : UInt8) (reporting : Bool) (unread : List UInt8)
    (sent : List (UInt16 × UInt8)) (chip : Chip) : Prop where
  awaited_eq : chip.awaited = awaited
  mode_eq : chip.mode = mode
  reporting_eq : chip.reporting = reporting
  sent_eq : chip.sent = sent
  lost_eq : chip.lost = []
  stream_eq : chip.stream = unread ++ chip.moves.flatMap Packet.bytes
  quiet : reporting = false → chip.moves = []

/-- A byte that does not come from the mouse is a key, or one of the controller's own. -/
def Typed (own : UInt8 → Prop) (chip : Chip) : Prop :=
  ∀ byte, chip.output = some (byte, false) → byte ∈ chip.keys ∨ own byte

section
variable {chip : Chip} {awaited : Option Awaited} {mode : UInt8} {reporting : Bool}
  {unread : List UInt8} {sent : List (UInt16 × UInt8)} {own : UInt8 → Prop}

theorem stream_of_other (h : ∀ byte, chip.output ≠ some (byte, true)) :
    chip.stream = chip.outbox := by
  rw [stream]
  split
  next byte houtput => exact absurd houtput (h byte)
  next => rfl

theorem steady_sits : Steady (Sits awaited mode reporting unread sent) where
  deliver {chip byte rest} h hempty hbox := by
    refine ⟨h.awaited_eq, h.mode_eq, h.reporting_eq, h.sent_eq, h.lost_eq, ?_, h.quiet⟩
    have hstream : chip.stream = chip.outbox := stream_of_other (by rw [hempty]; nofun)
    have hkept := h.stream_eq
    rwa [hstream, hbox] at hkept
  press {chip byte} h hempty := by
    refine ⟨h.awaited_eq, h.mode_eq, h.reporting_eq, h.sent_eq, h.lost_eq, ?_, h.quiet⟩
    have hstream : chip.stream = chip.outbox := stream_of_other (by rw [hempty]; nofun)
    have hkept := h.stream_eq
    rwa [hstream] at hkept
  move {chip packet} h hreports hstarts := by
    refine ⟨h.awaited_eq, h.mode_eq, h.reporting_eq, h.sent_eq, h.lost_eq, ?_, fun hstill => ?_⟩
    · rw [List.flatMap_append, ← List.append_assoc, ← h.stream_eq, List.flatMap_singleton]
      exact (List.append_assoc _ _ _).symm
    · rw [h.reporting_eq, hstill] at hreports
      exact absurd hreports nofun
  wait h := ⟨h.awaited_eq, h.mode_eq, h.reporting_eq, h.sent_eq, h.lost_eq, h.stream_eq, h.quiet⟩
  lost h := h.lost_eq

theorem keeps_typed : Keeps (Typed own) where
  deliver _ _ _ := nofun
  press {chip byte} _ _ other hother := by
    obtain ⟨rfl, -⟩ := Prod.mk.inj (Option.some.inj hother)
    exact .inl (List.mem_append_right _ (List.mem_singleton.mpr rfl))
  move h _ _ := h
  wait h := h

theorem Sits.written (h : chip.Sits awaited mode reporting unread sent) (hfree : chip.input = none)
    (address : UInt16) (value : UInt8) :
    (chip.written address value).Sits awaited mode reporting unread ((address, value) :: sent) where
  awaited_eq := h.awaited_eq
  mode_eq := h.mode_eq
  reporting_eq := h.reporting_eq
  sent_eq := by rw [← h.sent_eq]; rfl
  lost_eq := by
    show chip.input.toList ++ chip.lost = []
    rw [hfree, h.lost_eq]
    rfl
  stream_eq := h.stream_eq
  quiet := h.quiet

theorem Sits.emptied (h : chip.Sits awaited mode reporting unread sent)
    (hother : ∀ byte, chip.output ≠ some (byte, true)) :
    chip.emptied.Sits awaited mode reporting unread sent :=
  ⟨h.awaited_eq, h.mode_eq, h.reporting_eq, h.sent_eq, h.lost_eq,
    by have hkept := h.stream_eq; rwa [stream_of_other hother] at hkept, h.quiet⟩

theorem Sits.emptied_mouse (h : chip.Sits awaited mode reporting (byte :: unread) sent)
    (houtput : chip.output = some (other, true)) :
    other = byte ∧ chip.emptied.Sits awaited mode reporting unread sent := by
  have hstream := h.stream_eq
  rw [stream, houtput] at hstream
  obtain ⟨rfl, hrest⟩ := List.cons.inj hstream
  exact ⟨rfl, h.awaited_eq, h.mode_eq, h.reporting_eq, h.sent_eq, h.lost_eq, hrest, h.quiet⟩

theorem Sits.still (h : chip.Sits awaited mode false [] sent) :
    (∀ byte, chip.output ≠ some (byte, true)) ∧ chip.outbox = [] := by
  have hstream := h.stream_eq
  rw [h.quiet rfl] at hstream
  obtain ⟨houtput, hbox⟩ := List.append_eq_nil_iff.mp hstream
  exact ⟨fun byte hbyte => by rw [hbyte] at houtput; exact absurd houtput nofun, hbox⟩

-- ---------------------------------------------------------------------------
-- The bytes that the driver writes
-- ---------------------------------------------------------------------------

theorem Sits.enableMouse (h : chip.Sits awaited mode reporting unread sent) :
    (chip.take 0x64 0xA8).Sits awaited (mode &&& 0xDF) reporting unread sent :=
  ⟨h.awaited_eq, congrArg (· &&& 0xDF) h.mode_eq, h.reporting_eq, h.sent_eq, h.lost_eq, h.stream_eq,
    h.quiet⟩

theorem Sits.readMode (h : chip.Sits awaited mode reporting unread sent) (hempty : chip.output = none) :
    (chip.take 0x64 0x20).Sits awaited mode reporting unread sent :=
  ⟨h.awaited_eq, h.mode_eq, h.reporting_eq, h.sent_eq, h.lost_eq, by
    have hstream : chip.stream = chip.outbox := stream_of_other (by rw [hempty]; nofun)
    have hkept := h.stream_eq
    rwa [hstream] at hkept, h.quiet⟩

theorem Sits.writeMode (h : chip.Sits awaited mode reporting unread sent) :
    (chip.take 0x64 0x60).Sits (some .mode) mode reporting unread sent :=
  ⟨rfl, h.mode_eq, h.reporting_eq, h.sent_eq, h.lost_eq, h.stream_eq, h.quiet⟩

theorem Sits.writeMouse (h : chip.Sits awaited mode reporting unread sent) :
    (chip.take 0x64 0xD4).Sits (some .mouse) mode reporting unread sent :=
  ⟨rfl, h.mode_eq, h.reporting_eq, h.sent_eq, h.lost_eq, h.stream_eq, h.quiet⟩

theorem Sits.setMode (h : chip.Sits (some .mode) mode reporting unread sent) (value : UInt8) :
    (chip.take 0x60 value).Sits none value reporting unread sent := by
  have htake : chip.take 0x60 value = { chip with input := none, mode := value, awaited := none } := by
    rw [take, if_neg (by decide), data]
    simp only [h.awaited_eq]
  rw [htake]
  exact ⟨rfl, rfl, h.reporting_eq, h.sent_eq, h.lost_eq, h.stream_eq, h.quiet⟩

theorem Sits.tellMouse (h : chip.Sits (some .mouse) mode false [] sent)
    (hcommand : value = 0xF6 ∧ reporting = false ∨ value = 0xF4 ∧ reporting = true) :
    (chip.take 0x60 value).Sits none mode reporting [0xFA] sent := by
  obtain ⟨hother, -⟩ := h.still
  have htake : chip.take 0x60 value =
      { chip with input := none, reporting := reporting, outbox := [0xFA], awaited := none } := by
    rw [take, if_neg (by decide), data]
    simp only [h.awaited_eq, Chip.tellMouse]
    rcases hcommand with ⟨rfl, rfl⟩ | ⟨rfl, rfl⟩ <;> rfl
  rw [htake]
  refine ⟨rfl, h.mode_eq, rfl, h.sent_eq, h.lost_eq, ?_, fun _ => h.quiet rfl⟩
  refine Eq.trans (stream_of_other fun byte => hother byte) ?_
  show [0xFA] = [0xFA] ++ chip.moves.flatMap Packet.bytes
  rw [h.quiet rfl]
  rfl

theorem stable_writeMode : Stable (Pending 0x64 0x60 (Sits awaited mode reporting unread sent)
    (Sits (some .mode) mode reporting unread sent)) :=
  steady_sits.pending steady_sits fun _ h _ => h.writeMode

theorem stable_writeMouse : Stable (Pending 0x64 0xD4 (Sits awaited mode reporting unread sent)
    (Sits (some .mouse) mode reporting unread sent)) :=
  steady_sits.pending steady_sits fun _ h _ => h.writeMouse

theorem stable_setMode (value : UInt8) :
    Stable (Pending 0x60 value (Sits (some .mode) mode reporting unread sent)
      (Sits none value reporting unread sent)) :=
  steady_sits.pending steady_sits fun _ h _ => h.setMode value

theorem stable_tellMouse
    (hcommand : value = 0xF6 ∧ reporting = false ∨ value = 0xF4 ∧ reporting = true) :
    Stable (Pending 0x60 value (Sits (some .mouse) mode false [] sent)
      (Sits none mode reporting [0xFA] sent)) :=
  steady_sits.pending steady_sits fun _ h _ => h.tellMouse hcommand

-- ---------------------------------------------------------------------------
-- The exchange
-- ---------------------------------------------------------------------------

/-- Nothing is under way and nothing has been recorded. A byte from before may still be in
the output. -/
structure Idle (chip : Chip) : Prop where
  input : chip.input = none
  awaited : chip.awaited = none
  reporting : chip.reporting = false
  outbox : chip.outbox = []
  sent : chip.sent = []
  lost : chip.lost = []
  keys : chip.keys = []
  moves : chip.moves = []

/-- As it was at first, apart from the keys. -/
structure Untouched (mode : UInt8) (sent : List (UInt16 × UInt8)) (chip : Chip) : Prop where
  awaited_eq : chip.awaited = none
  mode_eq : chip.mode = mode
  reporting_eq : chip.reporting = false
  sent_eq : chip.sent = sent
  lost_eq : chip.lost = []
  outbox_eq : chip.outbox = []
  moves_eq : chip.moves = []

theorem steady_untouched : Steady (Untouched mode sent) where
  deliver h _ hbox := absurd (h.outbox_eq.symm.trans hbox) nofun
  press h _ := ⟨h.awaited_eq, h.mode_eq, h.reporting_eq, h.sent_eq, h.lost_eq, h.outbox_eq, h.moves_eq⟩
  move h hreports _ := absurd (h.reporting_eq.symm.trans hreports) nofun
  wait h := ⟨h.awaited_eq, h.mode_eq, h.reporting_eq, h.sent_eq, h.lost_eq, h.outbox_eq, h.moves_eq⟩
  lost h := h.lost_eq

theorem Untouched.sits (h : chip.Untouched mode sent) (hempty : chip.output = none) :
    chip.Sits none mode false [] sent :=
  ⟨h.awaited_eq, h.mode_eq, h.reporting_eq, h.sent_eq, h.lost_eq,
    by rw [stream_of_other (by rw [hempty]; nofun), h.outbox_eq, h.moves_eq]; rfl, fun _ => h.moves_eq⟩

theorem ends_acknowledged (hclock : mode &&& 0x20 = 0)
    (hcommand : value = 0xF6 ∧ reporting = false ∨ value = 0xF4 ∧ reporting = true)
    (h : chip.Pending 0x60 value (Sits (some .mouse) mode false [] sent)
      (Sits none mode reporting [0xFA] sent)) :
    Ports.ps2Acknowledged.Ends Answers
      (OrStalled fun after => after.Sits none mode reporting [] sent ∧ after.input = none) chip := by
  refine Ends.bind (ends_waitForOutputByte
    (stable_tellMouse hcommand) h ?_ ?_ ?_ ?_)
    fun _ _ hafter => hafter
  · rintro chip byte - hpending houtput
    have hother (mine : UInt8) : chip.output ≠ some (mine, true) := by
      rw [houtput]
      simp
    exact hpending.imp (fun h => ⟨h.1.emptied hother, h.2⟩) fun h => ⟨h.1.emptied hother, h.2⟩
  · rintro chip (⟨h, hinput⟩ | ⟨h, -⟩) hothers
    · exact .inl (by rw [hinput]; nofun)
    · refine .inr ⟨fun hbox => ?_, by rw [Clocked, h.mode_eq]; exact hclock⟩
      have hstream := h.stream_eq
      rw [stream_of_other fun byte hbyte => absurd (hothers byte true hbyte).2 (by decide), hbox] at hstream
      exact absurd hstream nofun
  · rintro ready byte fromMouse hready houtput hmouse
    obtain rfl := hmouse rfl
    rcases hready with ⟨h, -⟩ | ⟨h, hinput⟩
    · exact absurd houtput (h.still.1 byte)
    · obtain ⟨rfl, hafter⟩ := h.emptied_mouse houtput
      exact ends_pure (.inl ⟨rfl, hafter, hinput⟩)
  · exact fun after hafter => ends_pure (.inr ⟨rfl, hafter⟩)

theorem ends_writeMouseCommand {P : Chip → Prop} (hP : Stable P) (h : P chip)
    (hfree : ∀ chip, P chip → chip.input = none → chip.Sits none mode false [] sent)
    (value : UInt8) :
    (Ports.ps2WriteMouseCommand value).Ends Answers (OrStalled fun after =>
      after.Sits (some .mouse) mode false [] ((0x60, value) :: (0x64, 0xD4) :: sent) ∧
        after.input = some (0x60, value)) chip :=
  ends_guarded (ends_waitAndWrite hP h fun _ h hinput => (hfree _ h hinput).written hinput _ _)
    fun _ hafter => ends_waitAndWrite stable_writeMouse (.inl hafter) fun _ h hinput =>
      (h.free hinput).written hinput _ _

theorem Pending.emptied {awaited' : Option Awaited} {mode' : UInt8}
    (h : chip.Pending address value (Sits awaited mode false [] sent) (Sits awaited' mode' false [] sent)) :
    chip.emptied.Pending address value (Sits awaited mode false [] sent)
      (Sits awaited' mode' false [] sent) :=
  h.imp (fun h => ⟨h.1.emptied h.1.still.1, h.2⟩) fun h => ⟨h.1.emptied h.1.still.1, h.2⟩

def modeFor (config : UInt8) : UInt8 := (config ||| 0x02) &&& 0xDF

def startBytes (config : UInt8) : List (UInt16 × UInt8) :=
  [(0x60, 0xF4), (0x64, 0xD4), (0x60, 0xF6), (0x64, 0xD4), (0x60, modeFor config), (0x64, 0x60),
    (0x64, 0x20), (0x64, 0xA8)]

theorem modeFor_clocked (config : UInt8) : modeFor config &&& 0x20 = 0 := by
  rw [modeFor, UInt8.and_assoc]
  exact UInt8.and_zero

theorem ends_afterConfig {P : Chip → Prop} {config : UInt8} (hP : Stable P) (h : P chip)
    (hfree : ∀ chip, P chip → chip.input = none →
      chip.Sits none mode false [] ((0x64, 0x20) :: (0x64, 0xA8) :: sent)) :
    (do
      unless ← Ports.ps2WriteControllerCommand 0x60 do return false
      unless ← Ports.ps2WriteControllerData (modeFor config) do return false
      Ports.ps2FlushOutputBuffer
      unless ← Ports.ps2WriteMouseCommand 0xF6 do return false
      unless ← Ports.ps2Acknowledged do return false
      unless ← Ports.ps2WriteMouseCommand 0xF4 do return false
      Ports.ps2Acknowledged : Driver Bool).Ends Answers (OrStalled fun after =>
        after.Sits none (modeFor config) true [] (startBytes config ++ sent) ∧ after.input = none)
        chip := by
  have hclock := modeFor_clocked config
  refine ends_guarded (ends_waitAndWrite hP h fun _ h hinput => (hfree _ h hinput).written hinput _ _)
    fun after hafter => ?_
  refine ends_guarded (ends_waitAndWrite stable_writeMode (.inl hafter) fun _ h hinput =>
    (h.free hinput).written hinput _ _) fun after hafter => ?_
  refine (ends_flushOutputBuffer (stable_setMode _) (stable_setMode _) (.inl hafter) (fun _ h _ => h)
    (fun _ h => h.emptied) fun _ h => h.emptied).bind fun _ after hafter => ?_
  refine ends_guarded (ends_writeMouseCommand (stable_setMode _) hafter (fun _ h => h.free) 0xF6) fun after hafter => ?_
  refine ends_guarded (ends_acknowledged hclock (.inl ⟨rfl, rfl⟩) (.inl hafter)) fun after hafter => ?_
  refine ends_guarded (ends_writeMouseCommand steady_sits.free hafter (fun _ h _ => h.1) 0xF4)
    fun after hafter => ?_
  exact ends_acknowledged hclock (.inr ⟨rfl, rfl⟩) (.inl hafter)

def Listens (mode : UInt8) (sent : List (UInt16 × UInt8)) (own : UInt8 → Prop) (chip : Chip) : Prop :=
  chip.Sits none mode false [] sent ∧ chip.Typed own

theorem steady_listens : Steady (Listens mode sent own) := steady_sits.and keeps_typed

theorem Listens.written (h : chip.Listens mode sent own) (hfree : chip.input = none)
    (address : UInt16) (value : UInt8) :
    (chip.written address value).Listens mode ((address, value) :: sent) own :=
  ⟨h.1.written hfree address value, h.2⟩

theorem Listens.enableMouse (h : chip.Listens mode sent own) :
    (chip.take 0x64 0xA8).Listens (mode &&& 0xDF) sent own :=
  ⟨h.1.enableMouse, h.2⟩

theorem Listens.emptied (h : chip.Listens mode sent own) : chip.emptied.Listens mode sent own :=
  ⟨h.1.emptied h.1.still.1, nofun⟩

theorem stable_enableMouse : Stable (Pending 0x64 0xA8 (Listens mode sent own)
    (Listens (mode &&& 0xDF) sent own)) :=
  steady_listens.pending steady_listens fun _ h _ => h.enableMouse

/-- The mode can be told from a key only by what it is. -/
theorem stable_readMode : Stable (Pending 0x64 0x20 (Listens mode sent fun _ => False)
    fun chip => chip.Listens mode sent (· = mode) ∧ chip.output ≠ none) := by
  have hfull : Keeps fun chip => chip.output ≠ none :=
    ⟨fun h hempty _ => absurd hempty h, fun h hempty => absurd hempty h, fun h _ _ => h, fun h => h⟩
  refine steady_listens.pending (steady_listens.and hfull) fun chip h hallowed => ?_
  have htake : chip.take 0x64 0x20 = { chip with input := none, output := some (chip.mode, false) } := rfl
  refine ⟨⟨h.1.readMode (hallowed rfl rfl), ?_⟩, by rw [htake]; nofun⟩
  rw [htake]
  intro byte hbyte
  obtain ⟨rfl, -⟩ := Prod.mk.inj (Option.some.inj hbyte)
  exact .inr h.1.mode_eq

def Answered (mode : UInt8) (sent : List (UInt16 × UInt8)) (found : Option UInt8) (after : Chip) :
    Prop :=
  (found = none ∧ after.Stalled) ∨ ∃ config, found = some config ∧
    (config = mode ∨ config ∈ after.keys) ∧
      after.Pending 0x64 0x20 (Sits none mode false [] sent) (Sits none mode false [] sent)

theorem ends_waitForMode (h : chip.Listens mode sent fun _ => False)
    (hinput : chip.input = some (0x64, 0x20)) :
    (Ports.ps2WaitForOutputByte false).Ends Answers (Answered mode sent) chip := by
  refine ends_waitForOutputByte stable_readMode (.inl ⟨h, hinput⟩) nofun ?_ ?_
    fun _ hafter => .inl ⟨rfl, hafter⟩
  · rintro chip (⟨-, hinput⟩ | ⟨⟨-, hfull⟩, -⟩) hothers
    · exact .inl (by rw [hinput]; nofun)
    · obtain ⟨⟨byte, fromMouse⟩, houtput⟩ := Option.ne_none_iff_exists'.mp hfull
      exact absurd (hothers byte fromMouse houtput).1 (by decide)
  · rintro ready byte fromMouse hready houtput -
    refine .inr ⟨byte, rfl, ?_⟩
    rcases hready with ⟨⟨hsits, htyped⟩, hinput⟩ | ⟨⟨⟨hsits, htyped⟩, -⟩, hinput⟩
    all_goals
      obtain rfl : fromMouse = false := by
        cases fromMouse
        · rfl
        · exact absurd houtput (hsits.still.1 byte)
    · exact ⟨.inr ((htyped byte houtput).resolve_right id), .inl ⟨hsits.emptied hsits.still.1, hinput⟩⟩
    · exact ⟨(htyped byte houtput).symm, .inr ⟨hsits.emptied hsits.still.1, hinput⟩⟩

theorem stable_modeRead : Stable (Pending 0x64 0x20 (Sits none mode false [] sent)
    (Sits none mode false [] sent)) :=
  steady_sits.pending steady_sits fun _ h hallowed => h.readMode (hallowed rfl rfl)

/-- The mouse has been started. The mode byte is the one from before, unless a key was pressed
in between and has been taken for it. -/
structure Started (mode : UInt8) (after : Chip) : Prop where
  input : after.input = none
  mode : ∃ config, (config = mode &&& 0xDF ∨ config ∈ after.keys) ∧
    after.Sits none (modeFor config) true [] (startBytes config)

theorem ends_enableMouse (h : chip.Idle) :
    Ports.ps2EnableMouse.Ends Answers (OrStalled (Started chip.mode)) chip := by
  have hidle : chip.Untouched chip.mode [] ∧ chip.input = none :=
    ⟨⟨h.awaited, rfl, h.reporting, h.sent, h.lost, h.outbox, h.moves⟩, h.input⟩
  have hlistens : Steady (Listens chip.mode [] fun _ => False) := steady_listens
  refine (ends_flushOutputBuffer steady_untouched.free hlistens.free hidle
    (fun chip h hempty => ⟨⟨h.1.sits hempty, by rw [Typed, hempty]; nofun⟩, h.2⟩) ?_
    fun chip h => ⟨h.1.emptied, h.2⟩).bind fun _ after hafter => ?_
  · rintro chip ⟨h, hinput⟩
    have h : chip.emptied.Untouched _ _ :=
      ⟨h.awaited_eq, h.mode_eq, h.reporting_eq, h.sent_eq, h.lost_eq, h.outbox_eq, h.moves_eq⟩
    exact ⟨⟨h.sits rfl, nofun⟩, hinput⟩
  refine ends_guarded (ends_waitAndWrite steady_listens.free hafter fun _ h hinput =>
    h.1.written hinput _ _) fun after hafter => ?_
  refine ends_guarded (ends_waitAndWrite stable_enableMouse (.inl hafter) fun _ h hinput =>
    (h.free hinput).written hinput _ _) fun after hafter => ?_
  refine (ends_waitForMode hafter.1 hafter.2).bind fun found after hafter => ?_
  rcases hafter with ⟨rfl, hstalled⟩ | ⟨config, rfl, hconfig, hpending⟩
  · exact ends_pure (.inr ⟨rfl, hstalled⟩)
  refine ((ends_afterConfig stable_modeRead hpending fun _ h hinput => h.free hinput).and
    (ends_grows _ after)).mono fun ok final hfinal => hfinal.1.imp_left fun ⟨hok, hsits, hinput⟩ => ?_
  exact ⟨hok, hinput, config, hconfig.imp_right fun hkey => hfinal.2.keys.subset hkey, hsits⟩

def Initialized (mode : UInt8) (mouseState : Ps2MouseState) (result : UInt8 × Ps2MouseState)
    (after : Chip) : Prop :=
  (result = (1, { mouseState.reset with enabled := 1 }) ∧ Started mode after) ∨
    (result = (0, mouseState.reset) ∧ after.Stalled)

theorem ends_initializePs2Mouse (h : chip.Idle) (mouseState : Ps2MouseState) :
    (Ports.initializePs2Mouse mouseState).Ends Answers (Initialized chip.mode mouseState) chip := by
  refine (ends_enableMouse h).bind fun ok after hafter => ?_
  rcases hafter with ⟨rfl, hstarted⟩ | ⟨rfl, hstalled⟩
  · exact ends_pure (.inl ⟨rfl, hstarted⟩)
  · exact ends_pure (.inr ⟨rfl, hstalled⟩)

/-- An idle mouse is started, whatever keys are pressed and however long the controller takes,
unless it takes too long. On the readings that it has given, the model does the same. -/
theorem initializePs2Mouse_starts (h : chip.Idle) (mouseState : Ps2MouseState) :
    (Ports.initializePs2Mouse mouseState).Ends Answers (fun result after =>
      Initialized chip.mode mouseState result after ∧ ∃ readings,
        initializePs2Mouse mouseState ⟨readings, []⟩ = (result, ⟨[], after.sent⟩)) chip := by
  refine ((ends_initializePs2Mouse h mouseState).and (ends_mirrors (Ports.mirrors_initializePs2Mouse mouseState) chip)).mono
    fun result after hafter => ⟨hafter.1, ?_⟩
  obtain ⟨readings, hreadings⟩ := hafter.2
  have hmodel := hreadings []
  rw [List.append_nil, h.sent] at hmodel
  exact ⟨readings, hmodel⟩

/-- A controller with a byte left over in its output, and the clock of the mouse off. -/
def resting : Chip := ⟨some (0xAA, true), none, none, 0x65, false, [], 0, [], [], [], []⟩

theorem idle_resting : resting.Idle := ⟨rfl, rfl, rfl, rfl, rfl, rfl, rfl, rfl⟩

theorem initializePs2Mouse_starts_resting :
    (Ports.initializePs2Mouse default).Ends Answers (fun result after =>
      Initialized 0x65 default result after ∧ ∃ readings,
        initializePs2Mouse default ⟨readings, []⟩ = (result, ⟨[], after.sent⟩)) resting :=
  initializePs2Mouse_starts idle_resting default

end

end Chip

end DragonOS.Boot

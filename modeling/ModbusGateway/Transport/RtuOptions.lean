import ModbusGateway.Config.Acceptance
import ModbusGateway.Library.FlagWord
import ModbusGateway.Transport.ModbusRtuMaster
import ModbusGateway.Transport.ModbusRtuSlave

/-!
# The options of a serial port

`transport/rtu_options.cpp`, and the constructors of `ModbusRtuMaster` and `ModbusRtuSlave` with
what they do to their serial port.  The master calls `SetOptions`, which also applies the RS485
options; the slave sets the five other options itself, and ignores those of RS485.

What `asio` and the kernel do to a port is a parameter: opening it and setting an option may
fail, and change only the settings; `TIOCGRS485` and `TIOCSRS485` read and write all of the RS485
state.

## Main definitions

* `SerialPort`, `SerialDriver` — the state of a port, and what is called to change it.
* `setOption`, `SerialDriver.setOptions` — `SetOption` and `SetOptions`.
* `ModbusRtuMaster.construct`, `ModbusRtuSlave.construct` — the constructors.
* `Rs485.Applied` — the RS485 state that the options ask for.
* `ConfiguredAlike` — both constructors leave the port in the same state, with its options applied.

## Main results

* `Rs485.applied_update` — **`SetOptions` applies the RS485 options that are given, and keeps what
  is not.**
* `configuredAlike_iff` — **the constructors configure a port alike exactly if it refuses, or no
  RS485 options are given, or they are in force already.**
-/

namespace ModbusGateway

/-- The flags of `SER_RS485` that the gateway uses. -/
inductive Rs485Flag
  | enabled
  | rtsOnSend
  | rtsAfterSend
  | rxDuringTx
  | terminateBus
  deriving DecidableEq, Repr

/-- The bits of the flags, which are different ones. -/
structure Rs485Bits where
  bit : Rs485Flag → Fin 32
  injective : Function.Injective bit

/-- The flag as a word. -/
def Rs485Bits.mask (bits : Rs485Bits) (flag : Rs485Flag) : BitVec 32 :=
  FlagWord.flag (bits.bit flag)

/-- `serial_rs485`. -/
@[ext] structure SerialRs485 where
  flags : BitVec 32
  delayRtsBeforeSend : UInt32
  delayRtsAfterSend : UInt32
  padding : List UInt32
  deriving DecidableEq, Repr

/-- Whether a flag is set. -/
def SerialRs485.has (config : SerialRs485) (bits : Rs485Bits) (flag : Rs485Flag) : Bool :=
  config.flags.getLsbD (bits.bit flag)

/-- The state of a serial port: the settings that the options of `asio` change, and RS485. -/
structure SerialPort (τ : Type) where
  settings : τ
  rs485 : SerialRs485
  deriving DecidableEq, Repr

/-- The options of `asio::serial_port_base`. -/
inductive SerialOption
  | baudRate (value : UInt32)
  | characterSize (value : UInt32)
  | parity (value : Parity)
  | stopBits (value : StopBits)
  | flowControl (value : FlowControl)
  deriving DecidableEq, Repr

/-- What `asio` and the kernel do to a port; an `ioctl` that fails has an `errno`. -/
structure SerialDriver (τ : Type) where
  openPort : String → τ → Except String Unit × τ
  setOption : SerialOption → τ → Except String Unit × τ
  tiocgrs485 : SerialPort τ → Except ℕ SerialRs485
  tiocsrs485 : SerialRs485 → SerialPort τ → Except ℕ (SerialPort τ)
  strerror : ℕ → String

/-- `TIOCGRS485` and `TIOCSRS485` read and write the whole state, and succeed. -/
structure SerialDriver.Lawful {τ : Type} (driver : SerialDriver τ) : Prop where
  get : ∀ port, driver.tiocgrs485 port = .ok port.rs485
  set : ∀ config port, driver.tiocsrs485 config port = .ok { port with rs485 := config }

/-- What is done to a port, and may throw. -/
abbrev PortM (τ : Type) := ExceptT String (StateM (SerialPort τ))

/-- `SetOption(flags, option, flag)`. -/
def setOption (flags : BitVec 32) (option : Option Bool) (flag : BitVec 32) : BitVec 32 :=
  match option with
  | none => flags
  | some true => flags ||| flag
  | some false => flags &&& ~~~flag

/-- What `SetOptions` does to the RS485 state between the two `ioctl`s. -/
def Rs485.update (bits : Rs485Bits) (rs485Options : Rs485) (rs485config : SerialRs485) :
    SerialRs485 :=
  let flags := rs485config.flags ||| bits.mask .enabled
  let flags := setOption flags rs485Options.rtsOnSend (bits.mask .rtsOnSend)
  let flags := setOption flags rs485Options.rtsAfterSend (bits.mask .rtsAfterSend)
  let flags := setOption flags rs485Options.rxDuringTx (bits.mask .rxDuringTx)
  let flags := setOption flags rs485Options.terminateBus (bits.mask .terminateBus)
  { rs485config with
    flags
    delayRtsBeforeSend :=
      rs485Options.delayRtsBeforeSend.getD rs485config.delayRtsBeforeSend
    delayRtsAfterSend :=
      rs485Options.delayRtsAfterSend.getD rs485config.delayRtsAfterSend }

namespace SerialDriver

variable {τ : Type} (driver : SerialDriver τ)

/-- `serialPort.open(device)`. -/
def openDevice (device : String) : PortM τ Unit := fun port =>
  ((driver.openPort device port.settings).1,
    { port with settings := (driver.openPort device port.settings).2 })

/-- `serialPort.set_option(option)`. -/
def set (option : SerialOption) : PortM τ Unit := fun port =>
  ((driver.setOption option port.settings).1,
    { port with settings := (driver.setOption option port.settings).2 })

/-- `ioctl(fd, TIOCGRS485, &rs485config)`, and the exception when it fails. -/
def getRs485 : PortM τ SerialRs485 := fun port =>
  match driver.tiocgrs485 port with
  | .error errno => (.error ("get rs485 options error: " ++ driver.strerror errno), port)
  | .ok rs485config => (.ok rs485config, port)

/-- `ioctl(fd, TIOCSRS485, &rs485config)`, and the exception when it fails. -/
def setRs485 (rs485config : SerialRs485) : PortM τ Unit := fun port =>
  match driver.tiocsrs485 rs485config port with
  | .error errno => (.error ("set rs485 options error: " ++ driver.strerror errno), port)
  | .ok port => (.ok (), port)

/-- The second half of `SetOptions(serialPort, options)`, for `options.rs485`. -/
def applyRs485 (bits : Rs485Bits) : Option Rs485 → PortM τ Unit
  | none => return ()
  | some rs485Options => do
    let rs485config ← driver.getRs485
    driver.setRs485 (rs485Options.update bits rs485config)

/-- `SetOptions(serialPort, options)`. -/
def setOptions (bits : Rs485Bits) (options : RtuOptions) : PortM τ Unit := do
  driver.set (.baudRate options.baudRate)
  driver.set (.characterSize options.characterSize)
  driver.set (.parity options.parity)
  driver.set (.stopBits options.stopBits)
  driver.set (.flowControl options.flowControl)
  driver.applyRs485 bits options.rs485

end SerialDriver

variable {β τ : Type}

/-- The constructor of `ModbusRtuSlave`. -/
def ModbusRtuSlave.construct (driver : SerialDriver τ) (device : String) (options : RtuOptions)
    (id : ActorId) (frameType : FrameType) : PortM τ (ModbusRtuSlave β) := do
  driver.openDevice device
  driver.set (.baudRate options.baudRate)
  driver.set (.characterSize options.characterSize)
  driver.set (.parity options.parity)
  driver.set (.stopBits options.stopBits)
  driver.set (.flowControl options.flowControl)
  return .new id frameType

/-- The constructor of `ModbusRtuMaster`. -/
def ModbusRtuMaster.construct (driver : SerialDriver τ) (bits : Rs485Bits) (device : String)
    (options : RtuOptions) (timeout : Milliseconds) (frameType : FrameType) :
    PortM τ (ModbusRtuMaster β) := do
  driver.openDevice device
  driver.setOptions bits options
  return .new timeout frameType

/-! ### The RS485 state -/

namespace Rs485

variable {bits : Rs485Bits} {options : Rs485} {config : SerialRs485}

/-- The value that the options give to a flag, if they do. -/
def flag (options : Rs485) : Rs485Flag → Option Bool
  | .enabled => some true
  | .rtsOnSend => options.rtsOnSend
  | .rtsAfterSend => options.rtsAfterSend
  | .rxDuringTx => options.rxDuringTx
  | .terminateBus => options.terminateBus

/-- RS485 is enabled, each flag or delay that is given is applied, and all else is kept. -/
structure Applied (bits : Rs485Bits) (options : Rs485) (before after : SerialRs485) : Prop where
  flags : ∀ f, after.has bits f = (options.flag f).getD (before.has bits f)
  others : ∀ i, (∀ f, bits.bit f ≠ i) → after.flags.getLsbD i = before.flags.getLsbD i
  delayRtsBeforeSend :
    after.delayRtsBeforeSend = options.delayRtsBeforeSend.getD before.delayRtsBeforeSend
  delayRtsAfterSend :
    after.delayRtsAfterSend = options.delayRtsAfterSend.getD before.delayRtsAfterSend
  padding : after.padding = before.padding

/-- RS485 is enabled, and each flag or delay that is given is in force. -/
structure Present (bits : Rs485Bits) (options : Rs485) (config : SerialRs485) : Prop where
  flags : ∀ f b, options.flag f = some b → config.has bits f = b
  delayRtsBeforeSend : ∀ delay, options.delayRtsBeforeSend = some delay →
    config.delayRtsBeforeSend = delay
  delayRtsAfterSend : ∀ delay, options.delayRtsAfterSend = some delay →
    config.delayRtsAfterSend = delay

/-- The flags in the order in which they are assigned. -/
def entries (options : Rs485) : List (Rs485Flag × Option Bool) :=
  [.enabled, .rtsOnSend, .rtsAfterSend, .rxDuringTx, .terminateBus].map fun f => (f, options.flag f)

theorem mem_entries (f : Rs485Flag) : (f, options.flag f) ∈ options.entries := by
  cases f <;> simp [entries]

theorem eq_of_mem_entries {f : Rs485Flag} {value : Option Bool} (h : (f, value) ∈ options.entries) :
    value = options.flag f := by
  obtain ⟨f', -, heq⟩ := List.mem_map.mp h
  cases heq
  rfl

theorem nodup_entries : (options.entries.map Prod.fst).Nodup := by
  simp [entries]

end Rs485

theorem setOption_eq (flags : BitVec 32) (option : Option Bool) (flag : BitVec 32) :
    setOption flags option flag = FlagWord.assign flags flag option := by
  cases option with
  | none => rfl
  | some b => cases b <;> rfl

namespace Rs485

variable {bits : Rs485Bits} {options : Rs485} {config : SerialRs485}

/-- The flags are assigned one after the other. -/
theorem update_flags : (options.update bits config).flags =
    FlagWord.assignAll bits.bit config.flags options.entries := by
  simp only [update, setOption_eq]
  rfl

/-- **The read-modify-write applies what is given, and keeps what is not.** -/
theorem applied_update (bits : Rs485Bits) (options : Rs485) (config : SerialRs485) :
    options.Applied bits config (options.update bits config) where
  flags f := by
    unfold SerialRs485.has
    rw [update_flags]
    exact FlagWord.getLsbD_assignAll bits.injective _ nodup_entries (mem_entries f)
  others i hi := by
    rw [update_flags]
    exact FlagWord.getLsbD_assignAll_of_ne fun entry _ => hi entry.1
  delayRtsBeforeSend := rfl
  delayRtsAfterSend := rfl
  padding := rfl

/-- It changes nothing exactly if the options are in force. -/
theorem update_eq_self_iff : options.update bits config = config ↔ options.Present bits config := by
  have hflags : (options.update bits config).flags = config.flags ↔
      ∀ f b, options.flag f = some b → config.has bits f = b := by
    rw [update_flags, FlagWord.assignAll_eq_self_iff bits.injective nodup_entries]
    constructor
    · intro hall f b hf
      exact hall f b (hf ▸ mem_entries f)
    · intro hall f b hmem
      exact hall f b (eq_of_mem_entries hmem).symm
  have hdelay : ∀ (given : Option UInt32) (delay : UInt32),
      given.getD delay = delay ↔ ∀ d, given = some d → delay = d := by
    intro given delay
    cases given with
    | none => simp
    | some d => simp [eq_comm]
  constructor
  · intro heq
    exact
      { flags := hflags.mp (congrArg SerialRs485.flags heq)
        delayRtsBeforeSend := (hdelay _ _).mp (congrArg SerialRs485.delayRtsBeforeSend heq)
        delayRtsAfterSend := (hdelay _ _).mp (congrArg SerialRs485.delayRtsAfterSend heq) }
  · intro h
    have hbits := hflags.mpr h.flags
    have hbefore := (hdelay _ _).mpr h.delayRtsBeforeSend
    have hafter := (hdelay _ _).mpr h.delayRtsAfterSend
    exact SerialRs485.ext hbits hbefore hafter rfl

end Rs485

/-! ### What is done to a port -/

namespace PortM

variable {α γ : Type}

variable {m : PortM τ α} {k : α → PortM τ γ} {port port' : SerialPort τ}

/-- The second part is done after the first. -/
theorem bind_ok {a : α} (h : m port = (.ok a, port')) : (m >>= k) port = k a port' := by
  change ExceptT.bindCont k (m port).1 (m port).2 = k a port'
  rw [h]
  rfl

/-- The second part is not done when the first throws. -/
theorem bind_error {e : String} (h : m port = (.error e, port')) :
    (m >>= k) port = (.error e, port') := by
  change ExceptT.bindCont k (m port).1 (m port).2 = (.error e, port')
  rw [h]
  rfl

/-- It leaves the RS485 state alone. -/
def KeepsRs485 (m : PortM τ α) : Prop := ∀ port, (m port).2.rs485 = port.rs485

theorem KeepsRs485.bind (hm : KeepsRs485 m) (hk : ∀ a, KeepsRs485 (k a)) :
    KeepsRs485 (m >>= k) := by
  intro port
  have hport := hm port
  rcases hrun : m port with ⟨e | a, port'⟩ <;> rw [hrun] at hport
  · rw [bind_error hrun]
    exact hport
  · rw [bind_ok hrun]
    exact (hk a port').trans hport

end PortM

namespace SerialDriver

variable {driver : SerialDriver τ} {bits : Rs485Bits} {options : RtuOptions}

/-- What both constructors do to the port first. -/
def configure (driver : SerialDriver τ) (device : String) (options : RtuOptions) :
    PortM τ Unit := do
  driver.openDevice device
  driver.set (.baudRate options.baudRate)
  driver.set (.characterSize options.characterSize)
  driver.set (.parity options.parity)
  driver.set (.stopBits options.stopBits)
  driver.set (.flowControl options.flowControl)

/-- The port can be opened, and takes the five options. -/
def accepts (driver : SerialDriver τ) (device : String) (options : RtuOptions)
    (port : SerialPort τ) : Bool :=
  (driver.configure device options port).1.isOk

/-- Opening a port and setting its options leave the RS485 state alone. -/
theorem keepsRs485_configure (driver : SerialDriver τ) (device : String) (options : RtuOptions) :
    (driver.configure device options).KeepsRs485 := by
  have hset : ∀ option, (driver.set option).KeepsRs485 := fun _ _ => rfl
  have hopen : (driver.openDevice device).KeepsRs485 := fun _ => rfl
  unfold configure
  exact .bind hopen fun _ => .bind (hset _) fun _ => .bind (hset _) fun _ => .bind (hset _) fun _ =>
    .bind (hset _) fun _ => hset _

/-- The RS485 state that `SetOptions` leaves. -/
def rs485After (bits : Rs485Bits) (options : RtuOptions) (config : SerialRs485) : SerialRs485 :=
  (options.rs485.map (·.update bits config)).getD config

/-- The second half of `SetOptions` does not fail, and changes only the RS485 state. -/
theorem applyRs485_eq (hdriver : driver.Lawful) (port : SerialPort τ) :
    driver.applyRs485 bits options.rs485 port =
      (.ok (), { port with rs485 := rs485After bits options port.rs485 }) := by
  unfold rs485After
  cases options.rs485 with
  | none => rfl
  | some rs485Options =>
    have hget : driver.getRs485 port = (.ok port.rs485, port) := by
      unfold getRs485
      rw [hdriver.get]
    rw [applyRs485, PortM.bind_ok hget]
    unfold setRs485
    rw [hdriver.set]
    rfl

end SerialDriver

section

variable {driver : SerialDriver τ} {options : RtuOptions}

/-- **What the two constructors do to a port.**  Both configure it, and throw if that throws;
then the slave's is done, and the master's applies the RS485 options that are given. -/
theorem construct_cases (hdriver : driver.Lawful) (bits : Rs485Bits) (device : String)
    (id : ActorId) (timeout : Milliseconds) (slaveType masterType : FrameType)
    (port : SerialPort τ) :
    (∃ port', driver.configure device options port = (.ok (), port') ∧
      ModbusRtuSlave.construct (β := β) driver device options id slaveType port =
        (.ok (.new id slaveType), port') ∧
      ModbusRtuMaster.construct (β := β) driver bits device options timeout masterType port =
        (.ok (.new timeout masterType),
          { port' with rs485 := SerialDriver.rs485After bits options port'.rs485 })) ∨
    ∃ e port', driver.configure device options port = (.error e, port') ∧
      ModbusRtuSlave.construct (β := β) driver device options id slaveType port =
        (.error e, port') ∧
      ModbusRtuMaster.construct (β := β) driver bits device options timeout masterType port =
        (.error e, port') := by
  have hslave : ModbusRtuSlave.construct (β := β) driver device options id slaveType =
      driver.configure device options >>= fun _ => return .new id slaveType := by
    simp [ModbusRtuSlave.construct, SerialDriver.configure]
  have hmaster : ModbusRtuMaster.construct (β := β) driver bits device options timeout masterType =
      driver.configure device options >>= fun _ =>
        driver.applyRs485 bits options.rs485 >>= fun _ => return .new timeout masterType := by
    simp [ModbusRtuMaster.construct, SerialDriver.setOptions, SerialDriver.configure]
  rw [hslave, hmaster]
  rcases hrun : driver.configure device options port with ⟨e | _, port'⟩
  · exact Or.inr ⟨e, port', rfl, PortM.bind_error hrun, PortM.bind_error hrun⟩
  · refine Or.inl ⟨port', rfl, PortM.bind_ok hrun, ?_⟩
    rw [PortM.bind_ok hrun, PortM.bind_ok (SerialDriver.applyRs485_eq hdriver port')]
    rfl

/-- Both constructors leave the port in the same state: RS485 is as the options ask, if they are
given and the constructor returns, and otherwise as it was. -/
structure ConfiguredAlike {α γ : Type} (bits : Rs485Bits) (options : RtuOptions)
    (port : SerialPort τ) (slave : Except String α × SerialPort τ)
    (master : Except String γ × SerialPort τ) : Prop where
  same : slave.2 = master.2
  returns : slave.1.isOk = master.1.isOk
  applied : slave.1.isOk = true → ∀ rs485, options.rs485 = some rs485 →
    rs485.Applied bits port.rs485 slave.2.rs485
  kept : options.rs485 = none → slave.2.rs485 = port.rs485

/-- **The master's constructor applies its options**, whatever the port was before. -/
theorem ModbusRtuMaster.construct_applied (hdriver : driver.Lawful) {bits : Rs485Bits}
    {device : String} {timeout : Milliseconds} {frameType : FrameType} {port : SerialPort τ}
    {rs485 : Rs485} (hrs485 : options.rs485 = some rs485) {master : ModbusRtuMaster β}
    {port' : SerialPort τ}
    (h : ModbusRtuMaster.construct driver bits device options timeout frameType port =
      (.ok master, port')) : rs485.Applied bits port.rs485 port'.rs485 := by
  rcases construct_cases (β := β) hdriver bits device 0 timeout frameType frameType port with
    ⟨port₁, hconfigure, -, hmaster⟩ | ⟨e, port₁, -, -, hmaster⟩
  · rw [hmaster] at h
    obtain ⟨-, rfl⟩ := Prod.mk.inj h
    have hkeeps := SerialDriver.keepsRs485_configure driver device options port
    rw [hconfigure] at hkeeps
    have hafter := rs485.applied_update bits port.rs485
    unfold SerialDriver.rs485After
    rw [hrs485]
    rw [← hkeeps] at hafter ⊢
    exact hafter
  · rw [hmaster] at h
    cases h

/-- **Both constructors configure a port alike** exactly if it refuses to be opened or an option, or
no RS485 options are given, or those that are given are in force already. -/
theorem configuredAlike_iff {β τ : Type} {driver : SerialDriver τ} (hdriver : driver.Lawful)
    (bits : Rs485Bits) (device : String) (options : RtuOptions) (id : ActorId)
    (timeout : Milliseconds) (slaveType masterType : FrameType) (port : SerialPort τ) :
    ConfiguredAlike bits options port
        (ModbusRtuSlave.construct (β := β) driver device options id slaveType port)
        (ModbusRtuMaster.construct (β := β) driver bits device options timeout masterType port) ↔
      driver.accepts device options port = false ∨
        ∀ rs485, options.rs485 = some rs485 → rs485.Present bits port.rs485 := by
  have hkeeps := SerialDriver.keepsRs485_configure driver device options port
  unfold SerialDriver.accepts
  rcases construct_cases (β := β) hdriver bits device id timeout slaveType masterType port with
    ⟨port', hconfigure, hslave, hmaster⟩ | ⟨e, port', hconfigure, hslave, hmaster⟩ <;>
    rw [hconfigure] at hkeeps ⊢ <;> rw [hslave, hmaster]
  · rw [or_iff_right fun h => by cases h]
    have hafter : SerialDriver.rs485After bits options port'.rs485 = port'.rs485 ↔
        ∀ rs485, options.rs485 = some rs485 → rs485.Present bits port.rs485 := by
      rw [show port'.rs485 = port.rs485 from hkeeps]
      unfold SerialDriver.rs485After
      cases options.rs485 with
      | none => simp
      | some rs485 =>
        refine Rs485.update_eq_self_iff.trans ⟨fun h rs485' heq => ?_, fun h => h rs485 rfl⟩
        obtain rfl := Option.some.inj heq
        exact h
    rw [← hafter]
    constructor
    · intro h
      exact (congrArg SerialPort.rs485 h.same).symm
    · intro hsame
      refine ⟨by rw [hsame], rfl, fun _ rs485 hrs485 => ?_, fun _ => hkeeps⟩
      -- what the options ask for is in force
      have happlied := rs485.applied_update bits port'.rs485
      have hupdate := hsame
      unfold SerialDriver.rs485After at hupdate
      rw [hrs485] at hupdate
      rw [show rs485.update bits port'.rs485 = port'.rs485 from hupdate] at happlied
      rw [← hkeeps]
      exact happlied
  · refine iff_of_true ⟨rfl, rfl, fun h => ?_, fun _ => hkeeps⟩ (Or.inl rfl)
    cases h

end

/-! ### Ports that are evaluated -/

namespace SerialPort

/-- The bits of Linux. -/
def linuxBits : Rs485Bits where
  bit
    | .enabled => 0
    | .rtsOnSend => 1
    | .rtsAfterSend => 2
    | .rxDuringTx => 4
    | .terminateBus => 5
  injective := by
    intro f f' h
    cases f <;> cases f' <;> first | rfl | exact absurd h (by decide)

/-- A driver whose ports remember the options that they are given, and refuse none. -/
def recorder : SerialDriver (List SerialOption) where
  openPort _ settings := (.ok (), settings)
  setOption option settings := (.ok (), settings ++ [option])
  tiocgrs485 port := .ok port.rs485
  tiocsrs485 config port := .ok { port with rs485 := config }
  strerror _ := "Inappropriate ioctl for device"

/-- Such a port, with the given flags. -/
def withFlags (flags : BitVec 32) : SerialPort (List SerialOption) := ⟨[], ⟨flags, 0, 0, []⟩⟩

/-- The options of an object that asks for RS485, and gives nothing else. -/
def enabling : RtuOptions := { rs485 := some ⟨none, none, none, none, none, none⟩ }

end SerialPort

open SerialPort

/-- RS485 is asked for, and the port has it enabled already. -/
theorem configuredAlike_enabled : ConfiguredAlike linuxBits enabling (withFlags 1)
    (ModbusRtuSlave.construct (β := Unit) recorder "/dev/ttyS0" enabling 5 .RTU (withFlags 1))
    (ModbusRtuMaster.construct (β := Unit) recorder linuxBits "/dev/ttyS0" enabling 1000 .RTU
      (withFlags 1)) := by
  have hlawful : recorder.Lawful := ⟨fun _ => rfl, fun _ _ => rfl⟩
  refine (configuredAlike_iff hlawful linuxBits "/dev/ttyS0" enabling 5 1000 .RTU .RTU
    (withFlags 1)).mpr (Or.inr fun rs485 hrs485 => ?_)
  obtain rfl := Option.some.inj hrs485
  refine ⟨fun f b h => ?_, fun _ h => (by cases h), fun _ h => (by cases h)⟩
  cases f <;> cases h
  decide

/-- RS485 is asked for, and the port does not have it enabled. -/
theorem configuredAlike_ignored :
    extractRtuOptions Document.contrib ⟨[]⟩ (.object [("rs485", .object [])]) = .ok enabling ∧
    (ModbusRtuSlave.construct (β := Unit) recorder "/dev/ttyS0" enabling 5 .RTU
      (withFlags 0)).2.rs485.flags = 0 ∧
    (ModbusRtuMaster.construct (β := Unit) recorder linuxBits "/dev/ttyS0" enabling 1000 .RTU
      (withFlags 0)).2.rs485.flags = 1 ∧
    ¬ ConfiguredAlike linuxBits enabling (withFlags 0)
      (ModbusRtuSlave.construct (β := Unit) recorder "/dev/ttyS0" enabling 5 .RTU (withFlags 0))
      (ModbusRtuMaster.construct (β := Unit) recorder linuxBits "/dev/ttyS0" enabling 1000 .RTU
        (withFlags 0)) :=
  ⟨by decide +kernel, by decide +kernel, by decide +kernel,
    fun h => absurd h.same (by decide +kernel)⟩

end ModbusGateway

import ECompass.Calibration
import ECompass.Setting.Accel
import ECompass.Setting.Mag

/-!
# Configuration

The settings in force, the register updates that program them, and the control values that the chip
is expected to hold. Nothing here touches the bus: a request gives a new configuration, and the
update to be written follows from it.

The five settings are told apart by `Field`. `Config.request` answers a request for one of them,
`Config.update` is the update that programs one of them, and `Expected.track` follows an update
that reached one of the two watched registers.
-/

namespace ECompass

/-- A change of one register: some bits are cleared, then some are set. -/
structure RegisterUpdate where
  /-- The register to change. -/
  register : Register
  /-- The bits to clear. -/
  clear : UInt8
  /-- The bits to set afterwards. -/
  set : UInt8
  deriving DecidableEq

namespace RegisterUpdate

/-- The value of the register after the update. -/
def apply (u : RegisterUpdate) (value : UInt8) : UInt8 := (value &&& ~~~u.clear) ||| u.set

/-- The update that writes a setting into its field. -/
def program {σ : Type} [Setting σ] (s : σ) : RegisterUpdate where
  register := Setting.register σ
  clear := Setting.mask σ
  set := Setting.bits s

end RegisterUpdate

/-- The settings that the registers hold. -/
inductive Field where
  /-- Full-scale range of the accelerometer. -/
  | accelRange
  /-- Output data rate of the accelerometer. -/
  | accelRate
  /-- Anti-alias bandwidth of the accelerometer. -/
  | antiAlias
  /-- Full-scale range of the magnetometer. -/
  | magRange
  /-- Output data rate of the magnetometer. -/
  | magRate
  deriving DecidableEq

/-- The settings of a channel, in the order in which they are programmed. -/
def Channel.fields : Channel → List Field
  | .accel => [.accelRange, .accelRate, .antiAlias]
  | .mag => [.magRange, .magRate]

/-- The settings in force and the calibrations. -/
structure Config where
  /-- Full-scale range of the accelerometer. -/
  accelRange : AccelRange := .g8
  /-- Output data rate of the accelerometer. -/
  accelRate : AccelRate := .hz800
  /-- Anti-alias bandwidth of the accelerometer. -/
  antiAlias : AntiAlias := .hz50
  /-- Full-scale range of the magnetometer. -/
  magRange : MagRange := .ga2
  /-- Output data rate of the magnetometer. -/
  magRate : MagRate := .hz100
  /-- The calibration of each channel. -/
  calibration : PerChannel Calibration := .both .neutral
  deriving DecidableEq

namespace Config

/-- The configuration after a request for one setting, or nothing if the request is above every
supported value. -/
def request (config : Config) (field : Field) (request : Nat) : Option Config :=
  match field with
  | .accelRange => (Setting.select request).map fun s => { config with accelRange := s }
  | .accelRate => (Setting.select request).map fun s => { config with accelRate := s }
  | .antiAlias => (Setting.select request).map fun s => { config with antiAlias := s }
  | .magRange => (Setting.select request).map fun s => { config with magRange := s }
  | .magRate => (Setting.select request).map fun s => { config with magRate := s }

/-- The update that programs a setting in force. -/
def update (config : Config) : Field → RegisterUpdate
  | .accelRange => .program config.accelRange
  | .accelRate => .program config.accelRate
  | .antiAlias => .program config.antiAlias
  | .magRange => .program config.magRange
  | .magRate => .program config.magRate

/-- The updates that program every setting of a channel. -/
def updates (config : Config) (c : Channel) : List RegisterUpdate := c.fields.map config.update

/-- The value of a setting in force, in engineering units. -/
def value (config : Config) : Field → Nat
  | .accelRange => Setting.value config.accelRange
  | .accelRate => Setting.value config.accelRate
  | .antiAlias => Setting.value config.antiAlias
  | .magRange => Setting.value config.magRange
  | .magRate => Setting.value config.magRate

/-- Physical units in one count of a channel. -/
def scaling (config : Config) : Channel → Float32
  | .accel => config.accelRange.scale
  | .mag => config.magRange.scale

/-- Full scale of a channel in physical units. -/
def fullScale (config : Config) : Channel → Float32
  | .accel => config.accelRange.fullScale
  | .mag => config.magRange.fullScale

/-- The configuration with a new calibration, or nothing if it is refused. Only the accelerometer's
calibration has to be credible. -/
def calibrate (config : Config) (c : Channel) (cal : Calibration) : Option Config :=
  if c = .accel ∧ cal.isCredible = false then none
  else some { config with calibration := config.calibration.set c cal }

end Config

/-- Accelerometer enables: the three axes, and block data update, which keeps an output unchanged
until both of its bytes have been read. -/
def accelEnables : UInt8 := 0b00001111

/-- Magnetometer mode of continuous conversion. -/
def magContinuous : UInt8 := 0

/-- The value that each channel's control register is expected to hold. A loss of power puts both
registers back to their power-on values, which is how it is noticed. -/
abbrev Expected := PerChannel UInt8

namespace Expected

/-- What is expected before the chip has been configured. -/
def initial : Expected := ⟨accelEnables, magContinuous⟩

/-- What is expected after an update was written. -/
def track (e : Expected) (u : RegisterUpdate) : Expected :=
  .ofFn fun c => if u.register = c.control then u.apply (e.get c) else e.get c

end Expected

end ECompass

import ECompass.Channel

/-!
# Registers

The chip answers on one flat space of byte registers. This module names the documented ones and
the two interface registers that the driver uses, with their addresses and their names in the data
sheet, and fixes the list of registers that a diagnostic dump reads.

Every named address is below `0x40` (`addr_lt`), so it fits the six address bits of an SPI command,
and no two registers share one (`addr_injective`).
-/

namespace ECompass

/-- The registers of the chip, in the order of their addresses. -/
inductive Register where
  /-- Undocumented interface control 1, which can switch the I2C interface off. -/
  | i2cControl1
  /-- Temperature output, low byte. -/
  | tempL
  /-- Temperature output, high byte. -/
  | tempH
  /-- Magnetometer status. -/
  | statusM
  /-- Magnetometer x output, low byte. -/
  | magXL
  /-- Magnetometer x output, high byte. -/
  | magXH
  /-- Magnetometer y output, low byte. -/
  | magYL
  /-- Magnetometer y output, high byte. -/
  | magYH
  /-- Magnetometer z output, low byte. -/
  | magZL
  /-- Magnetometer z output, high byte. -/
  | magZH
  /-- Device identification. -/
  | whoAmI
  /-- Magnetic interrupt control. -/
  | intCtrlM
  /-- Magnetic interrupt source. -/
  | intSrcM
  /-- Undocumented interface control 2, which can switch the I2C interface off. -/
  | i2cControl2
  /-- High-pass filter reference, x. -/
  | referenceX
  /-- High-pass filter reference, y. -/
  | referenceY
  /-- High-pass filter reference, z. -/
  | referenceZ
  /-- Boot, FIFO and high-pass configuration. -/
  | ctrl0
  /-- Accelerometer data rate, block data update and axis enables. -/
  | ctrl1
  /-- Accelerometer anti-alias bandwidth and full scale. -/
  | ctrl2
  /-- Routing of the first interrupt line. -/
  | ctrl3
  /-- Routing of the second interrupt line. -/
  | ctrl4
  /-- Temperature enable, magnetometer resolution and data rate. -/
  | ctrl5
  /-- Magnetometer full scale. -/
  | ctrl6
  /-- Magnetometer mode and filtering. -/
  | ctrl7
  /-- Accelerometer status. -/
  | statusA
  /-- Accelerometer x output, low byte. -/
  | accelXL
  /-- Accelerometer x output, high byte. -/
  | accelXH
  /-- Accelerometer y output, low byte. -/
  | accelYL
  /-- Accelerometer y output, high byte. -/
  | accelYH
  /-- Accelerometer z output, low byte. -/
  | accelZL
  /-- Accelerometer z output, high byte. -/
  | accelZH
  /-- FIFO control. -/
  | fifoCtrl
  /-- FIFO source. -/
  | fifoSrc
  /-- Inertial interrupt generator 1, configuration. -/
  | igCfg1
  /-- Inertial interrupt generator 1, source. -/
  | igSrc1
  /-- Inertial interrupt generator 1, threshold. -/
  | igThs1
  /-- Inertial interrupt generator 1, duration. -/
  | igDur1
  /-- Inertial interrupt generator 2, configuration. -/
  | igCfg2
  /-- Inertial interrupt generator 2, source. -/
  | igSrc2
  /-- Inertial interrupt generator 2, threshold. -/
  | igThs2
  /-- Inertial interrupt generator 2, duration. -/
  | igDur2
  /-- Click configuration. -/
  | clickCfg
  /-- Click source. -/
  | clickSrc
  /-- Click threshold. -/
  | clickThs
  /-- Click time limit. -/
  | timeLimit
  /-- Click time latency. -/
  | timeLatency
  /-- Click time window. -/
  | timeWindow
  /-- Sleep-to-wake activation threshold. -/
  | actThs
  /-- Sleep-to-wake duration. -/
  | actDur
  deriving DecidableEq

namespace Register

/-- Address of the register on the bus. -/
def addr : Register → UInt8
  | .i2cControl1 => 0x02
  | .tempL => 0x05
  | .tempH => 0x06
  | .statusM => 0x07
  | .magXL => 0x08
  | .magXH => 0x09
  | .magYL => 0x0A
  | .magYH => 0x0B
  | .magZL => 0x0C
  | .magZH => 0x0D
  | .whoAmI => 0x0F
  | .intCtrlM => 0x12
  | .intSrcM => 0x13
  | .i2cControl2 => 0x15
  | .referenceX => 0x1C
  | .referenceY => 0x1D
  | .referenceZ => 0x1E
  | .ctrl0 => 0x1F
  | .ctrl1 => 0x20
  | .ctrl2 => 0x21
  | .ctrl3 => 0x22
  | .ctrl4 => 0x23
  | .ctrl5 => 0x24
  | .ctrl6 => 0x25
  | .ctrl7 => 0x26
  | .statusA => 0x27
  | .accelXL => 0x28
  | .accelXH => 0x29
  | .accelYL => 0x2A
  | .accelYH => 0x2B
  | .accelZL => 0x2C
  | .accelZH => 0x2D
  | .fifoCtrl => 0x2E
  | .fifoSrc => 0x2F
  | .igCfg1 => 0x30
  | .igSrc1 => 0x31
  | .igThs1 => 0x32
  | .igDur1 => 0x33
  | .igCfg2 => 0x34
  | .igSrc2 => 0x35
  | .igThs2 => 0x36
  | .igDur2 => 0x37
  | .clickCfg => 0x38
  | .clickSrc => 0x39
  | .clickThs => 0x3A
  | .timeLimit => 0x3B
  | .timeLatency => 0x3C
  | .timeWindow => 0x3D
  | .actThs => 0x3E
  | .actDur => 0x3F

/-- Name of the register in the data sheet. -/
def name : Register → String
  | .i2cControl1 => "I2C_CONTROL1"
  | .tempL => "TEMP_L"
  | .tempH => "TEMP_H"
  | .statusM => "STATUS_M"
  | .magXL => "MAG_XL"
  | .magXH => "MAG_XH"
  | .magYL => "MAG_YL"
  | .magYH => "MAG_YH"
  | .magZL => "MAG_ZL"
  | .magZH => "MAG_ZH"
  | .whoAmI => "WHO_AM_I"
  | .intCtrlM => "INT_CTRL_M"
  | .intSrcM => "INT_SRC_M"
  | .i2cControl2 => "I2C_CONTROL2"
  | .referenceX => "REFERENCE_X"
  | .referenceY => "REFERENCE_Y"
  | .referenceZ => "REFERENCE_Z"
  | .ctrl0 => "CTRL_REG0"
  | .ctrl1 => "CTRL_REG1"
  | .ctrl2 => "CTRL_REG2"
  | .ctrl3 => "CTRL_REG3"
  | .ctrl4 => "CTRL_REG4"
  | .ctrl5 => "CTRL_REG5"
  | .ctrl6 => "CTRL_REG6"
  | .ctrl7 => "CTRL_REG7"
  | .statusA => "STATUS_A"
  | .accelXL => "ACCEL_XL"
  | .accelXH => "ACCEL_XH"
  | .accelYL => "ACCEL_YL"
  | .accelYH => "ACCEL_YH"
  | .accelZL => "ACCEL_ZL"
  | .accelZH => "ACCEL_ZH"
  | .fifoCtrl => "FIFO_CTRL"
  | .fifoSrc => "FIFO_SRC"
  | .igCfg1 => "IG_CFG1"
  | .igSrc1 => "IG_SRC1"
  | .igThs1 => "IG_THS1"
  | .igDur1 => "IG_DUR1"
  | .igCfg2 => "IG_CFG2"
  | .igSrc2 => "IG_SRC2"
  | .igThs2 => "IG_THS2"
  | .igDur2 => "IG_DUR2"
  | .clickCfg => "CLICK_CFG"
  | .clickSrc => "CLICK_SRC"
  | .clickThs => "CLICK_THS"
  | .timeLimit => "TIME_LIMIT"
  | .timeLatency => "TIME_LATENCY"
  | .timeWindow => "TIME_WINDOW"
  | .actThs => "ACT_THS"
  | .actDur => "ACT_DUR"

/-- Every register, in the order of the addresses. -/
def all : List Register := [
  .i2cControl1, .tempL, .tempH, .statusM, .magXL, .magXH, .magYL, .magYH, .magZL, .magZH,
  .whoAmI, .intCtrlM, .intSrcM, .i2cControl2, .referenceX, .referenceY, .referenceZ, .ctrl0,
  .ctrl1, .ctrl2, .ctrl3, .ctrl4, .ctrl5, .ctrl6, .ctrl7, .statusA, .accelXL, .accelXH, .accelYL,
  .accelYH, .accelZL, .accelZH, .fifoCtrl, .fifoSrc, .igCfg1, .igSrc1, .igThs1, .igDur1, .igCfg2,
  .igSrc2, .igThs2, .igDur2, .clickCfg, .clickSrc, .clickThs, .timeLimit, .timeLatency,
  .timeWindow, .actThs, .actDur]

/-- The register with the given data-sheet name. -/
def ofName? (name : String) : Option Register := all.find? fun r => r.name == name

/-- The registers that a diagnostic dump reads, in the order of reading. The interface registers and
the identification come first and again at the end, so that a change during the dump shows. -/
def diagnostic : List Register := [
  .whoAmI, .i2cControl1, .i2cControl2, .statusA, .statusM, .ctrl0, .ctrl1, .ctrl2, .ctrl3,
  .ctrl4, .ctrl5, .ctrl6, .ctrl7, .tempL, .tempH, .intCtrlM, .intSrcM, .referenceX, .referenceY,
  .referenceZ, .accelXL, .accelXH, .accelYL, .accelYH, .accelZL, .accelZH, .fifoCtrl, .fifoSrc,
  .igCfg1, .igSrc1, .igThs1, .igDur1, .igCfg2, .igSrc2, .igThs2, .igDur2, .clickCfg, .clickSrc,
  .clickThs, .timeLimit, .timeLatency, .timeWindow, .actThs, .actDur, .magXL, .magXH, .magYL,
  .magYH, .magZL, .magZH, .i2cControl1, .i2cControl2, .whoAmI]

theorem mem_all (r : Register) : r ∈ all := by
  cases r <;> decide

/-- Every register lies within the six address bits of an SPI command. -/
theorem addr_lt (r : Register) : r.addr < 0x40 := by
  cases r <;> decide

/-- No two registers share an address. -/
theorem addr_injective {r s : Register} (h : r.addr = s.addr) : r = s := by
  have key : ∀ r ∈ all, ∀ s ∈ all, r.addr = s.addr → r = s := by decide
  exact key r (mem_all r) s (mem_all s) h

/-- A dump reads every register. -/
theorem mem_diagnostic (r : Register) : r ∈ diagnostic := by
  cases r <;> decide

end Register

/-- The control register that tells whether a channel still runs as configured: it carries the
accelerometer's enables and rate, or the magnetometer's mode. -/
def Channel.control : Channel → Register
  | .accel => .ctrl1
  | .mag => .ctrl7

/-- The status register of a channel, with which a burst of its outputs begins. -/
def Channel.status : Channel → Register
  | .accel => .statusA
  | .mag => .statusM

/-- The first output register of a channel. -/
def Channel.firstOutput : Channel → Register
  | .accel => .accelXL
  | .mag => .magXL

end ECompass

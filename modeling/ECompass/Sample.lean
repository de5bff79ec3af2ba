import ECompass.Axes

/-!
# Bursts and samples

One burst reads seven bytes from a channel: its status and the three axes, each as a two's
complement count of two bytes, low byte first. A sample is a burst turned into physical units, with
the time and the scale of the measurement.

A count and its two bytes determine each other (`count_lowByte_highByte`, `lowByte_count`,
`highByte_count`), so every triple of counts survives the way through the registers
(`ofBytes_outputBytes`).
-/

namespace ECompass

/-- The count spelled by a low and a high byte. -/
def count (low high : UInt8) : Int16 :=
  Int16.ofBitVec (high.toBitVec ++ low.toBitVec : BitVec (8 + 8))

/-- The low byte of a count. -/
def lowByte (n : Int16) : UInt8 := ⟨n.toBitVec.extractLsb' 0 8⟩

/-- The high byte of a count. -/
def highByte (n : Int16) : UInt8 := ⟨n.toBitVec.extractLsb' 8 8⟩

@[simp] theorem lowByte_count (low high : UInt8) : lowByte (count low high) = low := by
  apply UInt8.toBitVec_inj.1
  exact BitVec.extractLsb'_append_eq_right

@[simp] theorem highByte_count (low high : UInt8) : highByte (count low high) = high := by
  apply UInt8.toBitVec_inj.1
  exact BitVec.extractLsb'_append_eq_left

@[simp] theorem count_lowByte_highByte (n : Int16) : count (lowByte n) (highByte n) = n := by
  apply Int16.toBitVec_inj.1
  exact (BitVec.extractLsb'_append_extractLsb'_eq_extractLsb' rfl).trans BitVec.extractLsb'_eq_self

/-- What one burst brings from a channel. -/
structure Burst where
  /-- The status register. -/
  status : UInt8
  /-- The raw counts. -/
  raw : Axes Int16
  deriving DecidableEq

namespace Burst

/-- The number of bytes in a burst. -/
def length : Nat := 7

/-- Decodes the bytes read from a status register on. -/
def ofBytes (bytes : Vector UInt8 length) : Burst where
  status := bytes[0]
  raw := ⟨count bytes[1] bytes[2], count bytes[3] bytes[4], count bytes[5] bytes[6]⟩

/-- The bytes of the six output registers that hold raw counts. -/
def outputBytes (raw : Axes Int16) : List UInt8 :=
  [lowByte raw.x, highByte raw.x, lowByte raw.y, highByte raw.y, lowByte raw.z, highByte raw.z]

/-- Counts held by the output registers come back from a burst. -/
theorem ofBytes_outputBytes (status : UInt8) (raw : Axes Int16) :
    ofBytes ⟨(status :: outputBytes raw).toArray, rfl⟩ = ⟨status, raw⟩ := by
  simp [outputBytes, ofBytes]

end Burst

/-- One measurement of a channel. -/
structure Sample where
  /-- Time of the measurement in microseconds. -/
  timestamp : Nat
  /-- Transfer errors charged to the sample. -/
  transferErrors : Nat
  /-- The raw counts. -/
  raw : Axes Int16
  /-- The reading in physical units, calibrated and, for the accelerometer, filtered. -/
  reading : Axes Float32
  /-- Physical units in one count at the time of the measurement. -/
  scaling : Float32
  /-- Full scale in physical units at the time of the measurement. -/
  fullScale : Float32
  deriving DecidableEq

/-- What a slot for a sample holds before it is filled. -/
def Sample.blank : Sample := ⟨0, 0, .all3 0, .all3 0, 0, 0⟩

/-- The length of the reading as a vector. -/
def Sample.magnitude (s : Sample) : Float32 :=
  (s.reading.x * s.reading.x + s.reading.y * s.reading.y + s.reading.z * s.reading.z).sqrt

end ECompass

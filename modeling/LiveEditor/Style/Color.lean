/-! # Colours

A colour has four channels of eight bits.  It is written as `#rrggbbaa` in
lower-case hexadecimal digits.
-/

namespace LiveEditor

structure Color where
  red : UInt8
  green : UInt8
  blue : UInt8
  alpha : UInt8
  deriving DecidableEq, Repr

namespace Color

def ofArgb (packed : UInt32) : Color where
  alpha := (packed >>> 24).toUInt8
  red := (packed >>> 16).toUInt8
  green := (packed >>> 8).toUInt8
  blue := packed.toUInt8

def hexByte (byte : UInt8) : String :=
  String.ofList [Nat.digitChar (byte.toNat / 16), Nat.digitChar (byte.toNat % 16)]

def toHex (color : Color) : String :=
  "#" ++ hexByte color.red ++ hexByte color.green ++ hexByte color.blue ++
    hexByte color.alpha

example : (ofArgb 0xFF6A9955).toHex = "#6a9955ff" := by decide

end Color

end LiveEditor

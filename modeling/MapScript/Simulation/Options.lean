import MapScript.Number.Binary

set_option autoImplicit false

namespace MapScript

open Number

structure Options where
  scope : String
  config : Option String
  fps : UInt32
  ticks : UInt64
  untilIdle : Bool
  assignments : List (String × String)
  commands : List String
  deriving DecidableEq, Repr

namespace Options

def defaultFps : UInt32 := 60

def defaultTicks : UInt64 := 600

/-- Seconds per frame. A rate of zero counts as one frame per second. -/
def frameTime (options : Options) : Seconds :=
  (Binary.ofInt (max options.fps.toNat 1)).inverse

end Options

end MapScript

import PartitionLowering.Lowering.Event

/-!
Settings of a delegate.
-/

set_option autoImplicit false

namespace PartitionLowering

structure Settings where
  debugLevel : UInt8 := 0
  /-- The device that the engine compiles for. -/
  device : String := "CPU"
  pluginsPath : String := "/tmp/plugins.xml"
  deriving DecidableEq, Inhabited

namespace Settings

def level (settings : Settings) : Level :=
  if settings.debugLevel = 0 then .warn
  else if settings.debugLevel = 1 then .info
  else if settings.debugLevel = 2 then .debug
  else .trace

end Settings

end PartitionLowering

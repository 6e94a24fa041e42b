/-!
# Why a command failed

None of these is fatal to the bus: the next command starts afresh.
-/

namespace ConsoleBus

/-- Why a command on the bus gave no result. -/
inductive CommandError where
  /-- Nothing acknowledged the address byte. -/
  | noDevice
  /-- A device answered, but too briefly or without the bytes that mark a good reply. -/
  | malformedReply
  /-- The request has no room for what it should carry. -/
  | requestTooLarge
  /-- There is no port with that index. -/
  | invalidPort
  deriving DecidableEq, Repr

/-- The error in words. -/
def CommandError.message : CommandError → String
  | .noDevice => "no device acknowledged"
  | .malformedReply => "unexpected reply from device"
  | .requestTooLarge => "request too large"
  | .invalidPort => "invalid port"

end ConsoleBus

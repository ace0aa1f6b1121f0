/-! The answer of a channel that is offered a line. -/

namespace ModemRelay

/-- A channel that takes no more lines, by its name. -/
structure ChannelClosed where
  channel : String
  deriving DecidableEq

def ChannelClosed.message (e : ChannelClosed) : String := "channel " ++ e.channel ++ " is closed"

/-- Whether a line was taken. -/
inductive Reply where
  | accepted
  | refused (cause : ChannelClosed)
  deriving DecidableEq

end ModemRelay

import Hostcall.Table

/-!
# I/O states

What a save point carries: the descriptor table and the standard channels. One state is active in a
machine at a time; exchanging it is a full substitution.
-/

namespace Hostcall

@[ext]
structure IoState where
  table : Table
  channels : Console.Channels
  deriving DecidableEq

namespace IoState

/-- A fresh table over given channels. -/
def ofChannels (channels : Console.Channels) : IoState :=
  ⟨.initial, channels⟩

/-- A fresh table over channels in memory. -/
def memory (input : List UInt8) : IoState :=
  ofChannels (.memory input)

end IoState

end Hostcall

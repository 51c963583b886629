/-
# Run counters

A tally counts messages and their octets.  A run keeps one of what it received
and one of what it sent; nothing is ever filtered, and that tally stays zero.
Counts are machine words: 64 bits for tallies, 32 for ends of partition.

Source: `Tally` and `RunCounters`; `SPEC_FULL.md` 3, Run Counters.
-/

namespace OctetRelay

/-- A number of messages and their total length. -/
structure Tally where
  count : UInt64 := 0
  bytes : UInt64 := 0
  deriving DecidableEq, Repr

namespace Tally

/-- Counts one more message. -/
def record (tally : Tally) (length : UInt64) : Tally :=
  { count := tally.count + 1, bytes := tally.bytes + length }

/-- The text of a tally. -/
def text (tally : Tally) : String :=
  s!"{tally.count} blocks and {tally.bytes} bytes"

end Tally

/-- The counters of one run. -/
structure Counters where
  /-- Every consumed message, whatever became of it. -/
  received : Tally := {}
  /-- The messages transcoded and accepted by the producer. -/
  sent : Tally := {}
  filtered : Tally := {}
  /-- The ends of partition seen while they may stop the run. -/
  ends : UInt32 := 0
  deriving DecidableEq, Repr

namespace Counters

/-- Counts a received message. -/
def recordReceived (counters : Counters) (length : UInt64) : Counters :=
  { counters with received := counters.received.record length }

/-- Counts a sent message. -/
def recordSent (counters : Counters) (length : UInt64) : Counters :=
  { counters with sent := counters.sent.record length }

/-- Counts an end of partition. -/
def recordEnd (counters : Counters) : Counters :=
  { counters with ends := counters.ends + 1 }

/-- The text of the counters, as the program leaves it behind. -/
def text (counters : Counters) : String :=
  "consumed : " ++ counters.received.text ++ "\npublished : " ++ counters.sent.text

end Counters
end OctetRelay

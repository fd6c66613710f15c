/-!
# Durations

A span of time with nanosecond resolution, up to the largest number of seconds a 64-bit word
holds, and its text: the largest unit with a whole part, and every digit of the rest.
-/

namespace ShardCluster

/-- a span of time: whole seconds and the nanoseconds below one second -/
structure Duration where
  seconds : UInt64
  nanos : Fin 1000000000
  deriving DecidableEq, Inhabited

namespace Duration

def ofSeconds (seconds : UInt64) : Duration := ⟨seconds, 0⟩

/-- whole milliseconds, of which there are never too many to hold -/
def ofMillis (millis : UInt64) : Duration :=
  ⟨millis / 1000, Fin.ofNat 1000000000 ((millis % 1000).toNat * 1000000)⟩

/-- the whole span in nanoseconds -/
def totalNanos (d : Duration) : Nat := d.seconds.toNat * 1000000000 + d.nanos.val

/-- whole milliseconds; the rest is cut off -/
def millis (d : Duration) : Nat := d.seconds.toNat * 1000 + d.nanos.val / 1000000

/-- decimal digits of `n`, with leading zeros up to `width` of them -/
def padded (width n : Nat) : List Char :=
  let digits := Nat.toDigits 10 n
  List.replicate (width - digits.length) '0' ++ digits

/-- a whole part and a fraction of `width` digits whose trailing zeros are dropped -/
def decimal (whole fraction width : Nat) : String :=
  let digits := ((padded width fraction).reverse.dropWhile (· == '0')).reverse
  toString whole ++ if digits.isEmpty then "" else "." ++ String.ofList digits

/-- the text of a duration, as in `1.5s`, `750ms`, `1.001µs` or `0ns` -/
def text (d : Duration) : String :=
  let nanos := d.nanos.val
  if d.seconds ≠ 0 then decimal d.seconds.toNat nanos 9 ++ "s"
  else if nanos ≥ 1000000 then decimal (nanos / 1000000) (nanos % 1000000) 6 ++ "ms"
  else if nanos ≥ 1000 then decimal (nanos / 1000) (nanos % 1000) 3 ++ "µs"
  else toString nanos ++ "ns"

end Duration

end ShardCluster

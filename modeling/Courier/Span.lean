/-
Spans of time, exact to the nanosecond. A span is at most 2^64 - 1 seconds
and 999999999 nanoseconds long, some 580 thousand million years; nothing
here adds spans up, so the bound is kept by construction.

On the wire and in logs a span is a number of whole milliseconds. That
number may need more than 64 bits, and the written form keeps its low 64:
`millis64` is `millis` modulo 2^64.
-/
namespace Courier

def nanosPerMilli : Nat := 1000000

def nanosPerSecond : Nat := 1000000000

/-- The first number of nanoseconds that is no span: 2^64 seconds. -/
def spanLimit : Nat := UInt64.size * nanosPerSecond

/-- A span of time. -/
structure Span where
  nanoseconds : Nat
  lt_limit : nanoseconds < spanLimit
  deriving DecidableEq, Repr

namespace Span

/-- No time at all. -/
def zero : Span := ⟨0, by decide⟩

/-- The span of so many nanoseconds, the longest span if they are too many. -/
def ofNanoseconds (n : Nat) : Span :=
  if h : n < spanLimit then ⟨n, h⟩ else ⟨spanLimit - 1, by decide⟩

/-- The span of so many milliseconds. -/
def ofMillis (n : UInt64) : Span :=
  ⟨n.toNat * nanosPerMilli, by
    have fits := n.toNat_lt_size
    simp only [spanLimit, UInt64.size, nanosPerMilli, nanosPerSecond] at *
    omega⟩

/-- The span of so many seconds and nanoseconds. -/
def ofParts (seconds nanos : Nat) : Span :=
  ofNanoseconds (seconds * nanosPerSecond + nanos)

/-- Whether a span is no time at all. -/
def isZero (d : Span) : Bool := d.nanoseconds == 0

/-- Whole milliseconds, rounded down. -/
def millis (d : Span) : Nat := d.nanoseconds / nanosPerMilli

/-- Nanoseconds beyond the whole milliseconds. -/
def nanosBelowMilli (d : Span) : Nat := d.nanoseconds % nanosPerMilli

/-- Whole milliseconds as they are written: the low 64 bits of their number. -/
def millis64 (d : Span) : UInt64 := UInt64.ofNat d.millis

/-- Whole milliseconds, rounded up: how long a clock that ticks in
milliseconds lets a span last. -/
def millisUp (d : Span) : Nat := (d.nanoseconds + 999999) / nanosPerMilli

/-- Seconds that a clock can count up to. -/
def clockLimit : Nat := 0x8000000000000000

/-- How long a wait lasts that ends past the limit of the clock: thirty years. -/
def longWaitMillis : Nat := 30 * 365 * 86400 * 1000

/-- How many milliseconds a wait of this span lasts. -/
def waitMillis (d : Span) : Nat :=
  if clockLimit * nanosPerSecond ≤ d.nanoseconds then longWaitMillis else d.millisUp

/-- A span of whole milliseconds has as many of them. -/
@[simp] theorem millis_ofMillis (n : UInt64) : (ofMillis n).millis = n.toNat := by
  simp [ofMillis, millis, nanosPerMilli]

/-- Whole milliseconds below 2^64 are written as they are. -/
@[simp] theorem millis64_ofMillis (n : UInt64) : (ofMillis n).millis64 = n := by
  simp [millis64]

/-- A span is its whole milliseconds and what is left below one. -/
theorem millis_add_nanosBelowMilli (d : Span) :
    d.millis * nanosPerMilli + d.nanosBelowMilli = d.nanoseconds := by
  simp only [millis, nanosBelowMilli]
  exact Nat.div_add_mod' d.nanoseconds nanosPerMilli

end Span

end Courier

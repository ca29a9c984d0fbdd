/-!
Instants and the time between them.

An instant is a second of UTC, counted from the start of 1970, and the nanoseconds since that second
began; a second that is followed by a leap second lasts twice as long. A span of time is a whole number
of nanoseconds, negative when it runs backwards.
-/

namespace OrphanWatch

def nanosPerSecond : Nat := 1000000000

namespace Span

def ofMillis (millis : Int) : Int := millis * 1000000

def ofSeconds (seconds : Int) : Int := seconds * nanosPerSecond

def seconds (span : Int) : Int := span.tdiv nanosPerSecond

def millis (span : Int) : Int := span.tdiv 1000000

end Span

structure Instant where
  /-- The seconds since 1970-01-01T00:00:00Z, without leap seconds. -/
  second : Int
  /-- The nanoseconds since that second began; a leap second is what comes after the first 10⁹. -/
  nanos : Nat
  deriving DecidableEq, Repr

namespace Instant

def ofNanos (nanos : Int) : Instant :=
  ⟨nanos.fdiv nanosPerSecond, (nanos.fmod nanosPerSecond).toNat⟩

def epoch : Instant := ⟨0, 0⟩

def secondsPerDay : Int := 86400

def secondOfDay (instant : Instant) : Int :=
  instant.second.fmod secondsPerDay

def inLeapSecond (instant : Instant) : Bool :=
  nanosPerSecond ≤ instant.nanos

/-- The instant after a span of time. The rest of a leap second is counted only as long as the span does
not leave it; before and behind it, time runs as if there were none. -/
def add (instant : Instant) (span : Int) : Instant :=
  let seconds := Span.seconds span
  let fraction := span - Span.ofSeconds seconds
  let start := Span.ofSeconds instant.second + instant.nanos
  if !instant.inLeapSecond then ofNanos (start + span)
  else if 0 < seconds || 2 * nanosPerSecond ≤ instant.nanos + fraction then
    ofNanos (start - nanosPerSecond + span)
  else if seconds < 0 then ofNanos (start + span)
  else ⟨instant.second, (instant.nanos + fraction).toNat⟩

/-- The span from `earlier` to `later`. A leap second is counted if the time of day of the other instant
is later than that of the leap second. -/
def since (later earlier : Instant) : Int :=
  let leap : Int :=
    if earlier.secondOfDay < later.secondOfDay && earlier.inLeapSecond then 1
    else if later.secondOfDay < earlier.secondOfDay && later.inLeapSecond then -1
    else 0
  Span.ofSeconds (later.second - earlier.second + leap) + ((later.nanos : Int) - earlier.nanos)

/-- The first second of the calendar, at the start of the year -262143. -/
def firstSecond : Int := -8334601228800

/-- The last second of the calendar, at the end of the year 262142. -/
def lastSecond : Int := 8210266876799

def inCalendar (instant : Instant) : Option Instant :=
  if firstSecond ≤ instant.second ∧ instant.second ≤ lastSecond then some instant else none

def ofEpochMillis (millis : Int) : Option Instant :=
  inCalendar (ofNanos (Span.ofMillis millis))

def ofEpochSeconds (seconds : Int) : Option Instant :=
  inCalendar ⟨seconds, 0⟩

end Instant

end OrphanWatch

/-!
Instants and durations in whole nanoseconds, both within fixed ranges, and the calendar text of an
instant. An operation whose result would leave its range has no result.
-/

namespace SecurityToken

/-- A span of time; its length is at most the largest 64-bit count of milliseconds. -/
structure Duration where
  nanoseconds : Int
  bounded : nanoseconds.natAbs ≤ 0x7fffffffffffffff * 1000000
  deriving DecidableEq

namespace Duration

def ofNanoseconds? (nanoseconds : Int) : Option Duration :=
  if h : nanoseconds.natAbs ≤ 0x7fffffffffffffff * 1000000 then some ⟨nanoseconds, h⟩ else none

def ofMilliseconds? (milliseconds : Int) : Option Duration :=
  ofNanoseconds? (milliseconds * 1000000)

def ofSeconds? (seconds : Int) : Option Duration :=
  ofNanoseconds? (seconds * 1000000000)

def ofMinutes? (minutes : Int) : Option Duration :=
  ofSeconds? (minutes * 60)

def zero : Duration := ⟨0, by decide⟩

def fiveMinutes : Duration := ⟨300 * 1000000000, by decide⟩

/-- Whole seconds, cut off toward zero. -/
def seconds (duration : Duration) : Int :=
  duration.nanoseconds.tdiv 1000000000

end Duration

/-- A point in time, counted from the first of January 1970, within the years -262143 to 262142. -/
structure Instant where
  nanoseconds : Int
  lower : -8334601228800 * 1000000000 ≤ nanoseconds
  upper : nanoseconds < 8210266876800 * 1000000000
  deriving DecidableEq

namespace Instant

def ofNanoseconds? (nanoseconds : Int) : Option Instant :=
  if h : -8334601228800 * 1000000000 ≤ nanoseconds ∧ nanoseconds < 8210266876800 * 1000000000 then
    some ⟨nanoseconds, h.1, h.2⟩
  else none

def ofSeconds? (seconds : Int) : Option Instant :=
  ofNanoseconds? (seconds * 1000000000)

def earliest : Instant := ⟨-8334601228800 * 1000000000, by decide, by decide⟩

def latest : Instant := ⟨8210266876800 * 1000000000 - 1, by decide, by decide⟩

instance : Inhabited Instant := ⟨⟨0, by decide, by decide⟩⟩

instance : LE Instant := ⟨fun left right => left.nanoseconds ≤ right.nanoseconds⟩

instance : LT Instant := ⟨fun left right => left.nanoseconds < right.nanoseconds⟩

instance (left right : Instant) : Decidable (left ≤ right) :=
  inferInstanceAs (Decidable (left.nanoseconds ≤ right.nanoseconds))

instance (left right : Instant) : Decidable (left < right) :=
  inferInstanceAs (Decidable (left.nanoseconds < right.nanoseconds))

def add? (instant : Instant) (duration : Duration) : Option Instant :=
  ofNanoseconds? (instant.nanoseconds + duration.nanoseconds)

def sub? (instant : Instant) (duration : Duration) : Option Instant :=
  ofNanoseconds? (instant.nanoseconds - duration.nanoseconds)

def seconds (instant : Instant) : Int :=
  instant.nanoseconds / 1000000000

structure Date where
  year : Int
  month : Nat
  day : Nat

/-- The date so many days after the first of January 1970. Years are counted from March, so that
a leap day comes last, in eras of four hundred years. -/
def Date.ofDays (days : Int) : Date :=
  let shifted := days + 719468
  let era := shifted / 146097
  let dayOfEra := (shifted % 146097).toNat
  let yearOfEra := (dayOfEra - dayOfEra / 1460 + dayOfEra / 36524 - dayOfEra / 146096) / 365
  let dayOfYear := dayOfEra - (365 * yearOfEra + yearOfEra / 4 - yearOfEra / 100)
  let fromMarch := (5 * dayOfYear + 2) / 153
  let day := dayOfYear - (153 * fromMarch + 2) / 5 + 1
  let month := if fromMarch < 10 then fromMarch + 3 else fromMarch - 9
  let year := era * 400 + yearOfEra
  ⟨if month ≤ 2 then year + 1 else year, month, day⟩

def padded (width value : Nat) : String :=
  let digits := Nat.toDigits 10 value
  String.ofList (List.replicate (width - digits.length) '0' ++ digits)

/-- Four digits for the years 0 to 9999, otherwise a sign and at least four digits. -/
def yearText (year : Int) : String :=
  if 0 ≤ year ∧ year ≤ 9999 then padded 4 year.toNat
  else (if year < 0 then "-" else "+") ++ padded 4 year.natAbs

/-- The fraction of a second in as few groups of three digits as say it exactly. -/
def fractionText (nanoseconds : Nat) : String :=
  if nanoseconds = 0 then ""
  else if nanoseconds % 1000000 = 0 then "." ++ padded 3 (nanoseconds / 1000000)
  else if nanoseconds % 1000 = 0 then "." ++ padded 6 (nanoseconds / 1000)
  else "." ++ padded 9 nanoseconds

/-- The text of an instant after RFC 3339, in universal time. -/
def text (instant : Instant) : String :=
  let seconds := instant.seconds
  let date := Date.ofDays (seconds / 86400)
  let second := (seconds % 86400).toNat
  let nanosecond := (instant.nanoseconds % 1000000000).toNat
  yearText date.year ++ "-" ++ padded 2 date.month ++ "-" ++ padded 2 date.day ++ "T" ++
    padded 2 (second / 3600) ++ ":" ++ padded 2 (second / 60 % 60) ++ ":" ++
    padded 2 (second % 60) ++ fractionText nanosecond ++ "+00:00"

end Instant

end SecurityToken

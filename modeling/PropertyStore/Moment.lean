namespace PropertyStore

/-- A time by the calendar in UTC; the days of the week count from one for Monday. -/
structure Calendar where
  year : Nat
  month : Nat
  day : Nat
  weekday : Nat
  hour : Nat
  minute : Nat
  second : Nat
  microsecond : Nat

/-- A time as saved files bear it and as log records do. -/
structure Moment where
  stamp : String
  instant : String

namespace Calendar

/-- A number with noughts before it up to a width. -/
def padded (width value : Nat) : String :=
  let digits := Nat.toDigits 10 value
  String.ofList (List.replicate (width - digits.length) '0' ++ digits)

def dayName (weekday : Nat) : String :=
  ["Mon", "Tue", "Wed", "Thu", "Fri", "Sat", "Sun"].getD (weekday - 1) "Mon"

def monthName (month : Nat) : String :=
  ["Jan", "Feb", "Mar", "Apr", "May", "Jun", "Jul", "Aug", "Sep", "Oct", "Nov", "Dec"].getD
    (month - 1) "Jan"

def clock (time : Calendar) : String :=
  s!"{padded 2 time.hour}:{padded 2 time.minute}:{padded 2 time.second}"

/-- The time with the names of day and month, as in `Thu Jan 01 00:00:00 UTC 1970`. -/
def stamp (time : Calendar) : String :=
  let day := s!"{dayName time.weekday} {monthName time.month} {padded 2 time.day}"
  s!"{day} {time.clock} UTC {padded 4 time.year}"

/-- The time in numbers, as in `1970-01-01T00:00:00.000000Z`. -/
def instant (time : Calendar) : String :=
  let date := s!"{padded 4 time.year}-{padded 2 time.month}-{padded 2 time.day}"
  s!"{date}T{time.clock}.{padded 6 time.microsecond}Z"

def moment (time : Calendar) : Moment := ⟨time.stamp, time.instant⟩

end Calendar

end PropertyStore

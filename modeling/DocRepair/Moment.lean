import DocRepair.Text.Search

namespace DocRepair

structure Day where
  year : Nat
  month : Nat
  day : Nat
  deriving DecidableEq, Repr

/-- A time of day with millionths of a second. -/
structure ClockTime where
  hour : Nat
  minute : Nat
  second : Nat
  micros : Nat := 0
  deriving DecidableEq, Repr

/-- Why there is no such day, time or offset. -/
inductive MomentFault where
  | year (n : Nat)
  | month
  | day
  | hour
  | minute
  | second
  /-- An offset of a day or more, in minutes. -/
  | offset (minutes : Int)
  deriving DecidableEq, Repr

/-- An offset as days and seconds, the seconds not being negative. -/
def offsetText (minutes : Int) : Text :=
  let seconds := minutes * 60
  let days := seconds.fdiv 86400
  let rest := seconds.fmod 86400
  let dayPart : Text := "days=" ++ Text.ofInt days
  "datetime.timedelta(" ++ (if rest = 0 then dayPart else dayPart ++ ", seconds=" ++ Text.ofInt rest) ++
    ")"

def MomentFault.message : MomentFault → Text
  | .year n => "year " ++ Text.ofNat n ++ " is out of range"
  | .month => "month must be in 1..12"
  | .day => "day is out of range for month"
  | .hour => "hour must be in 0..23"
  | .minute => "minute must be in 0..59"
  | .second => "second must be in 0..59"
  | .offset minutes =>
    "offset must be a timedelta strictly between -timedelta(hours=24) and " ++
      "timedelta(hours=24), not " ++ offsetText minutes ++ "."

def isLeapYear (year : Nat) : Bool :=
  year % 4 == 0 && (year % 100 != 0 || year % 400 == 0)

def daysInMonth (year month : Nat) : Nat :=
  if month = 2 then (if isLeapYear year then 29 else 28)
  else if month = 4 || month = 6 || month = 9 || month = 11 then 30
  else 31

def Day.check (d : Day) : Except MomentFault Unit :=
  if d.year = 0 then .error (.year d.year)
  else if d.month = 0 || 12 < d.month then .error .month
  else if d.day = 0 || daysInMonth d.year d.month < d.day then .error .day
  else .ok ()

def ClockTime.check (t : ClockTime) : Except MomentFault Unit :=
  if 23 < t.hour then .error .hour
  else if 59 < t.minute then .error .minute
  else if 59 < t.second then .error .second
  else .ok ()

def checkOffset (minutes : Int) : Except MomentFault Unit :=
  if minutes.natAbs < 24 * 60 then .ok () else .error (.offset minutes)

/-- A number with at least so many digits. -/
def padded (width n : Nat) : Text :=
  let digits := Text.ofNat n
  List.replicate (width - digits.length) ('0' : CodePoint) ++ digits

def Day.text (d : Day) : Text :=
  padded 4 d.year ++ "-" ++ padded 2 d.month ++ "-" ++ padded 2 d.day

/-- The text of a time; millionths are left out if there are none. -/
def ClockTime.text (t : ClockTime) : Text :=
  let micros : Text := if t.micros = 0 then [] else "." ++ padded 6 t.micros
  padded 2 t.hour ++ ":" ++ padded 2 t.minute ++ ":" ++ padded 2 t.second ++ micros

def offsetSuffix (minutes : Int) : Text :=
  let size := minutes.natAbs
  (if minutes < 0 then "-" else "+") ++ padded 2 (size / 60) ++ ":" ++ padded 2 (size % 60)

end DocRepair

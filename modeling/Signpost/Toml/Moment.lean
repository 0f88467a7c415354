import Signpost.Text.Basic

/-!
# Dates and times

A date of the calendar, a time of the day, or both with the distance from universal time. Of a
fraction of a second nine digits count.
-/

namespace Signpost.Toml

/-- A day of the calendar. -/
structure Day where
  year : Nat
  month : Nat
  day : Nat
deriving DecidableEq, Repr

/-- A time of the day. -/
structure Clock where
  hour : Nat
  minute : Nat
  second : Nat
  nanosecond : Nat
deriving DecidableEq, Repr

/-- The distance from universal time. -/
inductive Offset where
  | zulu
  | minutes (distance : Int)
deriving DecidableEq, Repr

/-- A date, a time, or both. -/
inductive Moment where
  | day (day : Day)
  | clock (clock : Clock)
  | both (day : Day) (clock : Clock) (offset : Option Offset)
deriving DecidableEq, Repr

def isLeap (year : Nat) : Bool := year % 4 = 0 && (year % 100 != 0 || year % 400 = 0)

def monthLength (year month : Nat) : Nat :=
  if month = 2 then (if isLeap year then 29 else 28)
  else if month = 4 || month = 6 || month = 9 || month = 11 then 30
  else 31

/-- A number of exactly `width` digits, between two bounds. -/
def field? (width least most : Nat) (t : Text) : Option (Nat × Text) :=
  let digits := t.take width
  let n := digits.foldl (fun n c => n * 10 + (c.toNat - 48)) 0
  if digits.length = width && digits.all Text.isDigit && least ≤ n && n ≤ most then
    some (n, t.drop width)
  else none

def after? (c : Char) : Text → Option Text
  | d :: t => if c = d then some t else none
  | [] => none

def readDay? (t : Text) : Option (Day × Text) := do
  let (year, t) ← field? 4 0 9999 t
  let t ← after? '-' t
  let (month, t) ← field? 2 1 12 t
  let t ← after? '-' t
  let (day, t) ← field? 2 1 (monthLength year month) t
  return (⟨year, month, day⟩, t)

def readFraction? (t : Text) : Option (Nat × Text) :=
  let digits := t.takeWhile Text.isDigit
  let kept := digits.take 9
  if digits.isEmpty then none
  else
    let n := kept.foldl (fun n c => n * 10 + (c.toNat - 48)) 0
    some (n * Nat.pow 10 (9 - kept.length), t.drop digits.length)

def readClock? (t : Text) : Option (Clock × Text) := do
  let (hour, t) ← field? 2 0 23 t
  let t ← after? ':' t
  let (minute, t) ← field? 2 0 59 t
  let t ← after? ':' t
  let (second, t) ← field? 2 0 60 t
  match t with
  | '.' :: t =>
    let (nanosecond, t) ← readFraction? t
    return (⟨hour, minute, second, nanosecond⟩, t)
  | t => return (⟨hour, minute, second, 0⟩, t)

/-- The distance from universal time, which may be missing. -/
def readOffset? (t : Text) : Option (Option Offset × Text) :=
  let signed (sign : Int) (t : Text) : Option (Option Offset × Text) := do
    let (hours, t) ← field? 2 0 23 t
    let t ← after? ':' t
    let (minutes, t) ← field? 2 0 59 t
    return (some (.minutes (sign * (hours * 60 + minutes : Nat))), t)
  match t with
  | 'Z' :: t => some (some .zulu, t)
  | 'z' :: t => some (some .zulu, t)
  | '+' :: t => signed 1 t
  | '-' :: t => signed (-1) t
  | t => some (none, t)

/-- Whether a time starts here: two digits and a colon. -/
def startsClock (t : Text) : Bool := (field? 2 0 99 t).any fun (_, t) => t.head? == some ':'

/-- Whether a date starts here: four digits and a hyphen. -/
def startsDay (t : Text) : Bool := (field? 4 0 9999 t).any fun (_, t) => t.head? == some '-'

def readMoment? (t : Text) : Option (Moment × Text) := do
  if startsClock t then
    let (clock, t) ← readClock? t
    return (.clock clock, t)
  else
    let (day, t) ← readDay? t
    match t with
    | c :: rest =>
      if (c = 'T' || c = 't' || c = ' ') && startsClock rest then
        let (clock, t) ← readClock? rest
        let (offset, t) ← readOffset? t
        return (.both day clock offset, t)
      else return (.day day, t)
    | [] => return (.day day, t)

/-- A number of at least `width` digits. -/
def padded (width n : Nat) : Text := Text.padStart width '0' (Text.ofNat n)

def Day.render (d : Day) : Text :=
  padded 4 d.year ++ '-' :: padded 2 d.month ++ '-' :: padded 2 d.day

def Clock.render (c : Clock) : Text :=
  padded 2 c.hour ++ ':' :: padded 2 c.minute ++ ':' :: padded 2 c.second ++
    if c.nanosecond = 0 then [] else '.' :: Text.trimEndBy (· == '0') (padded 9 c.nanosecond)

def Offset.render : Offset → Text
  | .zulu => ['Z']
  | .minutes n =>
    (if n < 0 then '-' else '+') :: padded 2 (n.natAbs / 60) ++ ':' :: padded 2 (n.natAbs % 60)

def Moment.render : Moment → Text
  | .day d => d.render
  | .clock c => c.render
  | .both d c offset => d.render ++ 'T' :: c.render ++ (offset.map Offset.render).getD []

end Signpost.Toml

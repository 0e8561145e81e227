import MarklogicUpgrade.Handler.PrecheckJson
import Mathlib.Algebra.Group.Nat.Basic

/-!
# Reading a time back

`Time.UnmarshalJSON` hands the characters between the quotes of a JSON string, not unescaped,
to `parseStrictRFC3339`. That tries `parseRFC3339`, a fast path on the exact layout
`2006-01-02T15:04:05[.fraction](Z|±hh:mm)` with every field range-checked, and falls back to
`time.Parse(time.RFC3339, ...)`, which walks the layout's chunks and accepts a little more (a
one-digit hour, a comma before the fraction, a zone hour of 24). The stricter checks that
`parseStrictRFC3339` would make on what the fallback accepts are switched off in the source
(`case true: return t, nil`), so the fallback's result stands.

A time parsed with a zone offset is shown in that offset (the local zone if it has that offset
then, else a fixed zone); `Z` gives UTC. Only the offset is kept here, as in `Time`.

The date of a time is turned into a day count by `daysFromCivil`, the inverse of
`civilFromDays`.
-/

namespace MarklogicUpgrade

/-! ### The calendar -/

/-- `isLeap`. -/
def isLeap (year : Int) : Bool :=
  year % 4 = 0 && (year % 100 ≠ 0 || year % 400 = 0)

/-- `daysBefore`: the days of a common year before each month. -/
def daysBefore : List Nat := [0, 31, 59, 90, 120, 151, 181, 212, 243, 273, 304, 334, 365]

/-- `daysIn(month, year)`. -/
def daysIn (month : Nat) (year : Int) : Nat :=
  if month = 2 ∧ isLeap year then 29
  else daysBefore.getD month 0 - daysBefore.getD (month - 1) 0

/-- The day, counted from 1970-01-01, of a proleptic Gregorian date (what `Date` computes):
`civilFromDays` run backwards. -/
def daysFromCivil (year month day : Int) : Int :=
  let y := if month ≤ 2 then year - 1 else year
  let era := y / 400
  let yoe := y - era * 400
  let mp := if 2 < month then month - 3 else month + 9
  let doy := (153 * mp + 2) / 5 + day - 1
  let doe := 365 * yoe + yoe / 4 - yoe / 100 + doy
  era * 146097 + doe - 719468

/-- `Date(year, month, day, hour, min, sec, nsec, UTC)` moved by `addSec(-offset)` and shown at
`offset`: the time a clock reading at that offset names. -/
def Time.ofClock (year month day hour min sec nsec offset : Int) : Time :=
  ⟨(daysFromCivil year month day * 86400 + hour * 3600 + min * 60 + sec - offset) * 1000000000 +
    nsec, offset⟩

/-! ### The fast path -/

/-- The value of a run of decimal digits. -/
def digitsValue (cs : List Char) : Nat :=
  cs.foldl (fun x c ↦ 10 * x + (c.toNat - 48)) 0

/-- `parseUint` of `parseRFC3339`: digits only, of a value in `[lo, hi]`. -/
def parseUint (cs : List Char) (lo hi : Nat) : Option Nat :=
  if cs.all Char.isDigit ∧ lo ≤ digitsValue cs ∧ digitsValue cs ≤ hi then some (digitsValue cs)
  else none

/-- `parseNanoseconds`: the first nine digits of a fraction, in nanoseconds. -/
def parseNanoseconds (ds : List Char) : Nat :=
  digitsValue (ds.take 9) * 10 ^ (9 - (ds.take 9).length)

/-- A fractional second: a separator the caller allows and at least one digit; else none, and
nothing is read. -/
def parseFraction (isSep : Char → Bool) : List Char → Nat × List Char
  | sep :: d :: rest =>
    if isSep sep ∧ d.isDigit then
      (parseNanoseconds (d :: rest.takeWhile Char.isDigit), rest.dropWhile Char.isDigit)
    else (0, sep :: d :: rest)
  | cs => (0, cs)

/-- The zone of `parseRFC3339` as an offset in seconds: exactly `Z`, or exactly `±hh:mm`. -/
def parseZone : List Char → Option Int
  | ['Z'] => some 0
  | [sign, h1, h2, ':', m1, m2] => do
    let hr ← parseUint [h1, h2] 0 23
    let mm ← parseUint [m1, m2] 0 59
    if sign = '+' then some ((hr * 60 + mm) * 60)
    else if sign = '-' then some (-((hr * 60 + mm) * 60))
    else none
  | _ => none

/-- `parseRFC3339`: the exact layout, each field in range and the day within its month. -/
def parseRFC3339 : List Char → Option Time
  | y1 :: y2 :: y3 :: y4 :: d1 :: mo1 :: mo2 :: d2 :: dd1 :: dd2 :: t :: h1 :: h2 :: c1 :: mi1 ::
      mi2 :: c2 :: s1 :: s2 :: rest => do
    let year ← parseUint [y1, y2, y3, y4] 0 9999
    let month ← parseUint [mo1, mo2] 1 12
    let day ← parseUint [dd1, dd2] 1 (daysIn month year)
    let hour ← parseUint [h1, h2] 0 23
    let min ← parseUint [mi1, mi2] 0 59
    let sec ← parseUint [s1, s2] 0 59
    if d1 = '-' ∧ d2 = '-' ∧ t = 'T' ∧ c1 = ':' ∧ c2 = ':' then
      let (nsec, rest) := parseFraction (· = '.') rest
      let offset ← parseZone rest
      some (Time.ofClock year month day hour min sec nsec offset)
    else none
  | _ => none

/-! ### The fallback: `time.Parse` with the layout `RFC3339` -/

/-- `time.RFC3339`. -/
def rfc3339 : String := "2006-01-02T15:04:05Z07:00"

/-- `time.quote`: in double quotes, `"` and `\` backslashed, and every byte of a non-ASCII or
control character as `\xhh`. -/
def timeQuote (s : String) : String :=
  "\"" ++ String.join (s.data.map quoteRune) ++ "\""
where
  /-- One character of `time.quote`. -/
  quoteRune (c : Char) : String :=
    if 0x80 ≤ c.toNat ∨ c.toNat < 32 then
      String.join ((String.utf8EncodeChar c).map fun b ↦
        "\\x" ++ (⟨[Json.hexDigit (b.toNat / 16), Json.hexDigit (b.toNat % 16)]⟩ : String))
    else if c = '"' ∨ c = '\\' then ⟨['\\', c]⟩
    else c.toString

/-- `*time.ParseError`. -/
structure ParseError where
  layout : String
  value : String
  layoutElem : String
  valueElem : String
  message : String
deriving DecidableEq, Repr

/-- `ParseError.Error`. -/
def ParseError.error (e : ParseError) : String :=
  if e.message = "" then
    "parsing time " ++ timeQuote e.value ++ " as " ++ timeQuote e.layout ++ ": cannot parse " ++
      timeQuote e.valueElem ++ " as " ++ timeQuote e.layoutElem
  else "parsing time " ++ timeQuote e.value ++ e.message

/-- `newParseError(RFC3339, value, layoutElem, valueElem, "")`: the element could not be read. -/
def ParseError.bad (value : List Char) (layoutElem : String) (valueElem : List Char) :
    ParseError :=
  ⟨rfc3339, ⟨value⟩, layoutElem, ⟨valueElem⟩, ""⟩

/-- The error for a value read but out of range, `what` naming it. -/
def ParseError.range (value : List Char) (layoutElem : String) (rest : List Char)
    (what : String) : ParseError :=
  ⟨rfc3339, ⟨value⟩, layoutElem, ⟨rest⟩, ": " ++ what ++ " out of range"⟩

/-- `getnum(s, fixed)`: one or two leading digits, exactly two when `fixed`. -/
def getnum (fixed : Bool) : List Char → Option (Nat × List Char)
  | a :: b :: rest =>
    if a.isDigit then
      if b.isDigit then some (digitsValue [a, b], rest)
      else if fixed then none else some (digitsValue [a], b :: rest)
    else none
  | [a] => if a.isDigit ∧ !fixed then some (digitsValue [a], []) else none
  | [] => none

/-- `skip(value, prefix)` for a one-character prefix `p` of the layout. -/
def skipChar (value : List Char) (p : Char) : List Char → Except ParseError (List Char)
  | c :: cs => if c = p then .ok cs else .error (.bad value ⟨[p]⟩ (c :: cs))
  | [] => .error (.bad value ⟨[p]⟩ [])

/-- `stdLongYear` (`2006`): four digits. -/
def stdLongYear (value : List Char) : List Char → Except ParseError (Nat × List Char)
  | a :: b :: c :: d :: rest =>
    if [a, b, c, d].all Char.isDigit then .ok (digitsValue [a, b, c, d], rest)
    else .error (.bad value "2006" (a :: b :: c :: d :: rest))
  | hold => .error (.bad value "2006" hold)

/-- A numeric element of the layout (`01`, `02`, `15`, `04`, `05`): `getnum`, then the range
check that names `what`. -/
def stdNum (value : List Char) (layoutElem : String) (fixed : Bool) (what : String)
    (inRange : Nat → Bool) (hold : List Char) : Except ParseError (Nat × List Char) :=
  match getnum fixed hold with
  | none => .error (.bad value layoutElem hold)
  | some (n, rest) => if inRange n then .ok (n, rest) else .error (.range value layoutElem rest what)

/-- `stdISO8601ColonTZ` (`Z07:00`): `Z`, or a sign, two digits, a colon and two digits. Go checks
the ranges with `>` (an offset of 24 hours passes), the minute's check after the hour's. -/
def stdISO8601ColonTZ (value : List Char) : List Char → Except ParseError (Int × List Char)
  | 'Z' :: rest => .ok (0, rest)
  | sign :: h1 :: h2 :: c :: m1 :: m2 :: rest =>
    if c ≠ ':' then .error (.bad value "Z07:00" (sign :: h1 :: h2 :: c :: m1 :: m2 :: rest))
    else
      let hr := getnum true [h1, h2]
      let mm := if hr.isSome then getnum true [m1, m2] else none
      let hrv := (hr.map Prod.fst).getD 0
      let mmv := (mm.map Prod.fst).getD 0
      if 60 < mmv then .error (.range value "Z07:00" rest "time zone offset minute")
      else if 24 < hrv then .error (.range value "Z07:00" rest "time zone offset hour")
      else if mm.isSome ∧ sign = '+' then .ok ((hrv * 60 + mmv) * 60, rest)
      else if mm.isSome ∧ sign = '-' then .ok (-((hrv * 60 + mmv) * 60), rest)
      else .error (.bad value "Z07:00" (sign :: h1 :: h2 :: c :: m1 :: m2 :: rest))
  | hold => .error (.bad value "Z07:00" hold)

/-- `time.Parse(time.RFC3339, value)`: the layout's chunks in turn, a fraction after the seconds
though the layout names none, then nothing left over and a day within its month. -/
def parseLayoutRFC3339 (value : List Char) : Except ParseError Time := do
  let (year, rest) ← stdLongYear value value
  let rest ← skipChar value '-' rest
  let (month, rest) ← stdNum value "01" true "month" (fun n ↦ 1 ≤ n ∧ n ≤ 12) rest
  let rest ← skipChar value '-' rest
  let (day, rest) ← stdNum value "02" true "day" (fun _ ↦ true) rest
  let rest ← skipChar value 'T' rest
  let (hour, rest) ← stdNum value "15" false "hour" (· < 24) rest
  let rest ← skipChar value ':' rest
  let (min, rest) ← stdNum value "04" true "minute" (· < 60) rest
  let rest ← skipChar value ':' rest
  let (sec, rest) ← stdNum value "05" true "second" (· < 60) rest
  let (nsec, rest) := parseFraction (fun c ↦ c = '.' ∨ c = ',') rest
  let (offset, rest) ← stdISO8601ColonTZ value rest
  if rest ≠ [] then
    throw ⟨rfc3339, ⟨value⟩, "", ⟨rest⟩, ": extra text: " ++ timeQuote ⟨rest⟩⟩
  if day < 1 ∨ daysIn month year < day then
    throw ⟨rfc3339, ⟨value⟩, "", "", ": day out of range"⟩
  return Time.ofClock year month day hour min sec nsec offset

/-- `parseStrictRFC3339`: the fast path, else the fallback. -/
def parseStrictRFC3339 (b : List Char) : Except ParseError Time :=
  match parseRFC3339 b with
  | some t => .ok t
  | none => parseLayoutRFC3339 b

end MarklogicUpgrade

import MarklogicUpgrade.Handler.Precheck

/-!
# The report's JSON encoding

`PrecheckResults.ToJSON` is `json.Marshal` of the report. Its output is what
`updateUpgradeStateWithResults` stores in the `precheck-results` annotation, so it is modelled
as `encoding/json` writes it (Go 1.22 and later):

* fields in declaration order under their `json` tags, `details` and `remediation` left out
  when empty (`omitempty`);
* strings quoted with HTML escaping on: `"` and `\` backslashed; `\b \f \n \r \t` by name;
  other control characters, `<`, `>` and `&` as `\u00XX`; U+2028 and U+2029 as `\u2028` and
  `\u2029`; everything else as is (a Lean string is always valid UTF-8, so the `\ufffd`
  replacement never applies);
* integers in decimal, booleans as `true`/`false`;
* times through `Time.MarshalJSON`: the quoted `RFC3339Nano` form in the time's own offset,
  refused for a year outside `[0,9999]` or an offset of 24 hours or more. That refusal is the
  only way `ToJSON` fails.

Braces are written `\x7b` and `\x7d` in the string literals below.
-/

namespace MarklogicUpgrade

namespace Json

/-- The lowercase hex digit of `n < 16`. -/
def hexDigit (n : Nat) : Char :=
  if n < 10 then Char.ofNat (48 + n) else Char.ofNat (87 + n)

/-- One character of a string as `encoding/json` writes it with HTML escaping on, the
default of `json.Marshal`. -/
def escapeChar (c : Char) : String :=
  let n := c.toNat
  let bs := Char.ofNat 92
  if n = 34 ∨ n = 92 then ⟨[bs, c]⟩
  else if n = 8 then ⟨[bs, 'b']⟩
  else if n = 12 then ⟨[bs, 'f']⟩
  else if n = 10 then ⟨[bs, 'n']⟩
  else if n = 13 then ⟨[bs, 'r']⟩
  else if n = 9 then ⟨[bs, 't']⟩
  else if n < 32 ∨ n = 60 ∨ n = 62 ∨ n = 38 then
    ⟨[bs, 'u', '0', '0', hexDigit (n / 16), hexDigit (n % 16)]⟩
  else if n = 8232 ∨ n = 8233 then ⟨[bs, 'u', '2', '0', '2', hexDigit (n % 16)]⟩
  else c.toString

/-- A string as a JSON string literal. -/
def quote (s : String) : String :=
  ⟨[Char.ofNat 34]⟩ ++ String.join (s.toList.map escapeChar) ++ ⟨[Char.ofNat 34]⟩

/-- An object from its members, in order. -/
def object (members : List (String × String)) : String :=
  "\x7b" ++ ",".intercalate (members.map fun m ↦ quote m.1 ++ ":" ++ m.2) ++ "\x7d"

/-- An array from its encoded elements. -/
def array (elems : List String) : String := "[" ++ ",".intercalate elems ++ "]"

end Json

/-! ### Times -/

/-- `appendInt(b, x, width)` of package `time`: a sign, then the digits of `|x|` padded with
zeros to `width`. -/
def appendInt (x : Int) (width : Nat) : String :=
  let digits := Nat.repr x.natAbs
  (if x < 0 then "-" else "") ++ ⟨List.replicate (width - digits.length) '0'⟩ ++ digits

/-- The proleptic Gregorian date `(year, month, day)` of a day counted from 1970-01-01. -/
def civilFromDays (z : Int) : Int × Int × Int :=
  let z := z + 719468
  let era := z / 146097
  let doe := z - era * 146097
  let yoe := (doe - doe / 1460 + doe / 36524 - doe / 146096) / 365
  let doy := doe - (365 * yoe + yoe / 4 - yoe / 100)
  let mp := (5 * doy + 2) / 153
  let day := doy - (153 * mp + 2) / 5 + 1
  let month := if mp < 10 then mp + 3 else mp - 9
  (if month ≤ 2 then yoe + era * 400 + 1 else yoe + era * 400, month, day)

/-- Seconds since the epoch in the time's own location. -/
def Time.localSeconds (t : Time) : Int := t.unixNano / 1000000000 + t.offset

/-- `appendFormatRFC3339(b, true)`: the `RFC3339Nano` layout, trailing zeros of the fraction
trimmed, `Z` for a zero offset and `±hh:mm` otherwise. -/
def Time.formatRFC3339Nano (t : Time) : String :=
  let sec := t.localSeconds
  let nsec := t.unixNano % 1000000000
  let (year, month, day) := civilFromDays (sec / 86400)
  let sod := sec % 86400
  let frac :=
    if nsec = 0 then ""
    else "." ++ (⟨((appendInt nsec 9).toList.reverse.dropWhile (· = '0')).reverse⟩ : String)
  let zone :=
    if t.offset = 0 then "Z"
    else
      let z := t.offset.tdiv 60
      (if z < 0 then "-" else "+") ++ appendInt (z.natAbs / 60) 2 ++ ":" ++
        appendInt (z.natAbs % 60) 2
  appendInt year 4 ++ "-" ++ appendInt month 2 ++ "-" ++ appendInt day 2 ++ "T" ++
    appendInt (sod / 3600) 2 ++ ":" ++ appendInt (sod / 60 % 60) 2 ++ ":" ++
    appendInt (sod % 60) 2 ++ frac ++ zone

/-- `Time.MarshalJSON` (Go 1.20 and later): the quoted `RFC3339Nano` form, refused when it
would not be RFC 3339. -/
def Time.marshalJSON (t : Time) : Except String String :=
  let year := (civilFromDays (t.localSeconds / 86400)).1
  if year < 0 ∨ 10000 ≤ year then .error "Time.MarshalJSON: year outside of range [0,9999]"
  else if t.offset ≠ 0 ∧ 24 ≤ (t.offset.tdiv 60).natAbs / 60 then
    .error "Time.MarshalJSON: timezone hour outside of range [0,23]"
  else .ok (Json.quote t.formatRFC3339Nano)

/-- A time field as `json.Marshal` writes it, wrapping the marshaler's error. -/
def marshalTime (t : Time) : Except String String :=
  t.marshalJSON.mapError ("json: error calling MarshalJSON for type time.Time: " ++ ·)

/-! ### The report -/

/-- One result, `details` and `remediation` being `omitempty`. -/
def PrecheckResult.toJSON (r : PrecheckResult) : Except String String := do
  let timestamp ← marshalTime r.timestamp
  return Json.object <|
    [("name", Json.quote r.name), ("status", Json.quote r.status),
      ("message", Json.quote r.message)] ++
    (if r.details = "" then [] else [("details", Json.quote r.details)]) ++
    [("timestamp", timestamp), ("duration", Json.quote r.duration)] ++
    (if r.remediation = "" then [] else [("remediation", Json.quote r.remediation)])

/-- The summary. -/
def PrecheckSummary.toJSON (s : PrecheckSummary) : String :=
  Json.object [("total", toString s.total), ("passed", toString s.passed),
    ("warnings", toString s.warnings), ("failed", toString s.failed),
    ("canProceed", toString s.canProceed)]

/-- `ToJSON`: `json.Marshal` of the report, stopping at the first time it cannot encode. -/
def PrecheckResults.toJSON (r : PrecheckResults) : Except String String := do
  let results ← r.results.mapM PrecheckResult.toJSON
  let timestamp ← marshalTime r.timestamp
  return Json.object [("results", Json.array results), ("summary", r.summary.toJSON),
    ("timestamp", timestamp), ("clusterRef", Json.quote r.clusterRef)]

end MarklogicUpgrade

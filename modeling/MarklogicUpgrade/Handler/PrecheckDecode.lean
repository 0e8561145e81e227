import MarklogicUpgrade.Json.Scan
import MarklogicUpgrade.Json.TimeParse

/-!
# Reading the report back

`PrecheckResultsFromJSON` is `json.Unmarshal` into a zero `PrecheckResults`. After the scan
(`checkValid`), the decoder walks the value into the struct:

* an object's members are read in order, each into the field its key names, exactly or up to
  `foldName`; unknown keys are skipped and a repeated key is read again over what the first left;
* `null` leaves a string, number, bool or struct as it is, and empties a slice;
* a value of the wrong kind is a type error that is saved, not returned: decoding goes on and
  `Unmarshal` returns the first one saved, named by the struct and the path of JSON field
  names it was met under (`addErrorContext`);
* an `int` takes a number's literal through `strconv.ParseInt`, and a literal it refuses (a
  fraction, an exponent, out of range) is a type error naming the literal;
* an array is read into the slice's backing array element by element, so the elements a longer
  array left past a shorter one's length are read into again by a longer one after it;
* `time.Time` is an `Unmarshaler`: it is handed the value whatever its kind, and its error is
  returned at once.

The type error's byte offset is not modelled.
-/

namespace MarklogicUpgrade

namespace Json

/-! ### Errors -/

/-- `*json.UnmarshalTypeError`: the kind of JSON value met, the Go type it could not go into,
and where (`Struct` and `Field`). -/
structure UnmarshalTypeError where
  value : String
  type : String
  struct : String := ""
  field : String := ""
deriving DecidableEq, Repr

/-- `UnmarshalTypeError.Error`. -/
def UnmarshalTypeError.error (e : UnmarshalTypeError) : String :=
  if e.struct ≠ "" ∨ e.field ≠ "" then
    "json: cannot unmarshal " ++ e.value ++ " into Go struct field " ++ e.struct ++ "." ++
      e.field ++ " of type " ++ e.type
  else "json: cannot unmarshal " ++ e.value ++ " into Go value of type " ++ e.type

/-- `errorContext`: the struct whose field is being read and the JSON names of the fields
entered; empty at the top level. -/
structure ErrorContext where
  struct : String := ""
  fieldStack : List String := []
deriving DecidableEq, Repr

/-- The context inside the field `name` of the struct `struct`. -/
def ErrorContext.enter (ctx : ErrorContext) (struct name : String) : ErrorContext :=
  ⟨struct, ctx.fieldStack ++ [name]⟩

/-- A type error as `addErrorContext` leaves it. -/
def ErrorContext.typeError (ctx : ErrorContext) (value type : String) : UnmarshalTypeError :=
  if ctx.struct ≠ "" ∨ ctx.fieldStack ≠ [] then ⟨value, type, ctx.struct, ".".intercalate ctx.fieldStack⟩
  else ⟨value, type, "", ""⟩

/-- What `json.Unmarshal` can fail with. -/
inductive UnmarshalError
  | invalid (e : SyntaxError)
  | type (e : UnmarshalTypeError)
  /-- The error an `Unmarshaler` returned, as it returned it. -/
  | unmarshaler (msg : String)
deriving DecidableEq, Repr

/-- The error's message. -/
def UnmarshalError.error : UnmarshalError → String
  | invalid e => e.msg
  | type e => e.error
  | unmarshaler msg => msg

/-! ### Decoding -/

/-- The decoder: the first type error saved so far as state, and an `Unmarshaler`'s error ending
it at once. -/
abbrev Decode := StateT (Option UnmarshalTypeError) (Except String)

/-- `saveError`: the first type error is kept, the later ones dropped. -/
def saveError (ctx : ErrorContext) (value type : String) : Decode Unit :=
  modify fun saved ↦ saved <|> some (ctx.typeError value type)

/-- `literalStore` for a field of Go type `type` now holding `x`: `null` leaves it; `read`
gives what the kinds the type takes store, or the `Value` of the type error for any other. -/
def decodeLiteral {α : Type} (type : String) (read : Value → Except String α) (ctx : ErrorContext)
    (v : Value) (x : α) : Decode α :=
  match v with
  | .null => pure x
  | v =>
    match read v with
    | .ok y => pure y
    | .error found => do saveError ctx found type; pure x

/-- `strconv.ParseInt(s, 10, 64)` on a number's literal: a sign and digits only, within `int64`. -/
def parseInt64 (s : String) : Option Int :=
  let (neg, ds) : Bool × List Char :=
    match s.data with
    | '-' :: ds => (true, ds)
    | '+' :: ds => (false, ds)
    | ds => (false, ds)
  let n : Int := if neg then -(digitsValue ds : Int) else digitsValue ds
  if ds ≠ [] ∧ ds.all Char.isDigit ∧ -9223372036854775808 ≤ n ∧ n ≤ 9223372036854775807 then
    some n
  else none

/-- A `string` field. -/
def decodeString : ErrorContext → Value → String → Decode String :=
  decodeLiteral "string" fun
    | .string _ text => .ok text
    | v => .error v.kind

/-- An `int` field; a literal `ParseInt` refuses is named in the error. -/
def decodeInt : ErrorContext → Value → Int → Decode Int :=
  decodeLiteral "int" fun
    | .number lit => (parseInt64 lit).elim (.error ("number " ++ lit)) .ok
    | v => .error v.kind

/-- A `bool` field. -/
def decodeBool : ErrorContext → Value → Bool → Decode Bool :=
  decodeLiteral "bool" fun
    | .bool b => .ok b
    | v => .error v.kind

/-- `Time.UnmarshalJSON`, handed the JSON text of `v`: `null` leaves the time as it is; the
characters between a string's quotes, not unescaped, go to `parseStrictRFC3339`; anything else
is refused. -/
def Time.unmarshalJSON (v : Value) (t : Time) : Except String Time :=
  match v with
  | .null => .ok t
  | .string raw _ => (parseStrictRFC3339 raw.data).mapError ParseError.error
  | _ => .error "Time.UnmarshalJSON: input is not a JSON string"

/-- A `time.Time` field. -/
def decodeTime (_ : ErrorContext) (v : Value) (t : Time) : Decode Time :=
  liftM (Time.unmarshalJSON v t)

/-- A struct field: its JSON name, and how a value is read into it. -/
structure Field (α : Type) where
  name : String
  decode : ErrorContext → Value → α → Decode α

/-- `foldName` on one character: ASCII letters upper-cased; the four non-ASCII letters whose
upper case of their lower case is an ASCII letter (`İ ı ſ K`) as that letter. Field names here
are ASCII, so the other characters only need to stay non-ASCII. -/
def foldChar (c : Char) : Char :=
  if 'a' ≤ c ∧ c ≤ 'z' then Char.ofNat (c.toNat - 32)
  else if c.toNat = 0x130 ∨ c.toNat = 0x131 then 'I'
  else if c.toNat = 0x17F then 'S'
  else if c.toNat = 0x212A then 'K'
  else c

/-- `foldName`. -/
def foldName (s : String) : List Char := s.data.map foldChar

/-- The field a key names: `byExactName`, else `byFoldedName`. -/
def lookupField {α : Type} (fields : List (Field α)) (key : String) : Option (Field α) :=
  fields.find? (·.name = key) <|> fields.find? (foldName ·.name = foldName key)

/-- `object` for a struct named `struct` of Go type `type`: each member in turn into the field
its key names. -/
def decodeStruct {α : Type} (struct type : String) (fields : List (Field α)) (ctx : ErrorContext)
    (v : Value) (x : α) : Decode α :=
  match v with
  | .object members =>
    members.foldlM (fun x (key, v) ↦
      match lookupField fields key with
      | some f => f.decode (ctx.enter struct f.name) v x
      | none => pure x) x
  | .null => pure x
  | v => do saveError ctx v.kind type; pure x

/-- The elements of an array read into a backing array, past its end into zero values. -/
def decodeElems {α : Type} (zero : α) (decodeElem : ErrorContext → Value → α → Decode α)
    (ctx : ErrorContext) : List Value → List α → Decode (List α)
  | [], backing => pure backing
  | e :: es, backing => do
    let x ← decodeElem ctx e (backing.headD zero)
    let rest ← decodeElems zero decodeElem ctx es backing.tail
    pure (x :: rest)

/-- `array` for a slice of Go type `type`, holding `xs` and, past its length, `stale`: the
slice and what it holds past its new length. An empty array gives a new empty slice. -/
def decodeSlice {α : Type} (type : String) (zero : α)
    (decodeElem : ErrorContext → Value → α → Decode α) (ctx : ErrorContext) (v : Value)
    (xs stale : List α) : Decode (List α × List α) :=
  match v with
  | .array [] => pure ([], [])
  | .array elems => do
    let backing ← decodeElems zero decodeElem ctx elems (xs ++ stale)
    pure (backing.take elems.length, backing.drop elems.length)
  | .null => pure ([], [])
  | v => do saveError ctx v.kind type; pure (xs, stale)

end Json

open Json

/-! ### The report -/

/-- The zero `time.Time`: January 1 of year 1, UTC. -/
def zeroTime : Time := ⟨-62135596800 * 1000000000, 0⟩

/-- The zero `PrecheckResult`. -/
def PrecheckResult.zero : PrecheckResult :=
  ⟨"", "", "", "", zeroTime, "", ""⟩

/-- The zero `PrecheckResults`. -/
def PrecheckResults.zero : PrecheckResults :=
  ⟨[], ⟨0, 0, 0, 0, false⟩, zeroTime, ""⟩

/-- The fields of `PrecheckResult` under their `json` tags. -/
def precheckResultFields : List (Json.Field PrecheckResult) :=
  [⟨"name", fun ctx v r ↦ return { r with name := ← decodeString ctx v r.name }⟩,
    ⟨"status", fun ctx v r ↦ return { r with status := ← decodeString ctx v r.status }⟩,
    ⟨"message", fun ctx v r ↦ return { r with message := ← decodeString ctx v r.message }⟩,
    ⟨"details", fun ctx v r ↦ return { r with details := ← decodeString ctx v r.details }⟩,
    ⟨"timestamp", fun ctx v r ↦ return { r with timestamp := ← decodeTime ctx v r.timestamp }⟩,
    ⟨"duration", fun ctx v r ↦ return { r with duration := ← decodeString ctx v r.duration }⟩,
    ⟨"remediation", fun ctx v r ↦
      return { r with remediation := ← decodeString ctx v r.remediation }⟩]

/-- One `PrecheckResult`. -/
def decodePrecheckResult : ErrorContext → Value → PrecheckResult → Decode PrecheckResult :=
  decodeStruct "PrecheckResult" "handler.PrecheckResult" precheckResultFields

/-- The fields of `PrecheckSummary` under their `json` tags. -/
def precheckSummaryFields : List (Json.Field PrecheckSummary) :=
  [⟨"total", fun ctx v s ↦ return { s with total := ← decodeInt ctx v s.total }⟩,
    ⟨"passed", fun ctx v s ↦ return { s with passed := ← decodeInt ctx v s.passed }⟩,
    ⟨"warnings", fun ctx v s ↦ return { s with warnings := ← decodeInt ctx v s.warnings }⟩,
    ⟨"failed", fun ctx v s ↦ return { s with failed := ← decodeInt ctx v s.failed }⟩,
    ⟨"canProceed", fun ctx v s ↦ return { s with canProceed := ← decodeBool ctx v s.canProceed }⟩]

/-- A `PrecheckResults` being read, with what its `Results` slice holds past its length. -/
structure DecodingReport where
  report : PrecheckResults
  stale : List PrecheckResult := []

/-- The fields of `PrecheckResults` under their `json` tags. -/
def precheckResultsFields : List (Json.Field DecodingReport) :=
  [⟨"results", fun ctx v d ↦ do
      let (results, stale) ← decodeSlice "[]handler.PrecheckResult" PrecheckResult.zero
        decodePrecheckResult ctx v d.report.results d.stale
      return ⟨{ d.report with results := results }, stale⟩⟩,
    ⟨"summary", fun ctx v d ↦ do
      let summary ← decodeStruct "PrecheckSummary" "handler.PrecheckSummary"
        precheckSummaryFields ctx v d.report.summary
      return { d with report := { d.report with summary := summary } }⟩,
    ⟨"timestamp", fun ctx v d ↦ do
      let timestamp ← decodeTime ctx v d.report.timestamp
      return { d with report := { d.report with timestamp := timestamp } }⟩,
    ⟨"clusterRef", fun ctx v d ↦ do
      let clusterRef ← decodeString ctx v d.report.clusterRef
      return { d with report := { d.report with clusterRef := clusterRef } }⟩]

/-- `PrecheckResultsFromJSON`: `json.Unmarshal` into a zero `PrecheckResults`; an
`Unmarshaler`'s error first, else the first type error saved, else the report. -/
def precheckResultsFromJSON (jsonStr : String) : Except UnmarshalError PrecheckResults :=
  match checkValid jsonStr.data with
  | .error stop => .error (.invalid (stop.toSyntaxError jsonStr.data))
  | .ok v =>
    match (decodeStruct "PrecheckResults" "handler.PrecheckResults" precheckResultsFields {} v
        ⟨PrecheckResults.zero, []⟩).run none with
    | .error msg => .error (.unmarshaler msg)
    | .ok (_, some e) => .error (.type e)
    | .ok (d, none) => .ok d.report

end MarklogicUpgrade

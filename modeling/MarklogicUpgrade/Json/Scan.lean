import Mathlib.Data.List.Basic

/-!
# Reading JSON text

`json.Unmarshal` first runs its scanner over the whole input (`checkValid`) and only then
decodes. The scanner is a state machine over bytes, with a stack (`parseState`) of the
containers open around it. It is modelled as that machine: one `Phase` per state function of
`scanner.go`, a `Frame` per `parseState` entry, and `Scanner.step` for one character. Each
frame also keeps what its container has read, so that the run ends with the value the decoder
then walks (the decoder's second pass reads the same input with the same scanner):

* whitespace is space, tab, line feed and carriage return;
* a number is `-?(0|[1-9][0-9]*)(.[0-9]+)?([eE][+-]?[0-9]+)?`, kept as its literal;
* a string may not hold a control character; its escapes are `\" \\ \/ \b \f \n \r \t` and
  `\u` with four hex digits. A string keeps both the characters between its quotes (what an
  `Unmarshaler` is handed) and its text as `unquote` reads it, a UTF-16 surrogate pair as one
  character and any other surrogate as U+FFFD;
* containers may nest 10000 deep.

A syntax error names the first character the scanner cannot take and what it was looking for.
At the end of the input the scanner is fed one more space (`scanner.eof`), so a value cut short
inside a number, a literal or an escape is reported at that space, and elsewhere as
`unexpected end of JSON input`. The offset is the count of bytes read.

Input is a Lean string, so it is valid UTF-8; the scanner only meets a non-ASCII character
outside a string at the first byte of its encoding, which is the byte its message quotes.
-/

namespace MarklogicUpgrade

namespace Json

/-- A JSON value as the decoder walks it. -/
inductive Value
  | null
  | bool (b : Bool)
  | number (literal : String)
  /-- The characters between the quotes, and the text they stand for. -/
  | string (raw text : String)
  | array (elems : List Value)
  | object (members : List (String × Value))
deriving Repr

/-- The name `UnmarshalTypeError.Value` gives a value of this kind. -/
def Value.kind : Value → String
  | null => "null"
  | bool _ => "bool"
  | number _ => "number"
  | string .. => "string"
  | array _ => "array"
  | object _ => "object"

/-! ### Characters -/

/-- `isSpace` of the scanner. -/
def isSpace (c : Char) : Bool :=
  c = ' ' ∨ c = '\t' ∨ c = '\r' ∨ c = '\n'

/-- The leading whitespace dropped. -/
def skipSpace : List Char → List Char
  | [] => []
  | c :: cs => if isSpace c then skipSpace cs else c :: cs

/-- The value of a hex digit, either case. -/
def hexValue (c : Char) : Option Nat :=
  if '0' ≤ c ∧ c ≤ '9' then some (c.toNat - 48)
  else if 'a' ≤ c ∧ c ≤ 'f' then some (c.toNat - 87)
  else if 'A' ≤ c ∧ c ≤ 'F' then some (c.toNat - 55)
  else none

/-- The first byte of a character's UTF-8 encoding. -/
def leadByte (c : Char) : Nat :=
  let n := c.toNat
  if n < 0x80 then n
  else if n < 0x800 then 0xC0 + n / 0x40
  else if n < 0x10000 then 0xE0 + n / 0x1000
  else 0xF0 + n / 0x40000

/-- The number of bytes of a text's UTF-8 encoding. -/
def utf8Length (cs : List Char) : Nat :=
  cs.foldr (fun c n ↦ c.utf8Size + n) 0

/-- Two lowercase hex digits of a byte. -/
def hexByte (b : Nat) : String :=
  let digit (n : Nat) : Char := if n < 10 then Char.ofNat (48 + n) else Char.ofNat (87 + n)
  ⟨[digit (b / 16 % 16), digit (b % 16)]⟩

/-- `quoteChar`: a byte as the scanner's message shows it, in single quotes. The byte is read
as the rune of the same number and quoted as `strconv.Quote` does, the quote characters
themselves shown bare. -/
def quoteChar (b : Nat) : String :=
  let q : String := (Char.ofNat 39).toString
  let bs : String := (Char.ofNat 92).toString
  let body : String :=
    if b = 39 then bs ++ q
    else if b = 34 then (Char.ofNat 34).toString
    else if b = 92 then bs ++ bs
    else if b = 7 then bs ++ "a"
    else if b = 8 then bs ++ "b"
    else if b = 12 then bs ++ "f"
    else if b = 10 then bs ++ "n"
    else if b = 13 then bs ++ "r"
    else if b = 9 then bs ++ "t"
    else if b = 11 then bs ++ "v"
    else if b < 32 ∨ b = 127 then bs ++ "x" ++ hexByte b
    else if 127 < b ∧ b < 161 ∨ b = 173 then bs ++ "u00" ++ hexByte b
    else (Char.ofNat b).toString
  q ++ body ++ q

/-! ### Where the scanner stops -/

/-- Why the scan stopped. -/
inductive Stop
  /-- At a character the scanner refuses; `rest` starts with that character, and is empty for
  the space fed at the end of the input. -/
  | invalid (c : Char) (context : String) (rest : List Char)
  /-- At the end of the input, inside a value. -/
  | unexpectedEnd
deriving DecidableEq, Repr

/-- `*json.SyntaxError`: its message and the count of bytes read. -/
structure SyntaxError where
  msg : String
  offset : Nat
deriving DecidableEq, Repr

/-- The syntax error a stop reports, on the input `input`. -/
def Stop.toSyntaxError (input : List Char) : Stop → SyntaxError
  | invalid c context rest =>
    ⟨"invalid character " ++ quoteChar (leadByte c) ++ " " ++ context,
      if rest = [] then utf8Length input else utf8Length input - utf8Length rest + 1⟩
  | unexpectedEnd => ⟨"unexpected end of JSON input", utf8Length input⟩

/-! ### Strings as `unquote` reads them -/

/-- U+FFFD, what `unquote` reads a lone surrogate as. -/
def replacementChar : Char := Char.ofNat 0xFFFD

/-- The character a high and a low surrogate stand for together (`utf16.DecodeRune`). -/
def surrogatePair (hi lo : Nat) : Char :=
  Char.ofNat ((hi - 0xD800) * 0x400 + (lo - 0xDC00) + 0x10000)

/-- The text with a waiting high surrogate, if any, read as U+FFFD. -/
def flushPending : Option Nat → List Char → List Char
  | some _, text => replacementChar :: text
  | none, text => text

/-- The text after a `\u` escape of `v` with nothing waiting, and what waits now. -/
def startEscape (v : Nat) (text : List Char) : List Char × Option Nat :=
  if 0xD800 ≤ v ∧ v < 0xDC00 then (text, some v)
  else if 0xDC00 ≤ v ∧ v < 0xE000 then (replacementChar :: text, none)
  else (Char.ofNat v :: text, none)

/-- The text after a `\u` escape of `v`, the text so far reversed, and the high surrogate left
waiting. `unquote` reads a high surrogate together with a low one right after it, and any other
surrogate as U+FFFD; here a high surrogate waits in `pending` for the escape after it, which
comes to the same. -/
def pushEscape (pending : Option Nat) (v : Nat) (text : List Char) : List Char × Option Nat :=
  match pending with
  | some hi =>
    if 0xDC00 ≤ v ∧ v < 0xE000 then (surrogatePair hi v :: text, none)
    else startEscape v (replacementChar :: text)
  | none => startEscape v text

/-- The character an escape other than `\u` stands for. -/
def unescape (e : Char) : Option Char :=
  if e = '"' ∨ e = '\\' ∨ e = '/' then some e
  else if e = 'b' then some (Char.ofNat 8)
  else if e = 'f' then some (Char.ofNat 12)
  else if e = 'n' then some (Char.ofNat 10)
  else if e = 'r' then some (Char.ofNat 13)
  else if e = 't' then some (Char.ofNat 9)
  else none

/-! ### The scanner -/

/-- The depth `encoding/json` allows containers to nest to. -/
def maxNestingDepth : Nat := 10000

/-- A `parseState` entry, with what its container has read so far (reversed). -/
inductive Frame
  /-- `parseArrayValue`. -/
  | arrayValue (elems : List Value)
  /-- `parseObjectKey`, with the key once read. -/
  | objectKey (members : List (String × Value)) (key : String)
  /-- `parseObjectValue`: the value being read goes under `key`. -/
  | objectValue (members : List (String × Value)) (key : String)

/-- `parseState[n-1] = parseObjectValue`. -/
def Frame.expectValue : Frame → Frame
  | objectKey members key => objectValue members key
  | frame => frame

/-- The state function the scanner is in (`scanner.step`), with the literal it is inside.
Characters read are kept reversed; a string also keeps its text and the high surrogate waiting
for its pair, and a `\u` escape the count and value of its hex digits. -/
inductive Phase
  | beginValueOrEmpty
  | beginValue
  | beginStringOrEmpty
  | beginString
  | inString (raw text : List Char) (pending : Option Nat)
  | inStringEsc (raw text : List Char) (pending : Option Nat)
  | inStringEscU (raw text : List Char) (pending : Option Nat) (count value : Nat)
  | neg
  | zero (lit : List Char)
  | one (lit : List Char)
  | dot (lit : List Char)
  | dot0 (lit : List Char)
  | e (lit : List Char)
  | eSign (lit : List Char)
  | e0 (lit : List Char)
  /-- Inside `true`, `false` or `null`, expecting `next`, then `rest`. -/
  | literal (word : String) (next : Char) (rest : List Char) (value : Value)
  | endValue
  | endTop

/-- The scanner: its state function, `parseState`, and the top-level value once read. -/
structure Scanner where
  phase : Phase
  parseState : List Frame
  top : Option Value := none

/-- The text of a string. Only a string can end where an object key goes. -/
def Value.text : Value → String
  | string _ text => text
  | _ => ""

/-- The container takes a value that has ended: an element, its key, or the value of a member. -/
def Frame.take (v : Value) : Frame → Frame
  | arrayValue elems => arrayValue (v :: elems)
  | objectKey members _ => objectKey members v.text
  | objectValue members key => objectValue ((key, v) :: members) key

namespace Scanner

/-- A value has ended: the innermost container takes it, or it is the top-level value. -/
def complete (s : Scanner) (v : Value) : Scanner :=
  match s.parseState with
  | [] => { s with phase := .endValue, top := some v }
  | frame :: rest => { s with phase := .endValue, parseState := frame.take v :: rest }

/-- `popParseState`: the innermost container, read as `v`, closes over `rest`. -/
def pop (s : Scanner) (rest : List Frame) (v : Value) : Scanner :=
  match rest with
  | [] => { s with phase := .endTop, parseState := [], top := some v }
  | _ => { s with parseState := rest }.complete v

/-- `pushParseState`: a container opens, refused past the nesting limit. -/
def push (s : Scanner) (frame : Frame) (phase : Phase) : Except String Scanner :=
  if s.parseState.length < maxNestingDepth then
    .ok { s with phase := phase, parseState := frame :: s.parseState }
  else .error "exceeded max depth"

/-- `stateEndTop`: only space may follow the top-level value. -/
def stateEndTop (s : Scanner) (c : Char) : Except String Scanner :=
  if isSpace c then .ok { s with phase := .endTop } else .error "after top-level value"

/-- `stateEndValue`: after a value, what its container allows next. -/
def stateEndValue (s : Scanner) (c : Char) : Except String Scanner :=
  match s.parseState with
  | [] => s.stateEndTop c
  | frame :: rest =>
    if isSpace c then .ok { s with phase := .endValue }
    else match frame with
      | .objectKey members key =>
        if c = ':' then .ok { s with phase := .beginValue, parseState := .objectValue members key :: rest }
        else .error "after object key"
      | .objectValue members _ =>
        if c = ',' then .ok { s with phase := .beginString, parseState := .objectKey members "" :: rest }
        else if c = '\x7d' then .ok (s.pop rest (.object members.reverse))
        else .error "after object key:value pair"
      | .arrayValue elems =>
        if c = ',' then .ok { s with phase := .beginValue }
        else if c = ']' then .ok (s.pop rest (.array elems.reverse))
        else .error "after array element"

/-- `stateBeginValue`: the first character of a value. -/
def stateBeginValue (s : Scanner) (c : Char) : Except String Scanner :=
  if isSpace c then .ok s
  else if c = '\x7b' then s.push (.objectKey [] "") .beginStringOrEmpty
  else if c = '[' then s.push (.arrayValue []) .beginValueOrEmpty
  else if c = '"' then .ok { s with phase := .inString [] [] none }
  else if c = '-' then .ok { s with phase := .neg }
  else if c = '0' then .ok { s with phase := .zero ['0'] }
  else if c = 't' then .ok { s with phase := .literal "true" 'r' ['u', 'e'] (.bool true) }
  else if c = 'f' then .ok { s with phase := .literal "false" 'a' ['l', 's', 'e'] (.bool false) }
  else if c = 'n' then .ok { s with phase := .literal "null" 'u' ['l', 'l'] .null }
  else if '1' ≤ c ∧ c ≤ '9' then .ok { s with phase := .one [c] }
  else .error "looking for beginning of value"

/-- `stateBeginValueOrEmpty`: after `[`, a value or the `]` of an empty array. -/
def stateBeginValueOrEmpty (s : Scanner) (c : Char) : Except String Scanner :=
  if isSpace c then .ok s
  else if c = ']' then s.stateEndValue c
  else s.stateBeginValue c

/-- `stateBeginString`: the opening quote of an object key. -/
def stateBeginString (s : Scanner) (c : Char) : Except String Scanner :=
  if isSpace c then .ok s
  else if c = '"' then .ok { s with phase := .inString [] [] none }
  else .error "looking for beginning of object key string"

/-- `stateBeginStringOrEmpty`: after the opening brace, a key or the closing brace of an empty
object. -/
def stateBeginStringOrEmpty (s : Scanner) (c : Char) : Except String Scanner :=
  if isSpace c then .ok s
  else if c = '\x7d' then
    { s with parseState := s.parseState.modifyHead Frame.expectValue }.stateEndValue c
  else s.stateBeginString c

/-- `stateInString`: inside a string. -/
def stateInString (s : Scanner) (raw text : List Char) (pending : Option Nat) (c : Char) :
    Except String Scanner :=
  if c = '"' then
    .ok (s.complete (.string ⟨raw.reverse⟩ ⟨(flushPending pending text).reverse⟩))
  else if c = '\\' then .ok { s with phase := .inStringEsc (c :: raw) text pending }
  else if c.toNat < 32 then .error "in string literal"
  else .ok { s with phase := .inString (c :: raw) (c :: flushPending pending text) none }

/-- `stateInStringEsc`: after a backslash in a string. -/
def stateInStringEsc (s : Scanner) (raw text : List Char) (pending : Option Nat) (c : Char) :
    Except String Scanner :=
  if c = 'u' then .ok { s with phase := .inStringEscU (c :: raw) text pending 0 0 }
  else match unescape c with
    | some u => .ok { s with phase := .inString (c :: raw) (u :: flushPending pending text) none }
    | none => .error "in string escape code"

/-- `stateInStringEscU`, `stateInStringEscU1`, `stateInStringEscU12` and
`stateInStringEscU123`: the four hex digits of a `\u` escape, `count` of them read so far, of
value `value`. -/
def stateInStringEscU (s : Scanner) (raw text : List Char) (pending : Option Nat)
    (count value : Nat) (c : Char) : Except String Scanner :=
  match hexValue c with
  | none => .error "in \\u hexadecimal character escape"
  | some h =>
    if count = 3 then
      let (text, pending) := pushEscape pending (16 * value + h) text
      .ok { s with phase := .inString (c :: raw) text pending }
    else .ok { s with phase := .inStringEscU (c :: raw) text pending (count + 1) (16 * value + h) }

/-- A number ends at the character `c` after it. -/
def endNumber (s : Scanner) (lit : List Char) (c : Char) : Except String Scanner :=
  (s.complete (.number ⟨lit.reverse⟩)).stateEndValue c

/-- `stateNeg`: after the minus sign of a number. -/
def stateNeg (s : Scanner) (c : Char) : Except String Scanner :=
  if c = '0' then .ok { s with phase := .zero ['0', '-'] }
  else if '1' ≤ c ∧ c ≤ '9' then .ok { s with phase := .one [c, '-'] }
  else .error "in numeric literal"

/-- `state0`: after the integer part of a number. -/
def state0 (s : Scanner) (lit : List Char) (c : Char) : Except String Scanner :=
  if c = '.' then .ok { s with phase := .dot (c :: lit) }
  else if c = 'e' ∨ c = 'E' then .ok { s with phase := .e (c :: lit) }
  else s.endNumber lit c

/-- `state1`: in the digits of an integer part that does not start with `0`. -/
def state1 (s : Scanner) (lit : List Char) (c : Char) : Except String Scanner :=
  if c.isDigit then .ok { s with phase := .one (c :: lit) } else s.state0 lit c

/-- `stateDot`: after the decimal point. -/
def stateDot (s : Scanner) (lit : List Char) (c : Char) : Except String Scanner :=
  if c.isDigit then .ok { s with phase := .dot0 (c :: lit) }
  else .error "after decimal point in numeric literal"

/-- `stateDot0`: in the digits of the fraction. -/
def stateDot0 (s : Scanner) (lit : List Char) (c : Char) : Except String Scanner :=
  if c.isDigit then .ok { s with phase := .dot0 (c :: lit) }
  else if c = 'e' ∨ c = 'E' then .ok { s with phase := .e (c :: lit) }
  else s.endNumber lit c

/-- `stateESign`: the first digit of the exponent. -/
def stateESign (s : Scanner) (lit : List Char) (c : Char) : Except String Scanner :=
  if c.isDigit then .ok { s with phase := .e0 (c :: lit) }
  else .error "in exponent of numeric literal"

/-- `stateE`: after the `e` of the exponent, an optional sign. -/
def stateE (s : Scanner) (lit : List Char) (c : Char) : Except String Scanner :=
  if c = '+' ∨ c = '-' then .ok { s with phase := .eSign (c :: lit) } else s.stateESign lit c

/-- `stateE0`: in the digits of the exponent. -/
def stateE0 (s : Scanner) (lit : List Char) (c : Char) : Except String Scanner :=
  if c.isDigit then .ok { s with phase := .e0 (c :: lit) } else s.endNumber lit c

/-- `stateT`, `stateTr`, `stateTru`, `stateF`, ..., `stateNul`: the letters of a literal. -/
def stateLiteral (s : Scanner) (word : String) (next : Char) (rest : List Char) (v : Value)
    (c : Char) : Except String Scanner :=
  if c = next then
    match rest with
    | [] => .ok (s.complete v)
    | next :: rest => .ok { s with phase := .literal word next rest v }
  else .error ("in literal " ++ word ++ " (expecting " ++ quoteChar next.toNat ++ ")")

/-- `scanner.step`: one character. -/
def step (s : Scanner) (c : Char) : Except String Scanner :=
  match s.phase with
  | .beginValueOrEmpty => s.stateBeginValueOrEmpty c
  | .beginValue => s.stateBeginValue c
  | .beginStringOrEmpty => s.stateBeginStringOrEmpty c
  | .beginString => s.stateBeginString c
  | .inString raw text pending => s.stateInString raw text pending c
  | .inStringEsc raw text pending => s.stateInStringEsc raw text pending c
  | .inStringEscU raw text pending count value => s.stateInStringEscU raw text pending count value c
  | .neg => s.stateNeg c
  | .zero lit => s.state0 lit c
  | .one lit => s.state1 lit c
  | .dot lit => s.stateDot lit c
  | .dot0 lit => s.stateDot0 lit c
  | .e lit => s.stateE lit c
  | .eSign lit => s.stateESign lit c
  | .e0 lit => s.stateE0 lit c
  | .literal word next rest v => s.stateLiteral word next rest v c
  | .endValue => s.stateEndValue c
  | .endTop => s.stateEndTop c

/-- `checkValid`'s loop: the scanner after each character in turn, stopping at the first one
it refuses. -/
def run (s : Scanner) : List Char → Except Stop Scanner
  | [] => .ok s
  | c :: cs =>
    match s.step c with
    | .ok s => s.run cs
    | .error context => .error (.invalid c context (c :: cs))

/-- The top-level value, once the scanner has reached `stateEndTop`. -/
def done (s : Scanner) : Option Value :=
  match s.phase with
  | .endTop => s.top
  | _ => none

/-- `scanner.eof`: at the end of the input the scanner is fed one more space. -/
def eof (s : Scanner) : Except Stop Value :=
  match s.done with
  | some v => .ok v
  | none =>
    match s.step ' ' with
    | .error context => .error (.invalid ' ' context [])
    | .ok s => match s.done with
      | some v => .ok v
      | none => .error .unexpectedEnd

/-- The scanner before the input. -/
def init : Scanner := { phase := .beginValue, parseState := [] }

end Scanner

/-- `checkValid`, with the value the scan reads. -/
def checkValid (input : List Char) : Except Stop Value := do
  (← Scanner.init.run input).eof

end Json

end MarklogicUpgrade

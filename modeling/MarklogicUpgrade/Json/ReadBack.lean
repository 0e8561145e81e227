import Mathlib.Data.String.Basic
import MarklogicUpgrade.Json.Scan
import MarklogicUpgrade.Json.Decimal

/-!
# The scanner reads back what the encoder writes

Each piece `json.Marshal` writes for the report is read by `checkValid` as the value it stands
for, from any state where a value may start and over any stack of open containers:

* `quote s` as a string whose text is `s` (`run_quote`), one escaped character at a time
  (`run_escapeChar`);
* `toString n` for an `Int`, followed by a delimiter, as that number (`run_int`), and `true`
  and `false` as booleans;
* an object or an array as the object or array of what its members or elements are read as
  (`run_object`, `run_array`), at any depth the nesting limit leaves room for.

`Reads depth enc v` packages what a piece needs to be put inside a container: it starts a value,
and running over it and then `,`, `]` or a closing brace is completing `v` and then reading
that character. A number only ends at the character after it, which is why the delimiter is part
of the statement. The top-level object is then read as a whole (`checkValid_object`).

The run of the scanner stops at the first character it refuses, so running over two parts is
running over the first and then the second only when the first succeeds (`run_append_of_ok`).
-/

namespace MarklogicUpgrade
namespace Json

theorem isDigit_iff {c : Char} : c.isDigit ↔ 48 ≤ c.toNat ∧ c.toNat ≤ 57 := by
  simp [Char.isDigit, Char.le_def, UInt32.le_def, BitVec.le_def, Char.toNat]
  rfl

theorem isDigit_cases {c : Char} (h : c.isDigit) : c = '0' ∨ c = '1' ∨ c = '2' ∨ c = '3' ∨
    c = '4' ∨ c = '5' ∨ c = '6' ∨ c = '7' ∨ c = '8' ∨ c = '9' := by
  obtain ⟨h1, h2⟩ := isDigit_iff.1 h
  rw [← Char.ofNat_toNat c]
  generalize c.toNat = n at h1 h2
  interval_cases n <;> decide

theorem hexValue_hexDigit : ∀ k < 16, hexValue (hexDigit k) = some k := by decide

theorem hexValue_zero : hexValue '0' = some 0 := rfl

theorem hexValue_two : hexValue '2' = some 2 := rfl

/-- A `\u` escape below the surrogates, with nothing waiting, is its character. -/
theorem pushEscape_none_of_lt {v : Nat} (h : v < 0xD800) (text : List Char) :
    pushEscape none v text = (Char.ofNat v :: text, none) := by
  simp only [pushEscape, startEscape]
  rw [if_neg (by omega), if_neg (by omega)]

namespace Scanner

theorem run_cons {s s' : Scanner} {c : Char} (h : s.step c = .ok s') (cs : List Char) :
    s.run (c :: cs) = s'.run cs := by
  simp only [run, h]

theorem run_append_of_ok {s s' : Scanner} {xs : List Char} (h : s.run xs = .ok s')
    (ys : List Char) : s.run (xs ++ ys) = s'.run ys := by
  induction xs generalizing s with
  | nil => cases h; rfl
  | cons c xs ih =>
    simp only [run] at h
    split at h
    · rename_i t ht
      rw [List.cons_append, run_cons ht, ih h]
    · cases h

/-- Runs from two states that take the next character alike go on alike. -/
theorem run_cons_congr {s t : Scanner} {c : Char} (h : s.step c = t.step c) (cs : List Char) :
    s.run (c :: cs) = t.run (c :: cs) := by
  simp only [run, h]

/-- After `[`, a character that is neither space nor `]` starts a value. -/
theorem step_beginValueOrEmpty {c : Char} (hc : c ≠ ']') (hs : isSpace c = false)
    (ps : List Frame) (top : Option Value) :
    (⟨.beginValueOrEmpty, ps, top⟩ : Scanner).step c = (⟨.beginValue, ps, top⟩ : Scanner).step c := by
  simp [step, stateBeginValueOrEmpty, hc, hs, stateBeginValue, push]

/-- Completing a value does not depend on the state function left. -/
theorem complete_phase (p p' : Phase) (ps : List Frame) (top : Option Value) (v : Value) :
    (⟨p, ps, top⟩ : Scanner).complete v = (⟨p', ps, top⟩ : Scanner).complete v := by
  cases ps <;> rfl

/-! ### Strings -/

/-- A `\u` escape of four hex digits, inside a string with nothing waiting. -/
theorem run_unicodeEscape {a b c d : Char} {va vb vc vd : Nat} (ha : hexValue a = some va)
    (hb : hexValue b = some vb) (hc : hexValue c = some vc) (hd : hexValue d = some vd)
    (raw text : List Char) (ps : List Frame) (top : Option Value) :
    (⟨.inString raw text none, ps, top⟩ : Scanner).run ['\\', 'u', a, b, c, d] =
      .ok ⟨.inString ([d, c, b, a, 'u', '\\'] ++ raw)
        (pushEscape none (16 * (16 * (16 * (16 * 0 + va) + vb) + vc) + vd) text).1
        (pushEscape none (16 * (16 * (16 * (16 * 0 + va) + vb) + vc) + vd) text).2, ps, top⟩ := by
  simp only [run, step, stateInString, stateInStringEsc, stateInStringEscU, ha, hb, hc, hd]
  rfl

/-- One character as the encoder escapes it is read back as that character. -/
theorem run_escapeChar (c : Char) (raw text : List Char) (ps : List Frame) (top : Option Value) :
    (⟨.inString raw text none, ps, top⟩ : Scanner).run (escapeChar c).data =
      .ok ⟨.inString ((escapeChar c).data.reverse ++ raw) (c :: text) none, ps, top⟩ := by
  have hc : Char.ofNat c.toNat = c := Char.ofNat_toNat c
  by_cases hshort : c.toNat = 34 ∨ c.toNat = 92 ∨ c.toNat = 8 ∨ c.toNat = 12 ∨ c.toNat = 10 ∨
      c.toNat = 13 ∨ c.toNat = 9
  · rcases hshort with h | h | h | h | h | h | h <;> (rw [← hc, h]; rfl)
  simp only [not_or] at hshort
  obtain ⟨h34, h92, h8, h12, h10, h13, h9⟩ := hshort
  by_cases hu : c.toNat < 32 ∨ c.toNat = 60 ∨ c.toNat = 62 ∨ c.toNat = 38
  · have hv : 16 * (16 * (16 * (16 * 0 + 0) + 0) + c.toNat / 16) + c.toNat % 16 = c.toNat := by
      omega
    simp only [escapeChar, h34, h92, h8, h12, h10, h13, h9, or_self, reduceIte, if_pos hu]
    rw [run_unicodeEscape hexValue_zero hexValue_zero (hexValue_hexDigit _ (by omega))
      (hexValue_hexDigit _ (Nat.mod_lt _ (by decide))), hv,
      pushEscape_none_of_lt (show c.toNat < 0xD800 by omega), hc]
    rfl
  by_cases hl : c.toNat = 8232 ∨ c.toNat = 8233
  · have hv : 16 * (16 * (16 * (16 * 0 + 2) + 0) + 2) + c.toNat % 16 = c.toNat := by omega
    simp only [escapeChar, h34, h92, h8, h12, h10, h13, h9, or_self, reduceIte, hu, hl]
    rw [run_unicodeEscape hexValue_two hexValue_zero hexValue_two
      (hexValue_hexDigit _ (Nat.mod_lt _ (by decide))),
      hv, pushEscape_none_of_lt (show c.toNat < 0xD800 by omega), hc]
    rfl
  have hq : c ≠ '"' := fun h ↦ h34 (h ▸ rfl)
  have hb : c ≠ '\\' := fun h ↦ h92 (h ▸ rfl)
  simp only [escapeChar, h34, h92, h8, h12, h10, h13, h9, or_self, reduceIte, hu, hl]
  simp only [Char.toString, run, step, stateInString, hq, hb, show ¬c.toNat < 32 by omega,
    reduceIte, flushPending]
  rfl

/-- The escaped characters of a text are read back as the text. -/
theorem run_escaped (cs : List Char) (raw text : List Char) (ps : List Frame)
    (top : Option Value) :
    (⟨.inString raw text none, ps, top⟩ : Scanner).run (cs.flatMap fun c ↦ (escapeChar c).data) =
      .ok ⟨.inString ((cs.flatMap fun c ↦ (escapeChar c).data).reverse ++ raw)
        (cs.reverse ++ text) none, ps, top⟩ := by
  induction cs generalizing raw text with
  | nil => rfl
  | cons c cs ih =>
    rw [List.flatMap_cons, run_append_of_ok (run_escapeChar c raw text ps top), ih]
    simp

theorem quote_data (s : String) (rest : List Char) :
    (quote s).data ++ rest = '"' :: ((s.data.flatMap fun c ↦ (escapeChar c).data) ++ '"' :: rest) := by
  simp [quote, List.flatMap, String.data_join]
  rfl

/-- A quoted text, from a state that takes `"` as the start of a string, is read as a string
of that text. -/
theorem run_quote (s : String) {p : Phase} {ps : List Frame} {top : Option Value}
    (hp : (⟨p, ps, top⟩ : Scanner).step '"' = .ok ⟨.inString [] [] none, ps, top⟩)
    (rest : List Char) :
    (⟨p, ps, top⟩ : Scanner).run ((quote s).data ++ rest) =
      ((⟨p, ps, top⟩ : Scanner).complete (.string (String.join (s.data.map escapeChar)) s)).run
        rest := by
  rw [quote_data, run_cons hp, run_append_of_ok (run_escaped _ _ _ _ _)]
  apply run_cons
  simp only [step, stateInString, flushPending, if_pos, List.reverse_reverse, List.nil_append]
  rw [complete_phase _ p, String.join_eq, List.map_map]
  simp only [List.append_nil, List.reverse_reverse, List.flatMap]
  rfl

/-! ### Numbers and literals -/

theorem intToString_data (n : Int) :
    (toString n).data = (if n < 0 then ['-'] else []) ++ Nat.toDigits 10 n.natAbs := by
  cases n with
  | ofNat m => rfl
  | negSucc m => simp [toString, Int.negSucc_lt_zero]

/-- A character that may follow a value. -/
def IsDelimiter (d : Char) : Prop := d = ',' ∨ d = ']' ∨ d = '\x7d'

theorem run_digits {ds : List Char} (hds : ∀ c ∈ ds, c.isDigit) (lit : List Char)
    (ps : List Frame) (top : Option Value) :
    (⟨.one lit, ps, top⟩ : Scanner).run ds = .ok ⟨.one (ds.reverse ++ lit), ps, top⟩ := by
  induction ds generalizing lit with
  | nil => rfl
  | cons c ds ih =>
    simp only [List.mem_cons, forall_eq_or_imp] at hds
    rw [run_cons (show (⟨.one lit, ps, top⟩ : Scanner).step c = .ok ⟨.one (c :: lit), ps, top⟩ by
      simp [step, state1, hds.1]), ih hds.2]
    simp

/-- A delimiter ends a number: the number is complete and the delimiter read after it. -/
theorem step_endNumber {d : Char} (hd : IsDelimiter d) (lit : List Char) (ps : List Frame)
    (top : Option Value) {p : Phase} (hp : p = .one lit ∨ p = .zero lit) :
    (⟨p, ps, top⟩ : Scanner).step d =
      ((⟨p, ps, top⟩ : Scanner).complete (.number ⟨lit.reverse⟩)).step d := by
  have hdig : d.isDigit = false := by rcases hd with rfl | rfl | rfl <;> rfl
  have hdot : ¬(d = '.') := by rcases hd with rfl | rfl | rfl <;> decide
  have he : ¬(d = 'e' ∨ d = 'E') := by rcases hd with rfl | rfl | rfl <;> decide
  rcases hp with rfl | rfl <;> cases ps <;>
    simp [step, state1, state0, endNumber, hdig, hdot, he, complete]

/-- A digit other than `0` starts a number. -/
theorem step_beginValue_digit {c : Char} (hc : c.isDigit) (h0 : c ≠ '0') (ps : List Frame)
    (top : Option Value) :
    (⟨.beginValue, ps, top⟩ : Scanner).step c = .ok ⟨.one [c], ps, top⟩ := by
  rcases isDigit_cases hc with rfl | rfl | rfl | rfl | rfl | rfl | rfl | rfl | rfl | rfl <;>
    first | exact absurd rfl h0 | rfl

/-- After a sign, a digit other than `0` starts the integer part. -/
theorem step_neg_digit {c : Char} (hc : c.isDigit) (h0 : c ≠ '0') (ps : List Frame)
    (top : Option Value) :
    (⟨.neg, ps, top⟩ : Scanner).step c = .ok ⟨.one [c, '-'], ps, top⟩ := by
  rcases isDigit_cases hc with rfl | rfl | rfl | rfl | rfl | rfl | rfl | rfl | rfl | rfl <;>
    first | exact absurd rfl h0 | rfl

/-- The rest of an integer part, then a delimiter. -/
theorem run_number_tail {ds : List Char} (hds : ∀ c ∈ ds, c.isDigit) (lit : List Char)
    {d : Char} (hd : IsDelimiter d) (rest : List Char) (ps : List Frame) (top : Option Value) :
    (⟨.one lit, ps, top⟩ : Scanner).run (ds ++ d :: rest) =
      ((⟨.beginValue, ps, top⟩ : Scanner).complete
        (.number ⟨(ds.reverse ++ lit).reverse⟩)).run (d :: rest) := by
  rw [run_append_of_ok (run_digits hds lit ps top),
    run_cons_congr (step_endNumber hd _ ps top (.inl rfl)), complete_phase]

/-- `toString n`, then a delimiter, is read as the number `toString n` and the delimiter. -/
theorem run_int (n : Int) {d : Char} (hd : IsDelimiter d) (rest : List Char) (ps : List Frame)
    (top : Option Value) :
    (⟨.beginValue, ps, top⟩ : Scanner).run ((toString n).data ++ d :: rest) =
      ((⟨.beginValue, ps, top⟩ : Scanner).complete (.number (toString n))).run (d :: rest) := by
  have hstr := intToString_data n
  obtain ⟨hne, hdig, -, hhead⟩ := toDigits_decimal n.natAbs
  obtain ⟨c, cs, hcs⟩ := List.exists_cons_of_ne_nil hne
  rw [hcs] at hstr hdig hhead
  simp only [List.mem_cons, forall_eq_or_imp] at hdig
  by_cases h0 : n = 0
  · subst h0
    rw [show (toString (0 : Int)).data = ['0'] from rfl, List.singleton_append,
      run_cons (show (⟨.beginValue, ps, top⟩ : Scanner).step '0' = .ok ⟨.zero ['0'], ps, top⟩
        from rfl), run_cons_congr (step_endNumber hd ['0'] ps top (.inr rfl)), complete_phase]
    rfl
  have hc0 : c ≠ '0' := fun h ↦ hhead (by omega) (by rw [h]; rfl)
  have hnum : ∀ lit : List Char, lit.reverse = (toString n).data →
      (Value.number ⟨lit.reverse⟩) = .number (toString n) := fun lit h ↦ by rw [h]
  by_cases hneg : n < 0
  · rw [if_pos hneg] at hstr
    rw [hstr, List.singleton_append, List.cons_append, List.cons_append,
      run_cons (show (⟨.beginValue, ps, top⟩ : Scanner).step '-' = .ok ⟨.neg, ps, top⟩ from rfl),
      run_cons (step_neg_digit hdig.1 hc0 ps top), run_number_tail hdig.2 _ hd, hnum _ (by simp [hstr])]
  · rw [if_neg hneg, List.nil_append] at hstr
    rw [hstr, List.cons_append, run_cons (step_beginValue_digit hdig.1 hc0 ps top),
      run_number_tail hdig.2 _ hd, hnum _ (by simp [hstr])]

/-- `true` and `false`, as `toString` writes them. -/
theorem run_bool (b : Bool) (rest : List Char) (ps : List Frame) (top : Option Value) :
    (⟨.beginValue, ps, top⟩ : Scanner).run ((toString b).data ++ rest) =
      ((⟨.beginValue, ps, top⟩ : Scanner).complete (.bool b)).run rest := by
  cases b <;> rfl

/-! ### Values inside containers -/

/-- The scanner reads `enc` as the value `v` wherever a value may start inside a container with
room for `depth` more levels: `enc` starts a value, and running over it and then a delimiter is
completing `v` and then reading the delimiter. -/
structure Reads (depth : Nat) (enc : List Char) (v : Value) : Prop where
  head : ∃ c cs, enc = c :: cs ∧ c ≠ ']' ∧ isSpace c = false
  run : ∀ (frame : Frame) (ps : List Frame) (top : Option Value) {d : Char} (rest : List Char),
    ps.length + 1 + depth ≤ maxNestingDepth → IsDelimiter d →
    (⟨.beginValue, frame :: ps, top⟩ : Scanner).run (enc ++ d :: rest) =
      (⟨.endValue, frame.take v :: ps, top⟩ : Scanner).run (d :: rest)

/-- Room for more levels is never less room. -/
theorem Reads.mono {d d' : Nat} {enc : List Char} {v : Value} (h : Reads d enc v) (hle : d ≤ d') :
    Reads d' enc v :=
  ⟨h.head, fun frame ps top _ rest hdepth hd ↦ h.run frame ps top rest (by omega) hd⟩

/-- A value read after `,` or `:` is read alike right after `[`. -/
theorem Reads.run_orEmpty {depth : Nat} {enc : List Char} {v : Value} (h : Reads depth enc v)
    {p : Phase} (hp : p = .beginValue ∨ p = .beginValueOrEmpty) (frame : Frame)
    (ps : List Frame) (top : Option Value) {d : Char} (rest : List Char)
    (hdepth : ps.length + 1 + depth ≤ maxNestingDepth) (hd : IsDelimiter d) :
    (⟨p, frame :: ps, top⟩ : Scanner).run (enc ++ d :: rest) =
      (⟨.endValue, frame.take v :: ps, top⟩ : Scanner).run (d :: rest) := by
  rcases hp with rfl | rfl
  · exact h.run frame ps top rest hdepth hd
  · obtain ⟨c, cs, rfl, hc, hs⟩ := h.head
    rw [List.cons_append, run_cons_congr (step_beginValueOrEmpty hc hs _ _), ← List.cons_append,
      h.run frame ps top rest hdepth hd]

theorem reads_quote (s : String) :
    Reads 0 (quote s).data (.string (String.join (s.data.map escapeChar)) s) where
  head := ⟨'"', _, by rw [← List.append_nil (quote s).data, quote_data], by decide, rfl⟩
  run frame ps top _ rest _ _ :=
    run_quote s (show (⟨.beginValue, frame :: ps, top⟩ : Scanner).step '"' = _ from rfl) _

theorem reads_int (n : Int) : Reads 0 (toString n).data (.number (toString n)) where
  head := by
    rw [intToString_data]
    obtain ⟨hne, hdig, -, -⟩ := toDigits_decimal n.natAbs
    obtain ⟨c, cs, hcs⟩ := List.exists_cons_of_ne_nil hne
    have hc := isDigit_iff.1 (hdig c (by simp [hcs]))
    split_ifs
    · exact ⟨'-', _, rfl, by decide, rfl⟩
    · refine ⟨c, cs, by simp [hcs], fun h ↦ ?_, ?_⟩
      · rw [h] at hc; simp at hc
      · simp only [isSpace, decide_eq_false_iff_not]
        rintro (h | h | h | h) <;> rw [h] at hc <;> simp at hc
  run frame ps top _ rest _ hd := run_int n hd rest _ top

theorem reads_bool (b : Bool) : Reads 0 (toString b).data (.bool b) where
  head := by cases b <;> exact ⟨_, _, rfl, by decide, rfl⟩
  run frame ps top _ rest _ _ := run_bool b _ _ top

theorem intercalate_go_data (sep : String) :
    ∀ (acc : String) (as : List String),
      (String.intercalate.go acc sep as).data = acc.data ++ as.flatMap fun b ↦ sep.data ++ b.data
  | acc, [] => by simp [String.intercalate.go]
  | acc, b :: bs => by
    simp [String.intercalate.go, intercalate_go_data sep _ bs]

theorem intercalate_data (sep a : String) (as : List String) :
    (sep.intercalate (a :: as)).data = a.data ++ as.flatMap fun b ↦ sep.data ++ b.data :=
  intercalate_go_data sep a as

/-- `popParseState` does not look at the stack it replaces. -/
theorem pop_parseState (p : Phase) (frame : Frame) (ps : List Frame) (top : Option Value)
    (v : Value) :
    (⟨p, frame :: ps, top⟩ : Scanner).pop ps v = (⟨.endValue, ps, top⟩ : Scanner).pop ps v := by
  cases ps <;> rfl

/-- One member, after `{` or `,`. -/
theorem run_member {depth : Nat} {k e : String} {v : Value} (he : Reads depth e.data v)
    {p : Phase} (hp : p = .beginString ∨ p = .beginStringOrEmpty) (acc : List (String × Value))
    (key : String) (ps : List Frame) (top : Option Value)
    (hdepth : ps.length + 1 + depth ≤ maxNestingDepth) {d : Char} (hd : IsDelimiter d)
    (rest : List Char) :
    (⟨p, .objectKey acc key :: ps, top⟩ : Scanner).run ((quote k ++ ":" ++ e).data ++ d :: rest) =
      (⟨.endValue, .objectValue ((k, v) :: acc) k :: ps, top⟩ : Scanner).run (d :: rest) := by
  have hq : (⟨p, .objectKey acc key :: ps, top⟩ : Scanner).step '"' =
      .ok ⟨.inString [] [] none, .objectKey acc key :: ps, top⟩ := by
    rcases hp with rfl | rfl <;> rfl
  simp only [String.data_append, List.append_assoc]
  have hcolon : ((⟨p, .objectKey acc key :: ps, top⟩ : Scanner).complete
      (.string (String.join (k.data.map escapeChar)) k)).step ':' =
      .ok ⟨.beginValue, .objectValue acc k :: ps, top⟩ := rfl
  rw [run_quote k hq, List.singleton_append, run_cons hcolon]
  exact he.run _ ps top rest hdepth hd

/-- The members of an object after its opening brace, through its closing brace. -/
theorem run_members {depth : Nat} (ms : List (String × String × Value)) :
    ∀ (m : String × String × Value), (∀ m' ∈ m :: ms, Reads depth m'.2.1.data m'.2.2) →
    ∀ {p : Phase}, (p = .beginString ∨ p = .beginStringOrEmpty) →
    ∀ (acc : List (String × Value)) (key : String) (ps : List Frame) (top : Option Value),
    ps.length + 1 + depth ≤ maxNestingDepth → ∀ rest : List Char,
    (⟨p, .objectKey acc key :: ps, top⟩ : Scanner).run ((quote m.1 ++ ":" ++ m.2.1).data ++
        (ms.flatMap fun m' ↦ ',' :: (quote m'.1 ++ ":" ++ m'.2.1).data) ++ '\x7d' :: rest) =
      ((⟨.endValue, ps, top⟩ : Scanner).pop ps
        (.object (acc.reverse ++ (m :: ms).map fun m' ↦ (m'.1, m'.2.2)))).run rest := by
  induction ms with
  | nil =>
    intro m hms p hp acc key ps top hdepth rest
    rw [List.flatMap_nil, List.append_nil,
      run_member (hms m (List.mem_singleton_self m)) hp acc key ps top hdepth (.inr (.inr rfl)),
      run_cons (show (⟨.endValue, .objectValue ((m.1, m.2.2) :: acc) m.1 :: ps, top⟩ : Scanner).step
        '\x7d' = .ok ((⟨.endValue, ps, top⟩ : Scanner).pop ps (.object ((m.1, m.2.2) :: acc).reverse))
        by simp [step, stateEndValue, isSpace, pop_parseState])]
    simp
  | cons m' ms ih =>
    intro m hms p hp acc key ps top hdepth rest
    rw [List.flatMap_cons, List.cons_append, List.append_assoc, List.cons_append,
      run_member (hms m (List.mem_cons_self _ _)) hp acc key ps top hdepth (.inl rfl),
      run_cons (show (⟨.endValue, .objectValue ((m.1, m.2.2) :: acc) m.1 :: ps, top⟩ : Scanner).step
        ',' = .ok ⟨.beginString, .objectKey ((m.1, m.2.2) :: acc) "" :: ps, top⟩ from rfl),
      ih m' (fun x hx ↦ hms x (List.mem_cons_of_mem _ hx)) (.inl rfl) _ _ ps top hdepth rest]
    simp

theorem object_data (members : List (String × String)) :
    (object members).data =
      '\x7b' :: ((",".intercalate (members.map fun m ↦ quote m.1 ++ ":" ++ m.2)).data ++ ['\x7d']) := by
  simp [object]

/-- An object, from where a value starts, over any stack. -/
theorem run_object {depth : Nat} (ms : List (String × String × Value))
    (hms : ∀ m ∈ ms, Reads depth m.2.1.data m.2.2) (ps : List Frame) (top : Option Value)
    (hdepth : ps.length + 1 + depth ≤ maxNestingDepth) (rest : List Char) :
    (⟨.beginValue, ps, top⟩ : Scanner).run
        ((object (ms.map fun m ↦ (m.1, m.2.1))).data ++ rest) =
      ((⟨.endValue, ps, top⟩ : Scanner).pop ps (.object (ms.map fun m ↦ (m.1, m.2.2)))).run rest := by
  have hpush : (⟨.beginValue, ps, top⟩ : Scanner).step '\x7b' =
      .ok ⟨.beginStringOrEmpty, .objectKey [] "" :: ps, top⟩ := by
    simp [step, stateBeginValue, isSpace, push, show ps.length < maxNestingDepth by omega]
  rw [object_data, List.cons_append, run_cons hpush]
  cases ms with
  | nil =>
    exact run_cons (by simp [step, stateBeginStringOrEmpty, isSpace, Frame.expectValue,
      stateEndValue, pop_parseState]) rest
  | cons m ms =>
    rw [List.map_cons, List.map_cons, intercalate_data, List.append_assoc, List.singleton_append]
    have := run_members ms m hms (.inr rfl) [] "" ps top hdepth rest
    simp only [List.map_map, List.reverse_nil, List.nil_append] at this ⊢
    rw [← this]
    congr 2
    simp [List.flatMap, Function.comp_def]

theorem reads_object {depth : Nat} (ms : List (String × String × Value))
    (hms : ∀ m ∈ ms, Reads depth m.2.1.data m.2.2) :
    Reads (depth + 1) (object (ms.map fun m ↦ (m.1, m.2.1))).data
      (.object (ms.map fun m ↦ (m.1, m.2.2))) where
  head := ⟨'\x7b', _, object_data _, by decide, rfl⟩
  run frame ps top _ rest hdepth _ :=
    run_object ms hms (frame :: ps) top (by simp only [List.length_cons]; omega) _

/-- The elements of an array after its `[`, through its `]`. -/
theorem run_elems {depth : Nat} (es : List (String × Value)) :
    ∀ (e : String × Value), (∀ e' ∈ e :: es, Reads depth e'.1.data e'.2) →
    ∀ {p : Phase}, (p = .beginValue ∨ p = .beginValueOrEmpty) →
    ∀ (acc : List Value) (ps : List Frame) (top : Option Value),
    ps.length + 1 + depth ≤ maxNestingDepth → ∀ rest : List Char,
    (⟨p, .arrayValue acc :: ps, top⟩ : Scanner).run
        ((e.1.data ++ es.flatMap fun e' ↦ ',' :: e'.1.data) ++ ']' :: rest) =
      ((⟨.endValue, ps, top⟩ : Scanner).pop ps
        (.array (acc.reverse ++ (e :: es).map Prod.snd))).run rest := by
  induction es with
  | nil =>
    intro e hes p hp acc ps top hdepth rest
    rw [List.flatMap_nil, List.append_nil,
      (hes e (List.mem_singleton_self e)).run_orEmpty hp _ ps top rest hdepth (.inr (.inl rfl)),
      run_cons (show (⟨.endValue, (Frame.arrayValue acc).take e.2 :: ps, top⟩ : Scanner).step ']' =
        .ok ((⟨.endValue, ps, top⟩ : Scanner).pop ps (.array (e.2 :: acc).reverse))
        by simp [step, stateEndValue, isSpace, Frame.take, pop_parseState])]
    simp
  | cons e' es ih =>
    intro e hes p hp acc ps top hdepth rest
    rw [List.flatMap_cons, List.append_assoc, List.append_assoc, List.cons_append,
      (hes e (List.mem_cons_self _ _)).run_orEmpty hp _ ps top _ hdepth (.inl rfl),
      run_cons (show (⟨.endValue, (Frame.arrayValue acc).take e.2 :: ps, top⟩ : Scanner).step ',' =
        .ok ⟨.beginValue, .arrayValue (e.2 :: acc) :: ps, top⟩ from rfl), ← List.append_assoc,
      ih e' (fun x hx ↦ hes x (List.mem_cons_of_mem _ hx)) (.inl rfl) _ ps top hdepth rest]
    simp

theorem array_data (elems : List String) :
    (array elems).data = '[' :: ((",".intercalate elems).data ++ [']']) := by
  simp [array]

/-- An array, from where a value starts, over any stack. -/
theorem run_array {depth : Nat} (es : List (String × Value))
    (hes : ∀ e ∈ es, Reads depth e.1.data e.2) (ps : List Frame) (top : Option Value)
    (hdepth : ps.length + 1 + depth ≤ maxNestingDepth) (rest : List Char) :
    (⟨.beginValue, ps, top⟩ : Scanner).run ((array (es.map Prod.fst)).data ++ rest) =
      ((⟨.endValue, ps, top⟩ : Scanner).pop ps (.array (es.map Prod.snd))).run rest := by
  have hpush : (⟨.beginValue, ps, top⟩ : Scanner).step '[' =
      .ok ⟨.beginValueOrEmpty, .arrayValue [] :: ps, top⟩ := by
    simp [step, stateBeginValue, isSpace, push, show ps.length < maxNestingDepth by omega]
  rw [array_data, List.cons_append, run_cons hpush]
  cases es with
  | nil =>
    exact run_cons (by simp [step, stateBeginValueOrEmpty, isSpace, stateEndValue,
      pop_parseState]) rest
  | cons e es =>
    rw [List.map_cons, intercalate_data, List.append_assoc, List.singleton_append]
    have := run_elems es e hes (.inr rfl) [] ps top hdepth rest
    simp only [List.reverse_nil, List.nil_append] at this
    rw [← this]
    congr 2
    simp [List.flatMap, Function.comp_def]

theorem reads_array {depth : Nat} (es : List (String × Value))
    (hes : ∀ e ∈ es, Reads depth e.1.data e.2) :
    Reads (depth + 1) (array (es.map Prod.fst)).data (.array (es.map Prod.snd)) where
  head := ⟨'[', _, array_data _, by decide, rfl⟩
  run frame ps top _ rest hdepth _ :=
    run_array es hes (frame :: ps) top (by simp only [List.length_cons]; omega) _

end Scanner

/-- **A top-level object is read back.** `checkValid` reads an object whose members the scanner
reads as values as the object of those values. -/
theorem checkValid_object {depth : Nat} (ms : List (String × String × Value))
    (hms : ∀ m ∈ ms, Scanner.Reads depth m.2.1.data m.2.2) (hdepth : 1 + depth ≤ maxNestingDepth) :
    checkValid (object (ms.map fun m ↦ (m.1, m.2.1))).data =
      .ok (.object (ms.map fun m ↦ (m.1, m.2.2))) := by
  have := Scanner.run_object ms hms [] none (by simpa using hdepth) []
  rw [List.append_nil] at this
  simp only [checkValid, Scanner.init, this]
  rfl

end Json
end MarklogicUpgrade

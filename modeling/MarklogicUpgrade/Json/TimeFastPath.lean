import MarklogicUpgrade.Json.TimeRoundTrip
import MarklogicUpgrade.Json.ReadBack

/-!
# What the fast path accepts

`parseStrictRFC3339` tries `parseRFC3339` first and falls back to `time.Parse(time.RFC3339, ...)`.
A fast path is only sound if it never disagrees with the parse it shortcuts, and it does not: a
text the fast path accepts is accepted by `time.Parse` as the same time
(`parseLayoutRFC3339_of_parseRFC3339`), so the strict parser is `time.Parse` on every input
(`parseStrictRFC3339_eq_parseLayoutRFC3339`). The proof reads the fast path's result back into
its fields once (`parseRFC3339_eq_some`), then shows that each chunk of the layout reads its
field the same way.

## A parsed time written back

Every field the fast path reads is range-checked, its zone is whole minutes up to `23:59`, and
its date is a valid one, so the time it returns is one `MarshalJSON` accepts, and the text
`MarshalJSON` writes for it is read back as the same time (`parseRFC3339_remarshal`). This needs
the calendar read the other way from `TimeRoundTrip`: the day count of a valid date is read back
as that date (`civilFromDays_daysFromCivil`). Its core is that the days before each year of an
era grow by a year and that year's leap day (`base_lt`), so a day of the era names one year of it
(`yoe_unique`).
-/

namespace MarklogicUpgrade

/-! ### Reading the fast path back -/

/-- What `parseUint` accepts: digits, of a value in its bounds. -/
theorem parseUint_eq_some {cs : List Char} {lo hi n : Nat} (h : parseUint cs lo hi = some n) :
    cs.all Char.isDigit ∧ digitsValue cs = n ∧ lo ≤ n ∧ n ≤ hi := by
  unfold parseUint at h
  split_ifs at h with hc
  cases h
  exact ⟨hc.1, rfl, hc.2⟩

/-- What `parseZone` accepts: `Z`, or a sign and an offset of at most `23:59`. -/
theorem parseZone_eq_some {z : List Char} {off : Int} (h : parseZone z = some off) :
    z = ['Z'] ∧ off = 0 ∨
      ∃ sign h1 h2 m1 m2 hr mm, z = [sign, h1, h2, ':', m1, m2] ∧
        parseUint [h1, h2] 0 23 = some hr ∧ parseUint [m1, m2] 0 59 = some mm ∧
        (sign = '+' ∧ off = (hr * 60 + mm) * 60 ∨ sign = '-' ∧ off = -((hr * 60 + mm) * 60)) := by
  unfold parseZone at h
  split at h
  · exact .inl ⟨rfl, (Option.some.inj h).symm⟩
  · rename_i sign h1 h2 m1 m2
    simp only [Option.bind_eq_bind, Option.bind_eq_some] at h
    obtain ⟨hr, hhr, mm, hmm, h⟩ := h
    refine .inr ⟨sign, h1, h2, m1, m2, hr, mm, rfl, hhr, hmm, ?_⟩
    split_ifs at h with hp hm
    · exact .inl ⟨hp, (Option.some.inj h).symm⟩
    · exact .inr ⟨hm, (Option.some.inj h).symm⟩
  · cases h

/-- What `parseRFC3339` accepts: the layout's separators, each field in range, a day within its
month, and a zone after the fraction. -/
theorem parseRFC3339_eq_some {cs : List Char} {t : Time} (h : parseRFC3339 cs = some t) :
    ∃ y1 y2 y3 y4 mo1 mo2 dd1 dd2 h1 h2 mi1 mi2 s1 s2 rest,
      cs = y1 :: y2 :: y3 :: y4 :: '-' :: mo1 :: mo2 :: '-' :: dd1 :: dd2 :: 'T' :: h1 :: h2 ::
        ':' :: mi1 :: mi2 :: ':' :: s1 :: s2 :: rest ∧
      ∃ year month day hour min sec off, parseUint [y1, y2, y3, y4] 0 9999 = some year ∧
        parseUint [mo1, mo2] 1 12 = some month ∧
        parseUint [dd1, dd2] 1 (daysIn month year) = some day ∧
        parseUint [h1, h2] 0 23 = some hour ∧ parseUint [mi1, mi2] 0 59 = some min ∧
        parseUint [s1, s2] 0 59 = some sec ∧ parseZone (parseFraction (· = '.') rest).2 = some off ∧
        t = Time.ofClock year month day hour min sec (parseFraction (· = '.') rest).1 off := by
  unfold parseRFC3339 at h
  split at h
  · rename_i y1 y2 y3 y4 d1 mo1 mo2 d2 dd1 dd2 tc h1 h2 c1 mi1 mi2 c2 s1 s2 rest
    simp only [Option.bind_eq_bind, Option.bind_eq_some] at h
    obtain ⟨year, hy, month, hmo, day, hd, hour, hh, min, hmi, sec, hs, h⟩ := h
    split_ifs at h with hsep
    obtain ⟨rfl, rfl, rfl, rfl, rfl⟩ := hsep
    simp only [Option.bind_eq_some, Option.some.injEq] at h
    obtain ⟨off, hz, rfl⟩ := h
    exact ⟨y1, y2, y3, y4, mo1, mo2, dd1, dd2, h1, h2, mi1, mi2, s1, s2, rest, rfl,
      year, month, day, hour, min, sec, off, hy, hmo, hd, hh, hmi, hs, hz, rfl⟩
  · cases h

/-! ### The fallback reads the same -/

theorem getnum_of_parseUint {a b : Char} {lo hi n : Nat} (h : parseUint [a, b] lo hi = some n)
    (fixed : Bool) (rest : List Char) : getnum fixed (a :: b :: rest) = some (n, rest) := by
  obtain ⟨hd, rfl, -⟩ := parseUint_eq_some h
  simp only [List.all_cons, List.all_nil, Bool.and_true, Bool.and_eq_true] at hd
  simp [getnum, hd]

theorem stdLongYear_of_parseUint {a b c d : Char} {y : Nat}
    (h : parseUint [a, b, c, d] 0 9999 = some y) (value rest : List Char) :
    stdLongYear value (a :: b :: c :: d :: rest) = .ok (y, rest) := by
  obtain ⟨hd, rfl, -⟩ := parseUint_eq_some h
  rw [stdLongYear, if_pos hd]

/-- `time.Parse`'s zone reads what the fast path's reads, and nothing is left after it. -/
theorem stdISO8601ColonTZ_of_parseZone {z : List Char} {off : Int} (h : parseZone z = some off)
    (value : List Char) : stdISO8601ColonTZ value z = .ok (off, []) := by
  rcases parseZone_eq_some h with ⟨rfl, rfl⟩ | ⟨sign, h1, h2, m1, m2, hr, mm, rfl, hh, hm, hs⟩
  · rfl
  · obtain ⟨-, -, -, hr23⟩ := parseUint_eq_some hh
    obtain ⟨-, -, -, hm59⟩ := parseUint_eq_some hm
    rcases hs with ⟨rfl, rfl⟩ | ⟨rfl, rfl⟩ <;>
    simp [stdISO8601ColonTZ, getnum_of_parseUint hh, getnum_of_parseUint hm,
      show ¬60 < mm by omega, show ¬24 < hr by omega]

/-- Before a zone the fast path accepts, `time.Parse`'s fraction, which also takes a comma, reads
what the fast path's reads. -/
theorem parseFraction_of_parseZone {rest : List Char} {off : Int}
    (h : parseZone (parseFraction (· = '.') rest).2 = some off) :
    parseFraction (fun c ↦ c = '.' ∨ c = ',') rest = parseFraction (· = '.') rest := by
  match rest, h with
  | [], _ | [_], _ => rfl
  | sep :: d :: r, h =>
    by_cases hsep : sep = ','
    · subst hsep
      have hf : parseFraction (· = '.') (',' :: d :: r) = (0, ',' :: d :: r) := by
        simp [parseFraction]
      rw [hf] at h
      rcases parseZone_eq_some h with ⟨hz, -⟩ | ⟨sign, h1, h2, m1, m2, hr, mm, hz, -, -, hsign⟩
      · simp at hz
      · rcases hsign with ⟨rfl, -⟩ | ⟨rfl, -⟩ <;> simp at hz
    · simp [parseFraction, hsep]

/-- A text `parseRFC3339` accepts is accepted by `time.Parse(time.RFC3339, ...)` as the same
time. -/
theorem parseLayoutRFC3339_of_parseRFC3339 {cs : List Char} {t : Time}
    (h : parseRFC3339 cs = some t) : parseLayoutRFC3339 cs = .ok t := by
  obtain ⟨y1, y2, y3, y4, mo1, mo2, dd1, dd2, h1, h2, mi1, mi2, s1, s2, rest, rfl,
    year, month, day, hour, min, sec, off, hy, hmo, hd, hh, hmi, hs, hz, rfl⟩ :=
    parseRFC3339_eq_some h
  obtain ⟨-, -, hmo1, hmo12⟩ := parseUint_eq_some hmo
  obtain ⟨-, -, hd1, hdays⟩ := parseUint_eq_some hd
  obtain ⟨-, -, -, hh23⟩ := parseUint_eq_some hh
  obtain ⟨-, -, -, hmi59⟩ := parseUint_eq_some hmi
  obtain ⟨-, -, -, hs59⟩ := parseUint_eq_some hs
  simp only [parseLayoutRFC3339, bind, Except.bind, pure, Except.pure,
    stdLongYear_of_parseUint hy, skipChar, stdNum, getnum_of_parseUint hmo,
    getnum_of_parseUint hd, getnum_of_parseUint hh, getnum_of_parseUint hmi,
    getnum_of_parseUint hs, parseFraction_of_parseZone hz, stdISO8601ColonTZ_of_parseZone hz,
    if_true, decide_eq_true_eq, hmo1, hmo12, and_self, Nat.lt_succ_of_le hh23,
    Nat.lt_succ_of_le hmi59, Nat.lt_succ_of_le hs59, decide_True, ne_eq, not_true_eq_false,
    if_false, show ¬(day < 1 ∨ daysIn month year < day) by omega]

/-- **The fast path is only a shortcut.** `parseStrictRFC3339`, which tries `parseRFC3339`
first, answers on every input what `time.Parse(time.RFC3339, ...)` answers, its error included. -/
theorem parseStrictRFC3339_eq_parseLayoutRFC3339 (b : List Char) :
    parseStrictRFC3339 b = parseLayoutRFC3339 b := by
  unfold parseStrictRFC3339
  split
  · next t h => exact (parseLayoutRFC3339_of_parseRFC3339 h).symm
  · rfl

/-- A leap day at half past five hours east, with a fraction of a second. -/
def leapDayStamp : List Char := "2024-02-29T12:34:56.789+05:30".data

/-! ### The calendar, the other way -/

/-- The days before year `b` of an era are at least a year, and its leap day, more than those
before an earlier year `a`. -/
theorem base_lt {a b : Int} (ha0 : 0 ≤ a) (hab : a < b) (hb1 : b ≤ 399) :
    365 * a + a / 4 - a / 100 + 365 +
        (if (a + 1) % 4 = 0 ∧ ((a + 1) % 100 ≠ 0 ∨ (a + 1) % 400 = 0) then 1 else 0) ≤
      365 * b + b / 4 - b / 100 := by
  have hmono : 365 * (a + 1) + (a + 1) / 4 - (a + 1) / 100 ≤ 365 * b + b / 4 - b / 100 := by
    omega
  have h100 : a / 100 ≤ (a + 1) / 100 := by omega
  split_ifs with hl
  · obtain ⟨h4, h100' | h400⟩ := hl
    · have e4 : (a + 1) / 4 = a / 4 + 1 := by omega
      have e100 : (a + 1) / 100 = a / 100 := by omega
      omega
    · omega
  · have e4 : a / 4 ≤ (a + 1) / 4 := by omega
    have e : (a + 1) / 100 - a / 100 ≤ (a + 1) / 4 - a / 4 := by omega
    omega

/-- A day of an era falls in one year of it: the year and the day of the year that `doe_facts`
describes are the only ones. -/
theorem yoe_unique {a b da db : Int} (ha0 : 0 ≤ a) (ha1 : a ≤ 399) (hb0 : 0 ≤ b) (hb1 : b ≤ 399)
    (hda0 : 0 ≤ da) (hda1 : da ≤ 365) (hdb0 : 0 ≤ db) (hdb1 : db ≤ 365)
    (hla : da = 365 → (a + 1) % 4 = 0 ∧ ((a + 1) % 100 ≠ 0 ∨ (a + 1) % 400 = 0))
    (hlb : db = 365 → (b + 1) % 4 = 0 ∧ ((b + 1) % 100 ≠ 0 ∨ (b + 1) % 400 = 0))
    (h : 365 * a + a / 4 - a / 100 + da = 365 * b + b / 4 - b / 100 + db) : a = b := by
  rcases lt_trichotomy a b with hab | hab | hab
  · have hstep := base_lt ha0 hab hb1
    split_ifs at hstep with hl
    · omega
    · exact absurd (hla (by omega)) hl
  · exact hab
  · have hstep := base_lt hb0 hab ha1
    split_ifs at hstep with hl
    · omega
    · exact absurd (hlb (by omega)) hl

/-- `civilFromDays` of a day given by its era, its year of the era and its day of the
March-based year. -/
theorem civilFromDays_era {era yoe doy mp month day : Int} (hyoe0 : 0 ≤ yoe) (hyoe1 : yoe ≤ 399)
    (hdoy0 : 0 ≤ doy) (hdoy1 : doy ≤ 365)
    (hleap : doy = 365 → (yoe + 1) % 4 = 0 ∧ ((yoe + 1) % 100 ≠ 0 ∨ (yoe + 1) % 400 = 0))
    (hmp : (5 * doy + 2) / 153 = mp) (hmonth : (if mp < 10 then mp + 3 else mp - 9) = month)
    (hday : doy - (153 * mp + 2) / 5 + 1 = day) :
    civilFromDays (era * 146097 + (365 * yoe + yoe / 4 - yoe / 100 + doy) - 719468) =
      (if month ≤ 2 then yoe + era * 400 + 1 else yoe + era * 400, month, day) := by
  have hdoe1 : 365 * yoe + yoe / 4 - yoe / 100 + doy ≤ 146096 := by
    rcases Int.lt_or_le doy 365 with h | h
    · omega
    · have := hleap (by omega)
      omega
  unfold civilFromDays
  lift_lets
  intro z era' doe yoe' doy' mp' day' month'
  have hera' : era' = era := by
    show (era * 146097 + (365 * yoe + yoe / 4 - yoe / 100 + doy) - 719468 + 719468) / 146097 = era
    rw [show era * 146097 + (365 * yoe + yoe / 4 - yoe / 100 + doy) - 719468 + 719468 =
        365 * yoe + yoe / 4 - yoe / 100 + doy + era * 146097 by omega,
      Int.add_mul_ediv_right _ _ (by decide), Int.ediv_eq_zero_of_lt (by omega) (by omega),
      Int.zero_add]
  have hdoe : doe = 365 * yoe + yoe / 4 - yoe / 100 + doy := by
    show era * 146097 + (365 * yoe + yoe / 4 - yoe / 100 + doy) - 719468 + 719468 -
      era' * 146097 = _
    rw [hera']
    omega
  have hyoe' : yoe' = yoe := by
    obtain ⟨h0, h1, h2, h3, h4⟩ := @doe_facts doe yoe' (by omega) (by omega) rfl
    exact yoe_unique h0 h1 hyoe0 hyoe1 h2 h3 hdoy0 hdoy1 h4 hleap (by omega)
  have hdoy' : doy' = doy := by
    show doe - (365 * yoe' + yoe' / 4 - yoe' / 100) = doy
    rw [hyoe', hdoe]
    omega
  have hmp' : mp' = mp := by
    show (5 * doy' + 2) / 153 = mp
    rw [hdoy', hmp]
  have hday' : day' = day := by
    show doy' - (153 * mp' + 2) / 5 + 1 = day
    rw [hdoy', hmp', hday]
  have hmonth' : month' = month := by
    show (if mp' < 10 then mp' + 3 else mp' - 9) = month
    rw [hmp', hmonth]
  rw [hmonth', hday', hyoe', hera']

/-- Hinnant's month formula reads a day of the March-based year back as the month it falls in. -/
theorem month_of_doy {mp doy : Int} (h0 : (153 * mp + 2) / 5 ≤ doy)
    (h1 : doy < (153 * (mp + 1) + 2) / 5) : (5 * doy + 2) / 153 = mp := by
  omega

/-- The day of the March-based year of a valid date, and the month and the day `civilFromDays`
reads back from it. -/
theorem month_day_civil {year month day mp doy : Int} (hm1 : 1 ≤ month) (hm12 : month ≤ 12)
    (hd1 : 1 ≤ day) (hd : day ≤ daysIn month.toNat year)
    (hmp : mp = if 2 < month then month - 3 else month + 9)
    (hdoy : doy = (153 * mp + 2) / 5 + day - 1) :
    0 ≤ doy ∧ doy ≤ 365 ∧ (doy = 365 → month = 2 ∧ isLeap year) ∧ (5 * doy + 2) / 153 = mp ∧
      (if mp < 10 then mp + 3 else mp - 9) = month ∧ doy - (153 * mp + 2) / 5 + 1 = day := by
  by_cases hspring : 2 < month
  · rw [if_pos hspring] at hmp
    obtain ⟨n, hn⟩ : ∃ n : Nat, month = n + 3 := ⟨(month - 3).toNat, by omega⟩
    obtain rfl : mp = n := by omega
    have hlen := daysBefore_march n (by omega)
    rw [hn, show ((n : Int) + 3).toNat = n + 3 by omega, daysIn_of_ne_two (by omega),
      show n + 3 - 1 = n + 2 from rfl, hlen] at hd
    have hnext : (153 * ((n : Int) + 1) + 2) / 5 ≤ 306 := by omega
    rw [if_pos (show (n : Int) < 10 by omega)]
    exact ⟨by omega, by omega, fun h ↦ by omega, month_of_doy (by omega) (by omega), by omega,
      by omega⟩
  · rw [if_neg hspring] at hmp
    rw [if_neg (show ¬mp < 10 by omega)]
    by_cases hjan : month = 1
    · rw [hjan, show (1 : Int).toNat = 1 from rfl, show daysIn 1 year = 31 from rfl] at hd
      obtain rfl : mp = 10 := by omega
      exact ⟨by omega, by omega, fun h ↦ by omega, month_of_doy (by omega) (by omega), by omega,
        by omega⟩
    · have hfeb : month = 2 := by omega
      rw [hfeb, show (2 : Int).toNat = 2 from rfl, daysIn_two] at hd
      obtain rfl : mp = 11 := by omega
      have hd29 : day ≤ 29 ∧ (day = 29 → isLeap year) := by
        by_cases hl : isLeap year
        · rw [if_pos hl] at hd; exact ⟨by omega, fun _ ↦ hl⟩
        · rw [if_neg hl] at hd; exact ⟨by omega, fun h ↦ by omega⟩
      exact ⟨by omega, by omega, fun h ↦ ⟨hfeb, hd29.2 (by omega)⟩,
        month_of_doy (by omega) (by omega), by omega, by omega⟩

/-- **The calendar round trip, the other way.** The day count of a valid date is read back as
that date. -/
theorem civilFromDays_daysFromCivil {year month day : Int} (hm1 : 1 ≤ month) (hm12 : month ≤ 12)
    (hd1 : 1 ≤ day) (hd : day ≤ daysIn month.toNat year) :
    civilFromDays (daysFromCivil year month day) = (year, month, day) := by
  obtain ⟨hdoy0, hdoy1, hleap, hmp, hmonth, hday⟩ := month_day_civil hm1 hm12 hd1 hd rfl rfl
  generalize hmp' : (if 2 < month then month - 3 else month + 9) = mp at *
  generalize hdoy' : (153 * mp + 2) / 5 + day - 1 = doy at hdoy0 hdoy1 hleap hmp hday
  generalize hy : (if month ≤ 2 then year - 1 else year) = y
  have hdfc : daysFromCivil year month day =
      y / 400 * 146097 + (365 * (y - y / 400 * 400) + (y - y / 400 * 400) / 4 -
        (y - y / 400 * 400) / 100 + doy) - 719468 := by
    rw [← hy, ← hdoy', ← hmp']
    rfl
  have hleap' : doy = 365 → (y - y / 400 * 400 + 1) % 4 = 0 ∧
      ((y - y / 400 * 400 + 1) % 100 ≠ 0 ∨ (y - y / 400 * 400 + 1) % 400 = 0) := by
    intro h365
    obtain ⟨hfeb, hl⟩ := hleap h365
    rw [if_pos (by omega)] at hy
    rw [isLeap_iff] at hl
    omega
  rw [hdfc, civilFromDays_era (by omega) (by omega) hdoy0 hdoy1 hleap' hmp hmonth hday]
  congr 1
  split_ifs at hy ⊢ <;> omega

/-! ### A parsed time written back -/

theorem digitsValue_lt {cs : List Char} (h : ∀ c ∈ cs, c.isDigit) :
    digitsValue cs < 10 ^ cs.length := by
  induction cs using List.reverseRecOn with
  | nil => decide
  | append_singleton cs c ih =>
    rw [digitsValue_append_singleton, List.length_append, List.length_singleton, pow_succ]
    have hc := Json.isDigit_iff.1 (h c (List.mem_append_right _ (List.mem_singleton_self c)))
    have := ih fun d hd ↦ h d (List.mem_append_left _ hd)
    omega

/-- A fraction is read as less than a second. -/
theorem parseFraction_lt (isSep : Char → Bool) (cs : List Char) :
    (parseFraction isSep cs).1 < 1000000000 := by
  unfold parseFraction
  split
  · rename_i sep d rest
    split_ifs with h
    · have hdig : ∀ c ∈ d :: rest.takeWhile Char.isDigit, c.isDigit := fun c hc ↦
        (List.mem_cons.1 hc).elim (· ▸ h.2) List.mem_takeWhile_imp
      have hlen : ((d :: rest.takeWhile Char.isDigit).take 9).length ≤ 9 :=
        List.length_take_le _ _
      have hv := digitsValue_lt fun c hc ↦ hdig c (List.mem_of_mem_take (n := 9) hc)
      calc parseNanoseconds (d :: rest.takeWhile Char.isDigit)
          < 10 ^ ((d :: rest.takeWhile Char.isDigit).take 9).length *
              10 ^ (9 - ((d :: rest.takeWhile Char.isDigit).take 9).length) :=
            Nat.mul_lt_mul_of_pos_right hv (Nat.pow_pos (by decide))
        _ = 1000000000 := by rw [← pow_add, Nat.add_sub_cancel' hlen]; rfl
    · show 0 < 1000000000
      decide
  · show 0 < 1000000000
    decide

/-- The offset of an accepted zone: whole minutes, fewer than a day's. -/
theorem parseZone_offset {z : List Char} {off : Int} (h : parseZone z = some off) :
    ∃ k : Int, off = 60 * k ∧ k.natAbs < 24 * 60 := by
  rcases parseZone_eq_some h with ⟨_, rfl⟩ | ⟨_, _, _, _, _, hr, mm, _, hh, hm, hs⟩
  · exact ⟨0, rfl, by decide⟩
  · obtain ⟨-, -, -, hh⟩ := parseUint_eq_some hh
    obtain ⟨-, -, -, hm⟩ := parseUint_eq_some hm
    rcases hs with ⟨-, rfl⟩ | ⟨-, rfl⟩
    · exact ⟨hr * 60 + mm, by omega, by omega⟩
    · exact ⟨-(hr * 60 + mm), by omega, by omega⟩

/-- A time the fast path reads is one `MarshalJSON` accepts, at an offset of whole minutes. -/
theorem parseRFC3339_marshalable {cs : List Char} {t : Time} (h : parseRFC3339 cs = some t) :
    t.Marshalable ∧ t.offset % 60 = 0 := by
  obtain ⟨_, _, _, _, _, _, _, _, _, _, _, _, _, _, rest, _,
    year, month, day, hour, min, sec, off, hy, hmo, hd, hh, hmi, hs, hz, rfl⟩ :=
    parseRFC3339_eq_some h
  obtain ⟨-, -, -, hy1⟩ := parseUint_eq_some hy
  obtain ⟨-, -, hmo1, hmo12⟩ := parseUint_eq_some hmo
  obtain ⟨-, -, hd1, hdays⟩ := parseUint_eq_some hd
  obtain ⟨-, -, -, hh23⟩ := parseUint_eq_some hh
  obtain ⟨-, -, -, hmi59⟩ := parseUint_eq_some hmi
  obtain ⟨-, -, -, hs59⟩ := parseUint_eq_some hs
  obtain ⟨k, rfl, hk⟩ := parseZone_offset hz
  have hnsec := parseFraction_lt (· = '.') rest
  generalize (parseFraction (· = '.') rest).1 = nsec at hnsec
  have hdate := @civilFromDays_daysFromCivil year month day
    (by omega) (by omega) (by omega) (by rw [Int.toNat_natCast]; exact_mod_cast hdays)
  have hlocal : (Time.ofClock year month day hour min sec nsec (60 * k)).localSeconds / 86400 =
      daysFromCivil year month day := by
    simp only [Time.localSeconds, Time.ofClock]
    omega
  have hyear : (Time.ofClock year month day hour min sec nsec (60 * k)).year = year := by
    rw [Time.year, hlocal, hdate]
  have htdiv : (60 * k).tdiv 60 = k := Int.mul_tdiv_cancel_left k (by decide)
  refine ⟨⟨by omega, by omega, .inr ?_⟩, by simp [Time.ofClock]⟩
  simp only [Time.ofClock, htdiv]
  omega

/-- **A parsed time is written back and read back as itself.** For a time the fast path reads
from any text, `MarshalJSON` succeeds, writing the `RFC3339Nano` text in quotes, and
`parseStrictRFC3339` reads that text back as the same instant at the same offset. -/
theorem parseRFC3339_remarshal {cs : List Char} {t : Time} (h : parseRFC3339 cs = some t) :
    t.marshalJSON = .ok (Json.quote t.formatRFC3339Nano) ∧
      parseStrictRFC3339 t.formatRFC3339Nano.data = .ok t := by
  obtain ⟨hm, h60⟩ := parseRFC3339_marshalable h
  have hr : t.reparsed = t := (reparsed_eq_self_iff t).2 h60
  exact ⟨marshalJSON_eq_ok_iff.2 ⟨hm, rfl⟩, by rw [parseStrictRFC3339_formatRFC3339Nano hm, hr]⟩

theorem parseRFC3339_remarshal_leapDay :
    parseRFC3339 leapDayStamp = some ⟨1709190296789000000, 19800⟩ ∧
      (Time.marshalJSON ⟨1709190296789000000, 19800⟩ =
          .ok (Json.quote (Time.formatRFC3339Nano ⟨1709190296789000000, 19800⟩)) ∧
        parseStrictRFC3339 (Time.formatRFC3339Nano ⟨1709190296789000000, 19800⟩).data =
          .ok ⟨1709190296789000000, 19800⟩) :=
  ⟨by decide, @parseRFC3339_remarshal leapDayStamp _ (by decide)⟩

end MarklogicUpgrade

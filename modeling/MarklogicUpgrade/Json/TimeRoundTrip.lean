import MarklogicUpgrade.Json.Decimal
import Mathlib.Data.List.GetD
import Mathlib.Tactic.LiftLets

/-!
# A formatted time read back

`Time.MarshalJSON` writes `formatRFC3339Nano`, and `Time.UnmarshalJSON` hands that text to
`parseStrictRFC3339`. The fast path `parseRFC3339` takes it back field by field: each
`appendInt` field is a fixed run of digits that `parseUint` reads as the value written, within
the range it checks; the fraction, trailing zeros trimmed, is the same count of nanoseconds; and
the zone `±hh:mm` is the offset in whole minutes.

**What comes back.** The zone is written in whole minutes, the seconds of the offset dropped
(`offset / 60`, truncated). The time parsed is the wall clock read at that shorter offset:
`t.reparsed`, the offset truncated to a minute and the instant moved by what was dropped. For an
offset in whole minutes that is `t` itself (`reparsed_eq_self_iff`).

**The calendar.** The date is `civilFromDays` of the local day. That it is a valid date, and that
`daysFromCivil` takes it back to the same day, is Hinnant's algorithm read both ways. The proof
splits the day of the 400-year era into a century, a four-year cycle and a year of the cycle,
one lemma each, so that no step does arithmetic over more than one division at a time.
-/

namespace MarklogicUpgrade

/-! ### The calendar read back -/

/-- The day of an era split at its centuries; the last century is a day longer. -/
theorem century_split {doe : Int} (h0 : 0 ≤ doe) (h1 : doe ≤ 146096) :
    ∃ c d, doe = 36524 * c + d ∧ 0 ≤ c ∧ c ≤ 3 ∧ 0 ≤ d ∧ d ≤ 36524 ∧ (d = 36524 → c = 3) :=
  ⟨(doe - doe / 146096) / 36524, doe - 36524 * ((doe - doe / 146096) / 36524), by omega⟩

/-- The day of a century split at its four-year cycles. -/
theorem cycle_split {d : Int} (h0 : 0 ≤ d) (h1 : d ≤ 36524) :
    ∃ k r, d = 1461 * k + r ∧ 0 ≤ k ∧ k ≤ 24 ∧ 0 ≤ r ∧ r ≤ 1460 :=
  ⟨d / 1461, d % 1461, by omega⟩

/-- The centuries Hinnant's year formula adds back: one per century, none for the day that ends
the era. -/
theorem century_ediv {c k r : Int} (hc0 : 0 ≤ c) (hc1 : c ≤ 3) (hk0 : 0 ≤ k) (hk1 : k ≤ 24)
    (hr0 : 0 ≤ r) (hr1 : r ≤ 1460) (hlast : 1461 * k + r ≤ 36523 ∨ c = 3) :
    (36524 * c + (1461 * k + r)) / 36524 - (36524 * c + (1461 * k + r)) / 146096 = c := by
  by_cases hend : 1461 * k + r = 36524
  · obtain rfl : c = 3 := by omega
    rw [hend]; rfl
  · rw [show 36524 * c + (1461 * k + r) = 1461 * k + r + c * 36524 by omega,
      Int.add_mul_ediv_right _ _ (by decide), Int.ediv_eq_zero_of_lt (by omega) (by omega),
      Int.ediv_eq_zero_of_lt (by omega) (by omega)]
    omega

/-- The leap days Hinnant's year formula takes out: one per cycle, and one more late in a cycle. -/
theorem leap_ediv {c k r : Int} (hc0 : 0 ≤ c) (hc1 : c ≤ 3) (hk0 : 0 ≤ k) (hk1 : k ≤ 24)
    (hr0 : 0 ≤ r) (hr1 : r ≤ 1460) :
    ∃ e, (e = 0 ∨ e = 1) ∧ (e = 1 → 1364 ≤ r) ∧ (r = 1460 → e = 1) ∧
      (36524 * c + (1461 * k + r)) / 1460 = 25 * c + k + e := by
  refine ⟨(24 * c + k + r) / 1460, by omega, by omega, by omega, ?_⟩
  rw [show 36524 * c + (1461 * k + r) = 24 * c + k + r + (25 * c + k) * 1460 by omega,
    Int.add_mul_ediv_right _ _ (by decide)]
  omega

/-- The year of a four-year cycle, its last day kept in the cycle's last year. -/
theorem cycle_year {r e : Int} (hr0 : 0 ≤ r) (hr1 : r ≤ 1460) (he : e = 0 ∨ e = 1)
    (hre : e = 1 → 1364 ≤ r) (hr : r = 1460 → e = 1) :
    0 ≤ (r - e) / 365 ∧ (r - e) / 365 ≤ 3 ∧ 365 * ((r - e) / 365) ≤ r ∧
      (r < 365 * ((r - e) / 365) + 365 ∨ r = 1460 ∧ (r - e) / 365 = 3) := by
  rcases he with rfl | rfl <;> omega

/-- Hinnant's year of the era, on a day split into century, cycle and day of the cycle. -/
theorem yoe_split {c k r : Int} (hc0 : 0 ≤ c) (hc1 : c ≤ 3) (hk0 : 0 ≤ k) (hk1 : k ≤ 24)
    (hr0 : 0 ≤ r) (hr1 : r ≤ 1460) (hlast : 1461 * k + r ≤ 36523 ∨ c = 3) :
    ∃ yq, (36524 * c + (1461 * k + r) - (36524 * c + (1461 * k + r)) / 1460 +
        (36524 * c + (1461 * k + r)) / 36524 - (36524 * c + (1461 * k + r)) / 146096) / 365 =
        100 * c + 4 * k + yq ∧
      0 ≤ yq ∧ yq ≤ 3 ∧ 365 * yq ≤ r ∧ (r < 365 * yq + 365 ∨ r = 1460 ∧ yq = 3) := by
  obtain ⟨e, he, hre, hr, h1460⟩ := leap_ediv hc0 hc1 hk0 hk1 hr0 hr1
  have hcent := century_ediv hc0 hc1 hk0 hk1 hr0 hr1 hlast
  generalize (36524 * c + (1461 * k + r)) / 1460 = a at h1460 ⊢
  generalize (36524 * c + (1461 * k + r)) / 36524 = b at hcent ⊢
  generalize (36524 * c + (1461 * k + r)) / 146096 = d at hcent ⊢
  rw [show 36524 * c + (1461 * k + r) - a + b - d = r - e + (100 * c + 4 * k) * 365 by omega,
    Int.add_mul_ediv_right _ _ (by decide)]
  exact ⟨_, Int.add_comm _ _, cycle_year hr0 hr1 he hre hr⟩

/-- The year of the era and the day of its March-based year, as `civilFromDays` computes them
from the day of the era: the day of the year is at most 365, and 365 only in a leap year. -/
theorem doe_facts {doe yoe : Int} (h0 : 0 ≤ doe) (h1 : doe ≤ 146096)
    (hyoe : yoe = (doe - doe / 1460 + doe / 36524 - doe / 146096) / 365) :
    0 ≤ yoe ∧ yoe ≤ 399 ∧ 0 ≤ doe - (365 * yoe + yoe / 4 - yoe / 100) ∧
      doe - (365 * yoe + yoe / 4 - yoe / 100) ≤ 365 ∧
      (doe - (365 * yoe + yoe / 4 - yoe / 100) = 365 →
        (yoe + 1) % 4 = 0 ∧ ((yoe + 1) % 100 ≠ 0 ∨ (yoe + 1) % 400 = 0)) := by
  obtain ⟨c, d, rfl, hc0, hc1, hd0, hd1, hd⟩ := century_split h0 h1
  obtain ⟨k, r, rfl, hk0, hk1, hr0, hr1⟩ := cycle_split hd0 hd1
  have hlast : 1461 * k + r ≤ 36523 ∨ c = 3 := by omega
  obtain ⟨yq, hyq, hyq0, hyq1, hyqr, hyqr'⟩ := yoe_split hc0 hc1 hk0 hk1 hr0 hr1 hlast
  rw [hyq] at hyoe
  subst hyoe
  clear hyq hd0 hd1 hd h0 h1
  rw [show (100 * c + 4 * k + yq) / 4 = 25 * c + k by omega,
    show (100 * c + 4 * k + yq) / 100 = c by omega]
  refine ⟨by omega, by omega, by omega, by omega, fun h365 ↦ ?_⟩
  obtain ⟨rfl, rfl⟩ : r = 1460 ∧ yq = 3 := by omega
  rcases hlast with h | rfl <;> omega

theorem isLeap_iff (y : Int) : isLeap y ↔ y % 4 = 0 ∧ (y % 100 ≠ 0 ∨ y % 400 = 0) := by
  simp [isLeap]

theorem isLeap_add_era {yoe : Int} (era : Int)
    (h : (yoe + 1) % 4 = 0 ∧ ((yoe + 1) % 100 ≠ 0 ∨ (yoe + 1) % 400 = 0)) :
    isLeap (yoe + era * 400 + 1) := by
  rw [isLeap_iff]; omega

theorem daysIn_two (y : Int) : daysIn 2 y = if isLeap y then 29 else 28 := by
  by_cases h : isLeap y
  · simp [daysIn, h]
  · simp [daysIn, h]; rfl

theorem daysIn_of_ne_two {m : Nat} (hm : m ≠ 2) (y : Int) :
    daysIn m y = daysBefore.getD m 0 - daysBefore.getD (m - 1) 0 := by
  simp [daysIn, hm]

theorem daysIn_le (month : Nat) (year : Int) : daysIn month year ≤ 31 := by
  unfold daysIn
  split
  · omega
  · by_cases hm : month < 13
    · exact (by decide : ∀ m < 13, daysBefore.getD m 0 - daysBefore.getD (m - 1) 0 ≤ 31) month hm
    · have hlen : daysBefore.length = 13 := rfl
      rw [List.getD_eq_default daysBefore 0 (by omega : daysBefore.length ≤ month)]
      omega

/-- The month lengths from March to December: month `mp` of the year that starts in March begins
on its day `(153 * mp + 2) / 5`. -/
theorem daysBefore_march :
    ∀ n < 10, ((daysBefore.getD (n + 3) 0 - daysBefore.getD (n + 2) 0 : Nat) : Int) =
      (153 * ((n : Int) + 1) + 2) / 5 - (153 * (n : Int) + 2) / 5 := by
  decide

/-- The month and the day of the month `civilFromDays` takes from a day of the March-based
year. -/
theorem civil_month_day {doy mp : Int} (h0 : 0 ≤ doy) (h1 : doy ≤ 365)
    (hmp : mp = (5 * doy + 2) / 153) {y : Int} (hleap : doy = 365 → isLeap y) :
    1 ≤ (if mp < 10 then mp + 3 else mp - 9) ∧ (if mp < 10 then mp + 3 else mp - 9) ≤ 12 ∧
      1 ≤ doy - (153 * mp + 2) / 5 + 1 ∧
      doy - (153 * mp + 2) / 5 + 1 ≤ daysIn (if mp < 10 then mp + 3 else mp - 9).toNat y := by
  by_cases hspring : mp < 10
  · rw [if_pos hspring]
    obtain ⟨n, rfl⟩ : ∃ n : Nat, mp = n := ⟨mp.toNat, by omega⟩
    have hlen := daysBefore_march n (by omega)
    rw [show ((n : Int) + 3).toNat = n + 3 by omega, daysIn_of_ne_two (by omega),
      show n + 3 - 1 = n + 2 from rfl]
    omega
  · rw [if_neg hspring]
    by_cases hjan : mp = 10
    · subst hjan
      rw [show (10 - 9 : Int).toNat = 1 from rfl, show daysIn 1 y = 31 from rfl]
      omega
    · obtain rfl : mp = 11 := by omega
      rw [show (11 - 9 : Int).toNat = 2 from rfl, daysIn_two]
      by_cases hl : isLeap y
      · rw [if_pos hl]; omega
      · rw [if_neg hl]
        have := mt hleap hl
        omega

/-- `daysFromCivil` of the date `civilFromDays` builds from an era, a year of the era and a day
of the March-based year. -/
theorem daysFromCivil_civil {era yoe mp doy : Int} (hyoe0 : 0 ≤ yoe) (hyoe1 : yoe ≤ 399)
    (hmp0 : 0 ≤ mp) (hmp1 : mp ≤ 11) :
    daysFromCivil
        (if (if mp < 10 then mp + 3 else mp - 9) ≤ 2 then yoe + era * 400 + 1 else yoe + era * 400)
        (if mp < 10 then mp + 3 else mp - 9) (doy - (153 * mp + 2) / 5 + 1) =
      era * 146097 + (365 * yoe + yoe / 4 - yoe / 100 + doy) - 719468 := by
  have key : ∀ y m : Int, (if m ≤ 2 then y - 1 else y) = yoe + era * 400 →
      (if 2 < m then m - 3 else m + 9) = mp →
      daysFromCivil y m (doy - (153 * mp + 2) / 5 + 1) =
        era * 146097 + (365 * yoe + yoe / 4 - yoe / 100 + doy) - 719468 := by
    intro y m hy hm
    have hera : (yoe + era * 400) / 400 = era := by
      rw [Int.add_mul_ediv_right _ _ (by decide), Int.ediv_eq_zero_of_lt hyoe0 (by omega),
        Int.zero_add]
    simp only [daysFromCivil, hy, hm, hera, Int.add_sub_cancel]
    omega
  by_cases hspring : mp < 10
  · have hsummer : ¬mp + 3 ≤ 2 := by omega
    simp only [if_pos hspring, if_neg hsummer]
    exact key _ _ (if_neg hsummer) (by rw [if_pos (show 2 < mp + 3 by omega)]; omega)
  · have hwinter : mp - 9 ≤ 2 := by omega
    simp only [if_neg hspring, if_pos hwinter]
    exact key _ _ (by rw [if_pos hwinter]; omega) (by rw [if_neg (show ¬2 < mp - 9 by omega)]; omega)

/-- **The calendar round trip.** `civilFromDays` names a valid date, and `daysFromCivil` takes it
back to the day it came from. -/
theorem civilFromDays_valid (z : Int) :
    let date := civilFromDays z
    1 ≤ date.2.1 ∧ date.2.1 ≤ 12 ∧ 1 ≤ date.2.2 ∧ date.2.2 ≤ daysIn date.2.1.toNat date.1 ∧
      daysFromCivil date.1 date.2.1 date.2.2 = z := by
  unfold civilFromDays
  lift_lets
  intro z' era doe yoe doy mp day month date
  have hera : era = (z + 719468) / 146097 := rfl
  have hdoe : doe = z + 719468 - era * 146097 := rfl
  have hdoy : doy = doe - (365 * yoe + yoe / 4 - yoe / 100) := rfl
  have hmp : mp = (5 * doy + 2) / 153 := rfl
  have hyoe : yoe = (doe - doe / 1460 + doe / 36524 - doe / 146096) / 365 := rfl
  clear_value mp doy yoe doe era z'
  obtain ⟨hyoe0, hyoe1, hdoy0, hdoy1, hleap⟩ := doe_facts (by omega) (by omega) hyoe
  rw [← hdoy] at hdoy0 hdoy1 hleap
  have hyear : doy = 365 → isLeap (if month ≤ 2 then yoe + era * 400 + 1 else yoe + era * 400) := by
    intro h365
    have hwinter : month ≤ 2 := by
      simp only [month]; rw [if_neg (show ¬mp < 10 by omega)]; omega
    rw [if_pos hwinter]
    exact isLeap_add_era era (hleap h365)
  obtain ⟨hm1, hm12, hd1, hdays⟩ := civil_month_day hdoy0 hdoy1 hmp hyear
  refine ⟨hm1, hm12, hd1, hdays, ?_⟩
  rw [daysFromCivil_civil hyoe0 hyoe1 (by omega) (by omega)]
  omega

/-! ### Fields -/

/-- **`parseUint` reads what `appendInt` writes**, within the bounds it checks. -/
theorem parseUint_appendInt {x : Int} {w lo hi : Nat} (hw : 0 < w) (hx : x < 10 ^ w)
    (hlo : (lo : Int) ≤ x) (hhi : x ≤ hi) : parseUint (appendInt x w).data lo hi = some x.toNat := by
  obtain ⟨-, hdig, hval⟩ := appendInt_data hw (by omega) hx
  unfold parseUint
  rw [if_pos ⟨List.all_eq_true.2 hdig, by omega, by omega⟩]
  congr 1
  omega

/-- A two-digit field: `appendInt x 2` writes two characters, and `parseUint` reads them back. -/
theorem appendInt_two (x : Int) (lo hi : Nat) (hlo : (lo : Int) ≤ x) (hhi : x ≤ hi) (h99 : hi ≤ 99) :
    ∃ a b, (appendInt x 2).data = [a, b] ∧ parseUint [a, b] lo hi = some x.toNat := by
  have hread : parseUint (appendInt x 2).data lo hi = some x.toNat :=
    parseUint_appendInt (by decide) (by omega) hlo hhi
  obtain ⟨hlen, -, -⟩ := appendInt_data (x := x) (w := 2) (by decide) (by omega) (by omega)
  obtain ⟨a, b, hab⟩ := List.length_eq_two.1 hlen
  exact ⟨a, b, hab, hab ▸ hread⟩

/-- The year field: `appendInt x 4` writes four characters, and `parseUint` reads them back. -/
theorem appendInt_four {x : Int} (h0 : 0 ≤ x) (hx : x < 10000) :
    ∃ a b c d, (appendInt x 4).data = [a, b, c, d] ∧ parseUint [a, b, c, d] 0 9999 = some x.toNat := by
  obtain ⟨hlen, -, -⟩ := appendInt_data (w := 4) (by decide) h0 hx
  have hread : parseUint (appendInt x 4).data 0 9999 = some x.toNat :=
    parseUint_appendInt (by decide) hx (by omega) (by omega)
  match (appendInt x 4).data, hlen, hread with
  | [a, b, c, d], _, hread => exact ⟨a, b, c, d, rfl, hread⟩

/-- Every character `appendInt` writes is a digit or a minus sign. -/
theorem appendInt_char {x : Int} {w : Nat} {c : Char} (hc : c ∈ (appendInt x w).data) :
    c.isDigit ∨ c = '-' := by
  simp only [appendInt, String.data_append, List.mem_append] at hc
  rcases hc with (hc | hc) | hc
  · split at hc <;> simp_all
  · exact .inl ((List.eq_of_mem_replicate hc).symm ▸ rfl)
  · exact .inl ((toDigits_decimal x.natAbs).isDigit c hc)

/-! ### The fraction and the zone -/

/-- A run of characters is what is left after its trailing zeros are trimmed, then those zeros. -/
theorem trim_zeros_append (ds : List Char) :
    (ds.reverse.dropWhile (· = '0')).reverse ++
      List.replicate (ds.reverse.takeWhile (· = '0')).length '0' = ds := by
  have hzeros : (ds.reverse.takeWhile (· = '0')).reverse =
      List.replicate (ds.reverse.takeWhile (· = '0')).length '0' := by
    rw [List.eq_replicate_iff, List.length_reverse]
    refine ⟨rfl, fun c hc ↦ ?_⟩
    simpa using List.mem_takeWhile_imp (List.mem_reverse.1 hc)
  rw [← hzeros, ← List.reverse_append, List.takeWhile_append_dropWhile, List.reverse_reverse]

/-- The fraction `formatRFC3339Nano` writes for `n` nanoseconds, before a zone that starts with
neither a digit nor a dot, reads back as `n`. -/
theorem parseFraction_fraction {n : Int} (h0 : 0 ≤ n) (h1 : n < 1000000000) {zone : List Char}
    (hzone : ∀ c ∈ zone.head?, c.isDigit = false ∧ c ≠ '.') :
    parseFraction (· = '.') ((if n = 0 then "" else
      "." ++ (⟨((appendInt n 9).toList.reverse.dropWhile (· = '0')).reverse⟩ : String)).data ++
        zone) = (n.toNat, zone) := by
  have hstop : zone.takeWhile Char.isDigit = [] ∧ zone.dropWhile Char.isDigit = zone := by
    cases zone with
    | nil => exact ⟨rfl, rfl⟩
    | cons c cs => simp [(hzone c rfl).1]
  by_cases hn : n = 0
  · subst hn
    rw [if_pos rfl]
    match zone, hzone with
    | [], _ | [_], _ => rfl
    | c :: d :: rest, hz => simp [parseFraction, (hz c rfl).2]
  · rw [if_neg hn]
    obtain ⟨hlen, hdig, hval⟩ := appendInt_data (w := 9) (by decide) h0 h1
    have htrim := trim_zeros_append (appendInt n 9).data
    rw [show (appendInt n 9).toList = (appendInt n 9).data from rfl]
    generalize ((appendInt n 9).data.reverse.takeWhile (· = '0')).length = k at htrim
    generalize ((appendInt n 9).data.reverse.dropWhile (· = '0')).reverse = T at htrim ⊢
    generalize (appendInt n 9).data = D at hlen hdig hval htrim
    subst htrim
    have hT : ∀ c ∈ T, c.isDigit := fun c hc ↦ hdig c (List.mem_append_left _ hc)
    have hTlen : T.length ≤ 9 := by simp only [List.length_append] at hlen; omega
    rw [digitsValue_append_zeros] at hval
    match T, hT, hTlen, hval with
    | [], _, _, hval => simp at hval; omega
    | d :: T', hT, hTlen, hval =>
      have hk : k = 9 - (d :: T').length := by
        simp only [List.length_append, List.length_replicate] at hlen; omega
      simp only [String.data_append, List.cons_append, List.nil_append, parseFraction]
      rw [if_pos ⟨rfl, hT d (List.mem_cons_self _ _)⟩,
        List.takeWhile_append_of_pos fun c hc ↦ hT c (List.mem_cons_of_mem _ hc),
        List.dropWhile_append_of_pos fun c hc ↦ hT c (List.mem_cons_of_mem _ hc), hstop.1,
        hstop.2, List.append_nil]
      unfold parseNanoseconds
      rw [List.take_of_length_le hTlen, ← hk]
      congr 1
      omega

/-- The zone `formatRFC3339Nano` writes starts with `Z` or a sign. -/
theorem zone_head (offset : Int) :
    ∀ c ∈ (if offset = 0 then "Z" else
      (if offset.tdiv 60 < 0 then "-" else "+") ++ appendInt (↑(offset.tdiv 60).natAbs / 60) 2 ++
        ":" ++ appendInt (↑(offset.tdiv 60).natAbs % 60) 2).data.head?,
      c.isDigit = false ∧ c ≠ '.' := by
  by_cases h0 : offset = 0
  · rw [if_pos h0]; decide
  · rw [if_neg h0]
    by_cases hneg : offset.tdiv 60 < 0
    · rw [if_pos hneg]
      simp only [String.data_append, List.append_assoc, List.singleton_append, List.cons_append,
        List.head?_cons, Option.mem_def, Option.some.injEq, forall_eq']
      decide
    · rw [if_neg hneg]
      simp only [String.data_append, List.append_assoc, List.singleton_append, List.cons_append,
        List.head?_cons, Option.mem_def, Option.some.injEq, forall_eq']
      decide

/-- The zone `formatRFC3339Nano` writes for an offset whose hours fit two digits reads back as
the offset truncated to whole minutes. -/
theorem parseZone_zone {offset : Int} (h : offset = 0 ∨ (offset.tdiv 60).natAbs / 60 < 24) :
    parseZone (if offset = 0 then "Z" else
      (if offset.tdiv 60 < 0 then "-" else "+") ++ appendInt (↑(offset.tdiv 60).natAbs / 60) 2 ++
        ":" ++ appendInt (↑(offset.tdiv 60).natAbs % 60) 2).data = some (60 * offset.tdiv 60) := by
  by_cases h0 : offset = 0
  · rw [if_pos h0, h0]; rfl
  rw [if_neg h0]
  generalize offset.tdiv 60 = z at h ⊢
  obtain ⟨h1, h2, hhd, hh⟩ :=
    appendInt_two ((z.natAbs : Int) / 60) 0 23 (by omega) (by omega) (by decide)
  obtain ⟨m1, m2, hmd, hm⟩ :=
    appendInt_two ((z.natAbs : Int) % 60) 0 59 (by omega) (by omega) (by decide)
  simp only [String.data_append, hhd, hmd]
  by_cases hneg : z < 0
  · rw [if_pos hneg]
    simp only [parseZone, List.cons_append, List.nil_append, hh, hm, Option.bind_eq_bind,
      Option.some_bind, if_neg (show ('-' : Char) ≠ '+' by decide), if_true]
    congr 1
    omega
  · rw [if_neg hneg]
    simp only [parseZone, List.cons_append, List.nil_append, hh, hm, Option.bind_eq_bind,
      Option.some_bind, if_true]
    congr 1
    omega

/-! ### The time read back -/

/-- `Time.Year`: the year of the time in its own zone. -/
def Time.year (t : Time) : Int := (civilFromDays (t.localSeconds / 86400)).1

/-- What `Time.MarshalJSON` accepts: a year of `[0, 9999]` in the time's own zone, and a zone
whose hours fit two digits. -/
def Time.Marshalable (t : Time) : Prop :=
  0 ≤ t.year ∧ t.year < 10000 ∧ (t.offset = 0 ∨ (t.offset.tdiv 60).natAbs / 60 < 24)

instance : DecidablePred Time.Marshalable := fun _ ↦ inferInstanceAs (Decidable (_ ∧ _ ∧ _))

/-- The time `parseStrictRFC3339` gives back for `t.formatRFC3339Nano`: the same wall clock at
the offset truncated to whole minutes. -/
def Time.reparsed (t : Time) : Time :=
  ⟨t.unixNano + (t.offset - 60 * t.offset.tdiv 60) * 1000000000, 60 * t.offset.tdiv 60⟩

/-- `MarshalJSON` succeeds exactly on the times it can write, with the quoted `RFC3339Nano`
text. -/
theorem marshalJSON_eq_ok_iff {t : Time} {s : String} :
    t.marshalJSON = .ok s ↔ t.Marshalable ∧ s = Json.quote t.formatRFC3339Nano := by
  unfold Time.marshalJSON Time.Marshalable Time.year
  by_cases hy : (civilFromDays (t.localSeconds / 86400)).1 < 0 ∨
      10000 ≤ (civilFromDays (t.localSeconds / 86400)).1
  · rw [if_pos hy]
    simp only [reduceCtorEq, false_iff, not_and]
    omega
  · rw [if_neg hy]
    by_cases hz : t.offset ≠ 0 ∧ 24 ≤ (t.offset.tdiv 60).natAbs / 60
    · rw [if_pos hz]
      simp only [reduceCtorEq, false_iff, not_and]
      omega
    · rw [if_neg hz, Except.ok.injEq]
      exact ⟨fun h ↦ ⟨⟨by omega, by omega, by omega⟩, h.symm⟩, fun h ↦ h.2.symm⟩

/-- **The fast path reads back what `formatRFC3339Nano` writes**, for a time `MarshalJSON`
accepts: the same clock reading, at the offset truncated to whole minutes. -/
theorem parseRFC3339_formatRFC3339Nano {t : Time} (ht : t.Marshalable) :
    parseRFC3339 t.formatRFC3339Nano.data = some t.reparsed := by
  obtain ⟨hy0, hy1, hzone⟩ := ht
  have hv := civilFromDays_valid (t.localSeconds / 86400)
  unfold Time.year at hy0 hy1
  generalize hdate : civilFromDays (t.localSeconds / 86400) = date at hy0 hy1 hv
  obtain ⟨year, month, day⟩ := date
  dsimp only at hv hy0 hy1
  obtain ⟨hm1, hm12, hd1, hdays, hinv⟩ := hv
  have hsod : 0 ≤ t.localSeconds % 86400 ∧ t.localSeconds % 86400 < 86400 := by omega
  obtain ⟨y1, y2, y3, y4, hy, pyear⟩ := appendInt_four hy0 hy1
  obtain ⟨mo1, mo2, hmo, pmonth⟩ := appendInt_two month 1 12 (by omega) (by omega) (by decide)
  obtain ⟨dd1, dd2, hdd, pday⟩ := appendInt_two day 1 (daysIn month.toNat (year.toNat : Int))
    (by omega) (by rwa [Int.toNat_of_nonneg hy0]) ((daysIn_le _ _).trans (by decide))
  obtain ⟨h1, h2, hh, phour⟩ :=
    appendInt_two (t.localSeconds % 86400 / 3600) 0 23 (by omega) (by omega) (by decide)
  obtain ⟨mi1, mi2, hmi, pmin⟩ :=
    appendInt_two (t.localSeconds % 86400 / 60 % 60) 0 59 (by omega) (by omega) (by decide)
  obtain ⟨s1, s2, hs, psec⟩ :=
    appendInt_two (t.localSeconds % 86400 % 60) 0 59 (by omega) (by omega) (by decide)
  simp only [Time.formatRFC3339Nano, hdate, String.data_append, hy, hmo, hdd, hh, hmi, hs,
    List.append_assoc, List.cons_append, List.nil_append, List.singleton_append]
  simp only [parseRFC3339, pyear, pmonth, pday, phour, pmin, psec, Option.bind_eq_bind,
    Option.some_bind, and_self, if_true]
  rw [parseFraction_fraction (Int.emod_nonneg _ (by decide)) (Int.emod_lt_of_pos _ (by decide))
    (zone_head t.offset), parseZone_zone hzone, Option.some_bind]
  have h60 : (60 : Int) ≠ 0 := by decide
  simp only [Int.toNat_of_nonneg hy0, Int.toNat_of_nonneg (by omega : 0 ≤ month),
    Int.toNat_of_nonneg (by omega : 0 ≤ day),
    Int.toNat_of_nonneg (Int.emod_nonneg t.unixNano (by decide : (1000000000 : Int) ≠ 0)),
    Int.toNat_of_nonneg (Int.ediv_nonneg hsod.1 (by decide : (0 : Int) ≤ 3600)),
    Int.toNat_of_nonneg (Int.emod_nonneg _ h60), Time.ofClock, hinv, Time.reparsed,
    Option.some.injEq, Time.mk.injEq, and_true]
  unfold Time.localSeconds at hsod ⊢
  omega

/-- **`parseStrictRFC3339` reads back what `MarshalJSON` writes**, through its fast path. -/
theorem parseStrictRFC3339_formatRFC3339Nano {t : Time} (ht : t.Marshalable) :
    parseStrictRFC3339 t.formatRFC3339Nano.data = .ok t.reparsed := by
  rw [parseStrictRFC3339, parseRFC3339_formatRFC3339Nano ht]

/-- A time comes back as itself exactly when its offset is a whole number of minutes. -/
theorem reparsed_eq_self_iff (t : Time) : t.reparsed = t ↔ t.offset % 60 = 0 := by
  have hdiv : 60 * t.offset.tdiv 60 = t.offset ↔ t.offset % 60 = 0 :=
    ⟨fun h ↦ by rw [← h]; exact Int.mul_emod_right _ _,
      fun h ↦ Int.mul_tdiv_cancel' (Int.dvd_of_emod_eq_zero h)⟩
  rw [← hdiv]
  cases t
  simp only [Time.reparsed, Time.mk.injEq]
  omega


/-- Every character `formatRFC3339Nano` writes is a digit, a sign, `T`, `:`, `.` or `Z`. -/
theorem formatRFC3339Nano_char (t : Time) :
    ∀ c ∈ t.formatRFC3339Nano.data,
      c.isDigit ∨ c = '-' ∨ c = '+' ∨ c = 'T' ∨ c = ':' ∨ c = '.' ∨ c = 'Z' := by
  have happ : ∀ (x : Int) (w : Nat), ∀ c ∈ (appendInt x w).data,
      c.isDigit ∨ c = '-' ∨ c = '+' ∨ c = 'T' ∨ c = ':' ∨ c = '.' ∨ c = 'Z' :=
    fun _ _ _ hc ↦ (appendInt_char hc).imp_right .inl
  simp only [Time.formatRFC3339Nano, String.data_append, List.forall_mem_append, and_assoc]
  refine ⟨happ _ _, by decide, happ _ _, by decide, happ _ _, by decide, happ _ _, by decide,
    happ _ _, by decide, happ _ _, ?_, ?_⟩
  · split
    · exact fun _ h ↦ absurd h (List.not_mem_nil _)
    · refine List.forall_mem_append.2 ⟨by decide, fun c hc ↦ happ (t.unixNano % 1000000000) 9 c ?_⟩
      exact (List.dropWhile_sublist _).subset (List.mem_reverse.1 hc) |> List.mem_reverse.1
  · split
    · decide
    · simp only [String.data_append, List.forall_mem_append]
      refine ⟨⟨⟨?_, happ _ _⟩, by decide⟩, happ _ _⟩
      split <;> decide

end MarklogicUpgrade

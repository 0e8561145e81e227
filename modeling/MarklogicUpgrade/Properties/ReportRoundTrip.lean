import MarklogicUpgrade.Json.ReadBack
import MarklogicUpgrade.Json.TimeRoundTrip
import MarklogicUpgrade.Handler.PrecheckDecode
import MarklogicUpgrade.Handler.Invariant
import MarklogicUpgrade.Properties.Progress

/-!
# The precheck report read back

`ToJSON` is `json.Marshal` of the report, and `PrecheckResultsFromJSON` is `json.Unmarshal` into
a zero report; the `precheck-results` annotation holds the text in between. The round trip is
proved in two halves that meet at the value tree `objectOf r.members`:

* the scanner reads the text `ToJSON` writes as that tree (`checkValid_members`), member by member
  through `Reads`: strings through their escapes, `int`s through their digits, the results and
  the summary as objects one level deeper;
* the decoder walks the tree into a zero report (`decode_members`): each key names its field
  exactly, a string comes back as itself, an `int` through `ParseInt` anywhere in `int64`, the
  results slice from a fresh backing array, and a time through `parseStrictRFC3339`.

**What comes back.** `ToJSON` succeeds exactly when every timestamp has a year of `0..9999` in its
own zone and a zone whose whole hours are below 24 (`toJSON_ok_iff`). The report then comes back
with every timestamp reparsed, the same wall clock at its offset truncated to whole minutes
(`fromJSON_toJSON`): itself when the offsets are whole minutes, and otherwise a report whose
times are other instants.

**On the object.** Only `updateUpgradeStateWithResults` writes the annotation, and only with a
text `ToJSON` produced; the cleanup keeps it and a user's writes never touch it. So along any
run the annotation is the one the run started from, or a text that reads back as a report
(`run_holdsReport`). Which invocation wrote it follows from `Handler.Keeps`: every handler but
the completion of the prechecks keeps the annotation, so it was last written by an invocation
that found `PrecheckStarted`, was handed a report by the precheck handler and stored
`PrecheckCompleted` (`run_reportFromPrechecks`).
-/

namespace MarklogicUpgrade

open Json

/-! ### Strings, numbers and times -/

/-- `strconv.ParseInt` reads back what `json.Marshal` writes for an `int`, over all of `int64`. -/
theorem parseInt64_toString {n : Int} (h0 : -9223372036854775808 ≤ n)
    (h1 : n ≤ 9223372036854775807) : parseInt64 (toString n) = some n := by
  obtain ⟨hne, hdig, hval, -⟩ := toDigits_decimal n.natAbs
  have hall := List.all_eq_true.2 hdig
  unfold parseInt64
  rw [Scanner.intToString_data]
  by_cases hneg : n < 0
  · rw [if_pos hneg]
    simp only [List.singleton_append, if_true]
    rw [if_pos ⟨hne, hall, by omega, by omega⟩]
    congr 1
    omega
  · rw [if_neg hneg, List.nil_append]
    obtain ⟨c, cs, hcs⟩ := List.exists_cons_of_ne_nil hne
    have hc := isDigit_iff.1 (hdig c (hcs ▸ List.mem_cons_self _ _))
    rw [hcs] at hne hall hval ⊢
    have hminus : c ≠ '-' := fun h ↦ by rw [h] at hc; simp at hc
    have hplus : c ≠ '+' := fun h ↦ by rw [h] at hc; simp at hc
    split
    next neg ds h =>
      split at h
      · exact absurd (List.cons.inj ‹c :: cs = '-' :: _›).1 hminus
      · exact absurd (List.cons.inj ‹c :: cs = '+' :: _›).1 hplus
      · obtain ⟨rfl, rfl⟩ := Prod.mk.inj h
        simp only [Bool.false_eq_true, if_false]
        rw [if_pos ⟨hne, hall, by omega, by omega⟩]
        congr 1
        omega

/-- A digit, a sign, `T`, `:`, `.` or `Z` is written into a JSON string as itself. -/
theorem escapeChar_timeChar {c : Char}
    (h : c.isDigit ∨ c = '-' ∨ c = '+' ∨ c = 'T' ∨ c = ':' ∨ c = '.' ∨ c = 'Z') :
    escapeChar c = c.toString := by
  have hn : 43 ≤ c.toNat ∧ c.toNat ≤ 90 ∧ c.toNat ≠ 60 ∧ c.toNat ≠ 62 := by
    rcases h with h | rfl | rfl | rfl | rfl | rfl | rfl
    · have := isDigit_iff.1 h; omega
    all_goals decide
  simp (disch := omega) only [escapeChar, if_neg]

theorem join_map_toString (cs : List Char) : String.join (cs.map Char.toString) = ⟨cs⟩ := by
  apply String.ext
  simp only [String.data_join, List.map_map, Function.comp_def]
  exact List.flatMap_singleton' cs

/-- The text of a formatted time is written between the quotes unchanged. -/
theorem join_escapeChar_formatRFC3339Nano (t : Time) :
    String.join (t.formatRFC3339Nano.data.map escapeChar) = t.formatRFC3339Nano := by
  rw [List.map_congr_left fun c hc ↦ escapeChar_timeChar (formatRFC3339Nano_char t c hc),
    join_map_toString]

/-! ### What `ToJSON` writes -/

/-- The value the scanner reads back from `quote s`: the text between the quotes as written, and
`s`. -/
def stringValue (s : String) : Value :=
  .string (String.join (s.data.map escapeChar)) s

/-- A member as `json.Marshal` writes it: its key, the JSON text of its value, and the value
the scanner reads back from that text. -/
def stringMember (key s : String) : String × String × Value :=
  (key, quote s, stringValue s)

/-- An `int` member. -/
def intMember (key : String) (n : Int) : String × String × Value :=
  (key, toString n, .number (toString n))

/-- The keys of one result and the strings `ToJSON` writes under them, `details` and
`remediation` left out when empty. -/
def PrecheckResult.strings (r : PrecheckResult) : List (String × String) :=
  [("name", r.name), ("status", r.status), ("message", r.message)] ++
    (if r.details = "" then [] else [("details", r.details)]) ++
    [("timestamp", r.timestamp.formatRFC3339Nano), ("duration", r.duration)] ++
    (if r.remediation = "" then [] else [("remediation", r.remediation)])

/-- The members of one result. -/
def PrecheckResult.members (r : PrecheckResult) : List (String × String × Value) :=
  r.strings.map fun p ↦ stringMember p.1 p.2

/-- The members of the summary. -/
def PrecheckSummary.members (s : PrecheckSummary) : List (String × String × Value) :=
  [intMember "total" s.total, intMember "passed" s.passed, intMember "warnings" s.warnings,
    intMember "failed" s.failed, ("canProceed", toString s.canProceed, .bool s.canProceed)]

/-- The text of an object of members, and the value read back from it. -/
def objectOf (ms : List (String × String × Value)) : String × Value :=
  (object (ms.map fun m ↦ (m.1, m.2.1)), .object (ms.map fun m ↦ (m.1, m.2.2)))

/-- The members of the report. -/
def PrecheckResults.members (r : PrecheckResults) : List (String × String × Value) :=
  [("results", array (r.results.map fun x ↦ (objectOf x.members).1),
      .array (r.results.map fun x ↦ (objectOf x.members).2)),
    ("summary", objectOf r.summary.members),
    stringMember "timestamp" r.timestamp.formatRFC3339Nano,
    stringMember "clusterRef" r.clusterRef]

/-- The timestamps of the report, each of which `ToJSON` has to write. -/
def PrecheckResults.timestamps (r : PrecheckResults) : List Time :=
  r.timestamp :: r.results.map (·.timestamp)

theorem marshalTime_eq_ok {t : Time} (ht : t.Marshalable) :
    marshalTime t = .ok (quote t.formatRFC3339Nano) := by
  rw [marshalTime, marshalJSON_eq_ok_iff.2 ⟨ht, rfl⟩]
  rfl

theorem PrecheckResult.toJSON_eq {r : PrecheckResult} (ht : r.timestamp.Marshalable) :
    r.toJSON = .ok (objectOf r.members).1 := by
  simp only [PrecheckResult.toJSON, marshalTime_eq_ok ht, objectOf, PrecheckResult.members,
    PrecheckResult.strings, List.map_map, List.map_append, List.map_cons, List.map_nil,
    apply_ite (List.map _)]
  rfl

theorem PrecheckSummary.toJSON_eq (s : PrecheckSummary) : s.toJSON = (objectOf s.members).1 :=
  rfl

theorem mapM_toJSON {rs : List PrecheckResult} (h : ∀ x ∈ rs, x.timestamp.Marshalable) :
    rs.mapM PrecheckResult.toJSON = .ok (rs.map fun x ↦ (objectOf x.members).1) := by
  induction rs with
  | nil => rfl
  | cons x xs ih =>
    rw [List.mapM_cons, PrecheckResult.toJSON_eq (h x (List.mem_cons_self _ _)),
      ih fun y hy ↦ h y (List.mem_cons_of_mem _ hy)]
    rfl

theorem PrecheckResults.toJSON_eq {r : PrecheckResults} (h : ∀ t ∈ r.timestamps, t.Marshalable) :
    r.toJSON = .ok (objectOf r.members).1 := by
  have hts : ∀ x ∈ r.results, x.timestamp.Marshalable :=
    fun x hx ↦ h _ (List.mem_cons_of_mem _ (List.mem_map_of_mem _ hx))
  simp only [PrecheckResults.toJSON, mapM_toJSON hts, marshalTime_eq_ok (h _ (List.mem_cons_self _ _))]
  rfl

theorem marshalable_of_marshalTime {t : Time} {s : String} (h : marshalTime t = .ok s) :
    t.Marshalable := by
  unfold marshalTime at h
  cases hm : t.marshalJSON with
  | error e => rw [hm] at h; cases h
  | ok s' => exact (marshalJSON_eq_ok_iff.1 hm).1

theorem marshalable_of_toJSON {x : PrecheckResult} {s : String} (h : x.toJSON = .ok s) :
    x.timestamp.Marshalable := by
  unfold PrecheckResult.toJSON at h
  cases hm : marshalTime x.timestamp with
  | error e => rw [hm] at h; cases h
  | ok s' => exact marshalable_of_marshalTime hm

theorem exists_ok_of_mapM {α β ε : Type} {f : α → Except ε β} :
    ∀ {xs : List α} {ys : List β}, xs.mapM f = .ok ys → ∀ x ∈ xs, ∃ y, f x = .ok y
  | [], _, _, x, hx => absurd hx (List.not_mem_nil x)
  | a :: as, ys, h, x, hx => by
    rw [List.mapM_cons] at h
    cases ha : f a with
    | error e => rw [ha] at h; cases h
    | ok b =>
      cases has : as.mapM f with
      | error e => rw [ha, has] at h; cases h
      | ok bs =>
        rcases List.mem_cons.1 hx with rfl | hx
        · exact ⟨b, ha⟩
        · exact exists_ok_of_mapM has x hx

/-- **`ToJSON` fails exactly on an unwritable timestamp.** -/
theorem PrecheckResults.toJSON_ok_iff (r : PrecheckResults) :
    (∃ json, r.toJSON = .ok json) ↔ ∀ t ∈ r.timestamps, t.Marshalable := by
  refine ⟨fun ⟨json, h⟩ ↦ ?_, fun h ↦ ⟨_, PrecheckResults.toJSON_eq h⟩⟩
  unfold PrecheckResults.toJSON at h
  cases hrs : r.results.mapM PrecheckResult.toJSON with
  | error e => rw [hrs] at h; cases h
  | ok ys =>
    cases ht : marshalTime r.timestamp with
    | error e => rw [hrs] at h; simp only [ht] at h; cases h
    | ok s =>
      intro t ht'
      rcases List.mem_cons.1 ht' with rfl | ht'
      · exact marshalable_of_marshalTime ht
      · obtain ⟨x, hx, rfl⟩ := List.mem_map.1 ht'
        obtain ⟨_, hy⟩ := exists_ok_of_mapM hrs x hx
        exact marshalable_of_toJSON hy

/-! ### Scanning it -/

theorem PrecheckResult.reads_members (x : PrecheckResult) :
    ∀ m ∈ x.members, Scanner.Reads 0 m.2.1.data m.2.2 := by
  simp only [PrecheckResult.members, List.forall_mem_map, stringMember]
  exact fun p _ ↦ Scanner.reads_quote p.2

theorem PrecheckSummary.reads_members (s : PrecheckSummary) :
    ∀ m ∈ s.members, Scanner.Reads 0 m.2.1.data m.2.2 := by
  simp only [PrecheckSummary.members, intMember, List.forall_mem_cons, List.not_mem_nil,
    false_imp_iff, implies_true, and_true]
  exact ⟨Scanner.reads_int _, Scanner.reads_int _, Scanner.reads_int _, Scanner.reads_int _,
    Scanner.reads_bool _⟩

theorem PrecheckResults.reads_members (r : PrecheckResults) :
    ∀ m ∈ r.members, Scanner.Reads 2 m.2.1.data m.2.2 := by
  have hresults := Scanner.reads_array (r.results.map fun x ↦ objectOf x.members)
    (by simpa only [List.forall_mem_map] using
      fun (x : PrecheckResult) _ ↦ Scanner.reads_object x.members x.reads_members)
  rw [List.map_map, List.map_map] at hresults
  simp only [PrecheckResults.members, stringMember, List.forall_mem_cons, List.not_mem_nil,
    false_imp_iff, implies_true, and_true]
  exact ⟨hresults, (Scanner.reads_object _ r.summary.reads_members).mono (by decide),
    (Scanner.reads_quote _).mono (by decide), (Scanner.reads_quote _).mono (by decide)⟩

/-- **The scanner reads the report's text back as the value written.** -/
theorem checkValid_members (r : PrecheckResults) :
    checkValid (objectOf r.members).1.data = .ok (objectOf r.members).2 :=
  checkValid_object r.members r.reads_members (by decide)

/-! ### Reading it back -/

theorem decodeString_stringValue (ctx : ErrorContext) (s x : String) :
    decodeString ctx (stringValue s) x = pure s := rfl

theorem decodeTime_stringValue {t : Time} (ht : t.Marshalable) (ctx : ErrorContext) (x : Time) :
    decodeTime ctx (stringValue t.formatRFC3339Nano) x = pure t.reparsed := by
  simp only [decodeTime, stringValue, Time.unmarshalJSON, join_escapeChar_formatRFC3339Nano,
    parseStrictRFC3339_formatRFC3339Nano ht]
  rfl

/-- The result a report's `ToJSON` wrote, as decoding gives it back. -/
def PrecheckResult.reparsed (r : PrecheckResult) : PrecheckResult :=
  { r with timestamp := r.timestamp.reparsed }

theorem decodePrecheckResult_members {r : PrecheckResult} (ht : r.timestamp.Marshalable)
    (ctx : ErrorContext) :
    decodePrecheckResult ctx (objectOf r.members).2 PrecheckResult.zero = pure r.reparsed := by
  obtain ⟨name, status, message, details, timestamp, duration, remediation⟩ := r
  by_cases hd : details = "" <;> by_cases hr : remediation = "" <;>
  simp only [decodePrecheckResult, decodeStruct, objectOf, PrecheckResult.members,
    PrecheckResult.strings, hd, hr, if_true, if_false, List.map_map, List.map_append, List.map_cons,
    List.map_nil, List.nil_append, List.cons_append, List.foldlM_cons, List.foldlM_nil, lookupField,
    precheckResultFields, List.find?_cons, String.reduceEq, decide_True, decide_False,
    Option.some_orElse, Function.comp_def, stringMember, decodeString_stringValue,
    decodeTime_stringValue ht, pure_bind] <;> rfl

/-- The summary's counts fit an `int`, that is an `int64`. -/
def PrecheckSummary.InInt64 (s : PrecheckSummary) : Prop :=
  ∀ n ∈ [s.total, s.passed, s.warnings, s.failed],
    -9223372036854775808 ≤ n ∧ n ≤ 9223372036854775807

instance : DecidablePred PrecheckSummary.InInt64 := fun _ ↦ List.decidableBAll _ _

theorem decodeInt_toString {n : Int} (h : -9223372036854775808 ≤ n ∧ n ≤ 9223372036854775807)
    (ctx : ErrorContext) (x : Int) : decodeInt ctx (.number (toString n)) x = pure n := by
  simp only [decodeInt, decodeLiteral, parseInt64_toString h.1 h.2]
  rfl

theorem decodeSummary_members {s : PrecheckSummary} (hs : s.InInt64) (ctx : ErrorContext)
    (x : PrecheckSummary) :
    decodeStruct "PrecheckSummary" "handler.PrecheckSummary" precheckSummaryFields ctx
      (objectOf s.members).2 x = pure s := by
  simp only [PrecheckSummary.InInt64, List.mem_cons, List.mem_singleton, forall_eq_or_imp,
    forall_eq, List.not_mem_nil, false_imp_iff, implies_true, and_true] at hs
  obtain ⟨ht, hp, hw, hf⟩ := hs
  simp only [decodeStruct, objectOf, PrecheckSummary.members, intMember, List.map_cons,
    List.map_nil, List.foldlM_cons, List.foldlM_nil, lookupField, precheckSummaryFields,
    List.find?_cons, String.reduceEq, decide_True, decide_False, Option.some_orElse,
    decodeInt_toString ht, decodeInt_toString hp, decodeInt_toString hw, decodeInt_toString hf,
    pure_bind]
  rfl

theorem decodeElems_members {rs : List PrecheckResult} (hrs : ∀ x ∈ rs, x.timestamp.Marshalable)
    (ctx : ErrorContext) :
    decodeElems PrecheckResult.zero decodePrecheckResult ctx
      (rs.map fun x ↦ (objectOf x.members).2) [] = pure (rs.map PrecheckResult.reparsed) := by
  induction rs with
  | nil => rfl
  | cons x xs ih =>
    simp only [List.map_cons, decodeElems, List.headD_nil, List.tail_nil,
      decodePrecheckResult_members (hrs x (List.mem_cons_self _ _)),
      ih fun y hy ↦ hrs y (List.mem_cons_of_mem _ hy), pure_bind]

theorem decodeSlice_members {rs : List PrecheckResult} (hrs : ∀ x ∈ rs, x.timestamp.Marshalable)
    (ctx : ErrorContext) :
    decodeSlice "[]handler.PrecheckResult" PrecheckResult.zero decodePrecheckResult ctx
      (.array (rs.map fun x ↦ (objectOf x.members).2)) [] [] =
      pure (rs.map PrecheckResult.reparsed, []) := by
  cases rs with
  | nil => rfl
  | cons x xs =>
    have hel := decodeElems_members hrs ctx
    simp only [List.map_cons] at hel ⊢
    simp only [decodeSlice, List.nil_append, hel, pure_bind, List.length_cons, List.length_map,
      List.take_succ_cons, List.drop_succ_cons, List.take_of_length_le (List.length_map _ _).le,
      List.drop_of_length_le (List.length_map _ _).le]

/-- The report as decoding gives it back: every timestamp reparsed. -/
def PrecheckResults.reparsed (r : PrecheckResults) : PrecheckResults :=
  { r with results := r.results.map PrecheckResult.reparsed, timestamp := r.timestamp.reparsed }

theorem decode_members {r : PrecheckResults} (h : ∀ t ∈ r.timestamps, t.Marshalable)
    (hs : r.summary.InInt64) :
    decodeStruct "PrecheckResults" "handler.PrecheckResults" precheckResultsFields {}
      (objectOf r.members).2 ⟨PrecheckResults.zero, []⟩ = pure ⟨r.reparsed, []⟩ := by
  have hrs : ∀ x ∈ r.results, x.timestamp.Marshalable :=
    fun x hx ↦ h _ (List.mem_cons_of_mem _ (List.mem_map_of_mem _ hx))
  rw [show (objectOf r.members).2 = .object (r.members.map fun m ↦ (m.1, m.2.2)) from rfl,
    decodeStruct]
  simp only [PrecheckResults.members, stringMember, List.map_cons, PrecheckResults.zero,
    List.map_nil, List.foldlM_cons, List.foldlM_nil, lookupField, precheckResultsFields,
    List.find?_cons, String.reduceEq, decide_True, decide_False, Option.some_orElse,
    decodeSlice_members hrs, decodeSummary_members hs, decodeTime_stringValue (h _ (List.mem_cons_self _ _)),
    decodeString_stringValue, pure_bind]
  rfl

/-! ### The round trip -/

/-- **Read back from the text `ToJSON` writes, a report is itself with every timestamp
reparsed.** -/
theorem precheckResultsFromJSON_members {r : PrecheckResults}
    (h : ∀ t ∈ r.timestamps, t.Marshalable) (hs : r.summary.InInt64) :
    precheckResultsFromJSON (objectOf r.members).1 = .ok r.reparsed := by
  simp only [precheckResultsFromJSON, checkValid_members, decode_members h hs]
  rfl

/-- Whatever `ToJSON` writes, `PrecheckResultsFromJSON` reads back as the report with every
timestamp at its offset truncated to whole minutes. -/
theorem fromJSON_toJSON {r : PrecheckResults} (hs : r.summary.InInt64) {json : String}
    (h : r.toJSON = .ok json) : precheckResultsFromJSON json = .ok r.reparsed := by
  have ht := r.toJSON_ok_iff.1 ⟨json, h⟩
  rw [PrecheckResults.toJSON_eq ht, Except.ok.injEq] at h
  subst h
  exact precheckResultsFromJSON_members ht hs

theorem PrecheckResults.reparsed_eq_self {r : PrecheckResults}
    (h : ∀ t ∈ r.timestamps, t.offset % 60 = 0) : r.reparsed = r := by
  have hres : r.results.map PrecheckResult.reparsed = r.results := by
    conv_rhs => rw [← List.map_id r.results]
    refine List.map_congr_left fun x hx ↦ ?_
    rw [PrecheckResult.reparsed,
      (reparsed_eq_self_iff _).2 (h _ (List.mem_cons_of_mem _ (List.mem_map_of_mem _ hx)))]
    rfl
  rw [PrecheckResults.reparsed, hres, (reparsed_eq_self_iff _).2 (h _ (List.mem_cons_self _ _))]

/-- **The report round-trips**, for timestamps in years `0..9999` of their own zone whose zone
offsets are whole minutes under a day, and summary counts that fit an `int`. -/
theorem precheckResults_roundTrip (r : PrecheckResults) (hs : r.summary.InInt64)
    (ht : ∀ t ∈ r.timestamps,
      0 ≤ t.year ∧ t.year ≤ 9999 ∧ t.offset % 60 = 0 ∧ t.offset.natAbs < 86400) :
    ∃ json, r.toJSON = .ok json ∧ precheckResultsFromJSON json = .ok r := by
  have hm : ∀ t ∈ r.timestamps, t.Marshalable := fun t htr ↦ by
    obtain ⟨h0, h1, -, h2⟩ := ht t htr
    refine ⟨h0, by omega, .inr ?_⟩
    rw [Int.natAbs_tdiv]
    show t.offset.natAbs / 60 / 60 < 24
    omega
  refine ⟨_, PrecheckResults.toJSON_eq hm, ?_⟩
  rw [precheckResultsFromJSON_members hm hs,
    PrecheckResults.reparsed_eq_self fun t htr ↦ (ht t htr).2.2.1]

/-- 2023-11-14T23:13:20 on a clock an hour east of UTC. -/
def anHourEast : Time := ⟨1700000000000000000, 3600⟩

theorem precheckResults_roundTrip_handler :
    (PrecheckHandler.generateMockPrecheckResults anHourEast deployedCluster false).summary.InInt64 ∧
      (∀ t ∈ (PrecheckHandler.generateMockPrecheckResults anHourEast deployedCluster false).timestamps,
        0 ≤ t.year ∧ t.year ≤ 9999 ∧ t.offset % 60 = 0 ∧ t.offset.natAbs < 86400) ∧
      ∃ json, (PrecheckHandler.generateMockPrecheckResults anHourEast deployedCluster false).toJSON =
          .ok json ∧ precheckResultsFromJSON json =
          .ok (PrecheckHandler.generateMockPrecheckResults anHourEast deployedCluster false) :=
  ⟨by decide, by decide, precheckResults_roundTrip _ (by decide) (by decide)⟩

/-- The instant of `anHourEast` on a clock 30 seconds east of UTC. -/
def thirtySecondsEast : Time := ⟨1700000000000000000, 30⟩

/-- The instant of `anHourEast` on a clock a day east of UTC. -/
def aDayEast : Time := ⟨1700000000000000000, 86400⟩

/-- Years in range are not enough. The handler's report stamped 30 seconds east of UTC is written,
and read back 30 seconds later; stamped a day east of UTC, it is not written at all. -/
theorem subMinuteOffset_shiftsInstant :
    (∀ t ∈ (PrecheckHandler.generateMockPrecheckResults thirtySecondsEast deployedCluster
        false).timestamps, 0 ≤ t.year ∧ t.year ≤ 9999) ∧
      (∃ json, (PrecheckHandler.generateMockPrecheckResults thirtySecondsEast deployedCluster
          false).toJSON = .ok json ∧
        ∀ r, precheckResultsFromJSON json = .ok r →
          r.timestamp.unixNano = thirtySecondsEast.unixNano + 30000000000) ∧
      (∀ t ∈ (PrecheckHandler.generateMockPrecheckResults aDayEast deployedCluster false).timestamps,
        0 ≤ t.year ∧ t.year ≤ 9999) ∧
      (PrecheckHandler.generateMockPrecheckResults aDayEast deployedCluster false).toJSON =
        .error ("json: error calling MarshalJSON for type time.Time: " ++
          "Time.MarshalJSON: timezone hour outside of range [0,23]") := by
  refine ⟨by decide, ⟨_, PrecheckResults.toJSON_eq (by decide), fun r h ↦ ?_⟩, by decide, by decide⟩
  rw [precheckResultsFromJSON_members (by decide) (by decide), Except.ok.injEq] at h
  rw [← h]
  decide

/-! ### The report on the object -/

section OnTheObject

open UpgradeHandler

/-- The report annotation holds a text `ToJSON` wrote for some report. -/
def HoldsReport (a : Annotations) : Prop :=
  ∃ (r : PrecheckResults) (json : String), r.toJSON = .ok json ∧
    a.get? .precheckResults = some json

/-- A user never writes the report annotation. -/
theorem UserWrite.precheckResults_apply (w : UserWrite) (s : MarklogicCluster) :
    (w.apply s).annotations.get? .precheckResults = s.annotations.get? .precheckResults := by
  cases w with
  | annotate k v =>
    simp [UserWrite.apply, Annotations.get?_set, (IntentKey.key_ne_precheckResults k).symm]
  | setImage image => rfl

/-- The state edit with a report stores that report's encoding, or keeps the annotation when
`ToJSON` fails. -/
theorem stateEdits_report (now : Time) (x : UpgradeState) (r : PrecheckResults)
    (cluster : MarklogicCluster) :
    (stateEdits now x (some r) cluster).annotations.get? .precheckResults =
        cluster.annotations.get? .precheckResults ∨
      ∃ json, r.toJSON = .ok json ∧
        (stateEdits now x (some r) cluster).annotations.get? .precheckResults = some json := by
  rcases h : r.toJSON with err | json
  · exact .inl (by simp [stateEdits, h])
  · exact .inr ⟨json, rfl, by simp [stateEdits, h]⟩

/-- One invocation keeps the report annotation, or it found `PrecheckStarted` without a
cancellation, the prechecks answered a report that encodes, and it stored `PrecheckCompleted`
with that encoding. -/
theorem reconcile_precheckResults (env : Env) (s : MarklogicCluster) :
    (reconcile env s).1.stored.annotations.get? .precheckResults =
        s.annotations.get? .precheckResults ∨
      phase s = some .precheckStart ∧ s.annotations.get .cancelUpgrade ≠ "true" ∧
        ∃ r json, (env.collaborators.checkPrecheckStatus s).2 = .ok (some r) ∧
          r.toJSON = .ok json ∧ phase (reconcile env s).1.stored = some .precheckDone ∧
          (reconcile env s).1.stored.annotations.get? .precheckResults = some json := by
  by_cases h : phase s = some .precheckStart ∧ s.annotations.get .cancelUpgrade ≠ "true"
  · obtain ⟨hp, hcancel⟩ := h
    have hp' : UpgradeState.parse (currentState s.annotations) = some .precheckStart := hp
    rw [reconcile_fst_of_ne_idle (by rw [hp]; decide) hcancel]
    simp only [dispatch, hp']
    rcases handlePrecheckStartState_report env.collaborators env.now _ s.annotations
      ⟨s, s, env.writes, []⟩ rfl rfl with h | ⟨r, hr, h⟩
    · exact .inl h
    · rw [h]
      rcases stateEdits_report env.now .precheckDone r s with h' | ⟨json, hj, h'⟩
      · exact .inl h'
      · exact .inr ⟨hp, hcancel, r, json, hr, hj,
          (phase_of_annotations h).trans (phase_stateEdits ..), h'⟩
  · rw [reconcile_fst]
    exact .inl (handleUpgradeWorkflow_report env.collaborators env.now _ ⟨s, s, env.writes, []⟩
      (fun hp ↦ not_not.1 fun hc ↦ h ⟨hp, hc⟩) rfl rfl)

/-- One step of a run keeps the report annotation, or stores a text `ToJSON` wrote. -/
theorem Action.precheckResults (a : Action) (s : MarklogicCluster) :
    (a.apply s).annotations.get? .precheckResults = s.annotations.get? .precheckResults ∨
      HoldsReport (a.apply s).annotations := by
  cases a with
  | reconcile env =>
    rcases reconcile_precheckResults env s with h | ⟨-, -, r, json, -, hj, -, h⟩
    exacts [.inl h, .inr ⟨r, json, hj, h⟩]
  | user w => exact .inl (UserWrite.precheckResults_apply w s)

/-- **The report annotation is only ever an encoded report.** Along any run, the
`precheck-results` annotation is the one the run started from, or a text `ToJSON` wrote for a
report, which `PrecheckResultsFromJSON` reads back as that report with every timestamp reparsed
when its counts fit an `int`; no step deletes it. -/
theorem run_holdsReport (s : MarklogicCluster) (as : List Action) :
    (run s as).annotations.get? .precheckResults = s.annotations.get? .precheckResults ∨
      ∃ (r : PrecheckResults) (json : String), r.toJSON = .ok json ∧
        (run s as).annotations.get? .precheckResults = some json ∧
        (r.summary.InInt64 → precheckResultsFromJSON json = .ok r.reparsed) := by
  suffices h : (run s as).annotations.get? .precheckResults =
      s.annotations.get? .precheckResults ∨ HoldsReport (run s as).annotations by
    rcases h with h | ⟨r, json, hr, hj⟩
    · exact .inl h
    · exact .inr ⟨r, json, hr, hj, fun hs ↦ fromJSON_toJSON hs hr⟩
  induction as generalizing s with
  | nil => exact .inl rfl
  | cons a as ih =>
    rcases ih (a.apply s) with h | h
    · rcases Action.precheckResults a s with h' | h'
      · exact .inl (h.trans h')
      · exact .inr (by obtain ⟨r, json, hr, hj⟩ := h'; exact ⟨r, json, hr, h.trans hj⟩)
    · exact .inr h

/-- **The report comes from the prechecks of the attempt.** Along any run, the
`precheck-results` annotation is the one the run started from, or it was last written by an
invocation that found `PrecheckStarted` with no cancellation pending, in which the precheck
handler answered a report whose `ToJSON` succeeded: that invocation stored `PrecheckCompleted`,
and the annotation holds exactly that encoding. No other invocation, and no user write, changes
it. -/
theorem run_reportFromPrechecks (s : MarklogicCluster) (as : List Action) :
    (run s as).annotations.get? .precheckResults = s.annotations.get? .precheckResults ∨
      ∃ pre env post, as = pre ++ .reconcile env :: post ∧
        phase (run s pre) = some .precheckStart ∧
        (run s pre).annotations.get .cancelUpgrade ≠ "true" ∧
        ∃ r json, (env.collaborators.checkPrecheckStatus (run s pre)).2 = .ok (some r) ∧
          r.toJSON = .ok json ∧
          phase (reconcile env (run s pre)).1.stored = some .precheckDone ∧
          (run s as).annotations.get? .precheckResults = some json := by
  induction as generalizing s with
  | nil => exact .inl rfl
  | cons a as ih =>
    rcases ih (a.apply s) with h | ⟨pre, env, post, rfl, h⟩
    · cases a with
      | reconcile env =>
        rcases reconcile_precheckResults env s with h' | ⟨hp, hc, r, json, hr, hj, hd, h'⟩
        · exact .inl (h.trans h')
        · exact .inr ⟨[], env, as, rfl, hp, hc, r, json, hr, hj, hd, h.trans h'⟩
      | user w => exact .inl (h.trans (UserWrite.precheckResults_apply w s))
    · exact .inr ⟨a :: pre, env, post, rfl, h⟩

end OnTheObject

end MarklogicUpgrade

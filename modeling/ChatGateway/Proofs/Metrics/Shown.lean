import ChatGateway.Metrics.Exposition
import ChatGateway.Proofs.Metrics.Accounts
import ChatGateway.Proofs.Text.Numeral

/-!
# What the text of the measurements shows

Who reads the text of the measurements looks at its lines, and finds a series by what a line starts
with. The text of an account has exactly one line for each outcome that was seen, which ends in its
count, and exactly one that ends in the number of durations, unless there is none. Neither the
recorder nor the remark that there is none adds to these lines.
-/

namespace ChatGateway.Metrics

/-! ## Lines -/

/-- The lines of a text: what stands before, between and behind its line feeds. -/
def linesOf (text : String) : List String := (text.toList.splitOn '\n').map String.ofList

/-- Whether a line starts in a given way. -/
def startsWith (start line : String) : Bool := start.toList.isPrefixOf line.toList

/-- The lines of a text that start in a given way. -/
def linesWith (start text : String) : List String := (linesOf text).filter (startsWith start)

/-- Lines without line feeds, each with one at its end, are read back. -/
theorem linesOf_join {lines : List String} (whole : ∀ line ∈ lines, '\n' ∉ line.toList) :
    linesOf (String.join (lines.map (· ++ "\n"))) = lines ++ [""] := by
  rw [linesOf, String.toList_join, List.flatMap_map, List.splitOn]
  induction lines with
  | nil => rfl
  | cons line lines ih =>
    rw [List.forall_mem_cons] at whole
    have inside : ∀ c ∈ line.toList, (c == '\n') = false := fun c member => by
      rw [beq_eq_false_iff_ne]
      rintro rfl
      exact whole.1 member
    rw [List.flatMap_cons, String.toList_append, List.append_assoc]
    change (List.splitOnP _ (line.toList ++ '\n' :: lines.flatMap _)).map _ = _
    rw [List.splitOnP_append_cons_of_forall_mem inside _ rfl, List.map_cons, ih whole.2,
      String.ofList_toList]
    rfl

/-! ## What stands on one line -/

/-- A digit is no line feed. -/
theorem ne_lineFeed_of_isDigit {c : Char} (h : c.isDigit = true) : c ≠ '\n' := by
  rintro rfl
  exact nomatch h

/-- The numeral of a number stands on one line. -/
theorem lineFeed_notMem_decimal (n : Nat) : '\n' ∉ (Text.decimal n).toList := by
  rw [Text.decimal, String.toList_ofList]
  exact fun member => ne_lineFeed_of_isDigit (Text.isDigit_of_mem _ member) rfl

/-- Digits around a point stand on one line. -/
theorem lineFeed_notMem_positionalText (keepsPoint : Bool) (d : Decimal.Digits) :
    '\n' ∉ Decimal.positionalText keepsPoint d := by
  have digits : '\n' ∉ Nat.toDigits 10 d.value :=
    fun member => ne_lineFeed_of_isDigit (Text.isDigit_of_mem _ member) rfl
  have zeros (n : Nat) : '\n' ∉ Decimal.zeros n := by simp [Decimal.zeros]
  have front (n : Nat) : '\n' ∉ (Nat.toDigits 10 d.value).take n :=
    fun member => digits (List.mem_of_mem_take member)
  have back (n : Nat) : '\n' ∉ (Nat.toDigits 10 d.value).drop n :=
    fun member => digits (List.mem_of_mem_drop member)
  unfold Decimal.positionalText
  split
  · cases keepsPoint <;> simp [digits, zeros]
  · simp only []
    split <;> simp [digits, zeros, front, back]

/-- A plain decimal stands on one line. -/
theorem lineFeed_notMem_write (x : Float) : '\n' ∉ (Decimal.plain.write x).toList := by
  have sign (negative : Prop) [Decidable negative] :
      '\n' ∉ (if negative then "" else "-").toList := by split <;> decide
  unfold Decimal.Format.write
  simp only []
  split
  · decide
  · split
    · simp [sign]
    · split
      · simp [sign, Decimal.plain]
      · simp [sign, Decimal.plain, Decimal.Format.digits, lineFeed_notMem_positionalText]

/-- A label stands on one line, whatever its value is. -/
theorem lineFeed_notMem_labelText {label : String × String} (h : '\n' ∉ label.1.toList) :
    '\n' ∉ (labelText label).toList := by
  have chars (c : Char) : '\n' ∉ labelChar c := by
    unfold labelChar
    repeat' split
    all_goals simp_all [eq_comm]
  simp [labelText, h, chars]

/-- Texts that stand on one line do so with commas between them. -/
theorem lineFeed_notMem_intercalate {texts : List String} (h : ∀ text ∈ texts, '\n' ∉ text.toList) :
    '\n' ∉ (",".intercalate texts).toList := by
  induction texts with
  | nil => simp
  | cons text texts ih =>
    rw [List.forall_mem_cons] at h
    cases texts with
    | nil => simpa using h.1
    | cons next rest =>
      simp only [String.intercalate_cons_cons, String.toList_append, List.mem_append, not_or]
      exact ⟨⟨h.1, by decide⟩, ih h.2⟩

/-! ## Samples -/

/-- The value of a label as it is written: backslashes, quotes and line feeds are escaped. -/
def escaped (value : String) : String :=
  String.ofList (value.toList.flatMap fun
    | '\\' => ['\\', '\\']
    | '"' => ['\\', '"']
    | '\n' => ['\\', 'n']
    | c => [c])

/-- The line that tells how often a responder gave an outcome. -/
def outcomeSample (responder outcome : String) (n : Nat) : String :=
  "chatbot_predictions_total\x7boutcome=\"" ++ escaped outcome ++ "\",responder=\"" ++
    escaped responder ++ "\"\x7d " ++ toString n

/-- The line that tells how many durations were observed for a responder. -/
def observationsSample (responder : String) (n : Nat) : String :=
  "chatbot_responder_latency_seconds_count\x7bresponder=\"" ++ escaped responder ++ "\"\x7d " ++
    toString n

/-- A label is written as its name and its value, with escapes, between quotes. -/
theorem labelText_eq (label : String × String) :
    labelText label = label.1 ++ "=\"" ++ escaped label.2 ++ "\"" := by
  have chars : labelChar = fun
      | '\\' => ['\\', '\\']
      | '"' => ['\\', '"']
      | '\n' => ['\\', 'n']
      | c => [c] := by
    funext c
    unfold labelChar
    repeat' split
    all_goals simp_all
  rw [labelText, chars]
  rfl

/-- The line of an outcome is its sample. -/
theorem predictionLine_eq (responder outcome : String) (n : Nat) :
    predictionLine (⟨responder, outcome⟩, n) = outcomeSample responder outcome n := by
  have first : "chatbot_predictions_total\x7boutcome=\"" =
      "chatbot_predictions_total" ++ "\x7b" ++ "outcome" ++ "=\"" := by decide
  have second : "\",responder=\"" = "\"" ++ "," ++ "responder" ++ "=\"" := by decide
  have last : "\"\x7d " = "\"" ++ "\x7d " := by decide
  have numeral : Text.decimal n = toString n := rfl
  unfold predictionLine sampleLine outcomeSample predictionsName
  rw [first, second, last, numeral]
  simp only [List.map_cons, List.map_nil, labelText_eq, String.intercalate_cons_cons,
    String.intercalate_singleton, String.append_assoc]

/-- The last line of the durations of a responder is its sample. -/
theorem countLine_eq (responder : String) (n : Nat) :
    countLine responder n = observationsSample responder n := by
  have first : "chatbot_responder_latency_seconds_count\x7bresponder=\"" =
      "chatbot_responder_latency_seconds" ++ "_count" ++ "\x7b" ++ "responder" ++ "=\"" := by decide
  have last : "\"\x7d " = "\"" ++ "\x7d " := by decide
  have numeral : Text.decimal n = toString n := rfl
  unfold countLine sampleLine observationsSample latencyName
  rw [first, last, numeral]
  simp only [List.map_cons, List.map_nil, labelText_eq, String.intercalate_singleton,
    String.append_assoc]

/-! ## How lines start -/

/-- A line starts in a way in which its front starts. -/
theorem startsWith_append {start front : String} (h : startsWith start front = true) (rest : String) :
    startsWith start (front ++ rest) = true := by
  unfold startsWith at h ⊢
  rw [List.isPrefixOf_iff_prefix] at h ⊢
  rw [String.toList_append]
  exact h.trans (List.prefix_append _ _)

/-- Whether two texts differ at a place that both have. -/
def differ (text other : String) : Bool := !startsWith text other && !startsWith other text

/-- A line does not start in a way that differs from its front. -/
theorem startsWith_append_of_differ {start front : String} (h : differ start front = true)
    (rest : String) : startsWith start (front ++ rest) = false := by
  simp only [differ, Bool.and_eq_true, Bool.not_eq_true'] at h
  unfold startsWith at h ⊢
  simp only [← Bool.not_eq_true, List.isPrefixOf_iff_prefix] at h ⊢
  rw [String.toList_append]
  exact fun starts =>
    (List.prefix_or_prefix_of_prefix starts (List.prefix_append _ _)).elim h.1 h.2

/-- The name of a series of the service starts a line only if the line starts as all its names do. -/
theorem startsWith_of_foreign {start line : String} (own : ownPrefix.isPrefixOf start.toList = true)
    (foreign : ownPrefix.isPrefixOf line.toList = false) : startsWith start line = false := by
  rw [List.isPrefixOf_iff_prefix] at own
  unfold startsWith
  rw [← Bool.not_eq_true, List.isPrefixOf_iff_prefix] at foreign ⊢
  exact fun starts => foreign (own.trans starts)

/-- The name of the outcomes is one of the service's own. -/
theorem own_outcomes : ownPrefix.isPrefixOf "chatbot_predictions_total".toList = true := by decide

/-- The name of the numbers of durations is one of the service's own. -/
theorem own_observations :
    ownPrefix.isPrefixOf "chatbot_responder_latency_seconds_count".toList = true := by decide

/-- The lines of help and of the type are no samples. -/
theorem filter_family {start : String} (own : ownPrefix.isPrefixOf start.toList = true)
    (name help type : String) (samples : List String) :
    (family name help type samples).filter (startsWith start) = samples.filter (startsWith start) := by
  have remark (word text : String) (sharp : word.toList.head? = some '#') :
      startsWith start (word ++ text) = false := by
    refine startsWith_of_foreign own ?_
    rw [String.toList_append]
    cases chars : word.toList with
    | nil => simp [chars] at sharp
    | cons c rest =>
      rw [chars, List.head?_cons, Option.some.injEq] at sharp
      subst sharp
      rfl
  unfold family
  split
  · rename_i empty
    rw [List.isEmpty_iff.mp empty]
  · simp only [String.append_assoc]
    rw [List.filter_cons_of_neg (by simp [remark "# HELP " _ rfl]),
      List.filter_cons_of_neg (by simp [remark "# TYPE " _ rfl])]

/-- A line is a sample of a series, with labels and a value that stand on one line. -/
structure IsSample (name line : String) : Prop where
  written : ∃ labels value, line = sampleLine name labels value ∧
    (∀ label ∈ labels, '\n' ∉ label.1.toList) ∧ '\n' ∉ value.toList

namespace IsSample

variable {start name line : String}

/-- A sample stands on one line, as the name of its series does. -/
theorem lineFeed_notMem (h : IsSample name line) (own : '\n' ∉ name.toList) : '\n' ∉ line.toList := by
  obtain ⟨labels, value, rfl, plain, last⟩ := h
  have inner : '\n' ∉ (",".intercalate (labels.map labelText)).toList := by
    refine lineFeed_notMem_intercalate fun text member => ?_
    obtain ⟨label, listed, rfl⟩ := List.mem_map.mp member
    exact lineFeed_notMem_labelText (plain label listed)
  unfold sampleLine
  simp only [String.toList_append, List.mem_append, not_or]
  exact ⟨⟨⟨⟨own, by decide⟩, inner⟩, by decide⟩, last⟩

/-- A sample starts as the name of its series does. -/
theorem startsWith (h : IsSample name line) (named : startsWith start name = true) :
    startsWith start line = true := by
  obtain ⟨labels, value, rfl, -⟩ := h
  unfold sampleLine
  simp only [String.append_assoc]
  exact startsWith_append named _

/-- A sample does not start in a way that differs from the name of its series. -/
theorem startsWith_of_differ (h : IsSample name line) (other : differ start name = true) :
    Metrics.startsWith start line = false := by
  obtain ⟨labels, value, rfl, -⟩ := h
  unfold sampleLine
  simp only [String.append_assoc]
  exact startsWith_append_of_differ other _

end IsSample

/-- The line of an outcome is a sample of the outcomes. -/
theorem isSample_predictionLine (entry : Prediction × Nat) :
    IsSample predictionsName (predictionLine entry) :=
  ⟨_, _, rfl, by simp, lineFeed_notMem_decimal _⟩

/-- The line of the number of durations is a sample of these numbers. -/
theorem isSample_countLine (responder : String) (n : Nat) :
    IsSample (latencyName ++ "_count") (countLine responder n) :=
  ⟨_, _, rfl, by simp, lineFeed_notMem_decimal n⟩

/-- The lines of the durations of a responder are samples of the bounds and of the sum, and then the
line that tells their number. -/
theorem exists_latencyLines (responder : String) (durations : Durations) :
    ∃ before, latencyLines (responder, durations) = before ++ [countLine responder durations.count] ∧
      ∀ line ∈ before, IsSample (latencyName ++ "_bucket") line ∨ IsSample (latencyName ++ "_sum") line := by
  have bound (text : String) (n : Nat) :
      IsSample (latencyName ++ "_bucket") (boundLine responder text n) :=
    ⟨_, _, rfl, by simp, lineFeed_notMem_decimal n⟩
  have sum : IsSample (latencyName ++ "_sum") (sumLine responder durations.sum) :=
    ⟨_, _, rfl, by simp, lineFeed_notMem_write _⟩
  refine ⟨(bucketBounds.map Decimal.plain.write).zipWith (boundLine responder)
      (upToEach 0 durations.buckets) ++
    [boundLine responder "+Inf" durations.count, sumLine responder durations.sum],
    by simp [latencyLines], fun line member => ?_⟩
  rcases List.mem_append.mp member with early | late
  · rw [← List.map_uncurry_zip_eq_zipWith] at early
    obtain ⟨⟨text, n⟩, -, rfl⟩ := List.mem_map.mp early
    exact .inl (bound text n)
  · simp only [List.mem_cons, List.not_mem_nil, or_false] at late
    rcases late with rfl | rfl
    · exact .inl (bound _ _)
    · exact .inr sum

/-- The lines of the durations of a responder stand on one line each. -/
theorem lineFeed_notMem_latencyLines (entry : String × Durations) :
    ∀ line ∈ latencyLines entry, '\n' ∉ line.toList := by
  obtain ⟨before, written, samples⟩ := exists_latencyLines entry.1 entry.2
  intro line member
  rw [show latencyLines entry = _ from written] at member
  rcases List.mem_append.mp member with early | last
  · rcases samples line early with bound | sum
    · exact bound.lineFeed_notMem (by decide)
    · exact sum.lineFeed_notMem (by decide)
  · rw [List.mem_singleton.mp last]
    exact (isSample_countLine _ _).lineFeed_notMem (by decide)

/-- Only the number of durations starts as it does. -/
theorem filter_latencyLines {start : String} (bound : differ start (latencyName ++ "_bucket") = true)
    (sum : differ start (latencyName ++ "_sum") = true) (entry : String × Durations) :
    (latencyLines entry).filter (startsWith start) =
      [countLine entry.1 entry.2.count].filter (startsWith start) := by
  obtain ⟨before, written, samples⟩ := exists_latencyLines entry.1 entry.2
  have early : before.filter (startsWith start) = [] := by
    refine List.filter_eq_nil_iff.mpr fun line member => Bool.not_eq_true _ ▸ ?_
    exact (samples line member).elim (·.startsWith_of_differ bound) (·.startsWith_of_differ sum)
  rw [show latencyLines entry = _ from written, List.filter_append, early, List.nil_append]

/-- The lines of a family stand on one line each if its samples do. -/
theorem lineFeed_notMem_family {name help type : String} {samples : List String}
    (own : '\n' ∉ (name ++ help ++ type).toList) (h : ∀ line ∈ samples, '\n' ∉ line.toList) :
    ∀ line ∈ family name help type samples, '\n' ∉ line.toList := by
  unfold family
  split
  · exact nofun
  · simp only [String.toList_append, List.mem_append, not_or] at own
    refine List.forall_mem_cons.mpr ⟨?_, List.forall_mem_cons.mpr ⟨?_, h⟩⟩
    · simp [own.1.1, own.1.2]
    · simp [own.1.1, own.2]

namespace Registry

/-- The lines of a registry stand on one line each. -/
theorem lineFeed_notMem_lines (registry : Registry) :
    ∀ line ∈ registry.lines, '\n' ∉ line.toList := by
  intro line member
  rcases List.mem_append.mp member with outcome | duration
  · refine lineFeed_notMem_family (by decide) (fun line listed => ?_) line outcome
    obtain ⟨entry, -, rfl⟩ := List.mem_map.mp listed
    exact (isSample_predictionLine entry).lineFeed_notMem (by decide)
  · refine lineFeed_notMem_family (by decide) (fun line listed => ?_) line duration
    obtain ⟨entry, -, inside⟩ := List.mem_flatMap.mp listed
    exact lineFeed_notMem_latencyLines entry line inside

/-- A text shows of a registry how often a responder gave each outcome and how many durations were
observed for it, each on a line of its own, and shows no other outcome and no other number of
durations. -/
structure ShownIn (registry : Registry) (name text : String) : Prop where
  outcomes : (linesWith "chatbot_predictions_total" text).Perm
    ((outcomeLabels.filter fun label => 0 < registry.predictions.count ⟨name, label⟩).map
      fun label => outcomeSample name label (registry.predictions.count ⟨name, label⟩))
  observations : linesWith "chatbot_responder_latency_seconds_count" text =
    if observedFor name registry.latencies = 0 then []
    else [observationsSample name (observedFor name registry.latencies)]

/-- Of the lines of a registry those of outcomes start with their name. -/
theorem filter_outcomes (registry : Registry) :
    registry.lines.filter (startsWith "chatbot_predictions_total") =
      (registry.predictions.entries.mergeSort predictionBefore).map predictionLine := by
  have none (entry : String × Durations) :
      (latencyLines entry).filter (startsWith "chatbot_predictions_total") = [] := by
    rw [filter_latencyLines (by decide) (by decide), List.filter_singleton,
      (isSample_countLine _ _).startsWith_of_differ (by decide)]
    rfl
  rw [lines, List.filter_append, filter_family own_outcomes, filter_family own_outcomes,
    List.filter_flatMap, funext none, List.flatMap_eq_nil_iff.mpr fun _ _ => rfl, List.append_nil]
  refine List.filter_eq_self.mpr fun line member => ?_
  obtain ⟨entry, -, rfl⟩ := List.mem_map.mp member
  exact (isSample_predictionLine entry).startsWith (by decide)

/-- Of the lines of a registry those of numbers of durations start with their name. -/
theorem filter_observations (registry : Registry) :
    registry.lines.filter (startsWith "chatbot_responder_latency_seconds_count") =
      (registry.latencies.mergeSort fun a b => !(b.1 < a.1)).map fun entry =>
        observationsSample entry.1 entry.2.count := by
  have outcomes : ((registry.predictions.entries.mergeSort predictionBefore).map predictionLine).filter
      (startsWith "chatbot_responder_latency_seconds_count") = [] := by
    refine List.filter_eq_nil_iff.mpr fun line member => Bool.not_eq_true _ ▸ ?_
    obtain ⟨entry, -, rfl⟩ := List.mem_map.mp member
    exact (isSample_predictionLine entry).startsWith_of_differ (by decide)
  have last (entry : String × Durations) :
      (latencyLines entry).filter (startsWith "chatbot_responder_latency_seconds_count") =
        [observationsSample entry.1 entry.2.count] := by
    rw [filter_latencyLines (by decide) (by decide), List.filter_singleton,
      (isSample_countLine _ _).startsWith (by decide), countLine_eq]
    rfl
  rw [lines, List.filter_append, filter_family own_observations, filter_family own_observations,
    outcomes, List.filter_flatMap, funext last, List.nil_append, List.map_eq_flatMap]

end Registry

namespace Measurements

variable {m : Measurements} {registry : Registry}

/-- The lines of the text of measurements are those that show the requests and those that show the
questions. -/
theorem linesOf_text (m : Measurements) : linesOf m.text = m.requestLines ++ m.questionLines ++ [""] := by
  refine linesOf_join fun line member => ?_
  rcases List.mem_append.mp member with request | question
  · unfold requestLines at request
    cases known : m.recorder with
    | none =>
      rw [known] at request
      rw [List.mem_singleton.mp request]
      decide
    | some recorder =>
      rw [known] at request
      exact (recorder.apart _ _ line request).1
  · unfold questionLines at question
    cases known : m.registry with
    | none => simp [known] at question
    | some registry =>
      rw [known] at question
      exact registry.lineFeed_notMem_lines line question

/-- A series of the service itself is shown by the lines of the registry alone. -/
theorem linesWith_text {start : String} (own : ownPrefix.isPrefixOf start.toList = true)
    (known : m.registry = some registry) :
    linesWith start m.text = registry.lines.filter (startsWith start) := by
  have requests : m.requestLines.filter (startsWith start) = [] := by
    refine List.filter_eq_nil_iff.mpr fun line member => Bool.not_eq_true _ ▸ ?_
    refine startsWith_of_foreign own ?_
    unfold requestLines at member
    cases installed : m.recorder with
    | none =>
      rw [installed] at member
      rw [List.mem_singleton.mp member]
      decide
    | some recorder =>
      rw [installed] at member
      exact (recorder.apart _ _ line member).2
  have empty : startsWith start "" = false := startsWith_of_foreign own rfl
  have questions : m.questionLines = registry.lines := by rw [questionLines, known]; rfl
  rw [linesWith, linesOf_text, List.filter_append, List.filter_append, requests, questions,
    List.nil_append, List.filter_singleton, empty]
  exact List.append_nil _

end Measurements

/-- The text of measurements shows an account of a responder. -/
theorem Registry.Accounts.shownIn_text {name : String} {results : List (Except ResponderFault String)}
    {m : Measurements} {registry : Registry} (h : registry.Accounts name results)
    (known : m.registry = some registry) : registry.ShownIn name m.text := by
  constructor
  case outcomes =>
    rw [Measurements.linesWith_text own_outcomes known, Registry.filter_outcomes]
    have sorted := ((List.mergeSort_perm registry.predictions.entries predictionBefore).trans
      h.entries_perm).map predictionLine
    rw [List.map_map] at sorted
    simpa only [Function.comp_def, predictionLine_eq] using sorted
  case observations =>
    rw [Measurements.linesWith_text own_observations known, Registry.filter_observations]
    rcases h.timed with ⟨rfl, untimed⟩ | ⟨durations, timed, observed, some⟩
    · simp [untimed, Metrics.observedFor]
    · have counted : Metrics.observedFor name registry.latencies = durations.count := by
        simp [timed, Metrics.observedFor]
      have positive : durations.count ≠ 0 := by
        rw [observed, ne_eq, List.length_eq_zero_iff]
        exact some
      rw [counted, if_neg positive, timed]
      simp

end ChatGateway.Metrics

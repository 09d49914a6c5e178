import MetricPipeline.Proofs.Binary64.WholeSum
import MetricPipeline.Proofs.Checks
import MetricPipeline.Proofs.Limit
import MetricPipeline.Proofs.Timer

/-! Settings that are accepted can be carried out. They are accepted again as they are, their limits are not
brought down any further, and the time between publications is one that a timer takes. How long a shutdown
may last has no such bound. -/

namespace MetricPipeline

namespace Settings

open Untyped

/-! Categories -/

theorem checkCategory_handsOver (path path' : List PathStep) (i j : Nat) :
    HandsOver (fun c => .string c.name) (checkCategory path i) (checkCategory path' j) :=
  HandsOver.option Category.values Category.name _ _

theorem items_checkCategory {path path' : List PathStep} {i j : Nat} {items : List Untyped}
    {categories : List Category} (h : Checked.items (checkCategory path) i items = .ok categories) :
    Checked.items (checkCategory path') j (categories.map fun c => .string c.name) = .ok categories := by
  induction items generalizing i j categories with
  | nil =>
    obtain rfl := Except.ok.inj h
    rfl
  | cons item items ih =>
    obtain ⟨category, others, hcategory, hothers, rfl⟩ := Checked.items_cons_eq_ok_iff.1 h
    exact Checked.items_cons_eq_ok_iff.2
      ⟨category, others, checkCategory_handsOver path path' i j item category hcategory, ih hothers, rfl⟩

/-- The encoded form of a list of categories. -/
def categoriesUntyped (categories : List Category) : Untyped :=
  .array (categories.map fun c => .string c.name)

theorem checkCategories_of_ne_nil {path path' : List PathStep} {i : Nat} {items : List Untyped}
    {categories : List Category} (h : Checked.items (checkCategory path) i items = .ok categories)
    (hne : categories ≠ []) : checkCategories path' (categoriesUntyped categories) = .ok categories := by
  have hitems : Checked.items (checkCategory path') 0 (categories.map fun c => .string c.name) =
      .ok categories := items_checkCategory h
  unfold checkCategories categoriesUntyped
  dsimp only
  rw [hitems]
  cases categories with
  | nil => exact absurd rfl hne
  | cons category others => rfl

theorem checkCategories_eq_ok {path : List PathStep} {value : Untyped} {categories : List Category}
    (h : checkCategories path value = .ok categories) :
    categories ≠ [] ∧ ∃ items, Checked.items (checkCategory path) 0 items = .ok categories := by
  unfold checkCategories at h
  cases value with
  | array items =>
    dsimp only at h
    cases hitems : Checked.items (checkCategory path) 0 items with
    | error issues =>
      rw [hitems] at h
      cases h
    | ok found =>
      rw [hitems] at h
      cases found with
      | nil => cases h
      | cons category others =>
        obtain rfl := Except.ok.inj h
        exact ⟨List.cons_ne_nil _ _, items, hitems⟩
  | _ => cases h

theorem checkCategories_handsOver (path path' : List PathStep) :
    HandsOver categoriesUntyped (checkCategories path) (checkCategories path') := by
  intro value categories h
  obtain ⟨hne, items, hitems⟩ := checkCategories_eq_ok h
  exact checkCategories_of_ne_nil hitems hne

/-! All fields -/

/-- Each setting passes its own check, but that the categories may not. -/
structure OtherwiseAccepted (field : String → Untyped) (settings : Settings) : Prop where
  namespaceName : withDefault defaults.namespaceName (checkString [.key "namespace"] emptyFaults)
    (field "namespace") = .ok settings.namespaceName
  publishFrequencyMs : withDefault defaults.publishFrequencyMs
    (frequencyRule.check [.key "publishFrequencyMs"]) (field "publishFrequencyMs") =
      .ok settings.publishFrequencyMs
  metricQueueSize : withDefault defaults.metricQueueSize (queueSizeRule.check [.key "metricQueueSize"])
    (field "metricQueueSize") = .ok settings.metricQueueSize
  shutdownTimeoutMs : withDefault defaults.shutdownTimeoutMs (timeoutRule.check [.key "shutdownTimeoutMs"])
    (field "shutdownTimeoutMs") = .ok settings.shutdownTimeoutMs
  metricLevel : withDefault defaults.metricLevel (checkOption [.key "metricLevel"] Level.values Level.name)
    (field "metricLevel") = .ok settings.metricLevel
  maxMetricDataPerRequest : optional (dataLimitRule.check [.key "maxMetricDataPerRequest"])
    (field "maxMetricDataPerRequest") = .ok settings.maxMetricDataPerRequest?
  maxValuesPerRequest : optional (valuesLimitRule.check [.key "maxValuesPerRequest"])
    (field "maxValuesPerRequest") = .ok settings.maxValuesPerRequest?
  logLevel : withDefault defaults.logLevel (checkOption [.key "logLevel"] LogLevel.values LogLevel.name)
    (field "logLevel") = .ok settings.logLevel

/-- Each setting passes its own check. -/
structure Accepted (field : String → Untyped) (settings : Settings) : Prop
    extends OtherwiseAccepted field settings where
  metricCategories : withDefault defaults.metricCategories (checkCategories [.key "metricCategories"])
    (field "metricCategories") = .ok settings.metricCategories

theorem OtherwiseAccepted.checkFields_eq {field : String → Untyped} {settings : Settings}
    (h : OtherwiseAccepted field settings) : checkFields field =
      (withDefault defaults.metricCategories (checkCategories [.key "metricCategories"])
        (field "metricCategories")).map fun categories => { settings with metricCategories := categories } := by
  unfold checkFields
  rw [h.namespaceName, h.publishFrequencyMs, h.metricQueueSize, h.shutdownTimeoutMs, h.metricLevel,
    h.maxMetricDataPerRequest, h.maxValuesPerRequest, h.logLevel]
  cases withDefault defaults.metricCategories (checkCategories [.key "metricCategories"])
    (field "metricCategories") <;> rfl

/-- Settings pass as one exactly when each of them passes its own check. -/
theorem checkFields_eq_ok_iff {field : String → Untyped} {settings : Settings} :
    checkFields field = .ok settings ↔ Accepted field settings := by
  constructor
  · intro h
    -- the checks come apart from the last to the first
    obtain ⟨_, logLevel, h₈, hlogLevel, rfl⟩ := Checked.and_eq_ok.1 h
    obtain ⟨_, values?, h₇, hvalues, rfl⟩ := Checked.and_eq_ok.1 h₈
    obtain ⟨_, data?, h₆, hdata, rfl⟩ := Checked.and_eq_ok.1 h₇
    obtain ⟨_, level, h₅, hlevel, rfl⟩ := Checked.and_eq_ok.1 h₆
    obtain ⟨_, categories, h₄, hcategories, rfl⟩ := Checked.and_eq_ok.1 h₅
    obtain ⟨_, timeout, h₃, htimeout, rfl⟩ := Checked.and_eq_ok.1 h₄
    obtain ⟨_, size, h₂, hsize, rfl⟩ := Checked.and_eq_ok.1 h₃
    obtain ⟨_, frequency, h₁, hfrequency, rfl⟩ := Checked.and_eq_ok.1 h₂
    obtain ⟨_, name, h₀, hname, rfl⟩ := Checked.and_eq_ok.1 h₁
    obtain rfl := Except.ok.inj h₀
    exact ⟨⟨hname, hfrequency, hsize, htimeout, hlevel, hdata, hvalues, hlogLevel⟩, hcategories⟩
  · intro h
    rw [h.toOtherwiseAccepted.checkFields_eq, h.metricCategories]
    rfl

theorem parse_eq_ok {value : Untyped} {settings : Settings} (h : parse value = .ok settings) :
    ∃ fields, value = .object fields ∧ Accepted (Untyped.field fields) settings := by
  unfold parse at h
  cases value with
  | object fields => exact ⟨fields, rfl, checkFields_eq_ok_iff.1 h⟩
  | _ => cases h

theorem optionalNumber_eq_given (x? : Option Binary64) :
    optionalNumber x? = PublisherOptions.given .number x? := by
  cases x? <;> rfl

/-! Defaults -/

theorem admits_ofNat {rule : NumberRule} {n : Nat} (hn : n < 2 ^ 53) (h : rule.Within n) :
    rule.Admits (.ofNat n) :=
  ⟨n, Binary64.toInt?_ofInt (z := n) (by omega), h⟩

theorem within_defaults : frequencyRule.Within defaultPublishFrequencyMs ∧
    queueSizeRule.Within defaultMetricQueueSize ∧ timeoutRule.Within defaultShutdownTimeoutMs := by
  simp [NumberRule.Within, NumberRule.wholeRange, frequencyRule, queueSizeRule, timeoutRule,
    defaultPublishFrequencyMs, maxPublishFrequencyMs, defaultMetricQueueSize, defaultShutdownTimeoutMs]

/-- Every default number passes the check of its own field. -/
theorem admits_defaults : frequencyRule.Admits defaults.publishFrequencyMs ∧
    queueSizeRule.Admits defaults.metricQueueSize ∧ timeoutRule.Admits defaults.shutdownTimeoutMs := by
  obtain ⟨hfrequency, hsize, htimeout⟩ := within_defaults
  dsimp only [defaults]
  exact ⟨admits_ofNat (by decide) hfrequency, admits_ofNat (by decide) hsize,
    admits_ofNat (by decide) htimeout⟩

theorem parse_toUntyped {value : Untyped} {settings : Settings} (h : parse value = .ok settings) :
    parse settings.toUntyped = .ok settings := by
  obtain ⟨fields, rfl, haccepted⟩ := parse_eq_ok h
  obtain ⟨hfrequency, hsize, htimeout⟩ := admits_defaults
  refine checkFields_eq_ok_iff.2 ⟨⟨?_, ?_, ?_, ?_, ?_, ?_, ?_, ?_⟩, ?_⟩
  · exact (HandsOver.string _ _ _).withDefault rfl (by simp) _ _ haccepted.namespaceName
  · exact (HandsOver.number _ _ _).withDefault (NumberRule.check_number hfrequency _) (by simp) _ _
      haccepted.publishFrequencyMs
  · exact (HandsOver.number _ _ _).withDefault (NumberRule.check_number hsize _) (by simp) _ _
      haccepted.metricQueueSize
  · exact (HandsOver.number _ _ _).withDefault (NumberRule.check_number htimeout _) (by simp) _ _
      haccepted.shutdownTimeoutMs
  · exact (HandsOver.option _ _ _ _).withDefault rfl (by simp) _ _ haccepted.metricLevel
  · show optional _ (optionalNumber settings.maxMetricDataPerRequest?) = _
    rw [optionalNumber_eq_given]
    exact (HandsOver.number _ _ _).optional (by simp) _ _ haccepted.maxMetricDataPerRequest
  · show optional _ (optionalNumber settings.maxValuesPerRequest?) = _
    rw [optionalNumber_eq_given]
    exact (HandsOver.number _ _ _).optional (by simp) _ _ haccepted.maxValuesPerRequest
  · exact (HandsOver.option _ _ _ _).withDefault rfl (by simp) _ _ haccepted.logLevel
  · exact (checkCategories_handsOver _ _).withDefault rfl (by simp [categoriesUntyped]) _ _
      haccepted.metricCategories

/-! Numbers that are accepted -/

theorem admits_of_withDefault {rule : NumberRule} {path : List PathStep} {default x : Binary64}
    {value : Untyped} (hdefault : rule.Admits default)
    (h : withDefault default (rule.check path) value = .ok x) : rule.Admits x := by
  rcases HandsOver.withDefault_eq_ok h with rfl | hchecked
  · exact hdefault
  · exact (NumberRule.check_eq_ok_iff.1 hchecked).2

/-- A limit that is accepted is one that the clamp keeps. -/
theorem clamp_of_admits {service : Nat} (hs : service < 2 ^ 53) {limit : Binary64}
    (h : NumberRule.Admits ⟨1, false, some service⟩ limit) : Limit.clamp service (some limit) = limit := by
  obtain ⟨n, hn, -, -, -, hleast, hgreatest⟩ := h
  have hpos : (1 : Int) ≤ n := hleast rfl
  have hle : n ≤ service := hgreatest service rfl
  obtain ⟨k, rfl⟩ := Int.eq_ofNat_of_zero_le (by omega : 0 ≤ n)
  rw [Binary64.eq_whole_of_toInt? hn (by omega) (by omega)]
  exact Limit.clamp_whole (by omega) (by omega) hs _

theorem clamp_of_optional {service : Nat} (hs : service < 2 ^ 53) {path : List PathStep} {value : Untyped}
    {limit? : Option Binary64}
    (h : optional (NumberRule.check ⟨1, false, some service⟩ path) value = .ok limit?) {limit : Binary64}
    (hlimit : limit? = some limit) : Limit.clamp service (some limit) = limit := by
  rcases HandsOver.optional_eq_ok h with hnone | ⟨x, hx, hchecked⟩
  · rw [hnone] at hlimit
    cases hlimit
  · obtain rfl : x = limit := Option.some.inj (hx.symm.trans hlimit)
    exact clamp_of_admits hs (NumberRule.check_eq_ok_iff.1 hchecked).2

theorem times_of_parse {value : Untyped} {settings : Settings} (h : parse value = .ok settings) :
    (∃ n : Int, settings.publishFrequencyMs.toInt? = some n ∧ 0 < n ∧ n ≤ 2147483647) ∧
    ∃ n : Int, settings.shutdownTimeoutMs.toInt? = some n ∧ 0 ≤ n ∧ n ≤ 9007199254740991 := by
  obtain ⟨fields, -, haccepted⟩ := parse_eq_ok h
  obtain ⟨hfrequency, -, htimeout⟩ := admits_defaults
  obtain ⟨n, hn, -, -, hleast, -, hgreatest⟩ := admits_of_withDefault hfrequency haccepted.publishFrequencyMs
  obtain ⟨m, hm, -, hrange, -, hleast', -⟩ := admits_of_withDefault htimeout haccepted.shutdownTimeoutMs
  exact ⟨⟨n, hn, hleast rfl, hgreatest _ rfl⟩, m, hm, hleast' rfl, hrange⟩

/-- The timer between publications runs as it is set. The timer of a shutdown does so unless it is set to zero
or to more than timers take, which is run as a single millisecond. -/
theorem delay_of_parse {value : Untyped} {settings : Settings} (h : parse value = .ok settings) :
    Timer.delay settings.publishFrequencyMs = settings.publishFrequencyMs ∧
    ∃ n : Int, settings.shutdownTimeoutMs.toInt? = some n ∧ Timer.delay settings.shutdownTimeoutMs =
      if 1 ≤ n ∧ n ≤ Timer.longestDelay then settings.shutdownTimeoutMs else .ofNat 1 := by
  obtain ⟨⟨n, hn, hpos, hle⟩, m, hm, -, -⟩ := times_of_parse h
  exact ⟨Timer.delay_eq_given hn hpos hle, m, hm, Timer.delay_of_toInt? hm⟩

/-- Settings that are accepted are accepted again as they are, no limit in them is brought down, and the
time between publications is one that a timer takes. The time for a shutdown is a whole number, and may be
any that doubles hold without gaps. -/
theorem accepted_as_given (value : Untyped) (settings : Settings) (h : parse value = .ok settings) :
    parse settings.toUntyped = .ok settings ∧
    (∀ limit, settings.maxMetricDataPerRequest? = some limit →
      Limit.clamp RequestLimits.serviceData (some limit) = limit) ∧
    (∀ limit, settings.maxValuesPerRequest? = some limit →
      Limit.clamp RequestLimits.serviceValues (some limit) = limit) ∧
    (∃ n : Int, settings.publishFrequencyMs.toInt? = some n ∧ 0 < n ∧ n ≤ 2147483647) ∧
    ∃ n : Int, settings.shutdownTimeoutMs.toInt? = some n ∧ 0 ≤ n ∧ n ≤ 9007199254740991 := by
  obtain ⟨fields, -, haccepted⟩ := parse_eq_ok h
  exact ⟨parse_toUntyped h, fun _ => clamp_of_optional (by decide) haccepted.maxMetricDataPerRequest,
    fun _ => clamp_of_optional (by decide) haccepted.maxValuesPerRequest, times_of_parse h⟩

/-- Numbers at their bounds, and a minus zero. -/
theorem accepted_as_given_bounds :
    ∃ value settings, parse value = .ok settings ∧
      value = .object [("maxValuesPerRequest", .number (.ofNat 300)),
        ("maxMetricDataPerRequest", .number (.ofNat 1)),
        ("publishFrequencyMs", .number (.ofNat 2147483647)), ("shutdownTimeoutMs", .number (.zero true))] ∧
      parse settings.toUntyped = .ok settings ∧
      Limit.clamp RequestLimits.serviceData (some (.ofNat 1)) = .ofNat 1 ∧
      Limit.clamp RequestLimits.serviceValues (some (.ofNat 300)) = .ofNat 300 ∧
      settings.shutdownTimeoutMs = .zero true := by
  have hparse : parse (.object [("maxValuesPerRequest", .number (.ofNat 300)),
      ("maxMetricDataPerRequest", .number (.ofNat 1)), ("publishFrequencyMs", .number (.ofNat 2147483647)),
      ("shutdownTimeoutMs", .number (.zero true))]) = .ok { defaults with
        publishFrequencyMs := .ofNat 2147483647
        shutdownTimeoutMs := .zero true
        maxMetricDataPerRequest? := some (.ofNat 1)
        maxValuesPerRequest? := some (.ofNat 300) } := by decide +kernel
  obtain ⟨hagain, hdata, hvalues, -, -⟩ := accepted_as_given _ _ hparse
  exact ⟨_, _, hparse, rfl, hagain, hdata _ rfl, hvalues _ rfl, rfl⟩

/-- A time for the shutdown that no timer takes is accepted. -/
theorem accepted_timeout_beyond_timers :
    parse (.object [("shutdownTimeoutMs", .number (.ofNat 2147483648))]) =
        .ok { defaults with shutdownTimeoutMs := .ofNat 2147483648 } ∧
      (Binary64.ofNat 2147483648).toInt? = some (maxPublishFrequencyMs + 1) := by
  decide +kernel

end Settings
end MetricPipeline

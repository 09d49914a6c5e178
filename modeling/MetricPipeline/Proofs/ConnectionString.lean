import MetricPipeline.Proofs.Url

/-! What a connection string says is what the connection is built with. The parameters may come in any order;
the first one of a name counts, and names that mean nothing are passed over. -/

namespace MetricPipeline

/-! First values -/

section
variable {α β : Type} [DecidableEq α]

/-- Where no name occurs twice, what is found under a name is what is listed under it. -/
theorem lookup_eq_some_iff_mem {pairs : List (α × β)} (h : (pairs.map Prod.fst).Nodup) {name : α}
    {value : β} : pairs.lookup name = some value ↔ (name, value) ∈ pairs := by
  induction pairs with
  | nil => simp
  | cons pair pairs ih =>
    obtain ⟨first, other⟩ := pair
    obtain ⟨hfirst, hrest⟩ := List.nodup_cons.1 h
    by_cases heq : name = first
    · subst heq
      have hnone : (name, value) ∉ pairs := fun hmem => hfirst (List.mem_map.2 ⟨_, hmem, rfl⟩)
      simp [hnone, eq_comm]
    · have hne : (name == first) = false := beq_eq_false_iff_ne.2 heq
      rw [List.lookup_cons, hne, List.mem_cons, ← ih hrest]
      simp [heq]

theorem lookup_eq_of_perm {pairs pairs' : List (α × β)} (h : (pairs.map Prod.fst).Nodup)
    (hperm : pairs'.Perm pairs) (name : α) : pairs'.lookup name = pairs.lookup name := by
  have h' : (pairs'.map Prod.fst).Nodup := (hperm.map Prod.fst).nodup_iff.2 h
  refine Option.ext fun value => ?_
  rw [lookup_eq_some_iff_mem h', lookup_eq_some_iff_mem h, hperm.mem_iff]

/-- What comes after the first values, or under other names, is not found. -/
theorem lookup_append_of_passed_over {pairs more : List (α × β)} {name : α}
    (h : ∀ pair ∈ more, pair.1 = name → name ∈ pairs.map Prod.fst) :
    (pairs ++ more).lookup name = pairs.lookup name := by
  rw [List.lookup_append]
  cases hfound : pairs.lookup name with
  | some value => rfl
  | none =>
    have hnone : ∀ pair ∈ pairs, (name != pair.1) = true := List.lookup_eq_none_iff.1 hfound
    have hmore : more.lookup name = none := by
      refine List.lookup_eq_none_iff.2 fun pair hpair => bne_iff_ne.2 fun heq => ?_
      obtain ⟨listed, hlisted, hname⟩ := List.mem_map.1 (h pair hpair heq.symm)
      exact bne_iff_ne.1 (hnone listed hlisted) hname.symm
    rw [hmore]
    rfl

end

/-! Parameters -/

/-- What a connection string can say. Each parameter may be left out. -/
structure ConnectionParameters where
  region? : Option String := none
  endpoint? : Option String := none
  accessKeyId? : Option String := none
  secretAccessKey? : Option String := none
  sessionToken? : Option String := none

namespace ConnectionParameters

variable (parameters : ConnectionParameters)

def names : List String := ["region", "endpoint", "accessKeyId", "secretAccessKey", "sessionToken"]

def values : List (Option String) :=
  [parameters.region?, parameters.endpoint?, parameters.accessKeyId?, parameters.secretAccessKey?,
    parameters.sessionToken?]

def pair? (entry : String × Option String) : Option (String × String) := entry.2.map (entry.1, ·)

/-- The parameters that are not left out, by name. -/
def given : List (String × String) := (names.zip parameters.values).filterMap pair?

theorem fst_filterMap_pair?_sublist (entries : List (String × Option String)) :
    ((entries.filterMap pair?).map Prod.fst).Sublist (entries.map Prod.fst) := by
  induction entries with
  | nil => exact .slnil
  | cons entry entries ih =>
    obtain ⟨name, value?⟩ := entry
    cases value? with
    | none => exact ih.cons name
    | some value => exact ih.cons_cons name

theorem nodup_given : (parameters.given.map Prod.fst).Nodup := by
  have hnames : ((names.zip parameters.values).map Prod.fst).Nodup := by
    show names.Nodup
    decide
  exact (fst_filterMap_pair?_sublist _).nodup hnames

theorem lookup_given {name : String} {value? : Option String}
    (h : (name, value?) ∈ names.zip parameters.values) : parameters.given.lookup name = value? := by
  have hnames : ((names.zip parameters.values).map Prod.fst).Nodup := by
    show names.Nodup
    decide
  refine Option.ext fun value => ?_
  rw [lookup_eq_some_iff_mem parameters.nodup_given, given, List.mem_filterMap]
  constructor
  · rintro ⟨⟨other, other?⟩, hother, hpair⟩
    obtain ⟨value', rfl, heq⟩ := Option.map_eq_some_iff.1 hpair
    obtain ⟨rfl, rfl⟩ := Prod.mk.inj heq
    exact ((lookup_eq_some_iff_mem hnames).2 h).symm.trans ((lookup_eq_some_iff_mem hnames).2 hother)
      |> Option.some.inj
  · rintro rfl
    exact ⟨_, h, rfl⟩

end ConnectionParameters

namespace Connection

/-- The connection string that lists some parameters. -/
def stringOf (pairs : List (String × String)) : String :=
  "cloudwatch://?" ++ String.ofList (Text.Form.encode pairs)

theorem parse?_stringOf (pairs : List (String × String)) :
    Url.parse? (stringOf pairs) = some ⟨scheme, pairs⟩ := by
  have hvisible : ∀ c ∈ Text.Form.encode pairs, 32 < c.toNat := by
    intro c hc
    rcases Text.Form.mem_encode hc with hwritten | rfl | rfl
    · exact hwritten.visible
    · decide
    · decide
  have hsign : '#' ∉ Text.Form.encode pairs := by
    intro hmem
    rcases Text.Form.mem_encode hmem with hwritten | heq | heq
    · exact hwritten.ne (by decide) rfl
    · exact absurd heq (by decide)
    · exact absurd heq (by decide)
  have hparse := Url.parse?_of_query hvisible hsign
  rwa [Text.Form.decode_encode] at hparse

/-- A connection string never says that the region is empty. -/
theorem ofString_stringOf (pairs : List (String × String)) :
    ofString (stringOf pairs) = .ok ⟨configOfUrl ⟨scheme, pairs⟩, true, false, 0⟩ := by
  have hregion : (configOfUrl ⟨scheme, pairs⟩).region? ≠ some "" := by
    intro heq
    exact absurd (Option.filter_eq_some_iff.1 heq).2 (by decide)
  rw [ofString, parse?_stringOf]
  show ite (scheme = scheme) (create (configOfUrl ⟨scheme, pairs⟩)) _ = _
  rw [if_pos rfl, create, if_neg hregion]

/-- Only the first values under five names matter. -/
theorem configOfUrl_congr {url url' : Url}
    (h : ∀ name ∈ ConnectionParameters.names, url.parameter? name = url'.parameter? name) :
    configOfUrl url = configOfUrl url' := by
  simp only [ConnectionParameters.names, List.forall_mem_cons] at h
  obtain ⟨hregion, hendpoint, hkey, hsecret, htoken, -⟩ := h
  simp only [configOfUrl, credentials?, parameter?, hregion, hendpoint, hkey, hsecret, htoken]

theorem credentials?_eq_some_iff {url : Url} {credentials : Credentials} :
    credentials? url = some credentials ↔
      parameter? url "accessKeyId" = some credentials.accessKeyId ∧
      parameter? url "secretAccessKey" = some credentials.secretAccessKey ∧
      parameter? url "sessionToken" = credentials.sessionToken? := by
  obtain ⟨key, secret, token⟩ := credentials
  unfold credentials?
  cases parameter? url "accessKeyId" <;> cases parameter? url "secretAccessKey" <;> simp

theorem isSome_credentials? (url : Url) : (credentials? url).isSome = true ↔
    (parameter? url "accessKeyId").isSome = true ∧ (parameter? url "secretAccessKey").isSome = true := by
  unfold credentials?
  cases parameter? url "accessKeyId" <;> cases parameter? url "secretAccessKey" <;> simp

theorem isSome_filter_ne_empty {value? : Option String} :
    (value?.filter (· ≠ "")).isSome = true ↔ ∃ value, value? = some value ∧ value ≠ "" := by
  rw [Option.isSome_iff_exists]
  simp only [Option.filter_eq_some_iff, decide_eq_true_eq]

theorem parameter?_of_lookup {pairs : List (String × String)} {name : String} {value? : Option String}
    (h : pairs.lookup name = value?) : parameter? ⟨scheme, pairs⟩ name = value?.filter (· ≠ "") := by
  rw [parameter?, Url.parameter?, h]

/-- A connection string that lists parameters in any order makes a connection of its own with what they say:
an empty text counts as none, and credentials need both keys. Parameters of other names and second values,
whatever they are, make no difference. -/
theorem ofString_of_parameters (parameters : ConnectionParameters) (listed more : List (String × String))
    (hlisted : listed.Perm parameters.given)
    (hmore : ∀ pair ∈ more,
      pair.1 ∉ ConnectionParameters.names ∨ pair.1 ∈ listed.map Prod.fst) :
    ∃ connection, ofString (stringOf listed) = .ok connection ∧
      ofString (stringOf (listed ++ more)) = .ok connection ∧
      connection.owned = true ∧ connection.closed = false ∧ connection.destroyed = 0 ∧
      connection.config.region? = parameters.region?.filter (· ≠ "") ∧
      connection.config.endpoint? = parameters.endpoint?.filter (· ≠ "") ∧
      (connection.config.credentials?.isSome = true ↔
        (∃ key, parameters.accessKeyId? = some key ∧ key ≠ "") ∧
        ∃ secret, parameters.secretAccessKey? = some secret ∧ secret ≠ "") ∧
      ∀ credentials, connection.config.credentials? = some credentials →
        parameters.accessKeyId? = some credentials.accessKeyId ∧
        parameters.secretAccessKey? = some credentials.secretAccessKey ∧
        credentials.sessionToken? = parameters.sessionToken?.filter (· ≠ "") := by
  have hfound : ∀ {name : String} {value? : Option String},
      (name, value?) ∈ ConnectionParameters.names.zip parameters.values → listed.lookup name = value? := by
    intro name value? h
    rw [lookup_eq_of_perm parameters.nodup_given hlisted, parameters.lookup_given h]
  have hregion := parameter?_of_lookup (hfound (.head _))
  have hendpoint := parameter?_of_lookup (hfound (.tail _ (.head _)))
  have hkey := parameter?_of_lookup (hfound (.tail _ (.tail _ (.head _))))
  have hsecret := parameter?_of_lookup (hfound (.tail _ (.tail _ (.tail _ (.head _)))))
  have htoken := parameter?_of_lookup (hfound (.tail _ (.tail _ (.tail _ (.tail _ (.head _))))))
  have hsame : configOfUrl ⟨scheme, listed ++ more⟩ = configOfUrl ⟨scheme, listed⟩ := by
    refine configOfUrl_congr fun name hname => lookup_append_of_passed_over fun pair hpair heq => ?_
    subst heq
    exact (hmore pair hpair).resolve_left fun hother => hother hname
  refine ⟨_, ofString_stringOf listed, hsame ▸ ofString_stringOf (listed ++ more), rfl, rfl, rfl, hregion,
    hendpoint, ?_, fun credentials hcredentials => ?_⟩
  · rw [← isSome_filter_ne_empty, ← isSome_filter_ne_empty, ← hkey, ← hsecret]
    exact isSome_credentials? _
  · obtain ⟨hkey', hsecret', htoken'⟩ := credentials?_eq_some_iff.1 hcredentials
    rw [hkey] at hkey'
    rw [hsecret] at hsecret'
    exact ⟨(Option.filter_eq_some_iff.1 hkey').1, (Option.filter_eq_some_iff.1 hsecret').1,
      htoken'.symm.trans htoken⟩

/-- Separators, blanks, plus signs and characters beyond ASCII in a secret come through, an empty token counts
as none, and neither a second secret nor an unknown parameter matters. -/
theorem ofString_of_parameters_secret :
    ∃ connection,
      ofString ("cloudwatch://?secretAccessKey=a%2Bb%26%C3%BC+%25&sessionToken=&accessKeyId=id" ++
        "&secretAccessKey=other&mode=fast") = .ok connection ∧
      connection.owned = true ∧ connection.config.region? = none ∧
      ∃ credentials, connection.config.credentials? = some credentials ∧
        credentials = ⟨"id", "a+b&ü %", none⟩ := by
  let parameters : ConnectionParameters :=
    { accessKeyId? := some "id", secretAccessKey? := some "a+b&ü %", sessionToken? := some "" }
  let listed := [("secretAccessKey", "a+b&ü %"), ("sessionToken", ""), ("accessKeyId", "id")]
  let more := [("secretAccessKey", "other"), ("mode", "fast")]
  have htext : stringOf (listed ++ more) =
      "cloudwatch://?secretAccessKey=a%2Bb%26%C3%BC+%25&sessionToken=&accessKeyId=id" ++
        "&secretAccessKey=other&mode=fast" := by decide
  obtain ⟨connection, -, hmore, howned, -, -, hregion, -, hsome, hcredentials⟩ :=
    ofString_of_parameters parameters listed more (by decide) (by decide)
  obtain ⟨credentials, heq⟩ := Option.isSome_iff_exists.1
    (hsome.2 ⟨⟨"id", rfl, by decide⟩, ⟨"a+b&ü %", rfl, by decide⟩⟩)
  obtain ⟨hkey, hsecret, htoken⟩ := hcredentials credentials heq
  refine ⟨connection, htext ▸ hmore, howned, hregion, credentials, heq, ?_⟩
  obtain ⟨key, secret, token⟩ := credentials
  obtain rfl : "id" = key := Option.some.inj hkey
  obtain rfl : "a+b&ü %" = secret := Option.some.inj hsecret
  obtain rfl : token = none := htoken
  rfl

end Connection
end MetricPipeline

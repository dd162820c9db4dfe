import Utterance.Proofs.Text.Blank
import Utterance.Provider.Client

/-! What a selection depends on: the environment is asked only where the settings leave something open, and then
only for what is open. The key for documents decides nothing. -/

namespace Utterance

/-- A key as it is used: without blanks around it, and not empty. -/
structure IsKey (key : String) : Prop where
  spoken : key ≠ ""
  bare : Text.trimmed key = key

theorem isKey_of_filter {o : Option String} {key : String}
    (h : (o.map Text.trimmed).filter (!·.isEmpty) = some key) : IsKey key := by
  obtain ⟨hmap, hne⟩ := Option.filter_eq_some_iff.mp h
  obtain ⟨raw, -, rfl⟩ := Option.map_eq_some_iff.mp hmap
  exact ⟨fun he => by simp [he] at hne, Text.trimmed_trimmed raw⟩

theorem Provider.mem_all (p : Provider) : p ∈ all := by
  cases p <;> decide

/-- The key for documents is in a variable of its own. -/
theorem Provider.keyVariable_ne (p : Provider) : p.keyVariable ≠ Selection.documentVariable := by
  cases p <;> decide

namespace Settings

/-- The engine that settings ask for. -/
def readEngine (s : Settings) : Outcome Engine :=
  s.engine.elim (.ok .api) Engine.read

/-- The name of a service in settings, unless it is blank. -/
def named? (s : Settings) : Option String :=
  s.provider.filter fun name => !(Text.trimmed name).isEmpty

/-- Whether settings leave nothing to the environment. -/
inductive Decides (s : Settings) : Prop
  | tool {t : Tool} : s.readEngine = .ok (.tool t) → Decides s
  | named {name : String} {p : Provider} : s.named? = some name → Provider.read name = .ok p →
      s.key? p ≠ none → Decides s
  | keyed {p : Provider} : s.named? = none → s.key? p ≠ none → Decides s

end Settings

namespace Selection

variable {e e' : String → Option String} {settings : Settings}

/-! The first key. -/

/-- Of all services in order, `p` is the first one with a key. -/
def IsFirst (key? : Provider → Option String) (p : Provider) (key : String) : Prop :=
  ∃ front back, Provider.all = front ++ p :: back ∧ key? p = some key ∧ ∀ q ∈ front, key? q = none

/-- The key of a service in the environment. -/
def keyIn? (environment : String → Option String) (p : Provider) : Option String :=
  nonBlank? environment p.keyVariable

theorem first?_eq_some_iff {key? : Provider → Option String} {s : Selection} :
    first? key? = some s ↔ ∃ p key, IsFirst key? p key ∧ ofProvider p key = s := by
  rw [first?, List.findSome?_eq_some_iff]
  constructor
  · rintro ⟨front, p, back, hall, hp, hfront⟩
    obtain ⟨key, hkey, rfl⟩ := Option.map_eq_some_iff.mp hp
    exact ⟨p, key, ⟨front, back, hall, hkey, fun q hq => Option.map_eq_none_iff.mp (hfront q hq)⟩, rfl⟩
  · rintro ⟨p, key, ⟨front, back, hall, hkey, hfront⟩, rfl⟩
    exact ⟨front, p, back, hall, by rw [hkey, Option.map_some],
      fun q hq => Option.map_eq_none_iff.mpr (hfront q hq)⟩

theorem first?_eq_none_iff {key? : Provider → Option String} :
    first? key? = none ↔ ∀ p, key? p = none := by
  rw [first?, List.findSome?_eq_none_iff]
  exact ⟨fun h p => Option.map_eq_none_iff.mp (h p p.mem_all), fun h p _ => Option.map_eq_none_iff.mpr (h p)⟩

theorem first?_congr {key? key?' : Provider → Option String}
    (h : ∀ p key, IsFirst key? p key ↔ IsFirst key?' p key) : first? key? = first? key?' := by
  refine Option.ext fun s => ?_
  simp only [first?_eq_some_iff, h]

/-! The outcomes, apart from the key for documents. -/

/-- What the settings select, or else the environment. -/
def chosen (e : String → Option String) (settings : Settings) : Outcome (Option Selection) :=
  (ofSettings? e settings).map (· <|> ofEnvironment? e settings)

theorem chosen_error {f : Fault} (h : settings.readEngine = .error f) : chosen e settings = .error f := by
  rw [Settings.readEngine] at h
  unfold chosen ofSettings?
  rw [h]
  rfl

theorem chosen_tool {t : Tool} (h : settings.readEngine = .ok (.tool t)) :
    chosen e settings = .ok (some (ofToolSettings t settings)) := by
  rw [Settings.readEngine] at h
  unfold chosen ofSettings?
  rw [h]
  rfl

/-- Through the network a service is selected by its name, or else by its key. -/
theorem ofSettings?_api (h : settings.readEngine = .ok .api) : ofSettings? e settings =
    settings.named?.elim (.ok ((first? settings.key?).map (·.withSettings settings))) fun name =>
      (ofName e settings name).map some := by
  rw [Settings.readEngine] at h
  unfold ofSettings? Settings.named?
  rw [h]
  dsimp only [bind, Except.bind]
  cases settings.provider.filter fun name => !(Text.trimmed name).isEmpty with
  | none => rfl
  | some name =>
    dsimp only [Option.elim, Except.map]
    cases ofName e settings name with
    | error f => dsimp only
    | ok s => dsimp only [pure, Except.pure]

theorem chosen_named {name : String} (h : settings.readEngine = .ok .api)
    (hname : settings.named? = some name) : chosen e settings = (ofName e settings name).map some := by
  rw [chosen, ofSettings?_api h, hname]
  dsimp only [Option.elim]
  cases ofName e settings name with
  | error f => rfl
  | ok s => rfl

theorem chosen_unnamed (h : settings.readEngine = .ok .api) (hname : settings.named? = none) :
    chosen e settings = .ok ((first? settings.key? <|> first? (keyIn? e)).map (·.withSettings settings)) := by
  rw [chosen, ofSettings?_api h, hname]
  cases first? settings.key? with
  | some s => rfl
  | none => rfl

theorem ofName_of_key {name : String} {p : Provider} {key : String} (hread : Provider.read name = .ok p)
    (hkey : (settings.key? p <|> keyIn? e p) = some key) :
    ofName e settings name = .ok ((ofProvider p key).withSettings settings) := by
  rw [keyIn?] at hkey
  unfold ofName
  rw [hread]
  dsimp only [bind, Except.bind]
  rw [hkey]
  rfl

theorem exists_of_ofName {name : String} {s : Selection} (h : ofName e settings name = .ok s) :
    ∃ p key, Provider.read name = .ok p ∧ (settings.key? p <|> keyIn? e p) = some key ∧
      s = (ofProvider p key).withSettings settings := by
  unfold ofName at h
  cases hread : Provider.read name with
  | error f =>
    rw [hread] at h
    cases h
  | ok p =>
    rw [hread] at h
    dsimp only [bind, Except.bind] at h
    cases hkey : settings.key? p <|> nonBlank? e p.keyVariable with
    | none =>
      rw [hkey] at h
      cases h
    | some key =>
      rw [hkey] at h
      injection h with h
      exact ⟨p, key, rfl, hkey, h.symm⟩

theorem ofName_congr {name : String} (h : ∀ p, Provider.read name = .ok p → settings.key? p = none →
    keyIn? e p = keyIn? e' p) : ofName e settings name = ofName e' settings name := by
  unfold ofName
  cases hread : Provider.read name with
  | error f => rfl
  | ok p =>
    dsimp only [bind, Except.bind]
    cases hkey : settings.key? p with
    | some key => rfl
    | none =>
      have hsame := h p hread hkey
      rw [keyIn?, keyIn?] at hsame
      rw [hsame]

/-- Of the environment it matters which key there is for the service that the settings name, if they have none
for it; where they name no service and hold no key, the first key matters. -/
theorem chosen_congr
    (hnamed : ∀ name p, settings.readEngine = .ok .api → settings.named? = some name →
      Provider.read name = .ok p → settings.key? p = none → keyIn? e p = keyIn? e' p)
    (hopen : settings.readEngine = .ok .api → settings.named? = none → (∀ p, settings.key? p = none) →
      first? (keyIn? e) = first? (keyIn? e')) : chosen e settings = chosen e' settings := by
  rcases hengine : settings.readEngine with f | _ | t
  · rw [chosen_error hengine, chosen_error hengine]
  · cases hname : settings.named? with
    | some name =>
      rw [chosen_named hengine hname, chosen_named hengine hname,
        ofName_congr fun p => hnamed name p hengine hname]
    | none =>
      rw [chosen_unnamed hengine hname, chosen_unnamed hengine hname]
      cases hfirst : first? settings.key? with
      | some s => rfl
      | none => rw [hopen hengine hname (first?_eq_none_iff.mp hfirst)]
  · rw [chosen_tool hengine, chosen_tool hengine]

theorem chosen_of_decides (h : settings.Decides) : chosen e settings = chosen e' settings := by
  cases h with
  | tool ht =>
    refine chosen_congr (fun _ _ hengine => ?_) fun hengine => ?_
    all_goals
      rw [ht] at hengine
      cases hengine
  | named hname hread hkey =>
    refine chosen_congr (fun _ p _ hname' hread' hkey' => ?_) fun _ hname' => ?_
    · cases hname.symm.trans hname'
      cases hread.symm.trans hread'
      exact absurd hkey' hkey
    · cases hname.symm.trans hname'
  | keyed hname hkey =>
    refine chosen_congr (fun _ _ _ hname' => ?_) fun _ _ hkey' => absurd (hkey' _) hkey
    cases hname.symm.trans hname'

/-! What is selected. -/

/-- The services that may be selected, each with its key: the one that the settings name, with a key of theirs or
else of the environment, or the first one that the settings have a key for, or the first one that the environment
has a key for. -/
inductive Chooses (settings : Settings) (e : String → Option String) : Provider → String → Prop
  | named {name : String} {p : Provider} {key : String} : settings.named? = some name →
      Provider.read name = .ok p → (settings.key? p <|> keyIn? e p) = some key → Chooses settings e p key
  | kept {p : Provider} {key : String} : settings.named? = none → IsFirst settings.key? p key →
      Chooses settings e p key
  | found {p : Provider} {key : String} : settings.named? = none → (∀ q, settings.key? q = none) →
      IsFirst (keyIn? e) p key → Chooses settings e p key

theorem Chooses.isKey {p : Provider} {key : String} (h : Chooses settings e p key) : IsKey key := by
  have hkept {q : Provider} (hq : settings.key? q = some key) : IsKey key := isKey_of_filter hq
  have hfound {q : Provider} (hq : keyIn? e q = some key) : IsKey key := isKey_of_filter hq
  cases h with
  | named _ _ hkey =>
    cases hown : settings.key? p with
    | some own =>
      rw [hown] at hkey
      exact hkept (hown.trans hkey)
    | none =>
      rw [hown] at hkey
      exact hfound hkey
  | kept _ hfirst =>
    obtain ⟨-, -, -, hkey, -⟩ := hfirst
    exact hkept hkey
  | found _ _ hfirst =>
    obtain ⟨-, -, -, hkey, -⟩ := hfirst
    exact hfound hkey

/-- Through the network a service is selected exactly if it is chosen. -/
theorem chosen_eq_some_iff (hengine : settings.readEngine = .ok .api) {s : Selection} :
    chosen e settings = .ok (some s) ↔
      ∃ p key, Chooses settings e p key ∧ s = (ofProvider p key).withSettings settings := by
  constructor
  · intro h
    cases hname : settings.named? with
    | some name =>
      rw [chosen_named hengine hname] at h
      cases hof : ofName e settings name with
      | error f =>
        rw [hof] at h
        cases h
      | ok u =>
        rw [hof] at h
        cases h
        obtain ⟨p, key, hread, hkey, rfl⟩ := exists_of_ofName hof
        exact ⟨p, key, .named hname hread hkey, rfl⟩
    | none =>
      rw [chosen_unnamed hengine hname] at h
      injection h with h
      obtain ⟨u, hu, rfl⟩ := Option.map_eq_some_iff.mp h
      cases hkept : first? settings.key? with
      | some v =>
        rw [hkept] at hu
        cases hu
        obtain ⟨p, key, hfirst, rfl⟩ := first?_eq_some_iff.mp hkept
        exact ⟨p, key, .kept hname hfirst, rfl⟩
      | none =>
        rw [hkept] at hu
        obtain ⟨p, key, hfirst, rfl⟩ := first?_eq_some_iff.mp hu
        exact ⟨p, key, .found hname (first?_eq_none_iff.mp hkept) hfirst, rfl⟩
  · rintro ⟨p, key, h, rfl⟩
    cases h with
    | named hname hread hkey =>
      rw [chosen_named hengine hname, ofName_of_key hread hkey]
      rfl
    | kept hname hfirst =>
      rw [chosen_unnamed hengine hname, first?_eq_some_iff.mpr ⟨p, key, hfirst, rfl⟩]
      rfl
    | found hname hkept hfirst =>
      rw [chosen_unnamed hengine hname, first?_eq_none_iff.mpr hkept,
        first?_eq_some_iff.mpr ⟨p, key, hfirst, rfl⟩]
      rfl

/-! With the key for documents. -/

section

variable {given given' : Option Settings}

theorem resolve_eq (given : Option Settings) (e : String → Option String) :
    resolve given e = (chosen e (given.getD {})).bind fun o => o.elim (.error .noProvider) fun s =>
      .ok { s with documentKey := documentKeyOf e (given.getD {}) } := by
  unfold resolve chosen
  dsimp only
  cases ofSettings? e (given.getD {}) with
  | error f => rfl
  | ok o =>
    dsimp only [bind, Except.bind, Except.map]
    cases o <|> ofEnvironment? e (given.getD {}) with
    | none => rfl
    | some s => rfl

/-- A selection without the key for documents. -/
def bare (s : Selection) : Selection :=
  { s with documentKey := none }

/-- Whether two outcomes differ at most in the key for documents. -/
def Agree (x y : Outcome Selection) : Prop :=
  x.map bare = y.map bare

theorem agree_of_chosen (h : chosen e (given.getD {}) = chosen e' (given'.getD {})) :
    Agree (resolve given e) (resolve given' e') := by
  rw [Agree, resolve_eq, resolve_eq, h]
  rcases chosen e' (given'.getD {}) with f | _ | s
  · rfl
  · rfl
  · rfl

theorem exists_of_resolve {s : Selection} (h : resolve given e = .ok s) :
    ∃ u, chosen e (given.getD {}) = .ok (some u) ∧
      s = { u with documentKey := documentKeyOf e (given.getD {}) } := by
  rw [resolve_eq] at h
  rcases hchosen : chosen e (given.getD {}) with f | _ | u
  · rw [hchosen] at h
    cases h
  · rw [hchosen] at h
    cases h
  · rw [hchosen] at h
    injection h with h
    exact ⟨u, rfl, h.symm⟩

/-- A service that is selected was chosen by the settings and the environment. -/
theorem chooses_of_resolve {s : Selection} (h : resolve given e = .ok s) (hs : s.engine = .api) :
    ∃ p, s.provider = some p ∧ Chooses (given.getD {}) e p s.key := by
  obtain ⟨u, hu, rfl⟩ := exists_of_resolve h
  rcases hengine : (given.getD {}).readEngine with f | _ | t
  · rw [chosen_error hengine] at hu
    cases hu
  · obtain ⟨p, key, hchosen, rfl⟩ := (chosen_eq_some_iff hengine).mp hu
    exact ⟨p, rfl, hchosen⟩
  · rw [chosen_tool hengine] at hu
    cases hu
    cases hs

/-- A service that the settings and the environment choose is selected. -/
theorem resolve_of_chooses {p : Provider} {key : String} (hengine : (given.getD {}).readEngine = .ok .api)
    (h : Chooses (given.getD {}) e p key) :
    ∃ s, resolve given e = .ok s ∧ s.engine = .api ∧ s.provider = some p ∧ s.key = key := by
  rw [resolve_eq, (chosen_eq_some_iff hengine).mpr ⟨p, key, h, rfl⟩]
  exact ⟨_, rfl, rfl, rfl, rfl⟩

/-- A service with a key that can be used has a client of its name. -/
theorem exists_client {s : Selection} {p : Provider} (hengine : s.engine = .api) (hp : s.provider = some p)
    (hkey : IsKey s.key) : ∃ c, Client.ofSelection s = .ok c ∧ c.provider = p.name := by
  have hempty : (Text.trimmed s.key).isEmpty = false := by
    rw [hkey.bare, Bool.eq_false_iff, Ne, String.isEmpty_iff]
    exact hkey.spoken
  have hname : (ApiClient.wireOf p).provider = p.name := by
    cases p <;> rfl
  unfold Client.ofSelection ApiClient.ofSelection
  rw [hengine, hp, hempty]
  exact ⟨_, rfl, hname⟩

/-- Of two environments it matters only what precedence leaves to them. If the settings decide, nothing does; if
they name a service, only its key; and if they name none, only the first key in order. The key for documents
matters to nothing else, wherever it is. A service that is selected was chosen with a key that can be used, and
has a client. -/
theorem resolve_by_precedence (given : Option Settings) (e e' : String → Option String) :
    ((given.getD {}).Decides → Agree (resolve given e) (resolve given e')) ∧
    (∀ name, (given.getD {}).named? = some name →
      (∀ p, Provider.read name = .ok p → keyIn? e p = keyIn? e' p) →
      Agree (resolve given e) (resolve given e')) ∧
    ((given.getD {}).named? = none → (∀ p key, IsFirst (keyIn? e) p key ↔ IsFirst (keyIn? e') p key) →
      Agree (resolve given e) (resolve given e')) ∧
    (∀ key, (∀ name, name ≠ documentVariable → e name = e' name) →
      Agree (resolve given e) (resolve (given.map ({ · with documentKey := key })) e')) ∧
    ∀ s, resolve given e = .ok s → s.engine = .api →
      ∃ p, s.provider = some p ∧ Chooses (given.getD {}) e p s.key ∧
        s.key ≠ "" ∧ Text.trimmed s.key = s.key ∧
        ∃ c, Client.ofSelection s = .ok c ∧ c.provider = p.name := by
  refine ⟨fun h => agree_of_chosen (chosen_of_decides h), fun name hname hkey => ?_, fun hname hfirst => ?_,
    fun key hsame => ?_, fun s hs hengine => ?_⟩
  · refine agree_of_chosen (chosen_congr (fun name' p _ hname' hread _ => ?_) fun _ hname' => ?_)
    · cases hname.symm.trans hname'
      exact hkey p hread
    · cases hname.symm.trans hname'
  · refine agree_of_chosen (chosen_congr (fun name' p _ hname' => ?_) fun _ _ _ => first?_congr hfirst)
    cases hname.symm.trans hname'
  · have hkeys : keyIn? e = keyIn? e' := by
      funext p
      rw [keyIn?, keyIn?, nonBlank?, nonBlank?, hsame _ p.keyVariable_ne]
    have hchosen : chosen e (given.getD {}) = chosen e' (given.getD {}) :=
      chosen_congr (fun _ p _ _ _ _ => congrFun hkeys p) fun _ _ _ => congrArg first? hkeys
    refine agree_of_chosen (hchosen.trans ?_)
    cases given <;> rfl
  · obtain ⟨p, hp, hchooses⟩ := chooses_of_resolve hs hengine
    have hkey := hchooses.isKey
    exact ⟨p, hp, hchooses, hkey.spoken, hkey.bare, exists_client hengine hp hkey⟩

/-- An environment with a blank key and a padded one. -/
def padded : String → Option String
  | "OPENAI_API_KEY" => some " "
  | "XAI_API_KEY" => some " x "
  | _ => none

/-- An environment with a key for documents beside that of a service. -/
def spare : String → Option String
  | "XAI_API_KEY" => some "x"
  | "CONTEXT7_API_KEY" => some "c"
  | _ => none

theorem keyIn?_padded (p : Provider) : keyIn? padded p = keyIn? spare p := by
  cases p <;> decide +kernel

theorem resolve_by_precedence_padded :
    Agree (resolve (some { engine := some "codex-cli" }) padded)
      (resolve (some { engine := some "codex-cli" }) spare) ∧
    Agree (resolve (some { provider := some " Grok " }) padded)
      (resolve (some { provider := some " Grok " }) spare) ∧
    Agree (resolve none padded) (resolve none spare) ∧
    ∃ s, resolve none padded = .ok s ∧ s.provider = some .xai ∧ s.key = "x" ∧
      ∃ c, Client.ofSelection s = .ok c ∧ c.provider = "xai" := by
  have hsome : IsFirst (keyIn? padded) .xai "x" :=
    ⟨[.anthropic, .openai, .gemini], [.zai, .openrouter], rfl, by decide +kernel, by decide +kernel⟩
  obtain ⟨s, hs, hengine, hp, hkey⟩ : ∃ s, resolve none padded = .ok s ∧ s.engine = .api ∧
      s.provider = some .xai ∧ s.key = "x" :=
    resolve_of_chooses rfl (.found rfl (fun q => by cases q <;> rfl) hsome)
  refine ⟨(resolve_by_precedence _ padded spare).1 (.tool (t := .codex) rfl), ?_, ?_, s, hs, hp, hkey, ?_⟩
  · exact (resolve_by_precedence _ padded spare).2.1 " Grok " rfl fun p _ => keyIn?_padded p
  · exact (resolve_by_precedence _ padded spare).2.2.1 rfl fun p key => by rw [funext keyIn?_padded]
  · obtain ⟨p, hp', -, -, -, c, hc, hname⟩ := (resolve_by_precedence none padded spare).2.2.2.2 s hs hengine
    cases hp.symm.trans hp'
    exact ⟨c, hc, hname⟩

end

end Selection

end Utterance

import DeliveryProbe.Proofs.RunHistory
import DeliveryProbe.Proofs.Spelling

/-! Where the values of a configuration come from. Each setting is decided by the first source that defines
it, from the command line through the environment and the file to the default; and a configuration is refused
for a number that cannot be read, for what is missing, for an address that is none and for a period of
nothing, and for nothing else. -/
namespace DeliveryProbe

def Configuration.number (c : Configuration) : NumberSetting → Nat
  | .port => c.port
  | .searchTimeout => c.searchTimeoutSeconds
  | .timeToFailure => c.timeToFailureSeconds
  | .appInterval => c.appIntervalMillis
  | .httpInterval => c.httpIntervalMillis
  | .watchInterval => c.watchIntervalMillis
  | .requestTimeout => c.requestTimeoutSeconds

/-- The number that a variable gives, none if it is not set or spells none. -/
def Environment.number? (env : Environment) (k : NumberSetting) : Option Nat :=
  (env.value? k.envName).bind fun raw => (Numeral.unsigned k.bound (Text.trim raw.toList)).toOption

/-- A variable that is set spells a number of its setting. -/
def Environment.Readable (env : Environment) (k : NumberSetting) : Prop :=
  ∀ raw, env.value? k.envName = some raw → ∃ n ≤ k.bound, Numeral.Spells (Text.trim raw.toList) n

def Settings.Overrides.number? (o : Settings.Overrides) : NumberSetting → Option Nat
  | .port => o.port
  | _ => none

namespace Settings

section Overlay
variable (env : Environment)

theorem numberFrom_readable {k : NumberSetting} (readable : env.Readable k) :
    numberFrom env k = .ok (env.number? k) := by
  unfold numberFrom Environment.number?
  cases set : env.value? k.envName with
  | none => rfl
  | some raw =>
    obtain ⟨n, small, spelt⟩ := readable raw set
    have read := (Numeral.unsigned_eq_ok (Text.trim raw.toList)).mpr ⟨spelt, small⟩
    simp only [read, Option.bind_some]
    rfl

theorem numberFrom_unreadable {k : NumberSetting} (unreadable : ¬env.Readable k) :
    ∃ f, numberFrom env k = .error f := by
  unfold numberFrom
  cases set : env.value? k.envName with
  | none =>
    have readable : env.Readable k := fun raw given => by rw [set] at given; contradiction
    exact absurd readable unreadable
  | some raw =>
    cases read : Numeral.unsigned k.bound (Text.trim raw.toList) with
    | error fault => exact ⟨_, by simp only [read]; rfl⟩
    | ok n =>
      obtain ⟨spelt, small⟩ := (Numeral.unsigned_eq_ok _).mp read
      refine absurd (fun raw' given => ?_) unreadable
      rw [set] at given
      obtain rfl := Option.some.inj given
      exact ⟨n, small, spelt⟩

theorem overlayNumbers_readable (ks : List NumberSetting) (s : Settings)
    (readable : ∀ k ∈ ks, env.Readable k) :
    overlayNumbers env ks s =
      .ok { s with number := fun k => if k ∈ ks then (env.number? k).or (s.number k) else s.number k } := by
  induction ks generalizing s with
  | nil => rfl
  | cons k ks ih =>
    rw [List.forall_mem_cons] at readable
    rw [overlayNumbers, numberFrom_readable env readable.1]
    cases given : env.number? k with
    | none =>
      dsimp only
      rw [ih s readable.2]
      congr 2
      funext x
      by_cases same : x = k
      · simp [same, given]
      · simp [same]
    | some n =>
      dsimp only
      rw [ih _ readable.2]
      congr 2
      funext x
      by_cases same : x = k
      · simp [same, given, setNumber]
      · simp [same, setNumber]

theorem overlayNumbers_unreadable {ks : List NumberSetting} {k : NumberSetting} (member : k ∈ ks)
    (unreadable : ¬env.Readable k) (s : Settings) : ∃ f, overlayNumbers env ks s = .error f := by
  induction ks generalizing s with
  | nil => contradiction
  | cons k' ks ih =>
    rw [overlayNumbers]
    cases read : numberFrom env k' with
    | error f => exact ⟨f, rfl⟩
    | ok n? =>
      rcases List.mem_cons.mp member with rfl | later
      · obtain ⟨f, failed⟩ := numberFrom_unreadable env unreadable
        rw [read] at failed
        contradiction
      · cases n? with
        | none => exact ih later s
        | some n => exact ih later _

end Overlay

section Load
variable (file : Settings) (env : Environment) (o : Overrides)

/-- All sources laid over one another. -/
def effective : Settings where
  text k := (env.value? k.envName).or (file.text k)
  number k := ((o.number? k).or (env.number? k)).or (file.number k)
  dryRun := if o.dryRun then some true else ((env.value? dryRunVariable).map isTruthy).or file.dryRun

theorem mem_all (k : NumberSetting) : k ∈ NumberSetting.all := by cases k <;> decide

theorem override_eq (s : Settings) :
    s.override o =
      { text := s.text
        number := fun k => (o.number? k).or (s.number k)
        dryRun := if o.dryRun then some true else s.dryRun } := by
  obtain ⟨dryRun, port?⟩ := o
  have silent : (fun k => (Overrides.number? ⟨dryRun, none⟩ k).or (s.number k)) = s.number := by
    funext k
    cases k <;> rfl
  have given (port : Nat) : (fun k => (Overrides.number? ⟨dryRun, some port⟩ k).or (s.number k)) =
      (s.setNumber .port port).number := by
    funext k
    cases k <;> rfl
  cases port? with
  | none =>
    rw [silent]
    cases dryRun <;> rfl
  | some port =>
    rw [given]
    cases dryRun <;> rfl

theorem load_readable (readable : ∀ k, env.Readable k) :
    load file env o = (effective file env o).finish := by
  have merged : file.overlay env = .ok
      { text := fun k => (env.value? k.envName).or (file.text k)
        number := fun k => (env.number? k).or (file.number k)
        dryRun := ((env.value? dryRunVariable).map isTruthy).or file.dryRun } := by
    rw [overlay, overlayNumbers_readable env _ _ fun k _ => readable k]
    simp only [mem_all, if_true]
  rw [load, merged]
  change (override _ o).finish = _
  simp only [override_eq, effective, Option.or_assoc]

theorem load_unreadable {k : NumberSetting} (unreadable : ¬env.Readable k) :
    ∃ f, load file env o = .error f := by
  obtain ⟨f, failed⟩ := overlayNumbers_unreadable env (mem_all k) unreadable
    { file with
      text := fun k => (env.value? k.envName).or (file.text k)
      dryRun := ((env.value? dryRunVariable).map isTruthy).or file.dryRun }
  have merged : file.overlay env = .error f := failed
  exact ⟨f, by rw [load, merged]; rfl⟩

/-- Where the text of a setting comes from, if any source defines it. -/
inductive TextFrom (k : TextSetting) : Option String → Prop where
  | environment {v : String} (set : env.value? k.envName = some v) : TextFrom k (some v)
  | file (unset : env.value? k.envName = none) : TextFrom k (file.text k)

/-- Where the number of a setting comes from. -/
inductive NumberFrom (k : NumberSetting) : Nat → Prop where
  | commandLine {n : Nat} (given : o.number? k = some n) : NumberFrom k n
  | environment {raw : String} {n : Nat} (silent : o.number? k = none) (set : env.value? k.envName = some raw)
      (spells : Numeral.Spells (Text.trim raw.toList) n) : NumberFrom k n
  | file {n : Nat} (silent : o.number? k = none) (unset : env.value? k.envName = none)
      (given : file.number k = some n) : NumberFrom k n
  | default (silent : o.number? k = none) (unset : env.value? k.envName = none)
      (absent : file.number k = none) : NumberFrom k k.default

/-- Where it comes from whether a run is dry. -/
inductive DryRunFrom : Bool → Prop where
  | commandLine (asked : o.dryRun = true) : DryRunFrom true
  | environment {raw : String} (silent : o.dryRun = false) (set : env.value? dryRunVariable = some raw) :
      DryRunFrom (decide (¬SaysNo raw))
  | file {v : Bool} (silent : o.dryRun = false) (unset : env.value? dryRunVariable = none)
      (given : file.dryRun = some v) : DryRunFrom v
  | default (silent : o.dryRun = false) (unset : env.value? dryRunVariable = none)
      (absent : file.dryRun = none) : DryRunFrom false

theorem textFrom_iff (k : TextSetting) (v : Option String) :
    TextFrom file env k v ↔ v = (effective file env o).text k := by
  simp only [effective]
  constructor
  · rintro (⟨set⟩ | ⟨unset⟩)
    · rw [set, Option.some_or]
    · rw [unset, Option.none_or]
  · rintro rfl
    cases set : env.value? k.envName with
    | none => exact .file set
    | some v => exact .environment set

theorem numberFrom_iff {k : NumberSetting} (readable : env.Readable k) (n : Nat) :
    NumberFrom file env o k n ↔ n = (effective file env o).numberOrDefault k := by
  simp only [effective, numberOrDefault]
  constructor
  · rintro (⟨given⟩ | ⟨silent, set, spells⟩ | ⟨silent, unset, given⟩ | ⟨silent, unset, absent⟩)
    · simp [given]
    · obtain ⟨m, small, spells'⟩ := readable _ set
      obtain rfl := spells.unique spells'
      have read := (Numeral.unsigned_eq_ok _).mpr ⟨spells, small⟩
      simp [silent, Environment.number?, set, read, Except.toOption]
    · simp [silent, Environment.number?, unset, given]
    · simp [silent, Environment.number?, unset, absent]
  · rintro rfl
    cases given : o.number? k with
    | some n => exact .commandLine given
    | none =>
      cases set : env.value? k.envName with
      | some raw =>
        obtain ⟨m, small, spells⟩ := readable _ set
        have read := (Numeral.unsigned_eq_ok _).mpr ⟨spells, small⟩
        simp only [Environment.number?, set, Option.bind_some, read]
        exact .environment given set spells
      | none =>
        cases filed : file.number k with
        | some n => simpa [Environment.number?, set] using .file given set filed
        | none => simpa [Environment.number?, set] using .default given set filed

theorem dryRunFrom_iff (b : Bool) :
    DryRunFrom file env o b ↔ b = (effective file env o).dryRun.getD false := by
  have truthy {raw : String} (set : env.value? dryRunVariable = some raw) :
      isTruthy raw = decide (¬SaysNo raw) := by
    have text : Text.isAllBlank raw = false := by
      simpa using (Option.filter_eq_some_iff.mp set).2
    rw [Bool.eq_iff_iff, isTruthy_iff text, decide_eq_true_eq]
  simp only [effective]
  constructor
  · rintro (⟨asked⟩ | ⟨silent, set⟩ | ⟨silent, unset, given⟩ | ⟨silent, unset, absent⟩)
    · simp [asked]
    · simp [silent, set, truthy set]
    · simp [silent, unset, given]
    · simp [silent, unset, absent]
  · rintro rfl
    cases asked : o.dryRun with
    | true => exact .commandLine asked
    | false =>
      cases set : env.value? dryRunVariable with
      | some raw => simpa [truthy set] using DryRunFrom.environment asked set
      | none =>
        cases filed : file.dryRun with
        | some v => simpa using .file asked set filed
        | none => simpa using .default asked set filed

/-- Why a configuration is refused. -/
inductive Refused : Prop where
  | invalidNumber {k : NumberSetting} {raw : String} (set : env.value? k.envName = some raw)
      (invalid : ¬∃ n ≤ k.bound, Numeral.Spells (Text.trim raw.toList) n) : Refused
  | missing {k : TextSetting} (needed : k ∈ [.systemName, .monitoredUrl, .searchToken])
      (absent : TextFrom file env k none) : Refused
  | noStore (absent : TextFrom file env .storeUrl none) (stores : DryRunFrom file env o false) : Refused
  | invalidAddress {raw : String} (given : TextFrom file env .metricsAddress (some raw))
      (invalid : SocketAddress.read? (Text.trim raw.toList) = none) : Refused
  | notPositive {k : NumberSetting} (interval : k ∈ [.appInterval, .httpInterval, .watchInterval])
      (zero : NumberFrom file env o k 0) : Refused

end Load

section Finish
variable {s : Settings}

/-- A computation that gives an error. -/
def Fails {α : Type} (x : Except Failure α) : Prop := ∃ f, x = .error f

theorem fails_bind {α β : Type} {x : Except Failure α} {next : α → Except Failure β} {p q : Prop}
    (first : Fails x ↔ p) (rest : ∀ a, Fails (next a) ↔ q) : Fails (x >>= next) ↔ p ∨ q := by
  cases x with
  | error f => exact ⟨fun _ => .inl (first.mp ⟨f, rfl⟩), fun _ => ⟨f, rfl⟩⟩
  | ok a =>
    have passes : ¬p := fun failing => nomatch (first.mpr failing).choose_spec
    exact ⟨fun failed => .inr ((rest a).mp failed), fun which => (rest a).mpr (which.resolve_left passes)⟩

theorem fails_required (k : TextSetting) : Fails (s.required k) ↔ s.text k = none := by
  unfold required
  cases s.text k with
  | none => exact ⟨fun _ => rfl, fun _ => ⟨_, rfl⟩⟩
  | some v => exact ⟨nofun, nofun⟩

theorem fails_storeUrl (dryRun : Bool) :
    Fails (s.storeUrl? dryRun) ↔ s.text .storeUrl = none ∧ dryRun = false := by
  unfold storeUrl?
  cases s.text .storeUrl with
  | some url => exact ⟨nofun, nofun⟩
  | none =>
    cases dryRun with
    | true => exact ⟨nofun, nofun⟩
    | false => exact ⟨fun _ => ⟨rfl, rfl⟩, fun _ => ⟨_, rfl⟩⟩

theorem fails_metricsAddress : Fails s.metricsAddress? ↔
    ∃ raw, s.text .metricsAddress = some raw ∧ SocketAddress.read? (Text.trim raw.toList) = none := by
  unfold metricsAddress?
  cases s.text .metricsAddress with
  | none => exact ⟨nofun, nofun⟩
  | some raw =>
    cases read : SocketAddress.read? (Text.trim raw.toList) with
    | none =>
      simp only [read]
      exact ⟨fun _ => ⟨raw, rfl, read⟩, fun _ => ⟨_, rfl⟩⟩
    | some address =>
      simp only [read]
      refine ⟨nofun, ?_⟩
      rintro ⟨_, same, unread⟩
      rw [← Option.some.inj same, read] at unread
      contradiction

theorem fails_positive (k : NumberSetting) : Fails (s.positive k) ↔ s.numberOrDefault k = 0 := by
  unfold positive
  by_cases zero : s.numberOrDefault k = 0
  · simp [zero, Fails]
  · simp [zero, Fails]

theorem fails_finish : Fails s.finish ↔
    s.text .systemName = none ∨ s.text .monitoredUrl = none ∨ s.text .searchToken = none ∨
      (s.text .storeUrl = none ∧ s.dryRun.getD false = false) ∨
      (∃ raw, s.text .metricsAddress = some raw ∧ SocketAddress.read? (Text.trim raw.toList) = none) ∨
      s.numberOrDefault .appInterval = 0 ∨ s.numberOrDefault .httpInterval = 0 ∨
      s.numberOrDefault .watchInterval = 0 ∨ False := by
  refine fails_bind (fails_required _) fun _ => ?_
  refine fails_bind (fails_required _) fun _ => ?_
  refine fails_bind (fails_required _) fun _ => ?_
  refine fails_bind (fails_storeUrl _) fun _ => ?_
  refine fails_bind fails_metricsAddress fun _ => ?_
  refine fails_bind (fails_positive _) fun _ => ?_
  refine fails_bind (fails_positive _) fun _ => ?_
  refine fails_bind (fails_positive _) fun _ => ?_
  exact ⟨nofun, False.elim⟩

/-- A configuration holds what the settings define. -/
structure Made (s : Settings) (c : Configuration) : Prop where
  systemName : s.text .systemName = some c.systemName
  monitoredUrl : ∃ url, s.text .monitoredUrl = some url ∧ c.monitoredUrl = trimSlashes url
  searchToken : s.text .searchToken = some c.searchToken
  searchUrl : c.searchUrl = trimSlashes ((s.text .searchUrl).getD defaultSearchUrl)
  storeUrl : c.storeUrl = (s.text .storeUrl).map trimSlashes
  metricsAddress : Option.Rel (fun raw address => SocketAddress.read? (Text.trim raw.toList) = some address)
    (s.text .metricsAddress) c.metricsAddress
  number (k : NumberSetting) : c.number k = s.numberOrDefault k
  dryRun : c.dryRun = s.dryRun.getD false

theorem required_ok {k : TextSetting} {v : String} (ok : s.required k = .ok v) : s.text k = some v := by
  unfold required at ok
  cases text : s.text k with
  | none => simp [text] at ok
  | some v' => simpa [text] using ok

theorem storeUrl_ok {dryRun : Bool} {url? : Option String} (ok : s.storeUrl? dryRun = .ok url?) :
    url? = (s.text .storeUrl).map trimSlashes := by
  unfold storeUrl? at ok
  cases text : s.text .storeUrl with
  | some url => simpa [text, eq_comm] using ok
  | none =>
    cases dryRun with
    | true => simpa [text, eq_comm] using ok
    | false => simp [text] at ok

theorem metricsAddress_ok {address? : Option SocketAddress} (ok : s.metricsAddress? = .ok address?) :
    Option.Rel (fun raw address => SocketAddress.read? (Text.trim raw.toList) = some address)
      (s.text .metricsAddress) address? := by
  unfold metricsAddress? at ok
  cases text : s.text .metricsAddress with
  | none =>
    obtain rfl : none = address? := by simpa [text] using ok
    exact .none
  | some raw =>
    cases read : SocketAddress.read? (Text.trim raw.toList) with
    | none => simp [text, read] at ok
    | some address =>
      obtain rfl : some address = address? := by simpa [text, read] using ok
      exact .some read

theorem positive_value {k : NumberSetting} {n : Nat} (ok : s.positive k = .ok n) : n = s.numberOrDefault k := by
  unfold positive at ok
  by_cases zero : s.numberOrDefault k = 0
  · simp [zero] at ok
  · simpa [zero, eq_comm] using ok

theorem made_of_finish {c : Configuration} (ok : s.finish = .ok c) : Made s c := by
  obtain ⟨_, systemName, ok⟩ := exists_of_bind_ok ok
  obtain ⟨_, monitoredUrl, ok⟩ := exists_of_bind_ok ok
  obtain ⟨_, searchToken, ok⟩ := exists_of_bind_ok ok
  obtain ⟨_, storeUrl, ok⟩ := exists_of_bind_ok ok
  obtain ⟨_, metricsAddress, ok⟩ := exists_of_bind_ok ok
  obtain ⟨_, app, ok⟩ := exists_of_bind_ok ok
  obtain ⟨_, http, ok⟩ := exists_of_bind_ok ok
  obtain ⟨_, watch, ok⟩ := exists_of_bind_ok ok
  obtain rfl := Except.ok.inj ok
  exact
    { systemName := required_ok systemName
      monitoredUrl := ⟨_, required_ok monitoredUrl, rfl⟩
      searchToken := required_ok searchToken
      searchUrl := rfl
      storeUrl := storeUrl_ok storeUrl
      metricsAddress := metricsAddress_ok metricsAddress
      number := by
        intro k
        cases k with
        | appInterval => exact positive_value app
        | httpInterval => exact positive_value http
        | watchInterval => exact positive_value watch
        | _ => rfl
      dryRun := rfl }

end Finish

/-- A setting of any kind. -/
inductive Setting where
  | text (k : TextSetting)
  | number (k : NumberSetting)
  | dryRun
  deriving DecidableEq

/-- The one variable that belongs to a setting. -/
def Setting.envName : Setting → String
  | .text k => k.envName
  | .number k => k.envName
  | .dryRun => dryRunVariable

def Setting.all : List Setting := TextSetting.all.map text ++ NumberSetting.all.map number ++ [dryRun]

theorem Setting.mem_all (x : Setting) : x ∈ all := by
  rcases x with k | k | _
  · cases k <;> decide
  · cases k <;> decide
  · decide

theorem Setting.envName_injective : Function.Injective Setting.envName := by
  have distinct : (all.map Setting.envName).Nodup := by decide
  exact fun x y same => List.inj_on_of_nodup_map distinct (mem_all x) (mem_all y) same

end Settings

/-- Two configurations with the same value of a setting. -/
def Configuration.Agree (c c' : Configuration) : Settings.Setting → Prop
  | .text .systemName => c.systemName = c'.systemName
  | .text .monitoredUrl => c.monitoredUrl = c'.monitoredUrl
  | .text .searchToken => c.searchToken = c'.searchToken
  | .text .searchUrl => c.searchUrl = c'.searchUrl
  | .text .storeUrl => c.storeUrl = c'.storeUrl
  | .text .metricsAddress => c.metricsAddress = c'.metricsAddress
  | .number k => c.number k = c'.number k
  | .dryRun => c.dryRun = c'.dryRun

namespace Settings

variable (file : Settings) (env : Environment) (o : Overrides)

/-- Each setting of a configuration has its value from the first source that defines it. -/
structure Layered (c : Configuration) : Prop where
  systemName : TextFrom file env .systemName (some c.systemName)
  monitoredUrl : ∃ url, TextFrom file env .monitoredUrl (some url) ∧ WithoutSlashes url c.monitoredUrl
  searchToken : TextFrom file env .searchToken (some c.searchToken)
  searchUrl : ∃ url?, TextFrom file env .searchUrl url? ∧
    WithoutSlashes (url?.getD defaultSearchUrl) c.searchUrl
  storeUrl : ∃ url?, TextFrom file env .storeUrl url? ∧ Option.Rel WithoutSlashes url? c.storeUrl
  metricsAddress : ∃ raw?, TextFrom file env .metricsAddress raw? ∧
    Option.Rel (fun raw address => SocketAddress.read? (Text.trim raw.toList) = some address) raw?
      c.metricsAddress
  number (k : NumberSetting) : NumberFrom file env o k (c.number k)
  dryRun : DryRunFrom file env o c.dryRun

theorem readable_of_load {c : Configuration} (ok : load file env o = .ok c) (k : NumberSetting) :
    env.Readable k := by
  by_contra unreadable
  obtain ⟨f, failed⟩ := load_unreadable file env o unreadable
  rw [ok] at failed
  contradiction

theorem made_of_load {c : Configuration} (ok : load file env o = .ok c) : Made (effective file env o) c := by
  rw [load_readable file env o (readable_of_load file env o ok)] at ok
  exact made_of_finish ok

theorem layered_of_load {c : Configuration} (ok : load file env o = .ok c) : Layered file env o c := by
  have made := made_of_load file env o ok
  have readable := readable_of_load file env o ok
  have text (k : TextSetting) : TextFrom file env k ((effective file env o).text k) :=
    (textFrom_iff file env o k _).mpr rfl
  obtain ⟨url, monitoredUrl, trimmed⟩ := made.monitoredUrl
  constructor
  case systemName => exact made.systemName ▸ text .systemName
  case monitoredUrl =>
    exact ⟨url, monitoredUrl ▸ text .monitoredUrl, trimmed ▸ withoutSlashes_trimSlashes url⟩
  case searchToken => exact made.searchToken ▸ text .searchToken
  case searchUrl => exact ⟨_, text .searchUrl, made.searchUrl ▸ withoutSlashes_trimSlashes _⟩
  case storeUrl =>
    refine ⟨_, text .storeUrl, ?_⟩
    rw [made.storeUrl]
    cases (effective file env o).text .storeUrl with
    | none => exact .none
    | some url => exact .some (withoutSlashes_trimSlashes url)
  case metricsAddress => exact ⟨_, text .metricsAddress, made.metricsAddress⟩
  case number => exact fun k => (numberFrom_iff file env o (readable k) _).mpr (made.number k)
  case dryRun => exact (dryRunFrom_iff file env o _).mpr made.dryRun

theorem refused_of_readable (readable : ∀ k, env.Readable k) :
    Fails (effective file env o).finish ↔ Refused file env o := by
  have text (k : TextSetting) (v : Option String) := textFrom_iff file env o k v
  have number (k : NumberSetting) (n : Nat) := numberFrom_iff file env o (readable k) n
  rw [fails_finish]
  constructor
  · rintro (absent | absent | absent | ⟨absent, dryRun⟩ | ⟨raw, given, invalid⟩ | zero | zero | zero |
      impossible)
    · exact .missing (k := .systemName) (by simp) ((text _ _).mpr absent.symm)
    · exact .missing (k := .monitoredUrl) (by simp) ((text _ _).mpr absent.symm)
    · exact .missing (k := .searchToken) (by simp) ((text _ _).mpr absent.symm)
    · exact .noStore ((text _ _).mpr absent.symm) ((dryRunFrom_iff file env o _).mpr dryRun.symm)
    · exact .invalidAddress ((text _ _).mpr given.symm) invalid
    · exact .notPositive (k := .appInterval) (by simp) ((number _ _).mpr zero.symm)
    · exact .notPositive (k := .httpInterval) (by simp) ((number _ _).mpr zero.symm)
    · exact .notPositive (k := .watchInterval) (by simp) ((number _ _).mpr zero.symm)
    · exact impossible.elim
  · intro refused
    cases refused with
    | invalidNumber set invalid => exact absurd (readable _ _ set) invalid
    | missing needed absent =>
      have none := ((text _ _).mp absent).symm
      simp only [List.mem_cons, List.not_mem_nil, or_false] at needed
      rcases needed with rfl | rfl | rfl <;> simp [none]
    | noStore absent stores =>
      simp [((text _ _).mp absent).symm, ((dryRunFrom_iff file env o _).mp stores).symm]
    | invalidAddress given invalid =>
      exact .inr (.inr (.inr (.inr (.inl ⟨_, ((text _ _).mp given).symm, invalid⟩))))
    | notPositive interval zero =>
      have none := ((number _ _).mp zero).symm
      simp only [List.mem_cons, List.not_mem_nil, or_false] at interval
      rcases interval with rfl | rfl | rfl <;> simp [none]

theorem refused_iff : (∃ f, load file env o = .error f) ↔ Refused file env o := by
  by_cases readable : ∀ k, env.Readable k
  · rw [load_readable file env o readable]
    exact refused_of_readable file env o readable
  · obtain ⟨k, unreadable⟩ := not_forall.mp readable
    refine ⟨fun _ => ?_, fun _ => load_unreadable file env o unreadable⟩
    unfold Environment.Readable at unreadable
    obtain ⟨raw, unread⟩ := not_forall.mp unreadable
    obtain ⟨set, invalid⟩ := Classical.not_imp.mp unread
    exact .invalidNumber set invalid

theorem rel_unique {α β : Type} {r : α → β → Prop} (functional : ∀ a b b', r a b → r a b' → b = b')
    {a? : Option α} {b? b'? : Option β} (first : Option.Rel r a? b?) (second : Option.Rel r a? b'?) :
    b? = b'? := by
  cases first with
  | none =>
    cases second
    rfl
  | some related =>
    cases second with
    | some related' => rw [functional _ _ _ related related']

/-- A setting does not depend on any variable but its own. -/
theorem agree_of_load {env' : Environment} {c c' : Configuration} (ok : load file env o = .ok c)
    (ok' : load file env' o = .ok c') {k : Setting} (same : env k.envName = env' k.envName) : c.Agree c' k := by
  have made := made_of_load file env o ok
  have made' := made_of_load file env' o ok'
  have own : env.value? k.envName = env'.value? k.envName := by
    rw [Environment.value?, Environment.value?, same]
  -- Each part of a configuration is made of its own setting alone.
  cases k with
  | text k =>
    have text : (effective file env o).text k = (effective file env' o).text k :=
      congrArg (fun v => Option.or v (file.text k)) own
    cases k with
    | systemName => exact Option.some.inj (made.systemName.symm.trans (text.trans made'.systemName))
    | monitoredUrl =>
      obtain ⟨url, given, trimmed⟩ := made.monitoredUrl
      obtain ⟨url', given', trimmed'⟩ := made'.monitoredUrl
      obtain rfl := Option.some.inj (given.symm.trans (text.trans given'))
      exact trimmed.trans trimmed'.symm
    | searchToken => exact Option.some.inj (made.searchToken.symm.trans (text.trans made'.searchToken))
    | searchUrl => exact made.searchUrl.trans (text ▸ made'.searchUrl.symm)
    | storeUrl => exact made.storeUrl.trans (text ▸ made'.storeUrl.symm)
    | metricsAddress =>
      have address := made.metricsAddress
      rw [text] at address
      exact rel_unique (fun _ _ _ read read' => Option.some.inj (read.symm.trans read')) address
        made'.metricsAddress
  | number k =>
    have number : (effective file env o).numberOrDefault k = (effective file env' o).numberOrDefault k := by
      have given : env.number? k = env'.number? k := by
        have value : env.value? k.envName = env'.value? k.envName := own
        rw [Environment.number?, value, Environment.number?]
      rw [numberOrDefault, numberOrDefault]
      simp only [effective, given]
    exact (made.number k).trans (number.trans (made'.number k).symm)
  | dryRun =>
    have dryRun : (effective file env o).dryRun = (effective file env' o).dryRun := by
      have given : env.value? dryRunVariable = env'.value? dryRunVariable := own
      simp only [effective, given]
    rw [Configuration.Agree, made.dryRun, made'.dryRun, dryRun]

/-- Where a configuration comes from: a load fails exactly for the stated reasons, takes each setting from the
first source that defines it, and lets no variable bear on a setting but its own. -/
theorem load_layers :
    ((∃ f, load file env o = .error f) ↔ Refused file env o) ∧
      (∀ c, load file env o = .ok c → Layered file env o c) ∧
      Function.Injective Setting.envName ∧
      ∀ (env' : Environment) (c c' : Configuration) (k : Setting), load file env o = .ok c →
        load file env' o = .ok c' → env k.envName = env' k.envName → c.Agree c' k :=
  ⟨refused_iff file env o, fun _ => layered_of_load file env o, Setting.envName_injective,
    fun _ _ _ _ ok ok' same => agree_of_load file env o ok ok' same⟩

namespace Shop

def inFile : Settings where
  text
    | .monitoredUrl => some "http://shop.test//"
    | .searchToken => some "secret"
    | .storeUrl => some "http://store.test/"
    | _ => none
  number
    | .port => some 8000
    | .watchInterval => some 10000
    | _ => none
  dryRun := some true

def inEnvironment : Environment
  | "ALAMO_APPLICATION" => some "shop"
  | "URL" => some "  "
  | "PORT" => some " 8081 "
  | "TEST_MODE" => some " Off "
  | _ => none

/-- The environment decides before the file, which decides where a variable is blank. -/
theorem environment_first :
    ∃ c, load inFile inEnvironment { dryRun := false, port := none } = .ok c ∧
      Layered inFile inEnvironment { dryRun := false, port := none } c ∧
      c.monitoredUrl = "http://shop.test" ∧ c.port = 8081 ∧ c.watchIntervalMillis = 10000 ∧ c.dryRun = false := by
  have loaded := load_layers inFile inEnvironment { dryRun := false, port := none }
  exact ⟨_, rfl, loaded.2.1 _ rfl, rfl, rfl, rfl, rfl⟩

end Shop

end Settings
end DeliveryProbe

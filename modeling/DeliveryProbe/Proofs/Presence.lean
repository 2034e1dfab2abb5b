import DeliveryProbe.Proofs.Readiness

/-! Which of the texts that a run needs a configuration really has. A text that no source gives is missed, and a blank
variable gives none. But a text that a settings file gives is not looked at, and the slashes of a URL are taken off only
after it has been found to be there. -/
namespace DeliveryProbe

/-- A URL of nothing but blanks, up to the slashes at its end. -/
def BlankUrl (url : String) : Prop := ∃ blank n, Text.isAllBlank blank = true ∧ url = blank ++ slashes n

theorem endsBare_of_blank {text : String} (blank : Text.isAllBlank text = true) : EndsBare text := by
  intro slash
  have impossible := List.all_eq_true.mp blank '/' (List.mem_of_getLast? slash)
  contradiction

theorem blankUrl_iff (url : String) : BlankUrl url ↔ Text.isAllBlank (trimSlashes url) = true := by
  constructor
  · rintro ⟨blank, n, all, rfl⟩
    rw [(endsBare_of_blank all).trimSlashes]
    exact all
  · intro all
    obtain ⟨⟨n, same⟩, -⟩ := withoutSlashes_trimSlashes url
    refine ⟨trimSlashes url, n, all, String.toList_inj.mp ?_⟩
    rw [same, slashes, String.toList_append, String.toList_ofList]

theorem BlankUrl.not_endsBare {url : String} (hollow : BlankUrl url) (text : Text.isAllBlank url = false) :
    ¬EndsBare url := by
  intro bare
  rw [blankUrl_iff, trimSlashes_of_endsBare bare, text] at hollow
  contradiction

namespace TextSetting

/-- What a configuration keeps of the text of a setting. -/
def kept (k : TextSetting) (text : String) : String := if k.isUrl then trimSlashes text else text

/-- A text that leaves nothing but blanks in the configuration. -/
def Hollow (k : TextSetting) (text : String) : Prop :=
  if k.isUrl then BlankUrl text else Text.isAllBlank text = true

theorem hollow_iff (k : TextSetting) (text : String) : k.Hollow text ↔ Text.isAllBlank (k.kept text) = true := by
  unfold Hollow kept
  split
  · exact blankUrl_iff text
  · exact Iff.rfl

theorem Hollow.isUrl {k : TextSetting} {text : String} (hollow : k.Hollow text)
    (some : Text.isAllBlank text = false) : k.isUrl = true ∧ ¬EndsBare text := by
  unfold Hollow at hollow
  split at hollow
  · next url => exact ⟨url, BlankUrl.not_endsBare hollow some⟩
  · rw [some] at hollow
    contradiction

end TextSetting

namespace Configuration

def text? (c : Configuration) : TextSetting → Option String
  | .systemName => some c.systemName
  | .monitoredUrl => some c.monitoredUrl
  | .searchToken => some c.searchToken
  | .searchUrl => some c.searchUrl
  | .storeUrl => c.storeUrl
  | .metricsAddress => none

/-- The texts that a run needs; it needs a store only if it is going to store something. -/
def Needs (c : Configuration) : TextSetting → Prop
  | .metricsAddress => False
  | .storeUrl => c.dryRun = false
  | _ => True

/-- Every text that a run needs is there and is not blank. -/
def Present (c : Configuration) : Prop := ∀ k, c.Needs k → ∃ v, c.text? k = some v ∧ Text.isAllBlank v = false

end Configuration

namespace Settings

section Finish
variable {s s' : Settings} {c : Configuration}

theorem Made.text? (made : Made s c) {k : TextSetting} (text : k ≠ .metricsAddress) {v : String}
    (given : s.text k = some v) : c.text? k = some (k.kept v) := by
  cases k with
  | systemName => exact made.systemName.symm.trans given
  | searchToken => exact made.searchToken.symm.trans given
  | monitoredUrl =>
    obtain ⟨url, same, trimmed⟩ := made.monitoredUrl
    obtain rfl := Option.some.inj (same.symm.trans given)
    exact congrArg some trimmed
  | searchUrl =>
    have trimmed := made.searchUrl
    rw [given] at trimmed
    exact congrArg some trimmed
  | storeUrl =>
    have trimmed := made.storeUrl
    rw [given] at trimmed
    exact trimmed
  | metricsAddress => contradiction

theorem given_of_needed (ok : s.finish = .ok c) {k : TextSetting} (needed : c.Needs k)
    (absent : s.text k = none) : k = .searchUrl := by
  have made := made_of_finish ok
  have contrary {v : String} (given : s.text k = some v) : k = .searchUrl := by
    rw [absent] at given
    contradiction
  cases k with
  | searchUrl => rfl
  | systemName => exact contrary made.systemName
  | searchToken => exact contrary made.searchToken
  | monitoredUrl =>
    obtain ⟨url, given, -⟩ := made.monitoredUrl
    exact contrary given
  | storeUrl =>
    have storeless : c.storeUrl = none := by rw [made.storeUrl, absent, Option.map_none]
    have dry := dryRun_of_storeless ok storeless
    rw [Configuration.Needs, dry] at needed
    contradiction
  | metricsAddress => exact needed.elim

theorem present_of_finish (ok : s.finish = .ok c) :
    c.Present ↔ ∀ k v, c.Needs k → s.text k = some v → ¬k.Hollow v := by
  have made := made_of_finish ok
  have kept {k : TextSetting} {v : String} (needed : c.Needs k) (given : s.text k = some v) :
      c.text? k = some (k.kept v) := by
    apply made.text? _ given
    rintro rfl
    exact needed
  constructor
  · intro present k v needed given hollow
    obtain ⟨u, same, text⟩ := present k needed
    rw [kept needed given] at same
    obtain rfl := Option.some.inj same
    rw [TextSetting.hollow_iff, text] at hollow
    contradiction
  · intro solid k needed
    cases given : s.text k with
    | some v =>
      refine ⟨k.kept v, kept needed given, ?_⟩
      rw [← Bool.not_eq_true, ← TextSetting.hollow_iff]
      exact solid k v needed given
    | none =>
      obtain rfl := given_of_needed ok needed given
      refine ⟨c.searchUrl, rfl, ?_⟩
      rw [made.searchUrl, given]
      decide

theorem finish_ok_of_given (ok : s.finish = .ok c) (given : ∀ k, s'.text k = none → s.text k = none)
    (address : s'.text .metricsAddress = s.text .metricsAddress) (number : s'.number = s.number)
    (dryRun : s'.dryRun = s.dryRun) : ∃ c', s'.finish = .ok c' := by
  cases finished : s'.finish with
  | ok c' => exact ⟨c', rfl⟩
  | error f =>
    have same (k : NumberSetting) : s'.numberOrDefault k = s.numberOrDefault k := by
      rw [numberOrDefault, number, numberOrDefault]
    have failing : Fails s'.finish := ⟨f, finished⟩
    simp only [fails_finish, address, dryRun, same] at failing
    have fails : Fails s.finish := by
      rw [fails_finish]
      rcases failing with absent | absent | absent | ⟨absent, stores⟩ | rest
      · exact .inl (given _ absent)
      · exact .inr (.inl (given _ absent))
      · exact .inr (.inr (.inl (given _ absent)))
      · exact .inr (.inr (.inr (.inl ⟨given _ absent, stores⟩)))
      · exact .inr (.inr (.inr (.inr rest)))
    obtain ⟨f, failed⟩ := fails
    rw [ok] at failed
    contradiction

end Finish

section Load
variable {file : Settings} {env : Environment} {o : Overrides} {c : Configuration}

theorem load_setText (ok : load file env o = .ok c) {k : TextSetting} (text : k ≠ .metricsAddress) (v : String) :
    ∃ c', load (file.setText k v) env o = .ok c' := by
  have readable := readable_of_load file env o ok
  rw [load_readable file env o readable] at ok
  rw [load_readable (file.setText k v) env o readable]
  apply finish_ok_of_given ok
  · intro x absent
    simp only [effective, setText] at absent ⊢
    obtain ⟨unset, absent⟩ := Option.or_eq_none_iff.mp absent
    split at absent
    · contradiction
    · rw [unset, absent, Option.none_or]
  · simp only [effective, setText, if_neg text.symm]
  · rfl
  · rfl

theorem present_of_load (ok : load file env o = .ok c) :
    c.Present ↔ ∀ k v, c.Needs k → TextFrom file env k (some v) → ¬k.Hollow v := by
  rw [load_readable file env o (readable_of_load file env o ok)] at ok
  rw [present_of_finish ok]
  simp only [textFrom_iff file env o, eq_comm]

end Load

/-- What is checked of the texts that a run needs. A configuration is refused where no source gives one; but it has
them all, and not blank, only if the texts that decide are not hollow. The environment gives no hollow text but URLs
of slashes, while the file may give any text at all. -/
theorem needed_texts_given (file : Settings) (env : Environment) (o : Overrides) :
    (∀ k ∈ [.systemName, .monitoredUrl, .searchToken], TextFrom file env k none →
      ∃ f, load file env o = .error f) ∧
    (TextFrom file env .storeUrl none → DryRunFrom file env o false → ∃ f, load file env o = .error f) ∧
    ∀ c, load file env o = .ok c →
      (c.storeUrl = none → c.dryRun = true) ∧
      (c.Present ↔ ∀ k v, c.Needs k → TextFrom file env k (some v) → ¬k.Hollow v) ∧
      (∀ (k : TextSetting) (v : String), env.value? k.envName = some v → k.Hollow v → k.isUrl = true ∧ ¬EndsBare v) ∧
      ∀ (k : TextSetting) (v : String), k ≠ .metricsAddress → ∃ c', load (file.setText k v) env o = .ok c' := by
  refine ⟨?missing, ?storeless, ?accepted⟩
  case missing =>
    intro k needed absent
    exact (refused_iff file env o).mpr (.missing needed absent)
  case storeless =>
    intro absent stores
    exact (refused_iff file env o).mpr (.noStore absent stores)
  case accepted =>
    intro c ok
    refine ⟨?_, present_of_load ok, ?_, ?_⟩
    · rw [load_readable file env o (readable_of_load file env o ok)] at ok
      exact dryRun_of_storeless ok
    · intro k v set hollow
      have text : Text.isAllBlank v = false := by
        simpa using (Option.filter_eq_some_iff.mp set).2
      exact hollow.isUrl text
    · intro k v text
      exact load_setText ok text v

namespace Nameless

def inFile : Settings := unset.setText .systemName " "

def inEnvironment : Environment
  | "URL" => some "http://svc.local"
  | "PAPERTRAIL_TOKEN" => some "t"
  | "INFLUXDB" => some "http://influx:8086"
  | _ => none

/-- No variable gives a name, so that the blank one of the file decides, and any other would have. -/
theorem blank_name_decides :
    ∃ c, load inFile inEnvironment { dryRun := false, port := none } = .ok c ∧ ¬c.Present ∧
      ∃ c', load (inFile.setText .systemName "shop") inEnvironment { dryRun := false, port := none } = .ok c' := by
  obtain ⟨-, -, accepted⟩ := needed_texts_given inFile inEnvironment { dryRun := false, port := none }
  obtain ⟨-, present, -, anyText⟩ := accepted _ rfl
  refine ⟨_, rfl, ?_, anyText .systemName "shop" (by decide)⟩
  rw [present]
  intro solid
  have named : TextFrom inFile inEnvironment .systemName (some " ") := .file rfl
  exact solid .systemName " " trivial named (show Text.isAllBlank " " = true by decide)

/-- A blank name in the settings file is accepted, and so is a URL that is only a slash. -/
theorem accepted_without_texts :
    ¬∀ file env o c, load file env o = .ok c → c.Present := by
  intro present
  obtain ⟨v, name, text⟩ := present inFile inEnvironment { dryRun := false, port := none } _ rfl .systemName trivial
  obtain rfl := Option.some.inj name
  contradiction

end Nameless

end Settings
end DeliveryProbe

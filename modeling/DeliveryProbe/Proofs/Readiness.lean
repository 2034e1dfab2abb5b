import DeliveryProbe.Proofs.Layering
import DeliveryProbe.Store

/-! What a configuration that has been accepted is good for. Its tasks have periods, its samples have a store, and its
URLs end where a path can follow; slashes behind the URLs that the sources give make no difference. -/
namespace DeliveryProbe

def slashes (n : Nat) : String := String.ofList (List.replicate n '/')

/-- A path can follow the URL as it is. -/
def EndsBare (url : String) : Prop := url.toList.getLast? ≠ some '/'

theorem trimSlashes_slashes (url : String) (n : Nat) : trimSlashes (url ++ slashes n) = trimSlashes url := by
  simp [trimSlashes, slashes, Text.dropTrailing_append_replicate]

theorem endsBare_trimSlashes (url : String) : EndsBare (trimSlashes url) := (withoutSlashes_trimSlashes url).2

theorem trimSlashes_of_endsBare {url : String} (bare : EndsBare url) : trimSlashes url = url := by
  apply String.toList_inj.mp
  rw [trimSlashes, String.toList_ofList, Text.dropTrailing_eq_self_iff]
  intro c last
  rw [decide_eq_false_iff_not]
  rintro rfl
  exact bare last

theorem EndsBare.trimSlashes {url : String} (bare : EndsBare url) (n : Nat) : trimSlashes (url ++ slashes n) = url := by
  rw [trimSlashes_slashes, trimSlashes_of_endsBare bare]

namespace Endpoint
variable {url : String} (bare : EndsBare url) (n : Nat)
include bare

theorem search_slashes : search (url ++ slashes n) = url ++ "/api/v1/events/search.json" := by
  rw [search, bare.trimSlashes]

theorem write_slashes (system : String) :
    write (url ++ slashes n) system = url ++ "/write?db=logmonitor&_http_tag=" ++ system := by
  rw [write, bare.trimSlashes]

theorem sample_slashes (number : String) : sample (url ++ slashes n) number = url ++ Marker.samplePath number := by
  rw [sample, bare.trimSlashes]

end Endpoint

/-- A setting whose text is a URL that paths are put behind. -/
def TextSetting.isUrl : TextSetting → Bool
  | .monitoredUrl | .searchUrl | .storeUrl => true
  | _ => false

/-- The text of a setting with so many slashes behind it, if it is a URL. -/
def TextSetting.slashed (k : TextSetting) (n : Nat) (text : String) : String :=
  if k.isUrl then text ++ slashes n else text

theorem TextSetting.trimSlashes_slashed (k : TextSetting) (url : k.isUrl = true) (n : Nat) (text : String) :
    trimSlashes (k.slashed n text) = trimSlashes text := by
  rw [slashed, if_pos url, trimSlashes_slashes]

/-- The settings with slashes put behind every URL among them. -/
def Settings.slashed (s : Settings) (extra : TextSetting → Nat) : Settings :=
  { s with text := fun k => (s.text k).map (k.slashed (extra k)) }

/-- The environment with slashes put behind every URL in it. A blank variable gives no URL and stays as it is. -/
def Environment.slashed (env : Environment) (extra : TextSetting → Nat) : Environment := fun name =>
  match TextSetting.all.find? (·.envName = name) with
  | some k => (env name).map fun v => if Text.isAllBlank v then v else k.slashed (extra k) v
  | none => env name

namespace Environment
variable (env : Environment) (extra : TextSetting → Nat)

theorem slashed_text (k : TextSetting) :
    env.slashed extra k.envName =
      (env k.envName).map fun v => if Text.isAllBlank v then v else k.slashed (extra k) v := by
  cases k <;> rfl

theorem slashed_number (k : NumberSetting) : env.slashed extra k.envName = env k.envName := by
  cases k <;> rfl

theorem isAllBlank_slashed {v : String} (text : Text.isAllBlank v = false) (k : TextSetting) (n : Nat) :
    Text.isAllBlank (k.slashed n v) = false := by
  unfold TextSetting.slashed
  split
  · rw [Text.isAllBlank] at text ⊢
    rw [String.toList_append, List.all_append, text, Bool.false_and]
  · exact text

theorem value?_slashed (k : TextSetting) :
    (env.slashed extra).value? k.envName = (env.value? k.envName).map (k.slashed (extra k)) := by
  rw [value?, slashed_text, value?]
  cases env k.envName with
  | none => rfl
  | some v =>
    cases blank : Text.isAllBlank v with
    | true => simp [Option.filter, blank]
    | false => simp [Option.filter, blank, isAllBlank_slashed blank]

theorem value?_slashed_number (k : NumberSetting) :
    (env.slashed extra).value? k.envName = env.value? k.envName := by
  rw [value?, slashed_number, value?]

end Environment

namespace Settings

section Finish
variable (s : Settings) (extra : TextSetting → Nat)

@[simp] theorem text_slashed (k : TextSetting) : (s.slashed extra).text k = (s.text k).map (k.slashed (extra k)) := rfl

theorem numberOrDefault_slashed (k : NumberSetting) :
    (s.slashed extra).numberOrDefault k = s.numberOrDefault k := rfl

theorem positive_slashed (k : NumberSetting) : (s.slashed extra).positive k = s.positive k := rfl

theorem required_slashed (k : TextSetting) :
    (s.slashed extra).required k = (s.required k).map (k.slashed (extra k)) := by
  rw [required, text_slashed, required]
  cases s.text k <;> rfl

theorem storeUrl?_slashed (dryRun : Bool) : (s.slashed extra).storeUrl? dryRun = s.storeUrl? dryRun := by
  rw [storeUrl?, text_slashed, storeUrl?]
  cases s.text .storeUrl with
  | none => rfl
  | some url =>
    have trimmed := TextSetting.trimSlashes_slashed .storeUrl rfl (extra .storeUrl) url
    simp only [Option.map_some, trimmed]

theorem metricsAddress?_slashed : (s.slashed extra).metricsAddress? = s.metricsAddress? := by
  rw [metricsAddress?, text_slashed, metricsAddress?]
  cases s.text .metricsAddress <;> rfl

theorem searchUrl_slashed :
    trimSlashes (((s.slashed extra).text .searchUrl).getD defaultSearchUrl) =
      trimSlashes ((s.text .searchUrl).getD defaultSearchUrl) := by
  rw [text_slashed]
  cases s.text .searchUrl with
  | none => rfl
  | some url => exact TextSetting.trimSlashes_slashed .searchUrl rfl (extra .searchUrl) url

theorem required_slashed_of_not_url {k : TextSetting} (other : k.isUrl = false) :
    (s.slashed extra).required k = s.required k := by
  have same : k.slashed (extra k) = id := by
    funext text
    simp [TextSetting.slashed, other]
  rw [required, text_slashed, same, Option.map_id_fun, id, required]

/-- Slashes behind the URLs of the settings do not change the configuration that they make. -/
theorem finish_slashed : (s.slashed extra).finish = s.finish := by
  have systemName := required_slashed_of_not_url s extra (show TextSetting.systemName.isUrl = false from rfl)
  have searchToken := required_slashed_of_not_url s extra (show TextSetting.searchToken.isUrl = false from rfl)
  have dryRun : (s.slashed extra).dryRun = s.dryRun := rfl
  simp only [finish, dryRun, systemName, searchToken, searchUrl_slashed, metricsAddress?_slashed, storeUrl?_slashed,
    required_slashed, positive_slashed, numberOrDefault_slashed]
  congr 1
  funext name
  cases s.required .monitoredUrl with
  | error f => rfl
  | ok url =>
    have trimmed := TextSetting.trimSlashes_slashed .monitoredUrl rfl (extra .monitoredUrl) url
    simp only [Except.map, bind, Except.bind, trimmed]

end Finish

section Load
variable {file : Settings} {env : Environment} {o : Overrides} {c : Configuration}

/-- Whichever source gives a text, it gives it with the slashes that were put behind it there. -/
theorem effective_slashed (inFile inEnv : TextSetting → Nat) :
    effective (file.slashed inFile) (env.slashed inEnv) o =
      (effective file env o).slashed fun k => if (env.value? k.envName).isSome then inEnv k else inFile k := by
  have text (k : TextSetting) :
      ((env.slashed inEnv).value? k.envName).or ((file.text k).map (k.slashed (inFile k))) =
        ((env.value? k.envName).or (file.text k)).map
          (k.slashed (if (env.value? k.envName).isSome then inEnv k else inFile k)) := by
    rw [env.value?_slashed]
    cases env.value? k.envName <;> rfl
  have number (k : NumberSetting) : (env.slashed inEnv).number? k = env.number? k := by
    rw [Environment.number?, env.value?_slashed_number, Environment.number?]
  have dryRun : (env.slashed inEnv).value? dryRunVariable = env.value? dryRunVariable := rfl
  simp only [effective, slashed, text, number, dryRun]

theorem load_slashed (ok : load file env o = .ok c) (inFile inEnv : TextSetting → Nat) :
    load (file.slashed inFile) (env.slashed inEnv) o = .ok c := by
  have readable := readable_of_load file env o ok
  have readable' (k : NumberSetting) : (env.slashed inEnv).Readable k := by
    intro raw set
    rw [env.value?_slashed_number] at set
    exact readable k raw set
  rw [load_readable _ _ _ readable', effective_slashed, finish_slashed, ← load_readable file env o readable, ok]

end Load
end Settings

/-- What a run takes for granted of its configuration: that every task has a period, that samples have a store, and
that paths can be put right behind the URLs. -/
structure Configuration.Ready (c : Configuration) : Prop where
  periodic : c.Periodic
  runs (s : Monitor.Setup) : s.config = c → ∃ r, Monitor.run? s = some r
  storeless : c.storeUrl = none → c.dryRun = true
  store : (c.dryRun = true ∧ c.store = .ok .log) ∨
    ∃ url, c.dryRun = false ∧ c.storeUrl = some url ∧ c.store = .ok (.server url)
  monitoredUrl : EndsBare c.monitoredUrl
  searchUrl : EndsBare c.searchUrl
  storeUrl (url : String) : c.storeUrl = some url → EndsBare url
  search (n : Nat) : Endpoint.search (c.searchUrl ++ slashes n) = c.searchUrl ++ "/api/v1/events/search.json"
  write (url : String) : c.storeUrl = some url → ∀ (n : Nat) (system : String),
    Endpoint.write (url ++ slashes n) system = url ++ "/write?db=logmonitor&_http_tag=" ++ system
  sample (n : Nat) (number : String) :
    Endpoint.sample (c.monitoredUrl ++ slashes n) number = c.monitoredUrl ++ Marker.samplePath number

/-- Every configuration with a server to store at, or with leave to store nothing, has a store. -/
theorem Configuration.store_ok {c : Configuration} (storeless : c.storeUrl = none → c.dryRun = true) :
    (c.dryRun = true ∧ c.store = .ok .log) ∨
      ∃ url, c.dryRun = false ∧ c.storeUrl = some url ∧ c.store = .ok (.server url) := by
  unfold store
  cases dry : c.dryRun with
  | true =>
    left
    exact ⟨rfl, rfl⟩
  | false =>
    right
    cases given : c.storeUrl with
    | none => simp [storeless given] at dry
    | some url => exact ⟨url, rfl, rfl, rfl⟩

namespace Settings
variable {s file : Settings} {env : Environment} {o : Overrides} {c : Configuration}

/-- Only a dry run goes without a store. -/
theorem dryRun_of_storeless (ok : s.finish = .ok c) (storeless : c.storeUrl = none) : c.dryRun = true := by
  by_contra stores
  have made := made_of_finish ok
  have absent : s.text .storeUrl = none := by
    rw [made.storeUrl] at storeless
    exact Option.map_eq_none_iff.mp storeless
  have stores : s.dryRun.getD false = false := by
    rw [← made.dryRun]
    exact Bool.eq_false_iff.mpr stores
  obtain ⟨f, failed⟩ := fails_finish.mpr (.inr (.inr (.inr (.inl ⟨absent, stores⟩))))
  rw [ok] at failed
  contradiction

theorem ready_of_finish (ok : s.finish = .ok c) : c.Ready := by
  have made := made_of_finish ok
  have storeless := dryRun_of_storeless ok
  have monitoredUrl : EndsBare c.monitoredUrl := by
    obtain ⟨url, -, trimmed⟩ := made.monitoredUrl
    rw [trimmed]
    exact endsBare_trimSlashes url
  have searchUrl : EndsBare c.searchUrl := by
    rw [made.searchUrl]
    exact endsBare_trimSlashes _
  have storeUrl (url : String) (given : c.storeUrl = some url) : EndsBare url := by
    rw [made.storeUrl] at given
    obtain ⟨raw, -, rfl⟩ := Option.map_eq_some_iff.mp given
    exact endsBare_trimSlashes raw
  constructor
  case periodic => exact periodic_of_finish ok
  case runs =>
    rintro setup rfl
    exact Monitor.run?_isSome (periodic_of_finish ok)
  case storeless => exact storeless
  case store => exact Configuration.store_ok storeless
  case monitoredUrl => exact monitoredUrl
  case searchUrl => exact searchUrl
  case storeUrl => exact storeUrl
  case search => exact Endpoint.search_slashes searchUrl
  case write =>
    intro url given n system
    exact Endpoint.write_slashes (storeUrl url given) n system
  case sample => exact Endpoint.sample_slashes monitoredUrl

/-- A configuration that loads can be run, and slashes behind the URLs in its sources would not have changed it. -/
theorem loaded_ready (file : Settings) (env : Environment) (o : Overrides) (c : Configuration)
    (ok : load file env o = .ok c) :
    c.Ready ∧ ∀ inFile inEnv, load (file.slashed inFile) (env.slashed inEnv) o = .ok c := by
  have finished := ok
  rw [load_readable file env o (readable_of_load file env o ok)] at finished
  exact ⟨ready_of_finish finished, load_slashed ok⟩

namespace Shop

/-- Slashes in both sources: the configuration stores at the URL of the file without its slash. -/
theorem ready_with_slashes :
    ∃ c, load inFile inEnvironment { dryRun := false, port := none } = .ok c ∧ c.Ready ∧
      c.storeUrl = some "http://store.test" ∧
      load (inFile.slashed fun _ => 2) (inEnvironment.slashed fun _ => 3) { dryRun := false, port := none } = .ok c := by
  obtain ⟨ready, slashed⟩ := loaded_ready inFile inEnvironment { dryRun := false, port := none } _ rfl
  exact ⟨_, rfl, ready, rfl, slashed _ _⟩

end Shop

end Settings
end DeliveryProbe

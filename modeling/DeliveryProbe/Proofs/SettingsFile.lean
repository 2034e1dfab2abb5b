import DeliveryProbe.Proofs.Layering
import DeliveryProbe.Proofs.TomlExtent
import Mathlib.Data.List.Perm.Basic

/-! Settings files are read strictly. The settings that a file defines are those of its entries, one for each, in
whatever order. A file with one more line that is no entry of this kind is refused as a whole. -/
namespace DeliveryProbe

namespace Settings

namespace Setting

def key : Setting → String
  | .text k => k.key
  | .number k => k.key
  | .dryRun => dryRunKey

theorem key_injective : Function.Injective key := by
  have distinct : (all.map key).Nodup := by decide
  exact fun x y same => List.inj_on_of_nodup_map distinct (mem_all x) (mem_all y) same

theorem bareKey (x : Setting) : x.key.toList ≠ [] ∧ ∀ c ∈ x.key.toList, Toml.isBareKeyChar c = true := by
  have bare : x.key.toList ≠ [] ∧ x.key.toList.all Toml.isBareKeyChar = true := by
    rcases x with k | k | _
    · cases k <;> decide
    · cases k <;> decide
    · decide
  exact ⟨bare.1, List.all_eq_true.mp bare.2⟩

def kind : Setting → Toml.Kind
  | .text _ => .string
  | .number _ => .integer
  | .dryRun => .boolean

def Admits : Setting → Toml.Value → Prop
  | .text _, .string _ => True
  | .number k, .integer n => 0 ≤ n ∧ n ≤ k.bound
  | .dryRun, .boolean _ => True
  | _, _ => False

end Setting

/-- The value of a setting, as it stands in a file. -/
def value? (s : Settings) : Setting → Option Toml.Value
  | .text k => (s.text k).map .string
  | .number k => (s.number k).map fun n : Nat => .integer n
  | .dryRun => s.dryRun.map .boolean

def assign (s : Settings) : Setting → Toml.Value → Settings
  | .text k, .string v => s.setText k v
  | .number k, .integer n => s.setNumber k n.toNat
  | .dryRun, .boolean b => { s with dryRun := some b }
  | _, _ => s

/-- Every setting has a value that it can have. -/
def Admissible (s : Settings) : Prop := ∀ x v, s.value? x = some v → x.Admits v

variable {s s' : Settings} {x : Setting} {v : Toml.Value} {e : Toml.Entry} {entries : List Toml.Entry}

theorem value?_assign (admits : x.Admits v) (y : Setting) :
    (s.assign x v).value? y = if y = x then some v else s.value? y := by
  cases x with
  | text k =>
    cases v with
    | string t =>
      cases y with
      | text k' => by_cases same : k' = k <;> simp [assign, value?, setText, same]
      | number | dryRun => rfl
    | integer | boolean => contradiction
  | number k =>
    cases v with
    | integer n =>
      have natural : (n.toNat : Int) = n := Int.toNat_of_nonneg admits.1
      cases y with
      | number k' => by_cases same : k' = k <;> simp [assign, value?, setNumber, same, natural]
      | text | dryRun => rfl
    | string | boolean => contradiction
  | dryRun =>
    cases v with
    | boolean b => cases y <;> rfl
    | string | integer => contradiction

theorem ext_value? (same : ∀ x, s.value? x = s'.value? x) : s = s' := by
  have texts : s.text = s'.text := by
    funext k
    exact Option.map_injective (fun _ _ same => Toml.Value.string.inj same) (same (.text k))
  have numbers : s.number = s'.number := by
    funext k
    exact Option.map_injective (fun _ _ same => Int.ofNat.inj (Toml.Value.integer.inj same)) (same (.number k))
  have dryRuns : s.dryRun = s'.dryRun :=
    Option.map_injective (fun _ _ same => Toml.Value.boolean.inj same) (same .dryRun)
  cases s
  cases s'
  simp_all

theorem toEntries_eq (s : Settings) :
    s.toEntries = Setting.all.filterMap fun x => (s.value? x).map fun v => { key := x.key, value := v } := by
  have last : s.dryRun.toList.map (fun v => { key := dryRunKey, value := .boolean v : Toml.Entry }) =
      [Setting.dryRun].filterMap fun x => (s.value? x).map fun v => { key := x.key, value := v } := by
    simp only [value?, Setting.key, List.filterMap_cons, List.filterMap_nil]
    cases s.dryRun <;> rfl
  rw [toEntries, last, Setting.all, List.filterMap_append, List.filterMap_append, List.filterMap_map,
    List.filterMap_map]
  simp only [Function.comp_def, value?, Option.map_map, Setting.key]

theorem mem_toEntries : e ∈ s.toEntries ↔ ∃ x : Setting, x.key = e.key ∧ s.value? x = some e.value := by
  rw [toEntries_eq, List.mem_filterMap]
  constructor
  · rintro ⟨x, -, found⟩
    obtain ⟨v, value, rfl⟩ := Option.map_eq_some_iff.mp found
    exact ⟨x, rfl, value⟩
  · rintro ⟨x, named, value⟩
    refine ⟨x, x.mem_all, ?_⟩
    rw [value, named]
    rfl

theorem keys_nodup (s : Settings) : (s.toEntries.map (·.key)).Nodup := by
  have all : Setting.all.Nodup := by decide
  rw [toEntries_eq, List.map_filterMap]
  refine all.filterMap fun x y key own own' => ?_
  simp only [Option.map_map, Option.mem_def, Option.map_eq_some_iff, Function.comp_def] at own own'
  obtain ⟨-, -, rfl⟩ := own
  obtain ⟨-, -, same⟩ := own'
  exact Setting.key_injective same.symm

theorem addEntry?_setting (s : Settings) (x : Setting) (v : Toml.Value) (s' : Settings) :
    addEntry? s { key := x.key, value := v } = some s' ↔ s.value? x = none ∧ x.Admits v ∧ s' = s.assign x v := by
  cases x with
  | text k =>
    have found : TextSetting.all.find? (·.key = k.key) = some k := by cases k <;> rfl
    unfold addEntry?
    rw [Setting.key, found, value?]
    cases own : s.text k <;> cases v <;> simp [own, Setting.Admits, assign, eq_comm]
  | number k =>
    have other : TextSetting.all.find? (·.key = k.key) = none := by cases k <;> rfl
    have found : NumberSetting.all.find? (·.key = k.key) = some k := by cases k <;> rfl
    unfold addEntry?
    rw [Setting.key, other, found, value?]
    cases own : s.number k with
    | none =>
      cases v with
      | integer n =>
        by_cases within : 0 ≤ n ∧ n ≤ k.bound <;> simp [own, numberOf?, Setting.Admits, assign, within, eq_comm]
      | string | boolean => simp [numberOf?, Setting.Admits]
    | some => simp [own]
  | dryRun =>
    have other : TextSetting.all.find? (·.key = dryRunKey) = none := rfl
    have other' : NumberSetting.all.find? (·.key = dryRunKey) = none := rfl
    unfold addEntry?
    rw [Setting.key, other, other', value?]
    cases s.dryRun <;> cases v <;> simp [Setting.Admits, assign, eq_comm]

theorem addEntry?_other (other : ∀ x : Setting, x.key ≠ e.key) : addEntry? s e = none := by
  have text : TextSetting.all.find? (·.key = e.key) = none := by
    rw [List.find?_eq_none]
    exact fun k _ same => other (.text k) (of_decide_eq_true same)
  have number : NumberSetting.all.find? (·.key = e.key) = none := by
    rw [List.find?_eq_none]
    exact fun k _ same => other (.number k) (of_decide_eq_true same)
  unfold addEntry?
  rw [text, number]
  exact if_neg (other .dryRun).symm

theorem addEntry?_eq_some : addEntry? s e = some s' ↔
    ∃ x : Setting, x.key = e.key ∧ s.value? x = none ∧ x.Admits e.value ∧ s' = s.assign x e.value := by
  by_cases named : ∃ x : Setting, x.key = e.key
  · obtain ⟨x, same⟩ := named
    have whole : e = { key := x.key, value := e.value } := by rw [same]
    rw [whole, addEntry?_setting]
    constructor
    · exact fun added => ⟨x, rfl, added⟩
    · rintro ⟨y, same, added⟩
      exact Setting.key_injective same ▸ added
  · rw [addEntry?_other (not_exists.mp named)]
    exact ⟨nofun, fun ⟨x, same, _⟩ => absurd ⟨x, same⟩ named⟩

theorem Admissible.assign (admissible : s.Admissible) (admits : x.Admits v) : (s.assign x v).Admissible := by
  intro y w value
  rw [value?_assign admits] at value
  split at value
  · next same => exact same ▸ Option.some.inj value ▸ admits
  · exact admissible y w value

theorem toEntries_assign (named : x.key = e.key) (none : s.value? x = none) (admits : x.Admits e.value) :
    (s.assign x e.value).toEntries.Perm (e :: s.toEntries) := by
  have fresh : e ∉ s.toEntries := by
    rw [mem_toEntries]
    rintro ⟨y, same, value⟩
    rw [Setting.key_injective (same.trans named.symm), none] at value
    contradiction
  rw [List.perm_ext_iff_of_nodup (keys_nodup _).of_map (List.nodup_cons.mpr ⟨fresh, (keys_nodup s).of_map⟩)]
  intro e'
  rw [List.mem_cons, mem_toEntries, mem_toEntries]
  constructor
  · rintro ⟨y, same, value⟩
    rw [value?_assign admits] at value
    split at value
    · next own =>
      rw [own, named] at same
      exact .inl ((Toml.Entry.mk.injEq ..).mpr ⟨same.symm, (Option.some.inj value).symm⟩)
    · exact .inr ⟨y, same, value⟩
  · rintro (rfl | ⟨y, same, value⟩)
    · exact ⟨x, named, by rw [value?_assign admits, if_pos rfl]⟩
    · refine ⟨y, same, ?_⟩
      rw [value?_assign admits, if_neg, value]
      rintro rfl
      rw [none] at value
      contradiction

theorem key_ne_of_perm {front behind : List Toml.Entry} (same : (front ++ e :: behind).Perm s.toEntries) :
    ∀ e' ∈ front ++ behind, e'.key ≠ e.key := by
  have keys := (same.map (·.key)).nodup_iff.mpr (keys_nodup s)
  rw [(List.perm_middle.map _).nodup_iff, List.map_cons, List.nodup_cons] at keys
  exact fun e' member named => keys.1 (named ▸ List.mem_map_of_mem member)

theorem eq_of_toEntries_perm (same : s.toEntries.Perm s'.toEntries) : s = s' := by
  have value (x : Setting) (v : Toml.Value) : s.value? x = some v ↔ s'.value? x = some v := by
    have own (s : Settings) : { key := x.key, value := v } ∈ s.toEntries ↔ s.value? x = some v := by
      rw [mem_toEntries]
      exact ⟨fun ⟨y, same, value⟩ => Setting.key_injective same ▸ value, fun value => ⟨x, rfl, value⟩⟩
    rw [← own, ← own, same.mem_iff]
  exact ext_value? fun x => Option.ext (value x)

theorem foldlM_addEntry? {s₀ : Settings} (admissible : s₀.Admissible) :
    entries.foldlM addEntry? s₀ = some s ↔ (s₀.toEntries ++ entries).Perm s.toEntries ∧ s.Admissible := by
  induction entries generalizing s₀ with
  | nil =>
    rw [List.append_nil]
    constructor
    · rintro ⟨⟩
      exact ⟨.refl _, admissible⟩
    · rintro ⟨same, -⟩
      exact congrArg some (eq_of_toEntries_perm same)
  | cons e entries ih =>
    rw [List.foldlM_cons, Option.bind_eq_bind, Option.bind_eq_some_iff]
    constructor
    · rintro ⟨s₁, added, read⟩
      obtain ⟨x, named, none, admits, rfl⟩ := addEntry?_eq_some.mp added
      obtain ⟨same, fits⟩ := (ih (admissible.assign admits)).mp read
      have front := (toEntries_assign named none admits).append_right entries
      exact ⟨List.perm_middle.trans (front.symm.trans same), fits⟩
    · rintro ⟨same, fits⟩
      obtain ⟨x, named, value⟩ := mem_toEntries.mp (same.mem_iff.mp (List.mem_append_right _ List.mem_cons_self))
      have admits := fits x e.value value
      have none : s₀.value? x = none := by
        rw [Option.eq_none_iff_forall_ne_some]
        intro w present
        have member : { key := x.key, value := w } ∈ s₀.toEntries := mem_toEntries.mpr ⟨x, rfl, present⟩
        exact key_ne_of_perm same _ (List.mem_append_left entries member) named
      refine ⟨s₀.assign x e.value, addEntry?_eq_some.mpr ⟨x, named, none, admits, rfl⟩, ?_⟩
      have front := (toEntries_assign named none admits).append_right entries
      exact (ih (admissible.assign admits)).mpr ⟨front.trans (List.perm_middle.symm.trans same), fits⟩

/-- Entries are those of settings exactly if they are the entries of its values, in some order. -/
theorem ofEntries?_eq_some : ofEntries? entries = some s ↔ entries.Perm s.toEntries ∧ s.Admissible := by
  have none : unset.Admissible := by
    intro x v value
    cases x <;> contradiction
  exact foldlM_addEntry? none

/-- Every number is one that its setting can have and that can be read. -/
def Fits (s : Settings) : Prop := ∀ k n, s.number k = some n → n ≤ k.bound ∧ (n : Int) ≤ Toml.maxInteger

theorem Fits.admits (fits : s.Fits) (value : s.value? x = some v) : x.Admits v ∧ v.storable = true := by
  cases x with
  | text | dryRun =>
    obtain ⟨t, -, rfl⟩ := Option.map_eq_some_iff.mp value
    exact ⟨trivial, rfl⟩
  | number k =>
    obtain ⟨n, own, rfl⟩ := Option.map_eq_some_iff.mp value
    obtain ⟨bounded, short⟩ := fits k n own
    have natural : Toml.minInteger ≤ n := Int.le_trans (by decide) (Int.natCast_nonneg n)
    refine ⟨⟨Int.natCast_nonneg n, Int.ofNat_le.mpr bounded⟩, ?_⟩
    simp [Toml.Value.storable, Toml.storable, natural, short]

theorem Fits.storable (fits : s.Fits) (written : entries.Perm s.toEntries) :
    ∀ e ∈ entries, e.value.storable = true := by
  intro e member
  obtain ⟨x, -, value⟩ := mem_toEntries.mp (written.mem_iff.mp member)
  exact (fits.admits value).2

/-- A line that spoils the file of some settings. -/
inductive Spoils (s : Settings) : List Char → Prop where
  | unknown {key : String} {raw line : List Char} (other : ∀ x : Setting, x.key ≠ key)
      (begins : Toml.KeyLine key '=' raw line) : s.Spoils line
  | dotted {key : String} {raw line : List Char} (begins : Toml.KeyLine key '.' raw line) : s.Spoils line
  /-- A second value for a setting, well formed or not, unless it is a string that goes on in the next line. -/
  | second {x : Setting} {raw line : List Char} (present : s.value? x ≠ none)
      (begins : Toml.KeyLine x.key '=' raw line) (oneLine : '\n' ∉ raw) (closed : Toml.Closed (Toml.skipSpace raw)) :
      s.Spoils line
  | outOfRange {k : NumberSetting} {n : Int} {line : List Char}
      (text : Toml.EntryText line { key := k.key, value := .integer n })
      (beyond : n < 0 ∨ k.bound < n ∨ Toml.maxInteger < n) : s.Spoils line
  /-- The beginning of a value that is not of the setting's kind, whatever follows it. -/
  | otherKind {x : Setting} {kind : Toml.Kind} (other : kind ≠ x.kind) {before value line : List Char}
      (blanks : Toml.Blanks before) (shows : Toml.Begins kind value)
      (begins : Toml.KeyLine x.key '=' (before ++ value) line) : s.Spoils line

theorem Spoils.keyLine {line : List Char} (spoils : s.Spoils line) :
    ∃ key mark raw, Toml.KeyLine key mark raw line := by
  cases spoils with
  | unknown _ begins | dotted begins | second _ begins | otherKind _ _ _ begins => exact ⟨_, _, _, begins⟩
  | outOfRange text =>
    obtain ⟨-, -, -, begins⟩ := text
    exact ⟨_, _, _, begins⟩

theorem Setting.Admits.kind_eq (admits : x.Admits v) : v.kind = x.kind := by
  cases x <;> cases v <;> first | rfl | contradiction

/-- What is read from a line that spoils the settings is no entry of settings, or one of those that the lines behind
it still hold. -/
theorem Spoils.refused {line tail rest after : List Char} (spoils : s.Spoils line) (ends : Toml.Break tail rest)
    (read : Toml.readEntry (Toml.skipSpace (line ++ tail)) = some (e, after)) :
    (∀ x : Setting, x.key = e.key → ¬ x.Admits e.value) ∨
      after = rest ∧ ∃ x : Setting, x.key = e.key ∧ s.value? x ≠ none := by
  cases spoils with
  | unknown other begins =>
    obtain ⟨named, -⟩ := begins.of_readEntry read
    exact .inl fun x same => absurd (same.trans named) (other x)
  | dotted begins =>
    rw [begins.readEntry_dotted] at read
    contradiction
  | @second x _ _ present begins oneLine closed =>
    obtain ⟨named, s, value, ended⟩ := begins.of_readEntry read
    exact .inr ⟨Toml.eq_of_readValue oneLine closed ends value ended, x, named.symm, present⟩
  | @outOfRange k n _ text beyond =>
    rw [text.readEntry_eq ends] at read
    obtain ⟨stored, same⟩ := Option.ite_none_right_eq_some.mp read
    obtain ⟨rfl, rfl⟩ := Prod.mk.inj (Option.some.inj same)
    refine .inl fun x named admits => ?_
    obtain rfl : x = .number k := Setting.key_injective named
    obtain ⟨natural, bounded⟩ := admits
    have short : n ≤ Toml.maxInteger := of_decide_eq_true (Bool.and_eq_true_iff.mp stored).2
    omega
  | @otherKind x kind other before value _ blanks shows begins =>
    obtain ⟨named, s, taken, ended⟩ := begins.of_readEntry read
    have skip : Toml.skipSpace (before ++ value ++ tail) = value ++ tail := by
      obtain ⟨c, t, rfl, solid⟩ := shows.first
      rw [List.append_assoc, List.cons_append, blanks.skip_cons solid]
    rw [skip] at taken
    refine .inl fun y same admits => ?_
    obtain rfl : y = x := Setting.key_injective (same.trans named)
    exact other ((shows.append tail).kind_eq taken (by rw [ended]; exact nofun) ▸ admits.kind_eq)

theorem ofToml_spoilt (fits : s.Fits) {pre post : List (List Char)} (texts : Toml.LinesText (pre ++ post) entries)
    (written : entries.Perm s.toEntries) {line : List Char} (spoils : s.Spoils line) :
    (Toml.readDocument? (Toml.document (pre ++ line :: post))).bind ofEntries? = none := by
  have storable := fits.storable written
  obtain ⟨front, behind, rfl, texts, texts'⟩ := texts.append
  rw [List.forall_mem_append] at storable
  obtain ⟨key, mark, raw, begins⟩ := spoils.keyLine
  have heads : ∀ l ∈ pre ++ line :: post, l.head? ≠ some Toml.byteOrderMark :=
    List.forall_mem_append.mpr ⟨texts.head_ne, List.forall_mem_cons.mpr ⟨begins.head_ne, texts'.head_ne⟩⟩
  obtain ⟨tail, whole, ends⟩ := Toml.joined_cons line post
  obtain ⟨fuel, enough, read⟩ := texts.readLines_eq storable.1 (Nat.le_refl (Toml.joined (pre ++ line :: post)).length)
  rw [whole] at enough
  obtain ⟨fuel', enough', lines⟩ := begins.readLines_eq ends enough
  rw [Toml.readDocument?, Toml.document, String.toList_ofList, Toml.skipMark_joined heads, read, whole, lines,
    Option.eq_none_iff_forall_ne_some]
  intro s' settings
  -- The entries of such settings are those in front, one that is read from the line, and what is read behind it.
  obtain ⟨_, all, settings⟩ := Option.bind_eq_some_iff.mp settings
  obtain ⟨_, later, rfl⟩ := Option.map_eq_some_iff.mp all
  obtain ⟨⟨e, after⟩, taken, followed⟩ := Option.bind_eq_some_iff.mp later
  obtain ⟨more, others, rfl⟩ := Option.map_eq_some_iff.mp followed
  obtain ⟨same, admissible⟩ := ofEntries?_eq_some.mp settings
  obtain ⟨x, named, value⟩ := mem_toEntries.mp (same.mem_iff.mp (List.mem_append_right _ List.mem_cons_self))
  rcases spoils.refused ends taken with other | ⟨rfl, y, named', present⟩
  · exact other x named (admissible x e.value value)
  · obtain ⟨w, own⟩ := Option.ne_none_iff_exists'.mp present
    rw [texts'.readLines_all storable.2 enough'] at others
    obtain rfl := Option.some.inj others
    have member : { key := y.key, value := w } ∈ front ++ behind :=
      written.mem_iff.mpr (mem_toEntries.mpr ⟨y, rfl, own⟩)
    exact key_ne_of_perm same _ member named'

/-- Settings can be written as a file, and any file that holds their entries, each on a line of its own and in whatever
order, is read as those settings: exactly the fields that it names are set. One more line anywhere in it, and it is
refused. -/
theorem files_read_strictly (s : Settings) (fits : s.Fits) :
    (∀ entries, entries.Perm s.toEntries →
      ∃ lines, Toml.LinesText lines entries ∧ Toml.document lines = Toml.writeDocument entries) ∧
    ∀ lines entries, Toml.LinesText lines entries → entries.Perm s.toEntries →
      ofToml (Toml.document lines) = .ok s ∧
        ∀ pre post line, lines = pre ++ post → s.Spoils line →
          let spoilt := Toml.document (pre ++ line :: post)
          ofToml spoilt = .error (.toml (complaint spoilt)) := by
  refine ⟨fun entries written => Toml.linesText_write ?_, fun lines entries texts written => ⟨?_, ?_⟩⟩
  · intro e member
    obtain ⟨x, named, -⟩ := mem_toEntries.mp (written.mem_iff.mp member)
    rw [← named]
    exact x.bareKey
  · have settings := ofEntries?_eq_some.mpr ⟨written, fun _ _ value => (fits.admits value).1⟩
    rw [ofToml, texts.readDocument?_eq (fits.storable written), Option.bind_some, settings]
  · rintro pre post line rfl spoils
    dsimp only
    rw [ofToml, ofToml_spoilt fits texts written spoils]

/-- A name with a quote in it, and another one in front of it that is closed in its line. -/
theorem second_name_refused :
    let s := unset.setText .systemName "pr\"be"
    let again := "system_name = ''' # '''".toList
    ∃ lines, Toml.document lines = "system_name = \"pr\\\"be\"\n" ∧ ofToml (Toml.document lines) = .ok s ∧
      ofToml (Toml.document (again :: lines)) = .error (.toml (complaint (Toml.document (again :: lines)))) := by
  intro s again
  have fits : s.Fits := fun k n value => by contradiction
  have written : [⟨"system_name", .string "pr\"be"⟩].Perm s.toEntries := .of_eq rfl
  obtain ⟨spelt, strict⟩ := files_read_strictly s fits
  obtain ⟨lines, texts, same⟩ := spelt _ written
  obtain ⟨read, refused⟩ := strict lines _ texts written
  have key : Toml.KeyText "system_name".toList (Setting.key (.text .systemName)) := by
    obtain ⟨some, chars⟩ := Setting.bareKey (.text .systemName)
    exact .bare some chars
  have none : Toml.Blanks [] := by simp [Toml.Blanks]
  have blanks : Toml.Blanks [' '] := by simp [Toml.Blanks, Toml.isSpace]
  have begins : Toml.KeyLine (Setting.key (.text .systemName)) '=' " ''' # '''".toList again :=
    .mk none key blanks
  have present : s.value? (.text .systemName) ≠ Option.none := Option.some_ne_none _
  have spoils : s.Spoils again := .second present begins (by decide) (by unfold Toml.Closed; decide)
  exact ⟨lines, same, read, refused [] lines again rfl spoils⟩

/-- A string that stays open takes in the line that it repeats. -/
example : ofToml "system_name = '''\nsystem_name = \"''' #\"" = .ok (unset.setText .systemName "system_name = \"") :=
  rfl

end Settings
end DeliveryProbe

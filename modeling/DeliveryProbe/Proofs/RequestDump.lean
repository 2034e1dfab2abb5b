import DeliveryProbe.Http.Request
import DeliveryProbe.Text.Occurrence
import Mathlib.Data.List.Perm.Basic
import Mathlib.Data.List.TakeWhile

/-! The dump of a request can be taken apart again. No part of an admitted request but its body holds a line feed, not
even one that comes out of the decoding of ill-formed bytes. So the first lines of a dump, as many as there are header
values and one more, are those of the request, whatever the body says. -/
namespace DeliveryProbe

theorem eq_of_ofNat_lineFeed {n : Nat} (same : Char.ofNat n = '\n') : n = 10 := by
  by_cases valid : n.isValidChar
  · rw [Char.ofNat, dif_pos valid] at same
    exact congrArg Char.toNat same
  · rw [Char.ofNat, dif_neg valid] at same
    contradiction

theorem eq_of_toLower_lineFeed {c : Char} (same : c.toLower = '\n') : c = '\n' := by
  unfold Char.toLower at same
  split at same
  · next capital =>
    -- A small letter lies far behind the line feed.
    have low : 65 ≤ c.val.toNat := capital.1
    have high : c.val.toNat ≤ 90 := capital.2
    have value : (c.val + 32).toNat = 10 := congrArg Char.toNat same
    have sum : (c.val + 32).toNat = (c.val.toNat + 32) % 2 ^ 32 := UInt32.toNat_add _ _
    omega
  · exact same

namespace Utf8

/-- A character that takes more bytes is no line feed, whatever bytes come. -/
def Open.Wide (o : Open) : Prop :=
  1 ≤ o.missing ∧ (2 ≤ o.value ∨ 2 ≤ o.missing ∧ (1 ≤ o.value ∨ 0x82 ≤ o.low))

theorem wide_of_lead {b : UInt8} {first : Open} (opens : lead b = .opens first) : first.Wide := by
  unfold lead at opens
  dsimp only at opens
  repeat' split at opens
  all_goals first
    | contradiction
    | obtain rfl := Lead.opens.inj opens
      dsimp only [Open.Wide]
      simp only [UInt8.le_iff_toNat_le, UInt8.reduceToNat]
      omega

theorem Open.Wide.next {o : Open} (wide : o.Wide) {b : UInt8} (within : o.low ≤ b) (more : o.missing ≠ 1) :
    Open.Wide { missing := o.missing - 1, low := 0x80, high := 0xBF, value := 64 * o.value + (b.toNat - 0x80) } := by
  obtain ⟨some, value⟩ := wide
  have least : o.low.toNat ≤ b.toNat := within
  refine ⟨by dsimp only; omega, .inl ?_⟩
  dsimp only
  rcases value with large | ⟨-, large | high⟩
  · omega
  · omega
  · have start : 0x82 ≤ o.low.toNat := high
    omega

theorem eq_of_lead_lineFeed {b : UInt8} (single : lead b = .single '\n') : b = 10 := by
  unfold lead at single
  dsimp only at single
  repeat' split at single
  all_goals first
    | contradiction
    | exact UInt8.toNat_inj.mp (eq_of_ofNat_lineFeed (Lead.single.inj single))

/-- A line feed comes from the byte that is one. -/
theorem mem_of_lineFeed_mem {bytes : Bytes} {state : Option Open} (wide : ∀ o ∈ state, o.Wide)
    (member : '\n' ∈ lossyFrom state bytes) : (10 : UInt8) ∈ bytes := by
  induction bytes generalizing state with
  | nil => cases state <;> simp [lossyFrom, replacement] at member
  | cons b s ih =>
    have closed : ∀ o ∈ (none : Option Open), o.Wide := by rintro _ ⟨⟩
    have later {state : Option Open} (wide : ∀ o ∈ state, o.Wide) (member : '\n' ∈ lossyFrom state s) :
        (10 : UInt8) ∈ b :: s := List.mem_cons_of_mem b (ih wide member)
    have afresh (member : '\n' ∈ lossyFrom none (b :: s)) : (10 : UInt8) ∈ b :: s := by
      rw [lossyFrom] at member
      cases kind : lead b with
      | single c =>
        rw [kind] at member
        rcases List.mem_cons.mp member with rfl | member
        · exact eq_of_lead_lineFeed kind ▸ List.mem_cons_self
        · exact later closed member
      | opens first =>
        rw [kind] at member
        exact later (fun _ same => Option.some.inj same ▸ wide_of_lead kind) member
      | refused =>
        rw [kind] at member
        exact later closed (List.mem_of_ne_of_mem (by decide) member)
    cases state with
    | none => exact afresh member
    | some o =>
      have wide := wide o rfl
      rw [lossyFrom] at member
      dsimp only at member
      split at member
      · next within =>
        split at member
        · next last =>
          -- Six more bits make a character beyond the controls of that beginning.
          have value : 2 ≤ o.value := by
            obtain ⟨-, large | ⟨more, -⟩⟩ := wide
            · exact large
            · omega
          rcases List.mem_cons.mp member with same | member
          · have small := eq_of_ofNat_lineFeed same.symm
            omega
          · exact later closed member
        · next more => exact later (fun _ same => Option.some.inj same ▸ wide.next within.1 more) member
      · refine afresh ?_
        rw [lossyFrom]
        exact List.mem_of_ne_of_mem (by decide) member

theorem lineFeed_not_mem_decodeLossy {bytes : Bytes} (none : (10 : UInt8) ∉ bytes) :
    '\n' ∉ (decodeLossy bytes).toList := by
  rw [decodeLossy, String.toList_ofList]
  exact fun member => none (mem_of_lineFeed_mem (by rintro _ ⟨⟩) member)

end Utf8

namespace Http

theorem not_mem_of_all {p : Char → Bool} {s : List Char} (all : s.all p = true) {c : Char} (other : p c = false) :
    c ∉ s := by
  intro member
  rw [List.all_eq_true.mp all c member] at other
  contradiction

namespace Target
variable {s rest : List Char}

theorem readQuery_oneLine {query : List Char} (read : readQuery s = some query) : '\n' ∉ query := by
  obtain ⟨all, same⟩ := Option.ite_none_right_eq_some.mp read
  exact Option.some.inj same ▸ not_mem_of_all all rfl

theorem readPath_oneLine {r : PathAndQuery} (read : readPath s = some r) : '\n' ∉ pathText r := by
  obtain ⟨all, read⟩ := Option.ite_none_right_eq_some.mp read
  have path : '\n' ∉ s.takeWhile fun c => c ≠ '?' && c ≠ '#' := not_mem_of_all all rfl
  have front {path : List Char} (free : '\n' ∉ path) : '\n' ∉ if path.isEmpty then ['/'] else path := by
    split
    · decide
    · exact free
  unfold pathText queryText
  split at read
  · obtain ⟨query, behind, rfl⟩ := Option.map_eq_some_iff.mp read
    exact List.not_mem_append (front path) (List.not_mem_cons_of_ne_of_not_mem (by decide) (readQuery_oneLine behind))
  · obtain rfl := Option.some.inj read
    exact List.not_mem_append (front path) List.not_mem_nil

theorem readScheme_oneLine {scheme : List Char} (read : readScheme s = some (scheme, rest)) : '\n' ∉ scheme := by
  have written : '\n' ∉ s.takeWhile isSchemeChar := fun member =>
    absurd (List.mem_takeWhile_imp member) (by decide)
  unfold readScheme at read
  dsimp only at read
  split at read
  · obtain ⟨rfl, -⟩ := Prod.mk.inj (Option.some.inj read)
    unfold normalScheme
    dsimp only
    split
    · next web => rcases web with same | same <;> rw [same] <;> decide
    · exact written
  · contradiction

theorem readAuthority_oneLine {authority : List Char} (read : readAuthority s = some (authority, rest)) :
    '\n' ∉ authority := by
  have scanned {chars : List Char} {a b : AuthorityScan} (scan : chars.foldlM AuthorityScan.step a = some b) :
      '\n' ∉ chars := by
    induction chars generalizing a with
    | nil => exact List.not_mem_nil
    | cons c chars ih =>
      rw [List.foldlM_cons] at scan
      obtain ⟨next, step, scan⟩ := Option.bind_eq_some_iff.mp scan
      refine List.not_mem_cons_of_ne_of_not_mem ?_ (ih scan)
      rintro rfl
      contradiction
  unfold readAuthority at read
  dsimp only at read
  split at read
  · next scan =>
    obtain ⟨-, same⟩ := Option.ite_none_right_eq_some.mp read
    obtain ⟨rfl, -⟩ := Prod.mk.inj (Option.some.inj same)
    exact scanned scan
  · contradiction

theorem read?_oneLine {text : String} {t : Target} (read : read? text = some t) : '\n' ∉ t.text.toList := by
  rw [Target.text, String.toList_ofList]
  obtain ⟨-, read⟩ := Option.ite_none_left_eq_some.mp read
  split at read
  · contradiction
  · obtain rfl := Option.some.inj read
    decide
  · obtain ⟨resource, path, rfl⟩ := Option.map_eq_some_iff.mp read
    exact readPath_oneLine path
  · split at read
    · next scheme rest front =>
      obtain ⟨-, read⟩ := Option.ite_none_left_eq_some.mp read
      split at read
      · contradiction
      · next authority rest middle =>
        obtain ⟨resource, path, rfl⟩ := Option.map_eq_some_iff.mp read
        exact List.not_mem_append (List.not_mem_append (List.not_mem_append (readScheme_oneLine front) (by decide))
          (readAuthority_oneLine middle)) (readPath_oneLine path)
      · contradiction
    · unfold readConnect at read
      split at read
      · next authority whole =>
        obtain rfl := Option.some.inj read
        exact readAuthority_oneLine whole
      · contradiction

end Target

namespace Request

def headerOf (given : String × Utf8.Bytes) : HeaderValue :=
  { name := String.ofList (given.1.toList.map Char.toLower), value := given.2 }

theorem readHeader_ok {name : String} {value : Utf8.Bytes} {h : HeaderValue} (read : readHeader name value = .ok h) :
    h = headerOf (name, value) ∧ '\n' ∉ (headerLine h).toList := by
  unfold readHeader at read
  split at read
  · contradiction
  · next named =>
    split at read
    · contradiction
    · next valued =>
      obtain rfl := Except.ok.inj read
      simp only [Bool.or_eq_true, Bool.not_eq_true', not_or, Bool.not_eq_false, decide_eq_true_eq] at named valued
      have letters : name.toList.all isNameChar = true := (Bool.and_eq_true_iff.mp named.1).2
      have small : '\n' ∉ name.toList.map Char.toLower := by
        intro member
        obtain ⟨c, listed, same⟩ := List.mem_map.mp member
        exact not_mem_of_all letters rfl (eq_of_toLower_lineFeed same ▸ listed)
      have bytes : (10 : UInt8) ∉ value := by
        intro member
        exact nomatch List.all_eq_true.mp valued _ member
      refine ⟨rfl, ?_⟩
      simp only [headerLine, String.toList_append, String.toList_ofList]
      exact List.not_mem_append (List.not_mem_append (List.not_mem_append (by decide) small) (by decide))
        (Utf8.lineFeed_not_mem_decodeLossy bytes)

section Group

theorem nodup_eraseDups (names : List String) : names.eraseDups.Nodup := by
  induction length : names.length using Nat.strongRecOn generalizing names with
  | ind n ih =>
    cases names with
    | nil => exact .nil
    | cons name names =>
      rw [List.eraseDups_cons, List.nodup_cons, List.mem_eraseDups]
      have shorter := List.length_filter_le (fun other => !other == name) names
      rw [List.length_cons] at length
      exact ⟨by simp, ih _ (by omega) _ rfl⟩

theorem flatMap_of_nodup {names : List String} (distinct : names.Nodup) {name : String} (listed : name ∈ names)
    {f : String → List HeaderValue} (others : ∀ other ≠ name, f other = []) : names.flatMap f = f name := by
  obtain ⟨before, after, rfl⟩ := List.append_of_mem listed
  obtain ⟨-, ⟨fresh, -⟩, apart⟩ := List.nodup_append.mp distinct |>.imp_right (And.imp_left List.nodup_cons.mp)
  have first : before.flatMap f = [] :=
    List.flatMap_eq_nil_iff.mpr fun other member => others other (apart other member name List.mem_cons_self)
  have last : after.flatMap f = [] :=
    List.flatMap_eq_nil_iff.mpr fun other member => others other (ne_of_mem_of_not_mem member fresh)
  rw [List.flatMap_append, List.flatMap_cons, first, last, List.nil_append, List.append_nil]

theorem filter_group (headers : List HeaderValue) (name : String) :
    (group headers).filter (·.name = name) = headers.filter (·.name = name) := by
  have others (other : String) (ne : other ≠ name) : (headers.filter (·.name = other)).filter (·.name = name) = [] := by
    rw [List.filter_eq_nil_iff]
    intro h member
    have same : h.name = other := by simpa using (List.mem_filter.mp member).2
    simpa [same] using ne
  rw [group, List.filter_flatMap]
  by_cases listed : name ∈ (headers.map (·.name)).eraseDups
  · rw [flatMap_of_nodup (nodup_eraseDups _) listed others, List.filter_filter]
    simp
  · have none : headers.filter (·.name = name) = [] := by
      rw [List.mem_eraseDups, List.mem_map, not_exists] at listed
      simpa using fun h member same => listed h ⟨member, same⟩
    rw [none, List.flatMap_eq_nil_iff]
    intro other member
    exact others other (ne_of_mem_of_not_mem member listed)

theorem group_perm (headers : List HeaderValue) : (group headers).Perm headers := by
  rw [List.perm_iff_count]
  intro h
  have own (l : List HeaderValue) : l.count h = (l.filter (·.name = h.name)).count h := by
    rw [List.count_filter (by simp)]
  rw [own, filter_group, ← own]

end Group

def requestLine (r : Request) : String := r.method ++ " " ++ r.target.text

/-- The lines between the request line and the body: one for each header value, or an empty one. -/
def shownLines (r : Request) : List String := if r.headers = [] then [""] else r.headers.map headerLine

def Admitted (r : Request) : Prop := ∃ method target headers body, make method target headers body = .ok r

/-- What a request that can be made has of its parts. -/
structure MadeOf (r : Request) (method target : String) (headers : List (String × Utf8.Bytes)) (body : Utf8.Bytes) :
    Prop where
  method : r.method = method
  target : Target.read? target = some r.target
  headers : r.headers = group (headers.map headerOf)
  body : r.body = body
  methodOneLine : '\n' ∉ r.method.toList
  headersOneLine : ∀ h ∈ r.headers, '\n' ∉ (headerLine h).toList

theorem mapM_readHeader_ok {given : List (String × Utf8.Bytes)} {read : List HeaderValue}
    (ok : given.mapM (fun (name, value) => readHeader name value) = .ok read) :
    read = given.map headerOf ∧ ∀ h ∈ read, '\n' ∉ (headerLine h).toList := by
  induction given generalizing read with
  | nil =>
    obtain rfl := Except.ok.inj ok
    exact ⟨rfl, fun _ member => nomatch member⟩
  | cons first given ih =>
    obtain ⟨name, value⟩ := first
    rw [List.mapM_cons] at ok
    dsimp only at ok
    cases front : readHeader name value with
    | error fault =>
      rw [front] at ok
      contradiction
    | ok h =>
      cases behind : given.mapM (fun (name, value) => readHeader name value) with
      | error fault =>
        rw [front, behind] at ok
        contradiction
      | ok others =>
        rw [front, behind] at ok
        obtain rfl := Except.ok.inj ok
        obtain ⟨same, line⟩ := readHeader_ok front
        obtain ⟨same', lines⟩ := ih behind
        rw [List.forall_mem_cons, List.map_cons]
        exact ⟨congrArg₂ List.cons same same', line, lines⟩

theorem madeOf_make {r : Request} {method target : String} {headers : List (String × Utf8.Bytes)} {body : Utf8.Bytes}
    (made : make method target headers body = .ok r) : MadeOf r method target headers body := by
  unfold make at made
  split at made
  · contradiction
  · next named =>
    split at made
    · contradiction
    · next t aimed =>
      split at made
      · next read taken =>
        obtain rfl := Except.ok.inj made
        obtain ⟨same, lines⟩ := mapM_readHeader_ok taken
        have letters : method.toList.all isMethodChar = true := by
          rw [isMethod, Bool.not_eq_true', Bool.not_eq_false, Bool.and_eq_true_iff] at named
          exact named.2
        exact
          { method := rfl
            target := aimed
            headers := congrArg group same
            body := rfl
            methodOneLine := not_mem_of_all letters rfl
            headersOneLine := fun h member => lines h ((group_perm read).mem_iff.mp member) }
      · contradiction

def unlines (lines : List String) : String := String.join (lines.map (· ++ "\n"))

theorem toList_unlines_cons (line : String) (lines : List String) :
    (unlines (line :: lines)).toList = line.toList ++ '\n' :: (unlines lines).toList := by
  simp [unlines]

theorem unlines_eq {lines : List String} (some : lines ≠ []) : unlines lines = "\n".intercalate lines ++ "\n" := by
  induction lines with
  | nil => contradiction
  | cons line lines ih =>
    rw [unlines, List.map_cons, String.join_cons, ← unlines]
    cases lines with
    | nil => rw [String.intercalate_singleton, unlines, List.map_nil, String.join_nil, String.append_empty]
    | cons next lines => rw [ih (List.cons_ne_nil _ _), String.intercalate_cons_cons, ← String.append_assoc]

theorem dump_eq (r : Request) :
    r.dump = unlines (r.requestLine :: r.shownLines) ++ Utf8.decodeLossy r.body ++ "\n" := by
  have front : unlines (r.requestLine :: r.shownLines) = r.requestLine ++ "\n" ++ unlines r.shownLines := by
    rw [unlines, List.map_cons, String.join_cons, ← unlines]
  have shown : unlines r.shownLines = "\n".intercalate (r.headers.map headerLine) ++ "\n" := by
    unfold shownLines
    split
    · next none =>
      rw [none, unlines_eq (List.cons_ne_nil _ _), String.intercalate_singleton, List.map_nil, String.intercalate_nil]
    · next some => exact unlines_eq (List.map_eq_nil_iff.not.mpr some)
  rw [front, shown, ← String.append_assoc]
  rfl

theorem MadeOf.oneLine {r : Request} {method target : String} {headers : List (String × Utf8.Bytes)} {body : Utf8.Bytes}
    (made : MadeOf r method target headers body) : ∀ line ∈ r.requestLine :: r.shownLines, '\n' ∉ line.toList := by
  rw [List.forall_mem_cons]
  constructor
  · simp only [requestLine, String.toList_append]
    exact List.not_mem_append (List.not_mem_append made.methodOneLine (by decide)) (Target.read?_oneLine made.target)
  · unfold shownLines
    split
    · exact List.forall_mem_singleton.mpr List.not_mem_nil
    · exact List.forall_mem_map.mpr made.headersOneLine

/-- As many lines as are known to be there can be taken off the front of a text. -/
theorem unlines_append_inj {lines lines' : List String} {rest rest' : String} (size : lines.length = lines'.length)
    (oneLine : ∀ line ∈ lines, '\n' ∉ line.toList) (oneLine' : ∀ line ∈ lines', '\n' ∉ line.toList)
    (same : (unlines lines).toList ++ rest.toList = (unlines lines').toList ++ rest'.toList) :
    lines = lines' ∧ rest = rest' := by
  induction lines generalizing lines' with
  | nil =>
    obtain rfl := List.length_eq_zero_iff.mp size.symm
    exact ⟨rfl, String.toList_inj.mp same⟩
  | cons line lines ih =>
    obtain ⟨line', lines', rfl⟩ := List.exists_cons_of_length_eq_add_one size.symm
    rw [List.forall_mem_cons] at oneLine oneLine'
    rw [toList_unlines_cons, toList_unlines_cons, List.append_assoc, List.append_assoc] at same
    obtain ⟨first, same⟩ := Text.append_cons_inj_of_first oneLine.1 oneLine'.1 same
    obtain ⟨rfl, behind⟩ := ih (Nat.succ.inj size) oneLine.2 oneLine'.2 same
    exact ⟨congrArg (· :: lines) (String.toList_inj.mp first), behind⟩

theorem shownLines_inj {r r' : Request} (size : r.headers.length = r'.headers.length) :
    r.shownLines.length = r'.shownLines.length ∧
      (r.shownLines = r'.shownLines → r.headers.map headerLine = r'.headers.map headerLine) := by
  have none_iff : r.headers = [] ↔ r'.headers = [] := by
    rw [← List.length_eq_zero_iff, size, List.length_eq_zero_iff]
  unfold shownLines
  by_cases none : r.headers = []
  · rw [if_pos none, if_pos (none_iff.mp none), none, none_iff.mp none]
    exact ⟨rfl, fun _ => rfl⟩
  · rw [if_neg none, if_neg (none_iff.not.mp none), List.length_map, List.length_map]
    exact ⟨size, id⟩

/-- The dump of a request that can be made says its request line, one line for each header value in their order, or an
empty one, and its body. None of these lines goes on in another, whatever bytes the header values have. So two requests
with the same dump and equally many header values have the same lines and the same body. -/
theorem header_values_forge_no_lines :
    (∀ method target headers body r, make method target headers body = .ok r →
      (r.method = method ∧ Target.read? target = some r.target ∧ r.body = body ∧
        r.headers.Perm (headers.map headerOf) ∧
          ∀ name, r.headers.filter (·.name = name) = (headers.map headerOf).filter (·.name = name)) ∧
      r.dump = unlines (r.requestLine :: r.shownLines) ++ Utf8.decodeLossy body ++ "\n" ∧
      ∀ line ∈ r.requestLine :: r.shownLines, '\n' ∉ line.toList) ∧
    ∀ r r' : Request, r.Admitted → r'.Admitted → r.headers.length = r'.headers.length → r.dump = r'.dump →
      r.requestLine = r'.requestLine ∧ r.headers.map headerLine = r'.headers.map headerLine ∧
        Utf8.decodeLossy r.body = Utf8.decodeLossy r'.body := by
  constructor
  · intro method target headers body r ok
    have made := madeOf_make ok
    refine ⟨⟨made.method, made.target, made.body, ?_, fun name => ?_⟩, made.body ▸ r.dump_eq, made.oneLine⟩
    · exact made.headers ▸ group_perm _
    · exact made.headers ▸ filter_group _ name
  · rintro r r' ⟨_, _, _, _, ok⟩ ⟨_, _, _, _, ok'⟩ size same
    rw [r.dump_eq, r'.dump_eq, String.append_left_inj, ← String.toList_inj, String.toList_append,
      String.toList_append] at same
    obtain ⟨lines, shown⟩ := shownLines_inj size
    obtain ⟨front, body⟩ :=
      unlines_append_inj (congrArg (· + 1) lines) (madeOf_make ok).oneLine (madeOf_make ok').oneLine same
    obtain ⟨first, others⟩ := List.cons.inj front
    exact ⟨first, shown others, body⟩

/-- Two header values that are ill formed in different ways are shown alike, and nothing else differs. -/
theorem ill_formed_values_shown_alike :
    let sent (value : UInt8) : Request :=
      { method := "POST", target := .origin { path := "/logs".toList, query := none },
        headers := [⟨"via", [value]⟩, ⟨"via", []⟩, ⟨"b", []⟩], body := [10] }
    make "POST" "/logs" [("Via", [0xFF]), ("b", []), ("via", [])] [10] = .ok (sent 0xFF) ∧
      make "POST" "/logs" [("via", [0xFE]), ("via", []), ("b", [])] [10] = .ok (sent 0xFE) ∧ sent 0xFF ≠ sent 0xFE ∧
        (sent 0xFF).dump = (sent 0xFE).dump ∧
          (sent 0xFF).headers.map headerLine = (sent 0xFE).headers.map headerLine := by
  intro sent
  have first : make "POST" "/logs" [("Via", [0xFF]), ("b", []), ("via", [])] [10] = .ok (sent 0xFF) := by decide
  have second : make "POST" "/logs" [("via", [0xFE]), ("via", []), ("b", [])] [10] = .ok (sent 0xFE) := by decide
  have dumps : (sent 0xFF).dump = (sent 0xFE).dump := by decide
  obtain ⟨-, lines, -⟩ :=
    header_values_forge_no_lines.2 _ _ ⟨_, _, _, _, first⟩ ⟨_, _, _, _, second⟩ rfl dumps
  exact ⟨first, second, by decide, dumps, lines⟩

end Request
end Http
end DeliveryProbe

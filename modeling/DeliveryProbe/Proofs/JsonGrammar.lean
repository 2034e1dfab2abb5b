import DeliveryProbe.Json.Reader
import DeliveryProbe.Proofs.JsonTokens

/-! The grammar of JSON over tokens, and the agreement of the reader with it. -/
namespace DeliveryProbe.Json

/-- The tokens of a value, with the value. -/
abbrev Spelt := List Token × Json

def memberTokens (part : String × Spelt) : List Token := .scalar (.string part.1) :: .colon :: part.2.1

def member (part : String × Spelt) : String × Json := (part.1, part.2.2)

/-- Tokens that make up a value in which arrays and objects are nested at most `n` deep. The parts of an array
or object stand between commas. -/
inductive Phrase : Nat → List Token → Json → Prop where
  | scalar (n : Nat) (v : Json) : Phrase n [.scalar v] v
  | array {n : Nat} {parts : List Spelt} (each : ∀ part ∈ parts, Phrase n part.1 part.2) :
      Phrase (n + 1) (.openArray :: ([.comma].intercalate (parts.map Prod.fst) ++ [.closeArray]))
        (.array (parts.map Prod.snd))
  | object {n : Nat} {parts : List (String × Spelt)} (each : ∀ part ∈ parts, Phrase n part.2.1 part.2.2) :
      Phrase (n + 1) (.openObject :: ([.comma].intercalate (parts.map memberTokens) ++ [.closeObject]))
        (.object (parts.map member))

section Lists
variable {α : Type}

theorem intercalate_cons (separator first : List α) (rest : List (List α)) :
    separator.intercalate (first :: rest) = first ++ rest.flatMap (separator ++ ·) := by
  induction rest generalizing first with
  | nil => simp
  | cons next rest ih => rw [List.intercalate_cons_cons, ih, List.flatMap_cons]; simp

theorem intercalate_concat (separator last : List α) (front : List (List α)) :
    separator.intercalate (front ++ [last]) = front.flatMap (· ++ separator) ++ last := by
  induction front with
  | nil => simp
  | cons first front ih =>
    rw [List.cons_append, List.flatMap_cons, List.append_assoc, ← ih]
    cases front with
    | nil => simp
    | cons next front => rw [List.cons_append, List.intercalate_cons_cons]

theorem intercalate_append (separator : List α) {parts : List (List α)} (some : parts ≠ []) :
    separator.intercalate parts ++ separator = parts.flatMap (· ++ separator) := by
  rw [← List.dropLast_append_getLast some, intercalate_concat, List.flatMap_append, List.append_assoc,
    List.flatMap_singleton]

theorem forall_mem_concat {front : List α} {last : α} {P : α → Prop} (each : ∀ part ∈ front, P part) (own : P last) :
    ∀ part ∈ front ++ [last], P part :=
  List.forall_mem_append.mpr ⟨each, List.forall_mem_singleton.mpr own⟩

end Lists

namespace Machine

theorem run_append (m : Machine) (ts us : List Token) : m.run (ts ++ us) = (m.run ts).bind (·.run us) := by
  induction ts generalizing m with
  | nil => rfl
  | cons t ts ih =>
    rw [List.cons_append, run, run]
    cases m.step t with
    | none => rfl
    | some m => exact ih m

/-- Where a value may stand, a token that closes nothing begins one. -/
theorem step_begin {stage : Stage} (stages : stage = .value ∨ stage = .valueOrClose) {t : Token}
    (begins : t ≠ .closeArray) (stack : List Frame) : step { stage, stack } t = begin t stack := by
  rcases stages with rfl | rfl
  · rfl
  · cases t with
    | closeArray => contradiction
    | openObject | closeObject | openArray | colon | comma | scalar => rfl

end Machine

section Completeness
open Machine
variable {n : Nat} {ts : List Token} {v : Json} {stack : List Frame}

/-- The tokens of a value take the reader over it, wherever one may stand. -/
def Takes (n : Nat) (ts : List Token) (v : Json) : Prop :=
  ∀ stage stack, stage = .value ∨ stage = .valueOrClose → stack.length + n ≤ maxDepth →
    Machine.run { stage, stack } ts = Machine.deliver v stack

/-- The parts of an array or object behind the first, each with a comma in front of it. -/
theorem run_rest {α β : Type} {frame : List β → Frame} {tokens : α → List Token} {value : α → β} {parts : List α}
    (each : ∀ part ∈ parts, ∀ held, run { stage := .separator, stack := frame held :: stack } (.comma :: tokens part) =
      some { stage := .separator, stack := frame (value part :: held) :: stack }) (held : List β) :
    run { stage := .separator, stack := frame held :: stack } ((parts.map tokens).flatMap ([.comma] ++ ·)) =
      some { stage := .separator, stack := frame ((parts.map value).reverse ++ held) :: stack } := by
  induction parts generalizing held with
  | nil => rfl
  | cons part parts ih =>
    obtain ⟨first, later⟩ := List.forall_mem_cons.mp each
    rw [List.map_cons, List.flatMap_cons, List.singleton_append, run_append, first held, Option.bind_some,
      ih later (value part :: held)]
    simp

theorem run_openArray {stage : Stage} (stages : stage = .value ∨ stage = .valueOrClose)
    (room : stack.length < maxDepth) (ts : List Token) :
    run { stage, stack } (.openArray :: ts) = run { stage := .valueOrClose, stack := .array [] :: stack } ts := by
  rw [run, step_begin stages (by simp), begin, enter, if_pos room, Option.bind_some]

theorem run_openObject {stage : Stage} (stages : stage = .value ∨ stage = .valueOrClose)
    (room : stack.length < maxDepth) (ts : List Token) :
    run { stage, stack } (.openObject :: ts) = run { stage := .keyOrClose, stack := .object [] :: stack } ts := by
  rw [run, step_begin stages (by simp), begin, enter, if_pos room, Option.bind_some]

theorem run_closeArray (items : List Json) :
    run { stage := .separator, stack := .array items :: stack } [.closeArray] =
      deliver (.array items.reverse) stack := Option.bind_fun_some _

theorem run_closeObject (members : List (String × Json)) :
    run { stage := .separator, stack := .object members :: stack } [.closeObject] =
      deliver (.object members.reverse) stack := Option.bind_fun_some _

theorem run_member {stage : Stage} (stages : stage = .key ∨ stage = .keyOrClose) {part : String × Spelt}
    (takes : Takes n part.2.1 part.2.2) (shallow : stack.length + 1 + n ≤ maxDepth) (held : List (String × Json)) :
    run { stage, stack := .object held :: stack } (memberTokens part) =
      some { stage := .separator, stack := .object (member part :: held) :: stack } := by
  have named : step { stage, stack := .object held :: stack } (.scalar (.string part.1)) =
      some { stage := .colon part.1, stack := .object held :: stack } := by
    rcases stages with rfl | rfl <;> rfl
  have value := takes .value (.member held part.1 :: stack) (.inl rfl) shallow
  rw [memberTokens, run, named, Option.bind_some, run]
  simp only [step, Option.bind_some]
  rw [value, deliver]
  rfl

theorem takes_phrase (phrase : Phrase n ts v) : Takes n ts v := by
  induction phrase with
  | scalar n v =>
    intro stage stack stages _
    rw [run, step_begin stages (by simp)]
    exact Option.bind_fun_some _
  | @array n parts _ takes =>
    intro stage stack stages shallow
    have room : stack.length < maxDepth := by omega
    rw [run_openArray stages room]
    cases parts with
    | nil => exact Option.bind_fun_some _
    | cons first rest =>
      obtain ⟨first_, rest_⟩ := List.forall_mem_cons.mp takes
      have opens := first_ .valueOrClose (.array [] :: stack) (.inr rfl) (by simp; omega)
      have each : ∀ part ∈ rest, ∀ held,
          run { stage := .separator, stack := .array held :: stack } (.comma :: part.1) =
            some { stage := .separator, stack := .array (part.2 :: held) :: stack } := fun part listed held =>
        rest_ part listed .value (.array held :: stack) (.inl rfl) (by simp; omega)
      rw [List.map_cons, intercalate_cons, run_append, run_append, opens, deliver, Option.bind_some,
        run_rest each, Option.bind_some, run_closeArray]
      simp
  | @object n parts _ takes =>
    intro stage stack stages shallow
    have room : stack.length < maxDepth := by omega
    have shallow' : stack.length + 1 + n ≤ maxDepth := by omega
    rw [run_openObject stages room]
    cases parts with
    | nil => exact Option.bind_fun_some _
    | cons first rest =>
      obtain ⟨first_, rest_⟩ := List.forall_mem_cons.mp takes
      have each : ∀ part ∈ rest, ∀ held,
          run { stage := .separator, stack := .object held :: stack } (.comma :: memberTokens part) =
            some { stage := .separator, stack := .object (member part :: held) :: stack } := fun part listed held =>
        run_member (.inl rfl) (rest_ part listed) shallow' held
      rw [List.map_cons, intercalate_cons, run_append, run_append, run_member (.inr rfl) first_ shallow',
        Option.bind_some, run_rest each, Option.bind_some, run_closeObject]
      simp

end Completeness

theorem no_items (n : Nat) : ∀ part ∈ ([] : List Spelt), Phrase n part.1 part.2 := List.forall_mem_nil _

theorem no_members (n : Nat) : ∀ part ∈ ([] : List (String × Spelt)), Phrase n part.2.1 part.2.2 :=
  List.forall_mem_nil _

section Soundness
open Machine

/-- The tokens that have opened the arrays and objects of a stack, where each waits for a value and `n` more
levels are left. -/
inductive Opened : Nat → List Frame → List Token → Prop where
  | outside : Opened maxDepth [] []
  | array {n : Nat} {stack : List Frame} {us : List Token} {parts : List Spelt} (outer : Opened (n + 1) stack us)
      (each : ∀ part ∈ parts, Phrase n part.1 part.2) :
      Opened n (.array (parts.map Prod.snd).reverse :: stack)
        (us ++ .openArray :: (parts.map Prod.fst).flatMap (· ++ [.comma]))
  | member {n : Nat} {stack : List Frame} {us : List Token} {parts : List (String × Spelt)}
      (outer : Opened (n + 1) stack us) (each : ∀ part ∈ parts, Phrase n part.2.1 part.2.2) (key : String) :
      Opened n (.member (parts.map member).reverse key :: stack)
        (us ++ .openObject :: ((parts.map memberTokens).flatMap (· ++ [.comma]) ++ [.scalar (.string key), .colon]))

/-- The tokens that bring a machine to where it is. -/
inductive Reached : Machine → List Token → Prop where
  | value {n : Nat} {stack : List Frame} {ts : List Token} (opened : Opened n stack ts) :
      Reached { stage := .value, stack } ts
  | arrayBegun {n : Nat} {stack : List Frame} {us : List Token} (outer : Opened (n + 1) stack us) :
      Reached { stage := .valueOrClose, stack := .array [] :: stack } (us ++ [.openArray])
  | objectBegun {n : Nat} {stack : List Frame} {us : List Token} (outer : Opened (n + 1) stack us) :
      Reached { stage := .keyOrClose, stack := .object [] :: stack } (us ++ [.openObject])
  | key {n : Nat} {stack : List Frame} {us : List Token} {parts : List (String × Spelt)}
      (outer : Opened (n + 1) stack us) (each : ∀ part ∈ parts, Phrase n part.2.1 part.2.2) :
      Reached { stage := .key, stack := .object (parts.map member).reverse :: stack }
        (us ++ .openObject :: (parts.map memberTokens).flatMap (· ++ [.comma]))
  | colon {n : Nat} {stack : List Frame} {us : List Token} {parts : List (String × Spelt)}
      (outer : Opened (n + 1) stack us) (each : ∀ part ∈ parts, Phrase n part.2.1 part.2.2) (key : String) :
      Reached { stage := .colon key, stack := .object (parts.map member).reverse :: stack }
        (us ++ .openObject :: ((parts.map memberTokens).flatMap (· ++ [.comma]) ++ [.scalar (.string key)]))
  | item {n : Nat} {stack : List Frame} {us : List Token} {parts : List Spelt}
      (outer : Opened (n + 1) stack us) (each : ∀ part ∈ parts, Phrase n part.1 part.2) (some : parts ≠ []) :
      Reached { stage := .separator, stack := .array (parts.map Prod.snd).reverse :: stack }
        (us ++ .openArray :: [.comma].intercalate (parts.map Prod.fst))
  | member {n : Nat} {stack : List Frame} {us : List Token} {parts : List (String × Spelt)}
      (outer : Opened (n + 1) stack us) (each : ∀ part ∈ parts, Phrase n part.2.1 part.2.2) (some : parts ≠ []) :
      Reached { stage := .separator, stack := .object (parts.map member).reverse :: stack }
        (us ++ .openObject :: [.comma].intercalate (parts.map memberTokens))
  | complete {ts : List Token} {v : Json} (phrase : Phrase maxDepth ts v) :
      Reached { stage := .complete v, stack := [] } ts

variable {n : Nat} {stack : List Frame} {us ts : List Token} {v : Json} {m m' : Machine} {t : Token}

theorem Opened.depth (opened : Opened n stack ts) : stack.length + n = maxDepth := by
  induction opened with
  | outside => rfl
  | array _ _ ih | member _ _ _ ih =>
    rw [List.length_cons]
    omega

theorem Opened.deliver (opened : Opened n stack us) (phrase : Phrase n ts v)
    (delivered : Machine.deliver v stack = some m) : Reached m (us ++ ts) := by
  cases opened with
  | outside =>
    obtain rfl := Option.some.inj delivered
    exact .complete phrase
  | @array _ stack us parts outer each =>
    obtain rfl := Option.some.inj delivered
    have each' : ∀ part ∈ parts ++ [(ts, v)], Phrase n part.1 part.2 := forall_mem_concat each phrase
    have reached := Reached.item outer each' (List.concat_ne_nil _ _)
    rw [List.map_append, List.map_append, List.reverse_append, List.map_singleton, List.map_singleton,
      intercalate_concat] at reached
    rw [List.append_assoc]
    exact reached
  | @member _ stack us parts outer each key =>
    obtain rfl := Option.some.inj delivered
    have each' : ∀ part ∈ parts ++ [(key, ts, v)], Phrase n part.2.1 part.2.2 := forall_mem_concat each phrase
    have reached := Reached.member outer each' (List.concat_ne_nil _ _)
    rw [List.map_append, List.map_append, List.reverse_append, List.map_singleton, List.map_singleton,
      intercalate_concat] at reached
    rw [List.append_assoc, List.cons_append, List.append_assoc]
    exact reached

theorem Opened.begin (opened : Opened n stack us) (begun : Machine.begin t stack = some m) : Reached m (us ++ [t]) := by
  have levels : stack.length < maxDepth → ∃ k, n = k + 1 := fun room =>
    Nat.exists_eq_succ_of_ne_zero (by have := opened.depth; omega)
  cases t with
  | scalar v => exact opened.deliver (.scalar n v) begun
  | openArray =>
    obtain ⟨room, entered⟩ := Option.ite_none_right_eq_some.mp begun
    obtain ⟨k, rfl⟩ := levels room
    obtain rfl := Option.some.inj entered
    exact .arrayBegun opened
  | openObject =>
    obtain ⟨room, entered⟩ := Option.ite_none_right_eq_some.mp begun
    obtain ⟨k, rfl⟩ := levels room
    obtain rfl := Option.some.inj entered
    exact .objectBegun opened
  | closeObject | closeArray | colon | comma => contradiction

theorem step_item {parts : List Spelt} (outer : Opened (n + 1) stack us)
    (each : ∀ part ∈ parts, Phrase n part.1 part.2) (some : parts ≠ [])
    (next : Machine.step { stage := .separator, stack := .array (parts.map Prod.snd).reverse :: stack } t =
      Option.some m) :
    Reached m (us ++ .openArray :: [.comma].intercalate (parts.map Prod.fst) ++ [t]) := by
  cases t with
  | comma =>
    obtain rfl := Option.some.inj next
    rw [List.append_assoc, List.cons_append, intercalate_append _ (mt List.map_eq_nil_iff.mp some)]
    exact .value (.array outer each)
  | closeArray =>
    rw [List.append_assoc]
    have delivered : Machine.deliver (.array (parts.map Prod.snd)) stack = Option.some m := by
      rw [← List.reverse_reverse (parts.map Prod.snd)]
      exact next
    exact outer.deliver (.array each) delivered
  | scalar _ | openArray | openObject | closeObject | colon => contradiction

theorem step_member {parts : List (String × Spelt)} (outer : Opened (n + 1) stack us)
    (each : ∀ part ∈ parts, Phrase n part.2.1 part.2.2) (some : parts ≠ [])
    (next : Machine.step { stage := .separator, stack := .object (parts.map Json.member).reverse :: stack } t =
      Option.some m) :
    Reached m (us ++ .openObject :: [.comma].intercalate (parts.map memberTokens) ++ [t]) := by
  cases t with
  | comma =>
    obtain rfl := Option.some.inj next
    rw [List.append_assoc, List.cons_append, intercalate_append _ (mt List.map_eq_nil_iff.mp some)]
    exact .key outer each
  | closeObject =>
    rw [List.append_assoc]
    have delivered : Machine.deliver (.object (parts.map Json.member)) stack = Option.some m := by
      rw [← List.reverse_reverse (parts.map Json.member)]
      exact next
    exact outer.deliver (.object each) delivered
  | scalar _ | openArray | openObject | closeArray | colon => contradiction

theorem Reached.step (reached : Reached m ts) (next : m.step t = some m') : Reached m' (ts ++ [t]) := by
  -- By the stage of the machine, and in each by the tokens that it admits there.
  cases reached with
  | value opened => exact opened.begin next
  | arrayBegun outer =>
    have opened := Opened.array outer (no_items _)
    cases t with
    | closeArray =>
      rw [List.append_assoc]
      exact outer.deliver (.array (no_items _)) next
    | scalar v => exact opened.begin next
    | openArray => exact opened.begin next
    | openObject => exact opened.begin next
    | closeObject | colon | comma => contradiction
  | @objectBegun n stack us outer =>
    cases t with
    | closeObject =>
      rw [List.append_assoc]
      exact outer.deliver (.object (no_members _)) next
    | scalar v =>
      cases v with
      | string key =>
        obtain rfl := Option.some.inj next
        rw [List.append_assoc]
        exact .colon outer (no_members _) key
      | null | bool _ | number _ | array _ | object _ => contradiction
    | openArray | openObject | closeArray | colon | comma => contradiction
  | key outer each =>
    cases t with
    | scalar v =>
      cases v with
      | string key =>
        obtain rfl := Option.some.inj next
        rw [List.append_assoc]
        exact .colon outer each key
      | null | bool _ | number _ | array _ | object _ => contradiction
    | openArray | openObject | closeArray | closeObject | colon | comma => contradiction
  | colon outer each key =>
    cases t with
    | colon =>
      obtain rfl := Option.some.inj next
      rw [List.append_assoc, List.cons_append, List.append_assoc]
      exact .value (.member outer each key)
    | scalar _ | openArray | openObject | closeArray | closeObject | comma => contradiction
  | item outer each some => exact step_item outer each some next
  | member outer each some => exact step_member outer each some next
  | complete phrase => contradiction

theorem Reached.run (reached : Reached m ts) {us : List Token} (runs : m.run us = some m') :
    Reached m' (ts ++ us) := by
  induction us generalizing m ts with
  | nil =>
    obtain rfl := Option.some.inj runs
    rwa [List.append_nil]
  | cons t us ih =>
    obtain ⟨next, stepped, runs⟩ := Option.bind_eq_some_iff.mp runs
    rw [← List.singleton_append, ← List.append_assoc]
    exact ih (reached.step stepped) runs

end Soundness

section Separation
open Machine
variable {m m' : Machine} {v w : Json} {stack : List Frame}

theorem close_scalar (v : Json) (stack : List Frame) : close (.scalar v) stack = none := by
  cases stack with
  | nil => rfl
  | cons frame stack => cases frame <;> rfl

theorem deliver_then (delivered : deliver v stack = some m) : m.step (.scalar w) = none := by
  cases stack with
  | nil =>
    obtain rfl := Option.some.inj delivered
    rfl
  | cons frame stack =>
    cases frame with
    | array _ | member _ _ =>
      obtain rfl := Option.some.inj delivered
      rfl
    | object _ => contradiction

/-- Behind a token that holds a value of its own no other one fits. -/
theorem step_scalar (stepped : m.step (.scalar v) = some m') : m'.step (.scalar w) = none := by
  obtain ⟨stage, stack⟩ := m
  cases stage with
  | value | valueOrClose => exact deliver_then stepped
  | key =>
    cases v with
    | string key =>
      obtain rfl := Option.some.inj stepped
      rfl
    | null | bool _ | number _ | array _ | object _ => contradiction
  | keyOrClose =>
    cases v with
    | string key =>
      obtain rfl := Option.some.inj stepped
      rfl
    | null => nomatch (close_scalar .null stack).symm.trans stepped
    | bool value => nomatch (close_scalar (.bool value) stack).symm.trans stepped
    | number value => nomatch (close_scalar (.number value) stack).symm.trans stepped
    | array items => nomatch (close_scalar (.array items) stack).symm.trans stepped
    | object members => nomatch (close_scalar (.object members) stack).symm.trans stepped
  | colon key => contradiction
  | separator => nomatch (close_scalar v stack).symm.trans stepped
  | complete v => contradiction

theorem separated_of_run {ts : List Token} (runs : m.run ts = some m') : Separated ts := by
  induction ts generalizing m with
  | nil => exact .nil
  | cons t ts ih =>
    obtain ⟨next, stepped, runs⟩ := Option.bind_eq_some_iff.mp runs
    refine List.isChain_cons.mpr ⟨fun u first scalar => ?_, ih runs⟩
    obtain ⟨ts, rfl⟩ := List.head?_eq_some_iff.mp first
    obtain ⟨_, stepped', -⟩ := Option.bind_eq_some_iff.mp runs
    cases t with
    | scalar v =>
      cases u with
      | scalar w =>
        rw [step_scalar stepped] at stepped'
        contradiction
      | openArray | openObject | closeArray | closeObject | colon | comma => rfl
    | openArray | openObject | closeArray | closeObject | colon | comma => contradiction

end Separation

/-- A text of JSON and its value. -/
def Text (s : List Char) (v : Json) : Prop := ∃ ts, Lexed s ts ∧ Phrase maxDepth ts v

/-- The reader accepts exactly the texts of the grammar, with their values. -/
theorem read?_iff {s : List Char} {v : Json} : read? s = some v ↔ Text s v := by
  constructor
  · intro read
    obtain ⟨ts, lexed, read⟩ := Option.bind_eq_some_iff.mp read
    obtain ⟨m, runs, result⟩ := Option.bind_eq_some_iff.mp read
    refine ⟨ts, tokensWith_sound lexed, ?_⟩
    cases (Reached.value .outside).run runs with
    | complete phrase =>
      obtain rfl := Option.some.inj result
      exact phrase
    | value _ | arrayBegun _ | objectBegun _ | key _ _ | colon _ _ _ | item _ _ _ | member _ _ _ => contradiction
  · rintro ⟨ts, lexed, phrase⟩
    have runs : Machine.start.run ts = some { stage := .complete v, stack := [] } :=
      takes_phrase phrase .value [] (.inl rfl) (Nat.le_refl _)
    have tokens : tokens? s = some ts := tokensWith_text lexed (separated_of_run runs) (Nat.le_refl _)
    rw [read?, tokens, Option.bind_some, runs, Option.bind_some]
    rfl

end DeliveryProbe.Json

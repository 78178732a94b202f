import Gatehouse.Json.Shape
import Gatehouse.Proofs.Json.Numbers
import Gatehouse.Proofs.Json.Strings
import Gatehouse.Proofs.Text.Utf8

/-!
# Values that are written and read

* `Value.tree` is the tree that a value should read as, and `Reads` says that it does, whatever follows
  its text; there is one lemma for each kind of value (`reads_array`, `reads_object`), and `reads` is
  the induction over them (`Value.induction`);
* `ofWhole_stringItems_text` and `ofWhole_bytesItems_text`: what a shape reads from the text of a value,
  given as a string or as bytes, is what it makes of the tree.

No string inside a value can therefore change what the text around it is read as.
-/

namespace Gatehouse.Json

open Gatehouse.Number
open Reader

/-! ## 1. What a value reads as -/

/-- The numeral that a text starts with. -/
def numeralIn (s : List Char) : Numeral :=
  match readNumber (s.map some) with
  | some (n, _) => n
  | none => .tooLarge

namespace Value

mutual

/-- **The tree that a value reads as.** -/
def tree : Value → Tree
  | .null => .null
  | .bool b => .bool b
  | .natural n => .number (numeralIn (Nat.toDigits 10 n))
  | .real x =>
    if x.isFinite then .number (numeralIn (singleInJson.text single x).toList) else .null
  | .string s => .string (some s)
  | .array vs => .array (treeItems vs) true
  | .object ms => .object (treeMembers ms) true

/-- The trees of items. -/
def treeItems : List Value → List Tree
  | [] => []
  | v :: vs => v.tree :: treeItems vs

/-- The trees of members. -/
def treeMembers : List (String × Value) → List (Option String × Tree)
  | [] => []
  | (k, v) :: ms => (some k, v.tree) :: treeMembers ms

end

/-- What holds of a list or an object if it holds of its parts, and of every other value, holds of all
    values. -/
@[elab_as_elim]
theorem induction {motive : Value → Prop} (null : motive .null) (bool : ∀ b, motive (.bool b))
    (natural : ∀ n, motive (.natural n)) (real : ∀ x, motive (.real x))
    (string : ∀ s, motive (.string s))
    (array : ∀ vs, (∀ v ∈ vs, motive v) → motive (.array vs))
    (object : ∀ ms, (∀ m ∈ ms, motive m.2) → motive (.object ms)) (v : Value) : motive v := by
  match v with
  | .null => exact null
  | .bool b => exact bool b
  | .natural n => exact natural n
  | .real x => exact real x
  | .string s => exact string s
  | .array vs => exact array vs fun v _ => induction null bool natural real string array object v
  | .object ms => exact object ms fun m _ => induction null bool natural real string array object m.2
termination_by sizeOf v
decreasing_by
  · have hlt := List.sizeOf_lt_of_mem ‹v ∈ vs›
    rw [Value.array.sizeOf_spec]
    omega
  · have hlt := List.sizeOf_lt_of_mem ‹m ∈ ms›
    have hsnd : sizeOf m = 1 + sizeOf m.1 + sizeOf m.2 := Prod.mk.sizeOf_spec m.1 m.2
    rw [Value.object.sizeOf_spec]
    omega

end Value

namespace Reader

theorem numeralIn_of_numberText {s : List Char} {n : Numeral} (h : NumberText s n) :
    numeralIn s = n := by
  have hread := readNumber_text h ended_nil
  rw [List.append_nil] at hread
  rw [numeralIn, hread]

/-- **A whole number that is not too large reads as itself.** -/
theorem tree_natural {n : Nat} (h : n ≤ maxNatural) :
    (Value.natural n).tree = .number (.natural n) := by
  rw [Value.tree, numeralIn_of_numberText (numberText_toDigits h)]

/-! ## 2. Where a value starts -/

/-- Is a value written with the character at its start? -/
def opens (c : Char) : Bool := c.isDigit || ['-', 'n', 't', 'f', '"', '[', '\x7b'].contains c

theorem isSpace_of_opens {c : Char} (h : opens c = true) : isSpace (some c) = false := by
  have hne {d : Char} (hd : opens d = false) : (c == d) = false := by
    rw [beq_eq_false_iff_ne]
    rintro rfl
    rw [h] at hd
    cases hd
  simp only [isSpace, hne (d := ' ') rfl, hne (d := '\n') rfl, hne (d := '\t') rfl,
    hne (d := '\r') rfl, Bool.or_self]

theorem skipSpace_of_opens {c : Char} (h : opens c = true) (s : List Item) :
    skipSpace (some c :: s) = some c :: s := by
  rw [skipSpace, List.dropWhile_cons_of_neg]
  rw [isSpace_of_opens h]
  exact Bool.false_ne_true

theorem exists_numberText_eq {s : List Char} {n : Numeral} (h : NumberText s n) :
    ∃ c cs, s = c :: cs ∧ (c == '-' || c.isDigit) = true := by
  cases h with
  | minus h => exact ⟨'-', _, rfl, rfl⟩
  | plain h =>
    cases h with
    | parts hwhole hf he =>
      cases hwhole with
      | @digits c ds hds hzero =>
        have hc : c.isDigit = true := hds c List.mem_cons_self
        exact ⟨c, _, rfl, by simp [hc]⟩

theorem opens_of_number {c : Char} (h : (c == '-' || c.isDigit) = true) : opens c = true := by
  rw [Bool.or_eq_true, beq_iff_eq] at h
  rcases h with rfl | h
  · rfl
  · rw [opens, h, Bool.true_or]

theorem exists_numberText_toDigits (n : Nat) : ∃ m, NumberText (Nat.toDigits 10 n) m := by
  have htext := NumberText.plain (.parts (wholeText_toDigits n) .none .none)
  rw [List.append_nil, List.append_nil] at htext
  exact ⟨_, htext⟩

/-- **A value is written with a character that starts values.** -/
theorem exists_chars_eq (v : Value) : ∃ c cs, v.chars = c :: cs ∧ opens c = true := by
  have number {s : List Char} {n : Numeral} (h : NumberText s n) :
      ∃ c cs, s = c :: cs ∧ opens c = true := by
    obtain ⟨c, cs, hs, hc⟩ := exists_numberText_eq h
    exact ⟨c, cs, hs, opens_of_number hc⟩
  cases v with
  | null => exact ⟨'n', _, by rw [Value.chars], rfl⟩
  | bool b =>
    cases b with
    | true => exact ⟨'t', _, by rw [Value.chars], rfl⟩
    | false => exact ⟨'f', _, by rw [Value.chars], rfl⟩
  | natural n =>
    rw [Value.chars]
    exact number (exists_numberText_toDigits n).choose_spec
  | real x =>
    rw [Value.chars]
    split
    · rename_i hx
      exact number (exists_numberText singleInJson single hx).choose_spec
    · exact ⟨'n', _, rfl, rfl⟩
  | string s => exact ⟨'"', _, by rw [Value.chars, stringChars], rfl⟩
  | array vs =>
    cases vs with
    | nil => exact ⟨'[', _, by rw [Value.chars], rfl⟩
    | cons v vs => exact ⟨'[', _, by rw [Value.chars], rfl⟩
  | object ms =>
    cases ms with
    | nil => exact ⟨'\x7b', _, by rw [Value.chars], rfl⟩
    | cons m ms => exact ⟨'\x7b', _, by rw [Value.chars], rfl⟩

/-- A number is read as a value. -/
theorem readValue_number {s : List Char} {n : Numeral} (h : NumberText s n) (fuel : Nat)
    {rest : List Item} (hrest : Ended rest) :
    readValue (fuel + 1) (s.map some ++ rest) = (.number n, some rest) := by
  have hread := readNumber_text h hrest
  obtain ⟨c, cs, rfl, hc⟩ := exists_numberText_eq h
  have hopens : opens c = true := opens_of_number hc
  have hne {d : Char} (hd : (d == '-' || d.isDigit) = false) : (c == d) = false := by
    rw [beq_eq_false_iff_ne]
    rintro rfl
    rw [hc] at hd
    cases hd
  rw [List.map_cons, List.cons_append] at hread ⊢
  rw [readValue, skipSpace_of_opens hopens]
  simp only [hne (d := 'n') rfl, hne (d := 't') rfl, hne (d := 'f') rfl, hne (d := '"') rfl,
    hne (d := '[') rfl, hne (d := '\x7b') rfl, hc, hread, Bool.false_eq_true, if_false, if_true]

/-! ## 3. Reading what was written -/

theorem ended_comma (rest : List Item) : Ended (some ',' :: rest) := by
  rintro c hc
  cases hc
  decide

theorem ended_bracket (rest : List Item) : Ended (some ']' :: rest) := by
  rintro c hc
  cases hc
  decide

theorem ended_brace (rest : List Item) : Ended (some '\x7d' :: rest) := by
  rintro c hc
  cases hc
  decide

theorem readString_written (s : String) (rest : List Item) :
    readString .start ((s.toList.flatMap escapeChar).map some ++ some '"' :: rest) =
      some (some s, rest) := by
  have hread := readString_stringChars [] s.toList rest
  rw [List.reverse_nil, List.nil_append, String.ofList_toList] at hread
  exact hread

/-- **The value is read to its end as its tree**, whenever it was written. -/
def Reads (v : Value) : Prop :=
  ∀ fuel rest, 2 * v.chars.length ≤ fuel → Ended rest →
    readValue fuel (v.chars.map some ++ rest) = (v.tree, some rest)

theorem length_chars_pos (v : Value) : 0 < v.chars.length := by
  obtain ⟨c, cs, hs, -⟩ := exists_chars_eq v
  rw [hs]
  exact Nat.succ_pos _

/-- To show that a value is read, one unit of fuel may be taken for granted. -/
theorem reads_of_succ {v : Value} (h : ∀ fuel rest, 2 * v.chars.length ≤ fuel + 1 → Ended rest →
    readValue (fuel + 1) (v.chars.map some ++ rest) = (v.tree, some rest)) : Reads v := by
  intro fuel rest hfuel hrest
  have hpos := length_chars_pos v
  obtain ⟨fuel, rfl⟩ : ∃ f, fuel = f + 1 := ⟨fuel - 1, by omega⟩
  exact h fuel rest hfuel hrest

/-! ### Values without parts -/

theorem readValue_null (fuel : Nat) (rest : List Item) :
    readValue (fuel + 1) (['n', 'u', 'l', 'l'].map some ++ rest) = (.null, some rest) := by
  rw [List.map_cons, List.cons_append, readValue, skipSpace_of_opens rfl]
  simp [literal, readLiteral]

theorem reads_bool (b : Bool) : Reads (.bool b) := by
  refine reads_of_succ ?_
  intro fuel rest _ _
  cases b with
  | true =>
    rw [Value.chars, Value.tree, List.map_cons, List.cons_append, readValue, skipSpace_of_opens rfl]
    simp [literal, readLiteral]
  | false =>
    rw [Value.chars, Value.tree, List.map_cons, List.cons_append, readValue, skipSpace_of_opens rfl]
    simp [literal, readLiteral]

theorem reads_natural (n : Nat) : Reads (.natural n) := by
  refine reads_of_succ ?_
  intro fuel rest _ hrest
  obtain ⟨m, hm⟩ := exists_numberText_toDigits n
  rw [Value.chars, Value.tree, readValue_number hm fuel hrest, numeralIn_of_numberText hm]

theorem reads_real (x : Binary) : Reads (.real x) := by
  refine reads_of_succ ?_
  intro fuel rest _ hrest
  rw [Value.chars, Value.tree]
  split
  · rename_i hx
    obtain ⟨m, hm⟩ := exists_numberText singleInJson single hx
    rw [readValue_number hm fuel hrest, numeralIn_of_numberText hm]
  · exact readValue_null fuel rest

theorem reads_string (s : String) : Reads (.string s) := by
  refine reads_of_succ ?_
  intro fuel rest _ _
  have hread := readString_written s rest
  simp only [Value.chars, Value.tree, stringChars, List.map_cons, List.map_append, List.map_nil,
    List.cons_append, List.append_assoc, List.nil_append]
  rw [readValue, skipSpace_of_opens rfl]
  simp [hread]

/-! ### Lists and objects -/

theorem skipSpace_chars (v : Value) (rest : List Item) :
    skipSpace (v.chars.map some ++ rest) = v.chars.map some ++ rest := by
  obtain ⟨c, cs, hs, hc⟩ := exists_chars_eq v
  rw [hs]
  exact skipSpace_of_opens hc _

/-- No value starts like the end of a list. -/
theorem chars_ne_bracket (v : Value) (s rest : List Item) :
    v.chars.map some ++ s ≠ some ']' :: rest := by
  obtain ⟨c, cs, hs, hc⟩ := exists_chars_eq v
  rw [hs]
  intro heq
  cases heq
  exact absurd hc (by decide)

theorem readItems_succ {v : Value} (fuel : Nat) (done : List Tree) {rest behind : List Item}
    (hread : readValue fuel (v.chars.map some ++ rest) = (v.tree, some behind)) :
    (∀ rest', skipSpace behind = some ',' :: rest' →
      readItems (fuel + 1) done (v.chars.map some ++ rest) =
        readItems fuel (v.tree :: done) rest') ∧
    (∀ rest', skipSpace behind = some ']' :: rest' →
      readItems (fuel + 1) done (v.chars.map some ++ rest) =
        (.array (v.tree :: done).reverse true, some rest')) := by
  constructor
  all_goals
    intro rest' hbehind
    rw [readItems, skipSpace_chars]
    split
    · rename_i heq
      exact absurd heq (chars_ne_bracket v _ _)
    · simp only [hread, hbehind]

/-- The items that are left of a list, of which there is at least one. -/
theorem readItems_of_reads {v : Value} {vs : List Value} (hv : Reads v) (hvs : ∀ w ∈ vs, Reads w)
    {fuel : Nat} (hfuel : 2 * (v.chars.length + (Value.moreItems vs).length) + 1 ≤ fuel)
    (done : List Tree) (rest : List Item) :
    readItems fuel done (v.chars.map some ++ ((Value.moreItems vs).map some ++ rest)) =
      (.array (done.reverse ++ v.tree :: Value.treeItems vs) true, some rest) := by
  induction vs generalizing v fuel done with
  | nil =>
    obtain ⟨fuel, rfl⟩ : ∃ f, fuel = f + 1 := ⟨fuel - 1, by omega⟩
    have hread := hv fuel (some ']' :: rest) (by omega) (ended_bracket rest)
    rw [Value.moreItems, List.map_cons, List.map_nil, List.cons_append, List.nil_append,
      (readItems_succ fuel done hread).2 rest rfl, Value.treeItems, List.reverse_cons]
  | cons w ws ih =>
    obtain ⟨fuel, rfl⟩ : ∃ f, fuel = f + 1 := ⟨fuel - 1, by omega⟩
    obtain ⟨hw, hws⟩ := List.forall_mem_cons.1 hvs
    rw [Value.moreItems, List.length_cons, List.length_append] at hfuel
    have hread := hv fuel
      (some ',' :: (w.chars.map some ++ ((Value.moreItems ws).map some ++ rest))) (by omega)
      (ended_comma _)
    rw [Value.moreItems, List.map_cons, List.map_append, List.cons_append, List.append_assoc,
      (readItems_succ fuel done hread).1 _ rfl, Value.treeItems]
    have hroom : 2 * (w.chars.length + (Value.moreItems ws).length) + 1 ≤ fuel := by omega
    have hitems := ih hw hws hroom (v.tree :: done)
    rw [List.reverse_cons, List.append_assoc] at hitems
    exact hitems

theorem readValue_bracket (fuel : Nat) {s : List Item} (h : ∀ rest, skipSpace s ≠ some ']' :: rest) :
    readValue (fuel + 1) (some '[' :: s) = readItems fuel [] (skipSpace s) := by
  rw [readValue, skipSpace_of_opens rfl]
  split
  · rename_i heq
    cases heq
  · rename_i heq
    cases heq
  · rename_i heq
    cases heq
    simp

theorem reads_array {vs : List Value} (h : ∀ v ∈ vs, Reads v) : Reads (.array vs) := by
  refine reads_of_succ ?_
  intro fuel rest hfuel _
  cases vs with
  | nil =>
    rw [Value.chars, List.map_cons, List.cons_append, readValue, skipSpace_of_opens rfl]
    simp [skipSpace, isSpace, Value.tree, Value.treeItems]
  | cons v vs =>
    obtain ⟨hv, hvs⟩ := List.forall_mem_cons.1 h
    rw [Value.chars, List.length_cons, List.length_append] at hfuel
    have hbracket (rest' : List Item) : skipSpace (v.chars.map some ++
        ((Value.moreItems vs).map some ++ rest)) ≠ some ']' :: rest' := by
      rw [skipSpace_chars]
      exact chars_ne_bracket v _ _
    rw [Value.chars, List.map_cons, List.map_append, List.cons_append, List.append_assoc,
      readValue_bracket fuel hbracket, skipSpace_chars,
      readItems_of_reads hv hvs (by omega) [] rest, Value.tree, Value.treeItems]
    rfl

/-! ### Objects -/

theorem skipSpace_quote (rest : List Item) : skipSpace (some '"' :: rest) = some '"' :: rest := rfl

/-- A name and its colon, as they are written. -/
theorem map_key_append (k : String) (v : Value) (ms : List (String × Value)) (rest : List Item) :
    (stringChars k.toList ++ ':' :: (v.chars ++ Value.moreMembers ms)).map some ++ rest =
      some '"' :: ((k.toList.flatMap escapeChar).map some ++ some '"' ::
        some ':' :: (v.chars.map some ++ ((Value.moreMembers ms).map some ++ rest))) := by
  simp [stringChars]

theorem readMembers_succ (k : String) {v : Value} (fuel : Nat)
    (done : List (Option String × Tree)) {rest behind : List Item}
    (hread : readValue fuel (v.chars.map some ++ rest) = (v.tree, some behind)) :
    let text := some '"' :: ((k.toList.flatMap escapeChar).map some ++ some '"' ::
      some ':' :: (v.chars.map some ++ rest))
    (∀ rest', skipSpace behind = some ',' :: rest' →
      readMembers (fuel + 1) done text = readMembers fuel ((some k, v.tree) :: done) rest') ∧
    (∀ rest', skipSpace behind = some '\x7d' :: rest' →
      readMembers (fuel + 1) done text =
        (.object ((some k, v.tree) :: done).reverse true, some rest')) := by
  have hkey := readString_written k (some ':' :: (v.chars.map some ++ rest))
  have hcolon (s : List Item) : skipSpace (some ':' :: s) = some ':' :: s := rfl
  constructor
  all_goals
    intro rest' hbehind
    rw [readMembers, skipSpace_quote]
    simp only [hkey, hcolon, hread, hbehind]

/-- The members that are left of an object, of which there is at least one. -/
theorem readMembers_of_reads (k : String) {v : Value} {ms : List (String × Value)} (hv : Reads v)
    (hms : ∀ m ∈ ms, Reads m.2) {fuel : Nat}
    (hfuel : 2 * (v.chars.length + (Value.moreMembers ms).length) + 1 ≤ fuel)
    (done : List (Option String × Tree)) (rest : List Item) :
    readMembers fuel done
        ((stringChars k.toList ++ ':' :: (v.chars ++ Value.moreMembers ms)).map some ++ rest) =
      (.object (done.reverse ++ (some k, v.tree) :: Value.treeMembers ms) true, some rest) := by
  induction ms generalizing k v fuel done with
  | nil =>
    obtain ⟨fuel, rfl⟩ : ∃ f, fuel = f + 1 := ⟨fuel - 1, by omega⟩
    have hread := hv fuel (some '\x7d' :: rest) (by omega) (ended_brace rest)
    rw [map_key_append, Value.moreMembers, List.map_cons, List.map_nil, List.cons_append,
      List.nil_append, (readMembers_succ k fuel done hread).2 rest rfl, Value.treeMembers,
      List.reverse_cons]
  | cons m ms ih =>
    obtain ⟨k', w⟩ := m
    obtain ⟨fuel, rfl⟩ : ∃ f, fuel = f + 1 := ⟨fuel - 1, by omega⟩
    obtain ⟨hw, hms⟩ : Reads w ∧ ∀ m ∈ ms, Reads m.2 := List.forall_mem_cons.1 hms
    rw [Value.moreMembers, List.length_cons, List.length_append, List.length_cons,
      List.length_append] at hfuel
    have hread := hv fuel (some ',' :: ((stringChars k'.toList ++
      ':' :: (w.chars ++ Value.moreMembers ms)).map some ++ rest)) (by omega) (ended_comma _)
    have hroom : 2 * (w.chars.length + (Value.moreMembers ms).length) + 1 ≤ fuel := by omega
    have hmembers := ih k' hw hms hroom ((some k, v.tree) :: done)
    rw [List.reverse_cons, List.append_assoc] at hmembers
    rw [map_key_append, Value.moreMembers, List.map_cons, List.cons_append,
      (readMembers_succ k fuel done hread).1 _ rfl, Value.treeMembers]
    exact hmembers

theorem readValue_brace (fuel : Nat) (s : List Item) :
    readValue (fuel + 1) (some '\x7b' :: some '"' :: s) = readMembers fuel [] (some '"' :: s) := by
  rw [readValue, skipSpace_of_opens rfl]
  simp [skipSpace_quote]

theorem reads_object {ms : List (String × Value)} (h : ∀ m ∈ ms, Reads m.2) :
    Reads (.object ms) := by
  refine reads_of_succ ?_
  intro fuel rest hfuel _
  cases ms with
  | nil =>
    rw [Value.chars, List.map_cons, List.cons_append, readValue, skipSpace_of_opens rfl]
    simp [skipSpace, isSpace, Value.tree, Value.treeMembers]
  | cons m ms =>
    obtain ⟨k, v⟩ := m
    obtain ⟨hv, hms⟩ : Reads v ∧ ∀ m ∈ ms, Reads m.2 := List.forall_mem_cons.1 h
    rw [Value.chars, List.length_cons, List.length_append, List.length_cons,
      List.length_append] at hfuel
    have hroom : 2 * (v.chars.length + (Value.moreMembers ms).length) + 1 ≤ fuel := by omega
    have hmembers := readMembers_of_reads k hv hms hroom [] rest
    rw [map_key_append] at hmembers
    rw [Value.chars, List.map_cons, List.cons_append, map_key_append, readValue_brace, hmembers,
      Value.tree, Value.treeMembers]
    rfl

/-- **Every value that was written is read as its tree.** -/
theorem reads (v : Value) : Reads v := by
  induction v using Value.induction with
  | null => exact reads_of_succ fun fuel rest _ _ => readValue_null fuel rest
  | bool b => exact reads_bool b
  | natural n => exact reads_natural n
  | real x => exact reads_real x
  | string s => exact reads_string s
  | array vs ih => exact reads_array ih
  | object ms ih => exact reads_object ih

/-! ## 4. Texts -/

/-- **The text of a value reads as the tree of the value**, and nothing is left of it. -/
theorem readFirst_chars (v : Value) : readFirst (v.chars.map some) = (v.tree, some []) := by
  have hread := reads v (2 * (v.chars.map some).length + 2) []
    (by rw [List.length_map]; omega) ended_nil
  rw [List.append_nil] at hread
  exact hread

end Reader

/-- **What a shape reads from the text of a value is what it makes of its tree.** -/
theorem ofWhole_stringItems_text {α : Type} (shape : Shape α) (v : Value) :
    shape.ofWhole (stringItems v.text) = shape v.tree := by
  have hread : readFirst (stringItems v.text) = (v.tree, some []) := by
    rw [stringItems, Value.text, String.toList_ofList]
    exact readFirst_chars v
  simp only [Shape.ofWhole, hread]
  cases shape v.tree <;> rfl

theorem ofWhole_bytesItems_text {α : Type} (shape : Shape α) (v : Value) :
    shape.ofWhole (bytesItems (Text.Utf8.encode v.text)) = shape v.tree := by
  rw [bytesItems, Text.Utf8.items_encode]
  exact ofWhole_stringItems_text shape v

end Gatehouse.Json

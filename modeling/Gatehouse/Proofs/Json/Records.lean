import Mathlib.Data.List.Forall2
import Gatehouse.Proofs.Json.Values

/-!
# Records that are read from objects

An object is read member by member: a member whose name is a field goes into the record
(`members_known`), any other is passed over (`members_unknown`), and what has been read is the value if
nothing is missing (`shape_object`).

Two records whose fields are read alike read the same texts, and the values they make of them
correspond (`Record.Alike.shape`, `Record.Alike.ofWhole`).
-/

namespace Gatehouse.Json

open Reader

/-! ## 1. Trees of objects and lists -/

namespace Value

theorem treeItems_eq_map (vs : List Value) : treeItems vs = vs.map tree := by
  induction vs with
  | nil => rw [treeItems, List.map_nil]
  | cons v vs ih => rw [treeItems, ih, List.map_cons]

theorem treeMembers_eq_map (ms : List (String × Value)) :
    treeMembers ms = ms.map (fun m => (some m.1, m.2.tree)) := by
  induction ms with
  | nil => rw [treeMembers, List.map_nil]
  | cons m ms ih => rw [treeMembers, ih, List.map_cons]

theorem tree_object (ms : List (String × Value)) :
    (object ms).tree = .object (ms.map (fun m => (some m.1, m.2.tree))) true := by
  rw [tree, treeMembers_eq_map]

theorem tree_object_ne_null (ms : List (String × Value)) : (object ms).tree ≠ .null := by
  rw [tree_object]
  exact Tree.noConfusion

theorem tree_array (vs : List Value) : (array vs).tree = .array (vs.map tree) true := by
  rw [tree, treeItems_eq_map]

theorem tree_string (s : String) : (string s).tree = .string (some s) := by rw [tree]

theorem tree_bool (b : Bool) : (bool b).tree = .bool b := by rw [tree]

theorem tree_null : null.tree = .null := by rw [tree]

end Value

/-! ## 2. Simple values -/

/-- A truth value. -/
def flag : Shape Bool
  | .bool b => .ok b
  | t => .error (unexpected t "a boolean")

/-- A number, as it is written. -/
def numeral : Shape Numeral
  | .number n => .ok n
  | t => .error (unexpected t "a number")

theorem flag_tree (b : Bool) : flag (Value.bool b).tree = .ok b := by
  rw [Value.tree_bool]
  rfl

theorem numeral_tree {x : Number.Binary} (h : x.isFinite = true) :
    ∃ n, numeral (Value.real x).tree = .ok n := by
  rw [Value.tree, if_pos h]
  exact ⟨_, rfl⟩

theorem string_tree (s : String) : string (Value.string s).tree = .ok s := by
  rw [Value.tree_string]
  rfl

/-- **A number of 32 bits reads as itself.** -/
theorem word32_tree (n : UInt32) : word32 (Value.natural n.toNat).tree = .ok n := by
  have hlt : n.toNat < UInt32.size := n.toNat_lt
  have hsmall : n.toNat ≤ maxNatural := by
    unfold UInt32.size at hlt
    unfold maxNatural UInt64.size
    omega
  rw [tree_natural hsmall, word32, if_pos hlt, UInt32.ofNat_toNat]

/-- A value that is not written as nothing is read like a value that must be there. -/
theorem optional_of_ok {α : Type} {shape : Shape α} {t : Tree} {a : α} (ht : t ≠ .null)
    (h : shape t = .ok a) : optional shape t = .ok (some a) := by
  unfold optional
  split
  · exact absurd rfl ht
  · rw [h]
    rfl

theorem optional_string_tree (s : String) :
    optional string (Value.string s).tree = .ok (some s) := by
  rw [Value.tree_string]
  rfl

/-- A value, or `null` without one. -/
def orNull {α : Type} (write : α → Value) (a : Option α) : Value := (a.map write).getD .null

theorem optional_orNull_tree {α : Type} {shape : Shape α} {write : α → Value}
    (hread : ∀ a, shape (write a).tree = .ok a) (hwrite : ∀ a, (write a).tree ≠ .null)
    (a : Option α) : optional shape (orNull write a).tree = .ok a := by
  cases a with
  | none =>
    show optional shape Value.null.tree = .ok none
    rw [Value.tree_null]
    rfl
  | some a => exact optional_of_ok (hwrite a) (hread a)

theorem orNull_string_tree (s : Option String) :
    optional string (orNull .string s).tree = .ok s :=
  optional_orNull_tree string_tree
    (fun s => by rw [Value.tree_string]; exact Tree.noConfusion) s

/-- **A list is read item by item.** -/
theorem list_tree {α β : Type} (shape : Shape α) (write : β → Value) (value : β → α)
    (h : ∀ b, shape (write b).tree = .ok (value b)) (bs : List β) :
    list shape (Value.array (bs.map write)).tree = .ok (bs.map value) := by
  have hitems (n : Nat) : itemsFrom shape true n ((bs.map write).map Value.tree) =
      .ok (bs.map value) := by
    induction bs generalizing n with
    | nil => rfl
    | cons b bs ih =>
      rw [List.map_cons, List.map_cons, itemsFrom, h, ih (n + 1)]
      rfl
  rw [Value.tree_array]
  exact hitems 0

/-! ## 3. Members -/

namespace Record

variable {σ α : Type} {fields : List (Field σ)} {seen : List String} {key : String} {t : Tree}
  {rest : List (Option String × Tree)} {r : σ} {outcome : Except Problem σ}

/-- What a field makes of a part that can be read. -/
theorem read_of_ok {β : Type} {part : Except Problem β} {b : β} (put : β → σ) (h : part = .ok b) :
    (part >>= fun b => pure (put b)) = .ok (put b) := by
  rw [h]
  rfl

/-- A member whose name is a field goes into the record. -/
theorem members_known {f : Field σ} {r' : σ} (hf : fields.find? (fun f => f.name == key) = some f)
    (hseen : seen.contains key = false) (hread : f.read t r = .ok r')
    (hrest : members fields (key :: seen) rest r' = outcome) :
    members fields seen ((some key, t) :: rest) r = outcome := by
  rw [members, hf]
  simp only [hseen, Bool.false_eq_true, if_false, hread]
  exact hrest

/-- A member of another name is passed over. -/
theorem members_unknown (hf : fields.find? (fun f => f.name == key) = none) (ht : t.sound = true)
    (hrest : members fields seen rest r = outcome) :
    members fields seen ((some key, t) :: rest) r = outcome := by
  rw [members, hf]
  simp only [ht, if_true]
  exact hrest

/-- **The value of an object** whose members have been read. -/
theorem shape_object (record : Record σ α) {ms : List (Option String × Tree)} {a : α}
    (hfinish : record.finish r = .ok a)
    (hmembers : members record.fields [] ms record.start = .ok r) :
    record.shape (.object ms true) = .ok a := by
  rw [shape, hmembers]
  show record.complete r = .ok a
  rw [complete, hfinish]

end Record

/-! ## 4. Records that are read alike -/

section Alike

variable {σ τ α β : Type} {f : σ → τ} {g : α → β}

theorem inside_map (step : Step) (outcome : Except Problem σ) :
    inside step (outcome.map f) = (inside step outcome).map f := by
  cases outcome with
  | ok r => rfl
  | error problem => cases problem <;> rfl

/-- What can be read of a value that may be `null` can be read if it must be there. -/
theorem optional_map {shape : Shape α} {shape' : Shape β}
    (h : ∀ t, shape' t = (shape t).map g) (t : Tree) :
    optional shape' t = (optional shape t).map (Option.map g) := by
  cases t with
  | null => rfl
  | _ =>
    simp only [optional, h]
    cases shape _ <;> rfl

/-- **Two fields are read alike**: what the second one makes of the image of a record is the image of
    what the first one makes of the record. -/
structure Field.Alike (f : σ → τ) (a : Field σ) (b : Field τ) : Prop where
  name : b.name = a.name
  mayEnd : b.mayEnd = a.mayEnd
  read : ∀ t r, b.read t (f r) = (a.read t r).map f

namespace Record

/-- Two fields that put the same part into a record are read alike if what they put there is. -/
theorem read_alike {γ : Type} {part : Except Problem γ} {put : γ → σ} {put' : γ → τ}
    (h : ∀ x, put' x = f (put x)) :
    (part >>= fun x => pure (put' x)) = (part >>= fun x => pure (put x)).map f := by
  cases part with
  | error problem => rfl
  | ok x => exact congrArg Except.ok (h x)

variable {fields : List (Field σ)} {fields' : List (Field τ)}

/-- Of fields that are read alike the same ones have a name. -/
theorem find?_alike (h : List.Forall₂ (Field.Alike f) fields fields') (key : String) :
    (fields.find? (fun a => a.name == key) = none ∧ fields'.find? (fun b => b.name == key) = none) ∨
      ∃ a b, fields.find? (fun a => a.name == key) = some a ∧
        fields'.find? (fun b => b.name == key) = some b ∧ Field.Alike f a b := by
  induction h with
  | nil => exact .inl ⟨rfl, rfl⟩
  | @cons a b fields fields' hab _ ih =>
    rw [List.find?_cons, List.find?_cons, hab.name]
    cases a.name == key with
    | true => exact .inr ⟨a, b, rfl, rfl, hab⟩
    | false => exact ih

theorem members_alike (h : List.Forall₂ (Field.Alike f) fields fields') (seen : List String)
    (ms : List (Option String × Tree)) (r : σ) :
    members fields' seen ms (f r) = (members fields seen ms r).map f := by
  induction ms generalizing seen r with
  | nil => rfl
  | cons m ms ih =>
    obtain ⟨key?, t⟩ := m
    cases key? with
    | none => rfl
    | some key =>
      rw [members, members]
      rcases find?_alike h key with ⟨hnone, hnone'⟩ | ⟨a, b, ha, hb, hab⟩
      · rw [hnone, hnone']
        cases t.sound with
        | true => exact ih seen r
        | false => rfl
      · rw [ha, hb]
        cases hseen : seen.contains key with
        | true => rfl
        | false =>
          simp only [hab.read, inside_map]
          cases inside (.field key) (a.read t r) with
          | error problem => rfl
          | ok r => exact ih (key :: seen) r

theorem places_alike (h : List.Forall₂ (Field.Alike f) fields fields') (expected : String)
    (closed : Bool) (n : Nat) (items : List Tree) (r : σ) :
    places expected closed n fields' items (f r) =
      (places expected closed n fields items r).map f := by
  induction h generalizing n items r with
  | nil =>
    cases items with
    | nil => cases closed <;> rfl
    | cons t ts => rfl
  | @cons a b fields fields' hab _ ih =>
    cases items with
    | nil =>
      rw [places, places, hab.mayEnd]
      cases closed with
      | false => rfl
      | true =>
        cases a.mayEnd with
        | false => rfl
        | true => exact ih (n + 1) [] r
    | cons t ts =>
      rw [places, places]
      simp only [hab.read, inside_map]
      cases inside (.index n) (a.read t r) with
      | error problem => rfl
      | ok r => exact ih (n + 1) ts r

/-- **Two records are read alike**: their fields are, and their values correspond. -/
structure Alike (f : σ → τ) (g : α → β) (a : Record σ α) (b : Record τ β) : Prop where
  name : b.name = a.name
  fields : List.Forall₂ (Field.Alike f) a.fields b.fields
  start : b.start = f a.start
  finish : ∀ r, b.finish (f r) = (a.finish r).map g

variable {a : Record σ α} {b : Record τ β}

theorem Alike.complete (h : Alike f g a b) (r : σ) : b.complete (f r) = (a.complete r).map g := by
  unfold Record.complete
  rw [h.finish]
  cases a.finish r <;> rfl

theorem Alike.lengthText (h : Alike f g a b) : b.lengthText = a.lengthText := by
  unfold Record.lengthText
  rw [h.name, h.fields.length_eq]

/-- **Records that are read alike read the same values**, up to what they make of them. -/
theorem Alike.shape (h : Alike f g a b) (t : Tree) : b.shape t = (a.shape t).map g := by
  cases t with
  | object ms closed =>
    rw [Record.shape, Record.shape, h.start, members_alike h.fields]
    cases members a.fields [] ms a.start with
    | error problem => rfl
    | ok r =>
      cases closed with
      | true => exact h.complete r
      | false => rfl
  | array items closed =>
    rw [Record.shape, Record.shape, h.start, h.lengthText, places_alike h.fields]
    cases places a.lengthText closed 0 a.fields items a.start with
    | error problem => rfl
    | ok r => exact h.complete r
  | _ =>
    simp only [Record.shape, h.name]
    rfl

theorem Alike.ofWhole (h : Alike f g a b) (text : List Item) :
    b.shape.ofWhole text = (a.shape.ofWhole text).map g := by
  unfold Shape.ofWhole
  simp only [h.shape]
  cases a.shape (readFirst text).1 with
  | error problem => rfl
  | ok x => cases isDone (readFirst text).2 <;> rfl

end Record

end Alike

end Gatehouse.Json

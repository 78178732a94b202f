import Gatehouse.Proofs.Json.Records
import Gatehouse.Provider.Remote

/-!
# What a provider is sent

* `Posted` is what the body of a call says, read by the names of its members, and `Vendor.posted` what
  it should say: OpenAI gets the system prompt as the first message, Anthropic as a member of its own;
* `decode_requestBody`: the body says exactly that, whatever characters the texts hold;
* `Tree.outline` is a tree without its texts and numbers; `outline_requestBody`: the outline of a body
  is that of a body with empty texts.
-/

namespace Gatehouse

open Gatehouse.Generation (Params)
open Gatehouse.Json (Record Problem Value Numeral)

/-! ## 1. Outlines -/

namespace Json

namespace Tree

mutual

/-- **The tree without the texts of its strings and the values of its numbers**: its members with their
    names, and its items. -/
def outline : Tree → Tree
  | .string _ => .string none
  | .number _ => .number .tooLarge
  | .array items closed => .array (outlineItems items) closed
  | .object members closed => .object (outlineMembers members) closed
  | t => t

/-- The outlines of items. -/
def outlineItems : List Tree → List Tree
  | [] => []
  | t :: ts => t.outline :: outlineItems ts

/-- The outlines of members. -/
def outlineMembers : List (Option String × Tree) → List (Option String × Tree)
  | [] => []
  | (k, t) :: ms => (k, t.outline) :: outlineMembers ms

end

end Tree

namespace Value

/-- The outline of a value. -/
def outline (v : Value) : Tree := v.tree.outline

@[simp] theorem outline_string (s : String) : (string s).outline = .string none := by
  rw [outline, tree_string, Tree.outline]

@[simp] theorem outline_bool (b : Bool) : (bool b).outline = .bool b := by
  rw [outline, tree_bool, Tree.outline] <;> exact nofun

@[simp] theorem outline_natural (n : Nat) : (natural n).outline = .number .tooLarge := by
  rw [outline, tree, Tree.outline]

theorem outline_real {x : Number.Binary} (h : x.isFinite = true) :
    (real x).outline = .number .tooLarge := by
  rw [outline, tree, if_pos h, Tree.outline]

@[simp] theorem outline_array (vs : List Value) :
    (array vs).outline = .array (vs.map outline) true := by
  have hitems : Tree.outlineItems (vs.map tree) = vs.map outline := by
    induction vs with
    | nil => rw [List.map_nil, Tree.outlineItems, List.map_nil]
    | cons v vs ih => rw [List.map_cons, Tree.outlineItems, ih, List.map_cons, outline]
  rw [outline, tree_array, Tree.outline, hitems]

@[simp] theorem outline_object (ms : List (String × Value)) :
    (object ms).outline = .object (ms.map (fun m => (some m.1, m.2.outline))) true := by
  have hmembers : Tree.outlineMembers (ms.map (fun m => (some m.1, m.2.tree))) =
      ms.map (fun m => (some m.1, m.2.outline)) := by
    induction ms with
    | nil => rw [List.map_nil, Tree.outlineMembers, List.map_nil]
    | cons m ms ih => rw [List.map_cons, Tree.outlineMembers, ih, List.map_cons, outline]
  rw [outline, tree_object, Tree.outline, hmembers]

end Value

end Json

namespace Provider

/-! ## 2. Reading a body -/

/-- A message of a conversation. -/
structure Turn where
  role : String
  content : String
  deriving DecidableEq, Repr

/-- What the body of a call says. -/
structure Posted where
  model : String
  maxTokens : UInt32
  temperature : Numeral
  system : Option String
  turns : List Turn
  stream : Option Bool
  deriving DecidableEq, Repr

namespace Posted

/-- A message, as a record. -/
def turnRecord : Record (Option String × Option String) Turn where
  name := "Turn"
  fields := [
    ⟨"role", false, fun t m => do return (some (← Json.string t), m.2)⟩,
    ⟨"content", false, fun t m => do return (m.1, some (← Json.string t))⟩]
  start := (none, none)
  finish := fun m =>
    match m with
    | (none, _) => .error "role"
    | (_, none) => .error "content"
    | (some role, some content) => .ok ⟨role, content⟩

/-- The members of a body that have been read. -/
structure Members where
  model : Option String
  maxTokens : Option UInt32
  temperature : Option Numeral
  system : Option String
  turns : Option (List Turn)
  stream : Option Bool

/-- What a body says, or the name of a member that is missing. -/
def Members.finish (m : Members) : Except String Posted :=
  match m.model, m.maxTokens, m.temperature, m.turns with
  | none, _, _, _ => .error "model"
  | _, none, _, _ => .error "max_tokens"
  | _, _, none, _ => .error "temperature"
  | _, _, _, none => .error "messages"
  | some model, some maxTokens, some temperature, some turns =>
    .ok ⟨model, maxTokens, temperature, m.system, turns, m.stream⟩

/-- A body, as a record. -/
def record : Record Members Posted where
  name := "Posted"
  fields := [
    ⟨"model", false, fun t m => do return { m with model := some (← Json.string t) }⟩,
    ⟨"max_tokens", false, fun t m => do return { m with maxTokens := some (← Json.word32 t) }⟩,
    ⟨"temperature", false, fun t m => do return { m with temperature := some (← Json.numeral t) }⟩,
    ⟨"system", false, fun t m => do return { m with system := some (← Json.string t) }⟩,
    ⟨"messages", false, fun t m => do
      return { m with turns := some (← Json.list turnRecord.shape t) }⟩,
    ⟨"stream", false, fun t m => do return { m with stream := some (← Json.flag t) }⟩]
  start := ⟨none, none, none, none, none, none⟩
  finish := Members.finish

/-- Reads what a body says. -/
def decode (body : String) : Except Problem Posted :=
  record.shape.ofWhole (Json.Reader.stringItems body)

end Posted

/-! ## 3. What a body should say -/

/-- The messages of a conversation with one prompt. -/
def Vendor.turns (v : Vendor) (prompt : String) (system : Option String) : List Turn :=
  (match v with
    | .openAi => (system.map (Turn.mk "system")).toList
    | .anthropic => []) ++ [⟨"user", prompt⟩]

/-- **What the body of a call should say.** -/
def Vendor.posted (v : Vendor) (p : Params) (temperature : Numeral) (streamed : Bool) : Posted where
  model := p.model
  maxTokens := p.maxTokens
  temperature := temperature
  system :=
    match v with
    | .openAi => none
    | .anthropic => p.systemPrompt
  turns := v.turns p.prompt p.systemPrompt
  stream := if streamed then some true else none

namespace Posted

theorem turn_tree (t : Turn) :
    turnRecord.shape (OpenAi.messageJson t.role t.content).tree = .ok t := by
  rw [OpenAi.messageJson, Value.tree_object]
  refine Record.shape_object _ (r := (some t.role, some t.content)) rfl ?_
  refine Record.members_known rfl rfl (Record.read_of_ok _ (Json.string_tree t.role)) ?_
  refine Record.members_known rfl rfl (Record.read_of_ok _ (Json.string_tree t.content)) ?_
  rfl

theorem turns_tree (ts : List Turn) :
    Json.list turnRecord.shape
      (Value.array (ts.map (fun t => OpenAi.messageJson t.role t.content))).tree = .ok ts := by
  have h := Json.list_tree turnRecord.shape (fun t : Turn => OpenAi.messageJson t.role t.content)
    id turn_tree ts
  rwa [List.map_id] at h

variable {p : Params} (hsystem : p.systemPrompt ≠ some "")

include hsystem

theorem messages_eq : OpenAi.messages p =
    (Vendor.openAi.turns p.prompt p.systemPrompt).map
      (fun t => OpenAi.messageJson t.role t.content) := by
  rw [OpenAi.messages, Vendor.turns]
  cases hs : p.systemPrompt with
  | none => rfl
  | some s =>
    have hne : s.isEmpty = false := by
      rw [← Bool.not_eq_true, String.isEmpty_iff]
      rintro rfl
      exact hsystem hs
    simp [hne]

theorem systemMember_eq : Anthropic.systemMember p =
    (p.systemPrompt.map (fun s => ("system", Value.string s))).toList := by
  rw [Anthropic.systemMember]
  cases hs : p.systemPrompt with
  | none => rfl
  | some s =>
    have hne : s.isEmpty = false := by
      rw [← Bool.not_eq_true, String.isEmpty_iff]
      rintro rfl
      exact hsystem hs
    simp [hne]

variable (hfinite : p.temperature.isFinite = true)

include hfinite

/-- **The body of a call says what it should say.** -/
theorem decode_requestBody (v : Vendor) (streamed : Bool) :
    ∃ t, decode (v.requestBody p streamed).text = .ok (v.posted p t streamed) := by
  obtain ⟨t, ht⟩ := Json.numeral_tree hfinite
  refine ⟨t, ?_⟩
  rw [decode, Json.ofWhole_stringItems_text]
  cases v with
  | openAi =>
    rw [Vendor.requestBody, OpenAi.requestBody, messages_eq hsystem, Value.tree_object]
    refine Record.shape_object _ (r := ⟨some p.model, some p.maxTokens, some t, none,
      some (Vendor.openAi.turns p.prompt p.systemPrompt), if streamed then some true else none⟩)
      rfl ?_
    refine Record.members_known rfl rfl (Record.read_of_ok _ (Json.string_tree p.model)) ?_
    refine Record.members_known rfl rfl (Record.read_of_ok _ (turns_tree _)) ?_
    refine Record.members_known rfl rfl (Record.read_of_ok _ ht) ?_
    refine Record.members_known rfl rfl (Record.read_of_ok _ (Json.word32_tree p.maxTokens)) ?_
    cases streamed with
    | false => rfl
    | true =>
      refine Record.members_known rfl rfl (Record.read_of_ok _ (Json.flag_tree true)) ?_
      rfl
  | anthropic =>
    have hturns := turns_tree (Vendor.anthropic.turns p.prompt p.systemPrompt)
    rw [Vendor.requestBody, Anthropic.requestBody, systemMember_eq hsystem, Value.tree_object]
    refine Record.shape_object _ (r := ⟨some p.model, some p.maxTokens, some t, p.systemPrompt,
      some (Vendor.anthropic.turns p.prompt p.systemPrompt),
      if streamed then some true else none⟩) rfl ?_
    refine Record.members_known rfl rfl (Record.read_of_ok _ (Json.string_tree p.model)) ?_
    refine Record.members_known rfl rfl (Record.read_of_ok _ (Json.word32_tree p.maxTokens)) ?_
    refine Record.members_known rfl rfl (Record.read_of_ok _ ht) ?_
    cases p.systemPrompt with
    | none =>
      refine Record.members_known rfl rfl (Record.read_of_ok _ hturns) ?_
      cases streamed with
      | false => rfl
      | true =>
        refine Record.members_known rfl rfl (Record.read_of_ok _ (Json.flag_tree true)) ?_
        rfl
    | some s =>
      refine Record.members_known rfl rfl (Record.read_of_ok _ (Json.string_tree s)) ?_
      refine Record.members_known rfl rfl (Record.read_of_ok _ hturns) ?_
      cases streamed with
      | false => rfl
      | true =>
        refine Record.members_known rfl rfl (Record.read_of_ok _ (Json.flag_tree true)) ?_
        rfl

end Posted

/-! ## 4. The outline of a body -/

/-- A call with empty texts, with a system prompt or without one. -/
def plainParams (hasSystem : Bool) : Params :=
  ⟨"", "", .finite false 0 0, 0, if hasSystem then some "-" else none⟩

/-- **The outline of a body is that of a body with empty texts.** -/
theorem outline_requestBody (v : Vendor) {p : Params} (hsystem : p.systemPrompt ≠ some "")
    (hfinite : p.temperature.isFinite = true) (streamed : Bool) :
    (v.requestBody p streamed).outline =
      (v.requestBody (plainParams p.systemPrompt.isSome) streamed).outline := by
  have hplain (hasSystem : Bool) : (plainParams hasSystem).systemPrompt ≠ some "" := by
    cases hasSystem <;> simp [plainParams]
  have hzero : (Value.real (.finite false 0 0)).outline = .number .tooLarge :=
    Value.outline_real rfl
  cases v with
  | openAi =>
    simp only [Vendor.requestBody, OpenAi.requestBody, Posted.messages_eq hsystem,
      Posted.messages_eq (hplain _)]
    cases p.systemPrompt <;> cases streamed <;>
      simp [plainParams, Vendor.turns, OpenAi.messageJson, Value.outline_real hfinite, hzero]
  | anthropic =>
    simp only [Vendor.requestBody, Anthropic.requestBody, Posted.systemMember_eq hsystem,
      Posted.systemMember_eq (hplain _)]
    cases p.systemPrompt <;> cases streamed <;>
      simp [plainParams, Value.outline_real hfinite, hzero]

end Provider

end Gatehouse

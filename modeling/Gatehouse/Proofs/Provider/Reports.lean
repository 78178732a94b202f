import Gatehouse.Proofs.Json.Records
import Gatehouse.Proofs.Provider.Body

/-!
# Reports of usage

What a generation has cost is reported by the server that made it. A report need not add up, and may
leave counters out.

* `AddsUp`: the total of a usage is the sum of its parts. Anthropic's usages are made of two counters
  and always add up (`addsUp_of_reply`, `addsUp_of_readPayload`); OpenAI's are passed on as they are
  reported;
* `Counts` is a report with the counters that it leaves out. `usageRecord_alike` says that reading a
  usage is reading a report and putting zero for what is left out; `usage_of_reply` and
  `reportedUsage_eq` carry that to whole answers and to payloads;
* `answer_written`, `payload_written`: every report can come with an answer, and with a payload.
-/

namespace Gatehouse

open Gatehouse.Generation (Chunk Reply Usage)
open Gatehouse.Json (Field Problem Record Value Reader.bytesItems Reader.stringItems)
open Gatehouse.Text

/-! ## 1. Usages that add up -/

namespace Generation.Usage

/-- **The total is the sum of the parts**, as far as it fits into 32 bits. -/
def AddsUp (u : Usage) : Prop :=
  u.total.toNat = min (u.prompt.toNat + u.completion.toNat) (UInt32.size - 1)

instance (u : Usage) : Decidable u.AddsUp := Nat.decEq _ _

theorem addsUp_ofParts (p c : UInt32) : (ofParts p c).AddsUp := total_ofParts p c

theorem addsUp_zero : zero.AddsUp := rfl

end Generation.Usage

namespace Provider

/-! ## 2. Chunks and items -/

/-- A chunk comes from a payload. -/
theorem exists_payload_of_mem_chunksOf {read : PayloadReader} {t : Tally} {ps : List String}
    {c : Chunk} (h : c ∈ chunksOf read t ps) : ∃ t', ∃ p ∈ ps, (read t' p).2 = some c := by
  induction ps generalizing t with
  | nil => cases h
  | cons p ps ih =>
    rw [chunksOf, List.mem_append, Option.mem_toList] at h
    rcases h with h | h
    · exact ⟨t, p, List.mem_cons_self, h⟩
    · obtain ⟨t', q, hq, hc⟩ := ih h
      exact ⟨t', q, List.mem_cons_of_mem p hq, hc⟩

/-- A stream yields no other chunks than those it is made of. -/
theorem mem_of_chunk_mem_itemsOf {provider label : String} {ending : Ending} {cs : List Chunk} {c : Chunk}
    (h : .chunk c ∈ itemsOf provider label ending cs) : c ∈ cs := by
  induction cs with
  | nil => cases ending <;> simp [itemsOf, afterBody] at h
  | cons d cs ih =>
    rw [itemsOf, List.mem_cons] at h
    rcases h with h | h
    · rw [Item.chunk.inj h]
      exact List.mem_cons_self
    · cases hd : d.isLast with
      | true => simp [hd] at h
      | false =>
        rw [hd] at h
        exact List.mem_cons_of_mem d (ih h)

/-! ## 3. Anthropic -/

namespace Anthropic

/-- **A stream ends with the sum of the counters** that were collected. -/
theorem addsUp_of_takePayload {t : Tally} {kind : String} {p : Payload} {content : String} {u : Usage}
    (h : (takePayload t kind p).2 = some (.last content (some u))) : u.AddsUp := by
  unfold takePayload at h
  split at h
  · split at h <;> cases h
  · split at h
    · split at h
      · split at h <;> cases h
      · cases h
    · split at h
      · split at h <;> cases h
      · split at h
        · obtain ⟨-, hu⟩ := Chunk.last.inj (Option.some.inj h)
          rw [← Option.some.inj hu]
          exact Usage.addsUp_ofParts t.input t.output
        · cases h

theorem addsUp_of_readPayload {t : Tally} {payload content : String} {u : Usage}
    (h : (readPayload t payload).2 = some (.last content (some u))) : u.AddsUp := by
  unfold readPayload at h
  split at h
  · cases h
  · exact addsUp_of_takePayload h

theorem addsUp_of_reply {model : String} {body : List UInt8} {reply : Reply}
    (h : Anthropic.reply model body = .ok reply) : reply.usage.AddsUp := by
  unfold Anthropic.reply at h
  split at h
  · cases h
  · rename_i m _
    obtain rfl := Except.ok.inj h
    show ((m.tally.map usageOf).getD .zero).AddsUp
    cases m.tally with
    | none => exact Usage.addsUp_zero
    | some t => exact Usage.addsUp_ofParts t.input t.output

end Anthropic

/-! ## 4. Reports to OpenAI -/

namespace OpenAi

/-- A report of usage, with the counters that it leaves out. -/
structure Counts where
  prompt : Option UInt32
  completion : Option UInt32
  total : Option UInt32
  deriving DecidableEq, Repr

/-- The usage of a report: zero for what it leaves out. -/
def Counts.usage (c : Counts) : Usage :=
  ⟨c.prompt.getD 0, c.completion.getD 0, c.total.getD 0⟩

/-- The total that is reported is the sum of the parts that are. -/
def Counts.Balanced (c : Counts) : Prop :=
  (c.total.getD 0).toNat =
    min ((c.prompt.getD 0).toNat + (c.completion.getD 0).toNat) (UInt32.size - 1)

instance (c : Counts) : Decidable c.Balanced := Nat.decEq _ _

/-- A report, as a record. -/
def countsRecord : Record Counts Counts where
  name := "Usage"
  fields := [
    ⟨"prompt_tokens", true, fun t c => do return { c with prompt := some (← Json.word32 t) }⟩,
    ⟨"completion_tokens", true, fun t c => do
      return { c with completion := some (← Json.word32 t) }⟩,
    ⟨"total_tokens", true, fun t c => do return { c with total := some (← Json.word32 t) }⟩]
  start := ⟨none, none, none⟩
  finish := .ok

/-- **A usage is read like a report**, and has zero for what the report leaves out. -/
theorem usageRecord_alike : Record.Alike Counts.usage Counts.usage countsRecord usageRecord where
  name := rfl
  fields := .cons ⟨rfl, rfl, fun _ _ => Record.read_alike fun _ => rfl⟩
    (.cons ⟨rfl, rfl, fun _ _ => Record.read_alike fun _ => rfl⟩
      (.cons ⟨rfl, rfl, fun _ _ => Record.read_alike fun _ => rfl⟩ .nil))
  start := rfl
  finish := fun _ => rfl

/-- An answer, of which the report is kept. -/
def answerCountsRecord :
    Record (Option (List Choice) × Option Counts) (List Choice × Option Counts) where
  name := "Answer"
  fields := [
    ⟨"choices", false, fun t a => do return (some (← Json.list choiceRecord.shape t), a.2)⟩,
    ⟨"usage", false, fun t a => do return (a.1, ← Json.optional countsRecord.shape t)⟩]
  start := (none, none)
  finish := fun a =>
    match a with
    | (none, _) => .error "choices"
    | (some choices, report) => .ok (choices, report)

/-- A payload, of which the report is kept. -/
def payloadCountsRecord : Record (List Choice × Option Counts) (List Choice × Option Counts) where
  name := "Payload"
  fields := [
    ⟨"choices", true, fun t a => do return (← Json.list streamChoiceRecord.shape t, a.2)⟩,
    ⟨"usage", false, fun t a => do return (a.1, ← Json.optional countsRecord.shape t)⟩]
  start := ([], none)
  finish := .ok

/-- The usage in the place of a report. -/
def withUsage {α : Type} (x : α × Option Counts) : α × Option Usage := (x.1, x.2.map Counts.usage)

theorem usageField_alike (α : Type) : Field.Alike (@withUsage α)
    ⟨"usage", false, fun t x => do return (x.1, ← Json.optional countsRecord.shape t)⟩
    ⟨"usage", false, fun t x => do return (x.1, ← Json.optional usageRecord.shape t)⟩ where
  name := rfl
  mayEnd := rfl
  read := fun t x => by
    dsimp only
    rw [Json.optional_map usageRecord_alike.shape]
    cases Json.optional countsRecord.shape t <;> rfl

theorem answerRecord_alike :
    Record.Alike withUsage withUsage answerCountsRecord answerRecord where
  name := rfl
  fields := .cons ⟨rfl, rfl, fun _ _ => Record.read_alike fun _ => rfl⟩
    (.cons (usageField_alike _) .nil)
  start := rfl
  finish := fun x => by
    obtain ⟨choices, report⟩ := x
    cases choices <;> rfl

theorem payloadRecord_alike :
    Record.Alike withUsage withUsage payloadCountsRecord payloadRecord where
  name := rfl
  fields := .cons ⟨rfl, rfl, fun _ _ => Record.read_alike fun _ => rfl⟩
    (.cons (usageField_alike _) .nil)
  start := rfl
  finish := fun _ => rfl

/-- What a text tells of usage, if it can be read. -/
def told {α υ : Type} : Except Problem (α × Option υ) → Option υ
  | .ok (_, report) => report
  | .error _ => none

theorem told_map {α : Type} (outcome : Except Problem (α × Option Counts)) :
    told (outcome.map withUsage) = (told outcome).map Counts.usage := by
  cases outcome <;> rfl

/-- **The report in the body of an answer**, if there is one. -/
def answerReport (body : List UInt8) : Option Counts :=
  told (answerCountsRecord.shape.ofWhole (Reader.bytesItems body))

/-- **The report in a payload**, if there is one. -/
def report (payload : String) : Option Counts :=
  told (payloadCountsRecord.shape.ofWhole (Reader.stringItems payload))

/-- The usage that a payload reports. -/
def reportedUsage (payload : String) : Option Usage :=
  told (payloadRecord.shape.ofWhole (Reader.stringItems payload))

theorem reportedUsage_eq (payload : String) :
    reportedUsage payload = (report payload).map Counts.usage := by
  rw [reportedUsage, payloadRecord_alike.ofWhole, told_map]
  rfl

/-- The usage of an answer is that of the report in it, and zero without one. -/
theorem usage_of_reply {model : String} {body : List UInt8} {reply : Reply}
    (h : OpenAi.reply model body = .ok reply) :
    reply.usage = ((answerReport body).map Counts.usage).getD .zero := by
  have htold : told (answerRecord.shape.ofWhole (Reader.bytesItems body)) =
      (answerReport body).map Counts.usage := by
    rw [answerRecord_alike.ofWhole, told_map]
    rfl
  rw [← htold]
  unfold OpenAi.reply at h
  split at h
  · cases h
  · cases h
  · rename_i hread
    rw [hread, ← Except.ok.inj h]
    rfl

/-- The usage of a report adds up exactly if the report is balanced; that of no report does. -/
theorem addsUp_usage_iff (report : Option Counts) :
    ((report.map Counts.usage).getD .zero).AddsUp ↔ ∀ c ∈ report, c.Balanced := by
  cases report with
  | none => exact iff_of_true Usage.addsUp_zero nofun
  | some c =>
    have hbalanced : c.usage.AddsUp ↔ c.Balanced := Iff.rfl
    simpa using hbalanced

/-! ## 5. Reports that are written -/

/-- A counter as a member of a report, unless it is left out. -/
def counter (name : String) : Option UInt32 → List (String × Value)
  | none => []
  | some n => [(name, .natural n.toNat)]

/-- A report as JSON. -/
def Counts.toJson (c : Counts) : Value :=
  .object (counter "prompt_tokens" c.prompt ++ counter "completion_tokens" c.completion ++
    counter "total_tokens" c.total)

theorem counts_tree (c : Counts) : countsRecord.shape c.toJson.tree = .ok c := by
  obtain ⟨prompt, completion, total⟩ := c
  rw [Counts.toJson, Value.tree_object]
  refine Record.shape_object _ rfl ?_
  cases prompt <;> cases completion <;> cases total <;>
    simp [counter, Record.members, countsRecord, Json.word32_tree, Json.inside, bind, pure,
      Except.bind, Except.pure]

theorem report_tree (report : Option Counts) :
    Json.optional countsRecord.shape (Json.orNull Counts.toJson report).tree = .ok report :=
  Json.optional_orNull_tree counts_tree (fun _ => Value.tree_object_ne_null _) report

/-- An answer as JSON. -/
def answerJson (content : String) (report : Option Counts) : Value :=
  .object [("choices", .array [.object [("message", .object [("content", .string content)])]]),
    ("usage", Json.orNull Counts.toJson report)]

/-- An alternative of a payload as JSON. -/
def Choice.toJson (c : Choice) : Value :=
  .object [("delta", .object [("content", Json.orNull .string c.content)]),
    ("finish_reason", Json.orNull .string c.finishReason)]

/-- A payload as JSON. -/
def payloadJson (choices : List Choice) (report : Option Counts) : Value :=
  .object [("choices", .array (choices.map Choice.toJson)),
    ("usage", Json.orNull Counts.toJson report)]

theorem message_tree (content : String) :
    choiceRecord.shape
      (Value.object [("message", .object [("content", .string content)])]).tree =
        .ok ⟨some content, none⟩ := by
  have hmessage : messageRecord.shape (Value.object [("content", .string content)]).tree =
      .ok (some content) := by
    rw [Value.tree_object]
    refine Record.shape_object _ rfl ?_
    exact Record.members_known rfl rfl (Json.optional_string_tree content) rfl
  rw [Value.tree_object]
  refine Record.shape_object _ (r := (some (some content), none)) rfl ?_
  exact Record.members_known rfl rfl (Record.read_of_ok _ hmessage) rfl

theorem choice_tree (c : Choice) : streamChoiceRecord.shape c.toJson.tree = .ok c := by
  have hdelta : deltaRecord.shape
      (Value.object [("content", Json.orNull .string c.content)]).tree = .ok c.content := by
    rw [Value.tree_object]
    refine Record.shape_object _ rfl ?_
    exact Record.members_known rfl rfl (Json.orNull_string_tree c.content) rfl
  have hopen := Json.optional_of_ok (Value.tree_object_ne_null _) hdelta
  rw [Choice.toJson, Value.tree_object]
  refine Record.shape_object _ rfl ?_
  refine Record.members_known rfl rfl (Record.read_of_ok _ hopen) ?_
  exact Record.members_known rfl rfl
    (Record.read_of_ok _ (Json.orNull_string_tree c.finishReason)) rfl

/-- **Every report can come with an answer.** -/
theorem answer_written (content : String) (report : Option Counts) :
    answerCountsRecord.shape.ofWhole
        (Reader.bytesItems (Utf8.encode (answerJson content report).text)) =
      .ok ([⟨some content, none⟩], report) := by
  have hchoices := Json.list_tree choiceRecord.shape _ _ message_tree [content]
  rw [Json.ofWhole_bytesItems_text, answerJson, Value.tree_object]
  refine Record.shape_object _ (r := (some [⟨some content, none⟩], report)) rfl ?_
  refine Record.members_known rfl rfl (Record.read_of_ok _ hchoices) ?_
  exact Record.members_known rfl rfl (Record.read_of_ok _ (report_tree report)) rfl

/-- **Every report can come with a payload.** -/
theorem payload_written (choices : List Choice) (report : Option Counts) :
    payloadCountsRecord.shape.ofWhole (Reader.stringItems (payloadJson choices report).text) =
      .ok (choices, report) := by
  have hchoices := Json.list_tree streamChoiceRecord.shape Choice.toJson id choice_tree choices
  rw [List.map_id] at hchoices
  rw [Json.ofWhole_stringItems_text, payloadJson, Value.tree_object]
  refine Record.shape_object _ rfl ?_
  refine Record.members_known rfl rfl (Record.read_of_ok _ hchoices) ?_
  exact Record.members_known rfl rfl (Record.read_of_ok _ (report_tree report)) rfl

end OpenAi

end Provider

end Gatehouse

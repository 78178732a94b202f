import Gatehouse.Proofs.Json.Records
import Gatehouse.Proofs.Provider.Body
import Gatehouse.Proofs.Provider.DataLines

/-!
# One message, whole and streamed

A message of the messages interface is a list of blocks, some of which have a text. It can be asked for
as a whole or as a stream of increments.

* `Tells` says that the payloads of a stream give these increments and then stop; `chunksOf_of_tells`
  is what is made of them;
* `message_written` and `tells_written`: every message can be written, and every way to cut its text
  into increments;
* `text_kept_iff`: a stream keeps the text of all blocks, and a whole answer that of the first block
  that has one.
-/

namespace Gatehouse.Provider

open Gatehouse.Generation (Chunk Params Reply Usage)
open Gatehouse.Json (Record Problem Value Reader.bytesItems Reader.stringItems)
open Gatehouse.Provider.EventStream
open Gatehouse.Text

/-! ## 1. What a stream tells -/

namespace Anthropic

/-- Reads the event in a payload: its kind and its members. -/
def readEvent (payload : String) : Except Problem (String × Payload) :=
  payloadRecord.shape.ofWhole (Reader.stringItems payload)

/-- The payload is an increment with this text. -/
def IsDelta (payload text : String) : Prop :=
  ∃ members, readEvent payload = .ok ("content_block_delta", members) ∧
    members.delta.join = some text

/-- The payload is the end of the message. -/
def IsStop (payload : String) : Prop := ∃ members, readEvent payload = .ok ("message_stop", members)

/-- **The payloads give these increments, none of which is empty, and then stop.** What else there is
    among them, such as reports of tokens, does not count. -/
inductive Tells : List String → List String → Prop where
  | stop {payload : String} (behind : List String) : IsStop payload → Tells (payload :: behind) []
  | delta {payload text : String} {payloads texts : List String} : IsDelta payload text →
      text ≠ "" → Tells payloads texts → Tells (payload :: payloads) (text :: texts)
  | aside {payload : String} {payloads texts : List String} : ¬ IsStop payload →
      (∀ text, IsDelta payload text → text = "") → Tells payloads texts →
      Tells (payload :: payloads) texts

section

variable (t : Tally) {payload : String}

theorem readPayload_of_isStop (h : IsStop payload) :
    readPayload t payload = (t, some (.last "" (some (usageOf t)))) := by
  obtain ⟨members, hread⟩ := h
  rw [readEvent] at hread
  rw [readPayload, hread]
  rfl

theorem readPayload_of_isDelta {text : String} (h : IsDelta payload text) (hne : text ≠ "") :
    readPayload t payload = (t, some (.delta text)) := by
  obtain ⟨members, hread, htext⟩ := h
  rw [readEvent] at hread
  have hempty : text.isEmpty = false := by
    rw [← Bool.not_eq_true, String.isEmpty_iff]
    exact hne
  simp [readPayload, hread, takePayload, htext, hempty]

/-- What is no increment and no end yields nothing, though the counts may change. -/
theorem readPayload_of_aside (hstop : ¬ IsStop payload)
    (hdelta : ∀ text, IsDelta payload text → text = "") : (readPayload t payload).2 = none := by
  cases hread : readEvent payload with
  | error problem =>
    rw [readEvent] at hread
    simp [readPayload, hread]
  | ok event =>
    obtain ⟨kind, members⟩ := event
    have hkind : kind ≠ "message_stop" := by
      rintro rfl
      exact hstop ⟨members, hread⟩
    have htext (text : String) (hk : kind = "content_block_delta")
        (hjoin : members.delta.join = some text) : text = "" := by
      subst hk
      exact hdelta text ⟨members, hread, hjoin⟩
    rw [readEvent] at hread
    simp only [readPayload, hread, takePayload]
    split
    · split <;> rfl
    · split
      · rename_i hk
        split
        · rename_i text hjoin
          rw [htext text (beq_iff_eq.1 hk) hjoin]
          rfl
        · rfl
      · split
        · split <;> rfl
        · split
          · rename_i hk
            exact absurd (beq_iff_eq.1 hk) hkind
          · rfl

end

/-- **What is made of payloads that tell increments**: a chunk for each, and the last chunk. -/
theorem chunksOf_of_tells {payloads texts : List String} (h : Tells payloads texts) (t : Tally) :
    ∃ usage behind, chunksOf readPayload t payloads =
      texts.map Chunk.delta ++ Chunk.last "" (some usage) :: behind := by
  induction h generalizing t with
  | @stop payload behind hstop =>
    refine ⟨usageOf t, chunksOf readPayload t behind, ?_⟩
    rw [chunksOf, readPayload_of_isStop t hstop]
    rfl
  | @delta payload text payloads texts hdelta hne _ ih =>
    obtain ⟨usage, behind, hrest⟩ := ih t
    refine ⟨usage, behind, ?_⟩
    rw [chunksOf, readPayload_of_isDelta t hdelta hne, hrest]
    rfl
  | @aside payload payloads texts hstop hdelta _ ih =>
    obtain ⟨usage, behind, hrest⟩ := ih (readPayload t payload).1
    refine ⟨usage, behind, ?_⟩
    rw [chunksOf, readPayload_of_aside t hstop hdelta, hrest]
    rfl

/-! ## 2. Messages that are written -/

/-- A block of a message. -/
structure Block where
  kind : String
  text : Option String

/-- A block as JSON. -/
def Block.toJson (b : Block) : Value :=
  .object (("type", .string b.kind) :: Generation.memberOf? "text" b.text)

/-- A message as JSON. -/
def messageJson (blocks : List Block) : Value :=
  .object [("type", .string "message"), ("content", .array (blocks.map Block.toJson)),
    ("stop_reason", .string "end_turn")]

/-- An increment as JSON. -/
def deltaJson (text : String) : Value :=
  .object [("type", .string "content_block_delta"),
    ("delta", .object [("type", .string "text_delta"), ("text", .string text)])]

/-- The end of a message as JSON. -/
def stopJson : Value := .object [("type", .string "message_stop")]

/-- A stream of increments on its way. -/
def streamText (texts : List String) : String :=
  String.join (((texts.map deltaJson ++ [stopJson]).map Value.text).map dataLine)

theorem sound_string_tree (s : String) : (Value.string s).tree.sound = true := by
  rw [Value.tree_string]
  rfl

theorem block_tree (b : Block) : blockRecord.shape b.toJson.tree = .ok b.text := by
  rw [Block.toJson, Value.tree_object]
  refine Record.shape_object _ rfl ?_
  refine Record.members_unknown rfl (sound_string_tree b.kind) ?_
  cases b.text with
  | none => rfl
  | some text =>
    refine Record.members_known rfl rfl (Json.optional_string_tree text) ?_
    rfl

/-- **Every message can be written.** -/
theorem message_written (blocks : List Block) :
    messageRecord.shape.ofWhole (Reader.bytesItems (Utf8.encode (messageJson blocks).text)) =
      .ok ⟨blocks.map Block.text, some "end_turn", none⟩ := by
  have hblocks := Json.list_tree blockRecord.shape Block.toJson Block.text block_tree blocks
  rw [Json.ofWhole_bytesItems_text, messageJson, Value.tree_object]
  refine Record.shape_object _ rfl ?_
  refine Record.members_unknown rfl (sound_string_tree "message") ?_
  refine Record.members_known rfl rfl (Record.read_of_ok _ hblocks) ?_
  refine Record.members_known rfl rfl (Record.read_of_ok _ (Json.optional_string_tree "end_turn")) ?_
  rfl

theorem delta_tree (text : String) :
    deltaRecord.shape (Value.object [("type", .string "text_delta"), ("text", .string text)]).tree =
      .ok (some text) := by
  rw [Value.tree_object]
  refine Record.shape_object _ rfl ?_
  refine Record.members_unknown rfl (sound_string_tree "text_delta") ?_
  refine Record.members_known rfl rfl (Json.optional_string_tree text) ?_
  rfl

theorem isDelta_text (text : String) : IsDelta (deltaJson text).text text := by
  have hdelta := Json.optional_of_ok (Value.tree_object_ne_null _) (delta_tree text)
  refine ⟨⟨some "content_block_delta", none, some (some text), none⟩, ?_, rfl⟩
  rw [readEvent, Json.ofWhole_stringItems_text, deltaJson, Value.tree_object]
  refine Record.shape_object _
    (r := ⟨some "content_block_delta", none, some (some text), none⟩) rfl ?_
  refine Record.members_known rfl rfl
    (Record.read_of_ok _ (Json.string_tree "content_block_delta")) ?_
  refine Record.members_known rfl rfl (Record.read_of_ok _ hdelta) ?_
  rfl

theorem isStop_text : IsStop stopJson.text := by
  refine ⟨⟨some "message_stop", none, none, none⟩, ?_⟩
  rw [readEvent, Json.ofWhole_stringItems_text, stopJson, Value.tree_object]
  refine Record.shape_object _ (r := ⟨some "message_stop", none, none, none⟩) rfl ?_
  refine Record.members_known rfl rfl (Record.read_of_ok _ (Json.string_tree "message_stop")) ?_
  rfl

/-- **Every way to cut a text into increments can be written.** -/
theorem tells_written {texts : List String} (h : ∀ text ∈ texts, text ≠ "") :
    Tells (payloads (Utf8.encode (streamText texts))) texts := by
  have htight : ∀ t ∈ (texts.map deltaJson ++ [stopJson]).map Value.text, Tight t := by
    intro t ht
    obtain ⟨v, hv, rfl⟩ := List.mem_map.1 ht
    rcases List.mem_append.1 hv with hv | hv
    · obtain ⟨text, -, rfl⟩ := List.mem_map.1 hv
      exact tight_object _
    · rw [List.mem_singleton.1 hv]
      exact tight_object _
  rw [streamText, payloads_dataLines htight]
  clear htight
  induction texts with
  | nil => exact .stop [] isStop_text
  | cons text texts ih =>
    obtain ⟨hne, hrest⟩ := List.forall_mem_cons.1 h
    exact .delta (isDelta_text text) hne (ih hrest)

/-! ## 3. Both ways to ask -/

/-- The text of an item: that of its chunk, if it is one. -/
def textOf : Item → String
  | .chunk c => c.content
  | .failed _ => ""
  | .brokeDown _ => ""
  | .stalled => ""

/-- The text of the chunks of a stream. -/
def contentOf (items : List Item) : String := String.join (items.map textOf)

theorem itemsOf_deltas (provider label : String) (ending : Ending) (texts : List String) {c : Chunk}
    (hlast : c.isLast = true) (behind : List Chunk) :
    itemsOf provider label ending (texts.map Chunk.delta ++ c :: behind) =
      texts.map (fun text => .chunk (.delta text)) ++ [.chunk c] := by
  induction texts with
  | nil => simp [itemsOf, hlast]
  | cons text texts ih =>
    rw [List.map_cons, List.cons_append, itemsOf, ih]
    rfl

theorem contentOf_deltas (texts : List String) (usage : Option Usage) :
    contentOf (texts.map (fun text => .chunk (.delta text)) ++ [.chunk (.last "" usage)]) =
      String.join texts := by
  rw [contentOf, List.map_append, List.map_map, String.join_append]
  exact (String.append_empty).trans (congrArg String.join (List.map_id texts))

section

variable {r : Remote} (hvendor : r.vendor = .anthropic) {pieces : List (List UInt8)}

include hvendor

/-- **A stream keeps all that is told.** -/
theorem stream_of_tells {ending : Ending} (hreceives : r.Receives pieces ending)
    {texts : List String} (htells : Tells (payloads pieces.flatten) texts) (p : Params) :
    ∃ items, (r.stream p).outcome = .ok items ∧ contentOf items = String.join texts := by
  obtain ⟨usage, behind, hchunks⟩ := chunksOf_of_tells htells ⟨0, 0⟩
  refine ⟨_, Remote.stream_of_receives hreceives p, ?_⟩
  have hbody : Vendor.anthropic.chunksIn pieces.flatten =
      texts.map Chunk.delta ++ Chunk.last "" (some usage) :: behind := hchunks
  rw [Remote.readStream_eq, hvendor, hbody, itemsOf_deltas _ _ _ _ rfl, contentOf_deltas]

/-- **A whole answer keeps the first text.** -/
theorem generate_of_message (hreceives : r.Receives pieces .complete) {m : Message}
    (hread : messageRecord.shape.ofWhole (Reader.bytesItems pieces.flatten) = .ok m) (p : Params) :
    ∃ reply, (r.generate p).outcome = .ok reply ∧
      reply.content = (m.blocks.filterMap id).head?.getD "" := by
  have houtcome : (r.generate p).outcome = Anthropic.reply p.model pieces.flatten := by
    rw [Remote.generate_of_receives hreceives p, hvendor]
    rfl
  have hfirst : (m.blocks.findSome? id).getD "" = (m.blocks.filterMap id).head?.getD "" := by
    rw [List.head?_filterMap]
  rw [houtcome, Anthropic.reply, hread]
  exact ⟨_, rfl, hfirst⟩

end

/-- Nothing is lost of texts of which the first is kept exactly if the others are empty. -/
theorem join_eq_head_iff (texts : List String) :
    String.join texts = texts.head?.getD "" ↔ ∀ text ∈ texts.tail, text = "" := by
  cases texts with
  | nil => simp
  | cons text texts =>
    rw [String.join_cons, List.head?_cons, Option.getD_some, List.tail_cons,
      String.append_eq_left_iff]
    induction texts with
    | nil => simp
    | cons text texts ih =>
      rw [String.join_cons, String.append_eq_empty_iff, ih, List.forall_mem_cons]

/-- **What becomes of the text of a message.** Let a message come back for one call, and for another a
    stream that tells its text in increments, however the text and the bodies are cut. Both calls
    succeed. The stream has the texts of all blocks, in order, but the whole answer has only the first:
    they agree exactly if all texts behind that are empty. -/
theorem text_kept_iff {r r' : Remote} (hvendor : r.vendor = .anthropic)
    (hvendor' : r'.vendor = .anthropic) {whole pieces : List (List UInt8)} {ending : Ending}
    {m : Message} {texts : List String} (hwhole : r.Receives whole .complete)
    (hread : messageRecord.shape.ofWhole (Reader.bytesItems whole.flatten) = .ok m)
    (hstreamed : r'.Receives pieces ending) (htells : Tells (payloads pieces.flatten) texts)
    (htexts : String.join texts = String.join (m.blocks.filterMap id)) (p p' : Params) :
    ∃ reply items, (r.generate p).outcome = .ok reply ∧ (r'.stream p').outcome = .ok items ∧
      contentOf items = String.join (m.blocks.filterMap id) ∧
      reply.content = (m.blocks.filterMap id).head?.getD "" ∧
      (contentOf items = reply.content ↔ ∀ text ∈ (m.blocks.filterMap id).tail, text = "") := by
  obtain ⟨reply, hreply, hfirst⟩ := generate_of_message hvendor hwhole hread p
  obtain ⟨items, hitems, hall⟩ := stream_of_tells hvendor' hstreamed htells p'
  refine ⟨reply, items, hreply, hitems, hall.trans htexts, hfirst, ?_⟩
  rw [hall, htexts, hfirst]
  exact join_eq_head_iff _

/-- A provider with a key, for which a text comes back. -/
def messenger (text : String) : Remote :=
  .ofSettings .anthropic { Settings.blank with apiKey := "key" }
    ⟨[.answered 200 [Utf8.encode text] .complete]⟩

theorem receives_messenger (text : String) :
    (messenger text).Receives [Utf8.encode text] .complete where
  configured := show (!(trim "key").isEmpty) = true by decide
  opened := rfl
  legal := show Http.Header.isLegal (trim "key") = true by decide
  answered := ⟨200, rfl, by decide, by decide⟩

/-- A message of two texts with a block without a text in front of them. -/
def thoughtful (first second : String) : List Block :=
  [⟨"thinking", none⟩, ⟨"text", some first⟩, ⟨"text", some second⟩]

theorem text_kept_of_thoughtful : ∃ reply items,
    ((messenger (messageJson (thoughtful "Hello" "")).text).generate Remote.coffee).outcome =
        .ok reply ∧
      ((messenger (streamText ["Hel", "lo"])).stream Remote.coffee).outcome = .ok items ∧
      contentOf items = reply.content := by
  have hwhole := receives_messenger (messageJson (thoughtful "Hello" "")).text
  have hstreamed := receives_messenger (streamText ["Hel", "lo"])
  have hread := message_written (thoughtful "Hello" "")
  have htells : Tells (payloads (Utf8.encode (streamText ["Hel", "lo"]))) ["Hel", "lo"] :=
    tells_written (by decide)
  rw [← List.flatten_singleton (l := Utf8.encode _)] at hread htells
  obtain ⟨reply, items, hreply, hitems, -, -, hagree⟩ :=
    text_kept_iff rfl rfl hwhole hread hstreamed htells rfl Remote.coffee Remote.coffee
  exact ⟨reply, items, hreply, hitems, hagree.2 (by decide)⟩

/-- The second text of a message is lost in a whole answer. -/
theorem second_text_lost : ∃ reply items,
    ((messenger (messageJson (thoughtful "Hello" " world")).text).generate Remote.coffee).outcome =
        .ok reply ∧
      ((messenger (streamText ["Hello", " wor", "ld"])).stream Remote.coffee).outcome = .ok items ∧
      contentOf items = "Hello world" ∧ reply.content = "Hello" := by
  have hwhole := receives_messenger (messageJson (thoughtful "Hello" " world")).text
  have hstreamed := receives_messenger (streamText ["Hello", " wor", "ld"])
  have hread := message_written (thoughtful "Hello" " world")
  have htells : Tells (payloads (Utf8.encode (streamText ["Hello", " wor", "ld"])))
      ["Hello", " wor", "ld"] := tells_written (by decide)
  rw [← List.flatten_singleton (l := Utf8.encode _)] at hread htells
  obtain ⟨reply, hreply, hfirst⟩ := generate_of_message rfl hwhole hread Remote.coffee
  obtain ⟨items, hitems, hall⟩ := stream_of_tells rfl hstreamed htells Remote.coffee
  exact ⟨reply, items, hreply, hitems, hall.trans (by decide), hfirst⟩

end Anthropic

end Gatehouse.Provider

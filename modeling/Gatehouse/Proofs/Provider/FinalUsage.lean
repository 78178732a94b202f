import Mathlib.Data.List.TakeWhile
import Gatehouse.Proofs.Provider.DataLines
import Gatehouse.Proofs.Provider.Reports

/-!
# The usage that is delivered

A usage is delivered with a whole answer, or with the last chunk of a stream.

* `exists_end_of_last_mem`: the last chunk of an OpenAI stream comes from the first payload that `ends`
  it, and has the usage in that payload;
* `usage_addsUp_iff`: a usage that is delivered adds up exactly if the report behind it is balanced;
* `usage_kept_iff`: the usage at the end of an OpenAI stream is the one reported last exactly if the
  payload that ends the stream reports it, or if none does.
-/

namespace Gatehouse.Provider

open Gatehouse.Generation (Chunk Params Reply Usage)
open Gatehouse.Json (Reader.stringItems)
open Gatehouse.Provider.EventStream
open Gatehouse.Text

namespace OpenAi

/-! ## 1. The payload that ends a stream -/

/-- The finish reason in a payload: that of its first alternative. -/
def finishReason? (payload : String) : Option String :=
  match payloadRecord.shape.ofWhole (Reader.stringItems payload) with
  | .ok (choice :: _, _) => choice.finishReason
  | _ => none

/-- Does the payload end its stream? -/
def ends (payload : String) : Bool := payload == "[DONE]" || (finishReason? payload).isSome

theorem reportedUsage_done : reportedUsage "[DONE]" = none := by decide +kernel

theorem chunk?_done : chunk? "[DONE]" = some (.last "" none) := rfl

/-- **A last chunk has the usage that its own payload reports**, and no other. -/
theorem chunk?_of_ends {payload : String} (h : ends payload = true) :
    ∃ content, chunk? payload = some (.last content (reportedUsage payload)) := by
  unfold chunk?
  by_cases hdone : payload = "[DONE]"
  · rw [hdone, reportedUsage_done]
    exact ⟨"", rfl⟩
  · have hreason : (finishReason? payload).isSome = true := by simpa [ends, hdone] using h
    rw [if_neg (by simpa using hdone)]
    unfold finishReason? at hreason
    unfold reportedUsage
    split at hreason
    · rename_i choice choices usage hread
      rw [hread]
      simp [hreason, told]
    · cases hreason

/-- A payload that does not end its stream stands for no last chunk. -/
theorem isLast_of_not_ends {payload : String} {c : Chunk} (h : ends payload = false)
    (hc : chunk? payload = some c) : c.isLast = false := by
  obtain ⟨hdone, hreason⟩ := Bool.or_eq_false_iff.1 h
  unfold chunk? at hc
  rw [hdone, if_neg Bool.false_ne_true] at hc
  unfold finishReason? at hreason
  cases hread : payloadRecord.shape.ofWhole (Reader.stringItems payload) with
  | error problem =>
    rw [hread] at hc
    cases hc
  | ok read =>
    obtain ⟨choices, usage⟩ := read
    rw [hread] at hc hreason
    have hopen : (choices.head?.getD ⟨none, none⟩).finishReason.isSome = false := by
      cases choices with
      | nil => rfl
      | cons choice choices => exact hreason
    dsimp only at hc
    rw [hopen, if_neg Bool.false_ne_true] at hc
    split at hc
    · cases hc
    · rw [← Option.some.inj hc]
      rfl

/-- A payload is read without regard to those before it. -/
theorem chunksOf_readPayload (t : Tally) (ps : List String) :
    chunksOf readPayload t ps = ps.filterMap chunk? := by
  induction ps with
  | nil => rfl
  | cons p ps ih =>
    show (chunk? p).toList ++ chunksOf readPayload t ps = _
    rw [ih, List.filterMap_cons]
    cases chunk? p <;> rfl

/-- **Where the last chunk of a stream comes from**: the first payload that ends the stream, of which
    it has the usage. -/
theorem exists_end_of_last_mem {provider tag : String} {ending : Ending} {ps : List String}
    {content : String} {usage : Option Usage}
    (h : .chunk (.last content usage) ∈ itemsOf provider tag ending (ps.filterMap chunk?)) :
    ∃ before last after, ps = before ++ last :: after ∧ (∀ q ∈ before, ends q = false) ∧
      ends last = true ∧ usage = reportedUsage last := by
  induction ps with
  | nil => cases ending <;> simp [itemsOf, afterBody] at h
  | cons p ps ih =>
    cases hends : ends p with
    | true =>
      -- nothing behind the payload is read, so that its chunk is the only one
      obtain ⟨text, hp⟩ := chunk?_of_ends hends
      have hitems : .chunk (.last content usage) ∈ [Item.chunk (.last text (reportedUsage p))] := by
        simpa [hp, itemsOf, Chunk.isLast] using h
      obtain ⟨-, husage⟩ := Chunk.last.inj (Item.chunk.inj (List.mem_singleton.1 hitems))
      exact ⟨[], p, ps, rfl, by simp, hends, husage⟩
    | false =>
      have hrest : .chunk (.last content usage) ∈
          itemsOf provider tag ending (ps.filterMap chunk?) := by
        cases hp : chunk? p with
        | none => simpa [hp] using h
        | some c =>
          have hc : c.isLast = false := isLast_of_not_ends hends hp
          cases c with
          | last => cases hc
          | delta text => simpa [hp, itemsOf, hc] using h
      obtain ⟨before, last, after, rfl, hbefore, hlast, husage⟩ := ih hrest
      exact ⟨p :: before, last, after, rfl, List.forall_mem_cons.2 ⟨hends, hbefore⟩, hlast, husage⟩

/-- **What the payloads of a stream report of usage**, up to the one that says that it is done. -/
def reported (payloads : List String) : List Usage :=
  (payloads.takeWhile (· ≠ "[DONE]")).filterMap reportedUsage

theorem reported_done (ps : List String) : reported ("[DONE]" :: ps) = [] := rfl

theorem reported_append {before : List String} (h : ∀ q ∈ before, ends q = false)
    (ps : List String) : reported (before ++ ps) = reported before ++ reported ps := by
  have hne : ∀ q ∈ before, decide (q ≠ "[DONE]") = true := by
    intro q hq
    have hdone : (q == "[DONE]") = false := (Bool.or_eq_false_iff.1 (h q hq)).1
    simpa using hdone
  rw [reported, reported, reported, List.takeWhile_append_of_pos hne,
    List.takeWhile_eq_self_iff.2 hne, List.filterMap_append]

/-- Nothing is reported from a payload on only if it reports nothing itself. -/
theorem reportedUsage_of_reported_eq_nil {last : String} {after : List String}
    (h : reported (last :: after) = []) : reportedUsage last = none := by
  by_cases hdone : last = "[DONE]"
  · rw [hdone, reportedUsage_done]
  · rw [reported, List.takeWhile_cons_of_pos (by simpa using hdone),
      List.filterMap_eq_nil_iff] at h
    exact h last List.mem_cons_self

/-- **When the last report is kept**: what is reported last from the end on must be the report of the
    payload that ends the stream; and if there is no such report, nothing may have been reported
    before. -/
theorem reportedUsage_eq_getLast?_iff {before after : List String} {last : String}
    (h : ∀ q ∈ before, ends q = false) :
    reportedUsage last = (reported (before ++ last :: after)).getLast? ↔
      reportedUsage last = (reported (last :: after)).getLast? ∧
        (reportedUsage last = none → reported before = []) := by
  rw [reported_append h]
  cases hrest : reported (last :: after) with
  | nil =>
    -- then the payload reports nothing either, also if it says that the stream is done
    rw [reportedUsage_of_reported_eq_nil hrest, List.append_nil, eq_comm, List.getLast?_eq_none_iff]
    exact ⟨fun hnil => ⟨rfl, fun _ => hnil⟩, fun h => h.2 rfl⟩
  | cons u us =>
    have hne : u :: us ≠ [] := List.cons_ne_nil u us
    rw [List.getLast?_eq_some_getLast (List.append_ne_nil_of_right_ne_nil _ hne),
      List.getLast_append_of_ne_nil _ hne, List.getLast?_eq_some_getLast hne]
    exact ⟨fun heq => ⟨heq, fun hnone => by simp [heq] at hnone⟩, fun h => h.1⟩

/-- **The report behind the usage of a stream**: that of the payload that ends it. -/
def endReport (payloads : List String) : Option Counts := (payloads.find? ends).bind report

theorem endReport_append {before after : List String} {last : String}
    (hbefore : ∀ q ∈ before, ends q = false) (hlast : ends last = true) :
    endReport (before ++ last :: after) = report last := by
  have hnone : before.find? ends = none := List.find?_eq_none.2 (by simpa using hbefore)
  rw [endReport, List.find?_append, hnone, Option.none_or, List.find?_cons_of_pos hlast]
  rfl

/-! ## 2. Payloads that are written -/

section

variable (choices : List Choice) (report? : Option Counts)

theorem tight_payloadJson : Tight (payloadJson choices report?).text := tight_object _

theorem payloadJson_ne_done : ((payloadJson choices report?).text == "[DONE]") = false := by
  have htext : (payloadJson choices report?).text.toList = (payloadJson choices report?).chars :=
    String.toList_ofList
  obtain ⟨s, hs⟩ := Json.exists_chars_object
    [("choices", .array (choices.map Choice.toJson)), ("usage", Json.orNull Counts.toJson report?)]
  rw [beq_eq_false_iff_ne]
  intro heq
  have hhead := htext.trans hs
  rw [heq] at hhead
  simp at hhead

theorem read_payloadJson :
    payloadRecord.shape.ofWhole (Reader.stringItems (payloadJson choices report?).text) =
      .ok (choices, report?.map Counts.usage) := by
  rw [payloadRecord_alike.ofWhole, payload_written]
  rfl

theorem report_payloadJson : report (payloadJson choices report?).text = report? := by
  rw [report, payload_written]
  rfl

theorem ends_payloadJson :
    ends (payloadJson choices report?).text = (choices.head?.bind Choice.finishReason).isSome := by
  rw [ends, payloadJson_ne_done, finishReason?, read_payloadJson]
  cases choices <;> rfl

theorem chunk?_payloadJson (choice : Choice) :
    chunk? (payloadJson (choice :: choices) report?).text =
      if choice.finishReason.isSome then
        some (.last (choice.content.getD "") (report?.map Counts.usage))
      else if (choice.content.getD "").isEmpty then none
      else some (.delta (choice.content.getD "")) := by
  rw [chunk?, payloadJson_ne_done, if_neg Bool.false_ne_true, read_payloadJson]
  rfl

theorem reported_payloadJson (ps : List String) :
    reported ((payloadJson choices report?).text :: ps) =
      (report?.map Counts.usage).toList ++ reported ps := by
  have hne : (payloadJson choices report?).text ≠ "[DONE]" :=
    beq_eq_false_iff_ne.1 (payloadJson_ne_done choices report?)
  rw [reported, List.takeWhile_cons_of_pos (by simpa using hne), List.filterMap_cons,
    reportedUsage, read_payloadJson]
  cases report? <;> rfl

end

/-- The body of an answer. -/
def answerBody (content : String) (report? : Option Counts) : List UInt8 :=
  Utf8.encode (answerJson content report?).text

theorem answerReport_answerBody (content : String) (report? : Option Counts) :
    answerReport (answerBody content report?) = report? := by
  rw [answerReport, answerBody, answer_written]
  rfl

theorem reply_answerBody (model content : String) (report? : Option Counts) :
    OpenAi.reply model (answerBody content report?) =
      .ok ⟨content, model, name, (report?.map Counts.usage).getD .zero, "stop"⟩ := by
  rw [OpenAi.reply, answerBody, answerRecord_alike.ofWhole, answer_written]
  rfl

/-- The body of a streamed answer. -/
def streamBody (payloads : List String) : List UInt8 :=
  Utf8.encode (String.join (payloads.map dataLine))

theorem payloads_streamBody {ps : List String} (h : ∀ q ∈ ps, Tight q) :
    payloads (streamBody ps) = ps := payloads_dataLines h

end OpenAi

/-! ## 3. What is delivered -/

namespace Remote

open OpenAi (answerReport endReport ends reported reportedUsage)

section

variable {r : Remote} {pieces : List (List UInt8)} {ending : Ending}
  (hreceives : r.Receives pieces ending) {p : Params}

include hreceives

/-- There is no answer unless the body comes to its end. -/
theorem reply_of_generate {reply : Reply} (h : (r.generate p).outcome = .ok reply) :
    r.vendor.reply p.model pieces.flatten = .ok reply := by
  cases ending with
  | complete => rwa [generate_of_receives hreceives p] at h
  | dropped =>
    rw [generate, send_of_receives hreceives p false] at h
    cases h
  | timedOut =>
    rw [generate, send_of_receives hreceives p false] at h
    cases h

theorem items_of_stream {items : List Item} (h : (r.stream p).outcome = .ok items) :
    items = itemsOf r.vendor.name r.vendor.label ending
      (r.vendor.chunksIn pieces.flatten) := by
  rw [stream_of_receives hreceives, readStream_eq] at h
  exact (Except.ok.inj h).symm

/-- **Where the last chunk of an OpenAI stream comes from**: the first payload of the body that ends
    the stream. -/
theorem exists_end_of_stream (hvendor : r.vendor = .openAi) {items : List Item} {content : String}
    {usage : Option Usage} (h : (r.stream p).outcome = .ok items)
    (hlast : .chunk (.last content usage) ∈ items) :
    ∃ before last after, payloads pieces.flatten = before ++ last :: after ∧
      (∀ q ∈ before, ends q = false) ∧ ends last = true ∧ usage = reportedUsage last := by
  rw [items_of_stream hreceives h, hvendor] at hlast
  change _ ∈ itemsOf _ _ ending (chunksOf OpenAi.readPayload ⟨0, 0⟩ (payloads pieces.flatten)) at hlast
  rw [OpenAi.chunksOf_readPayload] at hlast
  exact OpenAi.exists_end_of_last_mem hlast

end

/-- **What comes of an answer that is written.** -/
theorem generate_answerBody (content : String) (report? : Option OpenAi.Counts) (p : Params) :
    ((answeredIn [OpenAi.answerBody content report?]).generate p).outcome =
      .ok ⟨content, p.model, OpenAi.name, (report?.map OpenAi.Counts.usage).getD .zero, "stop"⟩ := by
  rw [generate_of_receives (receives_answeredIn _) p, List.flatten_singleton]
  exact OpenAi.reply_answerBody p.model content report?

/-- **What comes of a stream that is written.** -/
theorem stream_streamBody {ps : List String} (h : ∀ q ∈ ps, Tight q) (p : Params) :
    ((answeredIn [OpenAi.streamBody ps]).stream p).outcome =
      .ok (itemsOf OpenAi.name OpenAi.label .complete (ps.filterMap OpenAi.chunk?)) := by
  have hpayloads : payloads [OpenAi.streamBody ps].flatten = ps := by
    rw [List.flatten_singleton, OpenAi.payloads_streamBody h]
  rw [stream_of_receives (receives_answeredIn _) p, readStream_eq]
  show Except.ok (itemsOf _ _ _ (chunksOf OpenAi.readPayload _ _)) = _
  rw [hpayloads, OpenAi.chunksOf_readPayload]
  rfl

/-- **When a usage adds up.** A usage that is delivered, with a whole answer or at the end of a stream,
    adds up if it is one of Anthropic's. One of OpenAI's does exactly if the report behind it is
    balanced, what the report leaves out being zero, or if there is no report. -/
theorem usage_addsUp_iff {r : Remote} {pieces : List (List UInt8)} {ending : Ending}
    (hreceives : r.Receives pieces ending) (p : Params) :
    (∀ reply, (r.generate p).outcome = .ok reply →
      (reply.usage.AddsUp ↔
        (r.vendor = .openAi → ∀ c ∈ answerReport pieces.flatten, c.Balanced))) ∧
    ∀ items content u, (r.stream p).outcome = .ok items → .chunk (.last content (some u)) ∈ items →
      (u.AddsUp ↔
        (r.vendor = .openAi → ∀ c ∈ endReport (payloads pieces.flatten), c.Balanced)) := by
  constructor
  · intro reply h
    have hreply := reply_of_generate hreceives h
    cases hvendor : r.vendor with
    | anthropic =>
      rw [hvendor] at hreply
      exact iff_of_true (Anthropic.addsUp_of_reply hreply) nofun
    | openAi =>
      rw [hvendor] at hreply
      rw [OpenAi.usage_of_reply hreply, OpenAi.addsUp_usage_iff]
      exact ⟨fun hall _ => hall, fun hall => hall rfl⟩
  · intro items content u h hlast
    cases hvendor : r.vendor with
    | anthropic =>
      rw [items_of_stream hreceives h, hvendor] at hlast
      obtain ⟨t, payload, -, hread⟩ := exists_payload_of_mem_chunksOf (mem_of_chunk_mem_itemsOf hlast)
      exact iff_of_true (Anthropic.addsUp_of_readPayload hread) nofun
    | openAi =>
      obtain ⟨before, last, after, hpayloads, hbefore, hends, husage⟩ :=
        exists_end_of_stream hreceives hvendor h hlast
      have hadds : u.AddsUp ↔ ∀ c ∈ OpenAi.report last, c.Balanced := by
        rw [← OpenAi.addsUp_usage_iff, ← OpenAi.reportedUsage_eq, ← husage, Option.getD_some]
      rw [hpayloads, OpenAi.endReport_append hbefore hends, hadds]
      exact ⟨fun hall _ => hall, fun hall => hall rfl⟩

/-- A report that is balanced. -/
def eleven : OpenAi.Counts := ⟨some 7, some 4, some 11⟩

/-- A payload that ends a stream, with a report or without one. -/
def closing (report? : Option OpenAi.Counts) : String :=
  (OpenAi.payloadJson [⟨none, some "stop"⟩] report?).text

theorem chunk?_closing (report? : Option OpenAi.Counts) :
    OpenAi.chunk? (closing report?) = some (.last "" (report?.map OpenAi.Counts.usage)) :=
  OpenAi.chunk?_payloadJson _ _ _

theorem tight_closing (report? : Option OpenAi.Counts) : ∀ q ∈ [closing report?], Tight q :=
  List.forall_mem_singleton.2 (OpenAi.tight_payloadJson _ _)

theorem stream_closing (report? : Option OpenAi.Counts) :
    ((answeredIn [OpenAi.streamBody [closing report?]]).stream coffee).outcome =
      .ok [.chunk (.last "" (report?.map OpenAi.Counts.usage))] := by
  rw [stream_streamBody (tight_closing report?), List.filterMap_cons, chunk?_closing]
  rfl

theorem endReport_closing (report? : Option OpenAi.Counts) :
    endReport (payloads (OpenAi.streamBody [closing report?])) = report? := by
  have hends : ends (closing report?) = true := OpenAi.ends_payloadJson _ _
  rw [OpenAi.payloads_streamBody (tight_closing report?), ← List.nil_append [closing _],
    OpenAi.endReport_append (List.forall_mem_nil _) hends, closing, OpenAi.report_payloadJson]

theorem usage_addsUp_of_eleven : ∃ reply items,
    ((answeredIn [OpenAi.answerBody "Hi" (some eleven)]).generate coffee).outcome = .ok reply ∧
      reply.usage.AddsUp ∧
      ((answeredIn [OpenAi.streamBody [closing (some eleven)]]).stream coffee).outcome = .ok items ∧
      .chunk (.last "" (some eleven.usage)) ∈ items ∧ eleven.usage.AddsUp := by
  have hreply := generate_answerBody "Hi" (some eleven) coffee
  have hitems := stream_closing (some eleven)
  have hbalanced : eleven.Balanced := by decide
  refine ⟨_, _, hreply, ?_, hitems, List.mem_singleton_self _, ?_⟩
  · refine ((usage_addsUp_iff (receives_answeredIn _) coffee).1 _ hreply).2 fun _ c hc => ?_
    rw [List.flatten_singleton, OpenAi.answerReport_answerBody] at hc
    rwa [← Option.some.inj hc]
  · refine ((usage_addsUp_iff (receives_answeredIn _) coffee).2 _ _ _ hitems
      (List.mem_singleton_self _)).2 fun _ c hc => ?_
    rw [List.flatten_singleton, endReport_closing] at hc
    rwa [← Option.some.inj hc]

/-- A total that is wrong is passed on, and one that is left out is zero. -/
theorem unbalanced_report_delivered : ∃ reply items,
    ((answeredIn [OpenAi.answerBody "Hi" (some ⟨some 7, some 4, some 9⟩)]).generate coffee).outcome =
        .ok reply ∧ ¬ reply.usage.AddsUp ∧
      ((answeredIn [OpenAi.streamBody [closing (some ⟨some 7, some 4, none⟩)]]).stream
        coffee).outcome = .ok items ∧
      .chunk (.last "" (some ⟨7, 4, 0⟩)) ∈ items ∧ ¬ (⟨7, 4, 0⟩ : Usage).AddsUp :=
  ⟨_, _, generate_answerBody "Hi" (some ⟨some 7, some 4, some 9⟩) coffee, by decide,
    stream_closing (some ⟨some 7, some 4, none⟩), List.mem_singleton_self _, by decide⟩

/-- **When a stream keeps the usage it is told.** The last chunk of an OpenAI stream has the usage in
    the payload that ends the stream. That is what has been reported last exactly if nothing else is
    reported last from that payload on and, in case it reports nothing, nothing before it. -/
theorem usage_kept_iff {r : Remote} {pieces : List (List UInt8)} {ending : Ending}
    (hreceives : r.Receives pieces ending) (hvendor : r.vendor = .openAi) {p : Params}
    {items : List Item} {content : String} {usage : Option Usage}
    (h : (r.stream p).outcome = .ok items) (hlast : .chunk (.last content usage) ∈ items) :
    ∃ before last after, payloads pieces.flatten = before ++ last :: after ∧
      (∀ q ∈ before, ends q = false) ∧ ends last = true ∧ usage = reportedUsage last ∧
      (usage = (reported (payloads pieces.flatten)).getLast? ↔
        usage = (reported (last :: after)).getLast? ∧ (usage = none → reported before = [])) := by
  obtain ⟨before, last, after, hpayloads, hbefore, hends, rfl⟩ :=
    exists_end_of_stream hreceives hvendor h hlast
  refine ⟨before, last, after, hpayloads, hbefore, hends, rfl, ?_⟩
  rw [hpayloads]
  exact OpenAi.reportedUsage_eq_getLast?_iff hbefore

/-- A payload that adds to an answer, with a report or without one. -/
def saying (report? : Option OpenAi.Counts) : String :=
  (OpenAi.payloadJson [⟨some "Hi", none⟩] report?).text

theorem chunk?_saying (report? : Option OpenAi.Counts) :
    OpenAi.chunk? (saying report?) = some (.delta "Hi") :=
  OpenAi.chunk?_payloadJson _ _ _

/-- A payload that only reports. -/
def reporting (c : OpenAi.Counts) : String := (OpenAi.payloadJson [] (some c)).text

theorem tight_done : Tight "[DONE]" where
  oneLine := by decide
  head := ⟨'[', _, rfl, by decide⟩
  last := ⟨']', "[DONE".toList, rfl, by decide⟩

/-- A stream with its report where it ends. -/
def timely : List String := [saying none, closing (some eleven), "[DONE]"]

/-- A stream with its report in a payload of its own, behind the one with the finish reason. -/
def late : List String := [saying none, closing none, reporting eleven, "[DONE]"]

/-- A stream with its report in a payload with text, before the end. -/
def early : List String := [saying (some eleven), "[DONE]"]

theorem tight_of_mem {ps : List String} (h : ps ∈ [timely, late, early]) : ∀ q ∈ ps, Tight q := by
  have htight : ∀ ps ∈ [timely, late, early], ∀ q ∈ ps, Tight q := by
    simp [timely, late, early, saying, closing, reporting, OpenAi.tight_payloadJson, tight_done]
  exact htight ps h

/-- Each of the streams tells of eleven tokens. -/
theorem reported_of_mem {ps : List String} (h : ps ∈ [timely, late, early]) :
    reported (payloads (OpenAi.streamBody ps)) = [eleven.usage] := by
  have hreported : ∀ ps ∈ [timely, late, early], reported ps = [eleven.usage] := by
    simp [timely, late, early, saying, closing, reporting, OpenAi.reported_payloadJson,
      OpenAi.reported_done]
  rw [OpenAi.payloads_streamBody (tight_of_mem h), hreported ps h]

theorem stream_timely : ((answeredIn [OpenAi.streamBody timely]).stream coffee).outcome =
    .ok [.chunk (.delta "Hi"), .chunk (.last "" (some eleven.usage))] := by
  rw [stream_streamBody (tight_of_mem (by simp))]
  simp [timely, chunk?_saying, chunk?_closing, itemsOf, Chunk.isLast]

theorem usage_kept_of_timely : ∃ before last after,
    payloads (OpenAi.streamBody timely) = before ++ last :: after ∧ ends last = true ∧
      some eleven.usage = reportedUsage last ∧
      some eleven.usage = (reported (last :: after)).getLast? := by
  obtain ⟨before, last, after, hpayloads, -, hends, husage, hkept⟩ :=
    usage_kept_iff (receives_answeredIn _) rfl stream_timely
      (List.mem_cons_of_mem _ (List.mem_singleton_self _))
  rw [List.flatten_singleton] at hpayloads
  rw [List.flatten_singleton, reported_of_mem (by simp)] at hkept
  exact ⟨before, last, after, hpayloads, hends, husage, (hkept.1 rfl).1⟩

/-- A report that comes behind the payload that ends the stream is lost, and so is one before it. -/
theorem untimely_report_lost :
    (((answeredIn [OpenAi.streamBody late]).stream coffee).outcome =
        .ok [.chunk (.delta "Hi"), .chunk (.last "" none)] ∧
      reported (payloads (OpenAi.streamBody late)) = [eleven.usage]) ∧
    ((answeredIn [OpenAi.streamBody early]).stream coffee).outcome =
        .ok [.chunk (.delta "Hi"), .chunk (.last "" none)] ∧
      reported (payloads (OpenAi.streamBody early)) = [eleven.usage] := by
  refine ⟨⟨?_, reported_of_mem (by simp)⟩, ?_, reported_of_mem (by simp)⟩
  · rw [stream_streamBody (tight_of_mem (by simp))]
    simp [late, chunk?_saying, chunk?_closing, itemsOf, Chunk.isLast]
  · rw [stream_streamBody (tight_of_mem (by simp))]
    simp [early, chunk?_saying, OpenAi.chunk?_done, itemsOf, Chunk.isLast]

end Remote

end Gatehouse.Provider

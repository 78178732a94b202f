import Gatehouse.Proofs.Provider.Lines
import Gatehouse.Provider.Remote

/-!
# The stream in a body

The body of a streamed answer comes in pieces. What is made of it does not depend on where it was cut.

* `chunksOf` are the chunks that payloads stand for, and `Vendor.chunksIn` those of a whole body;
* `Yields` says which stream chunks make: it ends with the first last chunk, and without one as the
  body does;
* `pump_eq`: the pieces of a body are read like the whole body;
* `stream_of_body`: for every body there is one stream that every call gets for it, whatever the
  pieces.
-/

namespace Gatehouse.Provider

open Gatehouse.Generation (Chunk Params)
open Gatehouse.Provider.EventStream

/-! ## 1. Chunks -/

/-- **The chunks that payloads stand for**, each read with the counts collected before it. -/
def chunksOf (read : PayloadReader) : Tally → List String → List Chunk
  | _, [] => []
  | t, p :: ps => (read t p).2.toList ++ chunksOf read (read t p).1 ps

/-- The counts after payloads. -/
def tallyAfter (read : PayloadReader) (t : Tally) (ps : List String) : Tally :=
  ps.foldl (fun t p => (read t p).1) t

/-- The chunks that the complete lines of a body stand for. -/
def Vendor.chunksIn (vendor : Vendor) (body : List UInt8) : List Chunk :=
  chunksOf vendor.readPayload ⟨0, 0⟩ (payloads body)

theorem chunksOf_append (read : PayloadReader) (t : Tally) (ps qs : List String) :
    chunksOf read t (ps ++ qs) = chunksOf read t ps ++ chunksOf read (tallyAfter read t ps) qs := by
  induction ps generalizing t with
  | nil => rfl
  | cons p ps ih => simp only [List.cons_append, chunksOf, ih, List.append_assoc, tallyAfter,
      List.foldl_cons]

/-- **What a stream yields** if the body holds the chunks and ends like this. -/
inductive Yields (provider label : String) (chunks : List Chunk) : Ending → List Item → Prop where
  /-- Nothing follows the first last chunk, however the body ends. -/
  | finished {before after : List Chunk} {last : Chunk} (ending : Ending) :
      chunks = before ++ last :: after → (∀ c ∈ before, c.isLast = false) → last.isLast = true →
      Yields provider label chunks ending ((before ++ [last]).map .chunk)
  /-- The body comes to its end without a last chunk, and so does the stream. -/
  | complete : (∀ c ∈ chunks, c.isLast = false) →
      Yields provider label chunks .complete (chunks.map .chunk)
  /-- The connection drops before a last chunk: one failure follows. -/
  | dropped : (∀ c ∈ chunks, c.isLast = false) →
      Yields provider label chunks .dropped (chunks.map .chunk ++ [.failed (.notSent provider label)])
  /-- The time is up before a last chunk: another failure follows. -/
  | timedOut : (∀ c ∈ chunks, c.isLast = false) →
      Yields provider label chunks .timedOut (chunks.map .chunk ++ [.failed (.timedOut provider label)])

/-! ## 2. Streams as functions of their chunks -/

section

variable (provider label : String) (ending : Ending)

/-- The stream that chunks make. -/
def itemsOf : List Chunk → List Item
  | [] => afterBody provider label ending
  | c :: cs => .chunk c :: if c.isLast then [] else itemsOf cs

variable {provider label ending}

theorem Yields.cons {c : Chunk} {cs : List Chunk} {items : List Item} (hc : c.isLast = false)
    (h : Yields provider label cs ending items) : Yields provider label (c :: cs) ending (.chunk c :: items) := by
  cases h with
  | @finished before after last _ hcs hbefore hlast =>
    have hcs' : c :: cs = (c :: before) ++ last :: after := congrArg (c :: ·) hcs
    exact .finished ending hcs' (List.forall_mem_cons.2 ⟨hc, hbefore⟩) hlast
  | complete hcs => exact .complete (List.forall_mem_cons.2 ⟨hc, hcs⟩)
  | dropped hcs => exact .dropped (List.forall_mem_cons.2 ⟨hc, hcs⟩)
  | timedOut hcs => exact .timedOut (List.forall_mem_cons.2 ⟨hc, hcs⟩)

variable (provider label ending)

theorem yields_itemsOf (cs : List Chunk) : Yields provider label cs ending (itemsOf provider label ending cs) := by
  induction cs with
  | nil =>
    cases ending with
    | complete => exact .complete (by simp)
    | dropped => exact .dropped (by simp)
    | timedOut => exact .timedOut (by simp)
  | cons c cs ih =>
    rw [itemsOf]
    cases hc : c.isLast with
    | true => exact .finished ending (List.nil_append _).symm (by simp) hc
    | false => exact ih.cons hc

/-! ## 3. Pieces -/

variable (read : PayloadReader)

/-- What reading some of the payloads leaves for the rest: nothing after a last chunk, and otherwise
    the counts after them. -/
theorem readPayloads_spec (done : List Chunk) (t : Tally) (ps : List String) (cs : List Chunk) :
    done.reverse.map .chunk ++ itemsOf provider label ending (chunksOf read t ps ++ cs) =
        (readPayloads read done t ps).1.map .chunk ++
          (if (readPayloads read done t ps).2.1 then [] else itemsOf provider label ending cs) ∧
      ((readPayloads read done t ps).2.1 = false →
        (readPayloads read done t ps).2.2 = tallyAfter read t ps) := by
  induction ps generalizing done t with
  | nil => exact ⟨rfl, fun _ => rfl⟩
  | cons p ps ih =>
    rw [readPayloads, chunksOf]
    cases hp : read t p with
    | mk t' chunk? =>
      have htally : tallyAfter read t (p :: ps) = tallyAfter read t' ps := by
        rw [tallyAfter, List.foldl_cons, hp]
        rfl
      cases chunk? with
      | none =>
        rw [htally]
        exact ih done t'
      | some c =>
        cases hc : c.isLast with
        | true => simp [hc, itemsOf]
        | false =>
          rw [htally]
          simpa [hc, itemsOf] using ih (c :: done) t'

variable {provider label ending}

/-- **The pieces of a body are read like the whole body.** -/
theorem pump_eq {d : Decoder} (h : lineFeed ∉ d.held) (t : Tally) (pieces : List (List UInt8)) :
    pump read provider label ending d t pieces =
      itemsOf provider label ending (chunksOf read t (payloads (d.held ++ pieces.flatten))) := by
  induction pieces generalizing d t with
  | nil =>
    rw [List.flatten_nil, List.append_nil, payloads_of_not_mem h]
    rfl
  | cons piece pieces ih =>
    have hheld : lineFeed ∉ (d.feed piece).2.held := by
      rw [d.held_feed h]
      exact lineFeed_not_mem_unfinished _
    have hpayloads : payloads (d.held ++ (piece :: pieces).flatten) =
        (d.feed piece).1 ++ payloads ((d.feed piece).2.held ++ pieces.flatten) := by
      rw [List.flatten_cons, ← List.append_assoc, payloads_append, ← d.held_feed h,
        ← d.payloads_feed h]
    obtain ⟨hitems, htally⟩ := readPayloads_spec provider label ending read [] t (d.feed piece).1
      (chunksOf read (tallyAfter read t (d.feed piece).1)
        (payloads ((d.feed piece).2.held ++ pieces.flatten)))
    rw [hpayloads, chunksOf_append]
    refine Eq.trans ?_ hitems.symm
    rw [pump]
    cases hfinished : (readPayloads read [] t (d.feed piece).1).2.1 with
    | true => simp [hfinished]
    | false => simp [hfinished, ih hheld, htally hfinished]

end

/-! ## 4. Calls -/

namespace Remote

/-- **A call gets through, and a body comes back for it**, in these pieces and ending like this, after
    whatever redirections. -/
structure Receives (r : Remote) (pieces : List (List UInt8)) (ending : Ending) : Prop where
  configured : r.isConfigured = true
  opened : r.isClosed = false
  legal : Http.Header.isLegal r.key = true
  answered : ∃ status, (r.line.exchange maxHops).delivery = .answered status pieces ending ∧
    200 ≤ status ∧ status < 300

theorem send_of_receives {r : Remote} {pieces : List (List UInt8)} {ending : Ending}
    (h : r.Receives pieces ending) (p : Params) (streamed : Bool) :
    (r.send p streamed).outcome = .ok (pieces, ending) := by
  obtain ⟨status, hdelivery, hstatus⟩ := h.answered
  have hkey : r.key.isEmpty = false := by simpa [isConfigured] using h.configured
  simp [send, hkey, h.opened, h.legal, hdelivery, accept, hstatus]

/-- A whole answer is read from the whole body. -/
theorem generate_of_receives {r : Remote} {pieces : List (List UInt8)}
    (h : r.Receives pieces .complete) (p : Params) :
    (r.generate p).outcome = r.vendor.reply p.model pieces.flatten := by
  rw [generate, send_of_receives h p false]
  rfl

theorem stream_of_receives {r : Remote} {pieces : List (List UInt8)} {ending : Ending}
    (h : r.Receives pieces ending) (p : Params) :
    (r.stream p).outcome = .ok (readStream r.vendor (pieces, ending)) := by
  rw [stream, send_of_receives h p true]
  rfl

theorem readStream_eq (vendor : Vendor) (pieces : List (List UInt8)) (ending : Ending) :
    readStream vendor (pieces, ending) =
      itemsOf vendor.name vendor.label ending (vendor.chunksIn pieces.flatten) :=
  pump_eq vendor.readPayload List.not_mem_nil ⟨0, 0⟩ pieces

/-- **The stream in a body does not depend on how it was cut.** For every body and ending there is one
    stream, and every call for which the body comes back gets that, in whatever pieces it comes. -/
theorem stream_of_body (vendor : Vendor) (body : List UInt8) (ending : Ending) :
    ∃ items, Yields vendor.name vendor.label (vendor.chunksIn body) ending items ∧
      ∀ (r : Remote) (p : Params) (pieces : List (List UInt8)), r.vendor = vendor →
        r.Receives pieces ending → pieces.flatten = body → (r.stream p).outcome = .ok items := by
  refine ⟨_, yields_itemsOf _ _ ending _, ?_⟩
  rintro r p pieces rfl hreceives rfl
  rw [stream_of_receives hreceives, readStream_eq]

/-- A provider with a key, for which a body in these pieces comes back. -/
def answeredIn (pieces : List (List UInt8)) : Remote :=
  .ofSettings .openAi { Settings.blank with apiKey := "key" } ⟨[.answered 200 pieces .complete]⟩

theorem receives_answeredIn (pieces : List (List UInt8)) :
    (answeredIn pieces).Receives pieces .complete where
  configured := show (!(Text.trim "key").isEmpty) = true by decide
  opened := rfl
  legal := show Http.Header.isLegal (Text.trim "key") = true by decide
  answered := ⟨200, rfl, by decide, by decide⟩

/-- The bytes with the values of the characters. -/
def latin (text : String) : List UInt8 := text.toList.map (fun c => UInt8.ofNat c.toNat)

/-- A body that is cut inside a letter of two bytes and inside the end of a line, with an empty piece,
    and with more lines behind its last chunk. -/
def accented : List (List UInt8) :=
  [latin "data: \x7b\"choices\":[\x7b\"delta\":\x7b\"content\":\"caf\xC3", [],
    latin "\xA9\"\x7d\x7d]\x7d\r", latin "\nda", latin "ta: [DONE]\ndata: more\n"]

/-- What is asked for does not matter. -/
def coffee : Params := ⟨"Where?", "model", Generation.Request.defaultTemperature, 16, none⟩

theorem stream_of_accented : ∃ items,
    ((answeredIn accented).stream coffee).outcome = .ok items ∧
      ((answeredIn [accented.flatten]).stream coffee).outcome = .ok items ∧
      items = [.chunk (.delta "café"), .chunk (.last "" none)] := by
  obtain ⟨items, -, hall⟩ := stream_of_body .openAi accented.flatten .complete
  have hcut := hall _ coffee accented rfl (receives_answeredIn accented) rfl
  have hwhole := hall _ coffee [accented.flatten] rfl (receives_answeredIn _) (List.append_nil _)
  refine ⟨items, hcut, hwhole, ?_⟩
  rw [stream_of_receives (receives_answeredIn accented) coffee] at hcut
  rw [← Except.ok.inj hcut]
  decide +kernel

end Remote

end Gatehouse.Provider

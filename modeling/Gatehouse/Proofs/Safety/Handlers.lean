import Gatehouse.Proofs.Safety.Markup
import Gatehouse.Proofs.Safety.Pipeline

/-!
# Tags with an event handler

A `HandlerTag` is a tag with attributes in double quotes, the last of which is an event handler. The
rule for event handlers takes a tag to end at the first closing bracket, also where that bracket
stands inside the quotes of an attribute.

* `StaysOpen`: the last angle bracket in front of the handler is an opening one;
* `HandlerTag.flags_around_iff`: a text with such a tag in it is flagged if the tag stays open, and
  otherwise only for what stands in front of the handler or from the handler on;
* `flagged_handlerTag_iff`: for which tags no surrounding text hides the handler;
* `handler_behind_bracket`: a tag of which the handler is not seen.
-/

namespace Gatehouse.Safety

open Gatehouse.Text
open Gatehouse.Pattern
open PersonalData (reads_boundary_before_word)

namespace Firewall

/-! ## 1. Rules for generated text only look at what they read -/

theorem eventHandler_inner : eventHandler.Inner := by
  intro b b' w a a' h
  obtain ⟨gap, name, rfl, hgap, hb, hname⟩ := reads_eventHandler_iff.1 h
  have hletter := letter_at_start_of_handlerName hname
  obtain ⟨-, hgapEnd⟩ := (reads_boundary_before_word (word_of_letter (hletter a))).1 hb
  have hboundary : boundary.Reads (lastOf (some '<') gap) [] (name ++ a') :=
    (reads_boundary_before_word (word_of_letter (hletter a'))).2 ⟨rfl, hgapEnd⟩
  have hfree : handlerName.isFree = true := by decide +kernel
  exact reads_eventHandler_iff.2 ⟨gap, name, rfl, hgap, hboundary, hname.of_isFree hfree _ _⟩

theorem inner_of_mem {p : Pattern} (hp : p ∈ outputRules) : p.Inner := by
  rcases isPlain_or_eq_eventHandler hp with hplain | rfl
  · exact inner_of_isFree (isPlain_iff.1 hplain).1
  · exact eventHandler_inner

/-- No rule but the one for event handlers reads a double quote. -/
theorem avoids_quote_or_eq_eventHandler {p : Pattern} (hp : p ∈ outputRules) :
    p.avoids '"' = true ∨ p = eventHandler := by
  simp only [outputRules, List.mem_cons, List.not_mem_nil, or_false] at hp
  rcases hp with rfl | rfl | rfl | rfl | rfl | rfl | rfl
  · exact .inl (by decide +kernel)
  · exact .inl (by decide +kernel)
  · exact .inr rfl
  · exact .inl (by decide +kernel)
  · exact .inl (by decide +kernel)
  · exact .inl (by decide +kernel)
  · exact .inl (by decide +kernel)

/-- An event handler that is read has no closing bracket in it. -/
theorem close_not_mem_of_reads_eventHandler {b : Option Char} {w a : List Char}
    (h : eventHandler.Reads b w a) : ∃ v, w = '<' :: v ∧ '>' ∉ v := by
  obtain ⟨gap, name, rfl, hgap, -, hname⟩ := reads_eventHandler_iff.1 h
  have hname' : '>' ∉ name := hname.not_mem (by decide +kernel)
  refine ⟨gap ++ name, rfl, ?_⟩
  rw [List.mem_append, not_or]
  exact ⟨hgap, hname'⟩

/-- **The firewall flags the text**, as generated text. -/
def Flags (text : String) : Prop := reason? .output text ≠ none

theorem flags_iff {text : String} :
    Flags text ↔ ∃ p ∈ outputRules, p.occursIn text.toList = true := reason?_ne_none_iff

theorem flags_of_part {text : String} (h : Flags text) (before after : String) :
    Flags (before ++ text ++ after) := by
  obtain ⟨p, hp, hocc⟩ := flags_iff.1 h
  refine flags_iff.2 ⟨p, hp, ?_⟩
  rw [String.toList_append, String.toList_append]
  exact (inner_of_mem hp).occursIn_of_part hocc _ _

end Firewall

open Firewall

/-! ## 2. Tags -/

/-- May the character stand in the name of a tag? These are the visible ASCII characters that have no
    part in the syntax of tags. -/
def isTagNameChar (c : Char) : Bool :=
  0x21 ≤ c.toNat && c.toNat < 0x7F && !(['"', '\x27', '<', '>', '/', '='].contains c)

/-- May the character stand in the name of an attribute? -/
def isAttributeNameChar (c : Char) : Bool :=
  !isBlank c && !(['"', '\x27', '>', '/', '='].contains c)

/-- An attribute with its value in double quotes. -/
structure Attribute where
  name : String
  value : String
  isName : name ≠ "" ∧ name.toList.all isAttributeNameChar = true
  isValue : '"' ∉ value.toList

/-- The attribute as it stands in a tag. -/
def Attribute.text (a : Attribute) : String := " " ++ a.name ++ "=\"" ++ a.value ++ "\""

/-- A tag whose last attribute is an event handler: a name that begins with `on` and goes on with the
    letters of the event. -/
structure HandlerTag where
  name : String
  attributes : List Attribute
  event : String
  code : String
  isName : name ≠ "" ∧ name.toList.all isTagNameChar = true
  isEvent : event ≠ "" ∧ event.toList.all isAsciiLetter = true
  isCode : '"' ∉ code.toList

namespace HandlerTag

/-- The tag up to the blank in front of the handler. -/
def head (t : HandlerTag) : String :=
  "<" ++ t.name ++ String.join (t.attributes.map Attribute.text)

/-- The tag from the blank in front of the handler on. -/
def tail (t : HandlerTag) : String := " on" ++ t.event ++ "=\"" ++ t.code ++ "\">"

/-- The tag. -/
def text (t : HandlerTag) : String := t.head ++ t.tail

/-- **The last angle bracket in front of the handler opens.** -/
def StaysOpen (t : HandlerTag) : Prop := ∃ u v, t.head.toList = u ++ '<' :: v ∧ '>' ∉ v

theorem toList_head (t : HandlerTag) : t.head.toList =
    '<' :: (t.name.toList ++ t.attributes.flatMap (fun a => a.text.toList)) := by
  simp [head, List.flatMap_map]

theorem toList_tail (t : HandlerTag) : t.tail.toList =
    ' ' :: ('o' :: 'n' :: t.event.toList ++ ['=']) ++ '"' :: (t.code.toList ++ ['"', '>']) := by
  simp [tail]

theorem close_not_mem_name (t : HandlerTag) : '>' ∉ t.name.toList := by
  intro h
  exact absurd (List.all_eq_true.1 t.isName.2 _ h) (by decide)

/-- A closing bracket can only stand in the value of an attribute. -/
theorem close_not_mem_attribute {a : Attribute} (h : '>' ∉ a.value.toList) :
    '>' ∉ a.text.toList := by
  have hname : '>' ∉ a.name.toList :=
    fun hm => absurd (List.all_eq_true.1 a.isName.2 _ hm) (by decide)
  simp [Attribute.text, hname, h]

/-- **A tag stays open if no value in front of the handler has a closing bracket.** -/
theorem staysOpen_of_values {t : HandlerTag} (h : ∀ a ∈ t.attributes, '>' ∉ a.value.toList) :
    t.StaysOpen := by
  refine ⟨[], _, t.toList_head, ?_⟩
  rw [List.mem_append, List.mem_flatMap, not_or]
  refine ⟨t.close_not_mem_name, ?_⟩
  intro hm
  obtain ⟨a, ha, hclose⟩ := hm
  exact close_not_mem_attribute (h a ha) hclose

/-- A tag that does not stay open has attributes, so that its head ends with a quote. -/
theorem head_of_not_staysOpen {t : HandlerTag} (h : ¬ t.StaysOpen) :
    ∃ u, t.head.toList = u ++ ['"'] := by
  rcases List.eq_nil_or_concat t.attributes with hnil | ⟨as, a, has⟩
  · have hopen : t.StaysOpen := by
      refine staysOpen_of_values ?_
      rw [hnil]
      simp
    exact absurd hopen h
  · rw [toList_head, has]
    refine ⟨'<' :: (t.name.toList ++ (as.flatMap (fun a => a.text.toList) ++
      (" " ++ a.name ++ "=\"" ++ a.value).toList)), ?_⟩
    simp [Attribute.text]

/-! ## 3. What is flagged -/

/-- The handler is read from any opening bracket that no closing one follows. -/
theorem reads_handler (t : HandlerTag) {v : List Char} (hv : '>' ∉ v) (b : Option Char)
    (a : List Char) : eventHandler.Reads b
      ('<' :: ((v ++ [' ']) ++ ('o' :: 'n' :: t.event.toList ++ ['=']))) a := by
  have hletters : ∀ x ∈ t.event.toList, isWord x = true :=
    fun x hx => isWord_of_isAsciiLetter (List.all_eq_true.1 t.isEvent.2 x hx)
  have hne : t.event.toList ≠ [] := by simpa using t.isEvent.1
  have hlen : 1 ≤ t.event.toList.length := List.length_pos_iff.2 hne
  refine reads_eventHandler_iff.2 ⟨v ++ [' '], _, rfl, by simpa using hv, ?_, ?_⟩
  · refine (reads_boundary_before_word (by rfl)).2 ⟨rfl, ?_⟩
    rw [lastOf_concat]
    decide
  · have hblanks {b : Option Char} {a : List Char} : optionalBlanks.Reads b [] a :=
      reads_many.2 ⟨Nat.le_refl 0, by simp⟩
    exact ⟨['o', 'n'], t.event.toList ++ ['='], rfl, reads_word.2 (by rfl), t.event.toList, ['='],
      rfl, reads_many.2 ⟨hlen, hletters⟩, [], ['='], rfl, hblanks, ['='], [], rfl,
      reads_word.2 (by rfl), rfl⟩

theorem flags_of_staysOpen {t : HandlerTag} (h : t.StaysOpen) : Flags t.text := by
  obtain ⟨u, v, hhead, hv⟩ := h
  refine flags_iff.2 ⟨eventHandler, by simp [outputRules], ?_⟩
  have hocc := eventHandler_inner.occursIn_of_reads (t.reads_handler hv none []) u
    ('"' :: (t.code.toList ++ ['"', '>']))
  rw [text, String.toList_append, hhead, toList_tail]
  simpa using hocc

/-- A rule that reads across the end of the head has found the tag open. -/
theorem staysOpen_of_reads_across {t : HandlerTag} {p : Pattern} (hp : p ∈ outputRules)
    {before : String} {l u v : List Char} (hl : (before ++ t.head).toList = l ++ u) (hu : u ≠ [])
    (hr : p.Reads none (u ++ v) []) : t.StaysOpen := by
  by_contra hopen
  rw [String.toList_append] at hl
  rcases avoids_quote_or_eq_eventHandler hp with hquote | rfl
  · -- the head ends with a quote
    obtain ⟨h, hhead⟩ := head_of_not_staysOpen hopen
    have hlast : u.getLast hu = '"' := by
      have hends : (l ++ u).getLast? = some '"' := by
        rw [← hl, hhead, ← List.append_assoc, List.getLast?_concat]
      rw [List.getLast?_append_of_ne_nil l hu, List.getLast?_eq_some_getLast hu] at hends
      exact Option.some.inj hends
    have hmem : '"' ∈ u ++ v := List.mem_append_left v (hlast ▸ List.getLast_mem hu)
    exact hr.not_mem hquote hmem
  · obtain ⟨w, hw, hclose⟩ := close_not_mem_of_reads_eventHandler hr
    cases u with
    | nil => exact hu rfl
    | cons x u =>
      obtain ⟨rfl, rfl⟩ := List.cons.inj hw
      have hu' : '>' ∉ u := fun hm => hclose (List.mem_append_left v hm)
      rcases List.append_eq_append_iff.1 hl with ⟨h, -, hhead⟩ | ⟨b, -, hb⟩
      · exact hopen ⟨h, u, hhead, hu'⟩
      · -- the bracket stands in front of the tag, which then has no closing one
        rw [toList_head] at hb
        refine hopen ⟨[], _, t.toList_head, fun hm => ?_⟩
        cases b with
        | nil =>
          obtain ⟨-, rfl⟩ := List.cons.inj hb
          exact hu' hm
        | cons y b =>
          obtain ⟨-, rfl⟩ := List.cons.inj hb
          exact hu' (List.mem_append_right b (List.mem_cons_of_mem _ hm))

/-- **When a text with the tag in it is flagged**: if the tag stays open, or for what stands in front of
    the handler, or for what stands from the handler on. -/
theorem flags_around_iff (t : HandlerTag) (before after : String) :
    Flags (before ++ t.text ++ after) ↔
      t.StaysOpen ∨ Flags (before ++ t.head) ∨ Flags (t.tail ++ after) := by
  have hsplit : before ++ t.text ++ after = (before ++ t.head) ++ (t.tail ++ after) := by
    simp [text, String.append_assoc]
  by_cases hopen : t.StaysOpen
  · have hflags := flags_of_part (flags_of_staysOpen hopen) before after
    exact iff_of_true hflags (.inl hopen)
  · rw [hsplit]
    constructor
    · intro h
      obtain ⟨p, hp, hocc⟩ := flags_iff.1 h
      rw [String.toList_append, (inner_of_mem hp).occursIn_append_iff] at hocc
      rcases hocc with hocc | hocc | ⟨l, u, v, a, hl, -, hu, -, hr⟩
      · exact .inr (.inl (flags_iff.2 ⟨p, hp, hocc⟩))
      · exact .inr (.inr (flags_iff.2 ⟨p, hp, hocc⟩))
      · exact absurd (staysOpen_of_reads_across hp hl hu hr) hopen
    · intro h
      rcases h with h | h | h
      · exact absurd h hopen
      · have hflags := flags_of_part h "" (t.tail ++ after)
        simpa using hflags
      · have hflags := flags_of_part h (before ++ t.head) ""
        simpa using hflags

end HandlerTag

/-- The verdict of every standard pipeline on a text that the firewall flags, and on no other. -/
theorem checkOutput_eq_markup_iff (level : Level) (text : String) :
    (Pipeline.standard level).checkOutput text =
      .block .xss Firewall.hitConfidence (Firewall.reason .output) ↔ Flags text := by
  have hcheck := Pipeline.checkOutput_standard level text
  constructor
  · intro h hclean
    rw [Firewall.check_eq_allowed_iff.2 hclean] at hcheck
    rcases PersonalData.check_output_cases text with hp | ⟨f, hp⟩
    · rw [hp] at hcheck
      rcases level.check_cases text with hc | ⟨f, hc⟩
      · rw [hc] at hcheck
        cases hcheck.symm.trans h
      · have hcategory := Level.category_of_check hc
        rw [hc] at hcheck
        have heq := hcheck.symm.trans h
        rw [Verdict.blocked.inj heq] at hcategory
        cases hcategory
    · rw [hp] at hcheck
      cases hcheck.symm.trans h
  · intro h
    have hhit : Firewall.reason? .output text = some (Firewall.reason .output) := by
      unfold Flags Firewall.reason? at h
      unfold Firewall.reason?
      split at h
      · rename_i hhits
        rw [if_pos hhits]
      · exact absurd rfl h
    have hverdict : Firewall.check .output text =
        .block .xss Firewall.hitConfidence (Firewall.reason .output) := by
      unfold Firewall.check
      rw [hhit]
      rfl
    rw [hverdict] at hcheck
    exact hcheck

/-- **Which tags with an event handler are flagged.** A text with the tag in it is flagged if the last
    angle bracket in front of the handler opens, as it does if no attribute value has a closing
    bracket in it; otherwise it is flagged only for what stands in front of the handler or from the
    handler on. So a tag is flagged whatever surrounds it exactly if it stays open or one of its two
    parts is flagged alone. What is flagged is rejected by the pipeline of every level. -/
theorem flagged_handlerTag_iff (t : HandlerTag) :
    (∀ before after, Flags (before ++ t.text ++ after) ↔
      t.StaysOpen ∨ Flags (before ++ t.head) ∨ Flags (t.tail ++ after)) ∧
    ((∀ before after, Flags (before ++ t.text ++ after)) ↔
      t.StaysOpen ∨ Flags t.head ∨ Flags t.tail) ∧
    ((∀ a ∈ t.attributes, '>' ∉ a.value.toList) → t.StaysOpen) ∧
    ∀ level text, (Pipeline.standard level).checkOutput text =
      .block .xss Firewall.hitConfidence (Firewall.reason .output) ↔ Flags text := by
  have hflags := t.flags_around_iff
  refine ⟨hflags, ?_, HandlerTag.staysOpen_of_values, checkOutput_eq_markup_iff⟩
  constructor
  · intro h
    have hbare := (hflags "" "").1 (h "" "")
    simpa using hbare
  · intro h before after
    refine (hflags before after).2 ?_
    rcases h with h | h | h
    · exact .inl h
    · have hpart := flags_of_part h before ""
      exact .inr (.inl (by simpa using hpart))
    · have hpart := flags_of_part h "" after
      exact .inr (.inr (by simpa using hpart))

/-- A tag with a handler behind two other attributes. -/
def openTagWithHandler : HandlerTag where
  name := "img"
  attributes := [⟨"src", "x", by decide, by decide⟩, ⟨"alt", "a < b", by decide, by decide⟩]
  event := "error"
  code := "alert(1)"
  isName := by decide
  isEvent := by decide
  isCode := by decide

theorem flagged_openTagWithHandler :
    openTagWithHandler.text = "<img src=\"x\" alt=\"a < b\" onerror=\"alert(1)\">" ∧
      Flags ("See " ++ openTagWithHandler.text ++ " there") := by
  obtain ⟨-, haround, hvalues, -⟩ := flagged_handlerTag_iff openTagWithHandler
  have hopen : openTagWithHandler.StaysOpen := hvalues (by decide)
  exact ⟨by decide, haround.2 (.inl hopen) "See " " there"⟩

/-- A tag with a closing bracket in the quotes in front of the handler. -/
def shutTagWithHandler : HandlerTag where
  name := "img"
  attributes := [⟨"alt", ">", by decide, by decide⟩]
  event := "error"
  code := "alert(1)"
  isName := by decide
  isEvent := by decide
  isCode := by decide

/-- **A handler behind a closing bracket in quotes is not seen**, at any level. -/
theorem handler_behind_bracket :
    shutTagWithHandler.text = "<img alt=\">\" onerror=\"alert(1)\">" ∧
      Firewall.reason? .output shutTagWithHandler.text = none ∧
      ∀ level, (Pipeline.standard level).checkOutput shutTagWithHandler.text = .allowed := by
  refine ⟨by decide, by decide +kernel, fun level => ?_⟩
  cases level <;> decide +kernel

end Gatehouse.Safety

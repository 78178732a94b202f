import Gatehouse.Proofs.Json.Printable
import Gatehouse.Proofs.Provider.Lines

/-!
# Texts as lines of data

A text that is put on a line of data comes back as it is, if it is `Tight`: it has no end of a line,
and no blanks at its ends. Every JSON object is (`tight_object`).

* `dataLine` is the line for a text, with the blank line behind it;
* `payloads_dataLines`: the payloads of lines of data are the texts they were made of, in order.
-/

namespace Gatehouse.Provider.EventStream

open Gatehouse.Text
open Gatehouse.Json (Value Printable printable_chars exists_chars_object)

/-- A text on a line of data, and a blank line. -/
def dataLine (t : String) : String := "data: " ++ t ++ "\n\n"

/-- **The text fits on a line of data**: it is one line, and there are no blanks at its ends. -/
structure Tight (t : String) : Prop where
  oneLine : '\n' ∉ t.toList
  head : ∃ c s, t.toList = c :: s ∧ isBlank c = false
  last : ∃ c s, t.toList = s ++ [c] ∧ isBlank c = false

theorem tight_object (ms : List (String × Value)) : Tight (Value.object ms).text := by
  have htext : (Value.object ms).text.toList = (Value.object ms).chars := String.toList_ofList
  obtain ⟨s, hs⟩ := exists_chars_object ms
  constructor
  · intro hmem
    rw [htext] at hmem
    exact absurd (printable_chars _ _ hmem) (by decide)
  · exact ⟨'\x7b', _, htext.trans hs, by decide⟩
  · exact ⟨'\x7d', '\x7b' :: s, htext.trans hs, by decide⟩

theorem trimChars_eq_self {s t : List Char} {c d : Char} (hhead : s = c :: t)
    (hc : isBlank c = false) (hlast : ∃ t, s = t ++ [d]) (hd : isBlank d = false) :
    trimChars s = s := by
  have hleft : trimLeftChars s = s := by
    rw [hhead, trimLeftChars, List.dropWhile_cons_of_neg (by rw [hc]; exact Bool.false_ne_true)]
  obtain ⟨t, ht⟩ := hlast
  rw [trimChars, hleft, trimRightChars, ht, List.reverse_append, List.reverse_singleton,
    List.singleton_append, List.dropWhile_cons_of_neg (by rw [hd]; exact Bool.false_ne_true),
    List.reverse_cons, List.reverse_reverse]

/-- **The data of a line is the text it was made of.** -/
theorem payload?_dataLine {t : String} (h : Tight t) :
    payload? (Utf8.encode ("data: " ++ t)) = some t := by
  have hline : ("data: " ++ t).toList = 'd' :: ('a' :: 't' :: 'a' :: ':' :: ' ' :: t.toList) :=
    String.toList_append
  obtain ⟨d, s, hlast, hd⟩ := h.last
  have htrim : trimChars ("data: " ++ t).toList = ("data: " ++ t).toList := by
    refine trimChars_eq_self hline (by decide) ⟨"data: ".toList ++ s, ?_⟩ hd
    rw [String.toList_append, hlast, List.append_assoc]
  have hleft : trimLeftChars (' ' :: t.toList) = t.toList := by
    obtain ⟨c, s, hs, hc⟩ := h.head
    rw [trimLeftChars, List.dropWhile_cons_of_pos (by decide), hs,
      List.dropWhile_cons_of_neg (by rw [hc]; exact Bool.false_ne_true)]
  have hbehind : behind ['d', 'a', 't', 'a', ':'] ("data: " ++ t).toList =
      some (' ' :: t.toList) := by
    rw [hline]
    rfl
  rw [payload?, Utf8.decodeLossy_encode, htrim, hbehind, Option.map_some, hleft,
    String.ofList_toList]

theorem payload?_nil : payload? [] = none := rfl

theorem encode_lineFeeds : Utf8.encode "\n\n" = [lineFeed, lineFeed] := rfl

/-- **The payloads of lines of data are the texts they were made of**, in order. -/
theorem payloads_dataLines {ts : List String} (h : ∀ t ∈ ts, Tight t) :
    payloads (Utf8.encode (String.join (ts.map dataLine))) = ts := by
  rw [Utf8.encode_join]
  induction ts with
  | nil => rfl
  | cons t ts ih =>
    obtain ⟨ht, hts⟩ := List.forall_mem_cons.1 h
    have hline : lineFeed ∉ Utf8.encode ("data: " ++ t) := by
      refine Utf8.not_mem_encode (by decide) ?_
      rw [String.toList_append, List.mem_append, not_or]
      exact ⟨by decide, ht.oneLine⟩
    have hcut : (List.map dataLine (t :: ts)).flatMap Utf8.encode =
        Utf8.encode ("data: " ++ t) ++ lineFeed :: ([] ++ lineFeed ::
          (ts.map dataLine).flatMap Utf8.encode) := by
      rw [List.map_cons, List.flatMap_cons, dataLine, Utf8.encode_append, encode_lineFeeds]
      simp
    rw [hcut, payloads, completeLines_line hline, completeLines_line List.not_mem_nil,
      List.filterMap_cons, payload?_dataLine ht, List.filterMap_cons, payload?_nil]
    exact congrArg (t :: ·) (ih hts)

end Gatehouse.Provider.EventStream
